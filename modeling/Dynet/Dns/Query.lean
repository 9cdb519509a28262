import Dynet.Dns.Resolve
import Dynet.Lib.Text
import Dynet.Lib.Utf8

/-! Reading a packet ends on every input, and the query that is built for a domain is read
back as that domain. -/
namespace Dynet.Dns
open Dynet.Runtime Dynet.Lib.Text Dynet.Lib.Utf8 Dynet.Lib.Checks

/-! The readers once more with the end of their loops in the result: `none` is a loop that
has not ended within its rounds, and `some none` a packet that is refused. Every access
of the source goes through `get` and every sum is checked, so nothing there panics. -/
section Rounds

abbrev Rounds := OptionT Option

def ended {α : Type} (result : Option α) : Rounds α := OptionT.mk (some result)

theorem ended_some_bind {α β : Type} (value : α) (next : α → Rounds β) : (ended (some value) >>= next) = next value := rfl

theorem ended_bind {α β : Type} (first : Option α) (next : α → Option β) :
    (ended first >>= fun value => ended (next value)) = ended (first >>= next) := by
  cases first <;> rfl

variable (packet : Bytes)

def nameLoopRounds : Nat → Nat → List String → Option Nat → Nat → Rounds (String × Nat)
  | 0,_,_,_,_ => OptionT.mk none
  | rounds+1,cursor,labels,nextOffset,jumps => do
    let length ← ended packet[cursor]?
    if length &&& 0xc0 = 0xc0 then
      let next ← ended packet[cursor + 1]?
      let pointer := (length &&& 0x3f).toNat * 256 + next.toNat
      if jumps + 1 > 8 then ended none
      else nameLoopRounds rounds pointer labels (some (nextOffset.getD (cursor + 2))) (jumps + 1)
    else if length = 0 then ended (some (".".intercalate labels,nextOffset.getD (cursor + 1)))
    else
      let label ← ended (slice packet (cursor + 1) (cursor + 1 + length.toNat))
      let text ← ended (fromUtf8 label)
      nameLoopRounds rounds (cursor + 1 + length.toNat) (labels ++ [asciiLowercase text]) nextOffset jumps

variable (rounds : Nat)

def nameRounds (offset : Nat) : Rounds (String × Nat) := nameLoopRounds packet rounds offset [] none 0

def queryRounds : Rounds DnsQueryInfo := do
  let transactionId ← ended (transactionId packet)
  let qdcount ← ended (u16At packet 4)
  if qdcount = 0 then ended none
  else
    let (queryName,offset) ← nameRounds packet rounds 12
    let qtype ← ended (u16At packet offset)
    ended (some ⟨transactionId,queryName,qtypeLabel qtype⟩)

def questionsRounds : Nat → Nat → Option (String × String) → Rounds (Option (String × String) × Nat)
  | 0,offset,question => ended (some (question,offset))
  | count+1,offset,question => do
    let (name,offset) ← nameRounds packet rounds offset
    let qtype ← ended (u16At packet offset)
    questionsRounds count (offset + 4) (some (question.getD (name,qtypeLabel qtype)))

def answersRounds : Nat → Nat → List IpAddr → Rounds (List IpAddr)
  | 0,_,answerIps => ended (some answerIps)
  | count+1,offset,answerIps => do
    let (_,offset) ← nameRounds packet rounds offset
    let answerType ← ended (u16At packet offset)
    let dataLen ← ended (u16At packet (offset + 8))
    let data ← ended (slice packet (offset + 10) (offset + 10 + dataLen))
    answersRounds count (offset + 10 + dataLen) (answerIps ++ (answerIp answerType data).toList)

def responseRounds : Rounds DnsResponseInfo := do
  let transactionId ← ended (transactionId packet)
  let qdcount ← ended (u16At packet 4)
  let ancount ← ended (u16At packet 6)
  let (question,offset) ← questionsRounds packet rounds qdcount 12 none
  let answerIps ← answersRounds packet rounds ancount offset []
  ended (some ⟨transactionId,question.map (·.1),question.map (·.2),answerIps⟩)

end Rounds

section Ends
variable {packet : Bytes}

-- The lexicographic measure: jumps that are left, then bytes behind the cursor.
theorem nameLoopRounds_eq (rounds cursor jumps : Nat) (labels : List String) (nextOffset : Option Nat) (few : jumps ≤ 8)
    (enough : (8 - jumps) * (packet.length + 1) + (packet.length - cursor) < rounds) :
    nameLoopRounds packet rounds cursor labels nextOffset jumps =
      ended (readNameLoop packet rounds cursor labels nextOffset jumps) := by
  induction rounds generalizing cursor labels nextOffset jumps with
  | zero => omega
  | succ rounds ih =>
    rw [nameLoopRounds,readNameLoop]
    cases here : packet[cursor]? with
    | none => rfl
    | some length =>
      have inside : cursor < packet.length := (List.getElem?_eq_some_iff.mp here).1
      simp only [Option.bind_eq_bind,Option.bind_some,ended_some_bind]
      split
      · cases packet[cursor + 1]? with
        | none => rfl
        | some next =>
          simp only [Option.bind_some,ended_some_bind]
          split
          · rfl
          · refine ih _ _ _ _ (by omega) ?_
            have round : (8 - jumps) * (packet.length + 1) =
                (8 - (jumps + 1)) * (packet.length + 1) + (packet.length + 1) := by
              rw [← Nat.succ_mul]
              congr 1
              omega
            omega
      · split
        · rfl
        · cases slice packet (cursor + 1) (cursor + 1 + length.toNat) with
          | none => rfl
          | some label =>
            simp only [Option.bind_some,ended_some_bind,fromUtf8]
            cases String.fromUTF8? ⟨label.toArray⟩ with
            | none => rfl
            | some text => exact ih _ _ _ _ few (by omega)

variable {rounds : Nat} (enough : 9 * (packet.length + 1) ≤ rounds)
include enough

theorem nameRounds_eq (offset : Nat) : nameRounds packet rounds offset = ended (readName packet offset) := by
  obtain ⟨extra,rfl⟩ := Nat.exists_eq_add_of_le enough
  rw [nameRounds,nameLoopRounds_eq _ _ _ _ _ (by omega) (by omega),readName_fuel]

theorem queryRounds_eq : queryRounds packet rounds = ended (sniffDnsQuery packet) := by
  rw [queryRounds,sniffDnsQuery]
  simp only [nameRounds_eq enough,← ended_bind]
  congr 1
  funext transactionId
  congr 1
  funext qdcount
  split
  · rfl
  · simp only [← ended_bind]
    rfl

theorem questionsRounds_eq (count offset : Nat) (question : Option (String × String)) :
    questionsRounds packet rounds count offset question = ended (readQuestions packet count offset question) := by
  induction count generalizing offset question with
  | zero => rfl
  | succ count ih =>
    rw [questionsRounds,readQuestions]
    simp only [nameRounds_eq enough,ih,ended_bind]

theorem answersRounds_eq (count offset : Nat) (answerIps : List IpAddr) :
    answersRounds packet rounds count offset answerIps = ended (readAnswers packet count offset answerIps) := by
  induction count generalizing offset answerIps with
  | zero => rfl
  | succ count ih =>
    rw [answersRounds,readAnswers]
    simp only [nameRounds_eq enough,ih,ended_bind]

theorem responseRounds_eq : responseRounds packet rounds = ended (sniffDnsResponse packet) := by
  rw [responseRounds,sniffDnsResponse]
  simp only [questionsRounds_eq enough,answersRounds_eq enough,ended_bind]
  rfl

end Ends

def beU16 (n : Nat) : Bytes := [UInt8.ofNat (n / 256),UInt8.ofNat n]

def trimEndDots (domain : String) : String := String.ofList (domain.toList.rdropWhile (· = '.'))

/-- The labels of a name, each behind its length. -/
def labelBytes (domain : String) : List String → Except DnsResolveError Bytes
  | [] => .ok []
  | label::labels =>
    if asBytes label = [] ∨ (asBytes label).length > 63 then .error ⟨s!"invalid DNS label in {domain}"⟩
    else do
      let rest ← labelBytes domain labels
      return UInt8.ofNat (asBytes label).length::(asBytes label ++ rest)

def buildAQuery (unixMs : Nat) (domain : String) : Except DnsResolveError Bytes :=
  let domain := trimEndDots domain
  if domain = "" then .error ⟨"domain is empty"⟩
  else do
    let name ← labelBytes domain (split '.' domain)
    return beU16 (unixMs &&& 0xffff) ++ beU16 0x0100 ++ beU16 1 ++ beU16 0 ++ beU16 0 ++ beU16 0 ++ name ++ [0] ++
      beU16 qtypeA ++ beU16 1

section RoundTrip

theorem slice_split (front inside rest : Bytes) {start stop : Nat} (first : start = front.length)
    (last : stop = front.length + inside.length) : slice (front ++ (inside ++ rest)) start stop = some inside := by
  subst first last
  have within : front.length + inside.length ≤ (front ++ (inside ++ rest)).length := by
    rw [List.length_append,List.length_append]
    omega
  rw [slice,if_pos within,List.drop_left,Nat.add_sub_cancel_left,List.take_left]

theorem small_not_pointer {length : UInt8} (small : length.toNat < 64) : length &&& 0xc0 ≠ 0xc0 := by
  intro same
  have numbers := congrArg UInt8.toNat same
  have below : length.toNat &&& 0xc0 ≤ length.toNat := Nat.and_le_left
  rw [UInt8.toNat_and] at numbers
  have value : (0xc0 : UInt8).toNat = 0xc0 := rfl
  rw [value] at numbers
  omega

theorem labelBytes_length {domain : String} {labels : List String} {name : Bytes} (encoded : labelBytes domain labels = .ok name) :
    labels.length ≤ name.length := by
  induction labels generalizing name with
  | nil => exact Nat.zero_le _
  | cons label labels ih =>
    rw [labelBytes] at encoded
    split at encoded
    · cases encoded
    · obtain ⟨others,remaining,done⟩ := (bind_ok_iff _ _ _).mp encoded
      cases done
      have more := ih remaining
      simp only [List.length_cons,List.length_append]
      omega

/-- The labels that stand at the cursor are read one by one. -/
theorem readNameLoop_labels {domain : String} {labels : List String} {name : Bytes} (encoded : labelBytes domain labels = .ok name)
    (front rest : Bytes) (seen : List String) (nextOffset : Option Nat) (jumps extra : Nat) :
    readNameLoop (front ++ (name ++ 0::rest)) (labels.length + 1 + extra) front.length seen nextOffset jumps =
      some (".".intercalate (seen ++ labels.map asciiLowercase),nextOffset.getD (front.length + name.length + 1)) := by
  induction labels generalizing front seen name with
  | nil =>
    cases encoded
    have here : (front ++ ([] ++ 0::rest))[front.length]? = some 0 := by simp
    rw [List.length_nil,Nat.zero_add,Nat.add_comm,readNameLoop,here]
    simp
  | cons label labels ih =>
    rw [labelBytes] at encoded
    split at encoded
    · cases encoded
    · rename_i sized
      obtain ⟨filled,short⟩ := not_or.mp sized
      obtain ⟨others,remaining,done⟩ := (bind_ok_iff _ _ _).mp encoded
      cases done
      have positive : 0 < (asBytes label).length := List.length_pos_iff.mpr filled
      have size : (UInt8.ofNat (asBytes label).length).toNat = (asBytes label).length := by
        rw [UInt8.toNat_ofNat']
        omega
      have text : fromUtf8 (asBytes label) = some label := (fromUtf8_eq_some_iff _ _).mpr rfl
      generalize UInt8.ofNat (asBytes label).length = length at size
      generalize asBytes label = bytes at filled short positive size text
      have plain := @small_not_pointer length (by omega)
      have nonzero : length ≠ 0 := by
        rintro rfl
        rw [← size] at positive
        exact absurd positive (by decide)
      have whole : front ++ (length::(bytes ++ others) ++ 0::rest) =
          (front ++ [length]) ++ (bytes ++ (others ++ 0::rest)) := by simp
      have moved : front ++ (length::(bytes ++ others) ++ 0::rest) = (front ++ length::bytes) ++ (others ++ 0::rest) := by simp
      have here : (front ++ (length::(bytes ++ others) ++ 0::rest))[front.length]? = some length := by simp
      have labelled : slice (front ++ (length::(bytes ++ others) ++ 0::rest)) (front.length + 1)
          (front.length + 1 + length.toNat) = some bytes := by
        rw [whole]
        exact slice_split _ bytes _ (by simp) (by simp [size])
      have after : front.length + 1 + length.toNat = (front ++ length::bytes).length := by
        simp only [List.length_append,List.length_cons,size]
        omega
      have rounds : (label::labels).length + 1 + extra = (labels.length + 1 + extra) + 1 := by
        rw [List.length_cons]
        omega
      have next := ih remaining (front ++ length::bytes) (seen ++ [asciiLowercase label])
      rw [← moved,← after] at next
      rw [rounds,readNameLoop,here,Option.bind_eq_bind,Option.bind_some,if_neg plain,if_neg nonzero,labelled]
      have decoded : String.fromUTF8? ⟨bytes.toArray⟩ = some label := text
      simp only [Option.bind_eq_bind,Option.bind_some,decoded,next]
      simp only [List.append_assoc,List.map_cons,List.singleton_append,List.length_cons,List.length_append]
      congr 3
      omega

theorem asciiLowercase_split (domain : String) :
    ".".intercalate ((split '.' domain).map asciiLowercase) = asciiLowercase domain := by
  have lowered (pieces : List (List Char)) : ['.'].intercalate (pieces.map (·.map Char.toLower)) =
      (['.'].intercalate pieces).map Char.toLower := by
    induction pieces with
    | nil => rfl
    | cons first rest ih =>
      cases rest with
      | nil => simp
      | cons second rest =>
        rw [List.map_cons,List.map_cons,List.intercalate_cons_cons,List.intercalate_cons_cons,← List.map_cons,ih]
        simp
  rw [← String.toList_inj,String.toList_intercalate,asciiLowercase,String.toList_ofList,split,List.map_map,List.map_map]
  have pieces : (domain.toList.splitOn '.').map ((String.toList ∘ asciiLowercase) ∘ String.ofList) =
      (domain.toList.splitOn '.').map (·.map Char.toLower) :=
    List.map_congr_left fun piece _ => by simp [asciiLowercase]
  rw [pieces,String.toList_ofList]
  exact (lowered _).trans (by rw [List.intercalate_splitOn])

theorem u16At_split (front rest : Bytes) {n offset : Nat} (small : n < 65536) (located : offset = front.length) :
    u16At (front ++ (beU16 n ++ rest)) offset = some n := by
  have two : (beU16 n).length = 2 := rfl
  have value : fromBe (beU16 n) = n := by
    have high := UInt8.toNat_ofNat' (n := n / 256)
    have low := UInt8.toNat_ofNat' (n := n)
    simp only [fromBe,beU16,List.foldl_cons,List.foldl_nil,high,low]
    omega
  rw [u16At,slice_split front (beU16 n) rest located (by rw [two,located]),Option.map_some,value]

theorem sniffDnsQuery_built {unixMs : Nat} {domain : String} {query : Bytes} (built : buildAQuery unixMs domain = .ok query) :
    sniffDnsQuery query = some ⟨unixMs &&& 0xffff,asciiLowercase (trimEndDots domain),"A"⟩ := by
  unfold buildAQuery at built
  dsimp only at built
  split at built
  · cases built
  · obtain ⟨name,encoded,done⟩ := (bind_ok_iff _ _ _).mp built
    cases done
    have low : unixMs &&& 0xffff < 65536 := Nat.lt_of_le_of_lt Nat.and_le_right (by decide)
    generalize unixMs &&& 0xffff = id at low
    obtain ⟨header,same⟩ : ∃ header, beU16 id ++ beU16 0x0100 ++ beU16 1 ++ beU16 0 ++ beU16 0 ++ beU16 0 = header := ⟨_,rfl⟩
    have fixed : header.length = 12 := by rw [← same]; rfl
    rw [same]
    have known : transactionId (header ++ name ++ [0] ++ beU16 qtypeA ++ beU16 1) = some id := by
      simp only [← same,List.append_assoc]
      exact u16At_split [] _ low rfl
    have one : u16At (header ++ name ++ [0] ++ beU16 qtypeA ++ beU16 1) 4 = some 1 := by
      simp only [← same,List.append_assoc]
      rw [← List.append_assoc (beU16 id)]
      exact u16At_split (beU16 id ++ beU16 0x0100) _ (by decide) rfl
    have type : u16At (header ++ name ++ [0] ++ beU16 qtypeA ++ beU16 1) (12 + name.length + 1) = some qtypeA := by
      rw [List.append_assoc _ (beU16 qtypeA)]
      refine u16At_split _ _ (by decide) ?_
      simp [fixed,Nat.add_assoc]
    have read : readName (header ++ name ++ [0] ++ beU16 qtypeA ++ beU16 1) 12 =
        some (asciiLowercase (trimEndDots domain),12 + name.length + 1) := by
      have whole : header ++ name ++ [0] ++ beU16 qtypeA ++ beU16 1 = header ++ (name ++ 0::(beU16 qtypeA ++ beU16 1)) := by simp
      have labels := labelBytes_length encoded
      have size : (header ++ (name ++ 0::(beU16 qtypeA ++ beU16 1))).length = 12 + (name.length + 5) := by
        rw [List.length_append,fixed,List.length_append]
        rfl
      obtain ⟨extra,rounds⟩ : ∃ extra, 9 * ((header ++ (name ++ 0::(beU16 qtypeA ++ beU16 1))).length + 1) =
          (split '.' (trimEndDots domain)).length + 1 + extra := Nat.exists_eq_add_of_le (by omega)
      have walk := readNameLoop_labels encoded header (beU16 qtypeA ++ beU16 1) [] none 0 extra
      rw [List.nil_append,asciiLowercase_split,← rounds,fixed] at walk
      rw [whole]
      exact walk
    rw [sniffDnsQuery,known]
    simp only [Option.bind_eq_bind,Option.bind_some,one,Nat.one_ne_zero,if_false,read,type]
    rfl

end RoundTrip

/-- Both readers end on every packet, with the result of the model whatever rounds beyond
the enough ones they are given; and a query built for a domain reads as the domain without
the dots at its end, in lower case, and type A. -/
theorem dns_wire :
    (∀ packet : Bytes, ∃ enough, ∀ rounds ≥ enough,
      (queryRounds packet rounds).run = some (sniffDnsQuery packet) ∧
      (responseRounds packet rounds).run = some (sniffDnsResponse packet)) ∧
    ∀ unixMs domain query, buildAQuery unixMs domain = .ok query →
      sniffDnsQuery query = some ⟨unixMs &&& 0xffff,asciiLowercase (trimEndDots domain),"A"⟩ := by
  constructor
  · intro packet
    refine ⟨9 * (packet.length + 1),fun rounds enough => ?_⟩
    rw [queryRounds_eq enough,responseRounds_eq enough]
    exact ⟨rfl,rfl⟩
  · intro unixMs domain query built
    exact sniffDnsQuery_built built

theorem example_query_built :
    ∃ query, buildAQuery 0x1234 "Example.COM." = .ok query ∧
      sniffDnsQuery query = some ⟨0x1234,asciiLowercase (trimEndDots "Example.COM."),"A"⟩ :=
  ⟨[0x12,0x34,1,0,0,1,0,0,0,0,0,0] ++ [7,69,120,97,109,112,108,101,3,67,79,77,0] ++ [0,1,0,1],by decide +kernel,
    dns_wire.2 0x1234 "Example.COM." _ (by decide +kernel)⟩

end Dynet.Dns
