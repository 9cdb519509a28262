import Dynet.Dns.Resolve
import Dynet.Lib.Utf8

/-! What the AAAA filter leaves of a response: the header without its counts and the
questions. The names of the questions were read from the whole packet, where a pointer
may lead into the counts or behind the questions. -/
namespace Dynet.Dns
open Dynet.Runtime Dynet.Lib.Utf8

/-- The byte at a place when the counts behind that of the questions are zero and the packet
ends where the questions do. -/
def remaining (packet : Bytes) (stop i : Nat) : Option UInt8 :=
  if i < stop then if 6 ≤ i ∧ i < 12 then some 0 else packet[i]? else none

/-- A name that ends within the remaining bytes, after as many jumps as it may still make. -/
inductive NameWithin (packet : Bytes) (stop : Nat) : Nat → Nat → Prop
  | root {cursor jumps : Nat} (zero : remaining packet stop cursor = some 0) : NameWithin packet stop cursor jumps
  | label {cursor jumps : Nat} {length : UInt8} {label : Bytes} {text : String}
      (first : remaining packet stop cursor = some length) (plain : length &&& 0xc0 ≠ 0xc0) (filled : length ≠ 0)
      (sized : label.length = length.toNat) (inside : ∀ i < label.length, remaining packet stop (cursor + 1 + i) = label[i]?)
      (utf8 : fromUtf8 label = some text) (rest : NameWithin packet stop (cursor + 1 + length.toNat) jumps) :
      NameWithin packet stop cursor jumps
  | pointer {cursor jumps : Nat} {high low : UInt8} (first : remaining packet stop cursor = some high)
      (marked : high &&& 0xc0 = 0xc0) (second : remaining packet stop (cursor + 1) = some low) (few : jumps < 8)
      (rest : NameWithin packet stop ((high &&& 0x3f).toNat * 256 + low.toNat) (jumps + 1)) :
      NameWithin packet stop cursor jumps

theorem not_nameWithin {packet : Bytes} {stop cursor jumps : Nat} (gone : remaining packet stop cursor = none) :
    ¬NameWithin packet stop cursor jumps := by
  intro name
  cases name with
  | root zero => rw [gone] at zero; cases zero
  | label first => rw [gone] at first; cases first
  | pointer first => rw [gone] at first; cases first

/-- The names of so many questions from a place on. -/
def QuestionsWithin (packet : Bytes) (stop : Nat) : Nat → Nat → Prop
  | 0, _ => True
  | count+1, offset => NameWithin packet stop offset 0 ∧
    ∀ name next, readName packet offset = some (name,next) → QuestionsWithin packet stop count (next + 4)

def cut (packet : Bytes) (stop : Nat) : Bytes := (packet.take 6 ++ List.replicate 6 0 ++ packet.drop 12).take stop

section Cut
variable {packet : Bytes} (long : 12 ≤ packet.length)
include long

theorem getElem?_cut (stop i : Nat) : (cut packet stop)[i]? = remaining packet stop i := by
  have six : (packet.take 6).length = 6 := by
    rw [List.length_take]
    omega
  rw [cut,remaining,List.getElem?_take]
  split
  · rw [List.append_assoc]
    obtain early | late := Nat.lt_or_ge i 6
    · rw [List.getElem?_append_left (by omega),if_neg (by omega),List.getElem?_take,if_pos early]
    · rw [List.getElem?_append_right (by omega),six]
      obtain count | body := Nat.lt_or_ge i 12
      · rw [if_pos ⟨late,count⟩,List.getElem?_append_left (by simp; omega),List.getElem?_replicate,if_pos (by omega)]
      · rw [if_neg (by omega),List.getElem?_append_right (by simp; omega),List.getElem?_drop]
        congr 1
        simp
        omega
  · rfl

theorem getElem?_cut_kept {stop i : Nat} (inside : i < stop) (kept : ¬(6 ≤ i ∧ i < 12)) : (cut packet stop)[i]? = packet[i]? := by
  rw [getElem?_cut long,remaining,if_pos inside,if_neg kept]

theorem cut_length {stop : Nat} (within : stop ≤ packet.length) : (cut packet stop).length = stop := by
  simp only [cut,List.length_take,List.length_append,List.length_replicate,List.length_drop]
  omega

end Cut

theorem slice_eq_some_iff (packet : Bytes) {start stop : Nat} (some_ : start < stop) (bytes : Bytes) :
    slice packet start stop = some bytes ↔
      bytes.length = stop - start ∧ ∀ i < bytes.length, packet[start + i]? = bytes[i]? := by
  rw [slice]
  constructor
  · intro taken
    split at taken
    · cases taken
      have sized : ((packet.drop start).take (stop - start)).length = stop - start := by
        rw [List.length_take,List.length_drop]
        omega
      refine ⟨sized,fun i inside => ?_⟩
      rw [List.getElem?_take,if_pos (by omega),List.getElem?_drop]
    · cases taken
  · rintro ⟨sized,same⟩
    have last := same (stop - start - 1) (by omega)
    have within : start + (stop - start - 1) < packet.length := by
      rw [List.getElem?_eq_getElem (by omega : stop - start - 1 < bytes.length)] at last
      exact (List.getElem?_eq_some_iff.mp last).1
    rw [if_pos (by omega),Option.some.injEq]
    refine List.ext_getElem? fun i => ?_
    obtain inside | outside := Nat.lt_or_ge i (stop - start)
    · rw [List.getElem?_take,if_pos inside,List.getElem?_drop,same i (by omega)]
    · rw [List.getElem?_eq_none (by rw [List.length_take]; omega),List.getElem?_eq_none (by omega)]

section Walk
variable {packet : Bytes} (long : 12 ≤ packet.length) (stop : Nat)
include long

/-- What a name within the remaining bytes begins with decides how it goes on. -/
theorem nameWithin_iff {cursor jumps : Nat} {length : UInt8} (here : remaining packet stop cursor = some length) :
    NameWithin packet stop cursor jumps ↔
      if length &&& 0xc0 = 0xc0 then
        ∃ low, remaining packet stop (cursor + 1) = some low ∧ jumps < 8 ∧
          NameWithin packet stop ((length &&& 0x3f).toNat * 256 + low.toNat) (jumps + 1)
      else if length = 0 then True
      else ∃ label text, slice (cut packet stop) (cursor + 1) (cursor + 1 + length.toNat) = some label ∧
        fromUtf8 label = some text ∧ NameWithin packet stop (cursor + 1 + length.toNat) jumps := by
  constructor
  · intro name
    cases name with
    | root zero =>
      obtain rfl : length = 0 := Option.some.inj (here.symm.trans zero)
      simp
    | @label _ _ other label text first plain filled sized inside utf8 rest =>
      obtain rfl : length = other := Option.some.inj (here.symm.trans first)
      have positive : 0 < length.toNat := Nat.pos_of_ne_zero fun zero => filled (UInt8.toNat_inj.mp zero)
      rw [if_neg plain,if_neg filled]
      refine ⟨label,text,(slice_eq_some_iff _ (by omega) _).mpr ⟨by omega,fun i small => ?_⟩,utf8,rest⟩
      rw [getElem?_cut long,inside i small]
    | @pointer _ _ high low first marked second few rest =>
      obtain rfl : length = high := Option.some.inj (here.symm.trans first)
      rw [if_pos marked]
      exact ⟨low,second,few,rest⟩
  · intro shape
    split at shape
    · rename_i marked
      obtain ⟨low,second,few,rest⟩ := shape
      exact .pointer here marked second few rest
    · rename_i plain
      split at shape
      · rename_i zero
        exact .root (zero ▸ here)
      · rename_i filled
        have positive : 0 < length.toNat := Nat.pos_of_ne_zero fun zero => filled (UInt8.toNat_inj.mp zero)
        obtain ⟨label,text,taken,utf8,rest⟩ := shape
        obtain ⟨sized,same⟩ := (slice_eq_some_iff _ (by omega) _).mp taken
        refine .label here plain filled (by omega) (fun i small => ?_) utf8 rest
        rw [← getElem?_cut long,same i small]

theorem readNameLoop_isSome_iff (rounds cursor jumps : Nat) (labels : List String) (nextOffset : Option Nat) (few : jumps ≤ 8)
    (enough : (8 - jumps) * ((cut packet stop).length + 1) + ((cut packet stop).length - cursor) < rounds) :
    (readNameLoop (cut packet stop) rounds cursor labels nextOffset jumps).isSome ↔ NameWithin packet stop cursor jumps := by
  induction rounds generalizing cursor labels nextOffset jumps with
  | zero => omega
  | succ rounds ih =>
    rw [readNameLoop]
    cases here : (cut packet stop)[cursor]? with
    | none =>
      rw [getElem?_cut long] at here
      simp [not_nameWithin here]
    | some length =>
      have inside : cursor < (cut packet stop).length := (List.getElem?_eq_some_iff.mp here).1
      rw [getElem?_cut long] at here
      rw [nameWithin_iff long stop here]
      simp only [Option.bind_eq_bind,Option.bind_some]
      split
      · rw [getElem?_cut long]
        cases remaining packet stop (cursor + 1) with
        | none => simp
        | some low =>
          simp only [Option.bind_some,Option.some.injEq,exists_eq_left']
          split
          · rename_i many
            simp
            omega
          · have round : (8 - jumps) * ((cut packet stop).length + 1) =
                (8 - (jumps + 1)) * ((cut packet stop).length + 1) + ((cut packet stop).length + 1) := by
              rw [← Nat.succ_mul]
              congr 1
              omega
            rw [ih _ _ _ _ (by omega) (by omega)]
            exact (and_iff_right (by omega)).symm
      · split
        · simp
        · cases slice (cut packet stop) (cursor + 1) (cursor + 1 + length.toNat) with
          | none => simp
          | some label =>
            simp only [Option.bind_some,fromUtf8,Option.some.injEq]
            cases utf8 : String.fromUTF8? ⟨label.toArray⟩ with
            | none => simp [utf8]
            | some text =>
              rw [Option.bind_some,ih _ _ _ _ few (by omega)]
              simp [utf8]

theorem readName_isSome_iff (offset : Nat) : (readName (cut packet stop) offset).isSome ↔ NameWithin packet stop offset 0 :=
  readNameLoop_isSome_iff long stop _ offset 0 [] none (by omega) (by omega)

end Walk

/-- Once a pointer was taken, the place behind it is where reading goes on. -/
theorem readNameLoop_jumped {packet : Bytes} {rounds cursor jumps place next : Nat} {labels : List String} {name : String}
    (read : readNameLoop packet rounds cursor labels (some place) jumps = some (name,next)) : next = place := by
  induction rounds generalizing cursor labels jumps with
  | zero => cases read
  | succ rounds ih =>
    rw [readNameLoop] at read
    obtain ⟨length,-,read⟩ := Option.bind_eq_some_iff.mp read
    split at read
    · obtain ⟨low,-,read⟩ := Option.bind_eq_some_iff.mp read
      split at read
      · cases read
      · exact ih read
    · split at read
      · cases read
        rfl
      · obtain ⟨label,-,read⟩ := Option.bind_eq_some_iff.mp read
        obtain ⟨text,-,read⟩ := Option.bind_eq_some_iff.mp read
        exact ih read

section Agree
variable {packet other : Bytes} {stop : Nat} (agree : ∀ i, 12 ≤ i → i < stop → other[i]? = packet[i]?)
include agree

/-- Two packets that agree on the questions go on at the same place behind a name of theirs. -/
theorem readNameLoop_agree {rounds fuel cursor jumps left next place : Nat} {labels seen : List String} {name text : String}
    (body : 12 ≤ cursor) (within : next ≤ stop)
    (read : readNameLoop packet rounds cursor labels none jumps = some (name,next))
    (again : readNameLoop other fuel cursor seen none left = some (text,place)) : place = next := by
  induction rounds generalizing fuel cursor jumps left labels seen with
  | zero => cases read
  | succ rounds ih =>
    cases fuel with
    | zero => cases again
    | succ fuel =>
      have past : cursor < next :=
        readNameLoop_end packet _ cursor jumps cursor labels none name next (.inl (Nat.le_refl _)) (by simp) read
      rw [readNameLoop] at read again
      rw [agree cursor body (by omega)] at again
      obtain ⟨length,here,read⟩ := Option.bind_eq_some_iff.mp read
      rw [here] at again
      simp only [Option.bind_eq_bind,Option.bind_some] at again
      split at read
      · rename_i marked
        rw [if_pos marked] at again
        obtain ⟨low,-,read⟩ := Option.bind_eq_some_iff.mp read
        obtain ⟨second,-,again⟩ := Option.bind_eq_some_iff.mp again
        split at read
        · cases read
        · split at again
          · cases again
          · exact (readNameLoop_jumped again).trans (readNameLoop_jumped read).symm
      · rename_i plain
        rw [if_neg plain] at again
        split at read
        · rename_i zero
          rw [if_pos zero] at again
          cases read
          cases again
          rfl
        · rename_i filled
          rw [if_neg filled] at again
          obtain ⟨label,-,read⟩ := Option.bind_eq_some_iff.mp read
          obtain ⟨decoded,-,read⟩ := Option.bind_eq_some_iff.mp read
          obtain ⟨piece,-,again⟩ := Option.bind_eq_some_iff.mp again
          obtain ⟨word,-,again⟩ := Option.bind_eq_some_iff.mp again
          exact ih (by omega) read again

end Agree

theorem skipQuestions_within {packet : Bytes} {count offset stop : Nat} (begun : offset ≤ packet.length)
    (skipped : skipQuestions packet count offset = some stop) : stop ≤ packet.length := by
  induction count generalizing offset with
  | zero =>
    cases skipped
    exact begun
  | succ count ih =>
    obtain ⟨⟨name,next⟩,-,skipped⟩ := Option.bind_eq_some_iff.mp skipped
    simp only at skipped
    split at skipped
    · rename_i inside
      exact ih inside skipped
    · cases skipped

theorem u16At_isSome {packet : Bytes} {offset : Nat} (inside : offset + 2 ≤ packet.length) : ∃ n, u16At packet offset = some n := by
  rw [u16At,slice,if_pos inside]
  exact ⟨_,rfl⟩

section Questions
variable {packet : Bytes} (long : 12 ≤ packet.length) {stop : Nat} (within : stop ≤ packet.length)
include long within

theorem readQuestions_isSome_iff {count offset : Nat} (body : 12 ≤ offset) (skipped : skipQuestions packet count offset = some stop)
    (question : Option (String × String)) :
    (readQuestions (cut packet stop) count offset question).isSome ↔ QuestionsWithin packet stop count offset := by
  induction count generalizing offset question with
  | zero => simp [readQuestions,QuestionsWithin]
  | succ count ih =>
    have agree (i : Nat) (high : 12 ≤ i) (low : i < stop) : (cut packet stop)[i]? = packet[i]? :=
      getElem?_cut_kept long low (by omega)
    obtain ⟨⟨name,next⟩,read,skipped⟩ := Option.bind_eq_some_iff.mp skipped
    simp only at skipped
    split at skipped
    · have past := skipQuestions_end skipped
      have ahead := readName_end read
      rw [QuestionsWithin,← readName_isSome_iff long,readQuestions]
      cases again : readName (cut packet stop) offset with
      | none => simp
      | some pair =>
        obtain ⟨text,place⟩ := pair
        obtain rfl : place = next := readNameLoop_agree agree body (by omega) read again
        obtain ⟨qtype,typed⟩ := @u16At_isSome (cut packet stop) place (by rw [cut_length long within]; omega)
        simp only [Option.bind_eq_bind,Option.bind_some,typed]
        rw [ih (by omega) skipped]
        simp [read]
    · cases skipped

end Questions

/-- What a filtered response is: the header up to the number of questions and the questions
as they were, no other counts, nothing else, and readable. -/
structure Emptied (resolution filtered : DnsResolution) : Prop where
  header : filtered.response.take 6 = resolution.response.take 6
  counts : (filtered.response.drop 6).take 6 = List.replicate 6 0
  questions : ∃ stop, dnsQuestionEnd resolution.response = some stop ∧ filtered.response.length = stop ∧
    filtered.response.drop 12 = (resolution.response.take stop).drop 12
  parses : ∃ info, filtered.responseInfo = some info ∧ info.answerIps = []

def Safe (resolution : DnsResolution) : Reply DnsResolution → Prop
  | .ok filtered => Emptied resolution filtered
  | .error _ => True
  | .panic => False

/-- A whole header, and question names that can still be read without the counts behind
that of the questions and without what follows the questions. -/
def Filterable (packet : Bytes) : Prop :=
  12 ≤ packet.length ∧ ∀ count stop, u16At packet 4 = some count → dnsQuestionEnd packet = some stop →
    QuestionsWithin packet stop count 12

theorem u16At_agree {packet other : Bytes} {offset : Nat} (agree : ∀ i < 2, other[offset + i]? = packet[offset + i]?) :
    u16At other offset = u16At packet offset := by
  have same : slice other offset (offset + 2) = slice packet offset (offset + 2) := by
    refine Option.ext fun bytes => ?_
    rw [slice_eq_some_iff _ (by omega),slice_eq_some_iff _ (by omega)]
    refine and_congr_right fun sized => forall₂_congr fun i small => ?_
    rw [agree i (by omega)]
  rw [u16At,u16At,same]

section Sniffed
variable {packet : Bytes} {info : DnsResponseInfo} (sniffed : sniffDnsResponse packet = some info)
include sniffed

/-- A response that parses without a whole header has no questions. -/
theorem short_no_questions (short : packet.length < 12) : dnsQuestionEnd packet = some 12 := by
  obtain ⟨transaction,-,sniffed⟩ := Option.bind_eq_some_iff.mp sniffed
  obtain ⟨qdcount,counted,sniffed⟩ := Option.bind_eq_some_iff.mp sniffed
  obtain ⟨ancount,-,sniffed⟩ := Option.bind_eq_some_iff.mp sniffed
  obtain ⟨⟨question,offset⟩,read,-⟩ := Option.bind_eq_some_iff.mp sniffed
  cases qdcount with
  | zero => exact Option.bind_eq_some_iff.mpr ⟨0,counted,rfl⟩
  | succ count =>
    obtain ⟨⟨name,next⟩,named,-⟩ := Option.bind_eq_some_iff.mp read
    have gone : packet[12]? = none := List.getElem?_eq_none (Nat.le_of_lt short)
    rw [readName,Nat.mul_succ,readNameLoop,gone] at named
    cases named

theorem sniffed_counts : ∃ id count, transactionId packet = some id ∧ u16At packet 4 = some count := by
  obtain ⟨id,known,sniffed⟩ := Option.bind_eq_some_iff.mp sniffed
  obtain ⟨count,counted,-⟩ := Option.bind_eq_some_iff.mp sniffed
  exact ⟨id,count,known,counted⟩

end Sniffed

section Parse
variable {packet : Bytes} (long : 12 ≤ packet.length) {stop : Nat} (found : dnsQuestionEnd packet = some stop)
include long found

theorem sniff_cut_iff {id count : Nat} (known : transactionId packet = some id) (counted : u16At packet 4 = some count) :
    (∃ info, sniffDnsResponse (cut packet stop) = some info ∧ info.answerIps = []) ↔ QuestionsWithin packet stop count 12 := by
  have past := dnsQuestionEnd_ge found
  obtain ⟨_,same,skipped⟩ := Option.bind_eq_some_iff.mp found
  obtain rfl := Option.some.inj (counted.symm.trans same)
  have within := skipQuestions_within long skipped
  have transaction : transactionId (cut packet stop) = some id := by
    rw [← known]
    exact u16At_agree fun i small => getElem?_cut_kept long (by omega) (by omega)
  have questions : u16At (cut packet stop) 4 = some count := by
    rw [← counted]
    exact u16At_agree fun i small => getElem?_cut_kept long (by omega) (by omega)
  have answers : u16At (cut packet stop) 6 = some 0 := by
    have zeros : slice (cut packet stop) 6 8 = some [0,0] := by
      refine (slice_eq_some_iff _ (by decide) _).mpr ⟨rfl,fun i small => ?_⟩
      rw [getElem?_cut long,remaining,if_pos (by simp at small; omega),if_pos (by simp at small; omega)]
      match i, small with
      | 0, _ => rfl
      | 1, _ => rfl
    rw [u16At,zeros]
    rfl
  rw [← readQuestions_isSome_iff long within (Nat.le_refl 12) skipped none]
  constructor
  · rintro ⟨info,sniffed,-⟩
    rw [sniffDnsResponse,transaction,questions,answers] at sniffed
    simp only [Option.bind_eq_bind,Option.bind_some] at sniffed
    obtain ⟨pair,read,-⟩ := Option.bind_eq_some_iff.mp sniffed
    rw [read]
    rfl
  · intro read
    obtain ⟨⟨question,offset⟩,read⟩ := Option.isSome_iff_exists.mp read
    refine ⟨⟨id,question.map (·.1),question.map (·.2),[]⟩,?_,rfl⟩
    rw [sniffDnsResponse,transaction,questions,answers]
    simp only [Option.bind_eq_bind,Option.bind_some,read]
    rfl

end Parse

theorem cut_emptied {resolution filtered : DnsResolution} (long : 12 ≤ resolution.response.length) {stop : Nat}
    (found : dnsQuestionEnd resolution.response = some stop) (response : filtered.response = cut resolution.response stop)
    (parses : ∃ info, filtered.responseInfo = some info ∧ info.answerIps = []) : Emptied resolution filtered where
  header := by
    have past := dnsQuestionEnd_ge found
    rw [response]
    refine List.ext_getElem? fun i => ?_
    rw [List.getElem?_take,List.getElem?_take]
    split
    · exact getElem?_cut_kept long (by omega) (by omega)
    · rfl
  counts := by
    have past := dnsQuestionEnd_ge found
    rw [response]
    refine List.ext_getElem? fun i => ?_
    rw [List.getElem?_take,List.getElem?_drop,getElem?_cut long,remaining,List.getElem?_replicate]
    split
    · rw [if_pos (by omega),if_pos (by omega)]
    · rfl
  questions := by
    obtain ⟨count,-,skipped⟩ := Option.bind_eq_some_iff.mp found
    refine ⟨stop,found,by rw [response,cut_length long (skipQuestions_within long skipped)],?_⟩
    rw [response]
    refine List.ext_getElem? fun i => ?_
    rw [List.getElem?_drop,List.getElem?_drop,getElem?_cut long,remaining,List.getElem?_take]
    exact if_congr Iff.rfl (if_neg (by omega)) rfl
  parses := parses

/-- The filter is safe on a response that was accepted if and only if the response is filterable. -/
theorem filter_safe_iff (upstream : DnsUpstream) (query : DnsQueryInfo) (resolution : DnsResolution) (ruleId : RuleId)
    (valid : validateResponseInfo upstream (some query) (sniffDnsResponse resolution.response) = .ok ()) :
    Safe resolution (applyIpv6DnsFilter resolution ruleId) ↔ Filterable resolution.response := by
  obtain ⟨info,sniffed⟩ : ∃ info, sniffDnsResponse resolution.response = some info := by
    cases sniffed : sniffDnsResponse resolution.response with
    | none => rw [sniffed] at valid; cases valid
    | some info => exact ⟨info,rfl⟩
  obtain ⟨id,count,known,counted⟩ := sniffed_counts sniffed
  unfold applyIpv6DnsFilter
  obtain short | long := Nat.lt_or_ge resolution.response.length 12
  · rw [short_no_questions sniffed short]
    dsimp only
    rw [if_pos short]
    exact iff_of_false (fun safe => safe) fun filterable => by have := filterable.1; omega
  · cases found : dnsQuestionEnd resolution.response with
    | none => exact iff_of_true trivial ⟨long,fun _ _ _ impossible => by rw [found] at impossible; cases impossible⟩
    | some stop =>
      dsimp only
      rw [if_neg (Nat.not_lt.mpr long)]
      have parsed := sniff_cut_iff long found known counted
      constructor
      · intro safe
        refine ⟨long,fun other place same here => ?_⟩
        obtain rfl := Option.some.inj (counted.symm.trans same)
        obtain rfl := Option.some.inj (found.symm.trans here)
        exact parsed.mp safe.parses
      · rintro ⟨-,within⟩
        exact cut_emptied long found rfl (parsed.mpr (within count stop counted found))

def answering (response : Bytes) : DnsResolution :=
  ⟨response,cloudflare,.v4 0x01010101 53,sniffDnsQuery aaaaQuery,sniffDnsResponse response,false,none⟩

/-- An answer without addresses, its question written out. -/
def emptyAnswer : Bytes := [0x12,0x34,0x81,0x80,0,1,0,0,0,0,0,0] ++ exampleName ++ [0,28,0,1]

theorem filter_safe_empty_answer : Safe (answering emptyAnswer) (applyIpv6DnsFilter (answering emptyAnswer) ⟨"site"⟩) := by
  refine (filter_safe_iff cloudflare ⟨0x1234,"example.com","AAAA"⟩ (answering emptyAnswer) ⟨"site"⟩ (by decide +kernel)).mpr
    ⟨by decide,fun count stop counted found => ?_⟩
  have known : transactionId emptyAnswer = some 0x1234 := by decide
  have one : u16At emptyAnswer 4 = some 1 := by decide
  have last : dnsQuestionEnd emptyAnswer = some 29 := by decide +kernel
  obtain rfl := Option.some.inj (one.symm.trans counted)
  obtain rfl := Option.some.inj (last.symm.trans found)
  exact (sniff_cut_iff (by decide) last known one).mp ⟨⟨0x1234,some "example.com",some "AAAA",[]⟩,by decide +kernel,rfl⟩

-- Eight bytes without questions and answers are enough for the parser, not for the filter;
-- and a question whose name stands behind it is gone once the packet is cut.
theorem short_response_panics :
    validateResponseInfo cloudflare (sniffDnsQuery aaaaQuery) (sniffDnsResponse [0x12,0x34,0x81,0x80,0,0,0,0]) = .ok () ∧
    applyIpv6DnsFilter (answering [0x12,0x34,0x81,0x80,0,0,0,0]) ⟨"site"⟩ = .panic ∧
    ¬Safe (answering [0x12,0x34,0x81,0x80,0,0,0,0]) (applyIpv6DnsFilter (answering [0x12,0x34,0x81,0x80,0,0,0,0]) ⟨"site"⟩) ∧
    let pointing : Bytes := [0x12,0x34,0x81,0x80,0,1,0,0,0,0,0,0,0xc0,18,0,28,0,1] ++ exampleName
    validateResponseInfo cloudflare (sniffDnsQuery aaaaQuery) (sniffDnsResponse pointing) = .ok () ∧
    ∃ filtered, applyIpv6DnsFilter (answering pointing) ⟨"site"⟩ = .ok filtered ∧ filtered.responseInfo = none := by
  have panics : applyIpv6DnsFilter (answering [0x12,0x34,0x81,0x80,0,0,0,0]) ⟨"site"⟩ = .panic := by decide +kernel
  refine ⟨by decide +kernel,panics,?_,by decide +kernel,_,rfl,by decide +kernel⟩
  rw [panics]
  exact fun safe => safe

end Dynet.Dns
