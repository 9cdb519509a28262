import Dynet.Runtime.Model

/-! Reading DNS packets: the question of a query, the question and the addresses of a
response, and the cut behind the question that empties a response. -/
namespace Dynet.Dns
open Dynet.Runtime

abbrev Bytes := List UInt8

def qtypeA : Nat := 1
def qtypeAaaa : Nat := 28

structure DnsQueryInfo where
  transactionId : Nat
  queryName : String
  queryType : String
  deriving DecidableEq, Repr

structure DnsResponseInfo where
  transactionId : Nat
  queryName : Option String
  queryType : Option String
  answerIps : List IpAddr
  deriving DecidableEq, Repr

/-- `packet.get(start..stop)`. -/
def slice (packet : Bytes) (start stop : Nat) : Option Bytes :=
  if stop ≤ packet.length then some ((packet.drop start).take (stop - start)) else none

def fromBe (bytes : Bytes) : Nat := bytes.foldl (fun n b => n * 256 + b.toNat) 0

def u16At (packet : Bytes) (offset : Nat) : Option Nat := (slice packet offset (offset + 2)).map fromBe

def transactionId (packet : Bytes) : Option Nat := u16At packet 0

def qtypeLabel (qtype : Nat) : String :=
  if qtype = qtypeA then "A" else if qtype = qtypeAaaa then "AAAA"
  else if qtype = 5 then "CNAME" else if qtype = 65 then "HTTPS"
  else toString qtype

-- The cursor moves on within the packet or one of at most nine jumps is taken, and
-- `readNameLoop_fuel` shows that the rounds given by `readName` never run out.
def readNameLoop (packet : Bytes) : Nat → Nat → List String → Option Nat → Nat → Option (String × Nat)
  | 0,_,_,_,_ => none
  | rounds+1,cursor,labels,nextOffset,jumps => do
    let length ← packet[cursor]?
    if length &&& 0xc0 = 0xc0 then
      let next ← packet[cursor + 1]?
      let pointer := (length &&& 0x3f).toNat * 256 + next.toNat
      if jumps + 1 > 8 then none
      else readNameLoop packet rounds pointer labels (some (nextOffset.getD (cursor + 2))) (jumps + 1)
    else if length = 0 then some (".".intercalate labels,nextOffset.getD (cursor + 1))
    else
      let label ← slice packet (cursor + 1) (cursor + 1 + length.toNat)
      let text ← String.fromUTF8? ⟨label.toArray⟩
      readNameLoop packet rounds (cursor + 1 + length.toNat) (labels ++ [asciiLowercase text]) nextOffset jumps

def readName (packet : Bytes) (offset : Nat) : Option (String × Nat) :=
  readNameLoop packet (9 * (packet.length + 1)) offset [] none 0

theorem readNameLoop_fuel (packet : Bytes) (rounds extra cursor jumps : Nat) (labels : List String) (nextOffset : Option Nat)
    (few : jumps ≤ 8) (enough : (8 - jumps) * (packet.length + 1) + (packet.length - cursor) < rounds) :
    readNameLoop packet (rounds + extra) cursor labels nextOffset jumps =
      readNameLoop packet rounds cursor labels nextOffset jumps := by
  induction rounds generalizing cursor labels nextOffset jumps with
  | zero => omega
  | succ rounds ih =>
    rw [Nat.succ_add,readNameLoop,readNameLoop]
    cases here : packet[cursor]? with
    | none => rfl
    | some length =>
      have inside : cursor < packet.length := (List.getElem?_eq_some_iff.mp here).1
      simp only [Option.bind_eq_bind,Option.bind_some]
      split
      · cases packet[cursor + 1]? with
        | none => rfl
        | some next =>
          simp only [Option.bind_some]
          split
          · rfl
          · refine ih _ _ _ _ (by omega) ?_
            have round : (8 - jumps) * (packet.length + 1) =
                (8 - (jumps + 1)) * (packet.length + 1) + (packet.length + 1) := by
              rw [← Nat.succ_mul]
              congr 1
              omega
            omega
      · split
        · rfl
        · cases slice packet (cursor + 1) (cursor + 1 + length.toNat) with
          | none => rfl
          | some label =>
            simp only [Option.bind_some]
            cases String.fromUTF8? ⟨label.toArray⟩ with
            | none => rfl
            | some text => exact ih _ _ _ _ few (by omega)

/-- More rounds than the reader takes change nothing. -/
theorem readName_fuel (packet : Bytes) (offset extra : Nat) :
    readNameLoop packet (9 * (packet.length + 1) + extra) offset [] none 0 = readName packet offset :=
  readNameLoop_fuel packet _ extra offset 0 [] none (by omega) (by omega)

def sniffDnsQuery (packet : Bytes) : Option DnsQueryInfo := do
  let transactionId ← transactionId packet
  let qdcount ← u16At packet 4
  if qdcount = 0 then none
  else
    let (queryName,offset) ← readName packet 12
    let queryType := qtypeLabel (← u16At packet offset)
    return ⟨transactionId,queryName,queryType⟩

/-- The questions of a response; the name and type of the first are kept. -/
def readQuestions (packet : Bytes) : Nat → Nat → Option (String × String) → Option (Option (String × String) × Nat)
  | 0,offset,question => some (question,offset)
  | count+1,offset,question => do
    let (name,offset) ← readName packet offset
    let qtype ← u16At packet offset
    readQuestions packet count (offset + 4) (some (question.getD (name,qtypeLabel qtype)))

def answerIp (answerType : Nat) (data : Bytes) : Option IpAddr :=
  if answerType = qtypeA ∧ data.length = 4 then some (.v4 (.ofNat 32 (fromBe data)))
  else if answerType = qtypeAaaa ∧ data.length = 16 then some (.v6 (.ofNat 128 (fromBe data)))
  else none

def readAnswers (packet : Bytes) : Nat → Nat → List IpAddr → Option (List IpAddr)
  | 0,_,answerIps => some answerIps
  | count+1,offset,answerIps => do
    let (_,offset) ← readName packet offset
    let answerType ← u16At packet offset
    let dataLen ← u16At packet (offset + 8)
    let data ← slice packet (offset + 10) (offset + 10 + dataLen)
    readAnswers packet count (offset + 10 + dataLen) (answerIps ++ (answerIp answerType data).toList)

def sniffDnsResponse (packet : Bytes) : Option DnsResponseInfo := do
  let transactionId ← transactionId packet
  let qdcount ← u16At packet 4
  let ancount ← u16At packet 6
  let (question,offset) ← readQuestions packet qdcount 12 none
  let answerIps ← readAnswers packet ancount offset []
  return ⟨transactionId,question.map (·.1),question.map (·.2),answerIps⟩

/-- Here the class of each question has to be there too. -/
def skipQuestions (packet : Bytes) : Nat → Nat → Option Nat
  | 0,offset => some offset
  | count+1,offset => do
    let (_,next) ← readName packet offset
    if next + 4 ≤ packet.length then skipQuestions packet count (next + 4) else none

def dnsQuestionEnd (packet : Bytes) : Option Nat := do
  let qdcount ← u16At packet 4
  skipQuestions packet qdcount 12

theorem readNameLoop_end (packet : Bytes) (rounds cursor jumps start : Nat) (labels : List String) (nextOffset : Option Nat)
    (name : String) (next : Nat) (before : start ≤ cursor ∨ nextOffset.isSome) (after : ∀ offset ∈ nextOffset, start < offset)
    (read : readNameLoop packet rounds cursor labels nextOffset jumps = some (name,next)) : start < next := by
  induction rounds generalizing cursor labels nextOffset jumps with
  | zero => cases read
  | succ rounds ih =>
    rw [readNameLoop] at read
    obtain ⟨length,-,read⟩ := Option.bind_eq_some_iff.mp read
    have first : start < nextOffset.getD (cursor + 1) ∧ start < nextOffset.getD (cursor + 2) := by
      cases nextOffset with
      | none =>
        simp only [Option.isSome_none,Bool.false_eq_true,or_false] at before
        simp only [Option.getD_none]
        omega
      | some offset => exact ⟨after offset rfl,after offset rfl⟩
    split at read
    · obtain ⟨low,-,read⟩ := Option.bind_eq_some_iff.mp read
      split at read
      · cases read
      · refine ih _ _ _ _ (.inr rfl) ?_ read
        intro offset known
        cases known
        exact first.2
    · split at read
      · cases read
        exact first.1
      · obtain ⟨label,-,read⟩ := Option.bind_eq_some_iff.mp read
        obtain ⟨text,-,read⟩ := Option.bind_eq_some_iff.mp read
        refine ih _ _ _ _ ?_ after read
        exact before.imp_left fun here => by omega

theorem readName_end {packet : Bytes} {offset next : Nat} {name : String} (read : readName packet offset = some (name,next)) :
    offset < next :=
  readNameLoop_end packet _ offset 0 offset [] none name next (.inl (Nat.le_refl offset)) (by simp) read

theorem skipQuestions_end {packet : Bytes} {count offset stop : Nat} (skipped : skipQuestions packet count offset = some stop) :
    offset ≤ stop := by
  induction count generalizing offset with
  | zero =>
    cases skipped
    exact Nat.le_refl _
  | succ count ih =>
    obtain ⟨⟨name,next⟩,read,skipped⟩ := Option.bind_eq_some_iff.mp skipped
    simp only at skipped
    split at skipped
    · have := readName_end read
      have := ih skipped
      omega
    · cases skipped

theorem dnsQuestionEnd_ge {packet : Bytes} {stop : Nat} (found : dnsQuestionEnd packet = some stop) : 12 ≤ stop := by
  obtain ⟨count,-,skipped⟩ := Option.bind_eq_some_iff.mp found
  exact skipQuestions_end skipped

theorem sniffDnsResponse_empty {packet : Bytes} {info : DnsResponseInfo} (none : u16At packet 6 = some 0)
    (sniffed : sniffDnsResponse packet = some info) : info.answerIps = [] := by
  obtain ⟨transaction,-,sniffed⟩ := Option.bind_eq_some_iff.mp sniffed
  obtain ⟨qdcount,-,sniffed⟩ := Option.bind_eq_some_iff.mp sniffed
  obtain ⟨ancount,counted,sniffed⟩ := Option.bind_eq_some_iff.mp sniffed
  obtain ⟨⟨question,offset⟩,-,sniffed⟩ := Option.bind_eq_some_iff.mp sniffed
  obtain ⟨answers,read,sniffed⟩ := Option.bind_eq_some_iff.mp sniffed
  rw [none] at counted
  cases counted
  cases read
  cases sniffed
  rfl

end Dynet.Dns
