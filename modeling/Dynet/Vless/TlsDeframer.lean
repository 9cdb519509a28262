import Mathlib.Data.List.Infix
import Dynet.Lib.Framing
import Dynet.Vless.Basic

/-! The deframers of the Vision stream. `TlsDeframer` cuts TLS records off its buffer;
`FuzzyTlsDeframer` first looks for a handshake header, hands on what cannot belong to
one, and holds back at most the five bytes that still could. -/
namespace Dynet.Vless
open Dynet.Lib.Framing

def tlsRecordHeaderSize : Nat := 5
def maxTlsCiphertextLen : Nat := 16384 + 2048

inductive DeframerState where
  | readingHeader
  | readingPayload (payloadLen : Nat)
  deriving DecidableEq, Repr

/-- The checks on a complete record header, with the payload length it announces. -/
def parseHeader (contentType major minor high low : UInt8) : Except IoError Nat :=
  if major ≠ 3 ∨ ¬ (1 ≤ minor ∧ minor ≤ 3) then
    .error (invalidData s!"Invalid TLS protocol version: 0x{hexByte major}{hexByte minor} (expected 0x0301 to 0x0303)")
  else if be16 high low > maxTlsCiphertextLen then
    .error (invalidData s!"TLS record ciphertext length {be16 high low} exceeds maximum {maxTlsCiphertextLen} (TLS 1.2 limit)")
  else if ¬ (0x14 ≤ contentType ∧ contentType ≤ 0x18) then
    .error (invalidData s!"Invalid TLS content type: 0x{hexByte contentType}")
  else .ok (be16 high low)

structure TlsDeframer where
  buffer : Bytes
  state : DeframerState
  deriving DecidableEq, Repr

namespace TlsDeframer

def new : TlsDeframer := ⟨[],.readingHeader⟩

def feed (deframer : TlsDeframer) (data : Bytes) : TlsDeframer := {deframer with buffer := deframer.buffer ++ data}

def readPayload (buffer : Bytes) (payloadLen : Nat) : Except IoError (Option Bytes) × TlsDeframer :=
  let totalLen := tlsRecordHeaderSize + payloadLen
  if buffer.length < totalLen then (.ok none,⟨buffer,.readingPayload payloadLen⟩)
  else (.ok (some (buffer.take totalLen)),⟨buffer.drop totalLen,.readingHeader⟩)

-- A parsed header goes straight on to its payload: the source's second round.
def nextRecord (deframer : TlsDeframer) : Except IoError (Option Bytes) × TlsDeframer :=
  match deframer.state with
  | .readingHeader => match deframer.buffer with
    | contentType::major::minor::high::low::_ => match parseHeader contentType major minor high low with
      | .ok payloadLen => readPayload deframer.buffer payloadLen
      | .error e => (.error e,deframer)
    | _ => (.ok none,deframer)
  | .readingPayload payloadLen => readPayload deframer.buffer payloadLen

def pendingBytes (deframer : TlsDeframer) : Nat := deframer.buffer.length
def remainingData (deframer : TlsDeframer) : Bytes := deframer.buffer

def clear (_ : TlsDeframer) : TlsDeframer := ⟨[],.readingHeader⟩
def deallocate (deframer : TlsDeframer) : TlsDeframer := {deframer with buffer := []}

end TlsDeframer

def headerOf : Bytes → Option (Except IoError Nat)
  | contentType::major::minor::high::low::_ => some (parseHeader contentType major minor high low)
  | _ => none

theorem headerOf_append {buffer : Bytes} {header : Except IoError Nat} (found : headerOf buffer = some header)
    (later : Bytes) : headerOf (buffer ++ later) = some header := by
  match buffer, found with
  | _::_::_::_::_::_, found => exact found

def recordCut (buffer : Bytes) : Cut :=
  match headerOf buffer with
  | none => .more
  | some (.error _) => .fail
  | some (.ok payloadLen) =>
    if buffer.length < tlsRecordHeaderSize + payloadLen then .more else .item (tlsRecordHeaderSize + payloadLen)

/-- TLS records as the items of a buffer. -/
def recordCutter : Cutter UInt8 where
  cut := recordCut
  progress := by
    intro buffer n cut
    unfold recordCut at cut
    split at cut
    · cases cut
    · cases cut
    · split at cut
      · cases cut
      · cases cut
        simp only [tlsRecordHeaderSize] at *
        omega
  stable := by
    intro buffer later decided
    unfold recordCut at *
    cases found : headerOf buffer with
    | none => simp [found] at decided
    | some header =>
      rw [headerOf_append found]
      cases header with
      | error e => rfl
      | ok payloadLen =>
        simp only [found] at decided ⊢
        split at decided
        · contradiction
        next complete => rw [if_neg (by rw [List.length_append]; omega),if_neg complete]

/-- The items a caller has taken, the error that stopped it, and what is left. -/
structure Pulled (δ ι : Type) where
  items : List ι
  error : Option IoError
  deframer : δ
  deriving DecidableEq, Repr

section Pull
variable {δ ι : Type} (next : δ → Except IoError (Option ι) × δ)

/-- Calls of `next_record` until it needs data or fails. An item takes at least a byte,
so one round more than the pending bytes is enough. -/
def pull : Nat → δ → Pulled δ ι
  | 0, deframer => ⟨[],none,deframer⟩
  | rounds+1, deframer => match next deframer with
    | (.ok (some item),deframer) =>
      let later := pull rounds deframer
      {later with items := item::later.items}
    | (.ok none,deframer) => ⟨[],none,deframer⟩
    | (.error e,deframer) => ⟨[],some e,deframer⟩

variable (feed : δ → Bytes → δ) (pending : δ → Nat)

/-- One `feed` and the calls of `next_record` after it. -/
def arrive (sofar : Pulled δ ι) (chunk : Bytes) : Pulled δ ι :=
  let fed := feed sofar.deframer chunk
  let later := pull next (pending fed + 1) fed
  {later with items := sofar.items ++ later.items}

def arrivals (start : δ) (chunks : List Bytes) : Pulled δ ι :=
  chunks.foldl (arrive next feed pending) ⟨[],none,start⟩

end Pull

namespace TlsDeframer

/-- A header that has been parsed is the one in front of the buffer. -/
def Coherent (deframer : TlsDeframer) : Prop :=
  ∀ payloadLen, deframer.state = .readingPayload payloadLen → headerOf deframer.buffer = some (.ok payloadLen)

theorem coherent_new : new.Coherent := by
  intro payloadLen impossible
  cases impossible

theorem Coherent.feed {deframer : TlsDeframer} (coherent : deframer.Coherent) (data : Bytes) :
    (deframer.feed data).Coherent :=
  fun payloadLen reading => headerOf_append (coherent payloadLen reading) data

theorem readPayload_cases {buffer : Bytes} {payloadLen : Nat} (header : headerOf buffer = some (.ok payloadLen)) :
    (recordCut buffer = .more ∧ readPayload buffer payloadLen = (.ok none,⟨buffer,.readingPayload payloadLen⟩)) ∨
    ∃ n, recordCut buffer = .item n ∧
      readPayload buffer payloadLen = (.ok (some (buffer.take n)),⟨buffer.drop n,.readingHeader⟩) := by
  simp only [recordCut,header,readPayload]
  split
  · exact .inl ⟨rfl,rfl⟩
  · exact .inr ⟨_,rfl,rfl⟩

theorem nextRecord_cases {deframer : TlsDeframer} (coherent : deframer.Coherent) :
    (recordCut deframer.buffer = .more ∧ ∃ after, deframer.nextRecord = (.ok none,after) ∧
      after.buffer = deframer.buffer ∧ after.Coherent) ∨
    (recordCut deframer.buffer = .fail ∧ ∃ e, deframer.nextRecord = (.error e,deframer)) ∨
    ∃ n, recordCut deframer.buffer = .item n ∧
      deframer.nextRecord = (.ok (some (deframer.buffer.take n)),⟨deframer.buffer.drop n,.readingHeader⟩) := by
  obtain ⟨buffer,state⟩ := deframer
  have parsed (payloadLen : Nat) (header : headerOf buffer = some (.ok payloadLen))
      (call : nextRecord ⟨buffer,state⟩ = readPayload buffer payloadLen) :
      (recordCut buffer = .more ∧ ∃ after, nextRecord ⟨buffer,state⟩ = (.ok none,after) ∧
        after.buffer = buffer ∧ after.Coherent) ∨
      ∃ n, recordCut buffer = .item n ∧
        nextRecord ⟨buffer,state⟩ = (.ok (some (buffer.take n)),⟨buffer.drop n,.readingHeader⟩) := by
    rw [call]
    rcases readPayload_cases header with ⟨cut,reply⟩ | cut
    · refine .inl ⟨cut,_,reply,rfl,?_⟩
      intro other reading
      cases reading
      exact header
    · exact .inr cut
  cases state with
  | readingPayload payloadLen =>
    rcases parsed payloadLen (coherent payloadLen rfl) rfl with more | item
    · exact .inl more
    · exact .inr (.inr item)
  | readingHeader =>
    match buffer with
    | contentType::major::minor::high::low::rest =>
      cases header : parseHeader contentType major minor high low with
      | error e =>
        refine .inr (.inl ⟨?_,e,?_⟩)
        · simp only [recordCut,headerOf,header]
        · simp only [nextRecord,header]
      | ok payloadLen =>
        have found : headerOf (contentType::major::minor::high::low::rest) = some (.ok payloadLen) := by
          rw [headerOf,header]
        rcases parsed payloadLen found (by simp only [nextRecord,header]) with more | item
        · exact .inl more
        · exact .inr (.inr item)
    | [] => exact .inl ⟨rfl,_,rfl,rfl,coherent⟩
    | [_] => exact .inl ⟨rfl,_,rfl,rfl,coherent⟩
    | [_,_] => exact .inl ⟨rfl,_,rfl,rfl,coherent⟩
    | [_,_,_] => exact .inl ⟨rfl,_,rfl,rfl,coherent⟩
    | [_,_,_,_] => exact .inl ⟨rfl,_,rfl,rfl,coherent⟩

/-- A caller that pulls until nothing comes has drained the buffer. -/
theorem pull_nextRecord (rounds : Nat) {deframer : TlsDeframer} (coherent : deframer.Coherent)
    (enough : deframer.buffer.length < rounds) :
    ∃ error after, (∀ extra, pull nextRecord (rounds + extra) deframer =
        ⟨(drain recordCutter deframer.buffer).items,error,after⟩) ∧
      error.isSome = (drain recordCutter deframer.buffer).failed ∧
      after.buffer = (drain recordCutter deframer.buffer).rest ∧ after.Coherent := by
  induction rounds generalizing deframer with
  | zero => omega
  | succ rounds ih =>
    rcases nextRecord_cases coherent with ⟨cut,after,reply,same,kept⟩ | ⟨cut,e,reply⟩ | ⟨n,cut,reply⟩
    · refine ⟨none,after,?_,?_,?_,kept⟩
      · intro extra
        rw [Nat.succ_add,pull,reply,drain_more recordCutter cut]
      · rw [drain_more recordCutter cut]
        rfl
      · rw [drain_more recordCutter cut,same]
    · refine ⟨some e,deframer,?_,?_,?_,coherent⟩
      · intro extra
        rw [Nat.succ_add,pull,reply,drain_fail recordCutter cut]
      · rw [drain_fail recordCutter cut]
        rfl
      · rw [drain_fail recordCutter cut]
    · obtain ⟨positive,inside⟩ := recordCutter.progress cut
      have fresh : Coherent ⟨deframer.buffer.drop n,.readingHeader⟩ := by
        intro payloadLen impossible
        cases impossible
      obtain ⟨error,after,later,failed,rest,kept⟩ := ih fresh (by
        rw [List.length_drop]
        omega)
      refine ⟨error,after,?_,?_,?_,kept⟩
      · intro extra
        rw [Nat.succ_add,pull,reply,drain_item recordCutter cut]
        simp only [later]
      · rw [failed,drain_item recordCutter cut]
      · rw [rest,drain_item recordCutter cut]

/-- A new deframer that is fed the chunks and emptied after each. -/
def deframed (chunks : List Bytes) : Pulled TlsDeframer Bytes := arrivals nextRecord feed pendingBytes new chunks

/-- Whatever the chunks, the deframer has drained the bytes fed so far. -/
theorem deframed_eq (chunks : List Bytes) :
    ∃ error after, deframed chunks =
        ⟨(drain recordCutter chunks.flatten).items,error,after⟩ ∧
      error.isSome = (drain recordCutter chunks.flatten).failed ∧
      after.buffer = (drain recordCutter chunks.flatten).rest ∧ after.Coherent := by
  induction chunks using List.reverseRecOn with
  | nil => exact ⟨none,new,rfl,rfl,rfl,coherent_new⟩
  | append_singleton chunks chunk ih =>
    obtain ⟨_,before,run,_,buffer,coherent⟩ := ih
    obtain ⟨error,after,later,failed,rest,kept⟩ := pull_nextRecord ((before.feed chunk).pendingBytes + 1)
      (coherent.feed chunk) (Nat.lt_succ_self _)
    have fed : (before.feed chunk).buffer = (drain recordCutter chunks.flatten).rest ++ chunk := by
      rw [← buffer]
      rfl
    have whole := feed_drain recordCutter chunks.flatten chunk
    have flat : (chunks ++ [chunk]).flatten = chunks.flatten ++ chunk := by simp
    rw [fed] at later failed rest
    refine ⟨error,after,?_,?_,?_,kept⟩
    · rw [deframed,arrivals,List.foldl_append]
      change arrive nextRecord feed pendingBytes (deframed chunks) chunk = _
      rw [run,arrive,flat,← whole]
      simp only [later 0]
      rfl
    · rw [failed,flat,← whole]
      rfl
    · rw [rest,flat,← whole]
      rfl

end TlsDeframer

end Dynet.Vless
