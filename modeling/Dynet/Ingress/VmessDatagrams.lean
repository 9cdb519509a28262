import Dynet.Ingress.VmessEnd
import Mathlib.Data.List.Nodup

/-! Which datagrams survive the VMess framing: an empty one reads as the end of the stream,
and the sixteen bits of the counter come round after 65536 chunks. -/
namespace Dynet.Ingress.Vmess
open Dynet.Lib.Checks Dynet.Lib.StreamReader Dynet.Lib.StreamReader.Relay

def chunkLimit : Nat := 0x3fff

section Write
variable (aead : Aead) (session : Session)

def writeChunk (counter : UInt16) (payload : Bytes) : Except ProtocolError (Bytes × UInt16) :=
  if payload.length > chunkLimit then .error ⟨"outbound-protocol",s!"VMess chunk exceeds {chunkLimit} bytes"⟩
  else (encryptChunk aead session counter payload).map (·,counter + 1)

def writeDatagrams (counter : UInt16) : List Bytes → Except ProtocolError (List Bytes × UInt16)
  | [] => .ok ([],counter)
  | payload::payloads => do
    let (chunk,counter) ← writeChunk aead session counter payload
    let (chunks,counter) ← writeDatagrams counter payloads
    return (chunk::chunks,counter)

/-- The nonces of the chunks that are written from a counter on. -/
def noncesUsed (counter : UInt16) : List Bytes → List Bytes
  | [] => []
  | _::payloads => chunkNonce counter session.iv::noncesUsed (counter + 1) payloads

def sealChunk (nonce payload : Bytes) : Bytes :=
  toBe16 (aead.encrypt session.key nonce payload).length ++ aead.encrypt session.key nonce payload

end Write

section Written
variable {aead : Aead} {session : Session}

theorem encryptChunk_sealed {counter : UInt16} {payload chunk : Bytes}
    (encoded : encryptChunk aead session counter payload = .ok chunk) :
    chunk = sealChunk aead session (chunkNonce counter session.iv) payload := by
  unfold encryptChunk failed at encoded
  dsimp only at encoded
  split at encoded
  · cases encoded
  · exact (Except.ok.inj encoded).symm

theorem writeChunk_ok {counter next : UInt16} {payload chunk : Bytes}
    (written : writeChunk aead session counter payload = .ok (chunk,next)) :
    payload.length ≤ chunkLimit ∧ encryptChunk aead session counter payload = .ok chunk ∧ next = counter + 1 := by
  unfold writeChunk at written
  split at written
  · cases written
  · rename_i small
    cases encoded : encryptChunk aead session counter payload with
    | error e =>
      rw [encoded] at written
      cases written
    | ok made =>
      rw [encoded] at written
      cases written
      exact ⟨Nat.not_lt.mp small,rfl,rfl⟩

theorem writeDatagrams_cons {counter last : UInt16} {payload : Bytes} {payloads chunks : List Bytes}
    (written : writeDatagrams aead session counter (payload::payloads) = .ok (chunks,last)) :
    ∃ chunk others, encryptChunk aead session counter payload = .ok chunk ∧
      writeDatagrams aead session (counter + 1) payloads = .ok (others,last) ∧ chunks = chunk::others := by
  obtain ⟨⟨chunk,next⟩,first,written⟩ := (bind_ok_iff _ _ _).mp written
  obtain ⟨⟨others,final⟩,rest,done⟩ := (bind_ok_iff _ _ _).mp written
  obtain ⟨-,encoded,rfl⟩ := writeChunk_ok first
  cases done
  exact ⟨chunk,others,encoded,rest,rfl⟩

/-- Every chunk is sealed under the nonce listed for it. -/
theorem written_sealed {counter last : UInt16} {payloads chunks : List Bytes}
    (written : writeDatagrams aead session counter payloads = .ok (chunks,last)) :
    chunks = List.zipWith (sealChunk aead session) (noncesUsed session counter payloads) payloads := by
  induction payloads generalizing counter chunks with
  | nil =>
    cases written
    rfl
  | cons payload payloads ih =>
    obtain ⟨chunk,others,encoded,rest,rfl⟩ := writeDatagrams_cons written
    rw [noncesUsed,List.zipWith_cons_cons,← ih rest,← encryptChunk_sealed encoded]

theorem writeDatagrams_append {counter last : UInt16} {first second chunks : List Bytes}
    (written : writeDatagrams aead session counter (first ++ second) = .ok (chunks,last)) :
    ∃ between before after, writeDatagrams aead session counter first = .ok (before,between) ∧
      writeDatagrams aead session between second = .ok (after,last) ∧ chunks = before ++ after := by
  induction first generalizing counter chunks with
  | nil => exact ⟨counter,[],chunks,rfl,written,rfl⟩
  | cons payload first ih =>
    rw [List.cons_append,writeDatagrams] at written
    obtain ⟨⟨chunk,next⟩,here,written⟩ := (bind_ok_iff _ _ _).mp written
    obtain ⟨⟨others,final⟩,rest,done⟩ := (bind_ok_iff _ _ _).mp written
    cases done
    obtain ⟨between,before,after,started,finished,rfl⟩ := ih rest
    refine ⟨between,chunk::before,after,?_,finished,rfl⟩
    rw [writeDatagrams,here]
    simp only [bind,Except.bind,started,pure,Except.pure]

variable (lawful : aead.Lawful)
include lawful

theorem datagrams_read {counter last : UInt16} {payloads chunks : List Bytes} (filled : ∀ payload ∈ payloads, payload ≠ [])
    (written : writeDatagrams aead session counter payloads = .ok (chunks,last)) :
    Reads (readDatagram aead session) ⟨true,counter⟩ chunks payloads ⟨true,last⟩ := by
  induction payloads generalizing counter chunks with
  | nil =>
    cases written
    exact .nil _
  | cons payload payloads ih =>
    obtain ⟨some,filled⟩ := List.forall_mem_cons.mp filled
    obtain ⟨chunk,others,encoded,rest,rfl⟩ := writeDatagrams_cons written
    exact .cons (Body.chunk_completes lawful some encoded).named (ih filled rest)

theorem empty_stops {counter : UInt16} {chunk : Bytes} (encoded : encryptChunk aead session counter [] = .ok chunk) :
    Stops (readDatagram aead session) ⟨true,counter⟩ chunk ⟨"outbound-read","VMess UDP stream closed"⟩ :=
  (Body.closing_stops lawful (.inr encoded)).named

end Written

theorem noncesUsed_eq (session : Session) (counter : UInt16) (payloads : List Bytes) :
    noncesUsed session counter payloads =
      (List.range payloads.length).map fun i => chunkNonce (counter + .ofNat i) session.iv := by
  induction payloads generalizing counter with
  | nil => rfl
  | cons payload payloads ih =>
    have later : (fun i => chunkNonce (counter + .ofNat i) session.iv) ∘ Nat.succ =
        fun i => chunkNonce (counter + 1 + .ofNat i) session.iv := by
      funext i
      have next : (UInt16.ofNat (i + 1)) = 1 + UInt16.ofNat i := by
        rw [UInt16.ofNat_add,UInt16.add_comm]
        rfl
      rw [Function.comp_apply,Nat.succ_eq_add_one,next,UInt16.add_assoc]
    rw [noncesUsed,ih,List.length_cons,List.range_succ_eq_map,List.map_cons,List.map_map,later]
    have first : counter + .ofNat 0 = counter := UInt16.add_zero counter
    rw [first]

theorem chunkNonce_injective {left right : UInt16} {iv : Bytes} (same : chunkNonce left iv = chunkNonce right iv) :
    left = right := by
  have bytes : toBe16 left.toNat = toBe16 right.toNat := List.append_inj_left same rfl
  have numbers := congrArg fromBe16 bytes
  rw [fromBe16_toBe16 left.toNat_lt,fromBe16_toBe16 right.toNat_lt] at numbers
  exact UInt16.toNat_inj.mp numbers

/-- The nonces of a session differ as long as the counter has not come round. -/
theorem noncesUsed_nodup_iff (session : Session) (counter : UInt16) (payloads : List Bytes) :
    (noncesUsed session counter payloads).Nodup ↔ payloads.length ≤ 65536 := by
  rw [noncesUsed_eq]
  constructor
  · intro distinct
    by_contra long
    have twice := List.inj_on_of_nodup_map distinct (List.mem_range.mpr (by omega : 0 < payloads.length))
      (List.mem_range.mpr (by omega : 65536 < payloads.length)) rfl
    omega
  · intro short
    refine List.Nodup.map_on (fun i first j second same => ?_) List.nodup_range
    have small := List.mem_range.mp first
    have other := List.mem_range.mp second
    have counters := congrArg UInt16.toNat (chunkNonce_injective same)
    rw [UInt16.toNat_add,UInt16.toNat_add,UInt16.toNat_ofNat',UInt16.toNat_ofNat'] at counters
    have start := counter.toNat_lt
    omega

/-- The reader hands on exactly these datagrams, however their stream is split. -/
def Recovers (aead : Aead) (session : Session) (header : Bytes) (datagrams chunks : List Bytes) : Prop :=
  ∀ fragments : List Bytes, fragments.flatten = (responseHeader aead session header::chunks).flatten →
    let relay := run (readDatagram aead session) (new (readDatagram aead session) ⟨false,0⟩) (fragments.map .read)
    relay.delivered = datagrams ∧ relay.outcome = none

theorem recovers_iff {aead : Aead} {session : Session} (lawful : aead.Lawful) {header : Bytes}
    (valid : validateResponseHeader session.responseAuth header = none) {datagrams chunks : List Bytes} {counter : UInt16}
    (written : writeDatagrams aead session 0 datagrams = .ok (chunks,counter)) :
    Recovers aead session header datagrams chunks ↔ ∀ payload ∈ datagrams, payload ≠ [] := by
  have headed : Completes (readDatagram aead session) ⟨false,0⟩ (responseHeader aead session header) ⟨true,0⟩ none :=
    (Body.header_completes lawful valid 0).named
  constructor
  · intro recovers payload member empty
    subst empty
    obtain ⟨before,after,rfl,fresh⟩ := List.eq_append_cons_of_mem member
    obtain ⟨between,first,second,started,rest,rfl⟩ := writeDatagrams_append written
    obtain ⟨chunk,others,encoded,-,rfl⟩ := writeDatagrams_cons rest
    have filled : ∀ payload ∈ before, payload ≠ [] := fun payload listed same => fresh (same ▸ listed)
    have reads : Reads (readDatagram aead session) ⟨false,0⟩ (responseHeader aead session header::first) before
        ⟨true,between⟩ := .cons headed (datagrams_read lawful filled started)
    have whole : ([(responseHeader aead session header::(first ++ chunk::others)).flatten] : List Bytes).flatten =
        (responseHeader aead session header::first).flatten ++ chunk ++ others.flatten := by simp
    obtain ⟨-,outcome⟩ := run_stopped (readDatagram aead session) reads (empty_stops lawful encoded) whole []
    obtain ⟨-,running⟩ := recovers [(responseHeader aead session header::(first ++ chunk::others)).flatten] (by simp)
    rw [List.append_nil,running] at outcome
    cases outcome
  · intro filled fragments whole
    have read := run_reads (readDatagram aead session) (.cons headed (datagrams_read lawful filled written)) whole
    rw [read]
    exact ⟨rfl,rfl⟩

/-- The datagrams a writer accepts come back exactly and each under a nonce of its own if
and only if none of them is empty and there are at most 65536. -/
theorem body_framing_iff (aead : Aead) (lawful : aead.Lawful) (session : Session) (header : Bytes)
    (valid : validateResponseHeader session.responseAuth header = none) (datagrams chunks : List Bytes) (counter : UInt16)
    (written : writeDatagrams aead session 0 datagrams = .ok (chunks,counter)) :
    chunks = List.zipWith (sealChunk aead session) (noncesUsed session 0 datagrams) datagrams ∧
    ((Recovers aead session header datagrams chunks ∧ (noncesUsed session 0 datagrams).Nodup) ↔
      (∀ payload ∈ datagrams, payload ≠ []) ∧ datagrams.length ≤ 65536) :=
  ⟨written_sealed written,and_congr (recovers_iff lawful valid written) (noncesUsed_nodup_iff session 0 datagrams)⟩

theorem body_framing_pair : Recovers taggedAead ⟨[],[],5⟩ [5,0,0,0] [[7],[8,9]]
    [[0,17,7] ++ List.replicate 16 0,[0,18,8,9] ++ List.replicate 16 0] :=
  ((body_framing_iff taggedAead taggedAead_lawful ⟨[],[],5⟩ [5,0,0,0] rfl [[7],[8,9]]
    [[0,17,7] ++ List.replicate 16 0,[0,18,8,9] ++ List.replicate 16 0] 2 rfl).2.mpr ⟨by decide,by decide⟩).1

-- An empty datagram is accepted and then ends the reader, and chunk 65536 seals under the
-- nonce of the first chunk.
theorem empty_datagram_ends_stream :
    writeDatagrams taggedAead ⟨[],[],5⟩ 0 [[]] = .ok ([[0,16] ++ List.replicate 16 0],1) ∧
    ¬Recovers taggedAead ⟨[],[],5⟩ [5,0,0,0] [[]] [[0,16] ++ List.replicate 16 0] ∧
    chunkNonce (.ofNat 65536) [] = chunkNonce 0 [] := by
  refine ⟨rfl,fun recovers => ?_,rfl⟩
  have filled := (@recovers_iff taggedAead ⟨[],[],5⟩ taggedAead_lawful [5,0,0,0] rfl [[]] _ 1 rfl).mp recovers
  exact filled [] List.mem_cons_self rfl

end Dynet.Ingress.Vmess
