import Dynet.Shadowsocks.AeadStream

/-! Chunks read back: from the same stream state the reader takes the writer's chunks one
by one, in lock step with its nonces, and no nonce comes twice. -/
namespace Dynet.Shadowsocks
open Dynet.Lib Dynet.Lib.StreamReader Dynet.Lib.StreamReader.Relay

section Chunk
variable {c : StreamCipher} {format : ChunkFormat} (opening : ChunkReader)

theorem readSize_opened (small : format.tcpChunkLimit ≤ 0xffff) {stream : AeadStream} {payload size : Bytes} (fits : payload.length ≤ format.tcpChunkLimit)
    (opened : decrypt c format stream size = .ok (beBytes 2 payload.length,stream.next)) :
    readSize c format stream size = .keep (some stream.next) (readPayloadChunk c format stream.next payload.length) := by
  have bytes : fromBe (beBytes 2 payload.length) = payload.length := by
    rw [fromBe_beBytes,Nat.mod_eq_of_lt (by omega)]
  have two : ¬(beBytes 2 payload.length).length ≠ 2 := fun other => other rfl
  have within : ¬(format.checksSize ∧ payload.length > format.tcpChunkLimit) := by omega
  rw [readSize,opened]
  simp only [if_neg two,bytes,if_neg within]

variable (lawful : c.Lawful) (small : format.tcpChunkLimit ≤ 0xffff)
include lawful small

theorem chunk_completes {stream writer : AeadStream} {payload chunk : Bytes} (fits : payload.length ≤ format.tcpChunkLimit)
    (encoded : encryptChunk c format stream payload = .ok (chunk,writer)) :
    Completes (receive c format opening) (some stream) chunk (some writer) (some payload) := by
  intro relay state rest running
  obtain ⟨size,body,-,-,made,sizeLength,bodyLength,sizeOpened,bodyOpened⟩ := encryptChunk_spec lawful stream fits small
  obtain ⟨rfl,rfl⟩ : size ++ body = chunk ∧ stream.next.next = writer := by simpa [made] using encoded
  have wants : receive c format opening relay.state = .exactly (.error .closed) (2 + tagSize) (readSize c format stream) := by
    rw [state]
    rfl
  have sized := pushAll_start (receive c format opening) rest running wants size sizeLength
  have filled := pushAll_exactly (receive c format opening) {relay with state := some stream.next} running
    (fail (payloadEof format)) (payload.length + tagSize) (decryptPayload c format stream.next) body bodyLength
  rw [pushAll_append,sized,readSize_opened small fits sizeOpened]
  refine filled.trans ?_
  rw [decryptPayload,bodyOpened]
  rfl

/-- A chunk that breaks off reads as a closed stream in its length, else as an error. -/
theorem chunk_breaks {stream writer : AeadStream} {payload chunk part : Bytes} (fits : payload.length ≤ format.tcpChunkLimit)
    (encoded : encryptChunk c format stream payload = .ok (chunk,writer)) (cut : part <+: chunk)
    (shorter : part.length < chunk.length) :
    Breaks (receive c format opening) (some stream) part
      (if part.length < 2 + tagSize then .closed else .failed (payloadEof format)) := by
  intro relay state rest running
  obtain ⟨size,body,-,-,made,sizeLength,bodyLength,sizeOpened,-⟩ := encryptChunk_spec lawful stream fits small
  obtain ⟨rfl,rfl⟩ : size ++ body = chunk ∧ stream.next.next = writer := by simpa [made] using encoded
  have wants : receive c format opening relay.state = .exactly (.error .closed) (2 + tagSize) (readSize c format stream) := by
    rw [state]
    rfl
  split
  · rename_i early
    have resumed : advance (receive c format opening) relay (.exactly (.error .closed) (2 + tagSize) (readSize c format stream)) =
        relay := resume (receive c format opening) rest wants
    obtain ⟨waiting,left⟩ := pushAll_short (receive c format opening) relay running .closed (2 + tagSize)
      (readSize c format stream) part early
    rw [resumed] at left
    exact ⟨relay.state,waiting,left⟩
  · rename_i late
    obtain ⟨later,rfl⟩ : ∃ later, part = size ++ later := by
      have inside : size <+: part := List.prefix_of_prefix_length_le (List.prefix_append size body) cut (by omega)
      exact inside.imp fun _ => Eq.symm
    have short : later.length < payload.length + tagSize := by
      rw [List.length_append,List.length_append] at shorter
      omega
    have sized := pushAll_start (receive c format opening) rest running wants size sizeLength
    obtain ⟨waiting,left⟩ := pushAll_short (receive c format opening) {relay with state := some stream.next} running
      (.failed (payloadEof format)) (payload.length + tagSize) (decryptPayload c format stream.next) later short
    refine ⟨some stream.next,waiting,?_⟩
    rw [pushAll_append,sized,readSize_opened small fits sizeOpened]
    exact left

end Chunk

theorem encryptChunks_cons (c : StreamCipher) (format : ChunkFormat) {stream writer : AeadStream} {payload : Bytes}
    {payloads chunks : List Bytes} (encoded : encryptChunks c format stream (payload::payloads) = .ok (chunks,writer)) :
    ∃ chunk between others, encryptChunk c format stream payload = .ok (chunk,between) ∧
      encryptChunks c format between payloads = .ok (others,writer) ∧ chunks = chunk::others := by
  rw [encryptChunks] at encoded
  cases first : encryptChunk c format stream payload with
  | error error =>
    rw [first] at encoded
    cases encoded
  | ok made =>
    obtain ⟨chunk,between⟩ := made
    cases more : encryptChunks c format between payloads with
    | error error => simp [first,more,bind,Except.bind] at encoded
    | ok rest =>
      obtain ⟨others,last⟩ := rest
      simp only [first,more,bind,Except.bind,pure,Except.pure,Except.ok.injEq,Prod.mk.injEq] at encoded
      obtain ⟨rfl,rfl⟩ := encoded
      exact ⟨chunk,between,others,rfl,more,rfl⟩

theorem chunks_read {c : StreamCipher} {format : ChunkFormat} (opening : ChunkReader) (lawful : c.Lawful)
    (small : format.tcpChunkLimit ≤ 0xffff) {stream writer : AeadStream} {payloads chunks : List Bytes}
    (fit : ∀ payload ∈ payloads, payload.length ≤ format.tcpChunkLimit)
    (encoded : encryptChunks c format stream payloads = .ok (chunks,writer)) :
    Reads (receive c format opening) (some stream) chunks payloads (some writer) := by
  induction payloads generalizing stream chunks with
  | nil =>
    cases encoded
    exact .nil _
  | cons payload payloads ih =>
    obtain ⟨first,fit⟩ := List.forall_mem_cons.mp fit
    obtain ⟨chunk,between,others,here,rest,rfl⟩ := encryptChunks_cons c format encoded
    exact .cons (chunk_completes opening lawful small first here) (ih fit rest)

def AeadStream.after (stream : AeadStream) : Nat → AeadStream
  | 0 => stream
  | count+1 => stream.next.after count

theorem after_nonce (stream : AeadStream) (count : Nat) : (stream.after count).nonce = incrementNonce^[count] stream.nonce := by
  induction count generalizing stream with
  | zero => rfl
  | succ count ih => exact ih stream.next

/-- What a chunk is made of: its length and its payload under two nonces in a row. -/
def SealedAs (c : StreamCipher) (stream : AeadStream) (payload chunk : Bytes) : Prop :=
  ∃ size body, c.encrypt stream.key stream.nonce (beBytes 2 payload.length) = .ok size ∧
    c.encrypt stream.key stream.next.nonce payload = .ok body ∧ chunk = size ++ body

/-- Writing never fails within the limit, and the chunk of each buffer takes the two nonces
that stand at twice its position. -/
theorem encryptChunks_spec {c : StreamCipher} {format : ChunkFormat} (lawful : c.Lawful)
    (small : format.tcpChunkLimit ≤ 0xffff) (stream : AeadStream) {payloads : List Bytes}
    (fit : ∀ payload ∈ payloads, payload.length ≤ format.tcpChunkLimit) :
    ∃ chunks, encryptChunks c format stream payloads = .ok (chunks,stream.after (2 * payloads.length)) ∧
      chunks.length = payloads.length ∧
      ∀ i payload chunk, payloads[i]? = some payload → chunks[i]? = some chunk →
        SealedAs c (stream.after (2 * i)) payload chunk := by
  induction payloads generalizing stream with
  | nil => exact ⟨[],rfl,rfl,by simp⟩
  | cons payload payloads ih =>
    obtain ⟨first,fit⟩ := List.forall_mem_cons.mp fit
    obtain ⟨size,body,sized,filled,made,-⟩ := encryptChunk_spec lawful stream first small
    obtain ⟨chunks,rest,length,sealed⟩ := ih stream.next.next fit
    refine ⟨(size ++ body)::chunks,?_,by rw [List.length_cons,List.length_cons,length],?_⟩
    · rw [encryptChunks,made]
      simp only [bind,Except.bind,rest,pure,Except.pure]
      rfl
    · intro i other chunk here there
      cases i with
      | zero =>
        obtain rfl : payload = other := by simpa using here
        obtain rfl : size ++ body = chunk := by simpa using there
        exact ⟨size,body,sized,filled,rfl⟩
      | succ i => exact sealed i other chunk here there

/-- Whatever is written in buffers within the limit is read back under every fragmentation,
empty buffers among them, the reader ends where the writer does, and no nonce comes twice
in 2^96 uses of a key. -/
theorem chunks_round_trip (c : StreamCipher) (lawful : c.Lawful) (format : ChunkFormat)
    (edition : format = aead2017 ∨ format = aead2022) (opening : ChunkReader) (stream : AeadStream) (payloads : List Bytes)
    (fit : ∀ payload ∈ payloads, payload.length ≤ format.tcpChunkLimit) :
    (∃ chunks, encryptChunks c format stream payloads = .ok (chunks,stream.after (2 * payloads.length)) ∧
      (∀ fragments : List Bytes, fragments.flatten = chunks.flatten →
        run (receive c format opening) (new (receive c format opening) (some stream)) (fragments.map .read) =
          ⟨some (stream.after (2 * payloads.length)),
            receive c format opening (some (stream.after (2 * payloads.length))),payloads,none⟩) ∧
      ∀ i payload chunk, payloads[i]? = some payload → chunks[i]? = some chunk →
        SealedAs c (stream.after (2 * i)) payload chunk) ∧
    (∀ i j, i < 2^96 → j < 2^96 → (stream.after i).nonce = (stream.after j).nonce → i = j) ∧
    ∀ nonce : Bytes, nonce.length = nonceSize →
      ByteCounter.value (incrementNonce nonce) = (ByteCounter.value nonce + 1) % 2^96 := by
  have small : format.tcpChunkLimit ≤ 0xffff := by
    rcases edition with rfl | rfl <;> decide
  refine ⟨?_,?_,?_⟩
  · obtain ⟨chunks,encoded,-,sealed⟩ := encryptChunks_spec lawful small stream fit
    have read := chunks_read opening lawful small fit encoded
    exact ⟨chunks,encoded,fun fragments whole => run_reads (receive c format opening) read whole,sealed⟩
  · intro i j first second same
    have full : 256 ^ stream.nonce.length = 2 ^ 96 := by rw [stream.sized]; rfl
    rw [after_nonce,after_nonce] at same
    exact ByteCounter.iterate_injective (by rw [full]; exact first) (by rw [full]; exact second) same
  · intro nonce sized
    have full : 256 ^ nonce.length = 2 ^ 96 := by rw [sized]; rfl
    rw [incrementNonce,ByteCounter.value_increment,full]

/-- A cipher that only adds its nonce for a tag. -/
def taggedCipher : StreamCipher where
  deriveSubkey key _ := key
  encrypt _ nonce plaintext := .ok (plaintext ++ (nonce ++ List.replicate tagSize 0).take tagSize)
  decrypt _ nonce ciphertext :=
    if ciphertext.drop (ciphertext.length - tagSize) = (nonce ++ List.replicate tagSize 0).take tagSize then
      .ok (ciphertext.take (ciphertext.length - tagSize))
    else .error "Error"

theorem taggedCipher_lawful : taggedCipher.Lawful where
  seals _ nonce plaintext _ := by
    have tag : ((nonce ++ List.replicate tagSize 0).take tagSize).length = tagSize := by simp
    refine ⟨_,rfl,by rw [List.length_append,tag],?_⟩
    have front : (plaintext ++ (nonce ++ List.replicate tagSize 0).take tagSize).length - tagSize = plaintext.length := by
      rw [List.length_append,tag,Nat.add_sub_cancel]
    simp only [taggedCipher,front,List.drop_left,List.take_left,if_true]

theorem empty_chunk_round_trip :
    ∃ chunks, encryptChunks taggedCipher aead2017 (.fromSalt taggedCipher [1] [2]) [[7],[],[8,9]] =
        .ok (chunks,(AeadStream.fromSalt taggedCipher [1] [2]).after 6) ∧
      (run (receive taggedCipher aead2017 (.done (.ok []))) (new (receive taggedCipher aead2017 (.done (.ok [])))
        (some (.fromSalt taggedCipher [1] [2]))) [.read chunks.flatten]).delivered = [[7],[],[8,9]] := by
  obtain ⟨⟨chunks,encoded,read,-⟩,-⟩ := chunks_round_trip taggedCipher taggedCipher_lawful aead2017 (.inl rfl)
    (.done (.ok [])) (.fromSalt taggedCipher [1] [2]) [[7],[],[8,9]] (by decide)
  have once := read [chunks.flatten] (by simp)
  exact ⟨chunks,encoded,congrArg (·.delivered) once⟩

end Dynet.Shadowsocks
