import Dynet.Lib.Truncation
import Dynet.Shadowsocks.AeadChunks

/-! The reading side of both Shadowsocks relays from the first byte of the response: the
salt, in the 2022 edition the response header with the size of the first payload, and the
chunks until the stream ends. -/
namespace Dynet.Shadowsocks
open Dynet.Lib Dynet.Lib.StreamReader Dynet.Lib.StreamReader.Relay

namespace Aead2017

def saltSize : Nat := 32

def saltEof : Error := readError "failed reading Shadowsocks TCP response salt"

def upstreamToClient (c : StreamCipher) (key : Bytes) : ChunkReader :=
  .exactly (fail saltEof) saltSize fun salt =>
    .keep (some (.fromSalt c key salt)) (decryptChunk c (.fromSalt c key salt))

def receive (c : StreamCipher) (key : Bytes) : Option AeadStream → ChunkReader :=
  Shadowsocks.receive c aead2017 (upstreamToClient c key)

end Aead2017

namespace Aead2022

def saltSize : Nat := 16
def responseFixedHeaderSize : Nat := 27
def headerTypeServerStream : UInt8 := 1

def saltEof : Error := readError "failed reading Shadowsocks 2022 TCP response salt"
def headerEof : Error := readError "failed reading Shadowsocks 2022 TCP response header"

/-- The checks of a response header and the size of the first payload. -/
def responseSize (now : UInt64) (requestSalt header : Bytes) : Except Error Nat := do
  if header.length ≠ responseFixedHeaderSize then
    .error (cryptoError "invalid Shadowsocks 2022 TCP response header length")
  if header.head? ≠ some headerTypeServerStream then
    .error (cryptoError "invalid Shadowsocks 2022 TCP response header type")
  validateTimestamp now (.ofNat (fromBe ((header.drop 1).take 8))) "TCP response"
  if (header.drop 9).take 16 ≠ requestSalt then
    .error (cryptoError "invalid Shadowsocks 2022 TCP response request salt")
  return fromBe (header.drop 25)

-- The first payload is written only if there is one, and then the loop begins.
def firstPayload (c : StreamCipher) (stream : AeadStream) (encryptedPayload : Bytes) : ChunkReader :=
  match decrypt c aead2022 stream encryptedPayload with
  | .error error => .done (fail error)
  | .ok (payload,stream) => .keep (some stream) (if payload = [] then decryptChunk c stream else .done (.ok payload))

def decryptResponseHeader (c : StreamCipher) (now : UInt64) (requestSalt : Bytes) (stream : AeadStream)
    (encryptedHeader : Bytes) : ChunkReader :=
  match decrypt c aead2022 stream encryptedHeader with
  | .error error => .done (fail error)
  | .ok (header,stream) => match responseSize now requestSalt header with
    | .error error => .done (fail error)
    | .ok size => .exactly (fail (payloadEof aead2022)) (size + tagSize) (firstPayload c stream)

def upstreamToClient (c : StreamCipher) (key : Bytes) (now : UInt64) (requestSalt : Bytes) : ChunkReader :=
  .exactly (fail saltEof) saltSize fun salt =>
    .exactly (fail headerEof) (responseFixedHeaderSize + tagSize)
      (decryptResponseHeader c now requestSalt (.fromSalt c key salt))

def receive (c : StreamCipher) (key : Bytes) (now : UInt64) (requestSalt : Bytes) : Option AeadStream → ChunkReader :=
  Shadowsocks.receive c aead2022 (upstreamToClient c key now requestSalt)

def responseHeader (timestamp : UInt64) (requestSalt : Bytes) (size : Nat) : Bytes :=
  headerTypeServerStream::(beBytes 8 timestamp.toNat ++ (requestSalt ++ beBytes 2 size))

/-- What a server sends first: its salt, the header and the first payload. -/
def respond (c : StreamCipher) (key salt : Bytes) (timestamp : UInt64) (requestSalt first : Bytes) :
    Except Error (Bytes × AeadStream) := do
  let (header,stream) ← encrypt c aead2022 (.fromSalt c key salt) (responseHeader timestamp requestSalt first.length)
  let (payload,stream) ← encrypt c aead2022 stream first
  return (salt ++ (header ++ payload),stream)

end Aead2022

section Opening
variable {c : StreamCipher} {key : Bytes}

namespace Aead2017

theorem salt_completes {salt : Bytes} (sized : salt.length = saltSize) :
    Completes (receive c key) none salt (some (.fromSalt c key salt)) none := by
  intro relay state rest running
  have wants : receive c key relay.state = upstreamToClient c key := by rw [state]; rfl
  have read := pushAll_start (receive c key) rest running wants salt sized
  rw [read,Option.toList_none,List.append_nil]
  rfl

theorem salt_breaks {part : Bytes} (short : part.length < saltSize) :
    Breaks (receive c key) none part (.failed saltEof) := by
  intro relay state rest running
  have wants : receive c key relay.state = upstreamToClient c key := by rw [state]; rfl
  have resumed : advance (receive c key) relay (upstreamToClient c key) = relay := resume (receive c key) rest wants
  obtain ⟨waiting,left⟩ := pushAll_short (receive c key) relay running (.failed saltEof) saltSize
    (fun salt => .keep (some (.fromSalt c key salt)) (decryptChunk c (.fromSalt c key salt))) part short
  exact ⟨relay.state,waiting,by rw [← left]; exact congrArg (pushAll _ · part) resumed.symm⟩

end Aead2017

namespace Aead2022
variable {now timestamp : UInt64} {requestSalt salt first : Bytes}

structure Opening (c : StreamCipher) (now timestamp : UInt64) (requestSalt salt first : Bytes) : Prop where
  lawful : c.Lawful
  salted : salt.length = saltSize
  requested : requestSalt.length = saltSize
  fresh : validateTimestamp now timestamp "TCP response" = .ok ()
  fits : first.length ≤ 0xffff

theorem responseSize_header (opening : Opening c now timestamp requestSalt salt first) :
    responseSize now requestSalt (responseHeader timestamp requestSalt first.length) = .ok first.length := by
  have eight : (beBytes 8 timestamp.toNat).length = 8 := rfl
  have stamp : UInt64.ofNat (fromBe (beBytes 8 timestamp.toNat)) = timestamp := by
    have full : timestamp.toNat < 256 ^ 8 := timestamp.toNat_lt
    rw [fromBe_beBytes,Nat.mod_eq_of_lt full,UInt64.ofNat_toNat]
  have sixteen : requestSalt.length = 16 := opening.requested
  have size : fromBe (beBytes 2 first.length) = first.length := by
    have fits := opening.fits
    rw [fromBe_beBytes,Nat.mod_eq_of_lt (by omega)]
  have length : (responseHeader timestamp requestSalt first.length).length = responseFixedHeaderSize := by
    have two : (beBytes 2 first.length).length = 2 := rfl
    rw [responseHeader,List.length_cons,List.length_append,List.length_append,eight,sixteen,two]
    rfl
  have stamped : ((responseHeader timestamp requestSalt first.length).drop 1).take 8 = beBytes 8 timestamp.toNat := by
    rw [responseHeader,List.drop_succ_cons,List.drop_zero,List.take_left' eight]
  have salted : ((responseHeader timestamp requestSalt first.length).drop 9).take 16 = requestSalt := by
    rw [responseHeader,List.drop_succ_cons,List.drop_left' eight,List.take_left' sixteen]
  have last : (responseHeader timestamp requestSalt first.length).drop 25 = beBytes 2 first.length := by
    rw [responseHeader,← List.append_assoc,List.drop_succ_cons,List.drop_left']
    rw [List.length_append,eight,sixteen]
  have kind : (responseHeader timestamp requestSalt first.length).head? = some headerTypeServerStream := rfl
  rw [responseSize,stamped,salted,last,stamp,size]
  simp [length,kind,opening.fresh,bind,Except.bind,pure,Except.pure]

theorem respond_spec (opening : Opening c now timestamp requestSalt salt first) :
    ∃ header body, respond c key salt timestamp requestSalt first =
        .ok (salt ++ (header ++ body),(AeadStream.fromSalt c key salt).next.next) ∧
      header.length = responseFixedHeaderSize + tagSize ∧ body.length = first.length + tagSize ∧
      decryptResponseHeader c now requestSalt (.fromSalt c key salt) header =
        .exactly (fail (payloadEof aead2022)) (first.length + tagSize)
          (firstPayload c (AeadStream.fromSalt c key salt).next) ∧
      firstPayload c (AeadStream.fromSalt c key salt).next body =
        .keep (some (AeadStream.fromSalt c key salt).next.next)
          (if first = [] then decryptChunk c (AeadStream.fromSalt c key salt).next.next else .done (.ok first)) := by
  have length : (responseHeader timestamp requestSalt first.length).length = responseFixedHeaderSize := by
    have eight : (beBytes 8 timestamp.toNat).length = 8 := rfl
    have two : (beBytes 2 first.length).length = 2 := rfl
    rw [responseHeader,List.length_cons,List.length_append,List.length_append,eight,opening.requested,two]
    rfl
  obtain ⟨header,-,headed,headerLength,headerOpened⟩ := @encrypt_spec c aead2022 opening.lawful (.fromSalt c key salt)
    (responseHeader timestamp requestSalt first.length) (by rw [length]; decide)
  obtain ⟨body,-,filled,bodyLength,bodyOpened⟩ := @encrypt_spec c aead2022 opening.lawful
    (AeadStream.fromSalt c key salt).next first opening.fits
  refine ⟨header,body,?_,by rw [headerLength,length],bodyLength,?_,?_⟩
  · rw [respond,headed]
    simp only [bind,Except.bind,filled,pure,Except.pure]
  · rw [decryptResponseHeader,headerOpened]
    simp only [responseSize_header opening]
  · rw [firstPayload,bodyOpened]

theorem opening_completes (opening : Opening c now timestamp requestSalt salt first) {bytes : Bytes} {stream : AeadStream}
    (sent : respond c key salt timestamp requestSalt first = .ok (bytes,stream)) :
    Completes (receive c key now requestSalt) none bytes (some stream) (if first = [] then none else some first) := by
  intro relay state rest running
  obtain ⟨header,body,made,headerLength,bodyLength,opened,filled⟩ := @respond_spec c key now timestamp requestSalt salt first opening
  obtain ⟨rfl,rfl⟩ : salt ++ (header ++ body) = bytes ∧ (AeadStream.fromSalt c key salt).next.next = stream := by
    simpa [made] using sent
  have wants : receive c key now requestSalt relay.state = upstreamToClient c key now requestSalt := by rw [state]; rfl
  have salted := pushAll_start (receive c key now requestSalt) rest running wants salt opening.salted
  have headed := pushAll_exactly (receive c key now requestSalt) relay running (fail headerEof)
    (responseFixedHeaderSize + tagSize) (decryptResponseHeader c now requestSalt (.fromSalt c key salt)) header headerLength
  have paid := pushAll_exactly (receive c key now requestSalt) relay running (fail (payloadEof aead2022))
    (first.length + tagSize) (firstPayload c (AeadStream.fromSalt c key salt).next) body bodyLength
  rw [pushAll_append,salted,pushAll_append,headed,opened,paid,filled]
  split
  · rw [Option.toList_none,List.append_nil]
    rfl
  · rfl

theorem opening_breaks (opening : Opening c now timestamp requestSalt salt first) {bytes part : Bytes} {stream : AeadStream}
    (sent : respond c key salt timestamp requestSalt first = .ok (bytes,stream)) (cut : part <+: bytes)
    (shorter : part.length < bytes.length) :
    ∃ error, Breaks (receive c key now requestSalt) none part (.failed error) := by
  obtain ⟨header,body,made,headerLength,bodyLength,opened,-⟩ := @respond_spec c key now timestamp requestSalt salt first opening
  obtain ⟨rfl,rfl⟩ : salt ++ (header ++ body) = bytes ∧ (AeadStream.fromSalt c key salt).next.next = stream := by
    simpa [made] using sent
  have wants : receive c key now requestSalt none = upstreamToClient c key now requestSalt := rfl
  obtain inSalt | pastSalt := Nat.lt_or_ge part.length salt.length
  · refine ⟨saltEof,fun relay state rest running => ?_⟩
    have resumed : advance (receive c key now requestSalt) relay (upstreamToClient c key now requestSalt) = relay :=
      resume (receive c key now requestSalt) rest (state ▸ wants)
    obtain ⟨waiting,left⟩ := pushAll_short (receive c key now requestSalt) relay running (.failed saltEof) saltSize
      (fun salt => .exactly (fail headerEof) (responseFixedHeaderSize + tagSize)
        (decryptResponseHeader c now requestSalt (.fromSalt c key salt))) part (by rw [← opening.salted]; exact inSalt)
    exact ⟨relay.state,waiting,by rw [← left]; exact congrArg (pushAll _ · part) resumed.symm⟩
  · obtain ⟨later,rfl⟩ : ∃ later, part = salt ++ later :=
      (List.prefix_of_prefix_length_le (List.prefix_append salt _) cut pastSalt).imp fun _ => Eq.symm
    rw [List.prefix_append_right_inj] at cut
    have salted (relay : Relay (Option AeadStream) (Stop Error) Bytes) (state : relay.state = none)
        (rest : AtRest (receive c key now requestSalt) relay) (running : relay.outcome = none) :=
      pushAll_start (receive c key now requestSalt) rest running (state ▸ wants) salt opening.salted
    obtain inHeader | pastHeader := Nat.lt_or_ge later.length header.length
    · refine ⟨headerEof,fun relay state rest running => ?_⟩
      obtain ⟨waiting,left⟩ := pushAll_short (receive c key now requestSalt) relay running (.failed headerEof)
        (responseFixedHeaderSize + tagSize) (decryptResponseHeader c now requestSalt (.fromSalt c key salt)) later
        (by rw [← headerLength]; exact inHeader)
      exact ⟨relay.state,waiting,by rw [pushAll_append,salted relay state rest running]; exact left⟩
    · obtain ⟨last,rfl⟩ : ∃ last, later = header ++ last :=
        (List.prefix_of_prefix_length_le (List.prefix_append header _) cut pastHeader).imp fun _ => Eq.symm
      have inBody : last.length < first.length + tagSize := by
        simp only [List.length_append] at shorter
        omega
      refine ⟨payloadEof aead2022,fun relay state rest running => ?_⟩
      have headed := pushAll_exactly (receive c key now requestSalt) relay running (fail headerEof)
        (responseFixedHeaderSize + tagSize) (decryptResponseHeader c now requestSalt (.fromSalt c key salt)) header headerLength
      obtain ⟨waiting,left⟩ := pushAll_short (receive c key now requestSalt) relay running (.failed (payloadEof aead2022))
        (first.length + tagSize) (firstPayload c (AeadStream.fromSalt c key salt).next) last inBody
      refine ⟨relay.state,waiting,?_⟩
      rw [pushAll_append,salted relay state rest running,pushAll_append]
      refine (congrArg (pushAll _ · last) (headed.trans ?_)).trans left
      rw [opened]
      rfl

end Aead2022

end Opening

section Served
variable {c : StreamCipher} {format : ChunkFormat} (opening : ChunkReader) (lawful : c.Lawful)
  (small : format.tcpChunkLimit ≤ 0xffff)

theorem idle_breaks (stream : AeadStream) : Breaks (receive c format opening) (some stream) [] .closed := by
  intro relay state rest running
  have wants : receive c format opening relay.state = decryptChunk c format stream := by rw [state]; rfl
  have resumed : advance (receive c format opening) relay (decryptChunk c format stream) = relay :=
    resume (receive c format opening) rest wants
  obtain ⟨waiting,left⟩ := pushAll_short (receive c format opening) relay running .closed (2 + tagSize)
    (readSize c format stream) [] (by decide)
  exact ⟨relay.state,waiting,by rw [← left]; exact congrArg (pushAll _ · []) resumed.symm⟩

theorem encryptChunks_take {stream writer : AeadStream} {payloads chunks : List Bytes}
    (encoded : encryptChunks c format stream payloads = .ok (chunks,writer)) (k : Nat) :
    chunks.length = payloads.length ∧ ∃ between, encryptChunks c format stream (payloads.take k) = .ok (chunks.take k,between) ∧
      ∀ chunk payload, chunks[k]? = some chunk → payloads[k]? = some payload →
        ∃ next, encryptChunk c format between payload = .ok (chunk,next) := by
  induction payloads generalizing stream chunks k with
  | nil =>
    cases encoded
    exact ⟨rfl,writer,by simp [encryptChunks],by simp⟩
  | cons payload payloads ih =>
    obtain ⟨chunk,between,others,here,rest,rfl⟩ := encryptChunks_cons c format encoded
    cases k with
    | zero =>
      refine ⟨by rw [List.length_cons,List.length_cons,(ih rest 0).1],stream,rfl,?_⟩
      intro first other found asked
      obtain rfl : chunk = first := by simpa using found
      obtain rfl : payload = other := by simpa using asked
      exact ⟨between,here⟩
    | succ k =>
      obtain ⟨length,last,taken,after⟩ := ih rest k
      refine ⟨by rw [List.length_cons,List.length_cons,length],last,?_,after⟩
      rw [List.take_succ_cons,List.take_succ_cons,encryptChunks,here]
      simp only [bind,Except.bind,taken,pure,Except.pure]

include lawful small

theorem chunk_served {stream writer : AeadStream} {payloads chunks : List Bytes}
    (fit : ∀ payload ∈ payloads, payload.length ≤ format.tcpChunkLimit)
    (encoded : encryptChunks c format stream payloads = .ok (chunks,writer)) {k : Nat} {part : Bytes}
    (f : Framed) (listed : f.chunks = chunks.zip payloads) (piece : f.Part k part) :
    ∃ state stop, Reads (receive c format opening) (some stream) ((f.chunks.take k).map Prod.fst)
        ((f.chunks.take k).map Prod.snd) state ∧
      Breaks (receive c format opening) state part stop ∧ (stop = .closed ↔ part.length < 2 + tagSize) := by
  obtain ⟨length,between,taken,after⟩ := encryptChunks_take encoded k
  have fits : ∀ payload ∈ payloads.take k, payload.length ≤ format.tcpChunkLimit := fun payload member =>
    fit payload (List.mem_of_mem_take member)
  have read := chunks_read opening lawful small fits taken
  have firsts : (f.chunks.take k).map Prod.fst = chunks.take k := by
    rw [listed,List.zip,List.take_zipWith,← List.zip,List.map_fst_zip (by simp [length])]
  have seconds : (f.chunks.take k).map Prod.snd = payloads.take k := by
    rw [listed,List.zip,List.take_zipWith,← List.zip,List.map_snd_zip (by simp [length])]
  rw [firsts,seconds]
  obtain rfl | ⟨⟨chunk,payload⟩,here,cut,shorter⟩ := piece
  · exact ⟨_,_,read,idle_breaks opening between,iff_of_true rfl (by decide)⟩
  · rw [listed,List.getElem?_zip_eq_some] at here
    obtain ⟨next,made⟩ := after chunk payload here.1 here.2
    have fitting := fit payload (List.mem_of_getElem? here.2)
    refine ⟨_,_,read,chunk_breaks opening lawful small fitting made cut shorter,?_⟩
    by_cases early : part.length < 2 + tagSize
    · simp [early]
    · simp [early]

theorem chunks_headed {stream writer : AeadStream} {payloads chunks : List Bytes}
    (fit : ∀ payload ∈ payloads, payload.length ≤ format.tcpChunkLimit)
    (encoded : encryptChunks c format stream payloads = .ok (chunks,writer)) :
    ∀ chunk ∈ chunks.zip payloads, 2 + tagSize ≤ chunk.1.length := by
  intro ⟨chunk,payload⟩ member
  obtain ⟨k,here⟩ := List.mem_iff_getElem?.mp member
  rw [List.getElem?_zip_eq_some] at here
  obtain ⟨-,between,-,after⟩ := encryptChunks_take encoded k
  obtain ⟨next,made⟩ := after chunk payload here.1 here.2
  obtain ⟨size,body,-,-,made',sizeLength,-⟩ := @encryptChunk_spec c format lawful between payload
    (fit payload (List.mem_of_getElem? here.2)) small
  obtain ⟨rfl,-⟩ : size ++ body = chunk ∧ between.next.next = next := by simpa [made'] using made
  rw [List.length_append]
  omega

end Served

theorem Aead2017.serves {c : StreamCipher} (lawful : c.Lawful) (key : Bytes) {salt : Bytes} (salted : salt.length = saltSize)
    {payloads chunks : List Bytes} {writer : AeadStream}
    (fit : ∀ payload ∈ payloads, payload.length ≤ aead2017.tcpChunkLimit)
    (encoded : encryptChunks c aead2017 (.fromSalt c key salt) payloads = .ok (chunks,writer)) :
    Serves (receive c key) none ⟨salt,[],chunks.zip payloads⟩ (2 + tagSize) where
  opening cut early := by
    have short : (salt.take cut).length < saltSize := by
      rw [List.length_take,← salted]
      exact (Nat.min_le_left _ _).trans_lt early
    exact ⟨saltEof,ends_of_breaks (.nil none) (salt_breaks short)⟩
  chunk k part inside piece := by
    obtain ⟨state,stop,read,breaks,closes⟩ := chunk_served (upstreamToClient c key) lawful (by decide) fit encoded _ rfl piece
    exact ⟨stop,ends_of_chunk (salt_completes salted) rfl read rfl breaks,closes⟩
  headed := chunks_headed lawful (by decide) fit encoded
  positive := by decide

theorem Aead2022.serves {c : StreamCipher} {now timestamp : UInt64} {requestSalt salt first : Bytes}
    (opening : Opening c now timestamp requestSalt salt first) (key : Bytes) {bytes : Bytes} {stream writer : AeadStream}
    (sent : respond c key salt timestamp requestSalt first = .ok (bytes,stream)) {payloads chunks : List Bytes}
    (fit : ∀ payload ∈ payloads, payload.length ≤ aead2022.tcpChunkLimit)
    (encoded : encryptChunks c aead2022 stream payloads = .ok (chunks,writer)) :
    Serves (receive c key now requestSalt) none ⟨bytes,first,chunks.zip payloads⟩ (2 + tagSize) where
  opening cut early := by
    have short : (bytes.take cut).length < bytes.length := by
      rw [List.length_take]
      exact (Nat.min_le_left _ _).trans_lt early
    obtain ⟨error,breaks⟩ := opening_breaks opening sent (List.take_prefix cut bytes) short
    exact ⟨error,ends_of_breaks (.nil none) breaks⟩
  chunk k part inside piece := by
    obtain ⟨state,stop,read,breaks,closes⟩ := chunk_served (upstreamToClient c key now requestSalt) opening.lawful
      (by decide) fit encoded _ rfl piece
    refine ⟨stop,ends_of_chunk (opening_completes opening sent) ?_ read rfl breaks,closes⟩
    by_cases empty : first = []
    · simp [empty]
    · simp [empty]
  headed := chunks_headed opening.lawful (by decide) fit encoded
  positive := by decide

end Dynet.Shadowsocks
