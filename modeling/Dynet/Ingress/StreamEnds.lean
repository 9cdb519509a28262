import Dynet.Ingress.VmessEnd
import Dynet.Shadowsocks.Response

/-! How the three encrypted readers report the end of an upstream connection. Each takes an
end that comes before the length of the next chunk is complete for a clean one. -/
namespace Dynet.Ingress
open Dynet.Lib.StreamReader Dynet.Lib.StreamReader.Relay Dynet.Shadowsocks

/-- Cut at any byte and split in any way, a stream is reported faithfully by its reader
unless the cut falls among the bytes that carry the length of a chunk. -/
theorem stream_end_faithful_iff (c : StreamCipher) (aead : Aead) (key salt : Bytes) (payloads chunks : List Bytes)
    (writer : AeadStream) (cut : Nat) :
    (c.Lawful → salt.length = Aead2017.saltSize → (∀ payload ∈ payloads, payload.length ≤ aead2017.tcpChunkLimit) →
      encryptChunks c aead2017 (.fromSalt c key salt) payloads = .ok (chunks,writer) →
      let response : Framed := ⟨salt,[],chunks.zip payloads⟩
      cut ≤ response.stream.length →
      (Faithful (Aead2017.receive c key) none response cut ↔ ¬response.InsideHeader (2 + tagSize) cut)) ∧
    (∀ (requestSalt first bytes : Bytes) (now timestamp : UInt64) (stream : AeadStream),
      Aead2022.Opening c now timestamp requestSalt salt first →
      Aead2022.respond c key salt timestamp requestSalt first = .ok (bytes,stream) →
      (∀ payload ∈ payloads, payload.length ≤ aead2022.tcpChunkLimit) →
      encryptChunks c aead2022 stream payloads = .ok (chunks,writer) →
      let response : Framed := ⟨bytes,first,chunks.zip payloads⟩
      cut ≤ response.stream.length →
      (Faithful (Aead2022.receive c key now requestSalt) none response cut ↔
        ¬response.InsideHeader (2 + tagSize) cut)) ∧
    ∀ (session : Vmess.Session) (header : Bytes) (closing : Option Bytes),
      aead.Lawful → Vmess.validateResponseHeader session.responseAuth header = none →
      (∀ payload ∈ payloads, payload ≠ []) → Vmess.encryptAll aead session 0 payloads = .ok chunks →
      (∀ bytes ∈ closing, Vmess.Body.Closing aead session (.ofNat payloads.length) bytes) →
      let response := Vmess.Body.response aead session header chunks payloads closing
      cut ≤ response.stream.length →
      (Faithful (Vmess.Body.readChunk aead session) ⟨false,0⟩ response cut ↔ ¬response.InsideHeader 2 cut) := by
  refine ⟨?_,?_,?_⟩
  · intro lawful salted fit encoded response within
    exact faithful_iff (Aead2017.serves lawful key salted fit encoded) within
  · intro requestSalt first bytes now timestamp stream opening sent fit encoded response within
    exact faithful_iff (Aead2022.serves opening key sent fit encoded) within
  · intro session header closing lawful valid filled encoded closes response within
    exact faithful_iff (Vmess.Body.serves lawful valid filled encoded closes) within

def shortResponse : Framed :=
  Vmess.Body.response taggedAead ⟨[],[],5⟩ [5,0,0,0] [[0,17,7] ++ List.replicate 16 0] [[7]] (some [0,0])

-- A VMess stream that ends behind its last chunk, and Shadowsocks streams that end behind
-- their opening.
theorem stream_end_short :
    Faithful (Vmess.Body.readChunk taggedAead ⟨[],[],5⟩) ⟨false,0⟩ shortResponse 57 ∧
    (∃ chunks writer, encryptChunks taggedCipher aead2017 (.fromSalt taggedCipher [] (List.replicate 32 1)) [[7]] =
        .ok (chunks,writer) ∧
      Faithful (Aead2017.receive taggedCipher []) none ⟨List.replicate 32 1,[],chunks.zip [[7]]⟩ 32) ∧
    ∃ bytes stream chunks writer, Aead2022.respond taggedCipher [] (List.replicate 16 1) 30 (List.replicate 16 2) [9] =
        .ok (bytes,stream) ∧ encryptChunks taggedCipher aead2022 stream [[7]] = .ok (chunks,writer) ∧
      Faithful (Aead2022.receive taggedCipher [] 30 (List.replicate 16 2)) none ⟨bytes,[9],chunks.zip [[7]]⟩ bytes.length := by
  refine ⟨?_,?_,?_⟩
  · refine ((stream_end_faithful_iff taggedCipher taggedAead [] [] [[7]] [[0,17,7] ++ List.replicate 16 0]
      (.fromSalt taggedCipher [] []) 57).2.2 ⟨[],[],5⟩ [5,0,0,0] (some [0,0])
      taggedAead_lawful rfl (by decide) rfl ?_ (by decide)).mpr ?_
    · intro bytes member
      exact .inl (by simpa using member.symm)
    · rintro ⟨_ | _ | k,inside,above,below⟩
      · exact absurd below (by decide)
      · exact absurd above (by decide)
      · exact absurd inside (by simp [Vmess.Body.response])
  · have fit : ∀ payload ∈ ([[7]] : List Bytes), payload.length ≤ aead2017.tcpChunkLimit := by decide
    obtain ⟨chunks,encoded,-⟩ := @encryptChunks_spec taggedCipher aead2017 taggedCipher_lawful (by decide)
      (.fromSalt taggedCipher [] (List.replicate 32 1)) _ fit
    let response : Framed := ⟨List.replicate 32 1,[],chunks.zip [[7]]⟩
    exact ⟨chunks,_,encoded,((stream_end_faithful_iff taggedCipher taggedAead [] (List.replicate 32 1) [[7]] chunks _ 32).1
      taggedCipher_lawful rfl fit encoded response.opening_le_stream).mpr (response.opening_not_inside _)⟩
  · have opening : Aead2022.Opening taggedCipher 30 30 (List.replicate 16 2) (List.replicate 16 1) [9] :=
      ⟨taggedCipher_lawful,rfl,rfl,rfl,by decide⟩
    obtain ⟨header,body,sent,-⟩ := @Aead2022.respond_spec taggedCipher [] 30 30 _ _ _ opening
    have fit : ∀ payload ∈ ([[7]] : List Bytes), payload.length ≤ aead2022.tcpChunkLimit := by decide
    obtain ⟨chunks,encoded,-⟩ := @encryptChunks_spec taggedCipher aead2022 taggedCipher_lawful (by decide)
      (AeadStream.fromSalt taggedCipher [] (List.replicate 16 1)).next.next _ fit
    exact ⟨_,_,chunks,_,sent,encoded,((stream_end_faithful_iff taggedCipher taggedAead [] _ [[7]] chunks _ _).2.1
      _ _ _ _ _ _ opening sent fit encoded (Framed.opening_le_stream _)).mpr (Framed.opening_not_inside _ _)⟩

-- One byte of the length of the first chunk is there, and the end counts as clean.
theorem cut_length_closes :
    ¬Faithful (Vmess.Body.readChunk taggedAead ⟨[],[],5⟩) ⟨false,0⟩ shortResponse 39 ∧
    (run (Vmess.Body.readChunk taggedAead ⟨[],[],5⟩) (new (Vmess.Body.readChunk taggedAead ⟨[],[],5⟩) ⟨false,0⟩)
      [.read (shortResponse.stream.take 39),.eof]).outcome = some (.error .closed) := by
  have opened : Reads (Vmess.Body.readChunk taggedAead ⟨[],[],5⟩) ⟨false,0⟩
      [Vmess.responseHeader taggedAead ⟨[],[],5⟩ [5,0,0,0]] [] ⟨true,0⟩ :=
    .cons (Vmess.Body.header_completes taggedAead_lawful rfl 0) (.nil _)
  have short := @Vmess.Body.idle_breaks taggedAead ⟨[],[],5⟩ 0 [0] (by decide)
  obtain ⟨-,outcome⟩ := run_broken _ opened short
    (by decide : ([shortResponse.stream.take 39] : List Bytes).flatten = [Vmess.responseHeader _ _ _].flatten ++ [0])
  refine ⟨fun faithful => ?_,outcome⟩
  obtain ⟨-,clean,-⟩ := faithful [shortResponse.stream.take 39] (by simp)
  have off : ¬shortResponse.AtBoundary 39 := by
    rintro ⟨_ | _ | _ | k,inside,same⟩
    · exact absurd same (by decide)
    · exact absurd same (by decide)
    · exact absurd same (by decide)
    · exact absurd inside (by simp [shortResponse,Vmess.Body.response])
  exact off (clean.mp outcome)

end Dynet.Ingress
