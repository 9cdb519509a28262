import Dynet.Lib.Checks
import Dynet.Lib.StreamEnd
import Dynet.Runtime.Net

/-! The stream framings of UDP relays: VLESS, VMess and Trojan. Each protocol's
`readDatagram` is a read operation over its reader object; the relay loop of all
three races it against the client's payloads and drops it when it loses. -/
namespace Dynet.Ingress
open Dynet.Lib.Checks Dynet.Lib.StreamReader Dynet.Lib.StreamReader.Relay Dynet.Runtime

abbrev Bytes := List UInt8

structure ProtocolError where
  stage : String
  message : String
  deriving DecidableEq, Repr

abbrev DatagramReader (σ : Type) := Reader σ (Except ProtocolError Bytes)

def failed (stage message : String) : Except ProtocolError Bytes := .error ⟨stage,message⟩

/-- What `read_exact` reports at the end of the stream. -/
def cutShort (context : String) : ProtocolError := ⟨"outbound-read",s!"{context}: early eof"⟩

def earlyEof (context : String) : Except ProtocolError Bytes := .error (cutShort context)

/-- What `read_u16` reports there. -/
def unexpectedEof (context : String) : Except ProtocolError Bytes :=
  failed "outbound-read" s!"{context}: unexpected end of file"

def toBe16 (n : Nat) : Bytes := [UInt8.ofNat (n / 256),UInt8.ofNat n]

def fromBe16 : Bytes → Nat
  | [high,low] => high.toNat * 256 + low.toNat
  | _ => 0

theorem fromBe16_toBe16 {n : Nat} (small : n < 65536) : fromBe16 (toBe16 n) = n := by
  have high : n / 256 < 256 := by omega
  simp only [fromBe16,toBe16,UInt8.toNat_ofNat']
  omega

theorem toBe16_length (n : Nat) : (toBe16 n).length = 2 := rfl

namespace Vless

def frameLimit : Nat := 65535

def udpFrame (payload : Bytes) : Except ProtocolError Bytes :=
  if payload.length > frameLimit then failed "outbound-protocol" "VLESS UDP payload exceeds 65535 bytes"
  else .ok (toBe16 payload.length ++ payload)

def readPayload (length : Bytes) : DatagramReader Bool :=
  .exactly (earlyEof "failed reading VLESS UDP payload") (fromBe16 length) fun payload => .done (.ok payload)

def readUdpFrame : DatagramReader Bool :=
  .exactly (unexpectedEof "failed reading VLESS UDP payload length") 2 readPayload

def readAddon (rest : DatagramReader Bool) (header : Bytes) : DatagramReader Bool :=
  let version := header.headD 0
  if version ≠ 0 then .done (failed "outbound-protocol" s!"invalid VLESS response version: {version}")
  else .exactly (earlyEof "failed reading VLESS response addon") (header.getD 1 0).toNat fun _ => rest

def readVlessResponseHeader (rest : DatagramReader Bool) : DatagramReader Bool :=
  .exactly (earlyEof "failed reading VLESS response header") 2 (readAddon rest)

-- The reader object is its `response_pending` flag.
def readDatagram (responsePending : Bool) : DatagramReader Bool :=
  if responsePending then readVlessResponseHeader (.keep false readUdpFrame) else readUdpFrame

def responseHeader (addon : Bytes) : Bytes := 0::UInt8.ofNat addon.length::addon

theorem udpFrame_ok_iff (payload frame : Bytes) :
    udpFrame payload = .ok frame ↔ payload.length < 65536 ∧ frame = toBe16 payload.length ++ payload := by
  unfold udpFrame frameLimit failed
  split
  next large => exact ⟨fun impossible => by contradiction,fun ⟨small,_⟩ => by omega⟩
  next small =>
    rw [Except.ok.injEq,eq_comm]
    exact (and_iff_right (by omega)).symm

theorem header_completes (addon : Bytes) (small : addon.length < 256) :
    Completes readDatagram true (responseHeader addon) false none := by
  intro relay state rest running
  have length : (UInt8.ofNat addon.length).toNat = addon.length := by
    rw [UInt8.toNat_ofNat']
    omega
  have wants : readDatagram relay.state = .exactly (earlyEof "failed reading VLESS response header") 2
      (readAddon (.keep false readUdpFrame)) := by
    rw [state]
    rfl
  have fixed : pushAll readDatagram relay [0,UInt8.ofNat addon.length] = advance readDatagram relay
      (.exactly (earlyEof "failed reading VLESS response addon") (UInt8.ofNat addon.length).toNat
        fun _ => .keep false readUdpFrame) := pushAll_start readDatagram rest running wants _ rfl
  have split : responseHeader addon = [0,UInt8.ofNat addon.length] ++ addon := rfl
  rw [split,pushAll_append,fixed,pushAll_exactly readDatagram relay running _ _ _ addon length.symm,
    Option.toList_none,List.append_nil]
  rfl

theorem frame_completes {payload frame : Bytes} (encoded : udpFrame payload = .ok frame) :
    Completes readDatagram false frame false (some payload) := by
  intro relay state rest running
  obtain ⟨small,rfl⟩ := (udpFrame_ok_iff payload frame).mp encoded
  have wants : readDatagram relay.state = .exactly (unexpectedEof "failed reading VLESS UDP payload length") 2
      readPayload := by
    rw [state]
    rfl
  have sized := pushAll_start readDatagram rest running wants _ (toBe16_length payload.length)
  rw [pushAll_append,sized,readPayload,
    pushAll_exactly readDatagram relay running _ _ _ payload (fromBe16_toBe16 small).symm]
  change {relay with future := readDatagram relay.state, delivered := relay.delivered ++ [payload]} = _
  rw [← state]
  rfl

theorem frames_stream {datagrams frames : List Bytes}
    (encoded : List.Forall₂ (fun payload frame => udpFrame payload = .ok frame) datagrams frames) :
    Stream readDatagram false frames datagrams := by
  induction encoded with
  | nil => exact .nil false
  | cons head _ ih => exact .cons (frame_completes head) ih

end Vless

namespace Trojan

def crlf : Bytes := [13,10]

def octets (n : Nat) (bits : Nat) : Bytes :=
  (List.range n).map fun i => UInt8.ofNat (bits >>> (8 * (n - 1 - i)))

def writeAddress : SocketAddr → Bytes
  | .v4 address port => 1::(octets 4 address.toNat ++ toBe16 port.toNat)
  | .v6 address port _ _ => 4::(octets 16 address.toNat ++ toBe16 port.toNat)

def udpPacket (target : SocketAddr) (payload : Bytes) : Except ProtocolError Bytes :=
  if payload.length > 65535 then failed "outbound-protocol" "Trojan UDP payload exceeds 65535 bytes"
  else .ok (writeAddress target ++ toBe16 payload.length ++ crlf ++ payload)

def readError : Except ProtocolError Bytes := earlyEof "failed reading Trojan UDP packet"

def readAddressRest (rest : DatagramReader Unit) (atyp : Bytes) : DatagramReader Unit :=
  match atyp.headD 0 with
  | 1 => .exactly readError 6 fun _ => rest
  | 3 => .exactly readError 1 fun length => .exactly readError ((length.headD 0).toNat + 2) fun _ => rest
  | 4 => .exactly readError 18 fun _ => rest
  | _ => .done (failed "outbound-protocol" "unsupported Trojan UDP address type")

def readAddress (rest : DatagramReader Unit) : DatagramReader Unit :=
  .exactly readError 1 (readAddressRest rest)

def readPayload (length delimiter : Bytes) : DatagramReader Unit :=
  if delimiter ≠ crlf then .done (failed "outbound-protocol" "invalid Trojan UDP packet delimiter")
  else .exactly readError (fromBe16 length) fun payload => .done (.ok payload)

def readLength : DatagramReader Unit :=
  .exactly readError 2 fun length => .exactly readError 2 (readPayload length)

def readDatagram (_ : Unit) : DatagramReader Unit := readAddress readLength

theorem udpPacket_ok_iff (target : SocketAddr) (payload packet : Bytes) :
    udpPacket target payload = .ok packet ↔ payload.length < 65536 ∧
      packet = writeAddress target ++ (toBe16 payload.length ++ (crlf ++ payload)) := by
  unfold udpPacket failed
  split
  next large => exact ⟨fun impossible => by contradiction,fun ⟨small,_⟩ => by omega⟩
  next small =>
    rw [Except.ok.injEq,eq_comm]
    simp only [List.append_assoc]
    exact (and_iff_right (by omega)).symm

theorem octets_length (n bits : Nat) : (octets n bits).length = n := by simp [octets]

theorem address_read {relay : Relay Unit ProtocolError Bytes} (rest : AtRest readDatagram relay)
    (running : relay.outcome = none) (source : SocketAddr) :
    pushAll readDatagram relay (writeAddress source) = advance readDatagram relay readLength := by
  have wants : readDatagram relay.state = .exactly readError 1 (readAddressRest readLength) := rfl
  cases source with
  | v4 address port =>
    have kind := pushAll_start readDatagram rest running wants [1] rfl
    have split : writeAddress (.v4 address port) = [1] ++ (octets 4 address.toNat ++ toBe16 port.toNat) := rfl
    rw [split,pushAll_append,kind]
    exact pushAll_exactly readDatagram relay running readError 6 (fun _ => readLength) _
      (by simp [octets_length,toBe16_length])
  | v6 address port flowinfo scopeId =>
    have kind := pushAll_start readDatagram rest running wants [4] rfl
    have split : writeAddress (.v6 address port flowinfo scopeId) =
        [4] ++ (octets 16 address.toNat ++ toBe16 port.toNat) := rfl
    rw [split,pushAll_append,kind]
    exact pushAll_exactly readDatagram relay running readError 18 (fun _ => readLength) _
      (by simp [octets_length,toBe16_length])

theorem packet_completes {source : SocketAddr} {payload packet : Bytes}
    (encoded : udpPacket source payload = .ok packet) :
    Completes readDatagram () packet () (some payload) := by
  intro relay state rest running
  obtain ⟨small,rfl⟩ := (udpPacket_ok_iff source payload packet).mp encoded
  have sized := pushAll_exactly readDatagram relay running readError 2
    (fun length => .exactly readError 2 (readPayload length)) _ (toBe16_length payload.length)
  have delimited := pushAll_exactly readDatagram relay running readError 2
    (readPayload (toBe16 payload.length)) crlf rfl
  rw [pushAll_append,address_read rest running,pushAll_append,readLength,sized,pushAll_append,delimited]
  exact pushAll_exactly readDatagram relay running readError _ _ payload (fromBe16_toBe16 small).symm

theorem packets_stream {packets : List (SocketAddr × Bytes)} {frames : List Bytes}
    (encoded : List.Forall₂ (fun packet frame => udpPacket packet.1 packet.2 = .ok frame) packets frames) :
    Stream readDatagram () frames (packets.map (·.2)) := by
  induction encoded with
  | nil => exact .nil ()
  | cons head _ ih => exact .cons (packet_completes head) ih

end Trojan

/-- The authenticated cipher of a session and its key derivation. -/
structure Aead where
  encrypt : Bytes → Bytes → Bytes → Bytes
  decrypt : Bytes → Bytes → Bytes → Option Bytes
  kdf16 : Bytes → String → Bytes
  kdf12 : Bytes → String → Bytes

structure Aead.Lawful (aead : Aead) : Prop where
  decrypt_encrypt : ∀ key nonce plaintext, aead.decrypt key nonce (aead.encrypt key nonce plaintext) = some plaintext
  encrypt_length : ∀ key nonce plaintext, (aead.encrypt key nonce plaintext).length = plaintext.length + 16

namespace Vmess

structure Session where
  key : Bytes
  iv : Bytes
  responseAuth : UInt8
  deriving DecidableEq, Repr

structure ReaderState where
  headerRead : Bool
  counter : UInt16
  deriving DecidableEq, Repr

def chunkNonce (counter : UInt16) (iv : Bytes) : Bytes := toBe16 counter.toNat ++ (iv.drop 2).take 10

abbrev ChunkReader := Reader ReaderState (Except (Stop ProtocolError) Bytes)

def validateResponseHeader (responseAuth : UInt8) (header : Bytes) : Option ProtocolError :=
  if header.length < 4 then some ⟨"outbound-protocol","truncated VMess response header"⟩
  else if header.headD 0 ≠ responseAuth then some ⟨"outbound-protocol","VMess response auth mismatch"⟩
  else if header.length ≠ 4 + (header.getD 3 0).toNat then
    some ⟨"outbound-protocol","invalid VMess response command length"⟩
  else none

section Read
variable (aead : Aead) (session : Session)

def decryptAead (key nonce ciphertext : Bytes) : Except ProtocolError Bytes :=
  match aead.decrypt key nonce ciphertext with
  | some plaintext => .ok plaintext
  | none => failed "outbound-crypto" "VMess AEAD decrypt failed: Error"

def lengthKey : Bytes := aead.kdf16 session.key "AEAD Resp Header Len Key"
def lengthIv : Bytes := aead.kdf12 session.iv "AEAD Resp Header Len IV"
def headerKey : Bytes := aead.kdf16 session.key "AEAD Resp Header Key"
def headerIv : Bytes := aead.kdf12 session.iv "AEAD Resp Header IV"

def encryptChunk (counter : UInt16) (payload : Bytes) : Except ProtocolError Bytes :=
  let ciphertext := aead.encrypt session.key (chunkNonce counter session.iv) payload
  if ciphertext.length > 65535 then failed "outbound-protocol" "VMess encrypted chunk is too large"
  else .ok (toBe16 ciphertext.length ++ ciphertext)

def encryptAll : UInt16 → List Bytes → Except ProtocolError (List Bytes)
  | _, [] => .ok []
  | counter, payload::rest => do
    let chunk ← encryptChunk aead session counter payload
    let chunks ← encryptAll (counter + 1) rest
    return chunk::chunks

namespace Body

def decryptChunk (state : ReaderState) (ciphertext : Bytes) : ChunkReader :=
  match decryptAead aead session.key (chunkNonce state.counter session.iv) ciphertext with
  | .error e => .done (.error (.failed e))
  | .ok payload => .keep {state with counter := state.counter + 1}
      (.done (if payload = [] then .error .closed else .ok payload))

def chunkEof : ProtocolError := cutShort "failed reading VMess data chunk"

def readCiphertext (state : ReaderState) (length : Bytes) : ChunkReader :=
  if fromBe16 length = 0 then .done (.error .closed)
  else .exactly (.error (.failed chunkEof)) (fromBe16 length) (decryptChunk aead session state)

def readLength (state : ReaderState) : ChunkReader := .exactly (.error .closed) 2 (readCiphertext aead session state)

def openHeader (rest : ChunkReader) (encryptedHeader : Bytes) : ChunkReader :=
  match decryptAead aead (headerKey aead session) (headerIv aead session) encryptedHeader with
  | .error e => .done (.error (.failed e))
  | .ok header => match validateResponseHeader session.responseAuth header with
    | some e => .done (.error (.failed e))
    | none => rest

def headerEof : ProtocolError := cutShort "failed reading VMess response header"

def openLength (rest : ChunkReader) (encryptedLength : Bytes) : ChunkReader :=
  match decryptAead aead (lengthKey aead session) (lengthIv aead session) encryptedLength with
  | .error e => .done (.error (.failed e))
  | .ok length =>
    if length.length ≠ 2 then .done (.error (.failed ⟨"outbound-protocol","invalid VMess response header length"⟩))
    else .exactly (.error (.failed headerEof)) (fromBe16 length + 16) (openHeader aead session rest)

def headerLengthEof : ProtocolError := cutShort "failed reading VMess response header length"

def readResponseHeader (rest : ChunkReader) : ChunkReader :=
  .exactly (.error (.failed headerLengthEof)) 18 (openLength aead session rest)

/-- `read_chunk`, where `Ok(None)` is a closed stream. -/
def readChunk (state : ReaderState) : ChunkReader :=
  if state.headerRead then readLength aead session state
  else readResponseHeader aead session
    (.keep {state with headerRead := true} (readLength aead session {state with headerRead := true}))

end Body

/-- `ok_or_else` around `read_chunk`. -/
def datagramError : Stop ProtocolError → ProtocolError
  | .closed => ⟨"outbound-read","VMess UDP stream closed"⟩
  | .failed e => e

def readDatagram : ReaderState → DatagramReader ReaderState := naming datagramError (Body.readChunk aead session)

def responseHeader (header : Bytes) : Bytes :=
  aead.encrypt (lengthKey aead session) (lengthIv aead session) (toBe16 header.length) ++
    aead.encrypt (headerKey aead session) (headerIv aead session) header

variable {aead session} (lawful : aead.Lawful)
include lawful

theorem decryptAead_encrypt (key nonce plaintext : Bytes) :
    decryptAead aead key nonce (aead.encrypt key nonce plaintext) = .ok plaintext := by
  rw [decryptAead,lawful.decrypt_encrypt]

namespace Body

theorem length_read {counter : UInt16} {payload chunk : Bytes}
    (encoded : encryptChunk aead session counter payload = .ok chunk) :
    ∃ size ciphertext, chunk = size ++ ciphertext ∧ size.length = 2 ∧ ciphertext.length = payload.length + 16 ∧
      readCiphertext aead session ⟨true,counter⟩ size =
        .exactly (.error (.failed chunkEof)) ciphertext.length (decryptChunk aead session ⟨true,counter⟩) ∧
      decryptChunk aead session ⟨true,counter⟩ ciphertext =
        .keep ⟨true,counter + 1⟩ (.done (if payload = [] then .error .closed else .ok payload)) := by
  unfold encryptChunk failed at encoded
  dsimp only at encoded
  split at encoded
  · cases encoded
  · rename_i small
    have sealed := lawful.encrypt_length session.key (chunkNonce counter session.iv) payload
    have size := fromBe16_toBe16 (by omega :
      (aead.encrypt session.key (chunkNonce counter session.iv) payload).length < 65536)
    refine ⟨_,_,(Except.ok.inj encoded).symm,toBe16_length _,sealed,?_,?_⟩
    · rw [readCiphertext,if_neg (by omega),size]
    · rw [decryptChunk,decryptAead_encrypt lawful]

theorem chunk_completes {counter : UInt16} {payload chunk : Bytes} (filled : payload ≠ [])
    (encoded : encryptChunk aead session counter payload = .ok chunk) :
    Completes (readChunk aead session) ⟨true,counter⟩ chunk ⟨true,counter + 1⟩ (some payload) := by
  intro relay state rest running
  obtain ⟨size,ciphertext,rfl,two,-,next,opened⟩ := length_read lawful encoded
  have wants : readChunk aead session relay.state = readLength aead session ⟨true,counter⟩ := by rw [state]; rfl
  have sized := pushAll_start (readChunk aead session) rest running wants size two
  rw [pushAll_append,sized,next,pushAll_exactly (readChunk aead session) relay running _ _ _ ciphertext rfl,opened,
    if_neg filled]
  rfl

theorem header_read {header : Bytes} (valid : validateResponseHeader session.responseAuth header = none) (rest : ChunkReader) :
    ∃ size body, responseHeader aead session header = size ++ body ∧ size.length = 18 ∧
      openLength aead session rest size =
        .exactly (.error (.failed headerEof)) body.length (openHeader aead session rest) ∧
      openHeader aead session rest body = rest := by
  have small : header.length < 65536 := by
    unfold validateResponseHeader at valid
    have bound := (header.getD 3 0).toNat_lt
    split at valid
    · cases valid
    · split at valid
      · cases valid
      · split at valid
        · cases valid
        · omega
  refine ⟨_,_,rfl,by rw [lawful.encrypt_length,toBe16_length],?_,?_⟩
  · rw [openLength,decryptAead_encrypt lawful]
    simp only [toBe16_length,ne_eq,not_true_eq_false,if_false,fromBe16_toBe16 small,lawful.encrypt_length]
  · rw [openHeader,decryptAead_encrypt lawful]
    simp only [valid]

theorem header_completes {header : Bytes} (valid : validateResponseHeader session.responseAuth header = none)
    (counter : UInt16) :
    Completes (readChunk aead session) ⟨false,counter⟩ (responseHeader aead session header) ⟨true,counter⟩ none := by
  intro relay state rest running
  obtain ⟨size,body,split,eighteen,opened,accepted⟩ :=
    header_read lawful valid (.keep ⟨true,counter⟩ (readLength aead session ⟨true,counter⟩))
  have wants : readChunk aead session relay.state = readResponseHeader aead session
      (.keep ⟨true,counter⟩ (readLength aead session ⟨true,counter⟩)) := by rw [state]; rfl
  have sized := pushAll_start (readChunk aead session) rest running wants size eighteen
  rw [split,pushAll_append,sized,opened,pushAll_exactly (readChunk aead session) relay running _ _ _ body rfl,accepted,
    Option.toList_none,List.append_nil]
  rfl

end Body

theorem chunks_stream {counter : UInt16} {datagrams chunks : List Bytes} (filled : ∀ payload ∈ datagrams, payload ≠ [])
    (encoded : encryptAll aead session counter datagrams = .ok chunks) :
    Stream (readDatagram aead session) ⟨true,counter⟩ chunks datagrams := by
  induction datagrams generalizing counter chunks with
  | nil =>
    cases encoded
    exact .nil _
  | cons payload datagrams ih =>
    obtain ⟨head,rest⟩ := List.forall_mem_cons.mp filled
    obtain ⟨chunk,first,more⟩ := (bind_ok_iff _ _ _).mp encoded
    obtain ⟨others,later,done⟩ := (bind_ok_iff _ _ _).mp more
    cases done
    exact .cons (Body.chunk_completes lawful head first).named (ih rest later)

end Read

end Vmess

/-- The three stream-framed UDP relays hand on exactly the encoded datagrams in
every run in which client payloads arrive between whole units of the stream. -/
theorem udp_relays_stay_in_step (addon : Bytes) (aead : Aead) (session : Vmess.Session) (header : Bytes)
    (datagrams frames : List Bytes) (packets : List (SocketAddr × Bytes)) :
    (addon.length < 256 → datagrams.mapM Vless.udpFrame = .ok frames →
      InStep Vless.readDatagram true (Vless.responseHeader addon::frames) datagrams) ∧
    (aead.Lawful → Vmess.validateResponseHeader session.responseAuth header = none →
      Vmess.encryptAll aead session 0 datagrams = .ok frames → (∀ payload ∈ datagrams, payload ≠ []) →
      InStep (Vmess.readDatagram aead session) ⟨false,0⟩
        (Vmess.responseHeader aead session header::frames) datagrams) ∧
    (packets.mapM (fun packet => Trojan.udpPacket packet.1 packet.2) = .ok frames →
      InStep Trojan.readDatagram () frames (packets.map (·.2))) := by
  refine ⟨?_,?_,?_⟩
  · intro small encoded
    have stream := Vless.frames_stream ((mapM_forall₂ _ _ _).mp encoded)
    exact (Stream.cons (Vless.header_completes addon small) stream).inStep
  · intro lawful valid encoded filled
    have stream := Vmess.chunks_stream lawful filled encoded
    exact (Stream.cons (Vmess.Body.header_completes lawful valid 0).named stream).inStep
  · intro encoded
    exact (Trojan.packets_stream ((mapM_forall₂ _ _ _).mp encoded)).inStep

def taggedAead : Aead where
  encrypt _ _ plaintext := plaintext ++ List.replicate 16 0
  decrypt _ _ ciphertext := if 16 ≤ ciphertext.length then some (ciphertext.take (ciphertext.length - 16)) else none
  kdf16 key _ := key
  kdf12 iv _ := iv.take 12

theorem taggedAead_lawful : taggedAead.Lawful := by
  constructor <;> intros <;> simp [taggedAead]

theorem udp_relays_in_step_pair :
    InStep Vless.readDatagram true [Vless.responseHeader [],[0,1,7],[0,2,8,9]] [[7],[8,9]] ∧
    InStep (Vmess.readDatagram taggedAead ⟨[],[],5⟩) ⟨false,0⟩
      [Vmess.responseHeader taggedAead ⟨[],[],5⟩ [5,0,0,0],[0,17,7] ++ List.replicate 16 0,
        [0,18,8,9] ++ List.replicate 16 0] [[7],[8,9]] ∧
    InStep Trojan.readDatagram () [[1,1,2,3,4,0,53,0,1,13,10,7],[1,1,2,3,5,0,53,0,2,13,10,8,9]] [[7],[8,9]] := by
  refine ⟨?_,?_,?_⟩
  · exact (udp_relays_stay_in_step [] taggedAead ⟨[],[],5⟩ [] [[7],[8,9]] [[0,1,7],[0,2,8,9]] []).1 (by decide) rfl
  · exact (udp_relays_stay_in_step [] taggedAead ⟨[],[],5⟩ [5,0,0,0] [[7],[8,9]]
      [[0,17,7] ++ List.replicate 16 0,[0,18,8,9] ++ List.replicate 16 0] []).2.1 taggedAead_lawful rfl rfl (by decide)
  · exact (udp_relays_stay_in_step [] taggedAead ⟨[],[],5⟩ [] []
      [[1,1,2,3,4,0,53,0,1,13,10,7],[1,1,2,3,5,0,53,0,2,13,10,8,9]]
      [(.v4 0x01020304 53,[7]),(.v4 0x01020305 53,[8,9])]).2.2 rfl

-- The client's payload falls between the two length bytes of the frame.
theorem vless_relay_loses_step :
    [[7]].mapM Vless.udpFrame = .ok [[0,1,7]] ∧
    reads [.read [0,0,0],.client [9],.read [1,7]] = [Vless.responseHeader [],[0,1,7]].flatten ∧
    (run Vless.readDatagram (new Vless.readDatagram true)
      [.read [0,0,0],.client [9],.read [1,7]]).delivered ≠ [[7]] := by
  refine ⟨rfl,rfl,?_⟩
  have lost : (run Vless.readDatagram (new Vless.readDatagram true)
      [.read [0,0,0],.client [9],.read [1,7]]).delivered = [] := rfl
  rw [lost]
  simp

end Dynet.Ingress
