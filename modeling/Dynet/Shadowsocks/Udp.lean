import Dynet.Runtime.Net
import Dynet.Shadowsocks.ReplayWindow
import Mathlib.Data.List.Induction
import Mathlib.Logic.Function.Basic

/-! A Shadowsocks 2022 UDP session: one packet counter for what it sends and one replay
window for each server session it hears from. The ciphers are parameters. -/
namespace Dynet.Shadowsocks
open Dynet.Runtime (SocketAddr)
open Dynet.Lib.Replay

abbrev Bytes := List UInt8

def keySize : Nat := 16
def sessionIdSize : Nat := 8
def separateHeaderSize : Nat := 16
def tagSize : Nat := 16
def headerTypeClientPacket : UInt8 := 0
def headerTypeServerPacket : UInt8 := 1
def timestampToleranceSecs : UInt64 := 30
def sessionSubkeyContext : String := "shadowsocks 2022 session subkey"

/-- `to_be_bytes` of a number of `width` bytes. -/
def beBytes : Nat → Nat → Bytes
  | 0, _ => []
  | width+1, n => beBytes width (n / 256) ++ [UInt8.ofNat n]

def fromBe (bytes : Bytes) : Nat := bytes.foldl (fun n b => n * 256 + b.toNat) 0

theorem fromBe_beBytes (width n : Nat) : fromBe (beBytes width n) = n % 256 ^ width := by
  induction width generalizing n with
  | zero => simp [beBytes,fromBe,Nat.mod_one]
  | succ width ih =>
    have last : fromBe (beBytes (width + 1) n) = fromBe (beBytes width (n / 256)) * 256 + n % 256 := by
      simp [beBytes,fromBe,List.foldl_append]
    rw [last,ih,Nat.pow_succ',Nat.mod_mul,Nat.mul_comm]
    omega

theorem beBytes_length (width n : Nat) : (beBytes width n).length = width := by
  induction width generalizing n with
  | zero => rfl
  | succ width ih => rw [beBytes,List.length_append,ih,List.length_singleton]

theorem fromBe_append (bytes : Bytes) (last : UInt8) : fromBe (bytes ++ [last]) = fromBe bytes * 256 + last.toNat := by
  simp [fromBe,List.foldl_append]

theorem fromBe_lt (bytes : Bytes) : fromBe bytes < 256 ^ bytes.length := by
  induction bytes using List.reverseRecOn with
  | nil => decide
  | append_singleton bytes last ih =>
    have small := last.toNat_lt
    rw [fromBe_append,List.length_append,List.length_singleton,Nat.pow_succ]
    omega

theorem beBytes_fromBe (bytes : Bytes) : beBytes bytes.length (fromBe bytes) = bytes := by
  induction bytes using List.reverseRecOn with
  | nil => rfl
  | append_singleton bytes last ih =>
    have small := last.toNat_lt
    have front : (fromBe bytes * 256 + last.toNat) / 256 = fromBe bytes := by omega
    have back : UInt8.ofNat (fromBe bytes * 256 + last.toNat) = last := by
      rw [← UInt8.toNat_inj,UInt8.toNat_ofNat']
      omega
    rw [fromBe_append,List.length_append,List.length_singleton,beBytes,front,back,ih]

/-- AES-128 on one block, BLAKE3 key derivation and AES-128-GCM, whose failures carry
the text of the library's error. -/
structure Primitives where
  encryptBlock : Bytes → Bytes → Bytes
  decryptBlock : Bytes → Bytes → Bytes
  deriveKey : String → Bytes → Bytes
  encrypt : Bytes → Bytes → Bytes → Except String Bytes
  decrypt : Bytes → Bytes → Bytes → Except String Bytes

structure Cipher where
  key : Bytes
  sized : key.length = keySize
  deriving DecidableEq, Repr

def socksAddress : SocketAddr → Bytes
  | .v4 address port => 1::beBytes 4 address.toNat ++ beBytes 2 port.toNat
  | .v6 address port _ _ => 4::beBytes 16 address.toNat ++ beBytes 2 port.toNat

def packetError (message : String) : Error :=
  ⟨"outbound-crypto",s!"invalid Shadowsocks UDP payload: {message}"⟩

def socksPayloadOffset (packet : Bytes) : Except Error Nat := do
  let offset ← match packet with
    | [] => .error (packetError "missing SOCKS address type")
    | 1::_ => .ok (1 + 4 + 2)
    | [3] => .error (packetError "missing SOCKS domain length")
    | 3::length::_ => .ok (1 + 1 + length.toNat + 2)
    | 4::_ => .ok (1 + 16 + 2)
    | _ => .error (packetError "unsupported SOCKS address type")
  if packet.length < offset then .error (packetError "truncated SOCKS address")
  else .ok offset

def validateTimestamp (now timestamp : UInt64) (context : String) : Except Error Unit :=
  let delta := if now < timestamp then timestamp - now else now - timestamp
  if timestampToleranceSecs < delta then
    .error ⟨"outbound-crypto",s!"Shadowsocks 2022 {context} timestamp outside replay window"⟩
  else .ok ()

section Packets
variable (p : Primitives)

-- `new_from_slice` refuses only keys of another length.
def sessionSubkey (key salt : Bytes) : Bytes := (p.deriveKey sessionSubkeyContext (key ++ salt)).take keySize

structure UdpSession where
  cipher : Cipher
  sessionId : Bytes
  packetId : UInt64
  serverWindows : Bytes → Option ReplayWindow

def UdpSession.new (cipher : Cipher) (sessionId : Bytes) : UdpSession := ⟨cipher,sessionId,0,fun _ => none⟩

def separateHeader (sessionId : Bytes) (packetId : UInt64) : Bytes := sessionId ++ beBytes 8 packetId.toNat

def encryptUdpBody (session : UdpSession) (header body : Bytes) : Except Error Bytes :=
  let encryptedHeader := p.encryptBlock session.cipher.key header
  let subkey := sessionSubkey p session.cipher.key (header.take sessionIdSize)
  match p.encrypt subkey (header.drop 4) body with
  | .error error => .error ⟨"outbound-crypto",s!"Shadowsocks 2022 UDP encrypt failed: {error}"⟩
  | .ok encryptedBody => .ok (encryptedHeader ++ encryptedBody)

def decryptUdpBody (key header encryptedBody : Bytes) : Except Error Bytes :=
  let subkey := sessionSubkey p key (header.take sessionIdSize)
  match p.decrypt subkey (header.drop 4) encryptedBody with
  | .error error => .error ⟨"outbound-crypto",s!"Shadowsocks 2022 UDP decrypt failed: {error}"⟩
  | .ok plaintext => .ok plaintext

/-- The number the next datagram carries; the counter moves on before it is used. -/
def takePacketId (session : UdpSession) : Except Error (UInt64 × UdpSession) :=
  if session.packetId.toNat + 1 < 2 ^ 64 then
    .ok (session.packetId,{session with packetId := session.packetId + 1})
  else .error ⟨"outbound-crypto","Shadowsocks 2022 UDP packet ID overflow"⟩

def encodeUdpDatagram (session : UdpSession) (now : UInt64) (target : SocketAddr) (payload : Bytes) :
    UdpSession × Except Error Bytes :=
  match takePacketId session with
  | .error error => (session,.error error)
  | .ok (packetId,session) =>
    let header := separateHeader session.sessionId packetId
    let body := headerTypeClientPacket::beBytes 8 now.toNat ++ beBytes 2 0 ++ socksAddress target ++ payload
    (session,encryptUdpBody p session header body)

def decodeServerPacket (now : UInt64) (clientSessionId plaintext : Bytes) : Except Error Bytes := do
  if plaintext.length < 1 + 8 + sessionIdSize + 2 then .error (packetError "truncated Shadowsocks 2022 UDP header")
  if plaintext.head? ≠ some headerTypeServerPacket then .error (packetError "unsupported Shadowsocks 2022 UDP packet type")
  validateTimestamp now (.ofNat (fromBe ((plaintext.drop 1).take 8))) "UDP packet"
  let sessionStart := 1 + 8
  let sessionEnd := sessionStart + sessionIdSize
  if (plaintext.drop sessionStart).take sessionIdSize ≠ clientSessionId then
    .error (packetError "unexpected Shadowsocks 2022 client session ID")
  let paddingStart := sessionEnd + 2
  let paddingLen := fromBe ((plaintext.drop sessionEnd).take 2)
  let addressStart := paddingStart + paddingLen
  if plaintext.length < addressStart then .error (packetError "truncated Shadowsocks 2022 UDP padding")
  let payloadOffset := addressStart + (← socksPayloadOffset (plaintext.drop addressStart))
  .ok (plaintext.drop payloadOffset)

structure ServerPacket where
  serverSessionId : Bytes
  serverPacketId : UInt64
  payload : Bytes
  deriving DecidableEq, Repr

/-- Everything the decoder checks before it asks the replay window. -/
def authenticate (session : UdpSession) (now : UInt64) (packet : Bytes) : Except Error ServerPacket := do
  if packet.length < separateHeaderSize + tagSize then
    .error ⟨"outbound-crypto","Shadowsocks 2022 UDP packet is too short"⟩
  let encryptedHeader := packet.take separateHeaderSize
  let encryptedBody := packet.drop separateHeaderSize
  let header := p.decryptBlock session.cipher.key encryptedHeader
  let serverSessionId := header.take sessionIdSize
  if serverSessionId = session.sessionId then
    .error (packetError "server reused Shadowsocks 2022 client session ID")
  let serverPacketId := UInt64.ofNat (fromBe (header.drop sessionIdSize))
  let plaintext ← decryptUdpBody p session.cipher.key header encryptedBody
  let payload ← decodeServerPacket now session.sessionId plaintext
  .ok ⟨serverSessionId,serverPacketId,payload⟩

/-- `entry(..).or_default()` leaves a fresh window in the map whatever it answers. -/
def UdpSession.checkAndUpdate (session : UdpSession) (server : Bytes) (packetId : UInt64) :
    UdpSession × Except Error Unit :=
  let (window,answer) := ((session.serverWindows server).getD {}).checkAndUpdate packetId
  ({session with serverWindows := Function.update session.serverWindows server (some window)},answer)

def decodeUdpDatagram (session : UdpSession) (now : UInt64) (packet : Bytes) : UdpSession × Except Error Bytes :=
  match authenticate p session now packet with
  | .error error => (session,.error error)
  | .ok server =>
    let (session,answer) := session.checkAndUpdate server.serverSessionId server.serverPacketId
    (session,answer.map fun _ => server.payload)

end Packets

end Dynet.Shadowsocks
