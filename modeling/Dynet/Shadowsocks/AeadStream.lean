import Dynet.Lib.ByteCounter
import Dynet.Lib.StreamEnd
import Dynet.Shadowsocks.Udp

/-! The chunks of a Shadowsocks TCP stream in its two editions. A chunk is its length and
its payload, each sealed under the next nonce of the direction. The key derivation and
AES-GCM are parameters. -/
namespace Dynet.Shadowsocks
open Dynet.Lib Dynet.Lib.StreamReader Dynet.Lib.StreamReader.Relay

def nonceSize : Nat := 12

def incrementNonce (nonce : Bytes) : Bytes := ByteCounter.increment nonce

structure StreamCipher where
  deriveSubkey : Bytes → Bytes → Bytes
  encrypt : Bytes → Bytes → Bytes → Except String Bytes
  decrypt : Bytes → Bytes → Bytes → Except String Bytes

/-- What chunk sizes need of AES-GCM: it seals with a tag of sixteen bytes and opens what it sealed. -/
structure StreamCipher.Lawful (c : StreamCipher) : Prop where
  seals : ∀ key nonce plaintext, plaintext.length ≤ 0xffff → ∃ ciphertext, c.encrypt key nonce plaintext = .ok ciphertext ∧
    ciphertext.length = plaintext.length + tagSize ∧ c.decrypt key nonce ciphertext = .ok plaintext

/-- Where the two editions differ: the name in their errors, the largest payload, and
whether the reader checks a size against it. -/
structure ChunkFormat where
  label : String
  tcpChunkLimit : Nat
  checksSize : Bool
  deriving DecidableEq, Repr

def aead2017 : ChunkFormat := ⟨"Shadowsocks",0x3fff,true⟩
def aead2022 : ChunkFormat := ⟨"Shadowsocks 2022",0xffff,false⟩

structure AeadStream where
  key : Bytes
  nonce : Bytes
  sized : nonce.length = nonceSize
  deriving DecidableEq, Repr

namespace AeadStream

def fromSalt (c : StreamCipher) (key salt : Bytes) : AeadStream :=
  ⟨c.deriveSubkey key salt,List.replicate nonceSize 0,List.length_replicate⟩

def next (stream : AeadStream) : AeadStream :=
  ⟨stream.key,incrementNonce stream.nonce,by rw [incrementNonce,ByteCounter.length_increment]; exact stream.sized⟩

end AeadStream

def cryptoError (message : String) : Error := ⟨"outbound-crypto",message⟩
def readError (message : String) : Error := ⟨"outbound-read",s!"{message}: early eof"⟩

section Chunks
variable (c : StreamCipher) (format : ChunkFormat)

def encrypt (stream : AeadStream) (plaintext : Bytes) : Except Error (Bytes × AeadStream) :=
  match c.encrypt stream.key stream.nonce plaintext with
  | .error error => .error (cryptoError s!"{format.label} AEAD encrypt failed: {error}")
  | .ok ciphertext => .ok (ciphertext,stream.next)

def decrypt (stream : AeadStream) (ciphertext : Bytes) : Except Error (Bytes × AeadStream) :=
  match c.decrypt stream.key stream.nonce ciphertext with
  | .error error => .error (cryptoError s!"{format.label} AEAD decrypt failed: {error}")
  | .ok plaintext => .ok (plaintext,stream.next)

def encryptChunk (stream : AeadStream) (payload : Bytes) : Except Error (Bytes × AeadStream) := do
  if payload.length > format.tcpChunkLimit then
    .error (cryptoError s!"{format.label} TCP chunk exceeds {format.tcpChunkLimit} bytes")
  let (encryptedLength,stream) ← encrypt c format stream (beBytes 2 payload.length)
  let (encryptedPayload,stream) ← encrypt c format stream payload
  return (encryptedLength ++ encryptedPayload,stream)

/-- The writer's loop over the buffers it has read. -/
def encryptChunks (stream : AeadStream) : List Bytes → Except Error (List Bytes × AeadStream)
  | [] => .ok ([],stream)
  | payload::payloads => do
    let (chunk,stream) ← encryptChunk c format stream payload
    let (chunks,stream) ← encryptChunks stream payloads
    return (chunk::chunks,stream)

/-- The reading side of a relay; it has no stream before it has read the salt. -/
abbrev ChunkReader := Reader (Option AeadStream) (Except (Stop Error) Bytes)

def fail (error : Error) : Except (Stop Error) Bytes := .error (.failed error)

def decryptPayload (stream : AeadStream) (encryptedPayload : Bytes) : ChunkReader :=
  match decrypt c format stream encryptedPayload with
  | .error error => .done (fail error)
  | .ok (payload,stream) => .keep (some stream) (.done (.ok payload))

def payloadEof : Error := readError s!"failed reading {format.label} TCP payload chunk"

def readPayloadChunk (stream : AeadStream) (size : Nat) : ChunkReader :=
  .exactly (fail (payloadEof format)) (size + tagSize) (decryptPayload c format stream)

def readSize (stream : AeadStream) (encryptedLength : Bytes) : ChunkReader :=
  match decrypt c format stream encryptedLength with
  | .error error => .done (fail error)
  | .ok (length,stream) => .keep (some stream) <|
    if length.length ≠ 2 then .done (fail (cryptoError s!"invalid {format.label} TCP length chunk"))
    else if format.checksSize ∧ fromBe length > format.tcpChunkLimit then
      .done (fail (cryptoError s!"{format.label} TCP payload length exceeds limit"))
    else readPayloadChunk c format stream (fromBe length)

-- Any early end in the length, also half way through it, is taken for a closed stream.
def decryptChunk (stream : AeadStream) : ChunkReader :=
  .exactly (.error .closed) (2 + tagSize) (readSize c format stream)

/-- Chunks follow the opening of the response. -/
def receive (opening : ChunkReader) : Option AeadStream → ChunkReader
  | none => opening
  | some stream => decryptChunk c format stream

end Chunks

namespace Aead2017

def encryptChunk (c : StreamCipher) := Shadowsocks.encryptChunk c aead2017
def decryptChunk (c : StreamCipher) := Shadowsocks.decryptChunk c aead2017

end Aead2017

namespace Aead2022

def encryptChunk (c : StreamCipher) := Shadowsocks.encryptChunk c aead2022
def decryptChunk (c : StreamCipher) := Shadowsocks.decryptChunk c aead2022

end Aead2022

section Lawful
variable {c : StreamCipher} {format : ChunkFormat} (lawful : c.Lawful)
include lawful

theorem encrypt_spec (stream : AeadStream) {plaintext : Bytes} (small : plaintext.length ≤ 0xffff) :
    ∃ ciphertext, c.encrypt stream.key stream.nonce plaintext = .ok ciphertext ∧
      encrypt c format stream plaintext = .ok (ciphertext,stream.next) ∧
      ciphertext.length = plaintext.length + tagSize ∧ decrypt c format stream ciphertext = .ok (plaintext,stream.next) := by
  obtain ⟨ciphertext,sealed,length,opened⟩ := lawful.seals stream.key stream.nonce plaintext small
  exact ⟨ciphertext,sealed,by rw [encrypt,sealed],length,by rw [decrypt,opened]⟩

theorem encryptChunk_spec (stream : AeadStream) {payload : Bytes} (fits : payload.length ≤ format.tcpChunkLimit)
    (small : format.tcpChunkLimit ≤ 0xffff) :
    ∃ size body, c.encrypt stream.key stream.nonce (beBytes 2 payload.length) = .ok size ∧
      c.encrypt stream.key stream.next.nonce payload = .ok body ∧
      encryptChunk c format stream payload = .ok (size ++ body,stream.next.next) ∧
      size.length = 2 + tagSize ∧ body.length = payload.length + tagSize ∧
      decrypt c format stream size = .ok (beBytes 2 payload.length,stream.next) ∧
      decrypt c format stream.next body = .ok (payload,stream.next.next) := by
  have two : (beBytes 2 payload.length).length = 2 := rfl
  obtain ⟨size,sizeSealed,sized,sizeLength,sizeOpened⟩ := @encrypt_spec c format lawful stream (beBytes 2 payload.length)
    (by rw [two]; omega)
  obtain ⟨body,bodySealed,filled,bodyLength,bodyOpened⟩ := @encrypt_spec c format lawful stream.next payload (by omega)
  refine ⟨size,body,sizeSealed,bodySealed,?_,sizeLength,bodyLength,sizeOpened,bodyOpened⟩
  rw [encryptChunk,if_neg (by omega)]
  simp only [sized,filled,bind,Except.bind,pure,Except.pure]

end Lawful

end Dynet.Shadowsocks
