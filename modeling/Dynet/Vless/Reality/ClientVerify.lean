import Dynet.Vless.BufReader
import Dynet.Vless.Reality.Crypto

/-! What the client reads from the server's handshake messages: key share and cipher
suite of the ServerHello, the certificate with its REALITY signature, and the signature
of the CertificateVerify message. -/
namespace Dynet.Vless.Reality
open BufReader

/-! Fields of the ServerHello. -/

def skipServerHelloFront : ReadM Unit := do
  let _ ← readU8
  let _ ← readU24Be
  let _ ← readU16Be
  skip 32
  let sessionIdLen ← readU8
  skip sessionIdLen.toNat

def parseServerKeyshareExtension : ReadM Bytes := do
  let group ← readU16Be
  let keyLen ← readU16Be
  if group = 29 then
    if keyLen ≠ 32 then throw (invalidData s!"Invalid X25519 key length: {keyLen}")
    readSlice 32
  else throw (invalidData "X25519 key share not found in ServerHello KeyShare extension")

-- Every extension takes four bytes at least, so the bytes of the message bound the rounds.
def findServerKeyshare (extensionsEnd : Nat) : Nat → ReadM Bytes
  | 0 => throw (invalidData "KeyShare extension not found in ServerHello")
  | rounds+1 => do
    if (← position) < extensionsEnd then
      let extType ← readU16Be
      let extLen ← readU16Be
      if extType = 51 then
        let data ← readSlice extLen
        BufReader.run parseServerKeyshareExtension data
      else
        skip extLen
        findServerKeyshare extensionsEnd rounds
    else throw (invalidData "KeyShare extension not found in ServerHello")

def extractServerPublicKey (serverHello : Bytes) : Except IoError Bytes :=
  if serverHello.length < 5 then .error (invalidData "ServerHello too short")
  else BufReader.run (do
    skipServerHelloFront
    skip 2
    skip 1
    let extensionsLen ← readU16Be
    let start ← position
    findServerKeyshare (start + extensionsLen) (serverHello.length + 1)) (serverHello.drop 5)

def extractServerCipherSuite (serverHello : Bytes) : Except IoError Nat :=
  if serverHello.length < 5 then .error (invalidData "ServerHello too short")
  else BufReader.run (do
    skipServerHelloFront
    readU16Be) (serverHello.drop 5)

/-! The certificate and the proof of its key. -/

def byteAt (bytes : Bytes) (i : Nat) : UInt8 := bytes.getD i 0

def be24At (bytes : Bytes) (i : Nat) : Nat := be24 (byteAt bytes i) (byteAt bytes (i+1)) (byteAt bytes (i+2))

def be16At (bytes : Bytes) (i : Nat) : Nat := be16 (byteAt bytes i) (byteAt bytes (i+1))

def extractCertificateDer (message : Bytes) : Except IoError Bytes := do
  if message.length < 4 then throw (invalidData "Certificate message too short")
  if 4 ≥ message.length then throw (invalidData "Certificate message truncated at context length")
  let pos := 4 + 1 + (byteAt message 4).toNat
  if pos + 3 > message.length then throw (invalidData "Certificate message truncated at list length")
  let pos := pos + 3
  if pos + 3 > message.length then throw (invalidData "Certificate message truncated at cert length")
  let certLen := be24At message pos
  let pos := pos + 3
  if pos + certLen > message.length then throw (invalidData "Certificate message truncated at cert data")
  return (message.drop pos).take certLen

section Verify
variable (crypto : Crypto)

def fromDer (certDer : Bytes) : Except IoError Certificate :=
  (crypto.certificate certDer).mapError fun e => invalidData s!"Failed to parse X.509 certificate: {e}"

def verifyCertificateHmac (certDer authKey : Bytes) : Except IoError Unit := do
  let cert ← fromDer crypto certDer
  if cert.publicKey.length ≠ 32 then
    throw (invalidData s!"Expected Ed25519 public key (32 bytes), got {cert.publicKey.length} bytes")
  if cert.signature.length ≠ 64 then
    throw (invalidData
      s!"Expected 64-byte signature for HMAC-SHA512 verification, got {cert.signature.length} bytes")
  if crypto.hmac .sha512 authKey cert.publicKey ≠ cert.signature then
    throw ⟨.permissionDenied,"Certificate HMAC verification failed - not a REALITY-signed certificate"⟩

def extractEd25519PublicKey (certDer : Bytes) : Except IoError Bytes := do
  let cert ← fromDer crypto certDer
  if cert.publicKey.length ≠ 32 then
    throw (invalidData s!"Expected Ed25519 public key (32 bytes), got {cert.publicKey.length} bytes")
  return cert.publicKey

def hexU16 (n : Nat) : String := hexByte (UInt8.ofNat (n / 256)) ++ hexByte (UInt8.ofNat n)

def extractCertificateVerifySignature (message : Bytes) : Except IoError Bytes := do
  if message.length < 72 then throw (invalidData s!"CertificateVerify message too short: {message.length} bytes")
  if byteAt message 0 ≠ 0x0f then
    throw (invalidData s!"Expected CertificateVerify type (0x0f), got 0x{hexByte (byteAt message 0)}")
  if be16At message 4 ≠ 0x0807 then
    throw (invalidData
      s!"Unsupported signature algorithm: 0x{hexU16 (be16At message 4)}, expected Ed25519 (0x0807)")
  if be16At message 6 ≠ 64 then
    throw (invalidData s!"Invalid Ed25519 signature length: {be16At message 6}, expected 64")
  if 8 + 64 > message.length then throw (invalidData "CertificateVerify message truncated")
  return (message.drop 8).take 64

/-- The content a CertificateVerify signature covers. -/
def signedContent (transcriptHash : Bytes) : Bytes :=
  List.replicate 64 0x20 ++ ascii "TLS 1.3, server CertificateVerify" ++ [0x00] ++ transcriptHash

def verifyCertificateVerifySignature (publicKey signature transcriptHash : Bytes) : Except IoError Unit := do
  if signature.length ≠ 64 then
    throw (invalidData s!"Invalid signature length: {signature.length}, expected 64")
  if crypto.ed25519Verify publicKey (signedContent transcriptHash) signature = false then
    throw ⟨.permissionDenied,"CertificateVerify signature verification failed"⟩

end Verify

end Dynet.Vless.Reality
