import Mathlib.Algebra.Group.Nat.Defs
import Mathlib.Data.List.Basic
import Dynet.Lib.Checks
import Dynet.Vless.Basic

/-! The primitives a REALITY connection is built on and the TLS 1.3 key schedule over
them. The primitives are given functions (`Crypto`); the schedule is the source's. -/
namespace Dynet.Vless.Reality
open Dynet.Lib.Checks

inductive CipherSuite where
  | aes128GcmSha256
  | aes256GcmSha384
  | chacha20Poly1305Sha256
  deriving DecidableEq, Repr

inductive HmacAlgorithm where
  | sha256
  | sha384
  | sha512
  deriving DecidableEq, Repr

namespace CipherSuite

def fromId (id : Nat) : Option CipherSuite :=
  if id = 0x1301 then some .aes128GcmSha256 else if id = 0x1302 then some .aes256GcmSha384
  else if id = 0x1303 then some .chacha20Poly1305Sha256 else none

def name : CipherSuite → String
  | .aes128GcmSha256 => "TLS_AES_128_GCM_SHA256"
  | .aes256GcmSha384 => "TLS_AES_256_GCM_SHA384"
  | .chacha20Poly1305Sha256 => "TLS_CHACHA20_POLY1305_SHA256"

def keyLen : CipherSuite → Nat
  | .aes128GcmSha256 => 16
  | _ => 32

def nonceLen (_ : CipherSuite) : Nat := 12

def hmacAlgorithm : CipherSuite → HmacAlgorithm
  | .aes256GcmSha384 => .sha384
  | _ => .sha256

end CipherSuite

def HmacAlgorithm.outputLen : HmacAlgorithm → Nat
  | .sha256 => 32
  | .sha384 => 48
  | .sha512 => 64

def CipherSuite.hashLen (suite : CipherSuite) : Nat := suite.hmacAlgorithm.outputLen

/-- What `x509-parser` reads from a certificate and the connection looks at. -/
structure Certificate where
  publicKey : Bytes
  signature : Bytes
  deriving DecidableEq, Repr

structure Crypto where
  sealInPlace : CipherSuite → (key nonce aad plaintext : Bytes) → Option Bytes
  openInPlace : CipherSuite → (key nonce aad ciphertext : Bytes) → Option Bytes
  digest : CipherSuite → Bytes → Bytes
  hmac : HmacAlgorithm → (key data : Bytes) → Bytes
  agree : (privateKey publicKey : Bytes) → Option Bytes
  certificate : Bytes → Except String Certificate
  ed25519Verify : (publicKey message signature : Bytes) → Bool

/-- What the documentation of the primitives promises: opening undoes sealing and strips
the tag of 16 bytes, a record of legal size can be sealed, and a MAC has its length. -/
structure Crypto.Lawful (crypto : Crypto) : Prop where
  opens : ∀ {suite key nonce aad plaintext sealed}, crypto.sealInPlace suite key nonce aad plaintext = some sealed →
    crypto.openInPlace suite key nonce aad sealed = some plaintext
  tag : ∀ {suite key nonce aad plaintext sealed}, crypto.sealInPlace suite key nonce aad plaintext = some sealed →
    sealed.length = plaintext.length + 16
  strips : ∀ {suite key nonce aad ciphertext plaintext},
    crypto.openInPlace suite key nonce aad ciphertext = some plaintext → ciphertext.length = plaintext.length + 16
  seals : ∀ suite (key nonce aad plaintext : Bytes), key.length = suite.keyLen → nonce.length = 12 →
    plaintext.length ≤ 16384 + 240 → ∃ sealed, crypto.sealInPlace suite key nonce aad plaintext = some sealed
  macs : ∀ algorithm (key data : Bytes), (crypto.hmac algorithm key data).length = algorithm.outputLen

structure AeadKey where
  suite : CipherSuite
  key : Bytes
  sized : key.length = suite.keyLen
  deriving DecidableEq

namespace AeadKey

def new (suite : CipherSuite) (key : Bytes) : Except IoError AeadKey :=
  if sized : key.length = suite.keyLen then .ok ⟨suite,key,sized⟩
  else .error ⟨.invalidInput,
    s!"Invalid key length for {suite.name}: {key.length} (expected {suite.keyLen})"⟩

def seqBytes (seq : Nat) : Bytes :=
  [UInt8.ofNat (seq / 2^56),UInt8.ofNat (seq / 2^48),UInt8.ofNat (seq / 2^40),UInt8.ofNat (seq / 2^32),
    UInt8.ofNat (seq / 2^24),UInt8.ofNat (seq / 2^16),UInt8.ofNat (seq / 2^8),UInt8.ofNat seq]

-- The last eight bytes of the IV are mixed with the sequence number.
def makeNonce (iv : Bytes) (seq : Nat) : Except IoError Bytes :=
  if iv.length ≠ 12 then .error ⟨.invalidInput,s!"Invalid IV length: {iv.length} (expected 12)"⟩
  else .ok (iv.take 4 ++ List.zipWith (· ^^^ ·) (iv.drop 4) (seqBytes seq))

variable (crypto : Crypto)

def sealInPlace (key : AeadKey) (plaintext iv : Bytes) (seq : Nat) (aad : Bytes) : Except IoError Bytes := do
  let nonce ← makeNonce iv seq
  match crypto.sealInPlace key.suite key.key nonce aad plaintext with
  | some sealed => return sealed
  | none => throw (invalidData "Encryption failed: Unspecified")

def openInPlaceSlice (key : AeadKey) (ciphertext iv : Bytes) (seq : Nat) (aad : Bytes) : Except IoError Bytes := do
  let nonce ← makeNonce iv seq
  match crypto.openInPlace key.suite key.key nonce aad ciphertext with
  | some plaintext => return plaintext
  | none => throw (invalidData "Decryption failed: Unspecified")

end AeadKey

section Schedule
variable (crypto : Crypto)

def ascii (text : String) : Bytes := text.toList.map fun letter => UInt8.ofNat letter.toNat

def hkdfBlocks (algorithm : HmacAlgorithm) (prk info : Bytes) : Nat → Nat → Bytes → Bytes
  | 0, _, _ => []
  | blocks+1, i, prev =>
    let tag := crypto.hmac algorithm prk (prev ++ info ++ [UInt8.ofNat i])
    tag ++ hkdfBlocks algorithm prk info blocks (i+1) tag

def hkdfExpand (algorithm : HmacAlgorithm) (prk info : Bytes) (length : Nat) : Except IoError Bytes :=
  let n := (length + algorithm.outputLen - 1) / algorithm.outputLen
  if n > 255 then .error (invalidData "HKDF output too long")
  else .ok ((hkdfBlocks crypto algorithm prk info n 1 []).take length)

def hkdfExpandLabel (algorithm : HmacAlgorithm) (secret : Bytes) (label : String) (context : Bytes) (length : Nat) :
    Except IoError Bytes :=
  let fullLabel := ascii "tls13 " ++ ascii label
  hkdfExpand crypto algorithm secret
    (toBe16 length ++ [UInt8.ofNat fullLabel.length] ++ fullLabel ++ [UInt8.ofNat context.length] ++ context) length

def deriveSecret (algorithm : HmacAlgorithm) (secret : Bytes) (label : String) (messagesHash : Bytes) :
    Except IoError Bytes :=
  hkdfExpandLabel crypto algorithm secret label messagesHash algorithm.outputLen

def hkdfExtract (algorithm : HmacAlgorithm) (salt ikm : Bytes) : Bytes := crypto.hmac algorithm salt ikm

def deriveTrafficKeys (trafficSecret : Bytes) (suite : CipherSuite) : Except IoError (Bytes × Bytes) := do
  let key ← hkdfExpandLabel crypto suite.hmacAlgorithm trafficSecret "key" [] suite.keyLen
  let iv ← hkdfExpandLabel crypto suite.hmacAlgorithm trafficSecret "iv" [] suite.nonceLen
  return (key,iv)

structure Tls13HandshakeKeys where
  clientHandshakeTrafficSecret : Bytes
  serverHandshakeTrafficSecret : Bytes
  masterSecret : Bytes
  deriving DecidableEq, Repr

def deriveHandshakeKeys (suite : CipherSuite) (sharedSecret serverHelloHash : Bytes) :
    Except IoError Tls13HandshakeKeys := do
  let algorithm := suite.hmacAlgorithm
  if sharedSecret.length ≠ 32 then
    throw ⟨.invalidInput,s!"Invalid shared_secret length: {sharedSecret.length} (expected 32)"⟩
  if serverHelloHash.length ≠ suite.hashLen then
    throw ⟨.invalidInput,s!"Hash length mismatch: {serverHelloHash.length} (expected {suite.hashLen})"⟩
  let zeroSalt := List.replicate suite.hashLen 0
  let earlySecret := hkdfExtract crypto algorithm zeroSalt zeroSalt
  let derivedSecret ← deriveSecret crypto algorithm earlySecret "derived" (crypto.digest suite [])
  let handshakeSecret := hkdfExtract crypto algorithm derivedSecret sharedSecret
  let client ← deriveSecret crypto algorithm handshakeSecret "c hs traffic" serverHelloHash
  let server ← deriveSecret crypto algorithm handshakeSecret "s hs traffic" serverHelloHash
  let derivedSecret2 ← deriveSecret crypto algorithm handshakeSecret "derived" (crypto.digest suite [])
  return ⟨client,server,hkdfExtract crypto algorithm derivedSecret2 zeroSalt⟩

def deriveApplicationSecrets (suite : CipherSuite) (masterSecret handshakeHash : Bytes) :
    Except IoError (Bytes × Bytes) := do
  if masterSecret.length ≠ suite.hashLen ∨ handshakeHash.length ≠ suite.hashLen then
    throw ⟨.invalidInput,s!"Master secret and handshake hash must be {suite.hashLen} bytes"⟩
  let client ← deriveSecret crypto suite.hmacAlgorithm masterSecret "c ap traffic" handshakeHash
  let server ← deriveSecret crypto suite.hmacAlgorithm masterSecret "s ap traffic" handshakeHash
  return (client,server)

def computeFinishedVerifyData (suite : CipherSuite) (baseKey handshakeHash : Bytes) : Except IoError Bytes := do
  let finishedKey ← hkdfExpandLabel crypto suite.hmacAlgorithm baseKey "finished" [] suite.hashLen
  return crypto.hmac suite.hmacAlgorithm finishedKey handshakeHash

variable {crypto}

theorem hkdfBlocks_length (lawful : crypto.Lawful) (algorithm : HmacAlgorithm) (prk info : Bytes) (blocks i : Nat)
    (prev : Bytes) : (hkdfBlocks crypto algorithm prk info blocks i prev).length = blocks * algorithm.outputLen := by
  induction blocks generalizing i prev with
  | zero => simp [hkdfBlocks]
  | succ blocks ih =>
    rw [hkdfBlocks,List.length_append,lawful.macs,ih,Nat.succ_mul,Nat.add_comm]

theorem hkdfExpandLabel_length (lawful : crypto.Lawful) {algorithm : HmacAlgorithm} {secret context out : Bytes}
    {label : String} {length : Nat} (made : hkdfExpandLabel crypto algorithm secret label context length = .ok out) :
    out.length = length := by
  rw [hkdfExpandLabel,hkdfExpand] at made
  split at made
  · cases made
  · cases made
    rw [List.length_take,hkdfBlocks_length lawful]
    cases algorithm <;> simp only [HmacAlgorithm.outputLen] <;> omega

theorem deriveTrafficKeys_length (lawful : crypto.Lawful) {secret key iv : Bytes} {suite : CipherSuite}
    (made : deriveTrafficKeys crypto secret suite = .ok (key,iv)) : key.length = suite.keyLen ∧ iv.length = 12 := by
  rw [deriveTrafficKeys] at made
  obtain ⟨first,keyMade,rest⟩ := (bind_ok_iff _ _ _).mp made
  obtain ⟨second,ivMade,same⟩ := (bind_ok_iff _ _ _).mp rest
  cases same
  exact ⟨hkdfExpandLabel_length lawful keyMade,hkdfExpandLabel_length lawful ivMade⟩

theorem deriveTrafficKeys_ok (crypto : Crypto) (secret : Bytes) (suite : CipherSuite) :
    ∃ key iv, deriveTrafficKeys crypto secret suite = .ok (key,iv) := by
  cases suite <;> exact ⟨_,_,rfl⟩

end Schedule

/-! A model of the laws: the tag repeats nonce, header and key, and the other primitives
hand their arguments on. -/

def mixed (length : Nat) (bytes : Bytes) : Bytes := (bytes ++ List.replicate length 0).take length

@[simp] theorem mixed_length (length : Nat) (bytes : Bytes) : (mixed length bytes).length = length := by
  simp [mixed]

def sampleCrypto : Crypto where
  sealInPlace _ key nonce aad plaintext := some (plaintext ++ mixed 16 (nonce ++ aad ++ key))
  openInPlace _ key nonce aad ciphertext :=
    if ciphertext.drop (ciphertext.length - 16) = mixed 16 (nonce ++ aad ++ key) then
      some (ciphertext.take (ciphertext.length - 16))
    else none
  digest suite bytes := mixed suite.hashLen (UInt8.ofNat bytes.length::bytes)
  hmac algorithm key data := mixed algorithm.outputLen (data ++ key)
  agree privateKey publicKey := some (mixed 32 (privateKey ++ publicKey))
  certificate der := if der.length = 96 then .ok ⟨der.take 32,der.drop 32⟩ else .error "length"
  ed25519Verify publicKey message signature := signature = mixed 64 (publicKey ++ message.drop 98)

theorem sampleCrypto_lawful : sampleCrypto.Lawful where
  opens := by
    intro suite key nonce aad plaintext sealed made
    cases made
    simp [sampleCrypto]
  tag := by
    intro suite key nonce aad plaintext sealed made
    cases made
    simp
  strips := by
    intro suite key nonce aad ciphertext plaintext opened
    simp only [sampleCrypto] at opened
    split at opened
    next tag =>
      have length := congrArg List.length tag
      rw [List.length_drop,mixed_length] at length
      cases opened
      rw [List.length_take]
      omega
    next => cases opened
  seals := by
    intro suite key nonce aad plaintext _ _ _
    exact ⟨_,rfl⟩
  macs := by
    intro algorithm key data
    exact mixed_length _ _

def sampleKey : AeadKey := ⟨.aes128GcmSha256,List.replicate 16 7,rfl⟩

def sampleIv : Bytes := [1,2,3,4,5,6,7,8,9,10,11,12]

end Dynet.Vless.Reality
