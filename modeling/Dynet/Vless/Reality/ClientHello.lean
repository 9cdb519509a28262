import Mathlib.Algebra.GroupWithZero.Nat
import Dynet.Vless.ReadBack
import Dynet.Vless.Reality.Connection

/-! The ClientHello of a connection. Its session id carries the version, the time and the
short id of the client, sealed under a key that only the holder of the server's private key
derives too. What the client draws, its clock and the primitives are given. -/
namespace Dynet.Vless.Reality
open Dynet.Lib.Checks
open Cursor (Extension)

/-! The authentication key and the sealed session id. -/

inductive CryptoError where
  | invalidNonceLength
  | encryptionFailed
  | decryptionFailed
  | ecdhFailed
  | hkdfFailed
  deriving DecidableEq, Repr

def CryptoError.message : CryptoError → String
  | .invalidNonceLength => "Invalid nonce length"
  | .encryptionFailed => "Encryption failed"
  | .decryptionFailed => "Decryption failed"
  | .ecdhFailed => "ECDH key exchange failed"
  | .hkdfFailed => "HKDF derivation failed"

def CryptoError.toIo (e : CryptoError) : IoError := invalidData e.message

/-- The primitives of both ends: what the client's connection uses, the X25519 keys, and a
server's signing key and certificates. -/
structure Primitives extends Crypto where
  loads : (privateKey : Bytes) → Bool
  computePublicKey : (privateKey : Bytes) → Option Bytes
  verifyingKey : (signingKey : Bytes) → Bytes
  sign : (signingKey message : Bytes) → Bytes
  selfSigned : (publicKey signature hostname : Bytes) → Except IoError Bytes

/-- What their documentation promises beyond the laws of the connection. -/
structure Primitives.Sound (prims : Primitives) : Prop extends prims.toCrypto.Lawful where
  agrees : ∀ {ours theirs first second : Bytes}, prims.computePublicKey ours = some first →
    prims.computePublicKey theirs = some second → prims.agree ours second = prims.agree theirs first
  shares : ∀ {ours theirs secret : Bytes}, prims.agree ours theirs = some secret → secret.length = 32
  keys : ∀ {ours first : Bytes}, prims.computePublicKey ours = some first → first.length = 32
  hashes : ∀ suite bytes, (prims.digest suite bytes).length = suite.hashLen
  verifies : ∀ signingKey message : Bytes,
    prims.ed25519Verify (prims.verifyingKey signingKey) message (prims.sign signingKey message) = true
  signature : ∀ signingKey message : Bytes, (prims.sign signingKey message).length = 64
  verifying : ∀ signingKey : Bytes, (prims.verifyingKey signingKey).length = 32
  parses : ∀ {publicKey signature hostname der : Bytes}, publicKey.length = 32 → signature.length = 64 →
    prims.selfSigned publicKey signature hostname = .ok der → prims.certificate der = .ok ⟨publicKey,signature⟩

def performEcdh (prims : Primitives) (privateKey publicKey : Bytes) : Except CryptoError Bytes :=
  if prims.loads privateKey = false then .error .ecdhFailed
  else match prims.computePublicKey privateKey with
    | none => .error .ecdhFailed
    | some _ => match prims.agree privateKey publicKey with
      | none => .error .ecdhFailed
      | some sharedSecret => .ok sharedSecret

def deriveAuthKey (crypto : Crypto) (sharedSecret salt info : Bytes) : Except CryptoError Bytes :=
  (hkdfExpand crypto .sha256 (hkdfExtract crypto .sha256 salt sharedSecret) info 32).mapError fun _ => .hkdfFailed

def encryptSessionId (crypto : Crypto) (plaintext authKey nonce aad : Bytes) : Except CryptoError Bytes :=
  if nonce.length ≠ 12 then .error .invalidNonceLength
  else match crypto.sealInPlace .aes256GcmSha384 authKey nonce aad plaintext with
    | none => .error .encryptionFailed
    | some inOut => if inOut.length ≠ 32 then .error .encryptionFailed else .ok inOut

def decryptSessionId (crypto : Crypto) (ciphertextAndTag authKey nonce aad : Bytes) : Except CryptoError Bytes :=
  if nonce.length ≠ 12 then .error .invalidNonceLength
  else match crypto.openInPlace .aes256GcmSha384 authKey nonce aad ciphertextAndTag with
    | none => .error .decryptionFailed
    | some plaintext => if plaintext.length ≠ 16 then .error .decryptionFailed else .ok plaintext

/-! The message. -/

def CipherSuite.id : CipherSuite → Nat
  | .aes128GcmSha256 => 0x1301
  | .aes256GcmSha384 => 0x1302
  | .chacha20Poly1305Sha256 => 0x1303

def defaultCipherSuites : List CipherSuite := [.aes128GcmSha256,.aes256GcmSha384,.chacha20Poly1305Sha256]

def defaultAlpnProtocols : List Bytes := [ascii "h2",ascii "http/1.1"]

def toBe24 (n : Nat) : Bytes := [UInt8.ofNat (n / 65536),UInt8.ofNat (n / 256),UInt8.ofNat n]

def toBe32 (n : Nat) : Bytes :=
  [UInt8.ofNat (n / 16777216),UInt8.ofNat (n / 65536),UInt8.ofNat (n / 256),UInt8.ofNat n]

def serverNameExtension (serverName : Bytes) : Bytes :=
  [0x00,0x00] ++ toBe16 (5 + serverName.length) ++ toBe16 (serverName.length + 3) ++ [0x00] ++
    toBe16 serverName.length ++ serverName

def supportedVersionsExtension : Bytes := [0x00,0x2b,0x00,0x03,0x02,0x03,0x04]

def supportedGroupsExtension : Bytes := [0x00,0x0a,0x00,0x04,0x00,0x02,0x00,0x1d]

def keyShareExtension (clientPublicKey : Bytes) : Bytes :=
  [0x00,0x33] ++ toBe16 (2 + 4 + clientPublicKey.length) ++ toBe16 (4 + clientPublicKey.length) ++ [0x00,0x1d] ++
    toBe16 clientPublicKey.length ++ clientPublicKey

def signatureAlgorithmsExtension : Bytes :=
  [0x00,0x0d,0x00,0x12,0x00,0x10,0x04,0x03,0x08,0x04,0x04,0x01,0x05,0x03,0x08,0x05,0x05,0x01,0x08,0x06,0x06,0x01]

def alpnExtension (alpnProtocols : List Bytes) : Bytes :=
  if alpnProtocols = [] then []
  else
    let protocolsListLen := (alpnProtocols.map fun protocol => 1 + protocol.length).sum
    [0x00,0x10] ++ toBe16 (2 + protocolsListLen) ++ toBe16 protocolsListLen ++
      alpnProtocols.flatMap fun protocol => UInt8.ofNat protocol.length::protocol

def helloExtensions (clientPublicKey serverName : Bytes) (alpnProtocols : List Bytes) : Bytes :=
  serverNameExtension serverName ++ supportedVersionsExtension ++ supportedGroupsExtension ++
    keyShareExtension clientPublicKey ++ signatureAlgorithmsExtension ++ alpnExtension alpnProtocols

/-- What follows the length of the message. -/
def clientHelloBody (clientRandom sessionId clientPublicKey serverName : Bytes) (cipherSuites : List Nat)
    (alpnProtocols : List Bytes) : Bytes :=
  let extensions := helloExtensions clientPublicKey serverName alpnProtocols
  [3,3] ++ clientRandom ++ [32] ++ sessionId ++ toBe16 (cipherSuites.length * 2) ++ cipherSuites.flatMap toBe16 ++
    [0x01,0x00] ++ toBe16 extensions.length ++ extensions

def constructClientHello (clientRandom sessionId clientPublicKey serverName : Bytes) (cipherSuites : List Nat)
    (alpnProtocols : List Bytes) : Bytes :=
  let body := clientHelloBody clientRandom sessionId clientPublicKey serverName cipherSuites alpnProtocols
  0x01::(toBe24 body.length ++ body)

def writeRecordHeader (recordType : UInt8) (length : Nat) : Bytes := recordType::3::3::toBe16 length

/-- The session id lies at 39..71 of the message. -/
def withSessionId (clientHello sessionId : Bytes) : Bytes := clientHello.take 39 ++ sessionId ++ clientHello.drop 71

/-! The connection that starts with it. -/

structure RealityClientConfig where
  publicKey : Bytes
  shortId : Bytes
  serverName : Bytes
  cipherSuites : List CipherSuite
  keySized : publicKey.length = 32
  idSized : shortId.length = 8

def RealityClientConfig.offered (config : RealityClientConfig) : List CipherSuite :=
  if config.cipherSuites = [] then defaultCipherSuites else config.cipherSuites

/-- The random bytes of one connection. -/
structure Draws where
  ourPrivateBytes : Bytes
  clientRandom : Bytes
  keySized : ourPrivateBytes.length = 32
  randomSized : clientRandom.length = 32

def sessionIdPlaintext (timestamp : Nat) (shortId : Bytes) : Bytes := [1,8,0,0] ++ toBe32 timestamp ++ shortId

-- `clock` is none before the epoch. The hello is built with the plain session id, then with
-- a zeroed one for the seal, then with the sealed one.
def generateClientHello (prims : Primitives) (config : RealityClientConfig) (draws : Draws) (clock : Option Nat) :
    Except IoError RealityClientConnection := do
  if prims.loads draws.ourPrivateBytes = false then throw ⟨.other,"Failed to create X25519 key"⟩
  match prims.computePublicKey draws.ourPrivateBytes with
  | none => throw ⟨.other,"Failed to compute public key"⟩
  | some ourPublicKey =>
    let sharedSecret ← (performEcdh prims draws.ourPrivateBytes config.publicKey).mapError CryptoError.toIo
    let authKey ← (deriveAuthKey prims.toCrypto sharedSecret (draws.clientRandom.take 20) (ascii "REALITY")).mapError
      CryptoError.toIo
    match clock with
    | none => throw ⟨.other,"System time error"⟩
    | some timestamp =>
      let plaintext := sessionIdPlaintext timestamp config.shortId
      let hello := constructClientHello draws.clientRandom (plaintext ++ List.replicate 16 0) ourPublicKey
        config.serverName (config.offered.map CipherSuite.id) defaultAlpnProtocols
      let zeroed := withSessionId hello (List.replicate 32 0)
      let encrypted ← (encryptSessionId prims.toCrypto plaintext authKey ((draws.clientRandom.drop 20).take 12)
        zeroed).mapError CryptoError.toIo
      return .new (withSessionId zeroed encrypted) draws.ourPrivateBytes authKey

/-! What a server reads of the message: every length in it must agree with what is there. -/

structure ClientHello where
  legacyVersion : Nat
  random : Bytes
  sessionId : Bytes
  cipherSuites : List Nat
  compressionMethods : Bytes
  extensions : List Extension
  deriving DecidableEq, Repr

section Reader
open BufReader

def readSuites : Nat → ReadM (List Nat)
  | 0 => return []
  | count+1 => do
    let suite ← readU16Be
    let suites ← readSuites count
    return suite::suites

-- The bytes of the list bound the rounds, as an extension takes four at least.
def readExtensionList : Nat → ReadM (List Extension)
  | 0 => return []
  | rounds+1 => do
    if ← isConsumed then return []
    else
      let extType ← readU16Be
      let extLen ← readU16Be
      let body ← readSlice extLen
      let later ← readExtensionList rounds
      return ⟨extType,body⟩::later

def readClientHello : ReadM ClientHello := do
  if (← readU8) ≠ 1 then throw (invalidData "expected ClientHello handshake type")
  let messageLen ← readU24Be
  if (← remaining) ≠ messageLen then throw (invalidData "ClientHello length differs")
  let legacyVersion ← readU16Be
  let random ← readSlice 32
  let sessionIdLen ← readU8
  let sessionId ← readSlice sessionIdLen.toNat
  let suitesLen ← readU16Be
  let suites ← readSuites (suitesLen / 2)
  let methodsLen ← readU8
  let compressionMethods ← readSlice methodsLen.toNat
  let extensionsLen ← readU16Be
  if (← remaining) ≠ extensionsLen then throw (invalidData "ClientHello extensions length differs")
  let block ← readSlice extensionsLen
  let extensions ← BufReader.run (readExtensionList (extensionsLen + 1)) block
  return ⟨legacyVersion,random,sessionId,suites,compressionMethods,extensions⟩

end Reader

/-- The extensions of a hello. -/
def protocolList (alpnProtocols : List Bytes) : Bytes :=
  alpnProtocols.flatMap fun protocol => UInt8.ofNat protocol.length::protocol

def alpnExtensions (alpnProtocols : List Bytes) : List Extension :=
  if alpnProtocols = [] then []
  else [⟨16,toBe16 (protocolList alpnProtocols).length ++ protocolList alpnProtocols⟩]

def clientExtensions (clientPublicKey serverName : Bytes) (alpnProtocols : List Bytes) : List Extension :=
  [⟨0,toBe16 (serverName.length + 3) ++ [0] ++ toBe16 serverName.length ++ serverName⟩,
    ⟨43,[2,3,4]⟩,
    ⟨10,[0,2,0,29]⟩,
    ⟨51,toBe16 (4 + clientPublicKey.length) ++ [0,29] ++ toBe16 clientPublicKey.length ++ clientPublicKey⟩,
    ⟨13,[0,16,4,3,8,4,4,1,5,3,8,5,5,1,8,6,6,1]⟩] ++ alpnExtensions alpnProtocols

theorem protocolList_length (alpnProtocols : List Bytes) :
    (protocolList alpnProtocols).length = (alpnProtocols.map fun protocol => 1 + protocol.length).sum := by
  rw [protocolList,List.length_flatMap]
  congr 1
  refine List.map_congr_left fun protocol _ => ?_
  rw [List.length_cons,Nat.add_comm]

/-- An extension whose length field is computed apart from its body. -/
theorem extension_bytes {extType length : Nat} {body : Bytes} (counted : length = body.length) :
    toBe16 extType ++ (toBe16 length ++ body) = Extension.bytes ⟨extType,body⟩ := by
  rw [counted,Extension.bytes,List.append_assoc]

theorem serverNameExtension_eq (serverName : Bytes) : serverNameExtension serverName =
    Extension.bytes ⟨0,toBe16 (serverName.length + 3) ++ [0] ++ toBe16 serverName.length ++ serverName⟩ := by
  have counted : 5 + serverName.length =
      (toBe16 (serverName.length + 3) ++ [0] ++ toBe16 serverName.length ++ serverName).length := by
    simp only [toBe16,List.length_append,List.length_cons,List.length_nil]
  rw [← extension_bytes counted,serverNameExtension]
  simp only [List.append_assoc]
  rfl

theorem keyShareExtension_eq (clientPublicKey : Bytes) : keyShareExtension clientPublicKey = Extension.bytes
    ⟨51,toBe16 (4 + clientPublicKey.length) ++ [0,29] ++ toBe16 clientPublicKey.length ++ clientPublicKey⟩ := by
  have counted : 2 + 4 + clientPublicKey.length =
      (toBe16 (4 + clientPublicKey.length) ++ [0,29] ++ toBe16 clientPublicKey.length ++ clientPublicKey).length := by
    simp only [toBe16,List.length_append,List.length_cons,List.length_nil]
  rw [← extension_bytes counted,keyShareExtension]
  simp only [List.append_assoc]
  rfl

theorem alpnExtension_eq (alpnProtocols : List Bytes) :
    alpnExtension alpnProtocols = Extension.block (alpnExtensions alpnProtocols) := by
  rw [alpnExtension,alpnExtensions]
  split
  · rfl
  · have counted : 2 + (alpnProtocols.map fun protocol => 1 + protocol.length).sum =
        (toBe16 (protocolList alpnProtocols).length ++ protocolList alpnProtocols).length := by
      rw [List.length_append,protocolList_length]
      rfl
    rw [Extension.block,List.flatMap_singleton,← extension_bytes counted,protocolList_length]
    rfl

theorem helloExtensions_eq (clientPublicKey serverName : Bytes) (alpnProtocols : List Bytes) :
    helloExtensions clientPublicKey serverName alpnProtocols =
      Extension.block (clientExtensions clientPublicKey serverName alpnProtocols) := by
  rw [helloExtensions,serverNameExtension_eq,keyShareExtension_eq,alpnExtension_eq,clientExtensions,Extension.block,
    Extension.block,List.flatMap_append]
  simp only [List.flatMap_cons,List.flatMap_nil,List.append_nil,List.append_assoc]
  rfl

theorem readSuites_written {front rest : Bytes} {suites : List Nat} (small : ∀ suite ∈ suites, suite < 65536) :
    Reads front rest (readSuites suites.length) (suites.flatMap toBe16) suites := by
  induction suites generalizing front with
  | nil => exact Reads.pure front rest []
  | cons suite suites ih =>
    obtain ⟨first,small⟩ := List.forall_mem_cons.mp small
    rw [List.flatMap_cons]
    refine (Reads.u16 first).bind ?_
    rw [← List.append_nil (suites.flatMap toBe16)]
    exact (ih small).bind (Reads.pure _ _ _)

theorem readExtensionList_written {front : Bytes} {extensions : List Extension} {rounds : Nat}
    (fits : ∀ extension ∈ extensions, extension.Fits) (enough : extensions.length < rounds) :
    Reads front [] (readExtensionList rounds) (Extension.block extensions) extensions := by
  induction extensions generalizing front rounds with
  | nil =>
    obtain ⟨rounds,rfl⟩ := Nat.exists_eq_add_of_lt enough
    refine Reads.peek (Reads.isConsumed _ _) ?_
    exact Reads.pure front [] []
  | cons extension extensions ih =>
    obtain ⟨rounds,rfl⟩ := Nat.exists_eq_add_of_lt enough
    obtain ⟨⟨typed,short⟩,fits⟩ := List.forall_mem_cons.mp fits
    have split : Extension.block (extension::extensions) = toBe16 extension.extType ++ (toBe16 extension.body.length ++
        (extension.body ++ (Extension.block extensions ++ []))) := by
      simp [Extension.block,Extension.bytes]
    rw [split]
    refine Reads.peek (Reads.isConsumed _ _) ?_
    refine Reads.passed (by simp [toBe16]) ?_
    refine (Reads.u16 typed).bind ((Reads.u16 short).bind ((Reads.slice _ _ _).bind ?_))
    exact (ih fits (by simp; omega)).bind (Reads.pure _ _ _)

theorem be24_toBe24 {n : Nat} (small : n < 16777216) :
    be24 (UInt8.ofNat (n / 65536)) (UInt8.ofNat (n / 256)) (UInt8.ofNat n) = n := by
  simp only [be24,UInt8.toNat_ofNat']
  omega

theorem block_bodies (extensions : List Extension) :
    ∀ extension ∈ extensions, 4 + extension.body.length ≤ (Extension.block extensions).length := by
  intro extension member
  obtain ⟨before,later,rfl⟩ := List.append_of_mem member
  rw [← extension.length_bytes,Extension.block,List.flatMap_append,List.flatMap_cons,List.length_append,
    List.length_append]
  omega

theorem block_count (extensions : List Extension) : extensions.length ≤ (Extension.block extensions).length := by
  rw [Extension.block,List.length_flatMap]
  induction extensions with
  | nil => exact Nat.le_refl 0
  | cons extension extensions ih =>
    rw [List.map_cons,List.sum_cons,List.length_cons,extension.length_bytes]
    omega

theorem clientExtensions_fit {clientPublicKey serverName : Bytes} {alpnProtocols : List Bytes}
    (short : (helloExtensions clientPublicKey serverName alpnProtocols).length < 65536) :
    ∀ extension ∈ clientExtensions clientPublicKey serverName alpnProtocols, extension.Fits := by
  intro extension member
  rw [helloExtensions_eq] at short
  have bodies := block_bodies _ extension member
  refine ⟨?_,by omega⟩
  have typed : ∀ other ∈ alpnExtensions alpnProtocols, other.extType < 65536 := by
    intro other member
    rw [alpnExtensions] at member
    split at member
    · cases member
    · rw [List.mem_singleton] at member
      rw [member]
      exact (by decide : 16 < 65536)
  simp only [clientExtensions,List.mem_append,List.mem_cons,List.not_mem_nil,or_false] at member
  rcases member with (rfl | rfl | rfl | rfl | rfl) | last
  · exact (by decide : 0 < 65536)
  · exact (by decide : 43 < 65536)
  · exact (by decide : 10 < 65536)
  · exact (by decide : 51 < 65536)
  · exact (by decide : 13 < 65536)
  · exact typed extension last

/-- A server reads every field of a hello back, as long as its lengths fit their fields. -/
theorem readClientHello_construct {clientRandom sessionId clientPublicKey serverName : Bytes} {cipherSuites : List Nat}
    {alpnProtocols : List Bytes} (randomSized : clientRandom.length = 32) (idSized : sessionId.length = 32)
    (suites : ∀ suite ∈ cipherSuites, suite < 65536) (few : cipherSuites.length * 2 < 65536)
    (short : (helloExtensions clientPublicKey serverName alpnProtocols).length < 65536) :
    BufReader.run readClientHello
        (constructClientHello clientRandom sessionId clientPublicKey serverName cipherSuites alpnProtocols) =
      .ok ⟨0x0303,clientRandom,sessionId,cipherSuites,[0],
        clientExtensions clientPublicKey serverName alpnProtocols⟩ := by
  have suitesLength : (cipherSuites.flatMap toBe16).length = cipherSuites.length * 2 := by
    rw [List.length_flatMap]
    simp [toBe16]
  have counted := Nat.lt_succ_of_le (block_count (clientExtensions clientPublicKey serverName alpnProtocols))
  have fits := clientExtensions_fit short
  rw [constructClientHello,clientHelloBody]
  rw [helloExtensions_eq] at short ⊢
  generalize clientExtensions clientPublicKey serverName alpnProtocols = extensions at *
  have parsed := (readExtensionList_written fits counted).whole
  generalize body : [3,3] ++ clientRandom ++ [32] ++ sessionId ++ toBe16 (cipherSuites.length * 2) ++
    cipherSuites.flatMap toBe16 ++ [0x01,0x00] ++ toBe16 (Extension.block extensions).length ++
    Extension.block extensions = written
  have length : written.length < 16777216 := by
    rw [← body]
    simp only [List.length_append,randomSized,idSized,suitesLength,toBe16,List.length_cons,List.length_nil]
    omega
  have split : written = toBe16 0x0303 ++ (clientRandom ++ ([32] ++ (sessionId ++ (toBe16 (cipherSuites.length * 2) ++
      (cipherSuites.flatMap toBe16 ++ ([1] ++ ([0] ++ (toBe16 (Extension.block extensions).length ++
        (Extension.block extensions ++ []))))))))) := by
    rw [← body]
    simp only [List.append_assoc,List.append_nil]
    rfl
  have apart : 0x01::(toBe24 written.length ++ written) = [0x01] ++ (toBe24 written.length ++ written) := rfl
  refine Reads.whole ?_
  rw [apart]
  refine (Reads.u8 _ _ _).bind (Reads.passed (by decide) ((Reads.u24 _ _ _ _ _).bind ?_))
  rw [be24_toBe24 length]
  refine Reads.peek (Reads.remaining _ _) (Reads.passed (by simp) ?_)
  rw [split]
  refine (Reads.u16 (by decide)).bind ((Reads.sliceOf randomSized).bind ((Reads.u8 _ _ _).bind ?_))
  refine (Reads.sliceOf idSized).bind ((Reads.u16 few).bind ?_)
  rw [Nat.mul_div_cancel _ (by decide)]
  refine (readSuites_written suites).bind ((Reads.u8 _ _ _).bind ((Reads.sliceOf rfl).bind ((Reads.u16 short).bind ?_)))
  refine Reads.peek (Reads.remaining _ _) (Reads.passed (by simp) ?_)
  exact (Reads.slice _ _ _).bind (Reads.peek (Reads.lifted parsed) (Reads.pure _ _ _))

/-! The session id in the message. -/

/-- What the message holds in front of the session id and behind it. -/
theorem constructClientHello_split {clientRandom clientPublicKey serverName : Bytes} {cipherSuites : List Nat}
    {alpnProtocols : List Bytes} (randomSized : clientRandom.length = 32) : ∃ front later : Bytes, front.length = 39 ∧
      ∀ sessionId : Bytes, sessionId.length = 32 →
        constructClientHello clientRandom sessionId clientPublicKey serverName cipherSuites alpnProtocols =
          front ++ sessionId ++ later := by
  have length (sessionId : Bytes) (sized : sessionId.length = 32) :
      (clientHelloBody clientRandom sessionId clientPublicKey serverName cipherSuites alpnProtocols).length =
        (clientHelloBody clientRandom (List.replicate 32 0) clientPublicKey serverName cipherSuites alpnProtocols).length := by
    simp only [clientHelloBody,List.length_append,sized,List.length_replicate]
  refine ⟨0x01::toBe24 (clientHelloBody clientRandom (List.replicate 32 0) clientPublicKey serverName cipherSuites
    alpnProtocols).length ++ [3,3] ++ clientRandom ++ [32],toBe16 (cipherSuites.length * 2) ++
      cipherSuites.flatMap toBe16 ++ [0x01,0x00] ++ toBe16 (helloExtensions clientPublicKey serverName alpnProtocols).length ++
      helloExtensions clientPublicKey serverName alpnProtocols,?_,fun sessionId sized => ?_⟩
  · simp [toBe24,randomSized]
  · rw [constructClientHello,length sessionId sized]
    simp only [clientHelloBody,List.append_assoc,List.cons_append]

theorem withSessionId_construct {clientRandom sessionId clientPublicKey serverName : Bytes} {cipherSuites : List Nat}
    {alpnProtocols : List Bytes} (randomSized : clientRandom.length = 32) (idSized : sessionId.length = 32)
    {other : Bytes} (otherSized : other.length = 32) :
    withSessionId (constructClientHello clientRandom sessionId clientPublicKey serverName cipherSuites alpnProtocols) other =
      constructClientHello clientRandom other clientPublicKey serverName cipherSuites alpnProtocols := by
  obtain ⟨front,later,sized,split⟩ := @constructClientHello_split clientRandom clientPublicKey serverName cipherSuites
    alpnProtocols randomSized
  have behind : (front ++ sessionId).length = 71 := by rw [List.length_append,sized,idSized]
  rw [split sessionId idSized,split other otherSized,withSessionId,← behind,List.drop_left,List.append_assoc front sessionId,
    ← sized,List.take_left]

theorem decrypt_encryptSessionId {crypto : Crypto} (lawful : crypto.Lawful) {plaintext authKey nonce aad encrypted : Bytes}
    (sized : plaintext.length = 16) (made : encryptSessionId crypto plaintext authKey nonce aad = .ok encrypted) :
    decryptSessionId crypto encrypted authKey nonce aad = .ok plaintext := by
  rw [encryptSessionId] at made
  rw [decryptSessionId]
  split at made
  · cases made
  next whole =>
    split at made
    · cases made
    next inOut output =>
      split at made
      · cases made
      · cases made
        rw [if_neg whole,lawful.opens output]
        exact if_neg (not_not.mpr sized)

theorem encryptSessionId_length {crypto : Crypto} {plaintext authKey nonce aad encrypted : Bytes}
    (made : encryptSessionId crypto plaintext authKey nonce aad = .ok encrypted) : encrypted.length = 32 := by
  rw [encryptSessionId] at made
  split at made
  · cases made
  · split at made
    · cases made
    · split at made
      · cases made
      next sized =>
        cases made
        exact Decidable.of_not_not sized

theorem performEcdh_ok {prims : Primitives} {privateKey publicKey sharedSecret : Bytes}
    (made : performEcdh prims privateKey publicKey = .ok sharedSecret) : prims.loads privateKey = true ∧
      (∃ ours, prims.computePublicKey privateKey = some ours) ∧ prims.agree privateKey publicKey = some sharedSecret := by
  rw [performEcdh] at made
  split at made
  · cases made
  next loads =>
    split at made
    · cases made
    next ours computed =>
      split at made
      · cases made
      next secret agreed =>
        cases made
        exact ⟨Bool.of_not_eq_false loads,⟨ours,computed⟩,agreed⟩

theorem generateClientHello_ok {prims : Primitives} {config : RealityClientConfig} {draws : Draws} {clock : Option Nat}
    {conn : RealityClientConnection} (made : generateClientHello prims config draws clock = .ok conn) :
    ∃ timestamp publicKey sharedSecret authKey encrypted, clock = some timestamp ∧
      prims.computePublicKey draws.ourPrivateBytes = some publicKey ∧
      prims.agree draws.ourPrivateBytes config.publicKey = some sharedSecret ∧
      deriveAuthKey prims.toCrypto sharedSecret (draws.clientRandom.take 20) (ascii "REALITY") = .ok authKey ∧
      encryptSessionId prims.toCrypto (sessionIdPlaintext timestamp config.shortId) authKey
        ((draws.clientRandom.drop 20).take 12) (constructClientHello draws.clientRandom (List.replicate 32 0) publicKey
          config.serverName (config.offered.map CipherSuite.id) defaultAlpnProtocols) = .ok encrypted ∧
      conn = .new (constructClientHello draws.clientRandom encrypted publicKey config.serverName
        (config.offered.map CipherSuite.id) defaultAlpnProtocols) draws.ourPrivateBytes authKey := by
  rw [generateClientHello] at made
  split at made
  · cases made
  · dsimp only at made
    split at made
    · cases made
    next publicKey computed =>
      obtain ⟨sharedSecret,shared,made⟩ := (bind_ok_iff _ _ _).mp made
      obtain ⟨authKey,derived,made⟩ := (bind_ok_iff _ _ _).mp made
      cases clock with
      | none => cases made
      | some timestamp =>
        obtain ⟨encrypted,sealed,same⟩ := (bind_ok_iff _ _ _).mp made
        rw [mapError_ok_iff] at shared derived sealed
        have sized := encryptSessionId_length sealed
        have plain : (sessionIdPlaintext timestamp config.shortId ++ List.replicate 16 0).length = 32 := by
          simp [sessionIdPlaintext,toBe32,config.idSized]
        rw [withSessionId_construct draws.randomSized plain List.length_replicate] at sealed same
        rw [withSessionId_construct draws.randomSized List.length_replicate sized] at same
        cases same
        exact ⟨timestamp,publicKey,sharedSecret,authKey,encrypted,rfl,computed,(performEcdh_ok shared).2.2,derived,sealed,
          rfl⟩
end Dynet.Vless.Reality
