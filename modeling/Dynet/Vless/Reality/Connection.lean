import Dynet.Vless.SlideBuffer
import Dynet.Vless.Reality.Records
import Dynet.Vless.Reality.ClientVerify

/-! The client connection: its state and its operations. An operation that the source
would abort is an error `Panic`; an `io::Error` of the source is part of the answer,
which comes with the state it leaves behind. -/
namespace Dynet.Vless.Reality
open Dynet.Lib.Checks

def ciphertextReadBufCapacity : Nat := tlsMaxRecordSize * 2
def plaintextReadBufCapacity : Nat := tlsMaxRecordSize * 2

def handshakeTypeCertificate : UInt8 := 11
def handshakeTypeCertificateVerify : UInt8 := 15
def handshakeTypeFinished : UInt8 := 20

structure Handshaking where
  clientHandshakeTrafficSecret : Bytes
  serverHandshakeTrafficSecret : Bytes
  masterSecret : Bytes
  cipherSuite : CipherSuite
  handshakeTranscriptBytes : Bytes
  authKey : Bytes
  handshakeSeq : Nat
  accumulatedPlaintext : Bytes
  messagesFound : Nat
  certificateVerified : Bool
  ed25519PublicKey : Option Bytes
  certVerifyOffset : Option Nat
  deriving DecidableEq, Repr

inductive HandshakeState where
  | awaitingServerHello (clientHelloBytes clientPrivateKey authKey : Bytes)
  | processingHandshake (state : Handshaking)
  | complete
  deriving DecidableEq, Repr

structure RealityClientConnection where
  handshakeState : HandshakeState
  appReadKey : Option AeadKey
  appReadIv : Option Bytes
  appWriteKey : Option AeadKey
  appWriteIv : Option Bytes
  readSeq : Nat
  writeSeq : Nat
  cipherSuite : Option CipherSuite
  ciphertextReadBuf : SlideBuffer
  ciphertextWriteBuf : Bytes
  plaintextReadBuf : SlideBuffer
  plaintextWriteBuf : Bytes
  receivedCloseNotify : Bool
  fatalError : Option ErrorKind
  deriving DecidableEq

/-- What an operation answers, with the connection it leaves. -/
abbrev Answer (α : Type) := Except Panic (Except IoError α × RealityClientConnection)

namespace RealityClientConnection

-- The ClientHello and the two keys are drawn by `generate_client_hello`.
def new (clientHello clientPrivateKey authKey : Bytes) : RealityClientConnection where
  handshakeState := .awaitingServerHello clientHello clientPrivateKey authKey
  appReadKey := none
  appReadIv := none
  appWriteKey := none
  appWriteIv := none
  readSeq := 0
  writeSeq := 0
  cipherSuite := none
  ciphertextReadBuf := .new ciphertextReadBufCapacity
  ciphertextWriteBuf := contentTypeHandshake::3::3::toBe16 clientHello.length ++ clientHello
  plaintextReadBuf := .new plaintextReadBufCapacity
  plaintextWriteBuf := []
  receivedCloseNotify := false
  fatalError := none

/-! Reading ciphertext. -/

/-- What a reader puts into the read buffer of the connection. -/
structure Chunk where
  bytes : Bytes
  fits : bytes.length ≤ tlsMaxRecordSize
  deriving DecidableEq

def readTls (conn : RealityClientConnection) (rd : Except IoError Chunk) : Answer Nat :=
  let buf := if conn.ciphertextReadBuf.remainingCapacity < tlsMaxRecordSize then conn.ciphertextReadBuf.compact
    else conn.ciphertextReadBuf
  match rd with
  | .error e => .ok (.error e,{conn with ciphertextReadBuf := buf})
  | .ok chunk =>
    if chunk.bytes.length > 0 then match buf.extendFromSlice chunk.bytes with
      | .error panic => .error panic
      | .ok buf => .ok (.ok chunk.bytes.length,{conn with ciphertextReadBuf := buf})
    else .ok (.ok 0,{conn with ciphertextReadBuf := buf})

-- A cursor over the data fills the read buffer as far as the data goes.
def feedRounds (conn : RealityClientConnection) : Nat → Bytes → Answer Unit
  | 0, _ => .ok (.ok (),conn)
  | rounds+1, data =>
    if data = [] then .ok (.ok (),conn)
    else match conn.readTls (.ok ⟨data.take tlsMaxRecordSize,by rw [List.length_take]; omega⟩) with
      | .error panic => .error panic
      | .ok (.error e,conn) => .ok (.error (invalidData s!"failed to feed TLS connection: {e.message}"),conn)
      | .ok (.ok n,conn) => conn.feedRounds rounds (data.drop n)

def feed (conn : RealityClientConnection) (data : Bytes) : Answer Unit := conn.feedRounds data.length data

/-! The handshake. -/

/-- The first record of the ciphertext read so far: type, payload and total length. -/
def firstRecord (bytes : Bytes) : Option (UInt8 × Bytes × Nat) :=
  match frameCut bytes with
  | .item n => some (byteAt bytes 0,(bytes.take n).drop tlsRecordHeaderSize,n)
  | _ => none

section Handshake
variable (crypto : Crypto)

def acceptServerHello (clientHelloBytes clientPrivateKey authKey record : Bytes) : Except IoError Handshaking := do
  let serverHello := record.drop tlsRecordHeaderSize
  let serverPublicKey ← extractServerPublicKey record
  let cipherSuiteId ← extractServerCipherSuite record
  match CipherSuite.fromId cipherSuiteId with
  | none => throw (invalidData s!"Server selected unsupported cipher suite: 0x{hexU16 cipherSuiteId}")
  | some cipherSuite =>
    match crypto.agree clientPrivateKey serverPublicKey with
    | none => throw ⟨.other,"ECDH failed"⟩
    | some sharedSecret =>
      let keys ← deriveHandshakeKeys crypto cipherSuite sharedSecret
        (crypto.digest cipherSuite (clientHelloBytes ++ serverHello))
      return ⟨keys.clientHandshakeTrafficSecret,keys.serverHandshakeTrafficSecret,keys.masterSecret,cipherSuite,
        clientHelloBytes ++ serverHello,authKey,0,[],0,false,none,none⟩

def processServerHello (conn : RealityClientConnection) (clientHelloBytes clientPrivateKey authKey : Bytes) :
    Except IoError Bool × RealityClientConnection :=
  match firstRecord conn.ciphertextReadBuf.bytes with
  | none => (.ok false,conn)
  | some (_,_,n) =>
    let record := conn.ciphertextReadBuf.bytes.take n
    let conn := {conn with ciphertextReadBuf := conn.ciphertextReadBuf.consume n}
    match acceptServerHello crypto clientHelloBytes clientPrivateKey authKey record with
    | .error e => (.error e,conn)
    | .ok state => (.ok true,{conn with handshakeState := .processingHandshake state})

/-- What the message loop of one record changes. -/
structure Found where
  messagesFound : Nat
  certificateVerified : Bool
  ed25519PublicKey : Option Bytes
  certVerifyOffset : Option Nat
  deriving DecidableEq, Repr

def acceptCertificate (authKey message : Bytes) : Except IoError Bytes := do
  let certDer ← extractCertificateDer message
  verifyCertificateHmac crypto certDer authKey
  extractEd25519PublicKey crypto certDer

def acceptMessage (authKey : Bytes) (offset : Nat) (message : Bytes) (found : Found) : Except IoError Found := do
  let found ← if byteAt message 0 = handshakeTypeCertificate then do
      let publicKey ← acceptCertificate crypto authKey message
      pure {found with ed25519PublicKey := some publicKey, certificateVerified := true}
    else pure found
  let found := if byteAt message 0 = handshakeTypeCertificateVerify then {found with certVerifyOffset := some offset}
    else found
  return {found with messagesFound := found.messagesFound + 1}

-- The loop over one record's plaintext, which starts at `offset`. A message takes four
-- bytes at least, so the plaintext bounds the rounds.
def readMessages (authKey accumulated : Bytes) : Nat → Nat → Found → Except IoError Found
  | 0, _, found => .ok found
  | rounds+1, offset, found =>
    if offset < accumulated.length ∧ found.messagesFound < 4 then
      if offset + 4 > accumulated.length then .ok found
      else
        let msgLen := be24At accumulated (offset + 1)
        if offset + 4 + msgLen > accumulated.length then .ok found
        else do
          let found ← acceptMessage crypto authKey offset ((accumulated.drop offset).take (4 + msgLen)) found
          readMessages authKey accumulated rounds (offset + 4 + msgLen) found
    else .ok found

def constructFinished (verifyData : Bytes) : Bytes :=
  handshakeTypeFinished::UInt8.ofNat (verifyData.length / 65536)::UInt8.ofNat (verifyData.length / 256)::
    UInt8.ofNat verifyData.length::verifyData

/-- The two checks behind the fourth message. -/
def verifyFlight (state : Handshaking) : Except IoError Unit := do
  if state.certificateVerified = false then
    throw ⟨.permissionDenied,"REALITY handshake failed: Certificate message not received or not verified"⟩
  match state.ed25519PublicKey, state.certVerifyOffset with
  | some publicKey, some cvOffset =>
    let hash := crypto.digest state.cipherSuite
      (state.handshakeTranscriptBytes ++ state.accumulatedPlaintext.take cvOffset)
    let message := (state.accumulatedPlaintext.drop cvOffset).take (4 + be24At state.accumulatedPlaintext (cvOffset + 1))
    let signature ← extractCertificateVerifySignature message
    verifyCertificateVerifySignature crypto publicKey signature hash
  | _, _ => throw ⟨.permissionDenied,"REALITY handshake failed: CertificateVerify not verified"⟩

def applicationKeys (state : Handshaking) (handshakeHash : Bytes) :
    Except IoError (AeadKey × Bytes × AeadKey × Bytes) := do
  let (clientSecret,serverSecret) ← deriveApplicationSecrets crypto state.cipherSuite state.masterSecret handshakeHash
  let (clientKeyBytes,clientIv) ← deriveTrafficKeys crypto clientSecret state.cipherSuite
  let (serverKeyBytes,serverIv) ← deriveTrafficKeys crypto serverSecret state.cipherSuite
  let clientKey ← AeadKey.new state.cipherSuite clientKeyBytes
  let serverKey ← AeadKey.new state.cipherSuite serverKeyBytes
  return (clientKey,clientIv,serverKey,serverIv)

def clientFinished (state : Handshaking) (handshakeHash : Bytes) : Except IoError (Bytes × AeadKey × Bytes) := do
  let verifyData ← computeFinishedVerifyData crypto state.cipherSuite state.clientHandshakeTrafficSecret handshakeHash
  let (keyBytes,iv) ← deriveTrafficKeys crypto state.clientHandshakeTrafficSecret state.cipherSuite
  let key ← AeadKey.new state.cipherSuite keyBytes
  return (constructFinished verifyData,key,iv)

-- The client's Finished message is queued before the application keys are derived.
def completeHandshake (conn : RealityClientConnection) (state : Handshaking) :
    Except IoError Unit × RealityClientConnection :=
  let handshakeHash := crypto.digest state.cipherSuite (state.handshakeTranscriptBytes ++ state.accumulatedPlaintext)
  match clientFinished crypto state handshakeHash with
  | .error e => (.error e,conn)
  | .ok (finished,key,iv) => match encryptHandshake crypto key iv ⟨0,conn.ciphertextWriteBuf⟩ finished with
    | (.error e,writing) => (.error e,{conn with ciphertextWriteBuf := writing.out})
    | (.ok (),writing) =>
      let conn := {conn with ciphertextWriteBuf := writing.out}
      match applicationKeys crypto state handshakeHash with
      | .error e => (.error e,conn)
      | .ok (clientKey,clientIv,serverKey,serverIv) => (.ok (),{conn with
          appReadKey := some serverKey
          appReadIv := some serverIv
          appWriteKey := some clientKey
          appWriteIv := some clientIv
          readSeq := 0
          writeSeq := 0
          cipherSuite := some state.cipherSuite
          handshakeState := .complete})

/-- The state behind one decrypted record. -/
def acceptPlaintext (state : Handshaking) (plaintext : Bytes) : Except IoError Handshaking := do
  let accumulated := state.accumulatedPlaintext ++ plaintext
  let found ← readMessages crypto state.authKey accumulated accumulated.length state.accumulatedPlaintext.length
    ⟨state.messagesFound,state.certificateVerified,state.ed25519PublicKey,state.certVerifyOffset⟩
  return {state with
    handshakeSeq := state.handshakeSeq + 1
    accumulatedPlaintext := accumulated
    messagesFound := found.messagesFound
    certificateVerified := found.certificateVerified
    ed25519PublicKey := found.ed25519PublicKey
    certVerifyOffset := found.certVerifyOffset}

-- Nothing of the state is stored back when a record is refused.
def acceptRecord (conn : RealityClientConnection) (state : Handshaking) (key iv ciphertext : Bytes) :
    Except IoError Bool × RealityClientConnection :=
  match decryptHandshakeMessage crypto state.cipherSuite key iv state.handshakeSeq ciphertext with
  | .error e => (.error e,conn)
  | .ok plaintext => match acceptPlaintext crypto state plaintext with
    | .error e => (.error e,conn)
    | .ok state =>
      if state.messagesFound < 4 then (.ok true,{conn with handshakeState := .processingHandshake state})
      else match verifyFlight crypto state with
        | .error e => (.error e,conn)
        | .ok () => match completeHandshake crypto conn state with
          | (.error e,conn) => (.error e,conn)
          | (.ok (),conn) => (.ok true,conn)

-- A ChangeCipherSpec record is skipped and the next one looked at.
def processEncryptedHandshake (conn : RealityClientConnection) (state : Handshaking) :
    Nat → Except IoError Bool × RealityClientConnection
  | 0 => (.ok false,conn)
  | rounds+1 => match deriveTrafficKeys crypto state.serverHandshakeTrafficSecret state.cipherSuite with
    | .error e => (.error e,conn)
    | .ok (key,iv) => match firstRecord conn.ciphertextReadBuf.bytes with
      | none => (.ok false,conn)
      | some (recordType,payload,n) =>
        let rest := {conn with ciphertextReadBuf := conn.ciphertextReadBuf.consume n}
        if recordType = contentTypeChangeCipherSpec then processEncryptedHandshake rest state rounds
        else if recordType ≠ contentTypeApplicationData then
          (.error (invalidData s!"Expected Application Data record, got 0x{hexByte recordType}"),conn)
        else acceptRecord crypto rest state key iv payload

end Handshake

/-! Application data. -/

section Application
variable (crypto : Crypto)

def processAlert (conn : RealityClientConnection) (plaintext : Bytes) (n : Nat) :
    Option (Except IoError Unit) × RealityClientConnection :=
  match plaintext with
  | level::desc::_ =>
    if desc = alertDescCloseNotify then (some (.ok ()),{conn with receivedCloseNotify := true})
    else if level ≠ alertLevelWarning then
      (some (.error ⟨.connectionAborted,s!"received fatal alert: {desc}"⟩),conn)
    else (none,{conn with ciphertextReadBuf := conn.ciphertextReadBuf.consume n})
  | _ => (none,{conn with ciphertextReadBuf := conn.ciphertextReadBuf.consume n})

-- One record: the call's result when it is over, with the connection for the next record.
def processRecord (conn : RealityClientConnection) (contentType : UInt8) (plaintext : Bytes) (n : Nat) :
    Except Panic (Option (Except IoError Unit) × RealityClientConnection) :=
  if contentType = contentTypeApplicationData then
    match (conn.plaintextReadBuf.maybeCompact 4096).extendFromSlice plaintext with
    | .error panic => .error panic
    | .ok buf => .ok (none,{conn with
        plaintextReadBuf := buf
        ciphertextReadBuf := conn.ciphertextReadBuf.consume n})
  else if contentType = contentTypeAlert then .ok (conn.processAlert plaintext n)
  else .error .unreachable

/-- Goes on with the next record unless this one ended the call. -/
def proceed (next : RealityClientConnection → Answer Unit) :
    Except Panic (Option (Except IoError Unit) × RealityClientConnection) → Answer Unit
  | .error panic => .error panic
  | .ok (some result,conn) => .ok (result,conn)
  | .ok (none,conn) => next conn

def processRecords (key : AeadKey) (iv : Bytes) (conn : RealityClientConnection) : Nat → Answer Unit
  | 0 => .ok (.ok (),conn)
  | rounds+1 => match firstRecord conn.ciphertextReadBuf.bytes with
    | none => .ok (.ok (),conn)
    | some (_,payload,n) => match decryptRecordInPlace crypto key iv conn.readSeq payload with
      | (.error e,seq) => .ok (.error e,{conn with readSeq := seq})
      | (.ok (contentType,plaintext),seq) =>
        proceed (fun conn => processRecords key iv conn rounds)
          (processRecord {conn with readSeq := seq} contentType plaintext n)

def processApplicationData (conn : RealityClientConnection) : Answer Unit :=
  match conn.appReadKey, conn.appReadIv with
  | some key, some iv => processRecords crypto key iv conn (conn.ciphertextReadBuf.len + 1)
  | _, _ => .error .unreachable

-- The two branches of the loop that may go round again.
def processHandshake (conn : RealityClientConnection) : Except IoError Bool × RealityClientConnection :=
  match conn.handshakeState with
  | .awaitingServerHello hello privateKey authKey => processServerHello crypto conn hello privateKey authKey
  | .processingHandshake state => processEncryptedHandshake crypto conn state (conn.ciphertextReadBuf.len + 1)
  | .complete => (.ok false,conn)

def processNewPacketsInner (conn : RealityClientConnection) : Nat → Answer Nat
  | 0 => .ok (.ok conn.plaintextReadBuf.len,conn)
  | rounds+1 =>
    if conn.handshakeState = .complete then match processApplicationData crypto conn with
      | .error panic => .error panic
      | .ok (.error e,conn) => .ok (.error e,conn)
      | .ok (.ok (),conn) => .ok (.ok conn.plaintextReadBuf.len,conn)
    else match processHandshake crypto conn with
      | (.error e,conn) => .ok (.error e,conn)
      | (.ok false,conn) => .ok (.ok conn.plaintextReadBuf.len,conn)
      | (.ok true,conn) => processNewPacketsInner conn rounds

def fatalKind (kind : ErrorKind) : Bool :=
  kind = .invalidData || kind = .permissionDenied || kind = .connectionAborted

/-- Remembers a fatal error for the calls to come. -/
def recordFatal : Answer Nat → Answer Nat
  | .error panic => .error panic
  | .ok (.error e,conn) => .ok (.error e,if fatalKind e.kind then {conn with fatalError := some e.kind} else conn)
  | .ok (.ok n,conn) => .ok (.ok n,conn)

-- Every round but the last takes a record off the ciphertext.
def processNewPackets (conn : RealityClientConnection) : Answer Nat :=
  match conn.fatalError with
  | some kind => .ok (.error ⟨kind,"connection previously failed"⟩,conn)
  | none =>
    if conn.receivedCloseNotify then .ok (.ok conn.plaintextReadBuf.len,conn)
    else recordFatal (processNewPacketsInner crypto conn (conn.ciphertextReadBuf.len + 1))

end Application

/-! The application's side. -/

def isHandshaking (conn : RealityClientConnection) : Bool := conn.handshakeState ≠ .complete

def wantsRead (conn : RealityClientConnection) : Bool :=
  if conn.receivedCloseNotify then false
  else if conn.fatalError.isSome then false
  else if conn.isHandshaking then true
  else conn.plaintextReadBuf.bytes.isEmpty

-- `reader()` followed by a read into a buffer of the given size.
def readerRead (conn : RealityClientConnection) (size : Nat) : Bytes × RealityClientConnection :=
  let buf := conn.plaintextReadBuf.maybeCompact 4096
  (buf.bytes.take size,{conn with plaintextReadBuf := buf.consume (min size buf.len)})

def writerWrite (conn : RealityClientConnection) (data : Bytes) : RealityClientConnection :=
  {conn with plaintextWriteBuf := conn.plaintextWriteBuf ++ data}

/-- `wr.write` on the outgoing bytes: it takes some of them or fails. -/
def writeOut (conn : RealityClientConnection) (wr : Except IoError Nat) :
    Except IoError Bytes × RealityClientConnection :=
  match wr with
  | .error e => (.error e,conn)
  | .ok n => (.ok (conn.ciphertextWriteBuf.take n),
      {conn with ciphertextWriteBuf := conn.ciphertextWriteBuf.drop n})

section Write
variable (crypto : Crypto)

def encryptPending (conn : RealityClientConnection) (key : AeadKey) (iv : Bytes) :
    Except IoError Unit × RealityClientConnection :=
  match encryptAppData crypto key iv ⟨conn.writeSeq,conn.ciphertextWriteBuf⟩ conn.plaintextWriteBuf with
  | (result,writing,plaintext) => (result,{conn with
      writeSeq := writing.seq
      ciphertextWriteBuf := writing.out
      plaintextWriteBuf := plaintext})

def writeEncrypted (wr : Except IoError Nat) :
    Except IoError Unit × RealityClientConnection → Except IoError Bytes × RealityClientConnection
  | (.error e,conn) => (.error e,conn)
  | (.ok (),conn) => conn.writeOut wr

-- The bytes a call puts on the wire stand for the count it returns.
def writeTls (conn : RealityClientConnection) (wr : Except IoError Nat) :
    Except IoError Bytes × RealityClientConnection :=
  if conn.handshakeState ≠ .complete then conn.writeOut wr
  else if conn.plaintextWriteBuf = [] then conn.writeOut wr
  else match conn.appWriteKey, conn.appWriteIv with
    | some key, some iv => writeEncrypted wr (conn.encryptPending crypto key iv)
    | _, _ => (.error (invalidData "Application keys not available"),conn)

def sendCloseNotify (conn : RealityClientConnection) : RealityClientConnection :=
  if conn.handshakeState ≠ .complete then conn
  else match conn.appWriteKey, conn.appWriteIv with
    | some key, some iv =>
      let writing := (encryptCloseNotify crypto key iv ⟨conn.writeSeq,conn.ciphertextWriteBuf⟩).2
      {conn with writeSeq := writing.seq, ciphertextWriteBuf := writing.out}
    | _, _ => conn

end Write

theorem completeHandshake_ok {crypto : Crypto} (lawful : crypto.Lawful) {conn after : RealityClientConnection}
    {state : Handshaking} (done : completeHandshake crypto conn state = (.ok (),after)) :
    ∃ out writeKey writeIv readKey readIv, writeIv.length = 12 ∧ readIv.length = 12 ∧ after = {conn with
      ciphertextWriteBuf := out
      appReadKey := some readKey
      appReadIv := some readIv
      appWriteKey := some writeKey
      appWriteIv := some writeIv
      readSeq := 0
      writeSeq := 0
      cipherSuite := some state.cipherSuite
      handshakeState := .complete} := by
  rw [completeHandshake] at done
  split at done
  · cases done
  · split at done
    · cases done
    · split at done
      · cases done
      next clientKey clientIv serverKey serverIv made =>
        cases done
        rw [applicationKeys] at made
        obtain ⟨⟨clientSecret,serverSecret⟩,_,made⟩ := (bind_ok_iff _ _ _).mp made
        obtain ⟨⟨clientBytes,first⟩,clientMade,made⟩ := (bind_ok_iff _ _ _).mp made
        obtain ⟨⟨serverBytes,second⟩,serverMade,made⟩ := (bind_ok_iff _ _ _).mp made
        obtain ⟨_,_,made⟩ := (bind_ok_iff _ _ _).mp made
        obtain ⟨_,_,made⟩ := (bind_ok_iff _ _ _).mp made
        cases made
        exact ⟨_,_,_,_,_,(deriveTrafficKeys_length lawful clientMade).2,(deriveTrafficKeys_length lawful serverMade).2,
          rfl⟩

/-! What the operations on the ciphertext do. -/

theorem firstRecord_item {bytes : Bytes} {n : Nat} (cut : frameCut bytes = .item n) :
    firstRecord bytes = some (byteAt bytes 0,(bytes.take n).drop tlsRecordHeaderSize,n) := by
  rw [firstRecord,cut]

theorem firstRecord_more {bytes : Bytes} (cut : frameCut bytes = .more) : firstRecord bytes = none := by
  rw [firstRecord,cut]

theorem readTls_room (conn : RealityClientConnection) (chunk : Chunk)
    (room : conn.ciphertextReadBuf.len + chunk.bytes.length ≤ conn.ciphertextReadBuf.capacity) :
    ∃ buf : SlideBuffer, conn.readTls (.ok chunk) = .ok (.ok chunk.bytes.length,{conn with ciphertextReadBuf := buf}) ∧
      buf.bytes = conn.ciphertextReadBuf.bytes ++ chunk.bytes ∧ buf.capacity = conn.ciphertextReadBuf.capacity := by
  have fits := chunk.fits
  have inside := conn.ciphertextReadBuf.fits
  rw [readTls]
  generalize chosen : (if conn.ciphertextReadBuf.remainingCapacity < tlsMaxRecordSize then
    conn.ciphertextReadBuf.compact else conn.ciphertextReadBuf) = buf
  have kept : buf.bytes = conn.ciphertextReadBuf.bytes ∧ buf.capacity = conn.ciphertextReadBuf.capacity ∧
      buf.start + buf.len + chunk.bytes.length ≤ buf.capacity := by
    rw [SlideBuffer.len] at room
    rw [SlideBuffer.remainingCapacity,SlideBuffer.len] at chosen
    rw [SlideBuffer.len]
    split at chosen
    · subst chosen
      refine ⟨rfl,rfl,?_⟩
      simp only [SlideBuffer.compact]
      omega
    next wide =>
      subst chosen
      exact ⟨rfl,rfl,by omega⟩
  obtain ⟨bytes,capacity,space⟩ := kept
  by_cases some : chunk.bytes.length > 0
  · rw [if_pos some]
    cases extended : buf.extendFromSlice chunk.bytes with
    | error panic =>
      have full := ((SlideBuffer.extendFromSlice_error_iff _ _ _).mp extended).2
      omega
    | ok after =>
      obtain ⟨_,same,_,joined⟩ := (SlideBuffer.extendFromSlice_ok_iff _ _ _).mp extended
      refine ⟨after,rfl,?_,same.trans capacity⟩
      rw [joined,bytes]
  · rw [if_neg some]
    have none : chunk.bytes = [] := List.length_eq_zero_iff.mp (by omega)
    refine ⟨buf,?_,?_,capacity⟩
    · rw [none]
      rfl
    · rw [none,bytes,List.append_nil]

theorem readTls_overruns (conn : RealityClientConnection) (chunk : Chunk)
    (full : conn.ciphertextReadBuf.capacity < conn.ciphertextReadBuf.len + chunk.bytes.length) :
    conn.readTls (.ok chunk) = .error .overrun := by
  have fits := chunk.fits
  have inside := conn.ciphertextReadBuf.fits
  rw [SlideBuffer.len] at full
  have some : chunk.bytes.length > 0 := by omega
  have tight : conn.ciphertextReadBuf.remainingCapacity < tlsMaxRecordSize := by
    rw [SlideBuffer.remainingCapacity,SlideBuffer.len]
    omega
  have exceeds : conn.ciphertextReadBuf.compact.extendFromSlice chunk.bytes = .error .overrun := by
    refine (SlideBuffer.extendFromSlice_error_iff _ _ _).mpr ⟨rfl,?_⟩
    simp only [SlideBuffer.compact,SlideBuffer.len]
    omega
  rw [readTls,if_pos tight]
  simp only [if_pos some,exceeds]

end RealityClientConnection

end Dynet.Vless.Reality
