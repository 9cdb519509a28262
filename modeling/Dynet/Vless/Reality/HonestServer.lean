import Dynet.Vless.Reality.ServerMessages
import Dynet.Vless.Reality.Fragmentation

/-! The other party of the handshake: a server that knows the private key of the configured
public one. It opens the session id of a hello, answers with the messages above, and the
client completes with the keys the server has. -/
namespace Dynet.Vless.Reality
open Dynet.Lib.Checks
open Dynet.Lib.Framing
open Cursor (Extension)

/-! What the server does. -/

structure Server where
  privateKey : Bytes
  ephemeralKey : Bytes
  random : Bytes
  cipherSuite : CipherSuite
  signingKey : Bytes
  hostname : Bytes
  randomSized : random.length = 32

section KeyShare
open BufReader

def readKeyShare : ReadM Bytes := do
  let _ ← readU16Be
  let group ← readU16Be
  if group ≠ 29 then throw (invalidData "X25519 key share not found in ClientHello")
  let keyLen ← readU16Be
  readSlice keyLen

end KeyShare

def clientKeyShare (hello : ClientHello) : Except IoError Bytes := do
  let share ← need (hello.extensions.find? (·.extType = 51)) (invalidData "key share not found in ClientHello")
  BufReader.run readKeyShare share.body

section Server
variable (prims : Primitives) (server : Server)

def Server.authKey (hello : ClientHello) : Except IoError Bytes := do
  let share ← clientKeyShare hello
  let sharedSecret ← (performEcdh prims server.privateKey share).mapError CryptoError.toIo
  (deriveAuthKey prims.toCrypto sharedSecret (hello.random.take 20) (ascii "REALITY")).mapError CryptoError.toIo

/-- The session id of a hello, opened. -/
def Server.opens (bytes : Bytes) : Except IoError Bytes := do
  let hello ← BufReader.run readClientHello bytes
  let authKey ← server.authKey prims hello
  (decryptSessionId prims.toCrypto hello.sessionId authKey ((hello.random.drop 20).take 12)
    (withSessionId bytes (List.replicate 32 0))).mapError CryptoError.toIo

/-- The server's side of a handshake. -/
structure Reply where
  serverHello : Bytes
  keys : Tls13HandshakeKeys
  messages : List Bytes
  deriving DecidableEq, Repr

/-- What the CertificateVerify message signs, behind the transcript of the hellos. -/
def certifiedPart (certDer : Bytes) : Bytes := constructEncryptedExtensions ++ constructCertificate certDer

def Server.certificateVerify (transcript certDer : Bytes) : Bytes :=
  constructCertificateVerify prims server.signingKey (prims.digest server.cipherSuite (transcript ++ certifiedPart certDer))

def Server.finished (transcript certDer : Bytes) (keys : Tls13HandshakeKeys) : Except IoError Bytes := do
  let verifyData ← computeFinishedVerifyData prims.toCrypto server.cipherSuite keys.serverHandshakeTrafficSecret
    (prims.digest server.cipherSuite
      (transcript ++ certifiedPart certDer ++ server.certificateVerify prims transcript certDer))
  return RealityClientConnection.constructFinished verifyData

def Server.reply (bytes : Bytes) : Except IoError Reply := do
  let hello ← BufReader.run readClientHello bytes
  let authKey ← server.authKey prims hello
  let share ← clientKeyShare hello
  let ephemeral ← need (prims.computePublicKey server.ephemeralKey) ⟨.other,"Failed to compute public key"⟩
  let sharedSecret ← need (prims.agree server.ephemeralKey share) ⟨.other,"ECDH failed"⟩
  let serverHello := constructServerHello server.random hello.sessionId server.cipherSuite.id ephemeral
  let transcript := bytes ++ serverHello
  let keys ← deriveHandshakeKeys prims.toCrypto server.cipherSuite sharedSecret (prims.digest server.cipherSuite transcript)
  let certDer ← generateHmacCertificate prims authKey server.hostname server.signingKey
  let finished ← server.finished prims transcript certDer keys
  return ⟨serverHello,keys,[constructEncryptedExtensions,constructCertificate certDer,
    server.certificateVerify prims transcript certDer,finished]⟩

/-- The hash of all the messages but the client's last one. -/
def Server.handshakeHash (bytes : Bytes) (reply : Reply) : Bytes :=
  prims.digest server.cipherSuite (bytes ++ reply.serverHello ++ reply.messages.flatten)

/-- The keys the server writes and reads the application's data with. -/
def Server.applicationKeys (bytes : Bytes) (reply : Reply) : Except IoError (AeadKey × Bytes × AeadKey × Bytes) := do
  let (clientSecret,serverSecret) ← deriveApplicationSecrets prims.toCrypto server.cipherSuite reply.keys.masterSecret
    (server.handshakeHash prims bytes reply)
  let (writeBytes,writeIv) ← deriveTrafficKeys prims.toCrypto serverSecret server.cipherSuite
  let (readBytes,readIv) ← deriveTrafficKeys prims.toCrypto clientSecret server.cipherSuite
  let writeKey ← AeadKey.new server.cipherSuite writeBytes
  let readKey ← AeadKey.new server.cipherSuite readBytes
  return (writeKey,writeIv,readKey,readIv)

/-- The Finished message the server expects of the client. -/
def Server.clientFinished (bytes : Bytes) (reply : Reply) : Except IoError Bytes := do
  let verifyData ← computeFinishedVerifyData prims.toCrypto server.cipherSuite reply.keys.clientHandshakeTrafficSecret
    (server.handshakeHash prims bytes reply)
  return RealityClientConnection.constructFinished verifyData

/-- The message in the record that a client answers with. -/
def Server.openFinished (reply : Reply) (record : Bytes) : Except IoError Bytes := do
  let (key,iv) ← deriveTrafficKeys prims.toCrypto reply.keys.clientHandshakeTrafficSecret server.cipherSuite
  decryptHandshakeMessage prims.toCrypto server.cipherSuite key iv 0 (record.drop tlsRecordHeaderSize)

end Server

/-! The session id. -/

section SessionId
variable {prims : Primitives} {server : Server}

theorem clientKeyShare_written {clientRandom sessionId clientPublicKey serverName : Bytes} {cipherSuites : List Nat}
    {alpnProtocols : List Bytes} {legacyVersion : Nat} {compressionMethods : Bytes}
    (sized : clientPublicKey.length = 32) : clientKeyShare ⟨legacyVersion,clientRandom,sessionId,cipherSuites,
      compressionMethods,clientExtensions clientPublicKey serverName alpnProtocols⟩ = .ok clientPublicKey := by
  have found : (clientExtensions clientPublicKey serverName alpnProtocols).find? (·.extType = 51) =
      some ⟨51,toBe16 (4 + clientPublicKey.length) ++ [0,29] ++ toBe16 clientPublicKey.length ++ clientPublicKey⟩ := rfl
  rw [clientKeyShare,found]
  have split : toBe16 (4 + clientPublicKey.length) ++ [0,29] ++ toBe16 clientPublicKey.length ++ clientPublicKey =
      toBe16 36 ++ (toBe16 29 ++ (toBe16 32 ++ clientPublicKey)) := by
    simp [toBe16,sized]
  change BufReader.run readKeyShare _ = _
  dsimp only
  rw [split]
  refine Reads.whole ((Reads.u16 (by decide)).bind ((Reads.u16 (by decide)).bind (Reads.passed (by decide) ?_)))
  exact (Reads.u16 (by decide)).bind (Reads.sliceOf sized)

/-- The hello of the configuration fits a record. -/
def RealityClientConfig.Fits (config : RealityClientConfig) : Prop :=
  183 + 2 * config.offered.length + config.serverName.length < 65536

theorem helloExtensions_length {clientPublicKey : Bytes} (sized : clientPublicKey.length = 32) (serverName : Bytes) :
    (helloExtensions clientPublicKey serverName defaultAlpnProtocols).length = 106 + serverName.length := by
  have alpn : (alpnExtension defaultAlpnProtocols).length = 18 := by decide
  simp only [helloExtensions,serverNameExtension,supportedVersionsExtension,supportedGroupsExtension,keyShareExtension,
    signatureAlgorithmsExtension,List.length_append,alpn,sized,toBe16,List.length_cons,List.length_nil]
  omega

theorem constructClientHello_length {clientRandom sessionId clientPublicKey : Bytes} (randomSized : clientRandom.length = 32)
    (idSized : sessionId.length = 32) (sized : clientPublicKey.length = 32) (serverName : Bytes) (cipherSuites : List Nat) :
    (constructClientHello clientRandom sessionId clientPublicKey serverName cipherSuites defaultAlpnProtocols).length =
      183 + 2 * cipherSuites.length + serverName.length := by
  have suites : (cipherSuites.flatMap toBe16).length = cipherSuites.length * 2 := by simp [toBe16]
  simp only [constructClientHello,clientHelloBody,List.length_append,List.length_cons,List.length_nil,toBe16,toBe24,
    randomSized,idSized,suites,helloExtensions_length sized]
  omega

theorem handshakeRecord_whole {message : Bytes} (small : message.length < 65536) :
    frameCut (handshakeRecord message) = .item (handshakeRecord message).length := by
  change frameCut (contentTypeHandshake::3::3::_::_::message) = _
  rw [frameCut,be16_toBe16 small]
  have length : (handshakeRecord message).length = 5 + message.length := by
    rw [handshakeRecord,List.length_append,Nat.add_comm]
    exact Nat.add_comm _ _
  rw [length]
  exact if_neg (by simp; omega)

/-- A hello on its way: the fields a server reads of it, and what the two ends share. -/
structure Sent (prims : Primitives) (config : RealityClientConfig) (draws : Draws) (timestamp : Nat)
    (conn : RealityClientConnection) (message authKey : Bytes) (hello : ClientHello) (publicKey : Bytes) : Prop where
  state : conn = .new message draws.ourPrivateBytes authKey
  wire : conn.ciphertextWriteBuf = handshakeRecord message ∧
    frameCut conn.ciphertextWriteBuf = .item conn.ciphertextWriteBuf.length
  read : BufReader.run readClientHello message = .ok hello
  version : hello.legacyVersion = 0x0303
  random : hello.random = draws.clientRandom
  suites : hello.cipherSuites = config.offered.map CipherSuite.id
  methods : hello.compressionMethods = [0]
  extensions : hello.extensions = clientExtensions publicKey config.serverName defaultAlpnProtocols
  ours : prims.computePublicKey draws.ourPrivateBytes = some publicKey
  share : clientKeyShare hello = .ok publicKey
  agreed : ∃ sharedSecret, prims.agree draws.ourPrivateBytes config.publicKey = some sharedSecret ∧
    deriveAuthKey prims.toCrypto sharedSecret (draws.clientRandom.take 20) (ascii "REALITY") = .ok authKey
  sealed : encryptSessionId prims.toCrypto (sessionIdPlaintext timestamp config.shortId) authKey
    ((draws.clientRandom.drop 20).take 12) (withSessionId message (List.replicate 32 0)) = .ok hello.sessionId

theorem generateClientHello_sent (sound : prims.Sound) {config : RealityClientConfig} {draws : Draws} {clock : Option Nat}
    {conn : RealityClientConnection} (small : config.Fits) (made : generateClientHello prims config draws clock = .ok conn) :
    ∃ timestamp message authKey hello publicKey, clock = some timestamp ∧
      Sent prims config draws timestamp conn message authKey hello publicKey := by
  obtain ⟨timestamp,publicKey,sharedSecret,authKey,encrypted,rfl,ours,agreed,derived,sealed,rfl⟩ := generateClientHello_ok made
  have sized := sound.keys ours
  have idSized := encryptSessionId_length sealed
  have length := constructClientHello_length draws.randomSized idSized sized config.serverName
    (config.offered.map CipherSuite.id)
  have suites : ∀ suite ∈ config.offered.map CipherSuite.id, suite < 65536 := by
    intro id member
    obtain ⟨suite,_,rfl⟩ := List.mem_map.mp member
    cases suite <;> decide
  rw [RealityClientConfig.Fits] at small
  rw [List.length_map] at length
  refine ⟨timestamp,_,authKey,_,publicKey,rfl,{
    state := rfl
    wire := ⟨rfl,handshakeRecord_whole (by omega)⟩
    read := readClientHello_construct draws.randomSized idSized suites (by rw [List.length_map]; omega)
      (by rw [helloExtensions_length sized]; omega)
    version := rfl
    random := rfl
    suites := rfl
    methods := rfl
    extensions := rfl
    ours := ours
    share := clientKeyShare_written sized
    agreed := ⟨sharedSecret,agreed,derived⟩
    sealed := ?_}⟩
  rw [withSessionId_construct draws.randomSized idSized List.length_replicate]
  exact sealed

/-- The holder of the configured key. -/
def Server.Holds (prims : Primitives) (server : Server) (config : RealityClientConfig) : Prop :=
  prims.loads server.privateKey = true ∧ prims.computePublicKey server.privateKey = some config.publicKey

theorem Sent.authKey (sound : prims.Sound) {config : RealityClientConfig} {draws : Draws} {timestamp : Nat}
    {conn : RealityClientConnection} {message authKey publicKey : Bytes} {hello : ClientHello}
    (sent : Sent prims config draws timestamp conn message authKey hello publicKey) (holds : server.Holds prims config) :
    server.authKey prims hello = .ok authKey := by
  obtain ⟨sharedSecret,agreed,derived⟩ := sent.agreed
  rw [sound.agrees sent.ours holds.2] at agreed
  have shared : performEcdh prims server.privateKey publicKey = .ok sharedSecret := by
    simp only [performEcdh,holds.1,holds.2,agreed]
    rfl
  have kept : (Except.ok sharedSecret : Except CryptoError Bytes).mapError CryptoError.toIo = .ok sharedSecret := rfl
  rw [Server.authKey,sent.share,ok_bind,shared,kept,ok_bind,sent.random,derived]
  rfl

/-- Whatever a client draws, and however the clock stands, it sends one record; the hello in
it is read back whole, and the holder of the configured key derives the client's
authentication key from it and opens the version, the time and the short id. -/
theorem session_id_opens (sound : prims.Sound) {config : RealityClientConfig} {draws : Draws} {clock : Option Nat}
    {conn : RealityClientConnection} (small : config.Fits) (holds : server.Holds prims config)
    (made : generateClientHello prims config draws clock = .ok conn) :
    ∃ timestamp message authKey hello publicKey, clock = some timestamp ∧
      Sent prims config draws timestamp conn message authKey hello publicKey ∧
      server.authKey prims hello = .ok authKey ∧
      server.opens prims message = .ok ([1,8,0,0] ++ toBe32 timestamp ++ config.shortId) := by
  obtain ⟨timestamp,message,authKey,hello,publicKey,told,sent⟩ := generateClientHello_sent sound small made
  have derived := sent.authKey sound holds
  have sized : (sessionIdPlaintext timestamp config.shortId).length = 16 := by
    simp [sessionIdPlaintext,toBe32,config.idSized]
  refine ⟨timestamp,message,authKey,hello,publicKey,told,sent,derived,?_⟩
  rw [Server.opens,sent.read,ok_bind,derived,ok_bind,sent.random,
    decrypt_encryptSessionId sound.toLawful sized sent.sealed]
  rfl

end SessionId

/-! A client that waits for the ServerHello. -/

namespace RealityClientConnection

/-- A connection that has read no whole record yet. -/
structure Waits (hello privateKey authKey : Bytes) (conn : RealityClientConnection) : Prop where
  state : conn.handshakeState = .awaitingServerHello hello privateKey authKey
  running : conn.receivedCloseNotify = false
  healthy : conn.fatalError = none
  cut : frameCut conn.ciphertextReadBuf.bytes = .more
  cipherCapacity : conn.ciphertextReadBuf.capacity = ciphertextReadBufCapacity

section Run
variable {crypto : Crypto} {hello privateKey authKey record : Bytes} {start : Handshaking} {key : AeadKey} {iv : Bytes}
  {conn : RealityClientConnection}

theorem Waits.idle (waits : conn.Waits hello privateKey authKey) (rounds : Nat) :
    processNewPacketsInner crypto conn (rounds + 1) = .ok (.ok conn.plaintextReadBuf.len,conn) := by
  have handshaking : conn.handshakeState ≠ .complete := by
    rw [waits.state]
    exact HandshakeState.noConfusion
  rw [processNewPacketsInner,if_neg handshaking,processHandshake,waits.state]
  dsimp only
  rw [processServerHello,firstRecord_more waits.cut]

/-- The ServerHello takes the client to the flight. -/
theorem greeted_inner {rest : Bytes} (state : conn.handshakeState = .awaitingServerHello hello privateKey authKey)
    (whole : frameCut record = .item record.length)
    (accepted : acceptServerHello crypto hello privateKey authKey record = .ok start)
    (buffered : conn.ciphertextReadBuf.bytes = record ++ rest) (rounds : Nat) :
    ∃ buf : SlideBuffer, buf.bytes = rest ∧ buf.capacity = conn.ciphertextReadBuf.capacity ∧
      processNewPacketsInner crypto conn (rounds + 1) = processNewPacketsInner crypto
        {conn with handshakeState := .processingHandshake start, ciphertextReadBuf := buf} rounds := by
  have handshaking : conn.handshakeState ≠ .complete := by
    rw [state]
    exact HandshakeState.noConfusion
  have item : frameCut conn.ciphertextReadBuf.bytes = .item record.length := by
    rw [buffered]
    exact (frameCutter.stable _ (by
      change frameCut record ≠ _
      rw [whole]
      exact Cut.noConfusion)).trans whole
  refine ⟨conn.ciphertextReadBuf.consume record.length,?_,SlideBuffer.consume_capacity _ _,?_⟩
  · rw [SlideBuffer.consume_bytes,buffered,List.drop_left]
  · rw [processNewPacketsInner,if_neg handshaking,processHandshake,state]
    dsimp only
    rw [processServerHello,firstRecord_item item]
    dsimp only
    rw [buffered,List.take_left,accepted]

/-- From the first byte of the ServerHello on, the run shows the verdict on the flight. -/
theorem Waits.shows (lawful : crypto.Lawful) {inners : List Inner} {records : List Bytes} {chunks : List Chunk}
    (waits : conn.Waits hello privateKey authKey) (whole : frameCut record = .item record.length)
    (legal : (record.drop 5).length ≤ maxTlsCiphertextLen)
    (accepted : acceptServerHello crypto hello privateKey authKey record = .ok start)
    (first : start.handshakeSeq = 0) (fresh : start.messagesFound = 0)
    (keys : deriveTrafficKeys crypto start.serverHandshakeTrafficSecret start.cipherSuite = .ok (key.key,iv))
    (suite : start.cipherSuite = key.suite) (sealed : SealedFrom crypto key iv 0 inners records)
    (small : ∀ inner ∈ inners, inner.plaintext.length + 16 ≤ maxTlsCiphertextLen)
    (stream : conn.ciphertextReadBuf.bytes ++ (chunks.map (·.bytes)).flatten = record ++ records.flatten) :
    conn.Shows crypto (judge crypto start (inners.map (·.content))) (handshake crypto conn chunks) := by
  have framed : ∀ frame ∈ record::records, frameCutter.cut frame = .item frame.length ∧
      (frame.drop 5).length ≤ maxTlsCiphertextLen :=
    List.forall_mem_cons.mpr ⟨⟨whole,legal⟩,sealed.frames lawful small⟩
  induction chunks generalizing conn with
  | nil =>
    rw [List.map_nil,List.flatten_nil,List.append_nil,← List.flatten_cons] at stream
    cases records_nil (fun frame member => (framed frame member).1) waits.cut stream
  | cons chunk chunks ih =>
    rw [List.map_cons,List.flatten_cons,← List.flatten_cons] at stream
    obtain ⟨buf,done,rest,part,call,capacity,split,filled,cut,ahead,rounds⟩ :=
      readTls_frames framed waits.cut waits.cipherCapacity stream
    rw [handshake,call]
    dsimp only
    have process : RealityClientConnection.processNewPackets crypto {conn with ciphertextReadBuf := buf} =
        recordFatal (processNewPacketsInner crypto {conn with ciphertextReadBuf := buf} (buf.len + 1)) := by
      rw [RealityClientConnection.processNewPackets]
      simp only [waits.healthy,waits.running,Bool.false_eq_true,if_false]
    rw [process,goOn_recordFatal]
    rcases done with _ | ⟨frame,done⟩
    · -- The ServerHello is not whole yet.
      rw [List.flatten_nil,List.nil_append] at filled
      rw [List.nil_append] at split
      have next : Waits hello privateKey authKey {conn with ciphertextReadBuf := buf} :=
        ⟨waits.state,waits.running,waits.healthy,by dsimp only; rw [filled]; exact cut,capacity.trans waits.cipherCapacity⟩
      rw [next.idle,goOn,if_neg (by rw [next.state]; exact HandshakeState.noConfusion)]
      have shows := ih next (by dsimp only; rw [filled,ahead,← split,List.flatten_cons])
      exact @Shows.of_same crypto conn _ _ buf conn.handshakeState shows
    · rw [List.cons_append,List.cons.injEq] at split
      obtain ⟨rfl,rfl⟩ := split
      rw [List.flatten_cons,List.append_assoc] at filled
      obtain ⟨left,bytes,kept,onward⟩ := @greeted_inner crypto _ _ _ _ _ {conn with ciphertextReadBuf := buf} _ waits.state
        whole accepted filled buf.len
      obtain ⟨front,back,rfl,sealedFront,sealedBack⟩ := sealed.split
      obtain ⟨smallFront,smallBack⟩ := List.forall_mem_append.mp small
      rw [List.length_cons] at rounds
      have bears : Bears crypto {conn with
          handshakeState := .processingHandshake start
          ciphertextReadBuf := left} part (judge crypto start (front.map (·.content)))
          (processNewPacketsInner crypto _ buf.len) :=
        processNewPacketsInner_judges lawful buf.len rfl keys suite (by rw [first]; exact sealedFront) smallFront bytes cut
          (by omega)
      rw [onward,List.map_append,judge_append]
      cases verdict : judge crypto start (front.map (·.content)) with
      | going after =>
        rw [verdict] at bears
        obtain ⟨last,same,held,width⟩ := bears
        obtain ⟨secret,suites,seq,few⟩ := judge_going (by rw [fresh]; decide) verdict
        rw [List.length_map] at seq
        have next : Hears crypto key iv back rest (chunks.map (·.bytes)).flatten after {conn with
            handshakeState := .processingHandshake after
            ciphertextReadBuf := last} := {
          processing := rfl
          unfinished := few
          keys := by rw [secret,suites]; exact keys
          suite := suites.trans suite
          running := waits.running
          healthy := waits.healthy
          sealed := by rw [seq,first]; exact sealedBack
          small := smallBack
          stream := by dsimp only; rw [held]; exact ahead
          cut := by dsimp only; rw [held]; exact cut
          cipherCapacity := width.trans (kept.trans (capacity.trans waits.cipherCapacity))}
        rw [same,goOn,if_neg HandshakeState.noConfusion]
        exact (next.handshake lawful).of_same
      | failed e =>
        rw [verdict] at bears
        obtain ⟨after,same,handshaking⟩ := bears
        rw [same,goOn,if_neg handshaking]
        rfl
      | finished last later =>
        rw [verdict] at bears
        obtain ⟨decided,concluded⟩ := bears fun conn => RealityClientConnection.handshake crypto conn chunks
        refine ⟨decided,fun none => ?_⟩
        rw [concluded (List.append_eq_nil_iff.mp none).1]
        exact conclude_same crypto conn left (.processingHandshake start) last

end Run

end RealityClientConnection

/-! The schedule never fails on what the two ends feed it. -/

section Schedule
variable {crypto : Crypto}

theorem hkdfExpandLabel_ok (crypto : Crypto) (algorithm : HmacAlgorithm) (secret : Bytes) (label : String) (context : Bytes)
    {length : Nat} (few : length ≤ 64) : ∃ out, hkdfExpandLabel crypto algorithm secret label context length = .ok out := by
  refine ⟨_,if_neg ?_⟩
  cases algorithm <;> simp only [HmacAlgorithm.outputLen] <;> omega

theorem hashLen_le (suite : CipherSuite) : suite.hashLen ≤ 64 := by cases suite <;> decide

theorem computeFinishedVerifyData_ok (lawful : crypto.Lawful) (suite : CipherSuite) (baseKey hash : Bytes) :
    ∃ verifyData, computeFinishedVerifyData crypto suite baseKey hash = .ok verifyData ∧ verifyData.length ≤ 64 := by
  obtain ⟨finishedKey,made⟩ := hkdfExpandLabel_ok crypto suite.hmacAlgorithm baseKey "finished" [] (hashLen_le suite)
  refine ⟨crypto.hmac suite.hmacAlgorithm finishedKey hash,?_,?_⟩
  · rw [computeFinishedVerifyData,made,ok_bind]
    rfl
  · rw [lawful.macs]
    exact hashLen_le suite

theorem deriveApplicationSecrets_ok {suite : CipherSuite} {masterSecret hash : Bytes}
    (master : masterSecret.length = suite.hashLen) (hashed : hash.length = suite.hashLen) :
    ∃ clientSecret serverSecret, deriveApplicationSecrets crypto suite masterSecret hash = .ok (clientSecret,serverSecret) := by
  obtain ⟨client,first⟩ := hkdfExpandLabel_ok crypto suite.hmacAlgorithm masterSecret "c ap traffic" hash (hashLen_le suite)
  obtain ⟨server,second⟩ := hkdfExpandLabel_ok crypto suite.hmacAlgorithm masterSecret "s ap traffic" hash (hashLen_le suite)
  refine ⟨client,server,?_⟩
  change deriveSecret _ _ _ _ _ = _ at first second
  rw [deriveApplicationSecrets,if_neg (by simp [master,hashed])]
  simp only [first,second,ok_bind]
  rfl

theorem deriveHandshakeKeys_master (lawful : crypto.Lawful) {suite : CipherSuite} {sharedSecret hash : Bytes}
    {keys : Tls13HandshakeKeys} (made : deriveHandshakeKeys crypto suite sharedSecret hash = .ok keys) :
    keys.masterSecret.length = suite.hashLen := by
  rw [deriveHandshakeKeys] at made
  split at made
  · cases made
  · dsimp only at made
    split at made
    · cases made
    · obtain ⟨_,_,made⟩ := (bind_ok_iff _ _ _).mp made
      obtain ⟨_,_,made⟩ := (bind_ok_iff _ _ _).mp made
      obtain ⟨_,_,made⟩ := (bind_ok_iff _ _ _).mp made
      obtain ⟨_,_,same⟩ := (bind_ok_iff _ _ _).mp made
      cases same
      exact lawful.macs _ _ _

end Schedule

/-! The flight of the server. -/

section Flight
variable {prims : Primitives} {server : Server}

/-- What a reply is made of. -/
structure Reply.Made (prims : Primitives) (server : Server) (message authKey publicKey sessionId : Bytes) (reply : Reply)
    (ephemeral sharedSecret certDer finished : Bytes) : Prop where
  drawn : prims.computePublicKey server.ephemeralKey = some ephemeral
  agreed : prims.agree server.ephemeralKey publicKey = some sharedSecret
  greeting : reply.serverHello = constructServerHello server.random sessionId server.cipherSuite.id ephemeral
  keys : deriveHandshakeKeys prims.toCrypto server.cipherSuite sharedSecret
    (prims.digest server.cipherSuite (message ++ reply.serverHello)) = .ok reply.keys
  certificate : generateHmacCertificate prims authKey server.hostname server.signingKey = .ok certDer
  confirmed : server.finished prims (message ++ reply.serverHello) certDer reply.keys = .ok finished
  messages : reply.messages = [constructEncryptedExtensions,constructCertificate certDer,
    server.certificateVerify prims (message ++ reply.serverHello) certDer,finished]

theorem Server.reply_made {message authKey publicKey : Bytes} {hello : ClientHello} {reply : Reply}
    (read : BufReader.run readClientHello message = .ok hello) (derived : server.authKey prims hello = .ok authKey)
    (share : clientKeyShare hello = .ok publicKey) (replied : server.reply prims message = .ok reply) :
    ∃ ephemeral sharedSecret certDer finished, reply.Made prims server message authKey publicKey hello.sessionId ephemeral
      sharedSecret certDer finished := by
  rw [Server.reply,read,ok_bind,derived,ok_bind,share,ok_bind] at replied
  obtain ⟨ephemeral,computed,replied⟩ := (bind_ok_iff _ _ _).mp replied
  obtain ⟨sharedSecret,agreed,replied⟩ := (bind_ok_iff _ _ _).mp replied
  obtain ⟨keys,scheduled,replied⟩ := (bind_ok_iff _ _ _).mp replied
  obtain ⟨certDer,certified,replied⟩ := (bind_ok_iff _ _ _).mp replied
  obtain ⟨finished,confirmed,same⟩ := (bind_ok_iff _ _ _).mp replied
  rw [need_ok_iff] at computed agreed
  cases same
  exact ⟨ephemeral,sharedSecret,certDer,finished,computed,agreed,rfl,scheduled,certified,confirmed,rfl⟩

/-- The state of a client that has accepted the reply's ServerHello. -/
def Reply.start (server : Server) (message authKey : Bytes) (reply : Reply) : Handshaking where
  clientHandshakeTrafficSecret := reply.keys.clientHandshakeTrafficSecret
  serverHandshakeTrafficSecret := reply.keys.serverHandshakeTrafficSecret
  masterSecret := reply.keys.masterSecret
  cipherSuite := server.cipherSuite
  handshakeTranscriptBytes := message ++ reply.serverHello
  authKey := authKey
  handshakeSeq := 0
  accumulatedPlaintext := []
  messagesFound := 0
  certificateVerified := false
  ed25519PublicKey := none
  certVerifyOffset := none

theorem fromId_id (suite : CipherSuite) : CipherSuite.fromId suite.id = some suite := by cases suite <;> rfl

/-- The two ends come to the same handshake keys. -/
theorem Reply.Made.accepted (sound : prims.Sound) {message authKey publicKey sessionId privateKey : Bytes} {reply : Reply}
    {ephemeral sharedSecret certDer finished : Bytes} (made : reply.Made prims server message authKey publicKey sessionId
      ephemeral sharedSecret certDer finished) (few : sessionId.length ≤ 32)
    (ours : prims.computePublicKey privateKey = some publicKey) :
    RealityClientConnection.acceptServerHello prims.toCrypto message privateKey authKey (handshakeRecord reply.serverHello) =
      .ok (reply.start server message authKey) := by
  have small : server.cipherSuite.id < 65536 := by cases server.cipherSuite <;> decide
  have agreed : prims.agree privateKey ephemeral = some sharedSecret :=
    (sound.agrees ours made.drawn).trans made.agreed
  have behind : (handshakeRecord reply.serverHello).drop tlsRecordHeaderSize = reply.serverHello := rfl
  have share : extractServerPublicKey (handshakeRecord reply.serverHello) = .ok ephemeral := by
    rw [made.greeting]
    exact extractServerPublicKey_written server.randomSized few (sound.keys made.drawn)
  have suite : extractServerCipherSuite (handshakeRecord reply.serverHello) = .ok server.cipherSuite.id := by
    rw [made.greeting]
    exact extractServerCipherSuite_written server.randomSized few small
  rw [RealityClientConnection.acceptServerHello,share,ok_bind,suite,ok_bind]
  simp only [fromId_id,agreed,behind,made.keys,ok_bind]
  rfl

theorem generateHmacCertificate_accepted (sound : prims.Sound) {authKey hostname signingKey certDer : Bytes}
    (issued : generateHmacCertificate prims authKey hostname signingKey = .ok certDer) (small : certDer.length < 16777216) :
    RealityClientConnection.acceptCertificate prims.toCrypto authKey (constructCertificate certDer) =
      .ok (prims.verifyingKey signingKey) := by
  have keySized := sound.verifying signingKey
  have macSized : (prims.hmac .sha512 authKey (prims.verifyingKey signingKey)).length = 64 := sound.macs _ _ _
  rw [generateHmacCertificate,if_neg (by simp [keySized])] at issued
  have parsed := sound.parses keySized macSized issued
  have der : fromDer prims.toCrypto certDer =
      .ok ⟨prims.verifyingKey signingKey,prims.hmac .sha512 authKey (prims.verifyingKey signingKey)⟩ := by
    rw [fromDer,parsed]
    rfl
  rw [RealityClientConnection.acceptCertificate,extractCertificateDer_written small,ok_bind,verifyCertificateHmac,
    extractEd25519PublicKey,der]
  simp only [ok_bind,keySized,macSized,ne_eq,not_true_eq_false,if_false]
  rfl

/-- The messages a client has found when it has read a reply. -/
def Reply.found (prims : Primitives) (server : Server) (certDer : Bytes) : RealityClientConnection.Found :=
  ⟨4,true,some (prims.verifyingKey server.signingKey),some (certifiedPart certDer).length⟩

open RealityClientConnection in
theorem Reply.Made.found (sound : prims.Sound) {message authKey publicKey sessionId : Bytes} {reply : Reply}
    {ephemeral sharedSecret certDer finished : Bytes} (made : reply.Made prims server message authKey publicKey sessionId
      ephemeral sharedSecret certDer finished) (small : certDer.length < 16777216) :
    acceptAll prims.toCrypto authKey 0 reply.messages ⟨0,false,none,none⟩ = .ok (Reply.found prims server certDer) := by
  have certified := generateHmacCertificate_accepted sound made.certificate small
  have confirmed : byteAt finished 0 = handshakeTypeFinished := by
    obtain ⟨verifyData,_,same⟩ := (bind_ok_iff _ _ _).mp made.confirmed
    cases same
    rfl
  rw [made.messages,acceptAll,acceptMessage_other (by decide),ok_bind,acceptAll,acceptMessage_certificate rfl,certified,
    ok_bind]
  change acceptAll _ _ _ _ _ = _
  have verify : byteAt (server.certificateVerify prims (message ++ reply.serverHello) certDer) 0 =
      handshakeTypeCertificateVerify := rfl
  rw [acceptAll,acceptMessage_other (by rw [verify]; decide),ok_bind,acceptAll,
    acceptMessage_other (by rw [confirmed]; decide),ok_bind,acceptAll,verify,confirmed]
  simp only [Reply.found,certifiedPart,List.length_append]
  rfl

theorem isMessage_certificateVerify (sound : prims.Sound) (signingKey hash : Bytes) :
    IsMessage (constructCertificateVerify prims signingKey hash) := by
  refine isMessage_framed handshakeTypeCertificateVerify ?_
  rw [List.length_append,List.length_append,sound.signature]
  decide

/-- The state of a client that has found the messages of a reply. -/
def Reply.last (prims : Primitives) (server : Server) (message authKey certDer : Bytes) (reply : Reply) : Handshaking :=
  (reply.start server message authKey).advance reply.messages.flatten (Reply.found prims server certDer)

open RealityClientConnection in
theorem Reply.Made.verified (sound : prims.Sound) {message authKey publicKey sessionId : Bytes} {reply : Reply}
    {ephemeral sharedSecret certDer finished : Bytes} (made : reply.Made prims server message authKey publicKey sessionId
      ephemeral sharedSecret certDer finished) :
    verifyFlight prims.toCrypto (reply.last prims server message authKey certDer) = .ok () := by
  let verify := server.certificateVerify prims (message ++ reply.serverHello) certDer
  have flight : (reply.last prims server message authKey certDer).accumulatedPlaintext =
      certifiedPart certDer ++ (verify ++ finished) := by
    change [] ++ reply.messages.flatten = _
    rw [made.messages]
    simp [certifiedPart,verify]
  have whole : IsMessage verify := isMessage_certificateVerify sound _ _
  obtain ⟨size,_⟩ := messageCut_item whole
  have counted : be24At (certifiedPart certDer ++ (verify ++ finished)) ((certifiedPart certDer).length + 1) = be24At verify 1 := by
    rw [be24At_append_right,be24At_append_left (by omega)]
  have taken : (verify ++ finished).take (4 + be24At verify 1) = verify := by rw [← size,List.take_left]
  have signed : extractCertificateVerifySignature verify = .ok _ := extractCertificateVerifySignature_written sound _ _
  have start : (certifiedPart certDer ++ (verify ++ finished)).take (certifiedPart certDer).length = certifiedPart certDer :=
    List.take_left
  have offset : (reply.last prims server message authKey certDer).certVerifyOffset = some (certifiedPart certDer).length := rfl
  have key : (reply.last prims server message authKey certDer).ed25519PublicKey =
      some (prims.verifyingKey server.signingKey) := rfl
  have genuine : (reply.last prims server message authKey certDer).certificateVerified = true := rfl
  have transcript : (reply.last prims server message authKey certDer).handshakeTranscriptBytes = message ++ reply.serverHello :=
    rfl
  have suite : (reply.last prims server message authKey certDer).cipherSuite = server.cipherSuite := rfl
  rw [verifyFlight,genuine,offset,key]
  simp only [flight,counted,start,List.drop_left,taken,signed,ok_bind,transcript,suite,verifyCertificateVerifySignature,
    sound.signature,sound.verifies,ne_eq,not_true_eq_false,Bool.true_eq_false,if_false]
  rfl

open RealityClientConnection in
theorem encryptHandshake_small {crypto : Crypto} (lawful : crypto.Lawful) {key : AeadKey} {iv data out : Bytes}
    (sized : iv.length = 12) (some : data ≠ []) (small : data.length ≤ 16384) :
    ∃ record, encryptHandshake crypto key iv ⟨0,out⟩ data = (.ok (),⟨1,out ++ record⟩) ∧
      decryptHandshakeMessage crypto key.suite key.key iv 0 (record.drop tlsRecordHeaderSize) = .ok data := by
  have plain : (Inner.mk contentTypeHandshake data 0 known_handshake).plaintext.length ≤ 16384 + 240 := by
    rw [plaintext_length]
    dsimp only
    omega
  obtain ⟨record,sealed⟩ := @sealRecord_exists crypto lawful key iv 0 _ sized plain
  obtain ⟨_,made⟩ := @encryptRecordInPlace_sealed crypto key iv record ⟨0,out⟩ data _ known_handshake sealed (by
    exact (by decide : 0 + 1 < 2^64))
  refine ⟨record,?_,decryptHandshake_sealRecord lawful sealed⟩
  rw [encryptHandshake,if_neg some,if_pos (show data.length ≤ maxTlsPlaintextLen from small),made]

open RealityClientConnection in
/-- The client completes with the keys of the server, crosswise, and its Finished is the one the server expects. -/
theorem Reply.Made.concluded (sound : prims.Sound) {message authKey publicKey sessionId : Bytes} {reply : Reply}
    {ephemeral sharedSecret certDer finished : Bytes} (made : reply.Made prims server message authKey publicKey sessionId
      ephemeral sharedSecret certDer finished) (conn : RealityClientConnection) :
    ∃ writeKey writeIv readKey readIv expected record,
      server.applicationKeys prims message reply = .ok (writeKey,writeIv,readKey,readIv) ∧
      server.clientFinished prims message reply = .ok expected ∧ server.openFinished prims reply record = .ok expected ∧
      conn.conclude prims.toCrypto (reply.last prims server message authKey certDer) =
        .completed (some writeKey) (some writeIv) (some readKey) (some readIv) (some server.cipherSuite)
          (conn.ciphertextWriteBuf ++ record) := by
  have hash : prims.digest (reply.last prims server message authKey certDer).cipherSuite
      ((reply.last prims server message authKey certDer).handshakeTranscriptBytes ++
        (reply.last prims server message authKey certDer).accumulatedPlaintext) =
      server.handshakeHash prims message reply := rfl
  have hashed : (server.handshakeHash prims message reply).length = server.cipherSuite.hashLen := sound.hashes _ _
  obtain ⟨clientSecret,serverSecret,secrets⟩ := deriveApplicationSecrets_ok
    (deriveHandshakeKeys_master sound.toLawful made.keys) hashed
  obtain ⟨clientBytes,clientIv,clientKeys⟩ := deriveTrafficKeys_ok prims.toCrypto clientSecret server.cipherSuite
  obtain ⟨serverBytes,serverIv,serverKeys⟩ := deriveTrafficKeys_ok prims.toCrypto serverSecret server.cipherSuite
  have clientSized := (deriveTrafficKeys_length sound.toLawful clientKeys).1
  have serverSized := (deriveTrafficKeys_length sound.toLawful serverKeys).1
  obtain ⟨keyBytes,iv,keys⟩ := deriveTrafficKeys_ok prims.toCrypto reply.keys.clientHandshakeTrafficSecret server.cipherSuite
  obtain ⟨keySized,ivSized⟩ := deriveTrafficKeys_length sound.toLawful keys
  obtain ⟨verifyData,computed,few⟩ := computeFinishedVerifyData_ok sound.toLawful server.cipherSuite
    reply.keys.clientHandshakeTrafficSecret (server.handshakeHash prims message reply)
  have length : (constructFinished verifyData).length ≤ 16384 := by
    rw [constructFinished]
    simp only [List.length_cons]
    omega
  have solid : constructFinished verifyData ≠ [] := List.cons_ne_nil _ _
  obtain ⟨record,sent,opened⟩ := @encryptHandshake_small prims.toCrypto sound.toLawful ⟨server.cipherSuite,keyBytes,keySized⟩
    iv (constructFinished verifyData) conn.ciphertextWriteBuf ivSized solid length
  have suite : (reply.last prims server message authKey certDer).cipherSuite = server.cipherSuite := rfl
  have master : (reply.last prims server message authKey certDer).masterSecret = reply.keys.masterSecret := rfl
  have traffic : (reply.last prims server message authKey certDer).clientHandshakeTrafficSecret =
      reply.keys.clientHandshakeTrafficSecret := rfl
  refine ⟨⟨server.cipherSuite,serverBytes,serverSized⟩,serverIv,⟨server.cipherSuite,clientBytes,clientSized⟩,clientIv,
    constructFinished verifyData,record,?_,?_,?_,?_⟩
  · rw [Server.applicationKeys,secrets]
    simp only [ok_bind,serverKeys,clientKeys,AeadKey.new,dif_pos serverSized,dif_pos clientSized]
    rfl
  · rw [Server.clientFinished,computed]
    rfl
  · rw [Server.openFinished,keys]
    exact opened
  · have application : applicationKeys prims.toCrypto (reply.last prims server message authKey certDer)
        (server.handshakeHash prims message reply) = .ok (⟨server.cipherSuite,clientBytes,clientSized⟩,clientIv,
          ⟨server.cipherSuite,serverBytes,serverSized⟩,serverIv) := by
      rw [applicationKeys,suite,master,secrets]
      simp only [ok_bind,serverKeys,clientKeys,AeadKey.new,dif_pos serverSized,dif_pos clientSized]
      rfl
    have last : RealityClientConnection.clientFinished prims.toCrypto (reply.last prims server message authKey certDer)
        (server.handshakeHash prims message reply) =
          .ok (constructFinished verifyData,⟨server.cipherSuite,keyBytes,keySized⟩,iv) := by
      rw [RealityClientConnection.clientFinished,suite,traffic,computed]
      simp only [ok_bind,keys,AeadKey.new,dif_pos keySized]
      rfl
    rw [conclude,completeHandshake,hash,last]
    dsimp only
    rw [sent]
    dsimp only
    rw [application]
    rfl

open RealityClientConnection in
theorem Reply.Made.outcome (sound : prims.Sound) {message authKey publicKey sessionId : Bytes} {reply : Reply}
    {ephemeral sharedSecret certDer finished : Bytes} (made : reply.Made prims server message authKey publicKey sessionId
      ephemeral sharedSecret certDer finished) (small : certDer.length < 16777216) (conn : RealityClientConnection) :
    conn.flightOutcome prims.toCrypto (reply.start server message authKey) reply.messages =
      conn.conclude prims.toCrypto (reply.last prims server message authKey certDer) := by
  have found : acceptAll prims.toCrypto (reply.start server message authKey).authKey
      (reply.start server message authKey).accumulatedPlaintext.length reply.messages
      (reply.start server message authKey).found = .ok (Reply.found prims server certDer) := made.found sound small
  have four : ¬(Reply.found prims server certDer).messagesFound < 4 := by
    exact (by decide : ¬4 < 4)
  have verified : verifyFlight prims.toCrypto ((reply.start server message authKey).advance reply.messages.flatten
    (Reply.found prims server certDer)) = .ok () := made.verified sound
  rw [flightOutcome,found]
  dsimp only
  rw [if_neg four,conclusion,verified]
  rfl

theorem Reply.Made.whole (sound : prims.Sound) {message authKey publicKey sessionId : Bytes} {reply : Reply}
    {ephemeral sharedSecret certDer finished : Bytes} (made : reply.Made prims server message authKey publicKey sessionId
      ephemeral sharedSecret certDer finished) (small : certDer.length + 9 < 16777216) :
    ∀ one ∈ reply.messages, IsMessage one := by
  obtain ⟨body,length,framed⟩ := constructCertificate_framed certDer
  have certificate : IsMessage (constructCertificate certDer) := by
    rw [framed]
    exact isMessage_framed _ (by omega)
  have last : IsMessage finished := by
    obtain ⟨verifyData,computed,same⟩ := (bind_ok_iff _ _ _).mp made.confirmed
    obtain ⟨other,again,few⟩ := computeFinishedVerifyData_ok sound.toLawful server.cipherSuite
      reply.keys.serverHandshakeTrafficSecret (prims.digest server.cipherSuite (message ++ reply.serverHello ++
        certifiedPart certDer ++ server.certificateVerify prims (message ++ reply.serverHello) certDer))
    rw [computed] at again
    cases again
    cases same
    exact isMessage_constructFinished (by omega)
  rw [made.messages]
  simp only [List.forall_mem_cons]
  exact ⟨by decide,certificate,isMessage_certificateVerify sound _ _,last,by simp⟩

/-- A reply on the wire: the ServerHello, and behind it the messages in sealed records that are
cut between them, in reads of any size. -/
def Reply.Sends (prims : Primitives) (server : Server) (reply : Reply) (chunks : List RealityClientConnection.Chunk) : Prop :=
  ∃ (groups : List (List Bytes)) (key : AeadKey) (iv : Bytes) (inners : List Inner) (records : List Bytes),
    groups.flatten = reply.messages ∧ (∀ group ∈ groups, group ≠ []) ∧ groups.map List.flatten = inners.map (·.content) ∧
    deriveTrafficKeys prims.toCrypto reply.keys.serverHandshakeTrafficSecret server.cipherSuite = .ok (key.key,iv) ∧
    server.cipherSuite = key.suite ∧ SealedFrom prims.toCrypto key iv 0 inners records ∧
    (∀ inner ∈ inners, inner.plaintext.length + 16 ≤ maxTlsCiphertextLen) ∧
    (chunks.map (·.bytes)).flatten = handshakeRecord reply.serverHello ++ records.flatten

open RealityClientConnection in
/-- A server that holds the configured key and answers a client's hello with these messages is
understood, whatever the two draw and however its records and the client's reads are cut: the
client completes, writes with the server's read key and reads with its write key, and the
record it answers with opens to the Finished message the server expects. -/
theorem honest_server_completes (sound : prims.Sound) {config : RealityClientConfig} {draws : Draws} {clock : Option Nat}
    {conn : RealityClientConnection} (small : config.Fits) (holds : server.Holds prims config)
    (made : generateClientHello prims config draws clock = .ok conn) {reply : Reply}
    (replied : server.reply prims (conn.ciphertextWriteBuf.drop tlsRecordHeaderSize) = .ok reply) {chunks : List Chunk}
    (sends : reply.Sends prims server chunks) :
    ∃ writeKey writeIv readKey readIv expected record,
      server.applicationKeys prims (conn.ciphertextWriteBuf.drop tlsRecordHeaderSize) reply =
        .ok (writeKey,writeIv,readKey,readIv) ∧
      server.clientFinished prims (conn.ciphertextWriteBuf.drop tlsRecordHeaderSize) reply = .ok expected ∧
      server.openFinished prims reply record = .ok expected ∧
      handshake prims.toCrypto conn chunks = .completed (some writeKey) (some writeIv) (some readKey) (some readIv)
        (some server.cipherSuite) (conn.ciphertextWriteBuf ++ record) := by
  obtain ⟨timestamp,message,authKey,hello,publicKey,_,sent⟩ := generateClientHello_sent sound small made
  have taken : conn.ciphertextWriteBuf.drop tlsRecordHeaderSize = message := by
    rw [sent.wire.1]
    rfl
  rw [taken] at replied ⊢
  obtain ⟨ephemeral,sharedSecret,certDer,finished,done⟩ := Server.reply_made sent.read (sent.authKey sound holds) sent.share
    replied
  obtain ⟨groups,key,iv,inners,records,split,filled,contents,keys,suite,sealed,legal,stream⟩ := sends
  have idSized := encryptSessionId_length sent.sealed
  have accepted := done.accepted sound (Nat.le_of_eq idSized) sent.ours
  have helloLength : reply.serverHello.length = 122 := by
    rw [done.greeting,constructServerHello]
    simp only [List.length_cons,List.length_append,toBe24,serverHelloPayload_length server.randomSized
      (sound.keys done.drawn),idSized,List.length_nil]
  have certificate : certDer.length + 13 ≤ 16640 := by
    have member : constructCertificate certDer ∈ groups.flatten := by
      rw [split,done.messages]
      exact List.mem_cons_of_mem _ List.mem_cons_self
    obtain ⟨group,inside,held⟩ := List.mem_flatten.mp member
    have content := List.mem_map_of_mem (f := List.flatten) inside
    rw [contents] at content
    obtain ⟨inner,among,same⟩ := List.mem_map.mp content
    have longer := (List.sublist_flatten_of_mem held).length_le
    have size := legal inner among
    obtain ⟨body,length,framed⟩ := constructCertificate_framed certDer
    rw [plaintext_length,same] at size
    rw [framed,List.length_cons,List.length_append,length] at longer
    have limit : maxTlsCiphertextLen = 16640 := rfl
    have three : (toBe24 (certDer.length + 9)).length = 3 := rfl
    omega
  obtain ⟨writeKey,writeIv,readKey,readIv,expected,record,application,finish,opened,concluded⟩ := done.concluded sound conn
  refine ⟨writeKey,writeIv,readKey,readIv,expected,record,application,finish,opened,?_⟩
  rw [← concluded,← done.outcome sound (by omega) conn]
  have waits : conn.Waits message draws.ourPrivateBytes authKey := by
    rw [sent.state]
    exact ⟨rfl,rfl,rfl,rfl,rfl⟩
  have shows := waits.shows sound.toLawful (handshakeRecord_whole (by omega)) (show reply.serverHello.length ≤ _ by
    rw [helloLength]; decide) accepted rfl rfl keys suite sealed legal (by rw [← stream,sent.state]; rfl)
  have few : groups.flatten.length = 4 := by
    rw [split,done.messages]
    rfl
  obtain ⟨settled,last⟩ := judge_aligned prims.toCrypto conn (by rw [split]; exact done.whole sound (by omega)) filled
    (show (reply.start server message authKey).messagesFound < 4 by exact (by decide : 0 < 4))
    (show 0 + groups.flatten.length ≤ 4 by omega)
  rw [← contents] at shows
  rw [← split,← settled]
  cases verdict : judge prims.toCrypto (reply.start server message authKey) (groups.map List.flatten) with
  | going state =>
    rw [verdict] at shows
    exact shows
  | failed e =>
    rw [verdict] at shows
    exact shows
  | finished state left =>
    rw [verdict] at shows
    exact shows.2 (last state left verdict)

end Flight

section Sends
variable {prims : Primitives} {server : Server}

theorem reads_exist {records : List Bytes} (legal : ∀ record ∈ records, record.length ≤ tlsMaxRecordSize) :
    ∃ chunks : List RealityClientConnection.Chunk, chunks.map (·.bytes) = records := by
  induction records with
  | nil => exact ⟨[],rfl⟩
  | cons record records ih =>
    obtain ⟨fits,rest⟩ := List.forall_mem_cons.mp legal
    obtain ⟨chunks,same⟩ := ih rest
    exact ⟨⟨record,fits⟩::chunks,by rw [List.map_cons,same]⟩

open RealityClientConnection in
/-- A reply of messages that fit a record each can be sent. -/
theorem Reply.sends_exists (sound : prims.Sound) {reply : Reply} (hello : reply.serverHello.length ≤ maxTlsCiphertextLen)
    (small : ∀ message ∈ reply.messages, FitsRecord message) : ∃ chunks, reply.Sends prims server chunks := by
  obtain ⟨keyBytes,iv,keys⟩ := deriveTrafficKeys_ok prims.toCrypto reply.keys.serverHandshakeTrafficSecret server.cipherSuite
  obtain ⟨keySized,ivSized⟩ := deriveTrafficKeys_length sound.toLawful keys
  obtain ⟨inners,records,contents,sealed,legal⟩ := sealedFrom_exists sound.toLawful ⟨server.cipherSuite,keyBytes,keySized⟩
    ivSized small 0
  have framed := sealed.frames sound.toLawful legal
  have first : (handshakeRecord reply.serverHello).length ≤ tlsMaxRecordSize := by
    have length : (handshakeRecord reply.serverHello).length = 5 + reply.serverHello.length := by
      rw [handshakeRecord,List.length_append]
      rfl
    rw [length,tlsMaxRecordSize,tlsRecordHeaderSize]
    omega
  have others : ∀ record ∈ records, record.length ≤ tlsMaxRecordSize := by
    intro record member
    have size := (framed record member).2
    rw [List.length_drop] at size
    rw [tlsMaxRecordSize,tlsRecordHeaderSize]
    omega
  obtain ⟨chunks,same⟩ := reads_exist (List.forall_mem_cons.mpr ⟨first,others⟩)
  refine ⟨chunks,reply.messages.map ([·]),_,iv,inners,records,?_,?_,?_,keys,rfl,sealed,legal,?_⟩
  · rw [← List.flatMap_def]
    exact List.flatMap_singleton' _
  · intro group member
    obtain ⟨message,_,rfl⟩ := List.mem_map.mp member
    exact List.cons_ne_nil _ _
  · rw [← contents,List.map_map]
    refine (List.map_congr_left fun message _ => ?_).trans (List.map_id reply.messages)
    exact List.flatten_singleton
  · rw [same,List.flatten_cons]

end Sends

/-! The sample primitives with keys that are their own public keys, and two parties of them. -/

theorem mixed_sized {length : Nat} {bytes : Bytes} (sized : bytes.length = length) : mixed length bytes = bytes := by
  rw [mixed,← sized,List.take_left]

def samplePrimitives : Primitives := {sampleCrypto with
  agree := fun ours theirs => some (List.zipWith (· + ·) (mixed 32 ours) (mixed 32 theirs))
  loads := fun _ => true
  computePublicKey := fun privateKey => some (mixed 32 privateKey)
  verifyingKey := fun signingKey => mixed 32 signingKey
  sign := fun signingKey message => mixed 64 (mixed 32 signingKey ++ message.drop 98)
  selfSigned := fun publicKey signature _ => .ok (publicKey ++ signature)}

theorem samplePrimitives_sound : samplePrimitives.Sound where
  opens := @sampleCrypto_lawful.opens
  tag := @sampleCrypto_lawful.tag
  strips := @sampleCrypto_lawful.strips
  seals := sampleCrypto_lawful.seals
  macs := sampleCrypto_lawful.macs
  agrees := by
    intro ours theirs first second one two
    cases one
    cases two
    simp only [samplePrimitives,mixed_sized (mixed_length 32 _),Option.some.injEq]
    exact List.zipWith_comm_of_comm fun a b => UInt8.add_comm a b
  shares := by
    intro ours theirs secret made
    cases made
    simp
  keys := by
    intro ours first made
    cases made
    exact mixed_length 32 ours
  hashes := fun suite bytes => mixed_length suite.hashLen _
  verifies := fun _ _ => decide_eq_true rfl
  signature := fun _ _ => mixed_length 64 _
  verifying := fun _ => mixed_length 32 _
  parses := by
    intro publicKey signature hostname der keySized signed made
    cases made
    have length : (publicKey ++ signature).length = 96 := by rw [List.length_append,keySized,signed]
    change (if (publicKey ++ signature).length = 96 then _ else _) = _
    rw [if_pos length,← keySized,List.take_left,List.drop_left]

def sampleServer : Server := ⟨List.replicate 32 3,List.replicate 32 4,List.replicate 32 9,.aes256GcmSha384,
  List.replicate 32 5,ascii "example.com",rfl⟩

def sampleConfig : RealityClientConfig := ⟨List.replicate 32 3,[1,2,3,4,5,6,7,8],ascii "example.com",[],rfl,rfl⟩

def sampleDraws : Draws := ⟨List.replicate 32 1,List.replicate 32 2,rfl,rfl⟩

theorem sampleConfig_fits : sampleConfig.Fits := (by decide : 183 + 2 * 3 + 11 < 65536)

theorem sampleServer_holds : sampleServer.Holds samplePrimitives sampleConfig := ⟨rfl,by decide⟩

theorem session_id_opens_sample : ∃ conn timestamp message authKey hello publicKey,
    generateClientHello samplePrimitives sampleConfig sampleDraws (some 7) = .ok conn ∧ some 7 = some timestamp ∧
      Sent samplePrimitives sampleConfig sampleDraws timestamp conn message authKey hello publicKey ∧
      sampleServer.authKey samplePrimitives hello = .ok authKey ∧
      sampleServer.opens samplePrimitives message = .ok ([1,8,0,0] ++ toBe32 timestamp ++ sampleConfig.shortId) := by
  have generated : (generateClientHello samplePrimitives sampleConfig sampleDraws (some 7)).isOk = true := by decide +kernel
  cases made : generateClientHello samplePrimitives sampleConfig sampleDraws (some 7) with
  | error e =>
    rw [made] at generated
    cases generated
  | ok conn =>
    obtain ⟨timestamp,message,authKey,hello,publicKey,opened⟩ :=
      session_id_opens samplePrimitives_sound sampleConfig_fits sampleServer_holds made
    exact ⟨conn,timestamp,message,authKey,hello,publicKey,rfl,opened⟩

def sampleReply : Except IoError Reply := do
  let conn ← generateClientHello samplePrimitives sampleConfig sampleDraws (some 7)
  sampleServer.reply samplePrimitives (conn.ciphertextWriteBuf.drop tlsRecordHeaderSize)

open RealityClientConnection in
theorem honest_server_sample : ∃ conn reply chunks writeKey writeIv readKey readIv expected record,
    generateClientHello samplePrimitives sampleConfig sampleDraws (some 7) = .ok conn ∧
      Reply.Sends samplePrimitives sampleServer reply chunks ∧
      sampleServer.applicationKeys samplePrimitives (conn.ciphertextWriteBuf.drop tlsRecordHeaderSize) reply =
        .ok (writeKey,writeIv,readKey,readIv) ∧
      sampleServer.clientFinished samplePrimitives (conn.ciphertextWriteBuf.drop tlsRecordHeaderSize) reply = .ok expected ∧
      sampleServer.openFinished samplePrimitives reply record = .ok expected ∧
      handshake samplePrimitives.toCrypto conn chunks = .completed (some writeKey) (some writeIv) (some readKey) (some readIv)
        (some sampleServer.cipherSuite) (conn.ciphertextWriteBuf ++ record) := by
  have fits : (sampleReply.toOption.map fun reply => decide (reply.serverHello.length ≤ maxTlsCiphertextLen ∧
      ∀ message ∈ reply.messages, message.length + 17 ≤ maxTlsCiphertextLen)) = some true := by decide +kernel
  obtain ⟨reply,replied,legal⟩ := ok_of_toOption_map fits
  obtain ⟨hello,small⟩ := of_decide_eq_true legal
  obtain ⟨conn,made,answered⟩ := (bind_ok_iff _ _ _).mp replied
  obtain ⟨chunks,sends⟩ := @Reply.sends_exists samplePrimitives sampleServer samplePrimitives_sound reply hello small
  obtain ⟨writeKey,writeIv,readKey,readIv,expected,record,agreed⟩ := honest_server_completes samplePrimitives_sound
    sampleConfig_fits sampleServer_holds made answered sends
  exact ⟨conn,reply,chunks,writeKey,writeIv,readKey,readIv,expected,record,made,sends,agreed⟩

end Dynet.Vless.Reality
