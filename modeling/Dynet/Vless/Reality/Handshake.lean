import Mathlib.Data.List.Infix
import Dynet.Vless.Reality.Buffers
import Dynet.Vless.Reality.Messages

/-! What a completed handshake shows of the server. The client counts messages and looks
at two types of them, so it knows that a certificate of this server and a signature over
the flight before it were among four messages, and nothing of the other two. -/
namespace Dynet.Vless.Reality
open Dynet.Lib.Checks
open Dynet.Lib.Framing

def located (offset : Nat) : List Bytes → List (Nat × Bytes)
  | [] => []
  | message::later => (offset,message)::located (offset + message.length) later

/-- The messages found in the records so far, each with its offset, and the plaintext's length. -/
structure Flight where
  messages : List (Nat × Bytes)
  length : Nat
  deriving DecidableEq, Repr

def Flight.read (flight : Flight) (plaintext : Bytes) : Flight :=
  ⟨flight.messages ++ located flight.length ((messagesOf plaintext).take (4 - flight.messages.length)),
    flight.length + plaintext.length⟩

/-- The flight that the plaintexts of the records, each read from its own front, amount to. -/
def flightOf (plaintexts : List Bytes) : Flight := plaintexts.foldl Flight.read ⟨[],0⟩

def lastOf (type : UInt8) (messages : List (Nat × Bytes)) : Option (Nat × Bytes) :=
  messages.reverse.find? fun message => byteAt message.2 0 = type

@[simp] theorem located_length (offset : Nat) (messages : List Bytes) :
    (located offset messages).length = messages.length := by
  induction messages generalizing offset with
  | nil => rfl
  | cons message messages ih => rw [located,List.length_cons,ih,List.length_cons]

theorem located_whole {messages : List Bytes} (whole : ∀ message ∈ messages, IsMessage message) (front : Bytes) :
    ∀ message ∈ located front.length messages,
      IsMessage message.2 ∧ message.2 <+: (front ++ messages.flatten).drop message.1 := by
  induction messages generalizing front with
  | nil => simp [located]
  | cons first later ih =>
    obtain ⟨here,rest⟩ := List.forall_mem_cons.mp whole
    rw [located]
    refine List.forall_mem_cons.mpr ⟨⟨here,?_⟩,?_⟩
    · rw [List.drop_left,List.flatten_cons]
      exact List.prefix_append _ _
    · have next := ih rest (front ++ first)
      rw [List.length_append,List.append_assoc] at next
      exact next

theorem flightOf_concat (plaintexts : List Bytes) (plaintext : Bytes) :
    flightOf (plaintexts ++ [plaintext]) = (flightOf plaintexts).read plaintext := by
  rw [flightOf,List.foldl_append]
  rfl

theorem flightOf_length (plaintexts : List Bytes) : (flightOf plaintexts).length = plaintexts.flatten.length := by
  induction plaintexts using List.reverseRecOn with
  | nil => rfl
  | append_singleton plaintexts plaintext ih =>
    rw [flightOf_concat,Flight.read,ih,List.flatten_append,List.length_append]
    simp

theorem flightOf_few (plaintexts : List Bytes) : (flightOf plaintexts).messages.length ≤ 4 := by
  induction plaintexts using List.reverseRecOn with
  | nil => exact Nat.zero_le 4
  | append_singleton plaintexts plaintext ih =>
    rw [flightOf_concat,Flight.read,List.length_append,located_length,List.length_take]
    omega

theorem flightOf_whole (plaintexts : List Bytes) :
    ∀ message ∈ (flightOf plaintexts).messages,
      IsMessage message.2 ∧ message.2 <+: plaintexts.flatten.drop message.1 := by
  induction plaintexts using List.reverseRecOn with
  | nil => simp [flightOf]
  | append_singleton plaintexts plaintext ih =>
    intro message member
    rw [flightOf_concat,Flight.read,List.mem_append] at member
    rw [List.flatten_append,List.flatten_singleton]
    rcases member with before | here
    · obtain ⟨whole,inside⟩ := ih message before
      refine ⟨whole,inside.trans ?_⟩
      exact List.IsPrefix.drop (List.prefix_append _ _) _
    · rw [flightOf_length] at here
      have some : ∀ message ∈ (messagesOf plaintext).take (4 - (flightOf plaintexts).messages.length),
          IsMessage message := fun message member => messagesOf_whole plaintext message (List.mem_of_mem_take member)
      obtain ⟨whole,inside⟩ := located_whole some plaintexts.flatten message here
      refine ⟨whole,inside.trans (List.IsPrefix.drop ?_ _)⟩
      refine (List.prefix_append_right_inj _).mpr (List.IsPrefix.trans ?_ (messagesOf_front plaintext))
      exact (List.take_prefix _ _).flatten

theorem lastOf_concat (type : UInt8) (messages : List (Nat × Bytes)) (message : Nat × Bytes) :
    lastOf type (messages ++ [message]) =
      if byteAt message.2 0 = type then some message else lastOf type messages := by
  rw [lastOf,List.reverse_append,List.reverse_singleton,List.singleton_append,List.find?_cons]
  by_cases same : byteAt message.2 0 = type
  · simp [same]
  · simp [same,lastOf]

theorem lastOf_mem {type : UInt8} {messages : List (Nat × Bytes)} {message : Nat × Bytes}
    (found : lastOf type messages = some message) : message ∈ messages :=
  List.mem_reverse.mp (List.mem_of_find?_eq_some found)

/-! The two checks. -/

section Checks
variable (crypto : Crypto)

/-- A certificate message whose key carries the REALITY proof. -/
def Genuine (authKey message publicKey : Bytes) : Prop :=
  ∃ der cert, extractCertificateDer message = .ok der ∧ crypto.certificate der = .ok cert ∧
    cert.publicKey = publicKey ∧ publicKey.length = 32 ∧ crypto.hmac .sha512 authKey publicKey = cert.signature

/-- A CertificateVerify message whose signature covers the transcript. -/
def Signed (suite : CipherSuite) (publicKey transcript message : Bytes) : Prop :=
  ∃ signature, extractCertificateVerifySignature message = .ok signature ∧
    crypto.ed25519Verify publicKey (signedContent (crypto.digest suite transcript)) signature = true

variable {crypto}

theorem fromDer_ok {der : Bytes} {cert : Certificate} (parsed : fromDer crypto der = .ok cert) :
    crypto.certificate der = .ok cert := by
  rw [fromDer] at parsed
  cases answer : crypto.certificate der with
  | error e =>
    rw [answer] at parsed
    cases parsed
  | ok cert =>
    rw [answer] at parsed
    cases parsed
    rfl

theorem verifyCertificateHmac_ok {der authKey : Bytes} (verified : verifyCertificateHmac crypto der authKey = .ok ()) :
    ∃ cert, crypto.certificate der = .ok cert ∧ cert.publicKey.length = 32 ∧
      crypto.hmac .sha512 authKey cert.publicKey = cert.signature := by
  rw [verifyCertificateHmac] at verified
  obtain ⟨cert,parsed,rest⟩ := (bind_ok_iff _ _ _).mp verified
  refine ⟨cert,fromDer_ok parsed,?_⟩
  by_cases key : cert.publicKey.length = 32
  · refine ⟨key,?_⟩
    by_contra forged
    simp only [key,ne_eq,not_true_eq_false,if_false,forged,not_false_eq_true,if_true] at rest
    by_cases size : cert.signature.length = 64
    · simp only [size,not_true_eq_false,if_false] at rest
      cases rest
    · simp only [size,not_false_eq_true,if_true] at rest
      cases rest
  · simp only [ne_eq,key,not_false_eq_true,if_true] at rest
    cases rest

theorem extractEd25519PublicKey_ok {der publicKey : Bytes} {cert : Certificate}
    (parsed : crypto.certificate der = .ok cert) (extracted : extractEd25519PublicKey crypto der = .ok publicKey) :
    cert.publicKey = publicKey := by
  rw [extractEd25519PublicKey] at extracted
  obtain ⟨other,again,rest⟩ := (bind_ok_iff _ _ _).mp extracted
  cases parsed.symm.trans (fromDer_ok again)
  by_cases key : cert.publicKey.length = 32
  · simp only [key,ne_eq,not_true_eq_false,if_false] at rest
    cases rest
    rfl
  · simp only [ne_eq,key,not_false_eq_true,if_true] at rest
    cases rest

theorem verifyCertificateVerifySignature_ok {publicKey signature hash : Bytes}
    (verified : verifyCertificateVerifySignature crypto publicKey signature hash = .ok ()) :
    crypto.ed25519Verify publicKey (signedContent hash) signature = true := by
  rw [verifyCertificateVerifySignature] at verified
  by_contra forged
  rw [Bool.not_eq_true] at forged
  simp only [forged,if_true] at verified
  by_cases size : signature.length = 64
  · simp only [size,ne_eq,not_true_eq_false,if_false] at verified
    cases verified
  · simp only [ne_eq,size,not_false_eq_true,if_true] at verified
    cases verified

end Checks

namespace RealityClientConnection

theorem acceptCertificate_genuine {crypto : Crypto} {authKey message publicKey : Bytes}
    (accepted : acceptCertificate crypto authKey message = .ok publicKey) :
    Genuine crypto authKey message publicKey := by
  rw [acceptCertificate] at accepted
  obtain ⟨der,found,rest⟩ := (bind_ok_iff _ _ _).mp accepted
  obtain ⟨_,verified,extracted⟩ := (bind_ok_iff _ _ _).mp rest
  obtain ⟨cert,parsed,size,mac⟩ := verifyCertificateHmac_ok verified
  obtain rfl := extractEd25519PublicKey_ok parsed extracted
  exact ⟨der,cert,found,parsed,rfl,size,mac⟩

/-- What the loop's variables say of the messages found so far. -/
structure Tracked (crypto : Crypto) (authKey : Bytes) (messages : List (Nat × Bytes)) (found : Found) : Prop where
  count : found.messagesFound = messages.length
  genuine : ∀ message ∈ messages, byteAt message.2 0 = handshakeTypeCertificate →
    ∃ publicKey, Genuine crypto authKey message.2 publicKey
  certificate : ∀ publicKey, found.ed25519PublicKey = some publicKey →
    ∃ message, lastOf handshakeTypeCertificate messages = some message ∧ Genuine crypto authKey message.2 publicKey
  verify : found.certVerifyOffset = (lastOf handshakeTypeCertificateVerify messages).map (·.1)

theorem Tracked.message {crypto : Crypto} {authKey message : Bytes} {messages : List (Nat × Bytes)} {found after : Found}
    {offset : Nat} (tracked : Tracked crypto authKey messages found)
    (accepted : acceptMessage crypto authKey offset message found = .ok after) :
    Tracked crypto authKey (messages ++ [(offset,message)]) after := by
  have count : after.messagesFound = (messages ++ [(offset,message)]).length := by
    rw [acceptMessage_counts accepted,tracked.count,List.length_append]
    rfl
  by_cases certificate : byteAt message 0 = handshakeTypeCertificate
  · rw [acceptMessage_certificate certificate] at accepted
    obtain ⟨publicKey,checked,same⟩ := (bind_ok_iff _ _ _).mp accepted
    have genuine := acceptCertificate_genuine checked
    cases same
    refine ⟨count,?_,?_,?_⟩
    · intro other member type
      rcases List.mem_append.mp member with before | here
      · exact tracked.genuine other before type
      · obtain rfl := List.mem_singleton.mp here
        exact ⟨publicKey,genuine⟩
    · intro key same
      cases same
      exact ⟨(offset,message),by rw [lastOf_concat,if_pos certificate],genuine⟩
    · have other : ¬ byteAt message 0 = handshakeTypeCertificateVerify := by
        rw [certificate]
        decide
      rw [lastOf_concat,if_neg other]
      exact tracked.verify
  · rw [acceptMessage_other certificate] at accepted
    cases accepted
    refine ⟨count,?_,?_,?_⟩
    · intro other member type
      rcases List.mem_append.mp member with before | here
      · exact tracked.genuine other before type
      · obtain rfl := List.mem_singleton.mp here
        exact absurd type certificate
    · intro key same
      rw [lastOf_concat,if_neg certificate]
      exact tracked.certificate key same
    · rw [lastOf_concat]
      dsimp only
      split
      · rfl
      · exact tracked.verify

theorem Tracked.all {crypto : Crypto} {authKey : Bytes} {found after : Found} {messages : List (Nat × Bytes)}
    {offset : Nat} {later : List Bytes} (tracked : Tracked crypto authKey messages found)
    (accepted : acceptAll crypto authKey offset later found = .ok after) :
    Tracked crypto authKey (messages ++ located offset later) after := by
  induction later generalizing offset messages found with
  | nil =>
    cases accepted
    rw [located,List.append_nil]
    exact tracked
  | cons message later ih =>
    rw [acceptAll] at accepted
    obtain ⟨middle,first,rest⟩ := (bind_ok_iff _ _ _).mp accepted
    have next := ih (tracked.message first) rest
    rw [List.append_assoc] at next
    exact next

/-- The state behind records with these plaintexts. -/
structure Tracks (crypto : Crypto) (start : Handshaking) (plaintexts : List Bytes) (state : Handshaking) : Prop where
  suite : state.cipherSuite = start.cipherSuite
  secret : state.serverHandshakeTrafficSecret = start.serverHandshakeTrafficSecret
  transcript : state.handshakeTranscriptBytes = start.handshakeTranscriptBytes
  authKey : state.authKey = start.authKey
  seq : state.handshakeSeq = plaintexts.length
  plaintext : state.accumulatedPlaintext = plaintexts.flatten
  found : Tracked crypto start.authKey (flightOf plaintexts).messages state.found

theorem Tracks.read {crypto : Crypto} {start state after : Handshaking} {plaintexts : List Bytes} {plaintext : Bytes}
    (tracks : Tracks crypto start plaintexts state) (accepted : acceptPlaintext crypto state plaintext = .ok after) :
    Tracks crypto start (plaintexts ++ [plaintext]) after := by
  rw [acceptPlaintext_eq] at accepted
  obtain ⟨found,all,same⟩ := (map_ok_iff _ _ _).mp accepted
  have count : state.messagesFound = (flightOf plaintexts).messages.length := tracks.found.count
  rw [tracks.authKey,tracks.plaintext,count,← flightOf_length] at all
  have next := tracks.found.all all
  cases same
  exact {
    suite := tracks.suite
    secret := tracks.secret
    transcript := tracks.transcript
    authKey := tracks.authKey
    seq := by simp [Handshaking.advance,tracks.seq]
    plaintext := by simp [Handshaking.advance,tracks.plaintext]
    found := by
      rw [flightOf_concat]
      exact next}

/-- What the client knows of the flight it has completed on. -/
structure Authenticated (crypto : Crypto) (authKey : Bytes) (suite : CipherSuite) (transcript : Bytes)
    (plaintexts : List Bytes) : Prop where
  four : (flightOf plaintexts).messages.length = 4
  genuine : ∀ message ∈ (flightOf plaintexts).messages, byteAt message.2 0 = handshakeTypeCertificate →
    ∃ publicKey, Genuine crypto authKey message.2 publicKey
  signed : ∃ certificate verify publicKey,
    lastOf handshakeTypeCertificate (flightOf plaintexts).messages = some certificate ∧
    lastOf handshakeTypeCertificateVerify (flightOf plaintexts).messages = some verify ∧
    Genuine crypto authKey certificate.2 publicKey ∧
    Signed crypto suite publicKey (transcript ++ plaintexts.flatten.take verify.1) verify.2

theorem Tracks.authenticated {crypto : Crypto} {start state : Handshaking} {plaintexts : List Bytes}
    (tracks : Tracks crypto start plaintexts state) (many : ¬ state.messagesFound < 4)
    (verified : verifyFlight crypto state = .ok ()) :
    Authenticated crypto start.authKey start.cipherSuite start.handshakeTranscriptBytes plaintexts := by
  have count : state.messagesFound = (flightOf plaintexts).messages.length := tracks.found.count
  have few := flightOf_few plaintexts
  rw [verifyFlight] at verified
  split at verified
  · cases verified
  · cases key : state.ed25519PublicKey with
    | none =>
      simp only [key] at verified
      cases verified
    | some publicKey =>
      cases offset : state.certVerifyOffset with
      | none =>
        simp only [key,offset] at verified
        cases verified
      | some cvOffset =>
        simp only [key,offset] at verified
        obtain ⟨signature,extracted,rest⟩ := (bind_ok_iff _ _ _).mp verified
        have covered := verifyCertificateVerifySignature_ok rest
        obtain ⟨certificate,last,genuine⟩ := tracks.found.certificate publicKey key
        obtain ⟨verify,lastVerify,same⟩ := Option.map_eq_some_iff.mp (tracks.found.verify.symm.trans offset)
        obtain ⟨whole,inside⟩ := flightOf_whole plaintexts verify (lastOf_mem lastVerify)
        obtain ⟨size,_⟩ := messageCut_item whole
        rw [same] at inside
        -- The bytes the check reads at the offset are those of the message found there.
        have bytes : (state.accumulatedPlaintext.drop cvOffset).take
            (4 + be24At state.accumulatedPlaintext (cvOffset + 1)) = verify.2 := by
          obtain ⟨rest,joined⟩ := inside
          have front : plaintexts.flatten = plaintexts.flatten.take cvOffset ++ (verify.2 ++ rest) := by
            rw [joined,List.take_append_drop]
          have reach : (plaintexts.flatten.take cvOffset).length = cvOffset := by
            have positive : 0 < (plaintexts.flatten.drop cvOffset).length := by
              rw [← joined,List.length_append]
              omega
            rw [List.length_drop] at positive
            rw [List.length_take]
            omega
          have declared : be24At plaintexts.flatten (cvOffset + 1) = be24At verify.2 1 := by
            have right := be24At_append_right (plaintexts.flatten.take cvOffset) (verify.2 ++ rest) 1
            rw [← front,reach] at right
            rw [right,be24At_append_left (by omega)]
          rw [tracks.plaintext,declared,← size,← joined,List.take_left]
        rw [bytes] at extracted
        rw [tracks.suite,tracks.transcript,tracks.plaintext] at covered
        exact ⟨by omega,tracks.found.genuine,certificate,verify,publicKey,last,lastVerify,genuine,signature,extracted,
          by rw [same]; exact covered⟩

/-! Runs. -/

/-- The bytes of the peer that a step reads. -/
def Step.input : Step → Bytes
  | .readTls (.ok chunk) => chunk.bytes
  | .feed data => data
  | .readTls (.error _) | .process | .readerRead _ | .write _ | .writeTls _ | .sendCloseNotify => []

def received (list : List Step) : Bytes := list.flatMap Step.input

/-- Records of application data that open under the server's handshake key, in order. -/
inductive Opened (crypto : Crypto) (start : Handshaking) : List Bytes → List Bytes → Prop
  | nil : Opened crypto start [] []
  | snoc {records plaintexts : List Bytes} {record plaintext key iv : Bytes} (before : Opened crypto start records plaintexts)
      (type : byteAt record 0 = contentTypeApplicationData)
      (keys : deriveTrafficKeys crypto start.serverHandshakeTrafficSecret start.cipherSuite = .ok (key,iv))
      (opens : decryptHandshakeMessage crypto start.cipherSuite key iv records.length
        (record.drop tlsRecordHeaderSize) = .ok plaintext) :
      Opened crypto start (records ++ [record]) (plaintexts ++ [plaintext])

theorem Opened.length {crypto : Crypto} {start : Handshaking} {records plaintexts : List Bytes}
    (opened : Opened crypto start records plaintexts) : plaintexts.length = records.length := by
  induction opened with
  | nil => rfl
  | snoc _ _ _ _ ih => rw [List.length_append,List.length_append,ih]; rfl

section Knowledge
variable (crypto : Crypto) (hello privateKey authKey : Bytes)

/-- What the state of the handshake rests on, with the records received so far. -/
inductive Knows (frames : List Bytes) : HandshakeState → Prop
  | awaiting : Knows frames (.awaitingServerHello hello privateKey authKey)
  | processing {serverHello : Bytes} {records plaintexts : List Bytes} {start state : Handshaking}
      (order : (serverHello::records).Sublist frames)
      (greeted : acceptServerHello crypto hello privateKey authKey serverHello = .ok start)
      (opened : Opened crypto start records plaintexts) (tracks : Tracks crypto start plaintexts state) :
      Knows frames (.processingHandshake state)
  | complete {serverHello : Bytes} {records plaintexts : List Bytes} {start : Handshaking}
      (order : (serverHello::records).Sublist frames)
      (greeted : acceptServerHello crypto hello privateKey authKey serverHello = .ok start)
      (opened : Opened crypto start records plaintexts)
      (authenticated : Authenticated crypto start.authKey start.cipherSuite start.handshakeTranscriptBytes plaintexts) :
      Knows frames .complete

/-- The bytes received so far are whole records and the bytes that wait. -/
structure Heard (bytes : Bytes) (conn : RealityClientConnection) (frames : List Bytes) (rest : Bytes) : Prop where
  stream : bytes = frames.flatten ++ rest
  whole : ∀ frame ∈ frames, frameCutter.cut frame = .item frame.length
  waits : conn.handshakeState ≠ .complete → rest = conn.ciphertextReadBuf.bytes
  knows : Knows crypto hello privateKey authKey frames conn.handshakeState

end Knowledge

section Run
variable {crypto : Crypto} {hello privateKey authKey bytes : Bytes}

theorem Knows.more {frames : List Bytes} {state : HandshakeState} (knows : Knows crypto hello privateKey authKey frames state)
    (later : List Bytes) : Knows crypto hello privateKey authKey (frames ++ later) state := by
  have longer : frames.Sublist (frames ++ later) := List.sublist_append_left frames later
  cases knows with
  | awaiting => exact .awaiting
  | processing order greeted opened tracks => exact .processing (order.trans longer) greeted opened tracks
  | complete order greeted opened authenticated => exact .complete (order.trans longer) greeted opened authenticated

/-- The state a ServerHello leads to has read no record yet. -/
theorem acceptServerHello_tracks {serverHello : Bytes} {start : Handshaking}
    (greeted : acceptServerHello crypto hello privateKey authKey serverHello = .ok start) :
    start.authKey = authKey ∧ start.handshakeTranscriptBytes = hello ++ serverHello.drop tlsRecordHeaderSize ∧
      Tracks crypto start [] start := by
  rw [acceptServerHello] at greeted
  obtain ⟨serverPublicKey,_,rest⟩ := (bind_ok_iff _ _ _).mp greeted
  obtain ⟨cipherSuiteId,_,rest⟩ := (bind_ok_iff _ _ _).mp rest
  split at rest
  · cases rest
  · split at rest
    · cases rest
    · obtain ⟨keys,_,same⟩ := (bind_ok_iff _ _ _).mp rest
      cases same
      refine ⟨rfl,rfl,rfl,rfl,rfl,rfl,rfl,rfl,rfl,?_,?_,rfl⟩
      · simp [flightOf]
      · intro publicKey none
        cases none

theorem frameCut_take {buffer : Bytes} {n : Nat} (item : frameCut buffer = .item n) :
    frameCutter.cut (buffer.take n) = .item (buffer.take n).length ∧ byteAt (buffer.take n) 0 = byteAt buffer 0 := by
  obtain ⟨positive,inside⟩ := frameCutter.progress item
  have length : (buffer.take n).length = n := by
    rw [List.length_take]
    omega
  rcases buffer with _ | ⟨a,_ | ⟨b,_ | ⟨c,_ | ⟨high,_ | ⟨low,rest⟩⟩⟩⟩⟩
  · cases item
  · cases item
  · cases item
  · cases item
  · cases item
  · change (if _ then Cut.more else Cut.item _) = _ at item
    split at item
    · cases item
    · cases item
      have front : (a::b::c::high::low::rest).take (5 + be16 high low) =
          a::b::c::high::low::rest.take (be16 high low) := by
        rw [Nat.add_comm]
        rfl
      rw [front] at length ⊢
      refine ⟨?_,rfl⟩
      change (if _ then Cut.more else Cut.item _) = _
      rw [if_neg (by omega),length]

theorem Heard.consume {conn : RealityClientConnection} {frames : List Bytes} {rest : Bytes} {n : Nat}
    (heard : Heard crypto hello privateKey authKey bytes conn frames rest)
    (handshaking : conn.handshakeState ≠ .complete) (item : frameCut conn.ciphertextReadBuf.bytes = .item n) :
    Heard crypto hello privateKey authKey bytes {conn with ciphertextReadBuf := conn.ciphertextReadBuf.consume n}
      (frames ++ [conn.ciphertextReadBuf.bytes.take n]) (conn.ciphertextReadBuf.bytes.drop n) := by
  refine ⟨?_,?_,fun _ => (SlideBuffer.consume_bytes _ _).symm,heard.knows.more _⟩
  · rw [heard.stream,heard.waits handshaking,List.flatten_append,List.flatten_singleton,List.append_assoc,
      List.take_append_drop]
  · intro frame member
    rcases List.mem_append.mp member with before | here
    · exact heard.whole frame before
    · obtain rfl := List.mem_singleton.mp here
      exact (frameCut_take item).1

theorem Heard.of_same {conn after : RealityClientConnection} {frames : List Bytes} {rest : Bytes}
    (heard : Heard crypto hello privateKey authKey bytes conn frames rest)
    (state : after.handshakeState = conn.handshakeState)
    (buffer : after.ciphertextReadBuf.bytes = conn.ciphertextReadBuf.bytes) :
    Heard crypto hello privateKey authKey bytes after frames rest := by
  refine ⟨heard.stream,heard.whole,?_,?_⟩
  · rw [state,buffer]
    exact heard.waits
  · rw [state]
    exact heard.knows

theorem Heard.serverHello {conn : RealityClientConnection} {frames : List Bytes} {rest : Bytes}
    (heard : Heard crypto hello privateKey authKey bytes conn frames rest)
    (waiting : conn.handshakeState = .awaitingServerHello hello privateKey authKey) :
    ∃ frames rest, Heard crypto hello privateKey authKey bytes
      (processServerHello crypto conn hello privateKey authKey).2 frames rest := by
  have handshaking : conn.handshakeState ≠ .complete := by
    rw [waiting]
    exact HandshakeState.noConfusion
  rw [processServerHello]
  cases cut : frameCut conn.ciphertextReadBuf.bytes with
  | fail => exact absurd cut (frameCut_ne_fail _)
  | more =>
    rw [firstRecord_more cut]
    exact ⟨frames,rest,heard⟩
  | item n =>
    rw [firstRecord_item cut]
    have next := heard.consume handshaking cut
    dsimp only
    cases greeted : acceptServerHello crypto hello privateKey authKey (conn.ciphertextReadBuf.bytes.take n) with
    | error e => exact ⟨_,_,next⟩
    | ok start =>
      refine ⟨_,_,next.stream,next.whole,fun _ => (SlideBuffer.consume_bytes _ _).symm,?_⟩
      have last : [conn.ciphertextReadBuf.bytes.take n].Sublist (frames ++ [conn.ciphertextReadBuf.bytes.take n]) :=
        List.sublist_append_right _ _
      exact .processing last greeted .nil (acceptServerHello_tracks greeted).2.2

theorem completeHandshake_state (crypto : Crypto) (conn : RealityClientConnection) (state : Handshaking) :
    (completeHandshake crypto conn state).2.ciphertextReadBuf = conn.ciphertextReadBuf ∧
      ((completeHandshake crypto conn state).2.handshakeState = conn.handshakeState ∨
        (completeHandshake crypto conn state).2.handshakeState = .complete) := by
  rw [completeHandshake]
  split
  · exact ⟨rfl,.inl rfl⟩
  · split
    · exact ⟨rfl,.inl rfl⟩
    · dsimp only
      split
      · exact ⟨rfl,.inl rfl⟩
      · exact ⟨rfl,.inr rfl⟩

theorem acceptRecord_heard {conn : RealityClientConnection} {frames : List Bytes} {rest record key iv : Bytes}
    {state : Handshaking} (heard : Heard crypto hello privateKey authKey bytes conn (frames ++ [record]) rest)
    (before : Knows crypto hello privateKey authKey frames (.processingHandshake state))
    (processing : conn.handshakeState = .processingHandshake state)
    (type : byteAt record 0 = contentTypeApplicationData)
    (keys : deriveTrafficKeys crypto state.serverHandshakeTrafficSecret state.cipherSuite = .ok (key,iv)) :
    ∃ frames, Heard crypto hello privateKey authKey bytes
      (acceptRecord crypto conn state key iv (record.drop tlsRecordHeaderSize)).2 frames rest := by
  have handshaking : conn.handshakeState ≠ .complete := by
    rw [processing]
    exact HandshakeState.noConfusion
  have waits := heard.waits handshaking
  rw [acceptRecord]
  split
  · exact ⟨_,heard⟩
  next plaintext opens =>
    split
    · exact ⟨_,heard⟩
    next after accepted =>
      cases before with
      | @processing serverHello records plaintexts start _ order greeted opened tracks =>
        rw [tracks.secret,tracks.suite] at keys
        rw [tracks.suite,tracks.seq,opened.length] at opens
        have later := opened.snoc type keys opens
        have follows := tracks.read accepted
        have longer : (serverHello::(records ++ [record])).Sublist (frames ++ [record]) :=
          order.append (List.Sublist.refl [record])
        split
        · exact ⟨_,heard.stream,heard.whole,fun _ => waits,.processing longer greeted later follows⟩
        next many =>
          split
          · exact ⟨_,heard⟩
          next verified =>
            have authenticated := follows.authenticated many verified
            obtain ⟨buffer,outcome⟩ := completeHandshake_state crypto conn after
            have next : Heard crypto hello privateKey authKey bytes (completeHandshake crypto conn after).2
                (frames ++ [record]) rest := by
              rcases outcome with same | complete
              · exact heard.of_same same (by rw [buffer])
              · refine ⟨heard.stream,heard.whole,fun impossible => absurd complete impossible,?_⟩
                rw [complete]
                exact .complete longer greeted later authenticated
            generalize completeHandshake crypto conn after = reply at next
            rcases reply with ⟨_ | _,last⟩
            · exact ⟨_,next⟩
            · exact ⟨_,next⟩

theorem processEncryptedHandshake_heard (rounds : Nat) {conn : RealityClientConnection} {frames : List Bytes}
    {rest : Bytes} {state : Handshaking} (heard : Heard crypto hello privateKey authKey bytes conn frames rest)
    (processing : conn.handshakeState = .processingHandshake state) :
    ∃ frames rest, Heard crypto hello privateKey authKey bytes
      (processEncryptedHandshake crypto conn state rounds).2 frames rest := by
  induction rounds generalizing conn frames rest with
  | zero => exact ⟨frames,rest,heard⟩
  | succ rounds ih =>
    have handshaking : conn.handshakeState ≠ .complete := by
      rw [processing]
      exact HandshakeState.noConfusion
    rw [processEncryptedHandshake]
    split
    · exact ⟨frames,rest,heard⟩
    next key iv keys =>
      cases cut : frameCut conn.ciphertextReadBuf.bytes with
      | fail => exact absurd cut (frameCut_ne_fail _)
      | more =>
        rw [firstRecord_more cut]
        exact ⟨frames,rest,heard⟩
      | item n =>
        rw [firstRecord_item cut]
        have next := heard.consume handshaking cut
        dsimp only
        split
        · exact ih next processing
        · split
          · exact ⟨frames,rest,heard⟩
          next type =>
            have before := heard.knows
            rw [processing] at before
            rw [ne_eq,not_not,← (frameCut_take cut).2] at type
            obtain ⟨frames,last⟩ := acceptRecord_heard next before processing type keys
            exact ⟨frames,_,last⟩

theorem processHandshake_heard {conn : RealityClientConnection} {frames : List Bytes} {rest : Bytes}
    (heard : Heard crypto hello privateKey authKey bytes conn frames rest) :
    ∃ frames rest, Heard crypto hello privateKey authKey bytes (processHandshake crypto conn).2 frames rest := by
  rw [processHandshake]
  split
  next waiting =>
    have knows := heard.knows
    rw [waiting] at knows
    cases knows
    exact heard.serverHello waiting
  next processing => exact processEncryptedHandshake_heard _ heard processing
  · exact ⟨frames,rest,heard⟩

theorem processNewPacketsInner_heard (rounds : Nat) {conn after : RealityClientConnection} {frames : List Bytes}
    {rest : Bytes} {result : Except IoError Nat} (heard : Heard crypto hello privateKey authKey bytes conn frames rest)
    (call : processNewPacketsInner crypto conn rounds = .ok (result,after)) :
    ∃ frames rest, Heard crypto hello privateKey authKey bytes after frames rest := by
  induction rounds generalizing conn frames rest with
  | zero =>
    cases call
    exact ⟨frames,rest,heard⟩
  | succ rounds ih =>
    rw [processNewPacketsInner] at call
    split at call
    next complete =>
      have last (last : RealityClientConnection) (result : Except IoError Unit)
          (reply : processApplicationData crypto conn = .ok (result,last)) :
          Heard crypto hello privateKey authKey bytes last frames rest := by
        have state := (processApplicationData_sizes reply).state
        refine ⟨heard.stream,heard.whole,?_,?_⟩
        · rw [state,complete]
          exact fun impossible => absurd rfl impossible
        · rw [state]
          exact heard.knows
      split at call
      · cases call
      next reply =>
        cases call
        exact ⟨frames,rest,last _ _ reply⟩
      next reply =>
        cases call
        exact ⟨frames,rest,last _ _ reply⟩
    · obtain ⟨frames,rest,next⟩ := processHandshake_heard heard
      split at call
      next reply =>
        cases call
        rw [reply] at next
        exact ⟨frames,rest,next⟩
      next reply =>
        cases call
        rw [reply] at next
        exact ⟨frames,rest,next⟩
      next reply =>
        rw [reply] at next
        exact ih next call

theorem processNewPackets_heard {conn after : RealityClientConnection} {frames : List Bytes} {rest : Bytes}
    {result : Except IoError Nat} (heard : Heard crypto hello privateKey authKey bytes conn frames rest)
    (call : conn.processNewPackets crypto = .ok (result,after)) :
    ∃ frames rest, Heard crypto hello privateKey authKey bytes after frames rest := by
  rw [processNewPackets] at call
  split at call
  · cases call
    exact ⟨frames,rest,heard⟩
  · split at call
    · cases call
      exact ⟨frames,rest,heard⟩
    · rcases reply : processNewPacketsInner crypto conn (conn.ciphertextReadBuf.len + 1) with panic | ⟨error | n,last⟩
      · rw [reply] at call
        cases call
      · obtain ⟨frames,rest,next⟩ := processNewPacketsInner_heard _ heard reply
        rw [reply] at call
        cases call
        refine ⟨frames,rest,next.of_same ?_ ?_⟩
        · split <;> rfl
        · split <;> rfl
      · obtain ⟨frames,rest,next⟩ := processNewPacketsInner_heard _ heard reply
        rw [reply] at call
        cases call
        exact ⟨frames,rest,next⟩

theorem Heard.grow {conn : RealityClientConnection} {frames : List Bytes} {rest data : Bytes} {buf : SlideBuffer}
    (heard : Heard crypto hello privateKey authKey bytes conn frames rest)
    (joined : buf.bytes = conn.ciphertextReadBuf.bytes ++ data) :
    Heard crypto hello privateKey authKey (bytes ++ data) {conn with ciphertextReadBuf := buf} frames
      (rest ++ data) := by
  refine ⟨?_,heard.whole,?_,heard.knows⟩
  · rw [heard.stream,List.append_assoc]
  · intro handshaking
    rw [heard.waits handshaking]
    exact joined.symm

theorem writeTls_same (crypto : Crypto) (conn : RealityClientConnection) (wr : Except IoError Nat) :
    (conn.writeTls crypto wr).2.handshakeState = conn.handshakeState ∧
      (conn.writeTls crypto wr).2.ciphertextReadBuf = conn.ciphertextReadBuf := by
  have out (conn : RealityClientConnection) : (conn.writeOut wr).2.handshakeState = conn.handshakeState ∧
      (conn.writeOut wr).2.ciphertextReadBuf = conn.ciphertextReadBuf := by
    cases wr <;> exact ⟨rfl,rfl⟩
  rw [RealityClientConnection.writeTls]
  split
  · exact out conn
  · split
    · exact out conn
    · split
      next key iv _ _ =>
        have pending : (conn.encryptPending crypto key iv).2.handshakeState = conn.handshakeState ∧
          (conn.encryptPending crypto key iv).2.ciphertextReadBuf = conn.ciphertextReadBuf := ⟨rfl,rfl⟩
        generalize conn.encryptPending crypto key iv = reply at pending
        rcases reply with ⟨_ | _,after⟩
        · exact pending
        · exact ⟨(out after).1.trans pending.1,(out after).2.trans pending.2⟩
      · exact ⟨rfl,rfl⟩

theorem sendCloseNotify_same (crypto : Crypto) (conn : RealityClientConnection) :
    (conn.sendCloseNotify crypto).handshakeState = conn.handshakeState ∧
      (conn.sendCloseNotify crypto).ciphertextReadBuf = conn.ciphertextReadBuf := by
  rw [RealityClientConnection.sendCloseNotify]
  split
  · exact ⟨rfl,rfl⟩
  · split <;> exact ⟨rfl,rfl⟩

theorem Heard.step {conn after : RealityClientConnection} {frames : List Bytes} {rest : Bytes}
    (heard : Heard crypto hello privateKey authKey bytes conn frames rest) {next : Step}
    (call : conn.step crypto next = .ok after) :
    ∃ frames rest, Heard crypto hello privateKey authKey (bytes ++ next.input) after frames rest := by
  cases next with
  | readTls rd =>
    obtain ⟨result,call⟩ := (snd_ok_iff _).mp call
    cases rd with
    | error e =>
      cases call
      rw [Step.input,List.append_nil]
      refine ⟨frames,rest,heard.of_same rfl ?_⟩
      dsimp only
      split <;> rfl
    | ok chunk =>
      by_cases room : conn.ciphertextReadBuf.len + chunk.bytes.length ≤ conn.ciphertextReadBuf.capacity
      · obtain ⟨buf,same,joined,_⟩ := conn.readTls_room chunk room
        cases call.symm.trans same
        exact ⟨_,_,heard.grow joined⟩
      · cases call.symm.trans (conn.readTls_overruns chunk (Nat.lt_of_not_le room))
  | feed data =>
    obtain ⟨result,call⟩ := (snd_ok_iff _).mp call
    rw [RealityClientConnection.feed] at call
    by_cases room : conn.ciphertextReadBuf.len + data.length ≤ conn.ciphertextReadBuf.capacity
    · obtain ⟨buf,same,joined,_⟩ := feedRounds_room data.length conn data (Nat.le_refl _) room
      cases call.symm.trans same
      exact ⟨_,_,heard.grow joined⟩
    · cases call.symm.trans (feedRounds_overruns data.length conn data (Nat.le_refl _) (Nat.lt_of_not_le room))
  | process =>
    obtain ⟨result,call⟩ := (snd_ok_iff _).mp call
    rw [Step.input,List.append_nil]
    exact processNewPackets_heard heard call
  | readerRead size =>
    cases call
    rw [Step.input,List.append_nil]
    exact ⟨frames,rest,heard.of_same rfl rfl⟩
  | write data =>
    cases call
    rw [Step.input,List.append_nil]
    exact ⟨frames,rest,heard.of_same rfl rfl⟩
  | writeTls wr =>
    cases call
    obtain ⟨state,buffer⟩ := writeTls_same crypto conn wr
    rw [Step.input,List.append_nil]
    exact ⟨frames,rest,heard.of_same state (by rw [buffer])⟩
  | sendCloseNotify =>
    cases call
    obtain ⟨state,buffer⟩ := sendCloseNotify_same crypto conn
    rw [Step.input,List.append_nil]
    exact ⟨frames,rest,heard.of_same state (by rw [buffer])⟩

theorem Heard.steps {conn after : RealityClientConnection} {frames : List Bytes} {rest : Bytes} {list : List Step}
    (heard : Heard crypto hello privateKey authKey bytes conn frames rest)
    (run : conn.steps crypto list = .ok after) :
    ∃ frames rest, Heard crypto hello privateKey authKey (bytes ++ received list) after frames rest := by
  induction list generalizing bytes conn frames rest with
  | nil =>
    cases run
    exact ⟨frames,rest,by rw [received,List.flatMap_nil,List.append_nil]; exact heard⟩
  | cons next later ih =>
    rw [RealityClientConnection.steps] at run
    cases call : conn.step crypto next with
    | error panic =>
      rw [call] at run
      cases run
    | ok middle =>
      rw [call] at run
      obtain ⟨_,_,heard⟩ := heard.step call
      have last := ih heard run
      rw [List.append_assoc] at last
      exact last

theorem new_heard : Heard crypto hello privateKey authKey [] (new hello privateKey authKey) [] [] :=
  ⟨rfl,by simp,fun _ => rfl,.awaiting⟩

/-- However the calls come and whatever the peer sends, the client completes only when
four messages are found in records opened under the server's key, every certificate among
them is genuine, and the last CertificateVerify is signed with the last one's key. -/
theorem complete_only_if_authenticated {list : List Step} {after : RealityClientConnection}
    (run : (new hello privateKey authKey).steps crypto list = .ok after) (complete : after.handshakeState = .complete) :
    ∃ frames rest serverHello records plaintexts start,
      received list = frames.flatten ++ rest ∧ (∀ frame ∈ frames, frameCutter.cut frame = .item frame.length) ∧
      (serverHello::records).Sublist frames ∧
      acceptServerHello crypto hello privateKey authKey serverHello = .ok start ∧
      Opened crypto start records plaintexts ∧
      Authenticated crypto authKey start.cipherSuite (hello ++ serverHello.drop tlsRecordHeaderSize) plaintexts := by
  obtain ⟨frames,rest,heard⟩ := new_heard.steps run
  have knows := heard.knows
  have stream := heard.stream
  rw [complete] at knows
  rw [List.nil_append] at stream
  cases knows with
  | complete order greeted opened authenticated =>
    obtain ⟨key,transcript,_⟩ := acceptServerHello_tracks greeted
    rw [key,transcript] at authenticated
    exact ⟨frames,rest,_,_,_,_,stream,heard.whole,order,greeted,opened,authenticated⟩

end Run

/-! A server of the sample primitives. -/

def sampleServerHello : Bytes :=
  [22,3,3,0,84,2,0,0,80,3,3] ++ List.replicate 32 9 ++ [0,0x13,0x01,0,0,40,0,51,0,36,0,29,0,32] ++ List.replicate 32 4

def sampleStart : Except IoError Handshaking := acceptServerHello sampleCrypto [1] [2] [3] sampleServerHello

def sampleServerKeys : Except IoError (AeadKey × Bytes) := do
  let start ← sampleStart
  let (keyBytes,iv) ← deriveTrafficKeys sampleCrypto start.serverHandshakeTrafficSecret start.cipherSuite
  let key ← AeadKey.new start.cipherSuite keyBytes
  return (key,iv)

def sampleSealed (seq : Nat) (content : Bytes) : Except IoError Bytes := do
  let keys ← sampleServerKeys
  sealRecord sampleCrypto keys.1 keys.2 seq ⟨contentTypeHandshake,content,0,known_handshake⟩

def sampleHandshakeRecord (seq : Nat) (content : Bytes) : Bytes := (sampleSealed seq content).toOption.getD []

def sampleCertificate : Bytes :=
  let publicKey := List.replicate 32 5
  [11,0,0,103,0,0,0,99,0,0,96] ++ publicKey ++ sampleCrypto.hmac .sha512 [3] publicKey

def sampleVerify (before : Bytes) : Bytes :=
  [15,0,0,68,8,7,0,64] ++ List.replicate 32 5 ++
    sampleCrypto.digest .aes128GcmSha256 ([1] ++ sampleServerHello.drop tlsRecordHeaderSize ++ before)

def sampleRun (flight : Bytes) : List Step := [.feed (sampleServerHello ++ sampleHandshakeRecord 0 flight),.process]

def honestFlight : Bytes :=
  let before := [8,0,0,0] ++ sampleCertificate
  before ++ sampleVerify before ++ [20,0,0,0]

theorem honest_flight_authenticated :
    ∃ frames rest serverHello records plaintexts start,
      received (sampleRun honestFlight) = frames.flatten ++ rest ∧
      (∀ frame ∈ frames, frameCutter.cut frame = .item frame.length) ∧ (serverHello::records).Sublist frames ∧
      acceptServerHello sampleCrypto [1] [2] [3] serverHello = .ok start ∧
      Opened sampleCrypto start records plaintexts ∧
      Authenticated sampleCrypto [3] start.cipherSuite ([1] ++ serverHello.drop tlsRecordHeaderSize) plaintexts := by
  have run : (·.handshakeState) <$> (new [1] [2] [3]).steps sampleCrypto (sampleRun honestFlight) = .ok .complete := by
    decide +kernel
  obtain ⟨after,answer,complete⟩ := (map_ok_iff _ _ _).mp run
  exact complete_only_if_authenticated answer complete

/-- A certificate, its signature and twice the same message of another type. -/
def forgedFlight : Bytes := sampleCertificate ++ sampleVerify sampleCertificate ++ [8,0,0,0] ++ [8,0,0,0]

/-- The client completes on a flight without a Finished message, out of order. -/
theorem forged_flight_completes :
    (·.handshakeState) <$> (new [1] [2] [3]).steps sampleCrypto (sampleRun forgedFlight) = .ok .complete ∧
      (do
        let start ← sampleStart
        let (key,iv) ← deriveTrafficKeys sampleCrypto start.serverHandshakeTrafficSecret start.cipherSuite
        decryptHandshakeMessage sampleCrypto start.cipherSuite key iv 0
          ((sampleHandshakeRecord 0 forgedFlight).drop tlsRecordHeaderSize)) = .ok forgedFlight ∧
      forgedFlight = (messagesOf forgedFlight).flatten ∧
      (messagesOf forgedFlight).map (byteAt · 0) = [11,15,8,8] := by
  decide +kernel

end RealityClientConnection

end Dynet.Vless.Reality
