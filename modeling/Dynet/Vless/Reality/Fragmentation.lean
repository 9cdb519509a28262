import Dynet.Vless.Reality.Handshake

/-! How the outcome of a handshake depends on the records the server's flight is cut into.
The message loop starts over at every record, so a message that spans two records is not
found. Two cuts between messages agree; a flight that some cut decides is left undecided
by the cut into single bytes. -/
namespace Dynet.Vless.Reality
open Dynet.Lib.Checks
open Dynet.Lib.Framing

/-- Where a handshake stands after some records, with the plaintexts it did not get to. -/
inductive Verdict where
  | going (state : Handshaking)
  | failed (e : IoError)
  | finished (state : Handshaking) (left : List Bytes)

namespace RealityClientConnection

section Judge
variable (crypto : Crypto)

/-- The handshake on the plaintexts of the records. -/
def judge (state : Handshaking) : List Bytes → Verdict
  | [] => .going state
  | plaintext::later => match acceptPlaintext crypto state plaintext with
    | .error e => .failed e
    | .ok state =>
      if state.messagesFound < 4 then judge state later
      else match verifyFlight crypto state with
        | .error e => .failed e
        | .ok () => .finished state later

variable {crypto}

/-- The records that come later do not matter once the handshake is decided. -/
theorem judge_append (state : Handshaking) (first second : List Bytes) :
    judge crypto state (first ++ second) = match judge crypto state first with
      | .going state => judge crypto state second
      | .failed e => .failed e
      | .finished state left => .finished state (left ++ second) := by
  induction first generalizing state with
  | nil => rfl
  | cons plaintext first ih =>
    rw [List.cons_append,judge,judge]
    cases acceptPlaintext crypto state plaintext with
    | error e => rfl
    | ok state =>
      dsimp only
      split
      · exact ih state
      · cases verifyFlight crypto state <;> rfl

theorem acceptAll_append (authKey : Bytes) (offset : Nat) (first second : List Bytes) (found : Found) :
    acceptAll crypto authKey offset (first ++ second) found =
      (acceptAll crypto authKey offset first found >>= acceptAll crypto authKey (offset + first.flatten.length) second) := by
  induction first generalizing offset found with
  | nil => rfl
  | cons message first ih =>
    rw [List.cons_append,acceptAll,acceptAll,List.flatten_cons,List.length_append,← Nat.add_assoc]
    cases acceptMessage crypto authKey offset message found with
    | error e => rfl
    | ok found => exact ih (offset + message.length) found

theorem acceptAll_counts {authKey : Bytes} {offset : Nat} {messages : List Bytes} {found after : Found}
    (accepted : acceptAll crypto authKey offset messages found = .ok after) :
    after.messagesFound = found.messagesFound + messages.length := by
  induction messages generalizing offset found with
  | nil =>
    cases accepted
    rfl
  | cons message messages ih =>
    rw [acceptAll] at accepted
    obtain ⟨middle,first,rest⟩ := (bind_ok_iff _ _ _).mp accepted
    rw [ih rest,acceptMessage_counts first,List.length_cons]
    omega

theorem acceptAll_error {authKey : Bytes} {offset : Nat} {messages : List Bytes} {found : Found} {e : IoError}
    (refused : acceptAll crypto authKey offset messages found = .error e) :
    ∃ message ∈ messages, byteAt message 0 = handshakeTypeCertificate ∧
      acceptCertificate crypto authKey message = .error e := by
  induction messages generalizing offset found with
  | nil => cases refused
  | cons message messages ih =>
    rw [acceptAll] at refused
    by_cases certificate : byteAt message 0 = handshakeTypeCertificate
    · rw [acceptMessage_certificate certificate] at refused
      cases checked : acceptCertificate crypto authKey message with
      | error other =>
        rw [checked] at refused
        cases refused
        exact ⟨message,List.mem_cons_self,certificate,checked⟩
      | ok publicKey =>
        rw [checked] at refused
        obtain ⟨other,member,rest⟩ := ih refused
        exact ⟨other,List.mem_cons_of_mem _ member,rest⟩
    · rw [acceptMessage_other certificate] at refused
      obtain ⟨other,member,rest⟩ := ih refused
      exact ⟨other,List.mem_cons_of_mem _ member,rest⟩

end Judge

/-! What the application can see. -/

inductive Outcome where
  | waiting
  | failed (e : IoError)
  | panicked (panic : Panic)
  | completed (appReadKey : Option AeadKey) (appReadIv : Option Bytes) (appWriteKey : Option AeadKey)
      (appWriteIv : Option Bytes) (cipherSuite : Option CipherSuite) (ciphertextWriteBuf : Bytes)
  deriving DecidableEq

def Outcome.isCompleted : Outcome → Bool
  | .completed .. => true
  | _ => false

def completed (conn : RealityClientConnection) : Outcome :=
  .completed conn.appReadKey conn.appReadIv conn.appWriteKey conn.appWriteIv conn.cipherSuite conn.ciphertextWriteBuf

section Outcomes
variable (crypto : Crypto)

/-- What becomes of a flight that has been verified. -/
def conclude (conn : RealityClientConnection) (state : Handshaking) : Outcome :=
  match completeHandshake crypto conn state with
  | (.error e,_) => .failed e
  | (.ok (),after) => after.completed

def settle (conn : RealityClientConnection) : Verdict → Outcome
  | .going _ => .waiting
  | .failed e => .failed e
  | .finished state _ => conn.conclude crypto state

/-- The checks behind the fourth message, and what they lead to. -/
def conclusion (conn : RealityClientConnection) (state : Handshaking) : Outcome :=
  match verifyFlight crypto state with
  | .error e => .failed e
  | .ok () => conn.conclude crypto state

/-- The outcome of a flight whose messages are all found. -/
def flightOutcome (conn : RealityClientConnection) (state : Handshaking) (messages : List Bytes) : Outcome :=
  match acceptAll crypto state.authKey state.accumulatedPlaintext.length messages state.found with
  | .error e => .failed e
  | .ok found =>
    if found.messagesFound < 4 then .waiting else conn.conclusion crypto (state.advance messages.flatten found)

end Outcomes

/-! Cuts between messages. -/

section Aligned
variable {crypto : Crypto}

theorem messagesOf_flatten {messages : List Bytes} (whole : ∀ message ∈ messages, IsMessage message) :
    messagesOf messages.flatten = messages := by
  have items := drain_items messageCutter whole []
  rw [List.append_nil] at items
  rw [messagesOf,items,drain_more messageCutter (show messageCutter.cut [] = .more from rfl)]
  exact List.append_nil messages

theorem conclusion_seq (conn : RealityClientConnection) (state : Handshaking) (seq : Nat) :
    conn.conclusion crypto {state with handshakeSeq := seq} = conn.conclusion crypto state := rfl

theorem messagesOf_single {message : Bytes} (whole : IsMessage message) : messagesOf message = [message] := by
  have single : messagesOf [message].flatten = [message] := messagesOf_flatten (by simpa using whole)
  rw [List.flatten_singleton] at single
  exact single

theorem flightOutcome_nil (conn : RealityClientConnection) (state : Handshaking) :
    conn.flightOutcome crypto state [] =
      if state.messagesFound < 4 then .waiting else conn.conclusion crypto state := by
  have same : state.advance [] state.found = {state with handshakeSeq := state.handshakeSeq + 1} := by
    simp [Handshaking.advance,Handshaking.found]
  have kept : conn.conclusion crypto (state.advance [] state.found) = conn.conclusion crypto state := by
    rw [same,conclusion_seq]
  rw [← kept]
  rfl

theorem flightOutcome_append (conn : RealityClientConnection) (state : Handshaking) (first second : List Bytes)
    {found : Found} (accepted : acceptAll crypto state.authKey state.accumulatedPlaintext.length first state.found =
      .ok found) :
    conn.flightOutcome crypto state (first ++ second) =
      conn.flightOutcome crypto (state.advance first.flatten found) second := by
  have offset : (state.advance first.flatten found).accumulatedPlaintext.length =
      state.accumulatedPlaintext.length + first.flatten.length := List.length_append
  have same : (state.advance first.flatten found).found = found := rfl
  have key : (state.advance first.flatten found).authKey = state.authKey := rfl
  rw [flightOutcome,flightOutcome,acceptAll_append,accepted,ok_bind,offset,same,key]
  cases acceptAll crypto state.authKey (state.accumulatedPlaintext.length + first.flatten.length) second found with
  | error e => rfl
  | ok last =>
    -- The two states differ in the count of the records only.
    have both : state.advance (first ++ second).flatten last =
        {(state.advance first.flatten found).advance second.flatten last with
          handshakeSeq := state.handshakeSeq + 1} := by
      simp [Handshaking.advance]
    have decided : conn.conclusion crypto (state.advance (first ++ second).flatten last) =
        conn.conclusion crypto ((state.advance first.flatten found).advance second.flatten last) := by
      rw [both,conclusion_seq]
    dsimp only
    rw [decided]

theorem judge_aligned (crypto : Crypto) (conn : RealityClientConnection) {groups : List (List Bytes)} {state : Handshaking}
    (whole : ∀ message ∈ groups.flatten, IsMessage message) (filled : ∀ group ∈ groups, group ≠ [])
    (unfinished : state.messagesFound < 4) (few : state.messagesFound + groups.flatten.length ≤ 4) :
    conn.settle crypto (judge crypto state (groups.map List.flatten)) = conn.flightOutcome crypto state groups.flatten ∧
      ∀ last left, judge crypto state (groups.map List.flatten) = .finished last left → left = [] := by
  induction groups generalizing state with
  | nil =>
    refine ⟨?_,fun _ _ impossible => by cases impossible⟩
    rw [flightOutcome]
    exact (if_pos unfinished).symm
  | cons group groups ih =>
    rw [List.flatten_cons,List.forall_mem_append] at whole
    obtain ⟨some,filled⟩ := List.forall_mem_cons.mp filled
    rw [List.flatten_cons,List.length_append] at few
    have read : (messagesOf group.flatten).take (4 - state.messagesFound) = group := by
      rw [messagesOf_flatten whole.1,List.take_of_length_le (by omega)]
    rw [List.map_cons,judge,acceptPlaintext_eq,read,List.flatten_cons]
    cases accepted : acceptAll crypto state.authKey state.accumulatedPlaintext.length group state.found with
    | error e =>
      refine ⟨?_,fun _ _ impossible => by cases impossible⟩
      rw [flightOutcome,acceptAll_append,accepted]
      rfl
    | ok found =>
      have count : found.messagesFound = state.messagesFound + group.length := acceptAll_counts accepted
      have next : (state.advance group.flatten found).messagesFound = found.messagesFound := rfl
      rw [flightOutcome_append conn state group groups.flatten accepted]
      simp only [Functor.map,Except.map]
      by_cases more : found.messagesFound < 4
      · rw [next,if_pos more]
        exact ih whole.2 filled (by omega) (by omega)
      · -- The fourth message is the flight's last one.
        have empty : groups.flatten = [] := List.length_eq_zero_iff.mp (by omega)
        have last : groups = [] := by
          rcases groups with _ | ⟨other,groups⟩
          · rfl
          · rw [List.flatten_cons,List.append_eq_nil_iff] at empty
            exact absurd empty.1 (filled other List.mem_cons_self)
        rw [next,if_neg more,empty,last,flightOutcome_nil,next,if_neg more,conclusion]
        cases verifyFlight crypto (state.advance group.flatten found) with
        | error e => exact ⟨rfl,fun _ _ impossible => by cases impossible⟩
        | ok _ =>
          refine ⟨rfl,fun _ _ same => ?_⟩
          cases same
          rfl

end Aligned

/-! The connection. -/

/-- Goes on with the connection unless the handshake is decided. -/
def goOn (next : RealityClientConnection → Outcome) : Answer Nat → Outcome
  | .error panic => .panicked panic
  | .ok (result,conn) =>
    if conn.handshakeState = .complete then conn.completed
    else match result with
      | .error e => .failed e
      | .ok _ => next conn

-- The client processes what it has after every read, until the handshake is decided.
def handshake (crypto : Crypto) (conn : RealityClientConnection) : List Chunk → Outcome
  | [] => .waiting
  | chunk::chunks => match conn.readTls (.ok chunk) with
    | .error panic => .panicked panic
    | .ok (_,conn) => goOn (fun conn => handshake crypto conn chunks) (conn.processNewPackets crypto)

/-- How an answer of the loop bears out a verdict. -/
def Bears (crypto : Crypto) (conn : RealityClientConnection) (part : Bytes) : Verdict → Answer Nat → Prop
  | .going state, answer => ∃ buf : SlideBuffer,
    answer = .ok (.ok conn.plaintextReadBuf.len,{conn with
      handshakeState := .processingHandshake state
      ciphertextReadBuf := buf}) ∧ buf.bytes = part ∧ buf.capacity = conn.ciphertextReadBuf.capacity
  | .failed e, answer => ∃ after, answer = .ok (.error e,after) ∧ after.handshakeState ≠ .complete
  | .finished state left, answer =>
    ∀ next, goOn next answer ≠ .waiting ∧ (left = [] → goOn next answer = conn.conclude crypto state)

section Loop
variable {crypto : Crypto}

theorem goOn_recordFatal (next : RealityClientConnection → Outcome) (answer : Answer Nat) :
    goOn next (recordFatal answer) = goOn next answer := by
  rcases answer with panic | ⟨e | n,conn⟩
  · rfl
  · rw [recordFatal]
    split <;> rfl
  · rfl

theorem completeHandshake_error {conn after : RealityClientConnection} {state : Handshaking} {e : IoError}
    (failed : completeHandshake crypto conn state = (.error e,after)) :
    after.handshakeState = conn.handshakeState := by
  rw [completeHandshake] at failed
  split at failed
  · cases failed
    rfl
  · split at failed
    · cases failed
      rfl
    · dsimp only at failed
      split at failed
      · cases failed
        rfl
      · cases failed

theorem conclude_same (crypto : Crypto) (conn : RealityClientConnection) (buf : SlideBuffer) (hands : HandshakeState)
    (state : Handshaking) :
    conclude crypto {conn with handshakeState := hands, ciphertextReadBuf := buf} state =
      conclude crypto conn state := by
  rw [conclude,conclude,completeHandshake,completeHandshake]
  cases clientFinished crypto state (crypto.digest state.cipherSuite
      (state.handshakeTranscriptBytes ++ state.accumulatedPlaintext)) with
  | error e => rfl
  | ok made =>
    dsimp only
    rcases encryptHandshake crypto made.2.1 made.2.2 ⟨0,conn.ciphertextWriteBuf⟩ made.1 with ⟨_ | _,writing⟩
    · rfl
    · dsimp only
      cases applicationKeys crypto state (crypto.digest state.cipherSuite
          (state.handshakeTranscriptBytes ++ state.accumulatedPlaintext)) <;> rfl

theorem goOn_complete {conn : RealityClientConnection} (complete : conn.handshakeState = .complete) (rounds : Nat)
    (next : RealityClientConnection → Outcome) : goOn next (processNewPacketsInner crypto conn rounds) ≠ .waiting := by
  cases rounds with
  | zero =>
    rw [processNewPacketsInner,goOn,if_pos complete]
    exact Outcome.noConfusion
  | succ rounds =>
    rw [processNewPacketsInner,if_pos complete]
    cases reply : processApplicationData crypto conn with
    | error panic => exact Outcome.noConfusion
    | ok answer =>
      obtain ⟨result,after⟩ := answer
      have kept := (processApplicationData_sizes reply).state.trans complete
      cases result with
      | error e =>
        dsimp only
        rw [goOn,if_pos kept]
        exact Outcome.noConfusion
      | ok _ =>
        dsimp only
        rw [goOn,if_pos kept]
        exact Outcome.noConfusion

theorem processNewPacketsInner_idle {conn : RealityClientConnection} {key : AeadKey} {iv : Bytes}
    (complete : conn.handshakeState = .complete) (readKey : conn.appReadKey = some key) (readIv : conn.appReadIv = some iv)
    (cut : frameCut conn.ciphertextReadBuf.bytes = .more) (rounds : Nat) :
    processNewPacketsInner crypto conn rounds = .ok (.ok conn.plaintextReadBuf.len,conn) := by
  cases rounds with
  | zero => rfl
  | succ rounds =>
    rw [processNewPacketsInner,if_pos complete,processApplicationData,readKey,readIv]
    dsimp only
    rw [processRecords,firstRecord_more cut]

theorem conclude_ok {conn after : RealityClientConnection} {state : Handshaking}
    (done : completeHandshake crypto conn state = (.ok (),after)) : conn.conclude crypto state = after.completed := by
  rw [conclude,done]

theorem conclude_error {conn after : RealityClientConnection} {state : Handshaking} {e : IoError}
    (failed : completeHandshake crypto conn state = (.error e,after)) : conn.conclude crypto state = .failed e := by
  rw [conclude,failed]

theorem processHandshake_record {conn : RealityClientConnection} {state : Handshaking} {key iv : Bytes} {n : Nat}
    (processing : conn.handshakeState = .processingHandshake state)
    (keys : deriveTrafficKeys crypto state.serverHandshakeTrafficSecret state.cipherSuite = .ok (key,iv))
    (item : frameCut conn.ciphertextReadBuf.bytes = .item n)
    (type : byteAt conn.ciphertextReadBuf.bytes 0 = contentTypeApplicationData) :
    processHandshake crypto conn =
      acceptRecord crypto {conn with ciphertextReadBuf := conn.ciphertextReadBuf.consume n} state key iv
        ((conn.ciphertextReadBuf.bytes.take n).drop tlsRecordHeaderSize) := by
  have other : ¬ byteAt conn.ciphertextReadBuf.bytes 0 = contentTypeChangeCipherSpec := by
    rw [type]
    decide
  rw [processHandshake,processing]
  dsimp only
  rw [processEncryptedHandshake,keys,firstRecord_item item]
  dsimp only
  rw [if_neg other,if_neg (by rw [type]; exact fun impossible => impossible rfl),← processing]

theorem processHandshake_idle {conn : RealityClientConnection} {state : Handshaking} {key iv : Bytes}
    (processing : conn.handshakeState = .processingHandshake state)
    (keys : deriveTrafficKeys crypto state.serverHandshakeTrafficSecret state.cipherSuite = .ok (key,iv))
    (cut : frameCut conn.ciphertextReadBuf.bytes = .more) : processHandshake crypto conn = (.ok false,conn) := by
  rw [processHandshake,processing]
  dsimp only
  rw [processEncryptedHandshake,keys,firstRecord_more cut]

theorem decryptHandshake_sealRecord (lawful : crypto.Lawful) {key : AeadKey} {iv record : Bytes} {seq : Nat} {inner : Inner}
    (sealed : sealRecord crypto key iv seq inner = .ok record) :
    decryptHandshakeMessage crypto key.suite key.key iv seq (record.drop tlsRecordHeaderSize) = .ok inner.content := by
  obtain ⟨payload,nonce,rfl,made,output⟩ := sealRecord_cases sealed
  have header := makeRecordHeader_length (inner.plaintext.length + 16)
  have cut : (makeRecordHeader (inner.plaintext.length + 16) ++ payload).drop tlsRecordHeaderSize = payload := by
    rw [tlsRecordHeaderSize,← header,List.drop_left]
  have solid : inner.plaintext ≠ [] := by
    intro empty
    have length := congrArg List.length empty
    rw [plaintext_length,List.length_nil] at length
    omega
  rw [cut,decryptHandshakeMessage,AeadKey.new,dif_pos key.sized,ok_bind,AeadKey.openInPlaceSlice,lawful.tag output,made,
    ok_bind]
  simp only [lawful.opens output,pure,Except.pure,ok_bind,if_neg solid,strip_inner]

theorem processHandshake_sealed (lawful : crypto.Lawful) {conn : RealityClientConnection} {state : Handshaking}
    {key : AeadKey} {iv record rest : Bytes} {inner : Inner}
    (processing : conn.handshakeState = .processingHandshake state)
    (keys : deriveTrafficKeys crypto state.serverHandshakeTrafficSecret state.cipherSuite = .ok (key.key,iv))
    (suite : state.cipherSuite = key.suite) (sealed : sealRecord crypto key iv state.handshakeSeq inner = .ok record)
    (small : inner.plaintext.length + 16 ≤ maxTlsCiphertextLen)
    (buffered : conn.ciphertextReadBuf.bytes = record ++ rest) :
    ∃ buf : SlideBuffer, buf.bytes = rest ∧ buf.capacity = conn.ciphertextReadBuf.capacity ∧
      decryptHandshakeMessage crypto state.cipherSuite key.key iv state.handshakeSeq (record.drop tlsRecordHeaderSize) =
        .ok inner.content ∧
      processHandshake crypto conn = acceptRecord crypto {conn with ciphertextReadBuf := buf} state key.key iv
        (record.drop tlsRecordHeaderSize) := by
  have whole := frameCut_sealRecord lawful sealed (Nat.lt_of_le_of_lt small (by decide))
  have item : frameCut conn.ciphertextReadBuf.bytes = .item record.length := by
    rw [buffered]
    exact (frameCutter.stable _ (by rw [whole]; exact Cut.noConfusion)).trans whole
  have type : byteAt conn.ciphertextReadBuf.bytes 0 = contentTypeApplicationData := by
    obtain ⟨payload,nonce,rfl,_,_⟩ := sealRecord_cases sealed
    rw [buffered]
    rfl
  have taken : conn.ciphertextReadBuf.bytes.take record.length = record := by rw [buffered,List.take_left]
  have call := processHandshake_record processing keys item type
  rw [taken] at call
  refine ⟨conn.ciphertextReadBuf.consume record.length,?_,SlideBuffer.consume_capacity _ _,?_,call⟩
  · rw [SlideBuffer.consume_bytes,buffered,List.drop_left]
  · rw [suite]
    exact decryptHandshake_sealRecord lawful sealed

theorem acceptPlaintext_same {state after : Handshaking} {plaintext : Bytes}
    (accepted : acceptPlaintext crypto state plaintext = .ok after) :
    ∃ found, after = state.advance plaintext found := by
  rw [acceptPlaintext_eq] at accepted
  obtain ⟨found,_,rfl⟩ := (map_ok_iff _ _ _).mp accepted
  exact ⟨found,rfl⟩

theorem Bears.of_same {conn : RealityClientConnection} {part : Bytes} {verdict : Verdict} {answer : Answer Nat}
    {buf : SlideBuffer} {hands : HandshakeState} (capacity : buf.capacity = conn.ciphertextReadBuf.capacity)
    (bears : Bears crypto {conn with handshakeState := hands, ciphertextReadBuf := buf} part verdict answer) :
    conn.Bears crypto part verdict answer := by
  cases verdict with
  | going state =>
    obtain ⟨last,same,bytes,kept⟩ := bears
    exact ⟨last,same,bytes,kept.trans capacity⟩
  | failed e => exact bears
  | finished state left =>
    intro next
    rw [← conclude_same crypto conn buf hands state]
    exact bears next

/-- The loop on whole records of the flight bears out the verdict on their plaintexts. -/
theorem processNewPacketsInner_judges (lawful : crypto.Lawful) {key : AeadKey} {iv part : Bytes} {inners : List Inner}
    {records : List Bytes} (rounds : Nat) {conn : RealityClientConnection} {state : Handshaking}
    (processing : conn.handshakeState = .processingHandshake state)
    (keys : deriveTrafficKeys crypto state.serverHandshakeTrafficSecret state.cipherSuite = .ok (key.key,iv))
    (suite : state.cipherSuite = key.suite) (sealed : SealedFrom crypto key iv state.handshakeSeq inners records)
    (small : ∀ inner ∈ inners, inner.plaintext.length + 16 ≤ maxTlsCiphertextLen)
    (buffered : conn.ciphertextReadBuf.bytes = records.flatten ++ part) (cut : frameCut part = .more)
    (enough : records.length < rounds) :
    conn.Bears crypto part (judge crypto state (inners.map (·.content))) (processNewPacketsInner crypto conn rounds) := by
  induction rounds generalizing conn state inners records with
  | zero => omega
  | succ rounds ih =>
    have handshaking : conn.handshakeState ≠ .complete := by
      rw [processing]
      exact HandshakeState.noConfusion
    rw [processNewPacketsInner,if_neg handshaking]
    generalize number : state.handshakeSeq = seq at sealed
    cases sealed with
    | nil =>
      rw [List.flatten_nil,List.nil_append] at buffered
      rw [processHandshake_idle processing keys (by rw [buffered]; exact cut)]
      refine ⟨conn.ciphertextReadBuf,?_,buffered,rfl⟩
      rw [← processing]
    | @cons _ inner record inners records made later =>
      obtain ⟨legal,rest⟩ := List.forall_mem_cons.mp small
      rw [List.flatten_cons,List.append_assoc] at buffered
      rw [← number] at made
      obtain ⟨buf,left,capacity,opens,call⟩ := processHandshake_sealed lawful processing keys suite made legal buffered
      rw [call,acceptRecord,opens,List.map_cons,judge]
      dsimp only
      cases accepted : acceptPlaintext crypto state inner.content with
      | error e => exact ⟨_,rfl,handshaking⟩
      | ok after =>
        obtain ⟨found,rfl⟩ := acceptPlaintext_same accepted
        dsimp only
        by_cases more : (state.advance inner.content found).messagesFound < 4
        · rw [if_pos more,if_pos more]
          have follows : SealedFrom crypto key iv (state.advance inner.content found).handshakeSeq inners records := by
            change SealedFrom crypto key iv (state.handshakeSeq + 1) inners records
            rw [number]
            exact later
          have next : Bears crypto {conn with
              handshakeState := .processingHandshake (state.advance inner.content found)
              ciphertextReadBuf := buf} part (judge crypto (state.advance inner.content found) (inners.map (·.content)))
              (processNewPacketsInner crypto _ rounds) :=
            ih rfl keys suite follows rest left (by rw [List.length_cons] at enough; omega)
          exact next.of_same capacity
        · rw [if_neg more,if_neg more]
          cases verifyFlight crypto (state.advance inner.content found) with
          | error e => exact ⟨_,rfl,handshaking⟩
          | ok _ =>
            dsimp only
            intro next
            have same := conclude_same crypto conn buf conn.handshakeState (state.advance inner.content found)
            cases done : completeHandshake crypto {conn with ciphertextReadBuf := buf}
                (state.advance inner.content found) with
            | mk result after =>
              rw [← same]
              cases result with
              | error e =>
                have still : after.handshakeState ≠ .complete := by
                  rw [completeHandshake_error done]
                  exact handshaking
                dsimp only
                rw [goOn,if_neg still]
                exact ⟨Outcome.noConfusion,fun _ => (conclude_error done).symm⟩
              | ok _ =>
                obtain ⟨_,_,_,readKey,readIv,_,_,shape⟩ := completeHandshake_ok lawful done
                have complete : after.handshakeState = .complete := by rw [shape]
                refine ⟨goOn_complete complete rounds next,fun none => ?_⟩
                have last : records = [] := by
                  have length := later.length
                  rw [List.map_eq_nil_iff.mp none] at length
                  exact List.length_eq_zero_iff.mp length
                have waits : frameCut after.ciphertextReadBuf.bytes = .more := by
                  rw [shape]
                  dsimp only
                  rw [left,last]
                  exact cut
                dsimp only
                rw [processNewPacketsInner_idle complete (by rw [shape]) (by rw [shape]) waits,goOn,if_pos complete]
                exact (conclude_ok done).symm

theorem judge_going {state after : Handshaking} {plaintexts : List Bytes} (unfinished : state.messagesFound < 4)
    (going : judge crypto state plaintexts = .going after) :
    after.serverHandshakeTrafficSecret = state.serverHandshakeTrafficSecret ∧ after.cipherSuite = state.cipherSuite ∧
      after.handshakeSeq = state.handshakeSeq + plaintexts.length ∧ after.messagesFound < 4 := by
  induction plaintexts generalizing state with
  | nil =>
    cases going
    exact ⟨rfl,rfl,rfl,unfinished⟩
  | cons plaintext later ih =>
    rw [judge] at going
    cases accepted : acceptPlaintext crypto state plaintext with
    | error e =>
      rw [accepted] at going
      cases going
    | ok next =>
      rw [accepted] at going
      dsimp only at going
      split at going
      next more =>
        obtain ⟨found,rfl⟩ := acceptPlaintext_same accepted
        obtain ⟨secret,suite,seq,few⟩ := ih more going
        refine ⟨secret,suite,?_,few⟩
        have next : (state.advance plaintext found).handshakeSeq = state.handshakeSeq + 1 := rfl
        rw [seq,next,List.length_cons]
        omega
      · split at going
        · cases going
        · cases going

end Loop

/-- A connection that has accepted a ServerHello and read nothing of the flight. -/
structure Greeted (crypto : Crypto) (key : AeadKey) (iv : Bytes) (start : Handshaking) (conn : RealityClientConnection) :
    Prop where
  processing : conn.handshakeState = .processingHandshake start
  first : start.handshakeSeq = 0
  fresh : start.messagesFound = 0
  keys : deriveTrafficKeys crypto start.serverHandshakeTrafficSecret start.cipherSuite = .ok (key.key,iv)
  suite : start.cipherSuite = key.suite
  running : conn.receivedCloseNotify = false
  healthy : conn.fatalError = none
  cipher : conn.ciphertextReadBuf.bytes = []
  cipherCapacity : conn.ciphertextReadBuf.capacity = ciphertextReadBufCapacity

/-- A flight on the wire: its bytes in the content of sealed records, and these in reads. -/
structure Carried (crypto : Crypto) (key : AeadKey) (iv flight : Bytes) (contents : List Bytes) (chunks : List Chunk) :
    Prop where
  split : contents.flatten = flight
  sealed : ∃ inners records, contents = inners.map (·.content) ∧ SealedFrom crypto key iv 0 inners records ∧
    (∀ inner ∈ inners, inner.plaintext.length + 16 ≤ maxTlsCiphertextLen) ∧
    (chunks.map (·.bytes)).flatten = records.flatten

/-- How an outcome shows a verdict. -/
def Shows (crypto : Crypto) (conn : RealityClientConnection) : Verdict → Outcome → Prop
  | .going _, outcome => outcome = .waiting
  | .failed e, outcome => outcome = .failed e
  | .finished state left, outcome => outcome ≠ .waiting ∧ (left = [] → outcome = conn.conclude crypto state)

theorem Shows.of_same {crypto : Crypto} {conn : RealityClientConnection} {verdict : Verdict} {outcome : Outcome}
    {buf : SlideBuffer} {hands : HandshakeState}
    (shows : Shows crypto {conn with handshakeState := hands, ciphertextReadBuf := buf} verdict outcome) :
    conn.Shows crypto verdict outcome := by
  cases verdict with
  | going state => exact shows
  | failed e => exact shows
  | finished state left => exact ⟨shows.1,fun none => (shows.2 none).trans (conclude_same crypto conn buf hands state)⟩

/-- A connection in the middle of a flight. -/
structure Hears (crypto : Crypto) (key : AeadKey) (iv : Bytes) (inners : List Inner) (records : List Bytes)
    (later : Bytes) (state : Handshaking) (conn : RealityClientConnection) : Prop where
  processing : conn.handshakeState = .processingHandshake state
  unfinished : state.messagesFound < 4
  keys : deriveTrafficKeys crypto state.serverHandshakeTrafficSecret state.cipherSuite = .ok (key.key,iv)
  suite : state.cipherSuite = key.suite
  running : conn.receivedCloseNotify = false
  healthy : conn.fatalError = none
  sealed : SealedFrom crypto key iv state.handshakeSeq inners records
  small : ∀ inner ∈ inners, inner.plaintext.length + 16 ≤ maxTlsCiphertextLen
  stream : conn.ciphertextReadBuf.bytes ++ later = records.flatten
  cut : frameCut conn.ciphertextReadBuf.bytes = .more
  cipherCapacity : conn.ciphertextReadBuf.capacity = ciphertextReadBufCapacity

section Run
variable {crypto : Crypto} (lawful : crypto.Lawful) {key : AeadKey} {iv : Bytes} {start : Handshaking}
  {conn : RealityClientConnection}
include lawful

/-- A whole run of reads shows the verdict on the plaintexts of the records. -/
theorem Hears.handshake {inners : List Inner} {records : List Bytes} {state : Handshaking} {chunks : List Chunk}
    (hears : conn.Hears crypto key iv inners records (chunks.map (·.bytes)).flatten state) :
    conn.Shows crypto (judge crypto state (inners.map (·.content))) (handshake crypto conn chunks) := by
  induction chunks generalizing conn inners records state with
  | nil =>
    have framed := hears.sealed.frames lawful hears.small
    have stream := hears.stream
    rw [List.map_nil,List.flatten_nil,List.append_nil] at stream
    have last := records_nil (fun record member => (framed record member).1) hears.cut stream
    have none : inners = [] := by
      have length := hears.sealed.length
      rw [last] at length
      exact List.length_eq_zero_iff.mp length.symm
    rw [none]
    rfl
  | cons chunk chunks ih =>
    have framed := hears.sealed.frames lawful hears.small
    have stream := hears.stream
    rw [List.map_cons,List.flatten_cons] at stream
    obtain ⟨buf,whole,rest,part,call,capacity,rfl,filled,cut,ahead,rounds⟩ :=
      readTls_frames framed hears.cut hears.cipherCapacity stream
    obtain ⟨done,left,rfl,front,back⟩ := hears.sealed.split
    obtain ⟨smallDone,smallLeft⟩ := List.forall_mem_append.mp hears.small
    have bears : Bears crypto {conn with ciphertextReadBuf := buf} part (judge crypto state (done.map (·.content)))
        (processNewPacketsInner crypto _ (buf.len + 1)) := processNewPacketsInner_judges lawful (buf.len + 1)
      hears.processing hears.keys hears.suite front smallDone filled cut rounds
    have process : processNewPackets crypto {conn with ciphertextReadBuf := buf} =
        recordFatal (processNewPacketsInner crypto {conn with ciphertextReadBuf := buf} (buf.len + 1)) := by
      rw [processNewPackets]
      simp only [hears.healthy,hears.running,Bool.false_eq_true,if_false]
    rw [List.map_append,judge_append,RealityClientConnection.handshake,call]
    dsimp only
    rw [process,goOn_recordFatal]
    cases verdict : judge crypto state (done.map (·.content)) with
    | going after =>
      rw [verdict] at bears
      obtain ⟨last,same,bytes,kept⟩ := bears
      obtain ⟨secret,suite,seq,few⟩ := judge_going hears.unfinished verdict
      rw [List.length_map] at seq
      have next : Hears crypto key iv left rest (chunks.map (·.bytes)).flatten after {conn with
          handshakeState := .processingHandshake after
          ciphertextReadBuf := last} := {
        processing := rfl
        unfinished := few
        keys := by rw [secret,suite]; exact hears.keys
        suite := suite.trans hears.suite
        running := hears.running
        healthy := hears.healthy
        sealed := by rw [seq]; exact back
        small := smallLeft
        stream := by dsimp only; rw [bytes]; exact ahead
        cut := by dsimp only; rw [bytes]; exact cut
        cipherCapacity := kept.trans (capacity.trans hears.cipherCapacity)}
      rw [same,goOn,if_neg HandshakeState.noConfusion]
      exact (ih next).of_same
    | failed e =>
      rw [verdict] at bears
      obtain ⟨after,same,handshaking⟩ := bears
      rw [same,goOn,if_neg handshaking]
      rfl
    | finished last ahead =>
      rw [verdict] at bears
      obtain ⟨decided,concluded⟩ := bears (fun conn => RealityClientConnection.handshake crypto conn chunks)
      refine ⟨decided,fun none => ?_⟩
      rw [concluded (List.append_eq_nil_iff.mp none).1]
      exact conclude_same crypto conn buf conn.handshakeState last

theorem Greeted.shows (greeted : conn.Greeted crypto key iv start) {flight : Bytes} {contents : List Bytes}
    {chunks : List Chunk} (carried : Carried crypto key iv flight contents chunks) :
    conn.Shows crypto (judge crypto start contents) (RealityClientConnection.handshake crypto conn chunks) := by
  obtain ⟨inners,records,rfl,sealed,small,cut⟩ := carried.sealed
  have hears : Hears crypto key iv inners records (chunks.map (·.bytes)).flatten start conn := {
    processing := greeted.processing
    unfinished := by rw [greeted.fresh]; decide
    keys := greeted.keys
    suite := greeted.suite
    running := greeted.running
    healthy := greeted.healthy
    sealed := by rw [greeted.first]; exact sealed
    small := small
    stream := by rw [greeted.cipher,List.nil_append,cut]
    cut := by rw [greeted.cipher]; rfl
    cipherCapacity := greeted.cipherCapacity}
  exact hears.handshake lawful

/-- Cuts between the messages of a flight lead to the outcome of the flight. -/
theorem Greeted.aligned (greeted : conn.Greeted crypto key iv start) {groups : List (List Bytes)}
    (whole : ∀ message ∈ groups.flatten, IsMessage message) (few : groups.flatten.length ≤ 4)
    (filled : ∀ group ∈ groups, group ≠ []) {flight : Bytes} {chunks : List Chunk}
    (carried : Carried crypto key iv flight (groups.map List.flatten) chunks) :
    RealityClientConnection.handshake crypto conn chunks = conn.flightOutcome crypto start groups.flatten := by
  have shows := greeted.shows lawful carried
  have unfinished : start.messagesFound < 4 := by
    rw [greeted.fresh]
    decide
  obtain ⟨settled,last⟩ := judge_aligned crypto conn whole filled unfinished (by rw [greeted.fresh]; omega)
  rw [← settled]
  cases verdict : judge crypto start (groups.map List.flatten) with
  | going state =>
    rw [verdict] at shows
    exact shows
  | failed e =>
    rw [verdict] at shows
    exact shows
  | finished state left =>
    rw [verdict] at shows
    exact shows.2 (last state left verdict)

end Run

/-! Cuts inside messages. -/

def FitsRecord (content : Bytes) : Prop := content.length + 17 ≤ maxTlsCiphertextLen

def Inside (bytes : Bytes) : List Bytes → Prop
  | [] => True
  | message::later => ∃ front back, bytes = front ++ (message ++ back) ∧ Inside back later

/-- The bytes hold what it takes to decide a handshake that still needs so many messages:
these messages, or a certificate that is refused. -/
def Decisive (crypto : Crypto) (authKey : Bytes) (needed : Nat) (bytes : Bytes) : Prop :=
  (∃ messages, messages.length = needed ∧ (∀ message ∈ messages, IsMessage message ∧ FitsRecord message) ∧
    Inside bytes messages) ∨
  ∃ message e, Inside bytes [message] ∧ IsMessage message ∧ FitsRecord message ∧
    byteAt message 0 = handshakeTypeCertificate ∧ acceptCertificate crypto authKey message = .error e

theorem Inside.after {bytes : Bytes} {messages : List Bytes} (inside : Inside bytes messages) (front : Bytes) :
    Inside (front ++ bytes) messages := by
  cases messages with
  | nil => trivial
  | cons message later =>
    obtain ⟨before,back,rfl,rest⟩ := inside
    exact ⟨front ++ before,back,(List.append_assoc _ _ _).symm,rest⟩

theorem Inside.append {first second : Bytes} {before later : List Bytes} (left : Inside first before)
    (right : Inside second later) : Inside (first ++ second) (before ++ later) := by
  induction before generalizing first with
  | nil => exact right.after first
  | cons message before ih =>
    obtain ⟨front,back,rfl,rest⟩ := left
    exact ⟨front,back ++ second,by simp,ih rest⟩

theorem inside_flatten (messages : List Bytes) : Inside messages.flatten messages := by
  induction messages with
  | nil => trivial
  | cons message later ih => exact ⟨[],later.flatten,rfl,ih⟩

theorem inside_of_mem {messages : List Bytes} {message : Bytes} (member : message ∈ messages) :
    Inside messages.flatten [message] := by
  obtain ⟨before,later,rfl⟩ := List.append_of_mem member
  exact ⟨before.flatten,later.flatten,by simp,trivial⟩

section Cuts
variable {crypto : Crypto}

theorem Inside.more {bytes : Bytes} {messages : List Bytes} (inside : Inside bytes messages) (later : Bytes) :
    Inside (bytes ++ later) messages := by
  have longer := inside.append (show Inside later [] from trivial)
  rw [List.append_nil] at longer
  exact longer

theorem Inside.fits {content message : Bytes} (inside : Inside content [message]) (fits : FitsRecord content) :
    FitsRecord message := by
  obtain ⟨front,back,rfl,_⟩ := inside
  rw [FitsRecord,List.length_append,List.length_append] at fits
  rw [FitsRecord]
  omega

theorem inside_found (content : Bytes) (n : Nat) :
    Inside content ((messagesOf content).take n) ∧ ∀ message ∈ (messagesOf content).take n, Inside content [message] := by
  obtain ⟨rest,joined⟩ := messagesOf_front content
  have front : ((messagesOf content).take n).flatten ++ (((messagesOf content).drop n).flatten ++ rest) = content := by
    rw [← List.append_assoc,← List.flatten_append,List.take_append_drop,joined]
  constructor
  · have inside := (inside_flatten ((messagesOf content).take n)).more (((messagesOf content).drop n).flatten ++ rest)
    rw [front] at inside
    exact inside
  · intro message member
    have inside := (inside_of_mem member).more (((messagesOf content).drop n).flatten ++ rest)
    rw [front] at inside
    exact inside

/-- What the loop found is in the bytes, so what decided the handshake is. -/
theorem decisive_of_decided {contents : List Bytes} {state : Handshaking} (unfinished : state.messagesFound < 4)
    (small : ∀ content ∈ contents, FitsRecord content)
    (decided : ∀ after, judge crypto state contents ≠ .going after) :
    Decisive crypto state.authKey (4 - state.messagesFound) contents.flatten := by
  induction contents generalizing state with
  | nil => exact absurd rfl (decided state)
  | cons content contents ih =>
    obtain ⟨fits,smaller⟩ := List.forall_mem_cons.mp small
    obtain ⟨inside,each⟩ := inside_found content (4 - state.messagesFound)
    have legal : ∀ message ∈ (messagesOf content).take (4 - state.messagesFound),
        IsMessage message ∧ FitsRecord message := fun message member =>
      ⟨messagesOf_whole content message (List.mem_of_mem_take member),(each message member).fits fits⟩
    rw [List.flatten_cons]
    rw [judge,acceptPlaintext_eq] at decided
    cases accepted : acceptAll crypto state.authKey state.accumulatedPlaintext.length
        ((messagesOf content).take (4 - state.messagesFound)) state.found with
    | error e =>
      obtain ⟨message,member,certificate,refused⟩ := acceptAll_error accepted
      obtain ⟨whole,room⟩ := legal message member
      exact .inr ⟨message,e,(each message member).more contents.flatten,whole,room,certificate,refused⟩
    | ok found =>
      have count : found.messagesFound = state.messagesFound +
          ((messagesOf content).take (4 - state.messagesFound)).length := acceptAll_counts accepted
      have limit := List.length_take_le (4 - state.messagesFound) (messagesOf content)
      have next : (state.advance content found).messagesFound = found.messagesFound := rfl
      rw [accepted] at decided
      simp only [Functor.map,Except.map] at decided
      by_cases more : found.messagesFound < 4
      · simp only [next,if_pos more] at decided
        rcases ih more smaller decided with ⟨messages,needed,parts,later⟩ | ⟨message,e,later,rest⟩
        · refine .inl ⟨_ ++ messages,?_,List.forall_mem_append.mpr ⟨legal,parts⟩,inside.append later⟩
          rw [List.length_append,needed,next]
          omega
        · exact .inr ⟨message,e,later.after content,rest⟩
      · exact .inl ⟨_,by omega,legal,inside.more contents.flatten⟩

theorem judge_singles (crypto : Crypto) (bytes : Bytes) (later : List Bytes) {state : Handshaking} (unfinished : state.messagesFound < 4) :
    ∃ after, judge crypto state (bytes.map ([·]) ++ later) = judge crypto after later ∧
      after.messagesFound = state.messagesFound ∧ after.authKey = state.authKey := by
  induction bytes generalizing state with
  | nil => exact ⟨state,rfl,rfl,rfl⟩
  | cons b bytes ih =>
    have none : messagesOf [b] = [] := by
      have cut : messageCutter.cut [b] = .more := by
        change messageCut [b] = .more
        rw [messageCut,if_pos (by rw [List.length_singleton]; decide)]
      rw [messagesOf,drain_more messageCutter cut]
    have read : acceptPlaintext crypto state [b] = .ok (state.advance [b] state.found) := by
      rw [acceptPlaintext_eq,none,List.take_nil]
      rfl
    rw [List.map_cons,List.cons_append,judge,read]
    dsimp only
    rw [if_pos (show (state.advance [b] state.found).messagesFound < 4 from unfinished)]
    exact ih (show (state.advance [b] state.found).messagesFound < 4 from unfinished)

theorem judge_message (crypto : Crypto) {message : Bytes} (whole : IsMessage message) (later : List Bytes) {state : Handshaking}
    (unfinished : state.messagesFound < 4) :
    (∃ e, judge crypto state (message::later) = .failed e) ∨
      ∃ found : Found, found.messagesFound = state.messagesFound + 1 ∧
        judge crypto state (message::later) = if found.messagesFound < 4 then
          judge crypto (state.advance message found) later
        else match verifyFlight crypto (state.advance message found) with
          | .error e => .failed e
          | .ok () => .finished (state.advance message found) later := by
  have enough : ([message] : List Bytes).length ≤ 4 - state.messagesFound := by
    rw [List.length_singleton]
    omega
  rw [judge,acceptPlaintext_eq,messagesOf_single whole,List.take_of_length_le enough]
  cases accepted : acceptAll crypto state.authKey state.accumulatedPlaintext.length [message] state.found with
  | error e => exact .inl ⟨e,rfl⟩
  | ok found => exact .inr ⟨found,acceptAll_counts accepted,rfl⟩

theorem judge_singles_going (crypto : Crypto) (bytes : Bytes) {state : Handshaking} (unfinished : state.messagesFound < 4) :
    ∃ after, judge crypto state (bytes.map ([·])) = .going after := by
  obtain ⟨after,same,_⟩ := judge_singles crypto bytes [] unfinished
  rw [List.append_nil] at same
  exact ⟨after,same⟩

theorem fitsRecord_single (bytes : Bytes) : ∀ content ∈ bytes.map ([·]), FitsRecord content := by
  intro content member
  obtain ⟨b,_,rfl⟩ := List.mem_map.mp member
  rw [FitsRecord,List.length_singleton]
  decide

theorem singles_flatten (bytes : Bytes) : (bytes.map ([·])).flatten = bytes := by
  induction bytes with
  | nil => rfl
  | cons b bytes ih => rw [List.map_cons,List.flatten_cons,ih,List.singleton_append]

/-- Messages that lie in the bytes can each be given a record of their own. -/
theorem decided_by_messages (crypto : Crypto) {messages : List Bytes} {bytes : Bytes}
    (legal : ∀ message ∈ messages, IsMessage message ∧ FitsRecord message) (inside : Inside bytes messages) :
    ∃ contents, contents.flatten = bytes ∧ (∀ content ∈ contents, FitsRecord content) ∧
      ∀ state : Handshaking, state.messagesFound < 4 → state.messagesFound + messages.length = 4 →
        ∀ after, judge crypto state contents ≠ .going after := by
  induction messages generalizing bytes with
  | nil => exact ⟨bytes.map ([·]),singles_flatten bytes,fitsRecord_single bytes,
    fun state unfinished needed => absurd needed (by rw [List.length_nil]; omega)⟩
  | cons message later ih =>
    obtain ⟨⟨whole,fits⟩,rest⟩ := List.forall_mem_cons.mp legal
    obtain ⟨front,back,rfl,behind⟩ := inside
    obtain ⟨contents,joined,small,decided⟩ := ih rest behind
    refine ⟨front.map ([·]) ++ message::contents,?_,?_,?_⟩
    · rw [List.flatten_append,List.flatten_cons,singles_flatten,joined]
    · exact List.forall_mem_append.mpr ⟨fitsRecord_single front,List.forall_mem_cons.mpr ⟨fits,small⟩⟩
    · intro state unfinished needed after
      obtain ⟨middle,same,count,_⟩ := judge_singles crypto front (message::contents) unfinished
      rw [same]
      rw [List.length_cons] at needed
      rcases judge_message crypto whole contents (show middle.messagesFound < 4 by omega) with
        ⟨e,failed⟩ | ⟨found,one,read⟩
      · rw [failed]
        exact Verdict.noConfusion
      · rw [read]
        by_cases more : found.messagesFound < 4
        · rw [if_pos more]
          exact decided (middle.advance message found) more (by change found.messagesFound + later.length = 4; omega) after
        · rw [if_neg more]
          cases verifyFlight crypto (middle.advance message found) <;> exact Verdict.noConfusion

/-- A certificate that is refused can be given a record of its own. -/
theorem decided_by_certificate {message bytes : Bytes} {e : IoError} {state : Handshaking}
    (unfinished : state.messagesFound < 4) (inside : Inside bytes [message]) (whole : IsMessage message)
    (fits : FitsRecord message) (certificate : byteAt message 0 = handshakeTypeCertificate)
    (refused : acceptCertificate crypto state.authKey message = .error e) :
    ∃ contents, contents.flatten = bytes ∧ (∀ content ∈ contents, FitsRecord content) ∧
      judge crypto state contents = .failed e := by
  obtain ⟨front,back,rfl,_⟩ := inside
  refine ⟨front.map ([·]) ++ message::back.map ([·]),?_,?_,?_⟩
  · rw [List.flatten_append,List.flatten_cons,singles_flatten,singles_flatten]
  · exact List.forall_mem_append.mpr
      ⟨fitsRecord_single front,List.forall_mem_cons.mpr ⟨fits,fitsRecord_single back⟩⟩
  · obtain ⟨middle,same,count,key⟩ := judge_singles crypto front (message::back.map ([·])) unfinished
    have enough : ([message] : List Bytes).length ≤ 4 - middle.messagesFound := by
      rw [List.length_singleton]
      omega
    rw [same,judge,acceptPlaintext_eq,messagesOf_single whole,List.take_of_length_le enough,acceptAll,
      acceptMessage_certificate certificate,key,refused]
    rfl

theorem decided_of_decisive {bytes : Bytes} {state : Handshaking} (unfinished : state.messagesFound < 4)
    (decisive : Decisive crypto state.authKey (4 - state.messagesFound) bytes) :
    ∃ contents, contents.flatten = bytes ∧ (∀ content ∈ contents, FitsRecord content) ∧
      ∀ after, judge crypto state contents ≠ .going after := by
  rcases decisive with ⟨messages,needed,legal,inside⟩ | ⟨message,e,inside,whole,fits,certificate,refused⟩
  · obtain ⟨contents,joined,small,decided⟩ := decided_by_messages crypto legal inside
    exact ⟨contents,joined,small,decided state unfinished (by omega)⟩
  · obtain ⟨contents,joined,small,failed⟩ := decided_by_certificate unfinished inside whole fits certificate refused
    exact ⟨contents,joined,small,fun after => by rw [failed]; exact Verdict.noConfusion⟩

/-- Four messages decide a handshake, if each goes into a record. -/
theorem decisive_of_four {messages : List Bytes} (authKey : Bytes) (many : 4 ≤ messages.length)
    (legal : ∀ message ∈ messages, IsMessage message ∧ FitsRecord message) :
    Decisive crypto authKey 4 messages.flatten := by
  have inside := (inside_flatten (messages.take 4)).more (messages.drop 4).flatten
  rw [← List.flatten_append,List.take_append_drop] at inside
  refine .inl ⟨messages.take 4,?_,fun message member => legal message (List.mem_of_mem_take member),inside⟩
  rw [List.length_take]
  omega

end Cuts

/-! Sending a flight. -/

section Send
variable {crypto : Crypto} (lawful : crypto.Lawful) (key : AeadKey) {iv : Bytes}
include lawful

theorem sealedFrom_exists (sized : iv.length = 12) {contents : List Bytes}
    (small : ∀ content ∈ contents, FitsRecord content) (seq : Nat) :
    ∃ inners records, contents = inners.map (·.content) ∧ SealedFrom crypto key iv seq inners records ∧
      ∀ inner ∈ inners, inner.plaintext.length + 16 ≤ maxTlsCiphertextLen := by
  induction contents generalizing seq with
  | nil => exact ⟨[],[],rfl,.nil seq,by simp⟩
  | cons content contents ih =>
    obtain ⟨fits,rest⟩ := List.forall_mem_cons.mp small
    obtain ⟨inners,records,same,sealed,legal⟩ := ih rest (seq + 1)
    have size : (Inner.mk contentTypeHandshake content 0 known_handshake).plaintext.length = content.length + 1 + 0 :=
      plaintext_length _
    rw [FitsRecord] at fits
    have limit : maxTlsCiphertextLen = 16384 + 256 := rfl
    obtain ⟨record,made⟩ :
        ∃ record, sealRecord crypto key iv seq ⟨contentTypeHandshake,content,0,known_handshake⟩ = .ok record :=
      sealRecord_exists lawful sized (by omega)
    refine ⟨_::inners,record::records,by rw [same]; rfl,.cons made sealed,List.forall_mem_cons.mpr ⟨?_,legal⟩⟩
    omega

theorem carried_exists (sized : iv.length = 12) {contents : List Bytes}
    (small : ∀ content ∈ contents, FitsRecord content) :
    ∃ chunks, Carried crypto key iv contents.flatten contents chunks := by
  obtain ⟨inners,records,same,sealed,legal⟩ := sealedFrom_exists lawful key sized small 0
  have framed := sealed.frames lawful legal
  have reads : ∃ chunks : List Chunk, chunks.map (·.bytes) = records := by
    clear sealed
    induction records with
    | nil => exact ⟨[],rfl⟩
    | cons record records ih =>
      obtain ⟨⟨_,size⟩,rest⟩ := List.forall_mem_cons.mp framed
      obtain ⟨chunks,same⟩ := ih rest
      have fits : record.length ≤ tlsMaxRecordSize := by
        rw [List.length_drop] at size
        rw [tlsMaxRecordSize,tlsRecordHeaderSize]
        omega
      exact ⟨⟨record,fits⟩::chunks,by rw [List.map_cons,same]⟩
  obtain ⟨chunks,cut⟩ := reads
  exact ⟨chunks,rfl,inners,records,same,sealed,legal,by rw [cut]⟩

end Send

/-- Whatever the cuts into records and reads, the flight comes to the same outcome. -/
def SplitIndependent (crypto : Crypto) (key : AeadKey) (iv flight : Bytes) (conn : RealityClientConnection) : Prop :=
  ∀ contents₁ chunks₁ contents₂ chunks₂, Carried crypto key iv flight contents₁ chunks₁ →
    Carried crypto key iv flight contents₂ chunks₂ → handshake crypto conn chunks₁ = handshake crypto conn chunks₂

theorem Carried.fits {crypto : Crypto} {key : AeadKey} {iv flight : Bytes} {contents : List Bytes} {chunks : List Chunk}
    (carried : Carried crypto key iv flight contents chunks) : ∀ content ∈ contents, FitsRecord content := by
  obtain ⟨inners,_,rfl,_,small,_⟩ := carried.sealed
  intro content member
  obtain ⟨inner,inside,rfl⟩ := List.mem_map.mp member
  have size := small inner inside
  rw [plaintext_length] at size
  rw [FitsRecord]
  omega

section Independence
variable {crypto : Crypto} (lawful : crypto.Lawful) {key : AeadKey} {iv : Bytes} {start : Handshaking}
  {conn : RealityClientConnection}
include lawful

/-- A flight comes to the same outcome in every cut exactly when no cut decides it. -/
theorem Greeted.independent_iff (greeted : conn.Greeted crypto key iv start) (flight : Bytes) :
    SplitIndependent crypto key iv flight conn ↔ ¬ Decisive crypto start.authKey 4 flight := by
  have unfinished : start.messagesFound < 4 := by
    rw [greeted.fresh]
    decide
  have needed : 4 = 4 - start.messagesFound := by rw [greeted.fresh]
  constructor
  · intro independent decisive
    rw [needed] at decisive
    have sized := (deriveTrafficKeys_length lawful greeted.keys).2
    obtain ⟨contents,rfl,small,decided⟩ := decided_of_decisive unfinished decisive
    obtain ⟨chunks,carried⟩ := carried_exists lawful key sized small
    obtain ⟨single,apart⟩ := carried_exists lawful key sized (fitsRecord_single contents.flatten)
    rw [singles_flatten] at apart
    obtain ⟨after,waits⟩ := judge_singles_going crypto contents.flatten unfinished
    have first := greeted.shows lawful apart
    have second := greeted.shows lawful carried
    rw [waits] at first
    rw [← independent _ _ _ _ apart carried,show handshake crypto conn single = .waiting from first] at second
    cases verdict : judge crypto start contents with
    | going state => exact decided state verdict
    | failed e =>
      rw [verdict] at second
      cases second
    | finished state left =>
      rw [verdict] at second
      exact second.1 rfl
  · intro quiet contents₁ chunks₁ contents₂ chunks₂ first second
    have waits (contents : List Bytes) (chunks : List Chunk) (carried : Carried crypto key iv flight contents chunks) :
        handshake crypto conn chunks = .waiting := by
      have shows := greeted.shows lawful carried
      have undecided : ∃ after, judge crypto start contents = .going after := by
        by_contra decided
        refine quiet ?_
        have decisive := decisive_of_decided unfinished carried.fits (not_exists.mp decided)
        rw [carried.split,← needed] at decisive
        exact decisive
      obtain ⟨after,going⟩ := undecided
      rw [going] at shows
      exact shows
    rw [waits _ _ first,waits _ _ second]

/-- The outcome of a server's flight does not depend on its cut into records and reads
exactly when no cut of it decides the handshake; a flight of up to four messages comes to
the same outcome in all cuts between its messages. -/
theorem split_independent_iff_undecided (greeted : conn.Greeted crypto key iv start) {messages : List Bytes}
    (whole : ∀ message ∈ messages, IsMessage message) :
    (SplitIndependent crypto key iv messages.flatten conn ↔ ¬ Decisive crypto start.authKey 4 messages.flatten) ∧
      (messages.length ≤ 4 → ∀ (groups₁ groups₂ : List (List Bytes)) chunks₁ chunks₂, groups₁.flatten = messages →
        groups₂.flatten = messages → (∀ group ∈ groups₁, group ≠ []) → (∀ group ∈ groups₂, group ≠ []) →
        Carried crypto key iv messages.flatten (groups₁.map List.flatten) chunks₁ →
        Carried crypto key iv messages.flatten (groups₂.map List.flatten) chunks₂ →
        handshake crypto conn chunks₁ = handshake crypto conn chunks₂) := by
  refine ⟨greeted.independent_iff lawful messages.flatten,?_⟩
  rintro few groups₁ groups₂ chunks₁ chunks₂ rfl same filled₁ filled₂ carried₁ carried₂
  rw [greeted.aligned lawful whole few filled₁ carried₁]
  rw [← same] at whole few
  rw [greeted.aligned lawful whole few filled₂ carried₂,same]

end Independence

/-- Accepting a ServerHello is where the reading of a flight starts. -/
theorem greeted_exists {crypto : Crypto} (lawful : crypto.Lawful) {hello privateKey authKey serverHello : Bytes}
    {start : Handshaking} (greeted : acceptServerHello crypto hello privateKey authKey serverHello = .ok start) :
    ∃ key iv, Greeted crypto key iv start
      {new hello privateKey authKey with handshakeState := .processingHandshake start} := by
  obtain ⟨keyBytes,iv,keys⟩ := deriveTrafficKeys_ok crypto start.serverHandshakeTrafficSecret start.cipherSuite
  obtain ⟨_,_,tracks⟩ := acceptServerHello_tracks greeted
  exact ⟨⟨start.cipherSuite,keyBytes,(deriveTrafficKeys_length lawful keys).1⟩,iv,rfl,tracks.seq,tracks.found.count,keys,
    rfl,rfl,rfl,rfl,rfl⟩

def honestMessages : List Bytes :=
  [[8,0,0,0],sampleCertificate,sampleVerify ([8,0,0,0] ++ sampleCertificate),[20,0,0,0]]

/-- No server can leave its flight to the client's mercy: a cut into records decides. -/
theorem honest_flight_depends_on_split : ∃ start key iv conn, Greeted sampleCrypto key iv start conn ∧
    ¬ SplitIndependent sampleCrypto key iv honestMessages.flatten conn := by
  have accepted : sampleStart.isOk = true := by decide +kernel
  cases greeted : sampleStart with
  | error e =>
    rw [greeted] at accepted
    cases accepted
  | ok start =>
    obtain ⟨key,iv,ready⟩ := greeted_exists sampleCrypto_lawful greeted
    have legal : ∀ message ∈ honestMessages, IsMessage message ∧ message.length + 17 ≤ maxTlsCiphertextLen := by
      decide +kernel
    refine ⟨start,key,iv,_,ready,?_⟩
    rw [(split_independent_iff_undecided sampleCrypto_lawful ready (fun message member => (legal message member).1)).1,
      not_not]
    exact decisive_of_four start.authKey (by decide) legal

def sampleGreeted : RealityClientConnection := match sampleStart with
  | .ok start => {new [1] [2] [3] with handshakeState := .processingHandshake start}
  | .error _ => new [1] [2] [3]

/-- The same flight completes in one record and waits forever with its certificate in two. -/
theorem certificate_in_two_records_waits :
    (handshake sampleCrypto sampleGreeted
        [⟨sampleHandshakeRecord 0 honestMessages.flatten,by decide +kernel⟩]).isCompleted = true ∧
      handshake sampleCrypto sampleGreeted [⟨sampleHandshakeRecord 0 (honestMessages.flatten.take 50),by decide +kernel⟩,
        ⟨sampleHandshakeRecord 1 (honestMessages.flatten.drop 50),by decide +kernel⟩] = .waiting := by
  decide +kernel

end RealityClientConnection

end Dynet.Vless.Reality
