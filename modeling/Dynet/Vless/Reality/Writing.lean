import Dynet.Vless.Reality.Connection

/-! The sending side of a completed connection. Whatever the application writes and
however the transport takes the bytes, the wire carries records sealed under the numbers
0, 1, 2, … whose application data is what was accepted. -/
namespace Dynet.Vless.Reality
open Dynet.Lib.Checks
open Dynet.Lib.Framing

def lastSeq : Nat := 2^64 - 1

theorem nextSeq_lt {seq : Nat} (left : seq < lastSeq) : seq + 1 < 2^64 := by
  rw [lastSeq] at left
  omega

theorem nextSeq_last : nextSeq lastSeq = none := if_neg (by rw [lastSeq]; omega)

section Encrypt
variable {crypto : Crypto} (lawful : crypto.Lawful) (key : AeadKey) {iv : Bytes} (sized : iv.length = 12)
  {contentType : UInt8} (known : knownContentType contentType)

def plainInner (content : Bytes) : Inner := ⟨contentType,content,0,known⟩

theorem encryptRecordInPlace_last (crypto : Crypto) (key : AeadKey) (iv buf out : Bytes) (contentType : UInt8) :
    (encryptRecordInPlace crypto key iv ⟨lastSeq,out⟩ buf contentType).2.1.seq = lastSeq ∧
      (encryptRecordInPlace crypto key iv ⟨lastSeq,out⟩ buf contentType).1 ≠ .ok () := by
  rw [encryptRecordInPlace]
  dsimp only
  split
  · exact ⟨rfl,by simp⟩
  · rw [nextSeq_last]
    exact ⟨rfl,by simp⟩

theorem encryptFragments_last (crypto : Crypto) (key : AeadKey) (iv out : Bytes) (contentType : UInt8)
    (contents : List Bytes) :
    (encryptFragments crypto key iv contentType contents ⟨lastSeq,out⟩).2.seq = lastSeq := by
  cases contents with
  | nil => rfl
  | cons content contents =>
    obtain ⟨same,failed⟩ := encryptRecordInPlace_last crypto key iv content out contentType
    rw [encryptFragments]
    generalize encryptRecordInPlace crypto key iv ⟨lastSeq,out⟩ content contentType = reply at same failed
    obtain ⟨result,after,_⟩ := reply
    cases result with
    | ok value => exact absurd rfl failed
    | error e => exact same

theorem encryptAppData_last (crypto : Crypto) (key : AeadKey) (iv out plaintext : Bytes) :
    (encryptAppData crypto key iv ⟨lastSeq,out⟩ plaintext).2.1.seq = lastSeq := by
  rw [encryptAppData]
  split
  · rfl
  · split
    · have same := (encryptRecordInPlace_last crypto key iv plaintext out contentTypeApplicationData).1
      split
      next reply => rw [reply] at same; exact same
      next reply => rw [reply] at same; exact same
    · have same := encryptFragments_last crypto key iv out contentTypeApplicationData
        (chunks maxTlsPlaintextLen plaintext)
      split
      next reply => rw [reply] at same; exact same
      next reply => rw [reply] at same; exact same

include lawful sized

theorem encryptFragments_cases (contents : List Bytes) (small : ∀ content ∈ contents, content.length ≤ maxTlsPlaintextLen)
    (writing : Writing) (bound : writing.seq ≤ lastSeq) :
    (∃ records, SealedFrom crypto key iv writing.seq (contents.map (plainInner known)) records ∧
      encryptFragments crypto key iv contentType contents writing =
        (.ok (),⟨writing.seq + contents.length,writing.out ++ records.flatten⟩) ∧
      writing.seq + contents.length ≤ lastSeq) ∨
    ((encryptFragments crypto key iv contentType contents writing).1 ≠ .ok () ∧
      (encryptFragments crypto key iv contentType contents writing).2.seq = lastSeq) := by
  induction contents generalizing writing with
  | nil =>
    refine .inl ⟨[],.nil _,?_,bound⟩
    simp [encryptFragments]
  | cons content contents ih =>
    obtain ⟨first,rest⟩ := List.forall_mem_cons.mp small
    obtain ⟨seq,out⟩ := writing
    by_cases exhausted : seq = lastSeq
    · subst exhausted
      obtain ⟨same,failed⟩ := encryptRecordInPlace_last crypto key iv content out contentType
      right
      rw [encryptFragments]
      generalize encryptRecordInPlace crypto key iv ⟨lastSeq,out⟩ content contentType = reply at same failed
      obtain ⟨result,after,_⟩ := reply
      cases result with
      | ok value => exact absurd rfl failed
      | error e => exact ⟨by simp,same⟩
    · have left : seq < lastSeq := Nat.lt_of_le_of_ne bound exhausted
      have fits : (plainInner known content).plaintext.length ≤ 16384 + 240 := by
        rw [maxTlsPlaintextLen] at first
        simp only [plainInner,plaintext_length]
        omega
      obtain ⟨record,sealed⟩ : ∃ record, sealRecord crypto key iv seq (plainInner known content) = .ok record :=
        sealRecord_exists lawful sized fits
      obtain ⟨after,done⟩ : ∃ after, encryptRecordInPlace crypto key iv ⟨seq,out⟩ content contentType =
          (.ok (),⟨seq + 1,out ++ record⟩,after) := encryptRecordInPlace_sealed known sealed (nextSeq_lt left)
      rw [encryptFragments,done]
      rcases ih rest ⟨seq + 1,out ++ record⟩ left with ⟨records,later,run,count⟩ | failed
      · refine .inl ⟨record::records,.cons sealed later,?_,?_⟩
        · simp only [run,List.flatten_cons,List.append_assoc,List.length_cons]
          rw [Nat.add_assoc,Nat.add_comm 1]
        · rw [List.length_cons,← Nat.add_assoc,Nat.add_right_comm]
          exact count
      · exact .inr failed

/-- Pending plaintext is sealed in pieces of legal size until the numbers run out. -/
theorem encryptAppData_cases (plaintext : Bytes) (writing : Writing) (bound : writing.seq ≤ lastSeq) :
    (∃ (contents : List Bytes) (records : List Bytes), contents.flatten = plaintext ∧ (∀ content ∈ contents, content.length ≤ maxTlsPlaintextLen) ∧
      SealedFrom crypto key iv writing.seq (contents.map (plainInner (.inr (.inl rfl)))) records ∧
      encryptAppData crypto key iv writing plaintext =
        (.ok (),⟨writing.seq + contents.length,writing.out ++ records.flatten⟩,[]) ∧
      writing.seq + contents.length ≤ lastSeq) ∨
    (encryptAppData crypto key iv writing plaintext).2.1.seq = lastSeq := by
  by_cases empty : plaintext = []
  · subst empty
    refine .inl ⟨[],[],rfl,by simp,.nil _,?_,bound⟩
    simp [encryptAppData]
  by_cases single : plaintext.length ≤ maxTlsPlaintextLen
  · have one : ∀ content ∈ [plaintext], content.length ≤ maxTlsPlaintextLen := by simpa using single
    have cases := encryptFragments_cases lawful key sized (.inr (.inl rfl)) [plaintext] one writing bound
    rw [encryptAppData,if_neg empty,if_pos single]
    rw [encryptFragments] at cases
    generalize encryptRecordInPlace crypto key iv writing plaintext contentTypeApplicationData = reply at cases ⊢
    obtain ⟨result,after,buf⟩ := reply
    cases result with
    | error e =>
      rcases cases with ⟨_,_,impossible,_⟩ | ⟨_,exhausted⟩
      · cases impossible
      · exact .inr exhausted
    | ok value =>
      rcases cases with ⟨records,sealed,run,count⟩ | ⟨failed,_⟩
      · refine .inl ⟨[plaintext],records,by simp,one,sealed,?_,count⟩
        have same : after = ⟨writing.seq + [plaintext].length,writing.out ++ records.flatten⟩ :=
          congrArg Prod.snd run
        simp only [same]
      · exact absurd rfl failed
  · have cases := encryptFragments_cases lawful key sized (.inr (.inl rfl))
      (chunks maxTlsPlaintextLen plaintext) chunks_length writing bound
    rw [encryptAppData,if_neg empty,if_neg single]
    generalize encryptFragments crypto key iv contentTypeApplicationData (chunks maxTlsPlaintextLen plaintext) writing =
      reply at cases ⊢
    obtain ⟨result,after⟩ := reply
    cases result with
    | error e =>
      rcases cases with ⟨_,_,impossible,_⟩ | ⟨_,exhausted⟩
      · cases impossible
      · exact .inr exhausted
    | ok value =>
      rcases cases with ⟨records,sealed,run,count⟩ | ⟨failed,_⟩
      · refine .inl ⟨_,records,chunks_flatten (by decide) plaintext,chunks_length,sealed,?_,count⟩
        cases run
        rfl
      · exact absurd rfl failed

end Encrypt

namespace RealityClientConnection

inductive WriteStep where
  | write (data : Bytes)
  | writeTls (wr : Except IoError Nat)
  | sendCloseNotify

structure Sent where
  conn : RealityClientConnection
  wire : Bytes

def Sent.after (sent : Sent) : Except IoError Bytes × RealityClientConnection → Sent
  | (.ok bytes,conn) => ⟨conn,sent.wire ++ bytes⟩
  | (.error _,conn) => ⟨conn,sent.wire⟩

section Steps
variable (crypto : Crypto)

def writeStep (sent : Sent) : WriteStep → Sent
  | .write data => {sent with conn := sent.conn.writerWrite data}
  | .writeTls wr => sent.after (sent.conn.writeTls crypto wr)
  | .sendCloseNotify => {sent with conn := sent.conn.sendCloseNotify crypto}

def writeSteps (sent : Sent) (steps : List WriteStep) : Sent := steps.foldl (writeStep crypto) sent

end Steps

def WriteStep.data : WriteStep → Bytes
  | .write data => data
  | _ => []

def accepted (steps : List WriteStep) : Bytes := (steps.map WriteStep.data).flatten

/-- A connection whose handshake is complete, with its sending keys. -/
structure Sends (conn : RealityClientConnection) (key : AeadKey) (iv : Bytes) : Prop where
  complete : conn.handshakeState = .complete
  writeKey : conn.appWriteKey = some key
  writeIv : conn.appWriteIv = some iv

/-- Every byte beyond `front` belongs to a record sealed under its own number, and the
records hold what was accepted beyond `early`, except for what still waits. -/
structure Delivers (crypto : Crypto) (key : AeadKey) (iv front early data : Bytes) (sent : Sent) : Prop where
  sends : sent.conn.Sends key iv
  bound : sent.conn.writeSeq ≤ lastSeq
  sealed : ∃ inners records, SealedFrom crypto key iv 0 inners records ∧ sent.conn.writeSeq = inners.length ∧
    sent.wire ++ sent.conn.ciphertextWriteBuf = front ++ records.flatten ∧
    (∀ inner ∈ inners, inner.plaintext.length + 16 ≤ maxTlsCiphertextLen) ∧
    appContent (inners.map Inner.opened) ++ sent.conn.plaintextWriteBuf = early ++ data

theorem completeHandshake_sends {crypto : Crypto} (lawful : crypto.Lawful) {conn after : RealityClientConnection}
    {state : Handshaking} (done : completeHandshake crypto conn state = (.ok (),after)) :
    ∃ key iv, after.Sends key iv ∧ iv.length = 12 ∧ after.writeSeq = 0 := by
  obtain ⟨out,writeKey,writeIv,readKey,readIv,sized,_,rfl⟩ := completeHandshake_ok lawful done
  exact ⟨writeKey,writeIv,⟨rfl,rfl,rfl⟩,sized,rfl⟩

section Run
variable {crypto : Crypto} {key : AeadKey} {iv front early data : Bytes} {sent : Sent}

theorem writeOut_writeSeq (conn : RealityClientConnection) (wr : Except IoError Nat) :
    (conn.writeOut wr).2.writeSeq = conn.writeSeq := by
  cases wr <;> rfl

theorem encryptPending_last {conn : RealityClientConnection} (exhausted : conn.writeSeq = lastSeq) (key : AeadKey)
    (iv : Bytes) : (conn.encryptPending crypto key iv).2.writeSeq = lastSeq := by
  have same := encryptAppData_last crypto key iv conn.ciphertextWriteBuf conn.plaintextWriteBuf
  rw [encryptPending,exhausted]
  exact same

theorem writeTls_last {conn : RealityClientConnection} (exhausted : conn.writeSeq = lastSeq) (wr : Except IoError Nat) :
    (conn.writeTls crypto wr).2.writeSeq = lastSeq := by
  rw [writeTls]
  split
  · rw [writeOut_writeSeq,exhausted]
  · split
    · rw [writeOut_writeSeq,exhausted]
    · split
      next key iv _ _ =>
        have same : (conn.encryptPending crypto key iv).2.writeSeq = lastSeq := encryptPending_last exhausted key iv
        generalize conn.encryptPending crypto key iv = reply at same
        rcases reply with ⟨_ | _,after⟩
        · exact same
        · exact (writeOut_writeSeq after wr).trans same
      · exact exhausted

theorem sendCloseNotify_last {conn : RealityClientConnection} (exhausted : conn.writeSeq = lastSeq) :
    (conn.sendCloseNotify crypto).writeSeq = lastSeq := by
  rw [sendCloseNotify]
  split
  · exact exhausted
  · split
    next key iv _ _ =>
      rw [exhausted]
      exact (encryptRecordInPlace_last crypto key iv [alertLevelWarning,alertDescCloseNotify]
        conn.ciphertextWriteBuf contentTypeAlert).1
    · exact exhausted

theorem after_conn (sent : Sent) (reply : Except IoError Bytes × RealityClientConnection) :
    (sent.after reply).conn = reply.2 := by
  obtain ⟨result,conn⟩ := reply
  cases result <;> rfl

theorem writeStep_last (exhausted : sent.conn.writeSeq = lastSeq) (step : WriteStep) :
    (writeStep crypto sent step).conn.writeSeq = lastSeq := by
  cases step with
  | write data => exact exhausted
  | writeTls wr =>
    rw [writeStep,after_conn]
    exact writeTls_last exhausted wr
  | sendCloseNotify => exact sendCloseNotify_last exhausted

theorem writeSteps_last (steps : List WriteStep) (exhausted : sent.conn.writeSeq = lastSeq) :
    (writeSteps crypto sent steps).conn.writeSeq = lastSeq := by
  induction steps generalizing sent with
  | nil => exact exhausted
  | cons step steps ih => exact ih (writeStep_last exhausted step)

/-- What the transport takes moves from the outgoing bytes to the wire. -/
theorem Delivers.writeOut (delivers : Delivers crypto key iv front early data sent) (wr : Except IoError Nat) :
    Delivers crypto key iv front early data (sent.after (sent.conn.writeOut wr)) := by
  obtain ⟨sends,bound,inners,records,sealed,count,whole,small,content⟩ := delivers
  cases wr with
  | error e => exact ⟨sends,bound,inners,records,sealed,count,whole,small,content⟩
  | ok n =>
    refine ⟨⟨sends.complete,sends.writeKey,sends.writeIv⟩,bound,inners,records,sealed,count,?_,small,content⟩
    change sent.wire ++ sent.conn.ciphertextWriteBuf.take n ++ sent.conn.ciphertextWriteBuf.drop n = _
    rw [List.append_assoc,List.take_append_drop,whole]

theorem appContent_contents (contents : List Bytes) :
    appContent ((contents.map (plainInner (.inr (.inl rfl)))).map Inner.opened) = contents.flatten := by
  induction contents with
  | nil => rfl
  | cons content contents ih =>
    simp only [List.map_cons,List.flatten_cons,← ih]
    rfl

variable (lawful : crypto.Lawful) (sized : iv.length = 12)
include lawful sized

theorem Delivers.encryptPending (delivers : Delivers crypto key iv front early data sent) :
    ((sent.conn.encryptPending crypto key iv).1 = .ok () ∧
      Delivers crypto key iv front early data ⟨(sent.conn.encryptPending crypto key iv).2,sent.wire⟩) ∨
    (sent.conn.encryptPending crypto key iv).2.writeSeq = lastSeq := by
  obtain ⟨sends,bound,inners,records,sealed,count,whole,small,content⟩ := delivers
  rw [RealityClientConnection.encryptPending]
  rcases encryptAppData_cases lawful key sized sent.conn.plaintextWriteBuf
      ⟨sent.conn.writeSeq,sent.conn.ciphertextWriteBuf⟩ bound with
    ⟨contents,more,flat,pieces,later,run,limit⟩ | exhausted
  · rw [run]
    refine .inl ⟨rfl,⟨sends.complete,sends.writeKey,sends.writeIv⟩,limit,
      inners ++ contents.map (plainInner (.inr (.inl rfl))),records ++ more,?_,?_,?_,?_,?_⟩
    · refine sealed.append ?_
      rw [Nat.zero_add,← count]
      exact later
    · simp [count]
    · change sent.wire ++ (sent.conn.ciphertextWriteBuf ++ more.flatten) = _
      rw [← List.append_assoc,whole,List.flatten_append,List.append_assoc]
    · intro inner member
      rcases List.mem_append.mp member with old | new
      · exact small inner old
      · obtain ⟨piece,inside,rfl⟩ := List.mem_map.mp new
        have limit := pieces piece inside
        simp only [plaintext_length,plainInner,maxTlsPlaintextLen,maxTlsCiphertextLen] at limit ⊢
        omega
    · rw [List.map_append,appContent_append,appContent_contents,flat,List.append_nil,content]
  · exact .inr exhausted

theorem Delivers.sendCloseNotify (delivers : Delivers crypto key iv front early data sent) :
    Delivers crypto key iv front early data ⟨sent.conn.sendCloseNotify crypto,sent.wire⟩ ∨
      (sent.conn.sendCloseNotify crypto).writeSeq = lastSeq := by
  obtain ⟨sends,bound,inners,records,sealed,count,whole,small,content⟩ := delivers
  have known : knownContentType contentTypeAlert := .inr (.inr rfl)
  by_cases exhausted : sent.conn.writeSeq = lastSeq
  · exact .inr (sendCloseNotify_last exhausted)
  · left
    have fits : (plainInner known [alertLevelWarning,alertDescCloseNotify]).plaintext.length ≤ 16384 + 240 := by
      simp [plainInner]
    obtain ⟨record,made⟩ : ∃ record, sealRecord crypto key iv sent.conn.writeSeq
        (plainInner known [alertLevelWarning,alertDescCloseNotify]) = .ok record :=
      sealRecord_exists lawful sized fits
    have left : sent.conn.writeSeq < lastSeq := Nat.lt_of_le_of_ne bound exhausted
    obtain ⟨after,done⟩ : ∃ after, encryptRecordInPlace crypto key iv
        ⟨sent.conn.writeSeq,sent.conn.ciphertextWriteBuf⟩ [alertLevelWarning,alertDescCloseNotify]
        contentTypeAlert = (.ok (),⟨sent.conn.writeSeq + 1,sent.conn.ciphertextWriteBuf ++ record⟩,after) :=
      encryptRecordInPlace_sealed known made (nextSeq_lt left)
    have call : sent.conn.sendCloseNotify crypto = {sent.conn with
        writeSeq := sent.conn.writeSeq + 1
        ciphertextWriteBuf := sent.conn.ciphertextWriteBuf ++ record} := by
      rw [RealityClientConnection.sendCloseNotify,if_neg (by simp [sends.complete]),sends.writeKey,sends.writeIv]
      simp only [encryptCloseNotify,done,← sends.writeKey,← sends.writeIv]
    rw [call]
    refine ⟨⟨sends.complete,sends.writeKey,sends.writeIv⟩,left,
      inners ++ [plainInner known [alertLevelWarning,alertDescCloseNotify]],records ++ [record],?_,?_,?_,?_,?_⟩
    · refine sealed.append (.cons ?_ (.nil _))
      rw [Nat.zero_add,← count]
      exact made
    · simp [count]
    · change sent.wire ++ (sent.conn.ciphertextWriteBuf ++ record) = _
      rw [← List.append_assoc,whole]
      simp
    · intro inner member
      rcases List.mem_append.mp member with old | new
      · exact small inner old
      · rw [List.mem_singleton.mp new,maxTlsCiphertextLen]
        omega
    · have silent : appContent ([plainInner known [alertLevelWarning,alertDescCloseNotify]].map Inner.opened) = [] :=
        rfl
      rw [List.map_append,appContent_append,silent,List.append_nil]
      exact content

/-- One step keeps the account, unless it runs out of sequence numbers. -/
theorem Delivers.step (delivers : Delivers crypto key iv front early data sent) (step : WriteStep) :
    Delivers crypto key iv front early (data ++ step.data) (writeStep crypto sent step) ∨
      (writeStep crypto sent step).conn.writeSeq = lastSeq := by
  cases step with
  | write more =>
    obtain ⟨sends,bound,inners,records,sealed,count,whole,small,content⟩ := delivers
    refine .inl ⟨⟨sends.complete,sends.writeKey,sends.writeIv⟩,bound,inners,records,sealed,count,whole,small,?_⟩
    change _ ++ (sent.conn.plaintextWriteBuf ++ more) = early ++ (data ++ more)
    rw [← List.append_assoc,content,List.append_assoc]
  | writeTls wr =>
    have quiet : data ++ (WriteStep.writeTls wr).data = data := List.append_nil data
    rw [quiet,writeStep,after_conn]
    by_cases empty : sent.conn.plaintextWriteBuf = []
    · have call : sent.conn.writeTls crypto wr = sent.conn.writeOut wr := by
        rw [writeTls,if_neg (by simp [delivers.sends.complete]),if_pos empty]
      rw [call]
      exact .inl (delivers.writeOut wr)
    · have call : sent.conn.writeTls crypto wr = writeEncrypted wr (sent.conn.encryptPending crypto key iv) := by
        rw [writeTls,if_neg (by simp [delivers.sends.complete]),if_neg empty]
        simp only [delivers.sends.writeKey,delivers.sends.writeIv]
      have pending := delivers.encryptPending lawful sized
      rw [call]
      generalize sent.conn.encryptPending crypto key iv = reply at pending
      obtain ⟨result,conn⟩ := reply
      rcases pending with ⟨fine,next⟩ | exhausted
      · cases fine
        exact .inl (next.writeOut wr)
      · right
        cases result with
        | error e => exact exhausted
        | ok value => exact (writeOut_writeSeq conn wr).trans exhausted
  | sendCloseNotify =>
    have quiet : data ++ WriteStep.sendCloseNotify.data = data := List.append_nil data
    rw [quiet]
    exact delivers.sendCloseNotify lawful sized

theorem Delivers.steps (delivers : Delivers crypto key iv front early data sent) (steps : List WriteStep) :
    Delivers crypto key iv front early (data ++ accepted steps) (writeSteps crypto sent steps) ∨
      (writeSteps crypto sent steps).conn.writeSeq = lastSeq := by
  induction steps generalizing sent data with
  | nil =>
    have none : data ++ accepted [] = data := List.append_nil data
    rw [none]
    exact .inl delivers
  | cons step steps ih =>
    have joined : data ++ accepted (step::steps) = data ++ step.data ++ accepted steps :=
      (List.append_assoc _ _ _).symm
    rw [joined,writeSteps,List.foldl_cons]
    rcases delivers.step lawful sized step with next | exhausted
    · exact ih next
    · exact .inr (writeSteps_last steps exhausted)

end Run

/-- A completed connection whose ClientHello has been sent in part. -/
def sampleSender : RealityClientConnection := {RealityClientConnection.new [] [] [] with
  handshakeState := .complete
  appWriteKey := some sampleKey
  appWriteIv := some sampleIv
  ciphertextWriteBuf := [22,3]
  plaintextWriteBuf := [5]}

def sampleWrites : List WriteStep :=
  [.write [1,2,0],.writeTls (.ok 7),.write [],.writeTls (.error ⟨.wouldBlock,""⟩),.write [0],.writeTls (.ok 100)]

end RealityClientConnection

end Dynet.Vless.Reality
