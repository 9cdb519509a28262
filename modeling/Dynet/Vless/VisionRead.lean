import Dynet.Vless.Reality.Receiving

/-! Reads of a VisionStream in its TLS mode: what the padded phase has left, then the
plaintext of the session, then the socket. -/
namespace Dynet.Vless
open Reality RealityClientConnection

/-- The fields of a VisionStream that a read in TLS mode uses. -/
structure TlsReader where
  pendingRead : Bytes
  session : RealityClientConnection
  isReadEof : Bool
  deriving DecidableEq

inductive PollRead where
  | pending
  | ready (result : Except IoError Bytes)
  deriving DecidableEq

def PollRead.bytes : PollRead → Bytes
  | .ready (.ok bytes) => bytes
  | _ => []

/-- What the socket answers to a read: bytes, none of them at its end, or an error, which
is `WouldBlock` while there is nothing to read. -/
abbrev TcpRead := Except IoError Chunk

def TcpRead.bytes : TcpRead → Bytes
  | .ok chunk => chunk.bytes
  | .error _ => []

/-- What a read makes of an answer without bytes. -/
def TcpRead.idle : TcpRead → PollRead
  | .ok _ => .ready (.ok [])
  | .error e => if e.kind = .wouldBlock then .pending else .ready (.error e)

theorem TcpRead.idle_bytes (answer : TcpRead) : answer.idle.bytes = [] := by
  unfold TcpRead.idle
  repeat' split
  all_goals rfl

def wouldBlock : IoError := ⟨.wouldBlock,"operation would block"⟩

namespace TlsReader

/-- `reader()`, which may move the plaintext to the front. -/
def reader (conn : RealityClientConnection) : RealityClientConnection :=
  {conn with plaintextReadBuf := conn.plaintextReadBuf.maybeCompact 4096}

def fillBuf (conn : RealityClientConnection) : Except IoError Bytes :=
  if conn.plaintextReadBuf.bytes ≠ [] then .ok conn.plaintextReadBuf.bytes
  else if conn.receivedCloseNotify then .ok []
  else .error wouldBlock

def takeOut (stream : TlsReader) (size : Nat) (available : Bytes) : PollRead × TlsReader :=
  (.ready (.ok (available.take size)),{stream with session := {stream.session with
    plaintextReadBuf := stream.session.plaintextReadBuf.consume (min size available.length)}})

/-- What has been read and not yet delivered. -/
def held (stream : TlsReader) : Bytes := stream.pendingRead ++ stream.session.plaintextReadBuf.bytes

section Reads
variable (crypto : Crypto)

-- One round of the loop over the socket: the result of the read, unless it goes on.
def readRound (stream : TlsReader) (size : Nat) (answer : TcpRead) : Except Panic (Option PollRead × TlsReader) :=
  match stream.session.readTls answer with
  | .error panic => .error panic
  | .ok (.error e,session) =>
    .ok (some (if e.kind = .wouldBlock then .pending else .ready (.error e)),{stream with session := session})
  | .ok (.ok n,session) =>
    if n = 0 then .ok (some (.ready (.ok [])),{stream with session := session, isReadEof := true})
    else match session.processNewPackets crypto with
      | .error panic => .error panic
      | .ok (.error e,session) => .ok (some (.ready (.error (invalidData e.message))),{stream with session := session})
      | .ok (.ok plaintextLen,session) =>
        if plaintextLen = 0 then .ok (none,{stream with session := session})
        else
          let stream := {stream with session := reader session}
          match fillBuf stream.session with
          | .error e => .ok (some (.ready (.error (invalidData e.message))),stream)
          | .ok available =>
            if available = [] then
              .ok (some (.ready (.error ⟨.unexpectedEof,"Read zero bytes when plaintext is available"⟩)),stream)
            else
              let (result,stream) := takeOut stream size available
              .ok (some result,stream)

-- A socket without a further answer has nothing to read yet.
def readLoop (stream : TlsReader) (size : Nat) : List TcpRead → Except Panic (PollRead × TlsReader × List TcpRead)
  | [] => (readRound crypto stream size (.error wouldBlock)).map fun (_,stream) => (.pending,stream,[])
  | answer::tcp => match readRound crypto stream size answer with
    | .error panic => .error panic
    | .ok (some result,stream) => .ok (result,stream,tcp)
    | .ok (none,stream) => readLoop stream size tcp

/-- What a poll still does behind a round of the loop. -/
def finishPoll (size : Nat) (round : Option PollRead × TlsReader) (tcp : List TcpRead) :
    Except Panic (PollRead × TlsReader × List TcpRead) :=
  match round with
  | (some result,stream) => .ok (result,stream,tcp)
  | (none,stream) => readLoop crypto stream size tcp

/-- The round of the loop in which the session hears that the connection closes. -/
def hearLoop (stream : TlsReader) (size : Nat) : List TcpRead → Option ((Option PollRead × TlsReader) × List TcpRead)
  | [] => none
  | answer::tcp => match readRound crypto stream size answer with
    | .error _ => none
    | .ok (found,stream) =>
      if stream.session.receivedCloseNotify then some ((found,stream),tcp)
      else if found = none then hearLoop stream size tcp else none

/-- `poll_read_tls`, behind what the buffered plaintext decides. -/
def readSocket (stream : TlsReader) (size : Nat) (tcp : List TcpRead) : Except Panic (PollRead × TlsReader × List TcpRead) :=
  if stream.isReadEof then .ok (.ready (.ok []),stream,tcp) else readLoop crypto stream size tcp

def pollReadTls (stream : TlsReader) (size : Nat) (tcp : List TcpRead) : Except Panic (PollRead × TlsReader × List TcpRead) :=
  let stream := {stream with session := reader stream.session}
  match fillBuf stream.session with
  | .ok available =>
    if available ≠ [] then
      let (result,stream) := takeOut stream size available
      .ok (result,stream,tcp)
    else readSocket crypto stream size tcp
  | .error e => if e.kind = .wouldBlock then readSocket crypto stream size tcp else .ok (.ready (.error e),stream,tcp)

/-- `poll_read`, where the read mode is TLS. -/
def pollRead (stream : TlsReader) (size : Nat) (tcp : List TcpRead) : Except Panic (PollRead × TlsReader × List TcpRead) :=
  if stream.pendingRead ≠ [] then
    .ok (.ready (.ok (stream.pendingRead.take size)),{stream with pendingRead := stream.pendingRead.drop size},tcp)
  else pollReadTls crypto stream size tcp

/-- The round of a poll in which the close is heard, where the poll asks the socket. -/
def hearPoll (stream : TlsReader) (size : Nat) (tcp : List TcpRead) : Option ((Option PollRead × TlsReader) × List TcpRead) :=
  if stream.held = [] ∧ stream.isReadEof = false ∧ stream.session.receivedCloseNotify = false then
    hearLoop crypto {stream with session := reader stream.session} size tcp
  else none

/-- Reads with room for the given numbers of bytes, one after the other. -/
def pollAll (stream : TlsReader) (tcp : List TcpRead) : List Nat → Except Panic (List PollRead × TlsReader × List TcpRead)
  | [] => .ok ([],stream,tcp)
  | size::sizes => match pollRead crypto stream size tcp with
    | .error panic => .error panic
    | .ok (result,stream,tcp) => (pollAll stream tcp sizes).map fun (results,rest) => (result::results,rest)

end Reads

def received (tcp : List TcpRead) : Bytes := tcp.flatMap TcpRead.bytes

def delivered (results : List PollRead) : Bytes := results.flatMap PollRead.bytes

section Rules
variable {crypto : Crypto} {stream : TlsReader}

theorem readTls_idle (conn : RealityClientConnection) {answer : TcpRead} (idle : answer.bytes = []) :
    ∃ buf : SlideBuffer, buf.bytes = conn.ciphertextReadBuf.bytes ∧ buf.capacity = conn.ciphertextReadBuf.capacity ∧
      conn.readTls answer = .ok (answer.map fun _ => 0,{conn with ciphertextReadBuf := buf}) := by
  refine ⟨if conn.ciphertextReadBuf.remainingCapacity < tlsMaxRecordSize then conn.ciphertextReadBuf.compact
    else conn.ciphertextReadBuf,?_,?_,?_⟩
  · split <;> rfl
  · split <;> rfl
  · cases answer with
    | error e => rfl
    | ok chunk =>
      have none : chunk.bytes = [] := idle
      simp [RealityClientConnection.readTls,none,Except.map]

theorem readTls_data {conn after : RealityClientConnection} {chunk : Chunk} {answer : Except IoError Nat} (some : chunk.bytes ≠ [])
    (read : conn.readTls (.ok chunk) = .ok (answer,after)) : answer = .ok chunk.bytes.length ∧
      ∃ buf : SlideBuffer, after = {conn with ciphertextReadBuf := buf} ∧ buf.bytes = conn.ciphertextReadBuf.bytes ++ chunk.bytes := by
  rw [RealityClientConnection.readTls] at read
  simp only [List.length_pos_iff.mpr some,if_true] at read
  split at read
  · cases read
  next extended =>
    cases read
    refine ⟨rfl,_,rfl,?_⟩
    rw [((SlideBuffer.extendFromSlice_ok_iff _ _ _).mp extended).2.2.2]
    split <;> rfl

theorem reader_bytes (conn : RealityClientConnection) :
    (reader conn).plaintextReadBuf.bytes = conn.plaintextReadBuf.bytes := SlideBuffer.maybeCompact_bytes _ _

/-- The stream with its plaintext where `reader()` puts it. -/
def compacted (stream : TlsReader) : TlsReader := {stream with session := reader stream.session}

theorem takeOut_spec {size : Nat} (room : 0 < size) (some : stream.session.plaintextReadBuf.bytes ≠ []) :
    ∃ bytes buf, takeOut stream size stream.session.plaintextReadBuf.bytes =
        (.ready (.ok bytes),{stream with session := {stream.session with plaintextReadBuf := buf}}) ∧
      bytes ≠ [] ∧ stream.session.plaintextReadBuf.bytes = bytes ++ buf.bytes ∧
      buf.capacity = stream.session.plaintextReadBuf.capacity ∧ (buf.bytes = [] → buf.start = 0) := by
  refine ⟨_,_,rfl,?_,?_,SlideBuffer.consume_capacity _ _,fun emptied => ?_⟩
  · cases front : stream.session.plaintextReadBuf.bytes with
    | nil => exact absurd front some
    | cons byte rest =>
      obtain ⟨size,rfl⟩ := Nat.exists_eq_succ_of_ne_zero (Nat.pos_iff_ne_zero.mp room)
      simp
  · rw [SlideBuffer.consume_bytes]
    rcases Nat.le_total size stream.session.plaintextReadBuf.bytes.length with short | long
    · rw [Nat.min_eq_left short,List.take_append_drop]
    · rw [Nat.min_eq_right long,List.drop_length,List.append_nil,List.take_of_length_le long]
  · rw [SlideBuffer.consume] at emptied ⊢
    split
    next inside =>
      rw [dif_pos inside] at emptied
      have left := congrArg List.length emptied
      rw [SlideBuffer.len] at inside
      simp only [List.length_drop,List.length_nil] at left
      omega
    · rfl

theorem pollRead_held (waiting : stream.held ≠ []) {size : Nat} (room : 0 < size) (tcp : List TcpRead) :
    ∃ bytes pending buf, pollRead crypto stream size tcp = .ok (.ready (.ok bytes),
        {stream with pendingRead := pending, session := {stream.session with plaintextReadBuf := buf}},tcp) ∧
      bytes ≠ [] ∧ stream.held = bytes ++ (pending ++ buf.bytes) ∧ buf.capacity = stream.session.plaintextReadBuf.capacity ∧
      ((stream.session.plaintextReadBuf.bytes = [] → stream.session.plaintextReadBuf.start = 0) → buf.bytes = [] → buf.start = 0) := by
  cases pending : stream.pendingRead with
  | cons byte rest =>
    obtain ⟨size,rfl⟩ := Nat.exists_eq_succ_of_ne_zero (Nat.pos_iff_ne_zero.mp room)
    refine ⟨_,_,stream.session.plaintextReadBuf,by rw [pollRead,if_pos (by simp [pending])],?_,?_,rfl,id⟩
    · simp [pending]
    · rw [← List.append_assoc,List.take_append_drop,held]
  | nil =>
    have some : stream.compacted.session.plaintextReadBuf.bytes ≠ [] := by
      intro none
      exact waiting (by rw [held,pending,← reader_bytes stream.session]; exact none)
    obtain ⟨bytes,buf,taken,more,same,capacity,tidy⟩ := takeOut_spec room some
    refine ⟨bytes,[],buf,?_,more,?_,capacity.trans (SlideBuffer.maybeCompact_capacity _ _),fun _ => tidy⟩
    · rw [pollRead,if_neg (by simp [pending]),pollReadTls]
      have filled : fillBuf (reader stream.session) = .ok (reader stream.session).plaintextReadBuf.bytes := if_pos some
      have front : takeOut {stream with session := reader stream.session} size (reader stream.session).plaintextReadBuf.bytes = _ := taken
      have more : (reader stream.session).plaintextReadBuf.bytes ≠ [] := some
      simp only [filled,front]
      rw [if_pos more]
      simp [compacted,reader,pending]
    · rw [held,pending,List.nil_append,List.nil_append,← same]
      exact (reader_bytes _).symm

theorem pollRead_empty (empty : stream.held = []) (size : Nat) (tcp : List TcpRead) :
    pollRead crypto stream size tcp = readSocket crypto stream.compacted size tcp := by
  obtain ⟨none,silent⟩ := List.append_eq_nil_iff.mp empty
  rw [pollRead,if_neg (by simp [none]),pollReadTls]
  have quiet : (reader stream.session).plaintextReadBuf.bytes = [] := (reader_bytes _).trans silent
  simp only [fillBuf,quiet,ne_eq,not_true_eq_false,if_false]
  cases closed : (reader stream.session).receivedCloseNotify <;> simp [compacted,wouldBlock]

theorem readRound_idle (stream : TlsReader) (size : Nat) {answer : TcpRead} (idle : answer.bytes = []) :
    ∃ buf : SlideBuffer, buf.bytes = stream.session.ciphertextReadBuf.bytes ∧
      buf.capacity = stream.session.ciphertextReadBuf.capacity ∧
      readRound crypto stream size answer = .ok (some answer.idle,{stream with
        session := {stream.session with ciphertextReadBuf := buf}
        isReadEof := stream.isReadEof || answer.isOk}) := by
  obtain ⟨buf,bytes,capacity,read⟩ := readTls_idle stream.session idle
  refine ⟨buf,bytes,capacity,?_⟩
  rw [readRound,read]
  cases answer with
  | error e => simp [Except.map,Except.isOk,Except.toBool,TcpRead.idle]
  | ok chunk => simp [Except.map,Except.isOk,Except.toBool,TcpRead.idle]

/-- A round goes on while there is no plaintext, and takes out what there is. -/
theorem readRound_processed {size n : Nat} (room : 0 < size) {answer : TcpRead} {read after : RealityClientConnection}
    (called : stream.session.readTls answer = .ok (.ok n,read)) (more : n ≠ 0)
    (processed : read.processNewPackets crypto = .ok (.ok after.plaintextReadBuf.len,after)) :
    (after.plaintextReadBuf.bytes = [] ∧ readRound crypto stream size answer = .ok (none,{stream with session := after})) ∨
    ∃ bytes buf, readRound crypto stream size answer =
        .ok (some (.ready (.ok bytes)),{stream with session := {after with plaintextReadBuf := buf}}) ∧
      bytes ≠ [] ∧ after.plaintextReadBuf.bytes = bytes ++ buf.bytes ∧ buf.capacity = after.plaintextReadBuf.capacity ∧
      (buf.bytes = [] → buf.start = 0) := by
  by_cases none : after.plaintextReadBuf.bytes = []
  · refine .inl ⟨none,?_⟩
    have length : after.plaintextReadBuf.len = 0 := by rw [SlideBuffer.len,none,List.length_nil]
    rw [length] at processed
    simp only [readRound,called,if_neg more,processed,if_true]
  · have some : (compacted {stream with session := after}).session.plaintextReadBuf.bytes ≠ [] := by
      rw [compacted,reader_bytes]
      exact none
    obtain ⟨bytes,buf,taken,served,same,capacity,tidy⟩ := takeOut_spec room some
    refine .inr ⟨bytes,buf,?_,served,(reader_bytes after).symm.trans same,
      capacity.trans (SlideBuffer.maybeCompact_capacity _ _),tidy⟩
    have length : after.plaintextReadBuf.len ≠ 0 := by
      rw [SlideBuffer.len]
      exact fun zero => none (List.length_eq_zero_iff.mp zero)
    have filled : fillBuf (reader after) = .ok (reader after).plaintextReadBuf.bytes := if_pos some
    have front : takeOut {stream with session := reader after} size (reader after).plaintextReadBuf.bytes = _ := taken
    have more' : (reader after).plaintextReadBuf.bytes ≠ [] := some
    simp only [readRound,called,if_neg more,processed,if_neg length,filled,if_neg more',front]
    rfl

end Rules

/-- A stream in TLS mode whose session waits for the rest of the records. -/
structure Waits (crypto : Crypto) (key : AeadKey) (iv : Bytes) (inners : List Inner) (records : List Bytes) (later : Bytes)
    (stream : TlsReader) : Prop where
  awaits : Awaits crypto key iv inners records later {stream.session with plaintextReadBuf := .new plaintextReadBufCapacity}
  capacity : stream.session.plaintextReadBuf.capacity = plaintextReadBufCapacity
  tidy : stream.session.plaintextReadBuf.bytes = [] → stream.session.plaintextReadBuf.start = 0

/-- The session waits for the rest of the records, or has heard the alert that closes it. What
is still to be delivered is held or yet to come. -/
inductive Hears (crypto : Crypto) (key : AeadKey) (iv : Bytes) (fate : Fate) (later owed : Bytes) (stream : TlsReader) : Prop where
  | running {inners : List Inner} {records : List Bytes} (waits : stream.Waits crypto key iv inners records later) (ends : (survey inners).2 = fate) (owes : owed = stream.held ++ (survey inners).1)
  | closed (notified : stream.session.receivedCloseNotify = true) (healthy : stream.session.fatalError = none)
      (ends : fate = .closed) (owes : owed = stream.held)

def Failed (stream : TlsReader) : Prop := stream.session.receivedCloseNotify = false ∧ stream.session.fatalError ≠ none

section Run
variable {crypto : Crypto} {key : AeadKey} {iv : Bytes} {fate : Fate} {later owed : Bytes} {stream : TlsReader}

/-- Moving the ciphertext and reaching the end of the socket change nothing of it. -/
theorem Hears.moved (hears : Hears crypto key iv fate later owed stream) {buf : SlideBuffer}
    (bytes : buf.bytes = stream.session.ciphertextReadBuf.bytes) (capacity : buf.capacity = stream.session.ciphertextReadBuf.capacity)
    (ended : Bool) : Hears crypto key iv fate later owed
      {stream with session := {stream.session with ciphertextReadBuf := buf}, isReadEof := ended} := by
  cases hears with
  | running waits ends owes =>
    obtain ⟨awaits,full,tidy⟩ := waits
    refine .running ⟨⟨awaits.complete,awaits.readKey,awaits.readIv,awaits.running,awaits.healthy,awaits.sealed,awaits.count,awaits.small,
      ?_,?_,capacity.trans awaits.cipherCapacity,rfl,rfl,rfl⟩,full,tidy⟩ ends owes
    · rw [bytes]
      exact awaits.stream
    · rw [bytes]
      exact awaits.cut
  | closed notified healthy ends owes => exact .closed notified healthy ends owes

theorem Hears.served (hears : Hears crypto key iv fate later owed stream) {bytes pending : Bytes} {buf : SlideBuffer}
    (same : stream.held = bytes ++ (pending ++ buf.bytes)) (capacity : buf.capacity = stream.session.plaintextReadBuf.capacity)
    (tidied : (stream.session.plaintextReadBuf.bytes = [] → stream.session.plaintextReadBuf.start = 0) → buf.bytes = [] → buf.start = 0) :
    ∃ still, owed = bytes ++ still ∧ Hears crypto key iv fate later still
      {stream with pendingRead := pending, session := {stream.session with plaintextReadBuf := buf}} := by
  cases hears with
  | running waits ends owes =>
    refine ⟨_,?_,.running ⟨waits.awaits,capacity.trans waits.capacity,tidied waits.tidy⟩ ends rfl⟩
    rw [owes,same,List.append_assoc]
    rfl
  | closed notified healthy ends owes => exact ⟨_,owes.trans same,.closed notified healthy ends rfl⟩

theorem processNewPackets_closed {conn : RealityClientConnection} (notified : conn.receivedCloseNotify = true)
    (healthy : conn.fatalError = none) : conn.processNewPackets crypto = .ok (.ok conn.plaintextReadBuf.len,conn) := by
  rw [RealityClientConnection.processNewPackets,healthy]
  exact if_pos notified

theorem Hears.data (lawful : crypto.Lawful) {chunk : Chunk} (hears : Hears crypto key iv fate (chunk.bytes ++ later) owed stream)
    (empty : stream.held = []) (some : chunk.bytes ≠ []) {size : Nat} (room : 0 < size) {found : Option PollRead} {after : TlsReader}
    (ran : readRound crypto stream size (.ok chunk) = .ok (found,after)) :
    (Failed after ∧ found ≠ none) ∨ ∃ still, owed = (found.elim [] PollRead.bytes) ++ still ∧
      Hears crypto key iv fate later still after ∧ (found = none → after.held = []) ∧ after.isReadEof = stream.isReadEof ∧
      ∀ result, found = .some result → ∃ bytes, result = .ready (.ok bytes) ∧ bytes ≠ [] := by
  obtain ⟨spent,silent⟩ := List.append_eq_nil_iff.mp empty
  have length : chunk.bytes.length ≠ 0 := fun zero => some (List.length_eq_zero_iff.mp zero)
  -- what a round makes of a session whose packets have been processed
  have finish {read next : RealityClientConnection} (called : stream.session.readTls (.ok chunk) = .ok (.ok chunk.bytes.length,read))
      (processed : read.processNewPackets crypto = .ok (.ok next.plaintextReadBuf.len,next))
      (heard : Hears crypto key iv fate later owed {stream with session := next}) :
      ∃ still, owed = (found.elim [] PollRead.bytes) ++ still ∧
        Hears crypto key iv fate later still after ∧ (found = none → after.held = []) ∧ after.isReadEof = stream.isReadEof ∧
        ∀ result, found = .some result → ∃ bytes, result = .ready (.ok bytes) ∧ bytes ≠ [] := by
    rcases @readRound_processed crypto stream size _ room _ _ _ called length processed with
      ⟨none,round⟩ | ⟨bytes,buf,round,filled,same,capacity,tidy⟩
    · cases round.symm.trans ran
      exact ⟨owed,rfl,heard,fun _ => by rw [held,spent,none]; rfl,rfl,nofun⟩
    · cases round.symm.trans ran
      have whole : ({stream with session := next} : TlsReader).held = bytes ++ ([] ++ buf.bytes) := by
        rw [held,spent,same]
        rfl
      obtain ⟨still,owes,served⟩ := heard.served whole capacity fun _ => tidy
      rw [← spent] at served
      refine ⟨still,owes,served,nofun,rfl,fun result same => ?_⟩
      cases same
      exact ⟨bytes,rfl,filled⟩
  cases hears with
  | closed notified healthy ends owes =>
    cases read : stream.session.readTls (.ok chunk) with
    | error panic =>
      rw [readRound,read] at ran
      cases ran
    | ok answer =>
      obtain ⟨answer,session⟩ := answer
      obtain ⟨rfl,buf,rfl,-⟩ := readTls_data some read
      refine .inr (finish read (processNewPackets_closed ?_ ?_) (.closed notified healthy ends owes))
      · exact notified
      · exact healthy
  | running waits ends owes =>
    obtain ⟨awaits,full,tidy⟩ := waits
    have fresh : {stream.session with plaintextReadBuf := .new plaintextReadBufCapacity} = stream.session := by
      have same : SlideBuffer.new plaintextReadBufCapacity = stream.session.plaintextReadBuf := by
        rw [SlideBuffer.mk.injEq]
        exact ⟨full.symm,(tidy silent).symm,silent.symm⟩
      rw [same]
    rw [fresh] at awaits
    obtain ⟨buf,done,left,rest,rfl,called,processed⟩ := awaits.process lawful
    rw [survey_append] at ends owes
    generalize process : processNewPackets crypto {stream.session with ciphertextReadBuf := buf} = answer at processed
    generalize survey done = first at processed ends owes
    obtain ⟨bytes,reached⟩ := first
    rw [empty,List.nil_append] at owes
    cases reached with
    | running =>
      obtain ⟨next,rfl,content,front,capacity,later⟩ := processed
      rw [capacity] at later
      refine .inr (finish called process (.running ⟨later,capacity,fun _ => front⟩ ends ?_))
      rw [owes,held,spent,content]
      rfl
    | closed =>
      obtain ⟨result,next,rfl,content,⟨rfl,notified,healthy⟩ | ⟨e,rfl,silentClose,fatal⟩⟩ := processed
      · refine .inr (finish called process (.closed notified healthy ends.symm ?_))
        rw [owes,held,spent,content]
        rfl
      · rw [readRound,called] at ran
        simp only [if_neg length,process] at ran
        cases ran
        exact .inl ⟨⟨silentClose,fatal⟩,by simp⟩
    | panicked =>
      subst processed
      rw [readRound,called] at ran
      simp only [if_neg length,process] at ran
      cases ran

theorem Hears.compacted (hears : Hears crypto key iv fate later owed stream) : Hears crypto key iv fate later owed stream.compacted := by
  have same : stream.held = [] ++ (stream.pendingRead ++ (stream.session.plaintextReadBuf.maybeCompact 4096).bytes) := by
    rw [List.nil_append,SlideBuffer.maybeCompact_bytes]
    rfl
  obtain ⟨_,rfl,moved⟩ := hears.served same (SlideBuffer.maybeCompact_capacity _ _) fun tidy emptied => by
    rw [SlideBuffer.maybeCompact_bytes] at emptied
    unfold SlideBuffer.maybeCompact
    split
    · rfl
    · exact tidy emptied
  exact moved

theorem compacted_held (stream : TlsReader) : stream.compacted.held = stream.held :=
  congrArg (stream.pendingRead ++ ·) (reader_bytes stream.session)

theorem Hears.loop (lawful : crypto.Lawful) {unread : Bytes} {tcp rest : List TcpRead}
    (hears : Hears crypto key iv fate (received tcp ++ unread) owed stream) (empty : stream.held = []) {size : Nat} (room : 0 < size)
    {result : PollRead} {after : TlsReader} (ran : readLoop crypto stream size tcp = .ok (result,after,rest)) :
    Failed after ∨ ∃ still, owed = result.bytes ++ still ∧ Hears crypto key iv fate (received rest ++ unread) still after := by
  induction tcp generalizing stream owed with
  | nil =>
    obtain ⟨buf,bytes,capacity,round⟩ := @readRound_idle crypto stream size (.error wouldBlock) rfl
    rw [readLoop,round] at ran
    cases ran
    exact .inr ⟨owed,rfl,hears.moved bytes capacity _⟩
  | cons answer tcp ih =>
    by_cases idle : answer.bytes = []
    · obtain ⟨buf,bytes,capacity,round⟩ := @readRound_idle crypto stream size answer idle
      have same : received (answer::tcp) = received tcp := by rw [received,List.flatMap_cons,idle]; rfl
      rw [same] at hears
      rw [readLoop,round] at ran
      cases ran
      refine .inr ⟨owed,?_,hears.moved bytes capacity _⟩
      rw [answer.idle_bytes,List.nil_append]
    · cases answer with
      | error e => exact absurd rfl idle
      | ok chunk =>
        have same : received (.ok chunk::tcp) ++ unread = chunk.bytes ++ (received tcp ++ unread) := by
          rw [received,List.flatMap_cons,List.append_assoc]
          rfl
        rw [same] at hears
        rw [readLoop] at ran
        cases round : readRound crypto stream size (.ok chunk) with
        | error panic =>
          rw [round] at ran
          cases ran
        | ok answer =>
          obtain ⟨found,next⟩ := answer
          rw [round] at ran
          rcases hears.data lawful empty idle room round with ⟨failed,stops⟩ | ⟨still,owes,heard,goes,-⟩
          · cases found with
            | none => exact absurd rfl stops
            | some result =>
              cases ran
              exact .inl failed
          · cases found with
            | none =>
              rw [owes]
              exact ih heard (goes rfl) ran
            | some result =>
              cases ran
              exact .inr ⟨still,owes,heard⟩

theorem Hears.poll (lawful : crypto.Lawful) {unread : Bytes} {tcp rest : List TcpRead}
    (hears : Hears crypto key iv fate (received tcp ++ unread) owed stream) {size : Nat} (room : 0 < size)
    {result : PollRead} {after : TlsReader} (ran : pollRead crypto stream size tcp = .ok (result,after,rest)) :
    Failed after ∨ ∃ still, owed = result.bytes ++ still ∧ Hears crypto key iv fate (received rest ++ unread) still after := by
  by_cases empty : stream.held = []
  · rw [pollRead_empty empty,readSocket] at ran
    split at ran
    · cases ran
      exact .inr ⟨owed,rfl,hears.compacted⟩
    · exact hears.compacted.loop lawful ((compacted_held stream).trans empty) room ran
  · obtain ⟨bytes,pending,buf,read,-,same,capacity,tidied⟩ := @pollRead_held crypto stream empty size room tcp
    cases read.symm.trans ran
    exact .inr (hears.served same capacity tidied)

theorem Failed.loop (failed : Failed stream) {size : Nat} {tcp rest : List TcpRead} {result : PollRead} {after : TlsReader}
    (ran : readLoop crypto stream size tcp = .ok (result,after,rest)) : Failed after := by
  cases tcp with
  | nil =>
    obtain ⟨buf,-,-,round⟩ := @readRound_idle crypto stream size (.error wouldBlock) rfl
    rw [readLoop,round] at ran
    cases ran
    exact failed
  | cons answer tcp =>
    rw [readLoop] at ran
    by_cases idle : answer.bytes = []
    · obtain ⟨buf,-,-,round⟩ := @readRound_idle crypto stream size answer idle
      rw [round] at ran
      cases ran
      exact failed
    · cases answer with
      | error e => exact absurd rfl idle
      | ok chunk =>
        cases read : stream.session.readTls (.ok chunk) with
        | error panic =>
          rw [readRound,read] at ran
          cases ran
        | ok answer =>
          obtain ⟨answer,session⟩ := answer
          obtain ⟨rfl,buf,rfl,-⟩ := readTls_data idle read
          obtain ⟨kind,fatal⟩ := Option.ne_none_iff_exists'.mp failed.2
          have length : chunk.bytes.length ≠ 0 := fun zero => idle (List.length_eq_zero_iff.mp zero)
          simp only [readRound,read,if_neg length,RealityClientConnection.processNewPackets,fatal] at ran
          cases ran
          exact ⟨failed.1,by simp⟩

theorem Failed.deaf (failed : Failed stream) {size : Nat} (tcp : List TcpRead) : hearLoop crypto stream size tcp = none := by
  cases tcp with
  | nil => rfl
  | cons answer tcp =>
    rw [hearLoop]
    by_cases idle : answer.bytes = []
    · obtain ⟨buf,-,-,round⟩ := @readRound_idle crypto stream size answer idle
      rw [round]
      simp [failed.1]
    · cases answer with
      | error e => exact absurd rfl idle
      | ok chunk =>
        cases read : stream.session.readTls (.ok chunk) with
        | error panic => rw [readRound,read]
        | ok answer =>
          obtain ⟨answer,session⟩ := answer
          obtain ⟨rfl,buf,rfl,-⟩ := readTls_data idle read
          obtain ⟨kind,fatal⟩ := Option.ne_none_iff_exists'.mp failed.2
          have length : chunk.bytes.length ≠ 0 := fun zero => idle (List.length_eq_zero_iff.mp zero)
          simp only [readRound,read,if_neg length,RealityClientConnection.processNewPackets,fatal]
          simp [failed.1]

theorem Failed.poll (failed : Failed stream) {size : Nat} (room : 0 < size) {tcp rest : List TcpRead} {result : PollRead}
    {after : TlsReader} (ran : pollRead crypto stream size tcp = .ok (result,after,rest)) : Failed after := by
  by_cases empty : stream.held = []
  · rw [pollRead_empty empty,readSocket] at ran
    split at ran
    · cases ran
      exact failed
    · exact @Failed.loop _ stream.compacted failed _ _ _ _ _ ran
  · obtain ⟨bytes,pending,buf,read,-⟩ := @pollRead_held crypto stream empty size room tcp
    cases read.symm.trans ran
    exact failed

theorem pollAll_cons_ok {size : Nat} {sizes : List Nat} {tcp rest : List TcpRead} {results : List PollRead} {after : TlsReader}
    (ran : pollAll crypto stream tcp (size::sizes) = .ok (results,after,rest)) :
    ∃ result next later more, pollRead crypto stream size tcp = .ok (result,next,later) ∧
      pollAll crypto next later sizes = .ok (more,after,rest) ∧ results = result::more := by
  rw [pollAll] at ran
  cases first : pollRead crypto stream size tcp with
  | error panic =>
    rw [first] at ran
    cases ran
  | ok answer =>
    obtain ⟨result,next,later⟩ := answer
    rw [first] at ran
    obtain ⟨⟨more,ended⟩,others,made⟩ := (Dynet.Lib.Checks.map_ok_iff _ _ _).mp ran
    cases made
    exact ⟨result,next,later,more,rfl,others,rfl⟩

theorem Failed.run (failed : Failed stream) {sizes : List Nat} (room : ∀ size ∈ sizes, 0 < size) {tcp rest : List TcpRead}
    {results : List PollRead} {after : TlsReader} (ran : pollAll crypto stream tcp sizes = .ok (results,after,rest)) : Failed after := by
  induction sizes generalizing stream tcp results with
  | nil =>
    cases ran
    exact failed
  | cons size sizes ih =>
    obtain ⟨first,others⟩ := List.forall_mem_cons.mp room
    obtain ⟨result,next,later,more,read,goes,-⟩ := pollAll_cons_ok ran
    exact ih (failed.poll first read) others goes

theorem Hears.run (lawful : crypto.Lawful) {unread : Bytes} {sizes : List Nat} (room : ∀ size ∈ sizes, 0 < size)
    {tcp rest : List TcpRead} (hears : Hears crypto key iv fate (received tcp ++ unread) owed stream) {results : List PollRead}
    {after : TlsReader} (ran : pollAll crypto stream tcp sizes = .ok (results,after,rest)) :
    Failed after ∨ ∃ still, owed = delivered results ++ still ∧ Hears crypto key iv fate (received rest ++ unread) still after := by
  induction sizes generalizing stream tcp owed results with
  | nil =>
    cases ran
    exact .inr ⟨owed,rfl,hears⟩
  | cons size sizes ih =>
    obtain ⟨first,others⟩ := List.forall_mem_cons.mp room
    obtain ⟨result,next,later,more,read,goes,rfl⟩ := pollAll_cons_ok ran
    obtain failed | ⟨still,rfl,heard⟩ := hears.poll lawful first read
    · exact .inl (failed.run others goes)
    · obtain failed | ⟨last,rfl,ended⟩ := ih others heard goes
      · exact .inl failed
      · exact .inr ⟨last,(List.append_assoc _ _ _).symm,ended⟩

end Run

section Closing

/-- The reads deliver what is owed, and report the end once nothing is. -/
def Serves : Bytes → List PollRead → Prop
  | _, [] => True
  | owed, result::results => ∃ bytes rest, result = .ready (.ok bytes) ∧ owed = bytes ++ rest ∧ (bytes = [] → owed = []) ∧
    Serves rest results

/-- However the stream is read from here, it delivers what is owed and then reports the
end, and takes in nothing from the socket. -/
def Ends (crypto : Crypto) (stream : TlsReader) (tcp : List TcpRead) (owed : Bytes) : Prop :=
  ∀ sizes : List Nat, (∀ size ∈ sizes, 0 < size) → ∃ results after rest, pollAll crypto stream tcp sizes = .ok (results,after,rest) ∧
    Serves owed results ∧ after.session.ciphertextReadBuf.bytes = stream.session.ciphertextReadBuf.bytes

/-- The same, from within a poll: behind the round, the rest of the poll comes first. -/
def EndsFrom (crypto : Crypto) (size : Nat) (round : Option PollRead × TlsReader) (tcp : List TcpRead) (owed : Bytes) : Prop :=
  ∀ sizes : List Nat, (∀ size ∈ sizes, 0 < size) → ∃ result next later results after rest,
    finishPoll crypto size round tcp = .ok (result,next,later) ∧ pollAll crypto next later sizes = .ok (results,after,rest) ∧
    Serves owed (result::results) ∧ after.session.ciphertextReadBuf.bytes = round.2.session.ciphertextReadBuf.bytes

def EndNext (tcp : List TcpRead) : Prop := ∃ chunk rest, tcp = .ok chunk::rest ∧ chunk.bytes = []

variable {crypto : Crypto} {stream : TlsReader}

theorem ended_poll {tcp : List TcpRead} (ended : stream.isReadEof = true ∨ EndNext tcp) {size : Nat} (room : 0 < size) :
    ∃ bytes after rest, pollRead crypto stream size tcp = .ok (.ready (.ok bytes),after,rest) ∧ stream.held = bytes ++ after.held ∧
      (bytes = [] → stream.held = []) ∧ after.session.ciphertextReadBuf.bytes = stream.session.ciphertextReadBuf.bytes ∧
      (after.isReadEof = true ∨ EndNext rest) := by
  by_cases empty : stream.held = []
  · rw [pollRead_empty empty,readSocket]
    split
    · refine ⟨_,_,_,rfl,?_,fun _ => empty,rfl,.inl ‹_›⟩
      rw [List.nil_append,compacted_held]
    next open_ =>
      obtain ⟨chunk,rest,rfl,last⟩ := ended.resolve_left open_
      obtain ⟨buf,bytes,-,round⟩ := @readRound_idle crypto stream.compacted size (.ok chunk) last
      rw [readLoop,round]
      refine ⟨_,_,_,rfl,?_,fun _ => empty,bytes,.inl (Bool.or_true _)⟩
      rw [List.nil_append]
      exact (compacted_held stream).symm
  · obtain ⟨bytes,pending,buf,read,some,same,-⟩ := @pollRead_held crypto stream empty size room tcp
    exact ⟨bytes,_,_,read,same,fun none => absurd none some,rfl,ended⟩

theorem ends_of_ended {tcp : List TcpRead} (ended : stream.isReadEof = true ∨ EndNext tcp) : Ends crypto stream tcp stream.held := by
  intro sizes room
  induction sizes generalizing stream tcp with
  | nil => exact ⟨_,_,_,rfl,trivial,rfl⟩
  | cons size sizes ih =>
    obtain ⟨first,others⟩ := List.forall_mem_cons.mp room
    obtain ⟨bytes,next,later,read,same,last,still,ended⟩ := @ended_poll crypto stream tcp ended size first
    obtain ⟨results,after,rest,goes,serves,kept⟩ := ih ended others
    refine ⟨.ready (.ok bytes)::results,after,rest,?_,⟨bytes,_,rfl,same,last,serves⟩,kept.trans still⟩
    rw [pollAll,read]
    simp only [goes]
    rfl

theorem closed_round (notified : stream.session.receivedCloseNotify = true) (healthy : stream.session.fatalError = none)
    (empty : stream.held = []) {chunk : Chunk} (some : chunk.bytes ≠ []) {size : Nat} {found : Option PollRead} {next : TlsReader}
    (ran : readRound crypto stream size (.ok chunk) = .ok (found,next)) :
    found = none ∧ ∃ buf : SlideBuffer, next = {stream with session := {stream.session with ciphertextReadBuf := buf}} ∧
      buf.bytes = stream.session.ciphertextReadBuf.bytes ++ chunk.bytes := by
  cases read : stream.session.readTls (.ok chunk) with
  | error panic =>
    rw [readRound,read] at ran
    cases ran
  | ok answer =>
    obtain ⟨answer,session⟩ := answer
    obtain ⟨rfl,buf,rfl,grown⟩ := readTls_data some read
    have length : chunk.bytes.length ≠ 0 := fun zero => some (List.length_eq_zero_iff.mp zero)
    have ignored := @processNewPackets_closed crypto {stream.session with ciphertextReadBuf := buf} notified healthy
    have silent : stream.session.plaintextReadBuf.len = 0 := by
      rw [SlideBuffer.len,(List.append_eq_nil_iff.mp empty).2,List.length_nil]
    simp only [readRound,read,if_neg length,ignored,silent,if_true] at ran
    cases ran
    exact ⟨rfl,buf,rfl,grown⟩

theorem closed_loop_grows (notified : stream.session.receivedCloseNotify = true) (healthy : stream.session.fatalError = none)
    (empty : stream.held = []) {size : Nat} {tcp rest : List TcpRead} {result : PollRead} {after : TlsReader}
    (ran : readLoop crypto stream size tcp = .ok (result,after,rest)) :
    stream.session.ciphertextReadBuf.bytes <+: after.session.ciphertextReadBuf.bytes := by
  induction tcp generalizing stream with
  | nil =>
    obtain ⟨buf,bytes,-,round⟩ := @readRound_idle crypto stream size (.error wouldBlock) rfl
    rw [readLoop,round] at ran
    cases ran
    exact bytes ▸ List.prefix_rfl
  | cons answer tcp ih =>
    rw [readLoop] at ran
    by_cases idle : answer.bytes = []
    · obtain ⟨buf,bytes,-,round⟩ := @readRound_idle crypto stream size answer idle
      rw [round] at ran
      cases ran
      exact bytes ▸ List.prefix_rfl
    · cases answer with
      | error e => exact absurd rfl idle
      | ok chunk =>
        cases round : readRound crypto stream size (.ok chunk) with
        | error panic =>
          rw [round] at ran
          cases ran
        | ok answer =>
          obtain ⟨found,next⟩ := answer
          obtain ⟨rfl,buf,rfl,grown⟩ := closed_round notified healthy empty idle round
          rw [round] at ran
          have goes := @ih {stream with session := {stream.session with ciphertextReadBuf := buf}} notified healthy empty ran
          exact (List.prefix_append _ _).trans (grown ▸ goes)

/-- A loop that reports the end and has taken in nothing has met the end of the socket. -/
theorem endNext_of_loop (notified : stream.session.receivedCloseNotify = true) (healthy : stream.session.fatalError = none)
    (empty : stream.held = []) {size : Nat} {tcp rest : List TcpRead} {bytes : Bytes} {after : TlsReader}
    (ran : readLoop crypto stream size tcp = .ok (.ready (.ok bytes),after,rest))
    (still : after.session.ciphertextReadBuf.bytes = stream.session.ciphertextReadBuf.bytes) : EndNext tcp := by
  cases tcp with
  | nil =>
    obtain ⟨buf,-,-,round⟩ := @readRound_idle crypto stream size (.error wouldBlock) rfl
    rw [readLoop,round] at ran
    cases ran
  | cons answer tcp =>
    rw [readLoop] at ran
    cases answer with
    | error e =>
      obtain ⟨buf,-,-,round⟩ := @readRound_idle crypto stream size (.error e) rfl
      rw [round] at ran
      unfold TcpRead.idle at ran
      dsimp only at ran
      split at ran
      · cases ran
      · cases ran
    | ok chunk =>
      by_cases last : chunk.bytes = []
      · exact ⟨chunk,tcp,rfl,last⟩
      · cases round : readRound crypto stream size (.ok chunk) with
        | error panic =>
          rw [round] at ran
          cases ran
        | ok answer =>
          obtain ⟨found,next⟩ := answer
          obtain ⟨rfl,buf,rfl,grown⟩ := closed_round notified healthy empty last round
          rw [round] at ran
          have longer := (@closed_loop_grows crypto {stream with session := {stream.session with ciphertextReadBuf := buf}}
            notified healthy empty _ _ _ _ _ ran).length_le
          have more := List.length_pos_iff.mpr last
          rw [still,grown,List.length_append] at longer
          omega

theorem ended_of_ends (notified : stream.session.receivedCloseNotify = true) (healthy : stream.session.fatalError = none)
    {tcp : List TcpRead} (ends : Ends crypto stream tcp stream.held) : stream.isReadEof = true ∨ EndNext tcp := by
  induction total : stream.held.length using Nat.strong_induction_on generalizing stream with
  | _ total ih =>
    by_cases empty : stream.held = []
    · obtain ⟨results,after,rest,ran,serves,still⟩ := ends [1] (by simp)
      obtain ⟨result,next,later,more,read,goes,rfl⟩ := pollAll_cons_ok ran
      cases goes
      obtain ⟨bytes,_,rfl,-⟩ := serves
      rw [pollRead_empty empty,readSocket] at read
      split at read
      · exact .inl ‹_›
      · exact .inr (@endNext_of_loop crypto stream.compacted notified healthy ((compacted_held stream).trans empty) _ _ _ _ _ read still)
    · obtain ⟨bytes,pending,buf,read,some,same,-⟩ := @pollRead_held crypto stream empty 1 Nat.one_pos tcp
      have shorter : (pending ++ buf.bytes).length < stream.held.length := by
        have := List.length_pos_iff.mpr some
        simp only [same,List.length_append]
        omega
      refine @ih _ (total ▸ shorter) {stream with pendingRead := pending, session := {stream.session with plaintextReadBuf := buf}}
        notified healthy (fun sizes room => ?_) rfl
      obtain ⟨results,after,rest,ran,serves,still⟩ := ends (1::sizes) (List.forall_mem_cons.mpr ⟨Nat.one_pos,room⟩)
      obtain ⟨result,next,later,more,again,goes,rfl⟩ := pollAll_cons_ok ran
      cases read.symm.trans again
      obtain ⟨_,left,made,whole,-,serves⟩ := serves
      cases made
      rw [same,List.append_cancel_left_eq] at whole
      subst whole
      exact ⟨more,after,rest,goes,serves,still⟩

/-- Behind a round that has found data, the stream ends as a stream does. -/
theorem endsFrom_found_iff {size : Nat} {bytes owed : Bytes} (filled : bytes ≠ []) (tcp : List TcpRead) :
    EndsFrom crypto size (some (.ready (.ok bytes)),stream) tcp (bytes ++ owed) ↔ Ends crypto stream tcp owed := by
  constructor
  · intro ends sizes room
    obtain ⟨_,_,_,results,after,rest,finished,ran,serves,still⟩ := ends sizes room
    cases finished
    obtain ⟨_,left,same,whole,-,serves⟩ := serves
    cases same
    rw [List.append_cancel_left whole]
    exact ⟨results,after,rest,ran,serves,still⟩
  · intro ends sizes room
    obtain ⟨results,after,rest,ran,serves,still⟩ := ends sizes room
    exact ⟨_,_,_,results,after,rest,rfl,ran,⟨bytes,_,rfl,rfl,fun none => absurd none filled,serves⟩,still⟩

/-- Behind a round that has found none, the loop asks the socket once more. -/
theorem endsFrom_silent_iff (notified : stream.session.receivedCloseNotify = true) (healthy : stream.session.fatalError = none)
    (empty : stream.held = []) {size : Nat} (tcp : List TcpRead) : EndsFrom crypto size (none,stream) tcp [] ↔ EndNext tcp := by
  constructor
  · intro ends
    obtain ⟨result,next,later,results,after,rest,finished,ran,serves,still⟩ := ends [] (by simp)
    cases ran
    obtain ⟨bytes,_,rfl,-⟩ := serves
    exact endNext_of_loop notified healthy empty finished still
  · rintro ⟨chunk,rest,rfl,last⟩ sizes room
    obtain ⟨buf,bytes,-,round⟩ := @readRound_idle crypto stream size (.ok chunk) last
    let ended : TlsReader := {stream with session := {stream.session with ciphertextReadBuf := buf}, isReadEof := true}
    have looped : readLoop crypto stream size (.ok chunk::rest) = .ok (.ready (.ok []),ended,rest) := by
      rw [readLoop,round]
      simp [TcpRead.idle,ended,Except.isOk,Except.toBool]
    have none : ended.held = [] := empty
    obtain ⟨results,after,last,ran,serves,still⟩ := @ends_of_ended crypto ended rest (.inl rfl) sizes room
    rw [none] at serves
    exact ⟨_,_,_,results,after,last,looped,ran,⟨[],_,rfl,rfl,fun _ => rfl,serves⟩,still.trans bytes⟩

/-- The round in which the close is heard: what it found is owed before what is held. -/
structure Heard (fate : Fate) (owed : Bytes) (round : Option PollRead × TlsReader) : Prop where
  notified : round.2.session.receivedCloseNotify = true
  healthy : round.2.session.fatalError = none
  waiting : round.2.isReadEof = false
  closes : fate = .closed
  owes : owed = round.1.elim [] PollRead.bytes ++ round.2.held
  silent : round.1 = none → round.2.held = []
  found : ∀ result, round.1 = some result → ∃ bytes, result = .ready (.ok bytes) ∧ bytes ≠ []

theorem Heard.ends_iff {fate : Fate} {owed : Bytes} {round : Option PollRead × TlsReader} (heard : Heard fate owed round) {size : Nat}
    (tcp : List TcpRead) : EndsFrom crypto size round tcp owed ↔ EndNext tcp := by
  obtain ⟨notified,healthy,waiting,-,rfl,silent,served⟩ := heard
  obtain ⟨found,stream⟩ := round
  cases found with
  | some result =>
    obtain ⟨bytes,rfl,filled⟩ := served result rfl
    refine (endsFrom_found_iff filled tcp).trans ⟨fun ends => ?_,fun ended => ends_of_ended (.inr ended)⟩
    exact (ended_of_ends notified healthy ends).resolve_left (ne_true_of_eq_false waiting)
  | none =>
    have empty : stream.held = [] := silent rfl
    have owes : Option.elim none [] PollRead.bytes ++ stream.held = [] := by rw [empty]; rfl
    rw [owes]
    exact endsFrom_silent_iff notified healthy empty tcp

theorem hearLoop_heard (lawful : crypto.Lawful) {key : AeadKey} {iv : Bytes} {fate : Fate} {unread : Bytes} {tcp rest : List TcpRead}
    {owed : Bytes} (hears : Hears crypto key iv fate (received tcp ++ unread) owed stream) (empty : stream.held = [])
    (waiting : stream.isReadEof = false) (before : stream.session.receivedCloseNotify = false) {size : Nat} (room : 0 < size)
    {round : Option PollRead × TlsReader} (heard : hearLoop crypto stream size tcp = some (round,rest)) : Heard fate owed round := by
  induction tcp generalizing stream owed with
  | nil => cases heard
  | cons answer tcp ih =>
    rw [hearLoop] at heard
    by_cases idle : answer.bytes = []
    · obtain ⟨buf,-,-,called⟩ := @readRound_idle crypto stream size answer idle
      rw [called] at heard
      simp [before] at heard
    · cases answer with
      | error e => exact absurd rfl idle
      | ok chunk =>
        have same : received (.ok chunk::tcp) ++ unread = chunk.bytes ++ (received tcp ++ unread) := by
          rw [received,List.flatMap_cons,List.append_assoc]
          rfl
        rw [same] at hears
        cases called : readRound crypto stream size (.ok chunk) with
        | error panic =>
          rw [called] at heard
          cases heard
        | ok reply =>
          obtain ⟨found,next⟩ := reply
          rw [called] at heard
          dsimp only at heard
          obtain ⟨failed,stops⟩ | ⟨still,owes,goes,silent,eof,shape⟩ := hears.data lawful empty idle room called
          · rw [failed.1] at heard
            simp [stops] at heard
          · cases notified : next.session.receivedCloseNotify with
            | true =>
              rw [notified] at heard
              cases heard
              cases goes with
              | running waits => cases waits.awaits.running.symm.trans notified
              | closed _ healthy closes left => exact ⟨notified,healthy,eof.trans waiting,closes,left ▸ owes,silent,shape⟩
            | false =>
              rw [notified] at heard
              by_cases none : found = none
              · subst none
                rw [owes]
                exact ih goes (silent rfl) (eof.trans waiting) notified (by simpa using heard)
              · simp [none] at heard

/-- Up to the round the poll has read what the socket answered, and goes on behind it. -/
theorem hearLoop_reads {size : Nat} {tcp rest : List TcpRead} {round : Option PollRead × TlsReader} (more : List TcpRead)
    (heard : hearLoop crypto stream size tcp = some (round,rest)) :
    readLoop crypto stream size (tcp ++ more) = finishPoll crypto size round (rest ++ more) := by
  induction tcp generalizing stream with
  | nil => cases heard
  | cons answer tcp ih =>
    rw [hearLoop] at heard
    rw [List.cons_append,readLoop]
    cases called : readRound crypto stream size answer with
    | error panic =>
      rw [called] at heard
      cases heard
    | ok reply =>
      obtain ⟨found,next⟩ := reply
      rw [called] at heard
      dsimp only at heard
      split at heard
      · cases heard
        cases found <;> rfl
      · split at heard
        · rename_i none
          subst none
          exact ih heard
        · cases heard

theorem hearPoll_reads {size : Nat} {tcp rest : List TcpRead} {round : Option PollRead × TlsReader} (more : List TcpRead)
    (heard : hearPoll crypto stream size tcp = some (round,rest)) :
    pollRead crypto stream size (tcp ++ more) = finishPoll crypto size round (rest ++ more) := by
  unfold hearPoll at heard
  split at heard
  · rename_i asks
    obtain ⟨empty,waiting,-⟩ := asks
    rw [pollRead_empty empty,readSocket,compacted,if_neg (by simp [waiting])]
    exact hearLoop_reads more heard
  · cases heard

/-- Any reads of a stream, up to the round of a poll in which the alert is processed: what they
and that round leave is all of the application data before the alert and nothing else, and the
rest of that poll and all later ones report the end without the socket exactly when the socket
ends there too. -/
theorem close_reported_iff (lawful : crypto.Lawful) {key : AeadKey} {iv : Bytes} {inners : List Inner} {records : List Bytes}
    {tcp : List TcpRead} {unread : Bytes} (waits : stream.Waits crypto key iv inners records (received tcp ++ unread)) {sizes : List Nat}
    (room : ∀ size ∈ sizes, 0 < size) {results : List PollRead} {before : TlsReader} {later : List TcpRead}
    (ran : pollAll crypto stream tcp sizes = .ok (results,before,later)) {size : Nat} (space : 0 < size)
    {round : Option PollRead × TlsReader} (heard : hearPoll crypto before size later = some (round,[])) (more : List TcpRead) :
    pollRead crypto before size (later ++ more) = finishPoll crypto size round more ∧
    ((∃ owed, delivered results ++ owed = stream.held ++ appContent ((beforeClose inners).map Inner.opened) ∧
      EndsFrom crypto size round more owed) ↔ EndNext more) := by
  refine ⟨hearPoll_reads more heard,?_⟩
  have hears : Hears crypto key iv (survey inners).2 (received tcp ++ unread) (stream.held ++ (survey inners).1) stream :=
    .running waits rfl rfl
  unfold hearPoll at heard
  split at heard
  · rename_i asks
    obtain ⟨empty,waiting,silent⟩ := asks
    obtain failed | ⟨still,owes,running⟩ := hears.run lawful room ran
    · have deaf := @Failed.deaf crypto before.compacted failed size later
      exact absurd (deaf.symm.trans heard) nofun
    · have closing := hearLoop_heard lawful running.compacted ((compacted_held before).trans empty) waiting silent space heard
      have content := (survey_spec inners).2 (by rw [closing.closes]; decide)
      rw [← content,owes]
      constructor
      · rintro ⟨owed,same,ends⟩
        rw [List.append_cancel_left_eq] at same
        rw [same] at ends
        exact (closing.ends_iff more).mp ends
      · exact fun ended => ⟨still,rfl,(closing.ends_iff more).mpr ended⟩
  · cases heard

end Closing

section Sample

def sampleStream : TlsReader := ⟨[],sampleListener,false⟩

def sampleTcp : List TcpRead := [.ok ⟨sampleRecords.flatten,by decide⟩]

theorem sampleStream_waits : sampleStream.Waits sampleCrypto sampleKey sampleIv sampleInners sampleRecords (received sampleTcp ++ []) := by
  refine ⟨?_,rfl,fun _ => rfl⟩
  have awaits := sampleListener_listens.awaits sampleRecords_sealed (by decide) (by decide)
  rw [List.append_nil]
  exact awaits

/-- The round that reads the records: it finds their data and hears the alert. -/
def sampleRound : Option PollRead × TlsReader :=
  match hearPoll sampleCrypto sampleStream 16 sampleTcp with
  | some (round,_) => round
  | none => (none,sampleStream)

theorem sampleRound_heard : hearPoll sampleCrypto sampleStream 16 sampleTcp = some (sampleRound,[]) := by decide +kernel

theorem sampleRound_owes {owed : Bytes} (same : delivered [] ++ owed =
    sampleStream.held ++ appContent ((beforeClose sampleInners).map Inner.opened)) : owed = [104,0,105] := by
  have all : sampleStream.held ++ appContent ((beforeClose sampleInners).map Inner.opened) = [104,0,105] := by decide +kernel
  rw [all] at same
  exact same

/-- The server ends the connection behind its alert. -/
theorem sampleRound_ends : EndsFrom sampleCrypto 16 sampleRound [.ok ⟨[],by decide⟩] [104,0,105] := by
  obtain ⟨owed,same,ends⟩ := (close_reported_iff sampleCrypto_lawful sampleStream_waits (List.forall_mem_nil _)
    (by rfl) (by decide) sampleRound_heard [.ok ⟨[],by decide⟩]).2.mpr ⟨_,_,rfl,rfl⟩
  cases sampleRound_owes same
  exact ends

/-- The server keeps the connection open behind its alert: all has been delivered, and the
next read waits for the socket. -/
theorem sampleRound_waits : sampleStream.Waits sampleCrypto sampleKey sampleIv sampleInners sampleRecords (received sampleTcp ++ []) ∧
    hearPoll sampleCrypto sampleStream 16 sampleTcp = some (sampleRound,[]) ∧
    ¬ ∃ owed, delivered [] ++ owed =
        sampleStream.held ++ appContent ((beforeClose sampleInners).map Inner.opened) ∧ EndsFrom sampleCrypto 16 sampleRound [] owed := by
  refine ⟨sampleStream_waits,sampleRound_heard,?_⟩
  rintro ⟨owed,-,ends⟩
  obtain ⟨result,next,later,results,after,rest,finished,ran,serves,-⟩ := ends [16] (by decide)
  have found : sampleRound = (some (.ready (.ok [104,0,105])),sampleRound.2) := by decide +kernel
  rw [found] at finished
  simp only [finishPoll,Except.ok.injEq,Prod.mk.injEq] at finished
  obtain ⟨-,rfl,rfl⟩ := finished
  have waits : (pollAll sampleCrypto sampleRound.2 [] [16]).toOption.map (·.1) = some [.pending] := by decide +kernel
  rw [ran] at waits
  simp only [Except.toOption,Option.map_some,Option.some.injEq] at waits
  subst waits
  obtain ⟨_,_,-,-,-,_,_,impossible,-⟩ := serves
  cases impossible

end Sample

end TlsReader

end Dynet.Vless
