import Dynet.Vless.Reality.Connection

/-! The receiving side of a completed connection. The records of a server arrive in
reads of any size; the application takes the plaintext out whenever there is some, as
`wants_read` asks it to. -/
namespace Dynet.Vless.Reality
open Dynet.Lib.Checks
open Dynet.Lib.Framing

/-- What an opened record does to the connection. -/
inductive Effect where
  | deliver (bytes : Bytes)
  | skip
  | close
  | panic
  deriving DecidableEq, Repr

/-- An alert of two bytes closes the connection unless it is a warning. -/
def alertEffect : Bytes → Effect
  | level::desc::_ => if desc = alertDescCloseNotify ∨ level ≠ alertLevelWarning then .close else .skip
  | _ => .skip

def Inner.effect (inner : Inner) : Effect :=
  if inner.contentType = contentTypeApplicationData then .deliver inner.content
  else if inner.contentType = contentTypeAlert then alertEffect inner.content
  else .panic

inductive Fate where
  | running
  | closed
  | panicked
  deriving DecidableEq, Repr

/-- The application data of a list of records up to the one that ends the connection. -/
def survey : List Inner → Bytes × Fate
  | [] => ([],.running)
  | inner::inners => match inner.effect with
    | .deliver bytes => (bytes ++ (survey inners).1,(survey inners).2)
    | .skip => survey inners
    | .close => ([],.closed)
    | .panic => ([],.panicked)

/-- What the first records do decides, unless the connection is still running. -/
theorem survey_append (first second : List Inner) :
    survey (first ++ second) = match survey first with
      | (bytes,.running) => (bytes ++ (survey second).1,(survey second).2)
      | stopped => stopped := by
  induction first with
  | nil => rfl
  | cons inner first ih =>
    rw [List.cons_append,survey,survey,ih]
    generalize survey first = rest
    obtain ⟨bytes,fate⟩ := rest
    cases inner.effect <;> cases fate <;> simp

/-- An alert that ends the connection: what a peer sends behind it is to be ignored. -/
def Inner.closes (inner : Inner) : Bool := inner.effect = .close

def beforeClose (inners : List Inner) : List Inner := inners.takeWhile fun inner => !inner.closes

theorem effect_panic_iff (inner : Inner) : inner.effect = .panic ↔ inner.contentType = contentTypeHandshake := by
  rw [Inner.effect]
  rcases inner.known with handshake | data | alert
  · simp [handshake,show contentTypeHandshake ≠ contentTypeApplicationData by decide,
      show contentTypeHandshake ≠ contentTypeAlert by decide]
  · simp [data,show contentTypeApplicationData ≠ contentTypeHandshake by decide]
  · simp only [alert,show contentTypeAlert ≠ contentTypeApplicationData by decide,
      show contentTypeAlert ≠ contentTypeHandshake by decide,if_false,if_true,iff_false]
    unfold alertEffect
    split
    · split <;> simp
    · simp

theorem effect_deliver_iff (inner : Inner) (bytes : Bytes) :
    inner.effect = .deliver bytes ↔ inner.contentType = contentTypeApplicationData ∧ inner.content = bytes := by
  rw [Inner.effect]
  split
  next data => simp [data]
  next other =>
    simp only [other,false_and,iff_false]
    split
    · unfold alertEffect
      split
      · split <;> simp
      · simp
    · simp

/-- The survey in plain words: a handshake record before the closing alert is fatal to the
client, and otherwise the application data before it is delivered. -/
theorem survey_spec (inners : List Inner) :
    ((survey inners).2 = .panicked ↔ ∃ inner ∈ beforeClose inners, inner.contentType = contentTypeHandshake) ∧
    ((survey inners).2 ≠ .panicked → (survey inners).1 = appContent ((beforeClose inners).map Inner.opened)) := by
  induction inners with
  | nil => simp [survey,beforeClose,appContent]
  | cons inner inners ih =>
    rw [survey,beforeClose]
    cases effect : inner.effect with
    | deliver bytes =>
      obtain ⟨data,rfl⟩ := (effect_deliver_iff inner bytes).mp effect
      have stays : inner.closes = false := by simp [Inner.closes,effect]
      have other : inner.contentType ≠ contentTypeHandshake := by
        rw [data]
        decide
      rw [List.takeWhile_cons_of_pos (by simp [stays])]
      constructor
      · simp only [List.mem_cons,exists_eq_or_imp,other,false_or]
        exact ih.1
      · intro fine
        rw [List.map_cons,← List.singleton_append,appContent_append,← beforeClose,← ih.2 fine]
        simp [appContent,Inner.opened,data]
    | skip =>
      have stays : inner.closes = false := by simp [Inner.closes,effect]
      have other : inner.contentType ≠ contentTypeHandshake := by
        intro handshake
        rw [(effect_panic_iff inner).mpr handshake] at effect
        cases effect
      have silent : inner.contentType ≠ contentTypeApplicationData := by
        intro data
        rw [(effect_deliver_iff inner inner.content).mpr ⟨data,rfl⟩] at effect
        cases effect
      rw [List.takeWhile_cons_of_pos (by simp [stays])]
      constructor
      · simp only [List.mem_cons,exists_eq_or_imp,other,false_or]
        exact ih.1
      · intro fine
        rw [List.map_cons,← List.singleton_append,appContent_append,← beforeClose,← ih.2 fine]
        simp [appContent,Inner.opened,silent]
    | close =>
      rw [List.takeWhile_cons_of_neg (by simp [Inner.closes,effect])]
      simp [appContent]
    | panic =>
      have stays : inner.closes = false := by simp [Inner.closes,effect]
      rw [List.takeWhile_cons_of_pos (by simp [stays])]
      simp [(effect_panic_iff inner).mp effect]

namespace RealityClientConnection

/-- What the loop does with a record of each sort, while the plaintext has room. -/
def Handles (conn : RealityClientConnection) (inner : Inner) (n : Nat) : Effect → Prop
  | .deliver bytes => ∃ plain : SlideBuffer, processRecord conn inner.contentType inner.content n =
      .ok (none,{conn with plaintextReadBuf := plain, ciphertextReadBuf := conn.ciphertextReadBuf.consume n}) ∧
      plain.bytes = conn.plaintextReadBuf.bytes ++ bytes ∧ plain.start = 0 ∧
      plain.capacity = conn.plaintextReadBuf.capacity
  | .skip => processRecord conn inner.contentType inner.content n =
      .ok (none,{conn with ciphertextReadBuf := conn.ciphertextReadBuf.consume n})
  | .close => processRecord conn inner.contentType inner.content n =
      .ok (some (.ok ()),{conn with receivedCloseNotify := true}) ∨
    ∃ e : IoError, e.kind = .connectionAborted ∧
      processRecord conn inner.contentType inner.content n = .ok (some (.error e),conn)
  | .panic => processRecord conn inner.contentType inner.content n = .error .unreachable

theorem processAlert_effect (conn : RealityClientConnection) (content : Bytes) (n : Nat) :
    match alertEffect content with
    | .skip => conn.processAlert content n = (none,{conn with ciphertextReadBuf := conn.ciphertextReadBuf.consume n})
    | .close => conn.processAlert content n = (some (.ok ()),{conn with receivedCloseNotify := true}) ∨
      ∃ e : IoError, e.kind = .connectionAborted ∧ conn.processAlert content n = (some (.error e),conn)
    | _ => False := by
  rcases content with _ | ⟨level,_ | ⟨desc,rest⟩⟩
  · rfl
  · rfl
  · rw [alertEffect]
    by_cases notify : desc = alertDescCloseNotify
    · rw [if_pos (.inl notify)]
      exact .inl (if_pos notify)
    · by_cases serious : level ≠ alertLevelWarning
      · rw [if_pos (.inr serious)]
        exact .inr ⟨_,rfl,(if_neg notify).trans (if_pos serious)⟩
      · rw [if_neg (by simp only [not_or]; exact ⟨notify,serious⟩)]
        exact (if_neg notify).trans (if_neg serious)

theorem processRecord_effect (conn : RealityClientConnection) (inner : Inner) (n : Nat)
    (front : conn.plaintextReadBuf.start = 0)
    (room : conn.plaintextReadBuf.len + inner.content.length ≤ conn.plaintextReadBuf.capacity) :
    conn.Handles inner n inner.effect := by
  rw [Inner.effect]
  by_cases data : inner.contentType = contentTypeApplicationData
  · rw [if_pos data]
    have still : conn.plaintextReadBuf.maybeCompact 4096 = conn.plaintextReadBuf := by
      rw [SlideBuffer.maybeCompact,front,if_neg (by omega)]
    obtain ⟨plain,extended⟩ : ∃ plain, conn.plaintextReadBuf.extendFromSlice inner.content = .ok plain := by
      rw [SlideBuffer.extendFromSlice,dif_pos (by rw [List.length_append,front]; rw [SlideBuffer.len] at room; omega)]
      exact ⟨_,rfl⟩
    obtain ⟨_,capacity,start,bytes⟩ := (SlideBuffer.extendFromSlice_ok_iff _ _ _).mp extended
    refine ⟨plain,?_,bytes,start.trans front,capacity⟩
    rw [processRecord,if_pos data,still,extended]
  rw [if_neg data]
  by_cases alert : inner.contentType = contentTypeAlert
  · rw [if_pos alert]
    have call : processRecord conn inner.contentType inner.content n = .ok (conn.processAlert inner.content n) :=
      (if_neg data).trans (if_pos alert)
    have handled := conn.processAlert_effect inner.content n
    generalize alertEffect inner.content = effect at handled
    cases effect with
    | deliver bytes => exact handled.elim
    | skip => exact call.trans (congrArg Except.ok handled)
    | close =>
      rcases handled with notify | ⟨e,kind,fatal⟩
      · exact .inl (call.trans (congrArg Except.ok notify))
      · exact .inr ⟨e,kind,call.trans (congrArg Except.ok fatal)⟩
    | panic => exact handled.elim
  · rw [if_neg alert]
    exact (if_neg data).trans (if_neg alert)

/-- The loop over the records of a buffer, against their survey. -/
def Surveyed (conn : RealityClientConnection) (count : Nat) (part delivered : Bytes) (answer : Answer Unit) : Fate → Prop
  | .running => ∃ plain cipher : SlideBuffer, answer = .ok (.ok (),{conn with
      readSeq := conn.readSeq + count
      plaintextReadBuf := plain
      ciphertextReadBuf := cipher}) ∧
    plain.bytes = conn.plaintextReadBuf.bytes ++ delivered ∧ plain.start = 0 ∧
    plain.capacity = conn.plaintextReadBuf.capacity ∧ cipher.bytes = part ∧
    cipher.capacity = conn.ciphertextReadBuf.capacity
  | .closed => ∃ result after, answer = .ok (result,after) ∧
    after.plaintextReadBuf.bytes = conn.plaintextReadBuf.bytes ++ delivered ∧
    ((result = .ok () ∧ after.receivedCloseNotify = true) ∨
      ∃ e : IoError, e.kind = .connectionAborted ∧ result = .error e)
  | .panicked => answer = .error .unreachable

theorem processRecords_opened {crypto : Crypto} {key : AeadKey} {iv : Bytes} {conn : RealityClientConnection}
    {n seq : Nat} {contentType : UInt8} {plaintext : Bytes} (item : frameCut conn.ciphertextReadBuf.bytes = .item n)
    (opens : decryptRecordInPlace crypto key iv conn.readSeq
      ((conn.ciphertextReadBuf.bytes.take n).drop tlsRecordHeaderSize) = (.ok (contentType,plaintext),seq))
    (rounds : Nat) :
    processRecords crypto key iv conn (rounds+1) =
      proceed (fun conn => processRecords crypto key iv conn rounds)
        (processRecord {conn with readSeq := seq} contentType plaintext n) := by
  rw [processRecords,firstRecord_item item]
  simp only [opens]

theorem processRecords_flags {crypto : Crypto} {key : AeadKey} {iv : Bytes} {conn after : RealityClientConnection} {rounds : Nat}
    {result : Except IoError Unit} (ran : processRecords crypto key iv conn rounds = .ok (result,after)) :
    after.fatalError = conn.fatalError ∧ (after.receivedCloseNotify = conn.receivedCloseNotify ∨ result = .ok ()) := by
  induction rounds generalizing conn with
  | zero =>
    cases ran
    exact ⟨rfl,.inl rfl⟩
  | succ rounds ih =>
    rw [processRecords] at ran
    split at ran
    · cases ran
      exact ⟨rfl,.inl rfl⟩
    next payload n _ =>
      split at ran
      · cases ran
        exact ⟨rfl,.inl rfl⟩
      next contentType plaintext seq _ =>
        have kept (found : Option (Except IoError Unit)) (next : RealityClientConnection)
            (handled : processRecord {conn with readSeq := seq} contentType plaintext n = .ok (found,next)) :
            next.fatalError = conn.fatalError ∧ (next.receivedCloseNotify = conn.receivedCloseNotify ∨ found = some (.ok ())) := by
          unfold processRecord at handled
          split at handled
          · split at handled
            · cases handled
            · cases handled
              exact ⟨rfl,.inl rfl⟩
          · split at handled
            · unfold processAlert at handled
              repeat' split at handled
              all_goals
                cases handled
                simp
            · cases handled
        cases handled : processRecord {conn with readSeq := seq} contentType plaintext n with
        | error panic =>
          rw [handled] at ran
          cases ran
        | ok answer =>
          obtain ⟨found,next⟩ := answer
          obtain ⟨fatal,close⟩ := kept found next handled
          rw [handled] at ran
          cases found with
          | some result =>
            cases ran
            exact ⟨fatal,close.imp_right Option.some.inj⟩
          | none =>
            obtain ⟨later,closed⟩ := ih ran
            have still : next.receivedCloseNotify = conn.receivedCloseNotify := close.resolve_right (by simp)
            rw [fatal] at later
            rw [still] at closed
            exact ⟨later,closed⟩

section Records
variable {crypto : Crypto} (lawful : crypto.Lawful) {key : AeadKey} {iv : Bytes}
include lawful

theorem processRecords_survey {inners : List Inner} {records : List Bytes} {part : Bytes} (rounds : Nat)
    (conn : RealityClientConnection) (sealed : SealedFrom crypto key iv conn.readSeq inners records)
    (count : conn.readSeq + inners.length < 2^64)
    (small : ∀ inner ∈ inners, inner.plaintext.length + 16 ≤ maxTlsCiphertextLen)
    (buffered : conn.ciphertextReadBuf.bytes = records.flatten ++ part) (cut : frameCut part = .more)
    (front : conn.plaintextReadBuf.start = 0)
    (room : conn.plaintextReadBuf.len + records.flatten.length ≤ conn.plaintextReadBuf.capacity)
    (enough : records.length < rounds) :
    conn.Surveyed inners.length part (survey inners).1 (processRecords crypto key iv conn rounds) (survey inners).2 := by
  induction rounds generalizing conn inners records with
  | zero => omega
  | succ rounds ih =>
    generalize first : conn.readSeq = seq at sealed count
    cases sealed with
    | nil =>
      rw [List.flatten_nil,List.nil_append] at buffered
      rw [processRecords,firstRecord_more (by rw [buffered]; exact cut)]
      exact ⟨conn.plaintextReadBuf,conn.ciphertextReadBuf,rfl,(List.append_nil _).symm,front,rfl,buffered,rfl⟩
    | @cons _ inner record inners records made later =>
      obtain ⟨legal,rest⟩ := List.forall_mem_cons.mp small
      rw [List.length_cons] at count
      have length := sealRecord_length lawful made
      have whole := frameCut_sealRecord lawful made (Nat.lt_of_le_of_lt legal (by decide))
      rw [List.flatten_cons,List.append_assoc] at buffered
      rw [List.flatten_cons,List.length_append] at room
      have item : frameCut conn.ciphertextReadBuf.bytes = .item record.length := by
        rw [buffered]
        exact (frameCutter.stable _ (by rw [whole]; exact Cut.noConfusion)).trans whole
      have taken : conn.ciphertextReadBuf.bytes.take record.length = record := by rw [buffered,List.take_left]
      have dropped : (conn.ciphertextReadBuf.consume record.length).bytes = records.flatten ++ part := by
        rw [SlideBuffer.consume_bytes,buffered,List.drop_left]
      have opened := decrypt_sealRecord lawful made (by omega)
      have size : inner.content.length ≤ record.length := by
        rw [length,plaintext_length]
        omega
      have opens : decryptRecordInPlace crypto key iv conn.readSeq
          ((conn.ciphertextReadBuf.bytes.take record.length).drop tlsRecordHeaderSize) =
            (.ok (inner.contentType,inner.content),seq + 1) := by
        rw [taken,first]
        exact opened
      have calls := processRecords_opened item opens rounds
      -- The loop goes on from the connection behind this record.
      have goOn (plain : SlideBuffer) (more : Bytes)
          (handled : processRecord {conn with readSeq := seq + 1} inner.contentType inner.content record.length =
            .ok (none,{conn with
              readSeq := seq + 1
              plaintextReadBuf := plain
              ciphertextReadBuf := conn.ciphertextReadBuf.consume record.length}))
          (grown : plain.bytes = conn.plaintextReadBuf.bytes ++ more) (start : plain.start = 0)
          (kept : plain.capacity = conn.plaintextReadBuf.capacity) (little : more.length ≤ record.length) :
          conn.Surveyed (inners.length + 1) part (more ++ (survey inners).1)
            (processRecords crypto key iv conn (rounds+1)) (survey inners).2 := by
        have next := ih {conn with
            readSeq := seq + 1
            plaintextReadBuf := plain
            ciphertextReadBuf := conn.ciphertextReadBuf.consume record.length}
          later (by change seq + 1 + inners.length < 2^64; omega) rest dropped start
          (by
            change plain.bytes.length + records.flatten.length ≤ plain.capacity
            rw [grown,kept,List.length_append]
            rw [SlideBuffer.len] at room
            omega)
          (by rw [List.length_cons] at enough; omega)
        rw [calls,handled,proceed]
        generalize processRecords crypto key iv _ rounds = answer at next ⊢
        generalize (survey inners).2 = fate at next ⊢
        cases fate with
        | running =>
          obtain ⟨plain',cipher,same,bytes,start,capacity,left,size⟩ := next
          refine ⟨plain',cipher,?_,?_,start,capacity.trans kept,left,size.trans (SlideBuffer.consume_capacity _ _)⟩
          · rw [same,first]
            dsimp only
            rw [Nat.add_assoc,Nat.add_comm 1]
          · rw [bytes]
            dsimp only
            rw [grown,List.append_assoc]
        | closed =>
          obtain ⟨result,after,same,bytes,ended⟩ := next
          refine ⟨result,after,same,?_,ended⟩
          rw [bytes]
          dsimp only
          rw [grown,List.append_assoc]
        | panicked => exact next
      have handles := processRecord_effect {conn with readSeq := seq + 1} inner record.length front
        (by change conn.plaintextReadBuf.len + inner.content.length ≤ conn.plaintextReadBuf.capacity; omega)
      rw [survey]
      generalize effect : inner.effect = what at handles
      cases what with
      | deliver bytes =>
        obtain ⟨plain,handled,grown,start,kept⟩ := handles
        have content : bytes = inner.content := ((effect_deliver_iff inner bytes).mp effect).2.symm
        exact goOn plain bytes handled grown start kept (by rw [content]; exact size)
      | skip => exact goOn conn.plaintextReadBuf [] handles (List.append_nil _).symm front rfl (Nat.zero_le _)
      | close =>
        rcases handles with notify | ⟨e,kind,fatal⟩
        · rw [calls,notify,proceed]
          exact ⟨_,_,rfl,(List.append_nil _).symm,.inl ⟨rfl,rfl⟩⟩
        · rw [calls,fatal,proceed]
          exact ⟨_,_,rfl,(List.append_nil _).symm,.inr ⟨e,kind,rfl⟩⟩
      | panic =>
        rw [calls,handles]
        exact rfl

end Records

/-- A connection and the plaintext the application has taken from it. -/
structure Inbox where
  conn : RealityClientConnection
  delivered : Bytes
  deriving DecidableEq

-- The application reads while `wants_read` tells it to, and takes out what was decrypted.
def receive (crypto : Crypto) (inbox : Inbox) (chunk : Chunk) : Except Panic Inbox :=
  if inbox.conn.wantsRead then
    match inbox.conn.readTls (.ok chunk) with
    | .error panic => .error panic
    | .ok (_,conn) => match conn.processNewPackets crypto with
      | .error panic => .error panic
      | .ok (_,conn) =>
        let read := conn.readerRead conn.plaintextReadBuf.len
        .ok ⟨read.2,inbox.delivered ++ read.1⟩
  else .ok inbox

def receiveAll (crypto : Crypto) : Inbox → List Chunk → Except Panic Inbox
  | inbox, [] => .ok inbox
  | inbox, chunk::chunks => match receive crypto inbox chunk with
    | .error panic => .error panic
    | .ok inbox => receiveAll crypto inbox chunks

/-- A running connection that waits for the rest of the given records. -/
structure Awaits (crypto : Crypto) (key : AeadKey) (iv : Bytes) (inners : List Inner) (records : List Bytes)
    (later : Bytes) (conn : RealityClientConnection) : Prop where
  complete : conn.handshakeState = .complete
  readKey : conn.appReadKey = some key
  readIv : conn.appReadIv = some iv
  running : conn.receivedCloseNotify = false
  healthy : conn.fatalError = none
  sealed : SealedFrom crypto key iv conn.readSeq inners records
  count : conn.readSeq + inners.length < 2^64
  small : ∀ inner ∈ inners, inner.plaintext.length + 16 ≤ maxTlsCiphertextLen
  stream : conn.ciphertextReadBuf.bytes ++ later = records.flatten
  cut : frameCut conn.ciphertextReadBuf.bytes = .more
  cipherCapacity : conn.ciphertextReadBuf.capacity = ciphertextReadBufCapacity
  plainCapacity : conn.plaintextReadBuf.capacity = plaintextReadBufCapacity
  taken : conn.plaintextReadBuf.bytes = []
  front : conn.plaintextReadBuf.start = 0

theorem processNewPackets_complete {crypto : Crypto} {key : AeadKey} {iv : Bytes} {conn : RealityClientConnection}
    (complete : conn.handshakeState = .complete) (readKey : conn.appReadKey = some key)
    (readIv : conn.appReadIv = some iv) (running : conn.receivedCloseNotify = false)
    (healthy : conn.fatalError = none) :
    conn.processNewPackets crypto =
      match processRecords crypto key iv conn (conn.ciphertextReadBuf.len + 1) with
      | .error panic => .error panic
      | .ok (.error e,conn) =>
        .ok (.error e,if fatalKind e.kind then {conn with fatalError := some e.kind} else conn)
      | .ok (.ok (),conn) => .ok (.ok conn.plaintextReadBuf.len,conn) := by
  rw [processNewPackets,healthy]
  simp only [running,Bool.false_eq_true,if_false]
  rw [processNewPacketsInner,if_pos complete]
  simp only [processApplicationData,readKey,readIv]
  generalize processRecords crypto key iv conn (conn.ciphertextReadBuf.len + 1) = answer
  rcases answer with panic | ⟨_ | _,_⟩ <;> rfl

theorem readerRead_all (conn : RealityClientConnection) :
    conn.readerRead conn.plaintextReadBuf.len =
      (conn.plaintextReadBuf.bytes,{conn with plaintextReadBuf := .new conn.plaintextReadBuf.capacity}) := by
  have length : (conn.plaintextReadBuf.maybeCompact 4096).len = conn.plaintextReadBuf.len :=
    congrArg List.length (SlideBuffer.maybeCompact_bytes _ _)
  have emptied : (conn.plaintextReadBuf.maybeCompact 4096).consume conn.plaintextReadBuf.len =
      .new conn.plaintextReadBuf.capacity := by
    rw [SlideBuffer.consume,dif_neg (by omega),SlideBuffer.new]
    simp only [SlideBuffer.maybeCompact_capacity]
  rw [readerRead,length,Nat.min_self,emptied,SlideBuffer.maybeCompact_bytes,SlideBuffer.len,List.take_length]

section Run
variable {crypto : Crypto} {key : AeadKey} {iv later : Bytes} {inners : List Inner} {records : List Bytes}
  {conn : RealityClientConnection} {chunk : Chunk}

theorem Awaits.wantsRead (awaits : conn.Awaits crypto key iv inners records later) : conn.wantsRead = true := by
  simp [RealityClientConnection.wantsRead,isHandshaking,awaits.running,awaits.healthy,awaits.complete,awaits.taken]

theorem flatten_length_le {records : List Bytes} (solid : ∀ record ∈ records, record ≠ []) :
    records.length ≤ records.flatten.length := by
  induction records with
  | nil => simp
  | cons record records ih =>
    obtain ⟨first,rest⟩ := List.forall_mem_cons.mp solid
    have := ih rest
    have := List.length_pos_iff.mpr first
    rw [List.length_cons,List.flatten_cons,List.length_append]
    omega

/-- A read in a stream of legal records: whole records and the front of the next. -/
theorem readTls_frames {records : List Bytes} {conn : RealityClientConnection} {chunk : Chunk} {later : Bytes}
    (framed : ∀ record ∈ records, frameCutter.cut record = .item record.length ∧
      (record.drop 5).length ≤ maxTlsCiphertextLen)
    (cut : frameCut conn.ciphertextReadBuf.bytes = .more)
    (cipherCapacity : conn.ciphertextReadBuf.capacity = ciphertextReadBufCapacity)
    (stream : conn.ciphertextReadBuf.bytes ++ (chunk.bytes ++ later) = records.flatten) :
    ∃ (buf : SlideBuffer) (whole rest : List Bytes) (part : Bytes),
      conn.readTls (.ok chunk) = .ok (.ok chunk.bytes.length,{conn with ciphertextReadBuf := buf}) ∧
      buf.capacity = conn.ciphertextReadBuf.capacity ∧ records = whole ++ rest ∧ buf.bytes = whole.flatten ++ part ∧
      frameCut part = .more ∧ part ++ later = rest.flatten ∧ whole.length < buf.len + 1 := by
  have held := frames_part_length framed cut stream
  have fits := chunk.fits
  have double : ciphertextReadBufCapacity = tlsMaxRecordSize * 2 := rfl
  have room : conn.ciphertextReadBuf.len + chunk.bytes.length ≤ conn.ciphertextReadBuf.capacity := by
    rw [SlideBuffer.len,cipherCapacity]
    omega
  obtain ⟨buf,call,bytes,capacity⟩ := conn.readTls_room chunk room
  rw [← List.append_assoc,← bytes] at stream
  obtain ⟨whole,rest,part,rfl,filled,cut,ahead⟩ := frames_split (fun record member => (framed record member).1) stream
  refine ⟨buf,whole,rest,part,call,capacity,rfl,filled,cut,ahead,?_⟩
  have solid : ∀ record ∈ whole, record ≠ [] := by
    rintro record member rfl
    have item := (framed [] (List.mem_append_left _ member)).1
    cases item
  have := flatten_length_le solid
  rw [SlideBuffer.len,filled,List.length_append]
  omega

theorem records_nil {records : List Bytes} {part : Bytes}
    (framed : ∀ record ∈ records, frameCutter.cut record = .item record.length) (cut : frameCut part = .more)
    (stream : part = records.flatten) : records = [] := by
  rcases records with _ | ⟨record,records⟩
  · rfl
  · have whole := framed record List.mem_cons_self
    rw [stream,List.flatten_cons] at cut
    have item := frameCutter.stable records.flatten (by rw [whole]; exact Cut.noConfusion)
    rw [whole] at item
    cases cut.symm.trans item

/-- The packets of one read of an awaited stream are processed: the records it completes
have their effect, and the plaintext waits for the application. -/
def Processed (crypto : Crypto) (key : AeadKey) (iv later : Bytes) (left : List Inner) (records : List Bytes) (bytes : Bytes)
    (answer : Answer Nat) : Fate → Prop
  | .running => ∃ after, answer = .ok (.ok after.plaintextReadBuf.len,after) ∧ after.plaintextReadBuf.bytes = bytes ∧
    after.plaintextReadBuf.start = 0 ∧ after.plaintextReadBuf.capacity = plaintextReadBufCapacity ∧
    RealityClientConnection.Awaits crypto key iv left records later
      {after with plaintextReadBuf := .new after.plaintextReadBuf.capacity}
  | .closed => ∃ result after, answer = .ok (result,after) ∧ after.plaintextReadBuf.bytes = bytes ∧
    (result = .ok after.plaintextReadBuf.len ∧ after.receivedCloseNotify = true ∧ after.fatalError = none ∨
      ∃ e, result = .error e ∧ after.receivedCloseNotify = false ∧ after.fatalError ≠ none)
  | .panicked => answer = .error .unreachable

/-- One read of an awaited stream, whose plaintext is taken out at once. -/
def Receives (crypto : Crypto) (key : AeadKey) (iv later : Bytes)
    (left : List Inner) (records : List Bytes) (delivered bytes : Bytes) (answer : Except Panic Inbox) : Fate → Prop
  | .running => ∃ after : RealityClientConnection, answer = .ok ⟨after,delivered ++ bytes⟩ ∧
    after.Awaits crypto key iv left records later
  | .closed => ∃ after : RealityClientConnection, answer = .ok ⟨after,delivered ++ bytes⟩ ∧ after.wantsRead = false
  | .panicked => answer = .error .unreachable

variable (lawful : crypto.Lawful)
include lawful

theorem Awaits.process (awaits : conn.Awaits crypto key iv inners records (chunk.bytes ++ later)) :
    ∃ buf done left rest, inners = done ++ left ∧
      conn.readTls (.ok chunk) = .ok (.ok chunk.bytes.length,{conn with ciphertextReadBuf := buf}) ∧
      Processed crypto key iv later left rest (survey done).1
        (processNewPackets crypto {conn with ciphertextReadBuf := buf}) (survey done).2 := by
  have framed := awaits.sealed.frames lawful awaits.small
  have same : plaintextReadBufCapacity = ciphertextReadBufCapacity := rfl
  obtain ⟨buf,whole,rest,part,call,capacity,rfl,filled,cut,ahead,rounds⟩ :=
    readTls_frames framed awaits.cut awaits.cipherCapacity awaits.stream
  obtain ⟨done,left,rfl,front,back⟩ := awaits.sealed.split
  obtain ⟨smallDone,smallLeft⟩ := List.forall_mem_append.mp awaits.small
  have total := awaits.count
  rw [List.length_append] at total
  have inside : whole.flatten.length ≤ ciphertextReadBufCapacity := by
    have limit := buf.fits
    rw [filled,List.length_append,capacity,awaits.cipherCapacity] at limit
    omega
  have surveyed := processRecords_survey lawful (buf.len + 1) {conn with ciphertextReadBuf := buf} front
    (by change conn.readSeq + done.length < 2^64; omega) smallDone filled cut awaits.front
    (by
      change conn.plaintextReadBuf.bytes.length + whole.flatten.length ≤ conn.plaintextReadBuf.capacity
      rw [awaits.taken,awaits.plainCapacity,List.length_nil]
      omega)
    rounds
  have process : RealityClientConnection.processNewPackets crypto {conn with ciphertextReadBuf := buf} = _ :=
    processNewPackets_complete awaits.complete awaits.readKey awaits.readIv awaits.running awaits.healthy
  have flags {after : RealityClientConnection} {result : Except IoError Unit} :=
    @processRecords_flags crypto key iv {conn with ciphertextReadBuf := buf} after (buf.len + 1) result
  refine ⟨buf,done,left,rest,rfl,call,?_⟩
  rw [process]
  generalize processRecords crypto key iv {conn with ciphertextReadBuf := buf} (buf.len + 1) = answer at surveyed flags ⊢
  generalize (survey done).2 = fate at surveyed ⊢
  cases fate with
  | running =>
    obtain ⟨plain,cipher,rfl,grown,start,kept,remains,size⟩ := surveyed
    refine ⟨_,rfl,?_,start,kept.trans awaits.plainCapacity,awaits.complete,awaits.readKey,awaits.readIv,awaits.running,awaits.healthy,
      back,?_,smallLeft,?_,?_,?_,?_,rfl,rfl⟩
    · dsimp only
      rw [grown]
      dsimp only
      rw [awaits.taken,List.nil_append]
    · change conn.readSeq + done.length + left.length < 2^64
      omega
    · dsimp only
      rw [remains]
      exact ahead
    · dsimp only
      rw [remains]
      exact cut
    · exact size.trans (capacity.trans awaits.cipherCapacity)
    · exact kept.trans awaits.plainCapacity
  | closed =>
    obtain ⟨result,after,rfl,grown,ended⟩ := surveyed
    obtain ⟨fatal,close⟩ := flags rfl
    have content : after.plaintextReadBuf.bytes = (survey done).1 := by
      rw [grown]
      dsimp only
      rw [awaits.taken,List.nil_append]
    rcases ended with ⟨rfl,notified⟩ | ⟨e,kind,rfl⟩
    · exact ⟨_,_,rfl,content,.inl ⟨rfl,notified,fatal.trans awaits.healthy⟩⟩
    · have serious : fatalKind e.kind = true := by
        rw [kind]
        rfl
      simp only [serious,if_true]
      exact ⟨_,_,rfl,content,.inr ⟨e,rfl,(close.resolve_right (by simp)).trans awaits.running,by simp⟩⟩
  | panicked =>
    subst surveyed
    rfl

theorem Awaits.receive (awaits : conn.Awaits crypto key iv inners records (chunk.bytes ++ later)) (delivered : Bytes) :
    ∃ done left rest, inners = done ++ left ∧
      Receives crypto key iv later left rest delivered (survey done).1 (receive crypto ⟨conn,delivered⟩ chunk)
        (survey done).2 := by
  obtain ⟨buf,done,left,rest,rfl,call,processed⟩ := awaits.process lawful
  have step : receive crypto ⟨conn,delivered⟩ chunk =
      match RealityClientConnection.processNewPackets crypto {conn with ciphertextReadBuf := buf} with
      | .error panic => .error panic
      | .ok (_,conn) => .ok ⟨{conn with plaintextReadBuf := .new conn.plaintextReadBuf.capacity},
          delivered ++ conn.plaintextReadBuf.bytes⟩ := by
    rw [RealityClientConnection.receive,if_pos awaits.wantsRead,call]
    simp only [readerRead_all]
  refine ⟨done,left,rest,rfl,?_⟩
  rw [step]
  generalize RealityClientConnection.processNewPackets crypto {conn with ciphertextReadBuf := buf} = answer at processed ⊢
  generalize (survey done).2 = fate at processed ⊢
  cases fate with
  | running =>
    obtain ⟨after,rfl,content,-,-,next⟩ := processed
    refine ⟨_,?_,next⟩
    dsimp only
    rw [content]
  | closed =>
    obtain ⟨result,after,rfl,content,ended⟩ := processed
    refine ⟨{after with plaintextReadBuf := .new after.plaintextReadBuf.capacity},?_,?_⟩
    · dsimp only
      rw [content]
    · rcases ended with ⟨-,notified,-⟩ | ⟨e,-,-,fatal⟩
      · simp [RealityClientConnection.wantsRead,notified]
      · obtain ⟨kind,failed⟩ := Option.ne_none_iff_exists'.mp fatal
        simp [RealityClientConnection.wantsRead,failed]
  | panicked =>
    cases processed
    rfl

omit lawful in
theorem receiveAll_stopped {conn : RealityClientConnection} (stopped : conn.wantsRead = false) (delivered : Bytes)
    (chunks : List Chunk) : receiveAll crypto ⟨conn,delivered⟩ chunks = .ok ⟨conn,delivered⟩ := by
  induction chunks with
  | nil => rfl
  | cons chunk chunks ih =>
    have idle : receive crypto ⟨conn,delivered⟩ chunk = .ok ⟨conn,delivered⟩ := by
      simp [RealityClientConnection.receive,stopped]
    rw [receiveAll,idle]
    exact ih

theorem Awaits.receiveAll {chunks : List Chunk}
    (awaits : conn.Awaits crypto key iv inners records (chunks.map (·.bytes)).flatten) (delivered : Bytes) :
    ((survey inners).2 = .panicked → receiveAll crypto ⟨conn,delivered⟩ chunks = .error .unreachable) ∧
    ((survey inners).2 ≠ .panicked →
      ∃ after, receiveAll crypto ⟨conn,delivered⟩ chunks = .ok ⟨after,delivered ++ (survey inners).1⟩) := by
  induction chunks generalizing conn inners records delivered with
  | nil =>
    -- Nothing follows, so no record is left: a last record would be whole.
    have framed := awaits.sealed.frames lawful awaits.small
    have stream := awaits.stream
    rw [List.map_nil,List.flatten_nil,List.append_nil] at stream
    have last := records_nil (fun record member => (framed record member).1) awaits.cut stream
    have none : inners = [] := by
      have length := awaits.sealed.length
      rw [last] at length
      exact List.length_eq_zero_iff.mp length.symm
    subst none
    constructor
    · intro impossible
      cases impossible
    · intro _
      refine ⟨conn,?_⟩
      rw [RealityClientConnection.receiveAll,survey,List.append_nil]
  | cons chunk chunks ih =>
    rw [List.map_cons,List.flatten_cons] at awaits
    obtain ⟨done,left,rest,rfl,received⟩ := awaits.receive lawful delivered
    rw [survey_append,RealityClientConnection.receiveAll]
    generalize RealityClientConnection.receive crypto ⟨conn,delivered⟩ chunk = answer at received ⊢
    generalize survey done = result at received ⊢
    obtain ⟨bytes,fate⟩ := result
    cases fate with
    | running =>
      obtain ⟨after,rfl,next⟩ := received
      obtain ⟨panics,runs⟩ := ih next (delivered ++ bytes)
      refine ⟨panics,fun fine => ?_⟩
      obtain ⟨final,run⟩ := runs fine
      refine ⟨final,?_⟩
      rw [List.append_assoc] at run
      exact run
    | closed =>
      obtain ⟨after,rfl,stopped⟩ := received
      constructor
      · intro impossible
        cases impossible
      · intro _
        exact ⟨after,receiveAll_stopped stopped _ _⟩
    | panicked =>
      cases received
      exact ⟨fun _ => rfl,fun fine => absurd rfl fine⟩

end Run

/-- A connection whose handshake has just completed, with nothing read beyond it. -/
structure Listens (conn : RealityClientConnection) (key : AeadKey) (iv : Bytes) : Prop where
  complete : conn.handshakeState = .complete
  readKey : conn.appReadKey = some key
  readIv : conn.appReadIv = some iv
  running : conn.receivedCloseNotify = false
  healthy : conn.fatalError = none
  first : conn.readSeq = 0
  cipher : conn.ciphertextReadBuf.bytes = []
  cipherCapacity : conn.ciphertextReadBuf.capacity = ciphertextReadBufCapacity
  plain : conn.plaintextReadBuf = .new plaintextReadBufCapacity

theorem Listens.awaits {crypto : Crypto} {conn : RealityClientConnection} {key : AeadKey} {iv : Bytes} (listens : conn.Listens key iv)
    {inners : List Inner} {records : List Bytes} (sealed : SealedFrom crypto key iv 0 inners records) (count : inners.length < 2^64)
    (small : ∀ inner ∈ inners, inner.plaintext.length + 16 ≤ maxTlsCiphertextLen) :
    conn.Awaits crypto key iv inners records records.flatten where
  complete := listens.complete
  readKey := listens.readKey
  readIv := listens.readIv
  running := listens.running
  healthy := listens.healthy
  sealed := by rw [listens.first]; exact sealed
  count := by rw [listens.first,Nat.zero_add]; exact count
  small := small
  stream := by rw [listens.cipher,List.nil_append]
  cut := by rw [listens.cipher]; rfl
  cipherCapacity := listens.cipherCapacity
  plainCapacity := by rw [listens.plain]; rfl
  taken := by rw [listens.plain]; rfl
  front := by rw [listens.plain]; rfl

theorem completeHandshake_listens {crypto : Crypto} (lawful : crypto.Lawful) {conn after : RealityClientConnection}
    {state : Handshaking} (done : completeHandshake crypto conn state = (.ok (),after))
    (running : conn.receivedCloseNotify = false) (healthy : conn.fatalError = none)
    (cipher : conn.ciphertextReadBuf.bytes = [])
    (cipherCapacity : conn.ciphertextReadBuf.capacity = ciphertextReadBufCapacity)
    (plain : conn.plaintextReadBuf = .new plaintextReadBufCapacity) : ∃ key iv, after.Listens key iv := by
  obtain ⟨_,_,_,readKey,readIv,_,_,rfl⟩ := completeHandshake_ok lawful done
  exact ⟨readKey,readIv,rfl,rfl,rfl,running,healthy,rfl,cipher,cipherCapacity,plain⟩

/-- The records of a server are taken in order, whatever their content, padding and cut
into reads, exactly when no handshake record comes before the alert that closes the
connection. -/
theorem records_delivered_iff_no_handshake {crypto : Crypto} (lawful : crypto.Lawful) {conn : RealityClientConnection}
    {key : AeadKey} {iv : Bytes} (listens : conn.Listens key iv) {inners : List Inner} {records : List Bytes}
    (sealed : SealedFrom crypto key iv 0 inners records) (count : inners.length < 2^64)
    (small : ∀ inner ∈ inners, inner.plaintext.length + 16 ≤ maxTlsCiphertextLen) (chunks : List Chunk)
    (cut : (chunks.map (·.bytes)).flatten = records.flatten) :
    (∃ after, receiveAll crypto ⟨conn,[]⟩ chunks =
      .ok ⟨after,appContent ((beforeClose inners).map Inner.opened)⟩) ↔
    ∀ inner ∈ beforeClose inners, inner.contentType ≠ contentTypeHandshake := by
  have awaits : conn.Awaits crypto key iv inners records (chunks.map (·.bytes)).flatten := by
    rw [cut]
    exact listens.awaits sealed count small
  obtain ⟨panics,runs⟩ := awaits.receiveAll lawful []
  obtain ⟨fate,content⟩ := survey_spec inners
  constructor
  · rintro ⟨after,run⟩ inner member handshake
    cases (panics (fate.mpr ⟨inner,member,handshake⟩)).symm.trans run
  · intro plain
    have fine : (survey inners).2 ≠ .panicked := by
      intro panicked
      obtain ⟨inner,member,handshake⟩ := fate.mp panicked
      exact plain inner member handshake
    obtain ⟨after,run⟩ := runs fine
    rw [content fine,List.nil_append] at run
    exact ⟨after,run⟩

def sampleListener : RealityClientConnection := {RealityClientConnection.new [] [] [] with
  handshakeState := .complete
  appReadKey := some sampleKey
  appReadIv := some sampleIv}

/-- A padded record, an empty one, a warning and the closing alert. -/
def sampleInners : List Inner :=
  [⟨contentTypeApplicationData,[104,0],2,.inr (.inl rfl)⟩,⟨contentTypeApplicationData,[],0,.inr (.inl rfl)⟩,
    ⟨contentTypeAlert,[1,90],0,.inr (.inr rfl)⟩,⟨contentTypeApplicationData,[105],0,.inr (.inl rfl)⟩,
    ⟨contentTypeAlert,[1,0],0,.inr (.inr rfl)⟩]

def sampleRecord (seq : Nat) (inner : Inner) : Bytes :=
  (sealRecord sampleCrypto sampleKey sampleIv seq inner).toOption.getD []

def sampleRecords : List Bytes := sampleInners.mapIdx sampleRecord

theorem sampleRecords_sealed : SealedFrom sampleCrypto sampleKey sampleIv 0 sampleInners sampleRecords :=
  .cons rfl (.cons rfl (.cons rfl (.cons rfl (.cons rfl (.nil 5)))))

theorem sampleListener_listens : sampleListener.Listens sampleKey sampleIv :=
  ⟨rfl,rfl,rfl,rfl,rfl,rfl,rfl,rfl,rfl⟩

theorem records_delivered_sample :
    ∃ after, receiveAll sampleCrypto ⟨sampleListener,[]⟩
        [⟨sampleRecords.flatten.take 3,by decide⟩,⟨sampleRecords.flatten.drop 3,by decide⟩] =
      .ok ⟨after,[104,0,105]⟩ :=
  (records_delivered_iff_no_handshake sampleCrypto_lawful sampleListener_listens sampleRecords_sealed (by decide)
    (by decide) [⟨sampleRecords.flatten.take 3,by decide⟩,⟨sampleRecords.flatten.drop 3,by decide⟩] (by decide)).mpr
    (by decide)

/-- A session ticket: the handshake record every TLS 1.3 server may send. -/
def sampleTicket : Inner := ⟨contentTypeHandshake,[4,0,0,0],0,known_handshake⟩

theorem session_ticket_panics :
    SealedFrom sampleCrypto sampleKey sampleIv 0 [sampleTicket] [sampleRecord 0 sampleTicket] ∧
      receiveAll sampleCrypto ⟨sampleListener,[]⟩ [⟨sampleRecord 0 sampleTicket,by decide⟩] = .error .unreachable :=
  ⟨.cons rfl (.nil 1),by decide⟩

end RealityClientConnection

end Dynet.Vless.Reality
