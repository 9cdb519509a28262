import Dynet.Vless.Reality.Receiving

/-! The fixed buffers of a connection. No operation checks them, so the bounds are
conditions on what the peer sends and the caller does: each read must fit behind the
bytes that wait, and the application data of the waiting records must fit behind the
plaintext that has not been taken out. -/
namespace Dynet.Vless

/-- The end of the bytes in the storage, as the next write finds it. -/
def SlideBuffer.occupied (buffer : SlideBuffer) : Nat := (buffer.maybeCompact 4096).start + buffer.len

theorem SlideBuffer.maybeCompact_start (buffer : SlideBuffer) : (buffer.maybeCompact 4096).start ≤ 4096 := by
  unfold SlideBuffer.maybeCompact
  split
  · exact Nat.zero_le _
  · omega

theorem SlideBuffer.occupied_of_front {buffer : SlideBuffer} (front : buffer.start ≤ 4096) :
    buffer.occupied = buffer.start + buffer.len := by
  have still : buffer.maybeCompact 4096 = buffer := if_neg (by omega)
  rw [SlideBuffer.occupied,still]

theorem SlideBuffer.occupied_le (buffer : SlideBuffer) : buffer.occupied ≤ buffer.capacity := by
  have fits := (buffer.maybeCompact 4096).fits
  rw [SlideBuffer.maybeCompact_bytes,SlideBuffer.maybeCompact_capacity] at fits
  exact fits

namespace Reality
namespace RealityClientConnection
open Dynet.Lib.Checks

inductive Step where
  | readTls (rd : Except IoError Chunk)
  | feed (data : Bytes)
  | process
  | readerRead (size : Nat)
  | write (data : Bytes)
  | writeTls (wr : Except IoError Nat)
  | sendCloseNotify

section Steps
variable (crypto : Crypto)

/-- The connection a call leaves, whatever it answers. -/
def step (conn : RealityClientConnection) : Step → Except Panic RealityClientConnection
  | .readTls rd => (·.2) <$> conn.readTls rd
  | .feed data => (·.2) <$> conn.feed data
  | .process => (·.2) <$> conn.processNewPackets crypto
  | .readerRead size => .ok (conn.readerRead size).2
  | .write data => .ok (conn.writerWrite data)
  | .writeTls wr => .ok (conn.writeTls crypto wr).2
  | .sendCloseNotify => .ok (conn.sendCloseNotify crypto)

def steps (conn : RealityClientConnection) : List Step → Except Panic RealityClientConnection
  | [] => .ok conn
  | next::later => match conn.step crypto next with
    | .error panic => .error panic
    | .ok conn => conn.steps later

/-- The application data in the whole records at the front of the ciphertext, up to a
record that does not open or that ends the connection. -/
def incoming (key : AeadKey) (iv : Bytes) : Nat → Nat → Bytes → Nat
  | 0, _, _ => 0
  | rounds+1, seq, bytes => match firstRecord bytes with
    | none => 0
    | some (_,payload,n) => match decryptRecordInPlace crypto key iv seq payload with
      | (.error _,_) => 0
      | (.ok (contentType,plaintext),seq) =>
        if contentType = contentTypeApplicationData then plaintext.length + incoming key iv rounds seq (bytes.drop n)
        else if contentType = contentTypeAlert ∧ alertEffect plaintext = .skip then
          incoming key iv rounds seq (bytes.drop n)
        else 0

/-- What a processing call will add to the plaintext. -/
def incomingBytes (conn : RealityClientConnection) : Nat :=
  match conn.handshakeState, conn.appReadKey, conn.appReadIv with
  | .complete, some key, some iv =>
    if conn.receivedCloseNotify ∨ conn.fatalError.isSome then 0
    else incoming crypto key iv (conn.ciphertextReadBuf.len + 1) conn.readSeq conn.ciphertextReadBuf.bytes
  | _, _, _ => 0

def Fits (conn : RealityClientConnection) : Step → Prop
  | .readTls (.ok chunk) => conn.ciphertextReadBuf.len + chunk.bytes.length ≤ conn.ciphertextReadBuf.capacity
  | .feed data => conn.ciphertextReadBuf.len + data.length ≤ conn.ciphertextReadBuf.capacity
  | .process => conn.plaintextReadBuf.occupied + conn.incomingBytes crypto ≤ conn.plaintextReadBuf.capacity
  | _ => True

def FitsAll (conn : RealityClientConnection) : List Step → Prop
  | [] => True
  | next::later => conn.Fits crypto next ∧ ∀ after, conn.step crypto next = .ok after → after.FitsAll later

end Steps

/-! Reading. -/

theorem feedRounds_room (rounds : Nat) (conn : RealityClientConnection) (data : Bytes) (enough : data.length ≤ rounds)
    (room : conn.ciphertextReadBuf.len + data.length ≤ conn.ciphertextReadBuf.capacity) :
    ∃ buf : SlideBuffer, conn.feedRounds rounds data = .ok (.ok (),{conn with ciphertextReadBuf := buf}) ∧
      buf.bytes = conn.ciphertextReadBuf.bytes ++ data ∧ buf.capacity = conn.ciphertextReadBuf.capacity := by
  induction rounds generalizing conn data with
  | zero =>
    obtain rfl := List.length_eq_zero_iff.mp (Nat.le_zero.mp enough)
    exact ⟨conn.ciphertextReadBuf,rfl,(List.append_nil _).symm,rfl⟩
  | succ rounds ih =>
    rw [feedRounds]
    split
    next empty =>
      rw [empty]
      exact ⟨conn.ciphertextReadBuf,rfl,(List.append_nil _).symm,rfl⟩
    next some =>
      have positive : 0 < tlsMaxRecordSize := by decide
      have solid := List.length_pos_iff.mpr some
      have part : (data.take tlsMaxRecordSize).length = min tlsMaxRecordSize data.length := List.length_take
      obtain ⟨buf,call,bytes,capacity⟩ := conn.readTls_room ⟨data.take tlsMaxRecordSize,by
        rw [List.length_take]; omega⟩ (by dsimp only; omega)
      dsimp only at bytes
      rw [call]
      obtain ⟨final,later,joined,same⟩ := ih {conn with ciphertextReadBuf := buf}
        (data.drop (data.take tlsMaxRecordSize).length) (by rw [List.length_drop]; omega) (by
          dsimp only
          rw [SlideBuffer.len,bytes,capacity,List.length_append,List.length_drop]
          rw [SlideBuffer.len] at room
          omega)
      refine ⟨final,later,?_,same.trans capacity⟩
      rw [joined,bytes,List.append_assoc,part]
      congr 1
      rcases Nat.le_total tlsMaxRecordSize data.length with long | short
      · rw [Nat.min_eq_left long,List.take_append_drop]
      · rw [Nat.min_eq_right short,List.take_of_length_le short,List.drop_length,List.append_nil]

theorem feedRounds_overruns (rounds : Nat) (conn : RealityClientConnection) (data : Bytes)
    (enough : data.length ≤ rounds)
    (full : conn.ciphertextReadBuf.capacity < conn.ciphertextReadBuf.len + data.length) :
    conn.feedRounds rounds data = .error .overrun := by
  have inside := conn.ciphertextReadBuf.fits
  induction rounds generalizing conn data with
  | zero =>
    rw [SlideBuffer.len] at full
    omega
  | succ rounds ih =>
    have some : data ≠ [] := by
      rintro rfl
      rw [SlideBuffer.len,List.length_nil] at full
      omega
    rw [feedRounds,if_neg some]
    by_cases room : conn.ciphertextReadBuf.len + (data.take tlsMaxRecordSize).length ≤ conn.ciphertextReadBuf.capacity
    · obtain ⟨buf,call,bytes,capacity⟩ := conn.readTls_room ⟨data.take tlsMaxRecordSize,by
        rw [List.length_take]; omega⟩ room
      dsimp only at bytes
      rw [call]
      have solid := List.length_pos_iff.mpr some
      have positive : 0 < tlsMaxRecordSize := by decide
      refine ih {conn with ciphertextReadBuf := buf} (data.drop (data.take tlsMaxRecordSize).length) ?_ ?_ buf.fits
      · rw [List.length_drop,List.length_take]
        omega
      · dsimp only
        rw [SlideBuffer.len] at full
        rw [SlideBuffer.len,bytes,capacity,List.length_append,List.length_drop]
        omega
    · rw [conn.readTls_overruns ⟨data.take tlsMaxRecordSize,by rw [List.length_take]; omega⟩ (Nat.lt_of_not_le room)]

/-! Processing. -/

section Process
variable {crypto : Crypto} {key : AeadKey} {iv : Bytes}

/-- The loop overruns the plaintext exactly when the application data of the waiting
records is too much for it. -/
theorem processRecords_overruns (rounds : Nat) (conn : RealityClientConnection) :
    processRecords crypto key iv conn rounds = .error .overrun ↔
      conn.plaintextReadBuf.capacity < conn.plaintextReadBuf.occupied +
        incoming crypto key iv rounds conn.readSeq conn.ciphertextReadBuf.bytes := by
  have inside := conn.plaintextReadBuf.occupied_le
  induction rounds generalizing conn with
  | zero =>
    simp only [processRecords,incoming,reduceCtorEq,false_iff]
    omega
  | succ rounds ih =>
    rw [processRecords,incoming]
    cases firstRecord conn.ciphertextReadBuf.bytes with
    | none =>
      simp only [reduceCtorEq,false_iff]
      omega
    | some found =>
      obtain ⟨_,payload,n⟩ := found
      dsimp only
      rcases decryptRecordInPlace crypto key iv conn.readSeq payload with ⟨e | ⟨contentType,plaintext⟩,seq⟩
      · simp only [reduceCtorEq,false_iff]
        omega
      · dsimp only
        rw [processRecord]
        by_cases data : contentType = contentTypeApplicationData
        · rw [if_pos data,if_pos data]
          dsimp only
          cases extended : (conn.plaintextReadBuf.maybeCompact 4096).extendFromSlice plaintext with
          | error panic =>
            obtain ⟨rfl,full⟩ := (SlideBuffer.extendFromSlice_error_iff _ _ _).mp extended
            have room : conn.plaintextReadBuf.capacity < conn.plaintextReadBuf.occupied + plaintext.length := by
              rw [SlideBuffer.len,SlideBuffer.maybeCompact_bytes,SlideBuffer.maybeCompact_capacity] at full
              exact full
            simp only [proceed,true_iff]
            omega
          | ok buf =>
            obtain ⟨_,capacity,start,bytes⟩ := (SlideBuffer.extendFromSlice_ok_iff _ _ _).mp extended
            have front := conn.plaintextReadBuf.maybeCompact_start
            have grown : buf.occupied = conn.plaintextReadBuf.occupied + plaintext.length := by
              rw [SlideBuffer.occupied_of_front (by omega),SlideBuffer.occupied,SlideBuffer.len,bytes,start,
                List.length_append,SlideBuffer.maybeCompact_bytes,SlideBuffer.len]
              omega
            have next := ih {conn with
              readSeq := seq
              plaintextReadBuf := buf
              ciphertextReadBuf := conn.ciphertextReadBuf.consume n} buf.occupied_le
            refine next.trans ?_
            dsimp only
            rw [grown,capacity,SlideBuffer.maybeCompact_capacity,SlideBuffer.consume_bytes,Nat.add_assoc]
        rw [if_neg data,if_neg data]
        by_cases alert : contentType = contentTypeAlert
        · have handled := processAlert_effect {conn with readSeq := seq} plaintext n
          rw [if_pos alert]
          generalize alertEffect plaintext = effect at handled ⊢
          cases effect with
          | deliver bytes => exact handled.elim
          | panic => exact handled.elim
          | skip =>
            have next := ih {conn with
              readSeq := seq
              ciphertextReadBuf := conn.ciphertextReadBuf.consume n} inside
            rw [handled,if_pos ⟨alert,rfl⟩]
            refine next.trans ?_
            dsimp only
            rw [SlideBuffer.consume_bytes]
          | close =>
            rw [if_neg (by simp)]
            rcases handled with notify | ⟨e,_,fatal⟩
            · rw [notify]
              simp only [proceed,reduceCtorEq,false_iff]
              omega
            · rw [fatal]
              simp only [proceed,reduceCtorEq,false_iff]
              omega
        · rw [if_neg alert,if_neg (fun both => alert both.1)]
          simp only [proceed,Except.error.injEq,reduceCtorEq,false_iff]
          omega

theorem strip_length {plaintext content : Bytes} {contentType : UInt8}
    (stripped : stripContentTypeWithPadding plaintext = .ok (contentType,content)) :
    content.length ≤ plaintext.length := by
  rw [stripContentTypeWithPadding] at stripped
  split at stripped
  · cases stripped
  · split at stripped
    · cases stripped
      have front := (List.rdropWhile_prefix (fun b : UInt8 => b = 0) plaintext).length_le
      rw [List.length_dropLast]
      omega
    · cases stripped

theorem decrypt_length (lawful : crypto.Lawful) {seq after : Nat} {payload plaintext : Bytes} {contentType : UInt8}
    (opened : decryptRecordInPlace crypto key iv seq payload = (.ok (contentType,plaintext),after)) :
    plaintext.length ≤ payload.length := by
  rw [decryptRecordInPlace] at opened
  split at opened
  · cases opened
  next inner unsealed =>
    split at opened
    · cases opened
    · have stripped := strip_length (congrArg Prod.fst opened)
      rw [AeadKey.openInPlaceSlice] at unsealed
      obtain ⟨nonce,_,found⟩ := (bind_ok_iff _ _ _).mp unsealed
      split at found
      next same =>
        cases found
        have := lawful.strips same
        omega
      next => cases found

theorem incoming_le (lawful : crypto.Lawful) (rounds seq : Nat) (bytes : Bytes) :
    incoming crypto key iv rounds seq bytes ≤ bytes.length := by
  induction rounds generalizing seq bytes with
  | zero => exact Nat.zero_le _
  | succ rounds ih =>
    rw [incoming]
    cases cut : frameCut bytes with
    | more => simp [firstRecord_more cut]
    | fail => exact absurd cut (frameCut_ne_fail bytes)
    | item n =>
      obtain ⟨_,inside⟩ := frameCutter.progress cut
      rw [firstRecord_item cut]
      dsimp only
      split
      · exact Nat.zero_le _
      next contentType plaintext after opened =>
        have size := decrypt_length lawful opened
        rw [List.length_drop,List.length_take] at size
        have later := ih after (bytes.drop n)
        rw [List.length_drop] at later
        split
        · omega
        · split
          · omega
          · exact Nat.zero_le _

/-- A call of the handshake leaves the plaintext alone and keeps the storage of the ciphertext. -/
def Keeps (conn after : RealityClientConnection) : Prop :=
  after.plaintextReadBuf = conn.plaintextReadBuf ∧
    after.ciphertextReadBuf.capacity = conn.ciphertextReadBuf.capacity

theorem Keeps.trans {first second third : RealityClientConnection} (one : first.Keeps second)
    (two : second.Keeps third) : first.Keeps third := ⟨two.1.trans one.1,two.2.trans one.2⟩

theorem consume_keeps (conn : RealityClientConnection) (n : Nat) :
    conn.Keeps {conn with ciphertextReadBuf := conn.ciphertextReadBuf.consume n} :=
  ⟨rfl,SlideBuffer.consume_capacity _ _⟩

theorem processServerHello_keeps (conn : RealityClientConnection) (hello privateKey authKey : Bytes) :
    conn.Keeps (processServerHello crypto conn hello privateKey authKey).2 := by
  rw [processServerHello]
  split
  · exact ⟨rfl,rfl⟩
  · dsimp only
    split <;> exact conn.consume_keeps _

theorem completeHandshake_keeps (conn : RealityClientConnection) (state : Handshaking) :
    conn.Keeps (completeHandshake crypto conn state).2 := by
  rw [completeHandshake]
  split
  · exact ⟨rfl,rfl⟩
  · split
    · exact ⟨rfl,rfl⟩
    · dsimp only
      split <;> exact ⟨rfl,rfl⟩

theorem acceptRecord_keeps (conn : RealityClientConnection) (state : Handshaking) (key iv ciphertext : Bytes) :
    conn.Keeps (acceptRecord crypto conn state key iv ciphertext).2 := by
  rw [acceptRecord]
  split
  · exact ⟨rfl,rfl⟩
  · split
    · exact ⟨rfl,rfl⟩
    next state _ =>
      split
      · exact ⟨rfl,rfl⟩
      · split
        · exact ⟨rfl,rfl⟩
        · have kept : conn.Keeps (completeHandshake crypto conn state).2 := completeHandshake_keeps conn state
          split
          next reply => rw [reply] at kept; exact kept
          next reply => rw [reply] at kept; exact kept

theorem processEncryptedHandshake_keeps (conn : RealityClientConnection) (state : Handshaking) (rounds : Nat) :
    conn.Keeps (processEncryptedHandshake crypto conn state rounds).2 := by
  induction rounds generalizing conn with
  | zero => exact ⟨rfl,rfl⟩
  | succ rounds ih =>
    rw [processEncryptedHandshake]
    split
    · exact ⟨rfl,rfl⟩
    · split
      · exact ⟨rfl,rfl⟩
      · dsimp only
        split
        · exact (conn.consume_keeps _).trans (ih _)
        · split
          · exact ⟨rfl,rfl⟩
          · exact (conn.consume_keeps _).trans (acceptRecord_keeps _ _ _ _ _)

theorem processHandshake_keeps (conn : RealityClientConnection) : conn.Keeps (processHandshake crypto conn).2 := by
  rw [processHandshake]
  split
  · exact processServerHello_keeps _ _ _ _
  · exact processEncryptedHandshake_keeps _ _ _
  · exact ⟨rfl,rfl⟩

/-- The storages have their sizes, and nothing is decrypted before the handshake is over. -/
structure Sound (conn : RealityClientConnection) : Prop where
  cipherCapacity : conn.ciphertextReadBuf.capacity = ciphertextReadBufCapacity
  plainCapacity : conn.plaintextReadBuf.capacity = plaintextReadBufCapacity
  early : conn.handshakeState ≠ .complete → conn.plaintextReadBuf = .new plaintextReadBufCapacity

theorem Sound.of_keeps {conn after : RealityClientConnection} (sound : conn.Sound)
    (handshaking : conn.handshakeState ≠ .complete) (keeps : conn.Keeps after) : after.Sound := by
  obtain ⟨plain,cipher⟩ := keeps
  have empty := plain.trans (sound.early handshaking)
  exact ⟨cipher.trans sound.cipherCapacity,by rw [empty]; rfl,fun _ => empty⟩

/-- Neither the sizes of the storages nor the state of the handshake have changed. -/
structure SameSizes (conn after : RealityClientConnection) : Prop where
  state : after.handshakeState = conn.handshakeState
  cipher : after.ciphertextReadBuf.capacity = conn.ciphertextReadBuf.capacity
  plain : after.plaintextReadBuf.capacity = conn.plaintextReadBuf.capacity

theorem SameSizes.sound {conn after : RealityClientConnection} (same : conn.SameSizes after)
    (complete : conn.handshakeState = .complete) (sound : conn.Sound) : after.Sound :=
  ⟨same.cipher.trans sound.cipherCapacity,same.plain.trans sound.plainCapacity,
    fun handshaking => absurd (same.state.trans complete) handshaking⟩

theorem processAlert_sizes (conn : RealityClientConnection) (plaintext : Bytes) (n : Nat) :
    conn.SameSizes (conn.processAlert plaintext n).2 := by
  have skipped : conn.SameSizes {conn with ciphertextReadBuf := conn.ciphertextReadBuf.consume n} :=
    ⟨rfl,SlideBuffer.consume_capacity _ _,rfl⟩
  unfold processAlert
  split
  · split
    · exact ⟨rfl,rfl,rfl⟩
    · split
      · exact ⟨rfl,rfl,rfl⟩
      · exact skipped
  · exact skipped

theorem processRecord_sizes {conn after : RealityClientConnection} {contentType : UInt8} {plaintext : Bytes} {n : Nat}
    {reply : Option (Except IoError Unit)} (call : processRecord conn contentType plaintext n = .ok (reply,after)) :
    conn.SameSizes after := by
  rw [processRecord] at call
  split at call
  · split at call
    · cases call
    next buf extended =>
      cases call
      obtain ⟨_,capacity,_,_⟩ := (SlideBuffer.extendFromSlice_ok_iff _ _ _).mp extended
      exact ⟨rfl,SlideBuffer.consume_capacity _ _,capacity.trans (SlideBuffer.maybeCompact_capacity _ _)⟩
  · split at call
    · have same := conn.processAlert_sizes plaintext n
      rw [Except.ok.inj call] at same
      exact same
    · cases call

theorem processRecords_sizes (rounds : Nat) {conn after : RealityClientConnection} {result : Except IoError Unit}
    (call : processRecords crypto key iv conn rounds = .ok (result,after)) : conn.SameSizes after := by
  induction rounds generalizing conn with
  | zero =>
    cases call
    exact ⟨rfl,rfl,rfl⟩
  | succ rounds ih =>
    rw [processRecords] at call
    split at call
    · cases call
      exact ⟨rfl,rfl,rfl⟩
    · split at call
      · cases call
        exact ⟨rfl,rfl,rfl⟩
      next contentType plaintext seq _ =>
        cases handled : processRecord {conn with readSeq := seq} contentType plaintext _ with
        | error panic =>
          rw [handled] at call
          cases call
        | ok reply =>
          rw [handled] at call
          obtain ⟨state,cipher,plain⟩ := processRecord_sizes handled
          obtain ⟨_ | result,next⟩ := reply
          · obtain ⟨stateLater,cipherLater,plainLater⟩ := ih call
            exact ⟨stateLater.trans state,cipherLater.trans cipher,plainLater.trans plain⟩
          · cases call
            exact ⟨state,cipher,plain⟩

theorem processApplicationData_sizes {conn after : RealityClientConnection} {result : Except IoError Unit}
    (call : processApplicationData crypto conn = .ok (result,after)) : conn.SameSizes after := by
  rw [processApplicationData] at call
  split at call
  · exact processRecords_sizes _ call
  · cases call

theorem processNewPacketsInner_sound (rounds : Nat) {conn after : RealityClientConnection} {result : Except IoError Nat}
    (sound : conn.Sound) (call : processNewPacketsInner crypto conn rounds = .ok (result,after)) : after.Sound := by
  induction rounds generalizing conn with
  | zero =>
    cases call
    exact sound
  | succ rounds ih =>
    rw [processNewPacketsInner] at call
    split at call
    next complete =>
      split at call
      · cases call
      next reply =>
        cases call
        exact (processApplicationData_sizes reply).sound complete sound
      next reply =>
        cases call
        exact (processApplicationData_sizes reply).sound complete sound
    next handshaking =>
      have keeps : conn.Keeps (processHandshake crypto conn).2 := processHandshake_keeps conn
      have next := sound.of_keeps handshaking keeps
      split at call
      next reply =>
        cases call
        rw [reply] at next
        exact next
      next reply =>
        cases call
        rw [reply] at next
        exact next
      next reply =>
        rw [reply] at next
        exact ih next call

/-- A call that starts with no plaintext stays inside: what it decrypts was ciphertext before. -/
theorem processNewPacketsInner_fits (lawful : crypto.Lawful) (rounds : Nat) {conn : RealityClientConnection}
    (cipher : conn.ciphertextReadBuf.capacity = ciphertextReadBufCapacity)
    (plain : conn.plaintextReadBuf = .new plaintextReadBufCapacity) :
    processNewPacketsInner crypto conn rounds ≠ .error .overrun := by
  induction rounds generalizing conn with
  | zero => exact fun impossible => by cases impossible
  | succ rounds ih =>
    rw [processNewPacketsInner]
    split
    next complete =>
      have call : processApplicationData crypto conn ≠ .error .overrun := by
        rw [processApplicationData]
        split
        next key iv _ _ =>
          rw [ne_eq,processRecords_overruns]
          have size : incoming crypto key iv (conn.ciphertextReadBuf.len + 1) conn.readSeq
              conn.ciphertextReadBuf.bytes ≤ conn.ciphertextReadBuf.bytes.length := incoming_le lawful _ _ _
          have fits := conn.ciphertextReadBuf.fits
          have same : plaintextReadBufCapacity = ciphertextReadBufCapacity := rfl
          have none : (SlideBuffer.new plaintextReadBufCapacity).occupied = 0 := rfl
          have room : (SlideBuffer.new plaintextReadBufCapacity).capacity = plaintextReadBufCapacity := rfl
          rw [plain,none,room]
          omega
        · exact fun impossible => by cases impossible
      split
      next panic reply =>
        intro same
        cases same
        exact call reply
      · exact fun impossible => by cases impossible
      · exact fun impossible => by cases impossible
    next handshaking =>
      have keeps : conn.Keeps (processHandshake crypto conn).2 := processHandshake_keeps conn
      split
      · exact fun impossible => by cases impossible
      · exact fun impossible => by cases impossible
      next reply =>
        rw [reply] at keeps
        exact ih (keeps.2.trans cipher) (keeps.1.trans plain)

theorem incomingBytes_of_stopped {conn : RealityClientConnection}
    (stopped : conn.receivedCloseNotify = true ∨ conn.fatalError.isSome = true) : conn.incomingBytes crypto = 0 := by
  rw [incomingBytes]
  split
  · exact if_pos stopped
  · rfl

theorem incomingBytes_of_handshaking {conn : RealityClientConnection} (handshaking : conn.handshakeState ≠ .complete) :
    conn.incomingBytes crypto = 0 := by
  rw [incomingBytes]
  split
  next complete _ _ => exact absurd complete handshaking
  · rfl

theorem recordFatal_error_iff (answer : Answer Nat) (panic : Panic) :
    recordFatal answer = .error panic ↔ answer = .error panic := by
  rcases answer with panic | ⟨_ | _,_⟩ <;> simp [recordFatal]

theorem processNewPackets_overruns (lawful : crypto.Lawful) {conn : RealityClientConnection} (sound : conn.Sound) :
    conn.processNewPackets crypto = .error .overrun ↔ ¬ conn.Fits crypto .process := by
  have inside := conn.plaintextReadBuf.occupied_le
  rw [Fits,processNewPackets]
  cases failed : conn.fatalError with
  | some kind =>
    rw [incomingBytes_of_stopped (.inr (by rw [failed]; rfl))]
    simp only [reduceCtorEq,false_iff,not_not]
    omega
  | none =>
    dsimp only
    by_cases closed : conn.receivedCloseNotify = true
    · rw [if_pos closed,incomingBytes_of_stopped (.inl closed)]
      simp only [reduceCtorEq,false_iff,not_not]
      omega
    rw [if_neg closed]
    rw [recordFatal_error_iff]
    by_cases complete : conn.handshakeState = .complete
    · rw [processNewPacketsInner,if_pos complete,processApplicationData,incomingBytes,complete]
      cases keyed : conn.appReadKey with
      | none =>
        simp only [Except.error.injEq,reduceCtorEq,false_iff,not_not]
        omega
      | some key =>
        cases vector : conn.appReadIv with
        | none =>
          simp only [Except.error.injEq,reduceCtorEq,false_iff,not_not]
          omega
        | some iv =>
          dsimp only
          rw [if_neg (by simp [closed,failed]),Nat.not_le,← processRecords_overruns]
          rcases processRecords crypto key iv conn (conn.ciphertextReadBuf.len + 1) with panic | ⟨_ | _,_⟩ <;> simp
    · rw [incomingBytes_of_handshaking complete]
      have fits := processNewPacketsInner_fits lawful (conn.ciphertextReadBuf.len + 1) sound.cipherCapacity
        (sound.early complete)
      simp only [fits,false_iff,not_not]
      omega

end Process

/-! Runs. -/

section Runs
variable {crypto : Crypto} {conn after : RealityClientConnection}

theorem snd_ok_iff {α : Type} (answer : Answer α) :
    ((·.2) <$> answer : Except Panic RealityClientConnection) = .ok after ↔ ∃ result, answer = .ok (result,after) := by
  rcases answer with panic | ⟨result,conn⟩
  · simp [Functor.map,Except.map]
  · simp only [Functor.map,Except.map,Except.ok.injEq,Prod.mk.injEq]
    exact ⟨fun same => ⟨result,rfl,same⟩,fun ⟨_,_,same⟩ => same⟩

theorem snd_error_iff {α : Type} (answer : Answer α) (panic : Panic) :
    ((·.2) <$> answer : Except Panic RealityClientConnection) = .error panic ↔ answer = .error panic := by
  rcases answer with other | ⟨result,conn⟩ <;> simp [Functor.map,Except.map]

theorem Sound.cipher {buf : SlideBuffer} (sound : conn.Sound)
    (capacity : buf.capacity = conn.ciphertextReadBuf.capacity) :
    Sound {conn with ciphertextReadBuf := buf} :=
  ⟨capacity.trans sound.cipherCapacity,sound.plainCapacity,sound.early⟩

theorem Sound.readerRead (sound : conn.Sound) (size : Nat) : (conn.readerRead size).2.Sound := by
  refine ⟨sound.cipherCapacity,?_,?_⟩
  · simp [RealityClientConnection.readerRead,sound.plainCapacity]
  · intro handshaking
    have empty := sound.early handshaking
    rw [RealityClientConnection.readerRead]
    dsimp only
    rw [empty]
    cases size <;> rfl

theorem Sound.writeTls (sound : conn.Sound) (wr : Except IoError Nat) : (conn.writeTls crypto wr).2.Sound := by
  have out (conn : RealityClientConnection) (sound : conn.Sound) : (conn.writeOut wr).2.Sound := by
    cases wr <;> exact ⟨sound.cipherCapacity,sound.plainCapacity,sound.early⟩
  rw [RealityClientConnection.writeTls]
  split
  · exact out conn sound
  · split
    · exact out conn sound
    · split
      next key iv _ _ =>
        have pending : (conn.encryptPending crypto key iv).2.Sound :=
          ⟨sound.cipherCapacity,sound.plainCapacity,sound.early⟩
        generalize conn.encryptPending crypto key iv = reply at pending
        rcases reply with ⟨_ | _,after⟩
        · exact pending
        · exact out after pending
      · exact sound

theorem Sound.sendCloseNotify (sound : conn.Sound) : (conn.sendCloseNotify crypto).Sound := by
  rw [RealityClientConnection.sendCloseNotify]
  split
  · exact sound
  · split
    · exact ⟨sound.cipherCapacity,sound.plainCapacity,sound.early⟩
    · exact sound

theorem Sound.readTls (sound : conn.Sound) {rd : Except IoError Chunk} {result : Except IoError Nat}
    (call : conn.readTls rd = .ok (result,after)) : after.Sound := by
  cases rd with
  | error e =>
    cases call
    refine sound.cipher ?_
    split <;> rfl
  | ok chunk =>
    by_cases room : conn.ciphertextReadBuf.len + chunk.bytes.length ≤ conn.ciphertextReadBuf.capacity
    · obtain ⟨buf,same,_,capacity⟩ := conn.readTls_room chunk room
      cases call.symm.trans same
      exact sound.cipher capacity
    · cases call.symm.trans (conn.readTls_overruns chunk (Nat.lt_of_not_le room))

theorem Sound.feed (sound : conn.Sound) {data : Bytes} {result : Except IoError Unit}
    (call : conn.feed data = .ok (result,after)) : after.Sound := by
  rw [RealityClientConnection.feed] at call
  by_cases room : conn.ciphertextReadBuf.len + data.length ≤ conn.ciphertextReadBuf.capacity
  · obtain ⟨buf,same,_,capacity⟩ := feedRounds_room data.length conn data (Nat.le_refl _) room
    cases call.symm.trans same
    exact sound.cipher capacity
  · cases call.symm.trans (feedRounds_overruns data.length conn data (Nat.le_refl _) (Nat.lt_of_not_le room))

theorem Sound.processNewPackets (sound : conn.Sound) {result : Except IoError Nat}
    (call : conn.processNewPackets crypto = .ok (result,after)) : after.Sound := by
  rw [RealityClientConnection.processNewPackets] at call
  split at call
  · cases call
    exact sound
  · split at call
    · cases call
      exact sound
    · rcases reply : processNewPacketsInner crypto conn (conn.ciphertextReadBuf.len + 1) with panic | ⟨error | n,last⟩
      · rw [reply] at call
        cases call
      · rw [reply] at call
        have next := processNewPacketsInner_sound _ sound reply
        cases call
        split
        · exact ⟨next.cipherCapacity,next.plainCapacity,next.early⟩
        · exact next
      · rw [reply] at call
        cases call
        exact processNewPacketsInner_sound _ sound reply

theorem Sound.step (sound : conn.Sound) {next : Step} (call : conn.step crypto next = .ok after) : after.Sound := by
  cases next with
  | readTls rd =>
    obtain ⟨result,call⟩ := (snd_ok_iff _).mp call
    exact sound.readTls call
  | feed data =>
    obtain ⟨result,call⟩ := (snd_ok_iff _).mp call
    exact sound.feed call
  | process =>
    obtain ⟨result,call⟩ := (snd_ok_iff _).mp call
    exact sound.processNewPackets call
  | readerRead size =>
    cases call
    exact sound.readerRead size
  | write data =>
    cases call
    exact ⟨sound.cipherCapacity,sound.plainCapacity,sound.early⟩
  | writeTls wr =>
    cases call
    exact sound.writeTls wr
  | sendCloseNotify =>
    cases call
    exact sound.sendCloseNotify

theorem step_overruns (lawful : crypto.Lawful) (sound : conn.Sound) (next : Step) :
    conn.step crypto next = .error .overrun ↔ ¬ conn.Fits crypto next := by
  cases next with
  | readTls rd =>
    refine (snd_error_iff _ _).trans ?_
    cases rd with
    | error e => simp [RealityClientConnection.readTls,Fits]
    | ok chunk =>
      rw [Fits]
      by_cases room : conn.ciphertextReadBuf.len + chunk.bytes.length ≤ conn.ciphertextReadBuf.capacity
      · obtain ⟨buf,same,_,_⟩ := conn.readTls_room chunk room
        simp [same,room]
      · simp [conn.readTls_overruns chunk (Nat.lt_of_not_le room),room]
  | feed data =>
    refine (snd_error_iff _ _).trans ?_
    rw [RealityClientConnection.feed,Fits]
    by_cases room : conn.ciphertextReadBuf.len + data.length ≤ conn.ciphertextReadBuf.capacity
    · obtain ⟨buf,same,_⟩ := feedRounds_room data.length conn data (Nat.le_refl _) room
      simp [same,room]
    · simp [feedRounds_overruns data.length conn data (Nat.le_refl _) (Nat.lt_of_not_le room),room]
  | process => exact (snd_error_iff _ _).trans (processNewPackets_overruns lawful sound)
  | readerRead size => simp [RealityClientConnection.step,Fits]
  | write data => simp [RealityClientConnection.step,Fits]
  | writeTls wr => simp [RealityClientConnection.step,Fits]
  | sendCloseNotify => simp [RealityClientConnection.step,Fits]

theorem steps_overrun_iff (lawful : crypto.Lawful) (sound : conn.Sound) (list : List Step) :
    conn.steps crypto list ≠ .error .overrun ↔ conn.FitsAll crypto list := by
  induction list generalizing conn with
  | nil => simp [steps,FitsAll]
  | cons next later ih =>
    have here := step_overruns lawful sound next
    rw [steps,FitsAll]
    cases call : conn.step crypto next with
    | error panic =>
      rw [call] at here
      simp only [ne_eq,here,not_not,reduceCtorEq,false_implies,implies_true,and_true]
    | ok after =>
      rw [call] at here
      have fits : conn.Fits crypto next := by
        by_contra tight
        cases here.mpr tight
      have rest := ih (sound.step call)
      constructor
      · intro fine
        refine ⟨fits,?_⟩
        rintro other same
        cases same
        exact rest.mp fine
      · rintro ⟨_,others⟩
        exact rest.mpr (others after rfl)

end Runs

theorem new_sound (clientHello clientPrivateKey authKey : Bytes) : (new clientHello clientPrivateKey authKey).Sound :=
  ⟨rfl,rfl,fun _ => rfl⟩

/-- A run of calls in any order, on bytes of the peer's choice, stays inside the buffers
exactly as long as every call on its way fits. -/
theorem buffers_hold_iff_calls_fit {crypto : Crypto} (lawful : crypto.Lawful)
    (clientHello clientPrivateKey authKey : Bytes) (list : List Step) :
    (new clientHello clientPrivateKey authKey).steps crypto list ≠ .error .overrun ↔
      (new clientHello clientPrivateKey authKey).FitsAll crypto list :=
  steps_overrun_iff lawful (new_sound clientHello clientPrivateKey authKey) list

theorem buffers_hold_small_run :
    (new [] [] []).FitsAll sampleCrypto [.readTls (.ok ⟨[22,3,3,0,1,2],by decide⟩),.process,.readerRead 10] :=
  (buffers_hold_iff_calls_fit sampleCrypto_lawful [] [] [] _).mp (by decide)

/-- A header that announces 65535 bytes, with the next bytes of its record. -/
def endlessRecord (n : Nat) : Bytes := 22::3::3::255::255::List.replicate n 0

theorem endlessRecord_length (n : Nat) : (endlessRecord n).length = n + 5 := by
  simp only [endlessRecord,List.length_cons,List.length_replicate]

def endlessStart : Chunk := ⟨endlessRecord 16640,by rw [endlessRecord_length]; decide⟩

def endlessRest : Chunk := ⟨List.replicate 16645 0,by rw [List.length_replicate]; decide⟩

theorem processNewPackets_waits {crypto : Crypto} {conn : RealityClientConnection} {hello privateKey authKey : Bytes}
    (waiting : conn.handshakeState = .awaitingServerHello hello privateKey authKey) (healthy : conn.fatalError = none)
    (running : conn.receivedCloseNotify = false) (cut : frameCut conn.ciphertextReadBuf.bytes = .more) :
    conn.processNewPackets crypto = .ok (.ok conn.plaintextReadBuf.len,conn) := by
  have handshake : processHandshake crypto conn = (.ok false,conn) := by
    rw [processHandshake,waiting]
    dsimp only
    rw [processServerHello,firstRecord_more cut]
  rw [processNewPackets,healthy]
  simp only [running,Bool.false_eq_true,if_false]
  rw [processNewPacketsInner,if_neg (by rw [waiting]; exact HandshakeState.noConfusion),handshake]
  rfl

/-- A peer that announces a record the storage cannot hold, and a client that processes
after every full read: the third read overruns the ciphertext buffer. -/
theorem endless_record_overruns :
    (new [] [] []).steps sampleCrypto
      [.readTls (.ok endlessStart),.process,.readTls (.ok endlessRest),.process,.readTls (.ok ⟨[0],by decide⟩)] =
        .error .overrun := by
  have more (n : Nat) (few : n < 65535) : frameCut (endlessRecord n) = .more := by
    rw [endlessRecord,frameCut]
    apply if_pos
    rw [← endlessRecord,endlessRecord_length]
    change n + 5 < 5 + 65535
    omega
  have joined : endlessRecord 16640 ++ List.replicate 16645 0 = endlessRecord 33285 := by
    simp only [endlessRecord,List.cons_append,List.replicate_append_replicate]
  by_contra fine
  obtain ⟨first,rest⟩ := (steps_overrun_iff sampleCrypto_lawful (new_sound [] [] []) _).mp fine
  obtain ⟨buf,read,bytes,capacity⟩ := (new [] [] []).readTls_room _ first
  have bytes : buf.bytes = endlessRecord 16640 := bytes
  obtain ⟨_,rest⟩ := rest _ ((snd_ok_iff _).mpr ⟨_,read⟩)
  have waits : processNewPackets sampleCrypto {new [] [] [] with ciphertextReadBuf := buf} = _ :=
    processNewPackets_waits rfl rfl rfl (by rw [bytes]; exact more _ (by omega))
  obtain ⟨second,rest⟩ := rest _ ((snd_ok_iff _).mpr ⟨_,waits⟩)
  obtain ⟨again,read,grown,size⟩ := readTls_room _ _ second
  have grown : again.bytes = endlessRecord 33285 := by
    rw [← joined,← bytes]
    exact grown
  obtain ⟨_,rest⟩ := rest _ ((snd_ok_iff _).mpr ⟨_,read⟩)
  have waits : processNewPackets sampleCrypto {new [] [] [] with ciphertextReadBuf := again} = _ :=
    processNewPackets_waits rfl rfl rfl (by rw [grown]; exact more _ (by omega))
  obtain ⟨third,_⟩ := rest _ ((snd_ok_iff _).mpr ⟨_,waits⟩)
  have full : again.len + 1 ≤ again.capacity := third
  have limit : again.capacity = 33290 := size.trans capacity
  rw [SlideBuffer.len,grown,limit,endlessRecord_length] at full
  omega

end RealityClientConnection
end Reality
end Dynet.Vless
