import Dynet.Vless.Reality.Buffers
import Dynet.Vless.VisionMeaning

/-! The records of the server through the session, one by one, and what the padding and its
end make of their content. -/
namespace Dynet.Vless
open Dynet.Lib.Framing
open Reality RealityClientConnection TlsReader

/-! The session, record by record. -/

/-- The application data of a record. -/
def Reality.Inner.piece (inner : Inner) : Bytes :=
  match inner.effect with
  | .deliver bytes => bytes
  | _ => []

theorem survey_running {inner : Inner} {inners : List Inner} (running : (survey (inner::inners)).2 = .running) :
    survey [inner] = (inner.piece,.running) ∧ (survey inners).2 = .running := by
  rw [survey] at running
  rw [survey,Reality.Inner.piece]
  cases effect : inner.effect with
  | deliver bytes =>
    rw [effect] at running
    exact ⟨by simp [survey],running⟩
  | skip =>
    rw [effect] at running
    exact ⟨rfl,running⟩
  | close =>
    rw [effect] at running
    cases running
  | panic =>
    rw [effect] at running
    cases running

theorem survey_pieces {inners : List Inner} (running : (survey inners).2 = .running) :
    (survey inners).1 = (inners.map Reality.Inner.piece).flatten := by
  induction inners with
  | nil => rfl
  | cons inner inners ih =>
    obtain ⟨first,rest⟩ := survey_running running
    have joined := survey_append [inner] inners
    rw [first] at joined
    rw [List.map_cons,List.flatten_cons,← ih rest]
    exact congrArg Prod.fst joined

theorem survey_split {done left : List Inner} (running : (survey (done ++ left)).2 = .running) :
    (survey done).2 = .running ∧ (survey left).2 = .running := by
  rw [survey_append] at running
  generalize survey done = first at running ⊢
  obtain ⟨bytes,fate⟩ := first
  cases fate with
  | running => exact ⟨rfl,running⟩
  | closed => cases running
  | panicked => cases running

/-- Both deframers find a sealed record. -/
theorem recordCut_sealRecord {crypto : Crypto} (lawful : crypto.Lawful) {key : AeadKey} {iv : Bytes} {seq : Nat}
    {inner : Inner}
    {record : Bytes} (sealed : sealRecord crypto key iv seq inner = .ok record)
    (small : inner.plaintext.length + 16 ≤ maxTlsCiphertextLen) : recordCutter.cut record = .item record.length := by
  have length := sealRecord_length lawful sealed
  obtain ⟨payload,nonce,rfl,_,_⟩ := sealRecord_cases sealed
  have announced := be16_toBe16 (Nat.lt_of_le_of_lt small (by decide))
  change recordCut (contentTypeApplicationData::3::3::_::_::payload) = _
  have header : headerOf (contentTypeApplicationData::3::3::UInt8.ofNat ((inner.plaintext.length + 16) / 256)::
      UInt8.ofNat (inner.plaintext.length + 16)::payload) = some (.ok (inner.plaintext.length + 16)) := by
    rw [headerOf,parseHeader,announced,if_neg (by decide),if_neg (by omega),if_neg (by decide)]
  change recordCut (contentTypeApplicationData::3::3::UInt8.ofNat ((inner.plaintext.length + 16) / 256)::
      UInt8.ofNat (inner.plaintext.length + 16)::payload) = _
  rw [recordCut,header]
  have whole : ¬ (makeRecordHeader (inner.plaintext.length + 16) ++ payload).length <
      tlsRecordHeaderSize + (inner.plaintext.length + 16) := by
    rw [length]
    exact Nat.lt_irrefl _
  rw [length]
  exact if_neg whole

theorem sealed_records {crypto : Crypto} (lawful : crypto.Lawful) {key : AeadKey} {iv : Bytes} {seq : Nat}
    {inners : List Inner}
    {records : List Bytes} (sealed : SealedFrom crypto key iv seq inners records)
    (small : ∀ inner ∈ inners, inner.plaintext.length + 16 ≤ Reality.maxTlsCiphertextLen) :
    ∀ record ∈ records, recordCutter.cut record = .item record.length := by
  induction sealed with
  | nil seq => simp
  | cons made _ ih =>
    obtain ⟨first,rest⟩ := List.forall_mem_cons.mp small
    exact List.forall_mem_cons.mpr ⟨recordCut_sealRecord lawful made (Nat.le_trans first (by decide)),ih rest⟩

namespace VisionReader

section Session
variable {crypto : Crypto} {key : AeadKey} {iv : Bytes}

/-- A session between two records. -/
def Aligned (crypto : Crypto) (key : AeadKey) (iv : Bytes) (inners : List Inner) (records : List Bytes)
    (conn : RealityClientConnection) : Prop := conn.Awaits crypto key iv inners records records.flatten

theorem Aligned.empty {inners : List Inner} {records : List Bytes} {conn : RealityClientConnection}
    (aligned : Aligned crypto key iv inners records conn) : conn.ciphertextReadBuf.bytes = [] := by
  exact List.append_left_eq_self.mp aligned.stream

variable (lawful : crypto.Lawful)
include lawful

theorem feedAndProcess_frames {done left : List Inner} {whole rest : List Bytes} {part later : Bytes}
    {conn : RealityClientConnection}
    (aligned : Aligned crypto key iv (done ++ left) (whole ++ rest) conn) (calm : (survey done).2 = .running)
    (counted : done.length = whole.length) (cut : frameCut part = .more) (ahead : part ++ later = rest.flatten)
    (room : (whole.flatten ++ part).length ≤ ciphertextReadBufCapacity) :
    ∃ after, feedAndProcess crypto conn (whole.flatten ++ part) = .ok (.ok after.plaintextReadBuf.len,after) ∧
      after.plaintextReadBuf.bytes = (survey done).1 ∧ after.plaintextReadBuf.start = 0 ∧
      after.plaintextReadBuf.capacity = plaintextReadBufCapacity ∧
      Awaits crypto key iv left rest later {after with plaintextReadBuf := .new plaintextReadBufCapacity} := by
  obtain ⟨buf,fed,bytes,capacity⟩ := feedRounds_room _ conn (whole.flatten ++ part) (Nat.le_refl _) (by
    rw [SlideBuffer.len,aligned.empty,List.length_nil,aligned.cipherCapacity,Nat.zero_add]
    exact room)
  rw [aligned.empty,List.nil_append] at bytes
  obtain ⟨first,others⟩ := List.forall_mem_append.mp aligned.small
  have count := aligned.count
  rw [List.length_append] at count
  obtain ⟨done',left',same,front,back⟩ := aligned.sealed.split
  obtain ⟨rfl,rfl⟩ := List.append_inj same (counted.trans front.length)
  have framed := aligned.sealed.frames lawful aligned.small
  have solid : ∀ record ∈ whole, record ≠ [] := by
    rintro record member rfl
    cases (framed [] (List.mem_append_left _ member)).1
  have records := flatten_length_le solid
  rw [List.length_append] at room
  have surveyed := processRecords_survey lawful (buf.len + 1) {conn with ciphertextReadBuf := buf} front
    (by change conn.readSeq + done.length < 2^64; omega) first bytes cut aligned.front
    (by
      change conn.plaintextReadBuf.len + whole.flatten.length ≤ conn.plaintextReadBuf.capacity
      rw [SlideBuffer.len,aligned.taken,aligned.plainCapacity,List.length_nil,
        show plaintextReadBufCapacity = ciphertextReadBufCapacity from rfl]
      omega)
    (by
      rw [SlideBuffer.len,bytes,List.length_append]
      omega)
  rw [calm] at surveyed
  obtain ⟨plain,cipher,ran,grown,start,plainCapacity,remains,cipherCapacity⟩ := surveyed
  dsimp only at grown plainCapacity cipherCapacity
  rw [aligned.taken,List.nil_append] at grown
  have process : RealityClientConnection.processNewPackets crypto {conn with ciphertextReadBuf := buf} = _ :=
    processNewPackets_complete aligned.complete aligned.readKey aligned.readIv aligned.running aligned.healthy
  rw [ran] at process
  refine ⟨{conn with
      readSeq := conn.readSeq + done.length
      plaintextReadBuf := plain
      ciphertextReadBuf := cipher},?_,grown,start,plainCapacity.trans aligned.plainCapacity,aligned.complete,
        aligned.readKey,aligned.readIv,
    aligned.running,aligned.healthy,back,?_,others,?_,?_,cipherCapacity.trans (capacity.trans aligned.cipherCapacity),
      rfl,rfl,rfl⟩
  · rw [feedAndProcess,RealityClientConnection.feed,fed]
    simp only [process]
  · change conn.readSeq + done.length + left.length < 2^64
    omega
  · change cipher.bytes ++ later = _
    rw [remains]
    exact ahead
  · change frameCut cipher.bytes = .more
    rw [remains]
    exact cut

theorem Aligned.record_length {inners : List Inner} {record : Bytes} {records : List Bytes} {conn : RealityClientConnection}
    (aligned : Aligned crypto key iv inners (record::records) conn) : record.length ≤ tlsMaxRecordSize := by
  obtain ⟨-,legal⟩ := aligned.sealed.frames lawful aligned.small record List.mem_cons_self
  have sizes : tlsMaxRecordSize = Reality.maxTlsCiphertextLen + 5 := rfl
  rw [List.length_drop] at legal
  omega

theorem feedAndProcess_record {inner : Inner} {inners : List Inner} {record : Bytes} {records : List Bytes}
    {conn : RealityClientConnection} (aligned : Aligned crypto key iv (inner::inners) (record::records) conn)
    (running : (survey (inner::inners)).2 = .running) :
    ∃ after, feedAndProcess crypto conn record = .ok (.ok after.plaintextReadBuf.len,after) ∧
      after.plaintextReadBuf.bytes = inner.piece ∧ after.plaintextReadBuf.start = 0 ∧
      after.plaintextReadBuf.capacity = plaintextReadBufCapacity ∧
      Aligned crypto key iv inners records {after with plaintextReadBuf := .new plaintextReadBufCapacity} := by
  obtain ⟨first,-⟩ := survey_running running
  have single : [record].flatten ++ [] = record := by simp
  have found := @feedAndProcess_frames crypto key iv lawful [inner] inners [record] records [] records.flatten conn aligned
    (congrArg Prod.snd first) rfl rfl rfl (by
      have short := aligned.record_length lawful
      have double : ciphertextReadBufCapacity = tlsMaxRecordSize * 2 := rfl
      rw [single]
      omega)
  rw [single,first] at found
  exact found

omit lawful in
/-- Taking the plaintext out leaves the buffer as it was at first. -/
theorem takePlaintext_all {conn : RealityClientConnection} (front : conn.plaintextReadBuf.start = 0)
    (capacity : conn.plaintextReadBuf.capacity = plaintextReadBufCapacity) :
    takePlaintext (reader conn) conn.plaintextReadBuf.len =
      (conn.plaintextReadBuf.bytes,{conn with plaintextReadBuf := .new plaintextReadBufCapacity}) := by
  have still : reader conn = conn := by
    rw [reader,SlideBuffer.maybeCompact,front,if_neg (by omega)]
  rw [still,takePlaintext]
  by_cases none : conn.plaintextReadBuf.len = 0
  · have empty := List.length_eq_zero_iff.mp none
    have fresh : conn.plaintextReadBuf = .new plaintextReadBufCapacity := by
      rw [SlideBuffer.mk.injEq]
      exact ⟨capacity,front,empty⟩
    rw [if_pos none,empty,← fresh]
  · rw [if_neg none]
    have consumed : conn.plaintextReadBuf.consume conn.plaintextReadBuf.len = .new plaintextReadBufCapacity := by
      rw [SlideBuffer.consume,dif_neg (Nat.lt_irrefl _),← capacity]
      rfl
    rw [consumed]

theorem openRecord_sealed {inner : Inner} {inners : List Inner} {record : Bytes} {records : List Bytes}
    {conn : RealityClientConnection} (aligned : Aligned crypto key iv (inner::inners) (record::records) conn)
    (running : (survey (inner::inners)).2 = .running) :
    ∃ after, openRecord crypto conn record = .ok (.ok inner.piece,after) ∧ Aligned crypto key iv inners records after := by
  obtain ⟨after,fed,plaintext,front,capacity,next⟩ := feedAndProcess_record lawful aligned running
  have taken := takePlaintext_all front capacity
  rw [plaintext] at taken
  refine ⟨_,?_,next⟩
  rw [openRecord,fed]
  dsimp only
  split
  next none =>
    have empty : inner.piece = [] := by
      rw [← plaintext]
      exact List.length_eq_zero_iff.mp none
    rw [none,takePlaintext,if_pos rfl] at taken ⊢
    have still : reader after = {after with plaintextReadBuf := .new plaintextReadBufCapacity} := congrArg Prod.snd taken
    have kept : reader after = after := by
      rw [reader,SlideBuffer.maybeCompact,front,if_neg (by omega)]
    rw [empty,← still,kept]
  · rw [taken]

end Session

/-! The padding. -/

section Filter

theorem tracks_solid {sofar : Bytes} {items : List DeframeResult} {deframer : FuzzyTlsDeframer}
    (tracks : FuzzyTlsDeframer.Tracks sofar items deframer) {front : Bytes} (member : .unknownPrefix front ∈ items) :
      front ≠ [] := by
  cases tracks with
  | searching prefixes buffer solid =>
    obtain ⟨bytes,inside,same⟩ := List.mem_map.mp member
    cases same
    exact solid front inside
  | deframing prefixes records inner solid =>
    rcases List.mem_append.mp member with left | right
    · obtain ⟨bytes,inside,same⟩ := List.mem_map.mp left
      cases same
      exact solid front inside
    · obtain ⟨_,_,other⟩ := List.mem_map.mp right
      cases other

/-- The inner deframer may be asked on while the filter goes on. -/
def Filters (stream : VisionReader) : Prop :=
  stream.filter.isFiltering = true → ∃ sofar items, FuzzyTlsDeframer.Tracks sofar items stream.innerReadDeframer

-- The state of a stream but for what the padding itself reads.
def touched (stream : VisionReader) (deframer : FuzzyTlsDeframer) (filter : VisionFilter) : VisionReader :=
  {stream with innerReadDeframer := deframer,filter := filter}

theorem filterRounds_ok (rounds : Nat) {stream : VisionReader} {sofar : Bytes} {items : List DeframeResult}
    (tracks : FuzzyTlsDeframer.Tracks sofar items stream.innerReadDeframer) :
    ∃ deframer filter, filterRounds rounds stream = (.ok (),stream.touched deframer filter) ∧
      (stream.touched deframer filter).Filters := by
  induction rounds generalizing stream items with
  | zero => exact ⟨_,_,rfl,fun _ => ⟨sofar,items,tracks⟩⟩
  | succ rounds ih =>
    rw [filterRounds]
    have answers := tracks.answers
    generalize stream.innerReadDeframer.nextRecord = answer at answers ⊢
    cases answers with
    | needData after tracks settled => exact ⟨_,_,rfl,fun _ => ⟨sofar,_,tracks⟩⟩
    | failed e after tracks settled => exact ⟨_,_,rfl,fun filtering => by cases filtering⟩
    | item result after found tracks shorter =>
      cases result with
      | needData => cases found
      | tlsRecord record =>
        dsimp only
        split
        next filtering =>
          obtain ⟨deframer,filter,ran,filters⟩ := @ih {stream with
            innerReadDeframer := after
            filter := stream.filter.filterRecord record} _ tracks
          exact ⟨deframer,filter,ran,filters⟩
        next stopped => exact ⟨after,stream.filter.filterRecord record,rfl,fun filtering => absurd filtering stopped⟩
      | unknownPrefix front =>
        have solid := tracks_solid tracks (List.mem_append_right items (List.mem_singleton_self _))
        simp only [if_neg solid]
        obtain ⟨deframer,filter,ran,filters⟩ := @ih {stream with
          innerReadDeframer := after
          filter := stream.filter.decrementFilterCount} _ tracks
        exact ⟨deframer,filter,ran,filters⟩

theorem filterUnpadded_ok {stream : VisionReader} (filters : stream.Filters) (unpadded : Bytes) :
    ∃ deframer filter, stream.filterUnpadded unpadded = (.ok (),stream.touched deframer filter) ∧
      (stream.touched deframer filter).Filters := by
  rw [filterUnpadded]
  split
  next going =>
    obtain ⟨sofar,items,tracks⟩ := filters going.2
    exact @filterRounds_ok _ {stream with innerReadDeframer := stream.innerReadDeframer.feed unpadded} _ _
      (tracks.feed unpadded)
  · exact ⟨stream.innerReadDeframer,stream.filter,rfl,filters⟩

end Filter

section Unpadding
variable {crypto : Crypto} {uuid : Uuid} {stream : VisionReader}

/-- The stream stands where its reader expects something. -/
def Stands (uuid : Uuid) (stream : VisionReader) : Expects → Prop
  | .response sofar => stream.vlessResponsePending = true ∧ stream.partialVlessResponse = sofar ∧
    stream.readUnpadder = .new uuid.bytes ∧ parseVlessResponse sofar = .more
  | .userId => stream.vlessResponsePending = false ∧ stream.readUnpadder = .new uuid.bytes
  | .block phase => stream.vlessResponsePending = false ∧ VisionUnpadder.view stream.readUnpadder.state = some phase ∧
    VisionUnpadder.held stream.readUnpadder.state = [] ∧ phase.Open

-- A record without content changes nothing of what is expected.
theorem Stands.read_nil {expects : Expects} (stands : stream.Stands uuid expects) :
    expects.read uuid.bytes [] = .waits expects [] := by
  cases expects with
  | response sofar =>
    rw [Expects.read,List.append_nil,stands.2.2.2]
  | userId => rfl
  | block phase =>
    rw [Expects.read,Phase.run_nil stands.2.2.2]
    rfl

/-- What the padded data come to for the stream that has read them. -/
def Handles (crypto : Crypto) (uuid : Uuid) (stream : VisionReader) (answer : Call Unit) : Progress → Prop
  | .waits after content => ∃ unpadder deframer filter,
    let next : VisionReader := {stream.touched deframer filter with
      readUnpadder := unpadder
      pendingRead := stream.pendingRead ++ content}
    answer = .ok (.ok (),next) ∧ next.Filters ∧ next.Stands uuid after
  | .finishes command content rest => ∃ unpadder deframer filter,
    answer = finishBlock crypto {stream.touched deframer filter with readUnpadder := unpadder} (content ++ rest)
      (some command)
  | .astray => True

theorem handles_replies (pending : stream.vlessResponsePending = false) (filters : stream.Filters) {phase : Phase}
    {data part : Bytes}
    (replies : VisionUnpadder.Replies [] (phase.run part) (stream.readUnpadder.unpad data)) :
    Handles crypto uuid stream (handlePaddedBytes crypto stream data) (.ofReading (phase.run part)) := by
  rw [handlePaddedBytes]
  have unfinished {after : Phase} {content : Bytes} (waits : phase.run part = .waits after content) : after.Open :=
    Phase.run_waits_open waits
  generalize phase.run part = reading at replies unfinished ⊢
  generalize stream.readUnpadder.unpad data = reply at replies ⊢
  obtain ⟨result,unpadder⟩ := reply
  cases reading with
  | invalid e => trivial
  | waits after content =>
    cases result with
    | error e => exact replies.elim
    | ok result =>
      obtain ⟨same,command,viewed,fresh⟩ := replies
      obtain ⟨deframer,filter,filtered,filters⟩ :=
        @filterUnpadded_ok {stream with readUnpadder := unpadder} filters result.content
      refine ⟨unpadder,deframer,filter,?_,filters,pending,viewed,fresh,unfinished rfl⟩
      simp only [filtered]
      rw [same]
      rcases command with none | continues
      · rw [none]
        rfl
      · rw [continues]
        rfl
  | finishes command content rest =>
    cases result with
    | error e => exact replies.elim
    | ok result =>
      obtain ⟨rfl,-⟩ := replies
      obtain ⟨deframer,filter,filtered,-⟩ :=
        @filterUnpadded_ok {stream with readUnpadder := unpadder} filters (content ++ rest)
      refine ⟨unpadder,deframer,filter,?_⟩
      simp only [List.nil_append,filtered]
      rfl

theorem handlePaddedBytes_handles {expects : Expects} (stands : stream.Stands uuid expects)
    (answered : stream.vlessResponsePending = false) (filters : stream.Filters) {data : Bytes} (some : data ≠ []) :
    Handles crypto uuid stream (handlePaddedBytes crypto stream data) (expects.read uuid.bytes data) := by
  cases expects with
  | response sofar => cases answered.symm.trans stands.1
  | block phase => exact handles_replies answered filters (VisionUnpadder.unpad_viewed stands.2.1 stands.2.2.1 data)
  | userId =>
    rw [Expects.read]
    by_cases found : data.take 16 = uuid.bytes
    · rw [readUserId_found some found]
      have replies := VisionUnpadder.unpad_uuid uuid true (data.drop 16)
      rw [← found,List.take_append_drop,found,← VisionUnpadder.new,← stands.2] at replies
      exact handles_replies answered filters replies
    · rw [readUserId,if_neg some,if_neg found]
      trivial

end Unpadding

/-! The end of the padding. -/

section Ending
variable {crypto : Crypto} {key : AeadKey} {iv : Bytes} {inners : List Inner} {records : List Bytes} {later : Bytes}
  {stream : VisionReader}

theorem cleanup_reader (stream : VisionReader) : stream.postPaddingCleanup.toTlsReader = stream.toTlsReader ∧
    stream.postPaddingCleanup.readMode = stream.readMode ∧
    stream.postPaddingCleanup.vlessResponsePending = stream.vlessResponsePending := by
  rw [postPaddingCleanup]
  split <;> exact ⟨rfl,rfl,rfl⟩

theorem switchRead_ok (padding : stream.readMode = .paddingTls) (name : String) (mode : VisionMode) :
    ∃ next : VisionReader, switchRead name mode stream = .ok (.ok (),next) ∧ next.toTlsReader = stream.toTlsReader ∧
      next.readMode = mode ∧ next.vlessResponsePending = stream.vlessResponsePending := by
  refine ⟨_,if_neg (not_not_intro padding),?_⟩
  exact cleanup_reader {stream with readMode := mode}

variable (lawful : crypto.Lawful)
include lawful

theorem Aligned.cut_front {record : Bytes} {conn : RealityClientConnection}
    (aligned : Aligned crypto key iv inners (record::records) conn) {buffer later more : Bytes}
    (ahead : buffer ++ later = record ++ more) :
    (buffer.length < record.length ∧ recordCut buffer = .more ∧ frameCut buffer = .more) ∨
    ∃ rest, buffer = record ++ rest ∧ rest ++ later = more ∧ recordCut buffer = .item record.length := by
  have found := sealed_records lawful aligned.sealed aligned.small record List.mem_cons_self
  have framed := (aligned.sealed.frames lawful aligned.small record List.mem_cons_self).1
  rcases Dynet.Lib.Framing.cut_front recordCutter found ahead with ⟨short,cut⟩ | ⟨rest,same,left,cut⟩
  · refine .inl ⟨short,cut,?_⟩
    rcases Dynet.Lib.Framing.cut_front frameCutter framed ahead with ⟨-,other⟩ | ⟨rest,rfl,-⟩
    · exact other
    · rw [List.length_append] at short
      omega
  · exact .inr ⟨rest,same,left,cut⟩

theorem endRecords_pieces (rounds : Nat) {deframer : TlsDeframer} (coherent : deframer.Coherent)
    (aligned : Aligned crypto key iv inners records stream.session) (running : (survey inners).2 = .running)
    (ahead : deframer.buffer ++ later = records.flatten) (enough : deframer.buffer.length < rounds) :
    ∃ (after : TlsDeframer) (session : RealityClientConnection) (pieces : Bytes) (left : List Inner) (rest : List Bytes),
      endRecords crypto rounds deframer stream =
        .ok (.ok after,{stream with session := session,pendingRead := stream.pendingRead ++ pieces}) ∧
      Aligned crypto key iv left rest session ∧ (survey left).2 = .running ∧ (survey inners).1 = pieces ++ (survey left).1 ∧
      after.buffer ++ later = rest.flatten ∧ frameCut after.buffer = .more := by
  induction rounds generalizing deframer inners records stream with
  | zero => omega
  | succ rounds ih =>
    -- A part of a record stays with the deframer.
    have stop (short : recordCut deframer.buffer = .more) (front : frameCut deframer.buffer = .more) :
        ∃ (after : TlsDeframer) (session : RealityClientConnection) (pieces : Bytes) (left : List Inner)
          (rest : List Bytes),
          endRecords crypto (rounds+1) deframer stream =
            .ok (.ok after,{stream with session := session,pendingRead := stream.pendingRead ++ pieces}) ∧
          Aligned crypto key iv left rest session ∧ (survey left).2 = .running ∧
          (survey inners).1 = pieces ++ (survey left).1 ∧ after.buffer ++ later = rest.flatten ∧
            frameCut after.buffer = .more := by
      rcases TlsDeframer.nextRecord_cases coherent with ⟨-,after,found,same,-⟩ | ⟨other,-⟩ | ⟨n,other,-⟩
      · refine ⟨after,stream.session,[],inners,records,?_,aligned,running,rfl,by rw [same]; exact ahead,
        by rw [same]; exact front⟩
        rw [endRecords,found,List.append_nil]
      · cases short.symm.trans other
      · cases short.symm.trans other
    cases records with
    | nil =>
      have empty : deframer.buffer = [] := (List.append_eq_nil_iff.mp ahead).1
      exact stop (by rw [empty]; rfl) (by rw [empty]; rfl)
    | cons record records =>
      rw [List.flatten_cons] at ahead
      rcases aligned.cut_front lawful ahead with ⟨-,short,front⟩ | ⟨rest,whole,left,cut⟩
      · exact stop short front
      · rcases TlsDeframer.nextRecord_cases coherent with ⟨other,-⟩ | ⟨other,-⟩ | ⟨n,same,found⟩
        · cases cut.symm.trans other
        · cases cut.symm.trans other
        · cases same.symm.trans cut
          rw [whole,List.take_left,List.drop_left] at found
          cases inners with
          | nil => cases aligned.sealed
          | cons inner inners =>
            obtain ⟨first,others⟩ := survey_running running
            obtain ⟨session,opened,next⟩ := openRecord_sealed lawful aligned running
            have fresh : TlsDeframer.Coherent ⟨rest,.readingHeader⟩ := fun _ impossible => by cases impossible
            have shorter : rest.length < rounds := by
              have positive := (recordCutter.progress cut).1
              rw [whole,List.length_append] at enough
              omega
            obtain ⟨after,session,pieces,more,tail,ran,final,calm,content,remains,front⟩ := @ih inners records
              {stream with session := session,pendingRead :=
                stream.pendingRead ++ inner.piece} _ fresh next others left shorter
            refine ⟨after,session,inner.piece ++ pieces,more,tail,?_,final,calm,?_,remains,front⟩
            · rw [endRecords,found]
              simp only [opened]
              rw [ran]
              simp only [List.append_assoc]
            · have joined := survey_append [inner] inners
              rw [first,List.singleton_append] at joined
              rw [congrArg Prod.fst joined,List.append_assoc,← content]

omit lawful in
/-- A session in the middle of a record, whose plaintext has been taken out. -/
theorem hears_of_awaits {tls : TlsReader} (awaits : tls.session.Awaits crypto key iv inners records later)
    (running : (survey inners).2 = .running) :
    Hears crypto key iv .running later (tls.pendingRead ++ (survey inners).1) tls := by
  have fresh : tls.session.plaintextReadBuf = .new plaintextReadBufCapacity := by
    rw [SlideBuffer.mk.injEq]
    exact ⟨awaits.plainCapacity,awaits.front,awaits.taken⟩
  have waits : tls.Waits crypto key iv inners records later := by
    refine ⟨?_,awaits.plainCapacity,fun _ => awaits.front⟩
    rw [← fresh]
    exact awaits
  refine .running waits running ?_
  rw [held,awaits.taken,List.append_nil]

theorem endPadding_hears (padding : stream.readMode = .paddingTls) {deframer : TlsDeframer} (coherent : deframer.Coherent)
    (aligned : Aligned crypto key iv inners records stream.session) (running : (survey inners).2 = .running)
    (ahead : deframer.buffer ++ later = records.flatten) :
    ∃ next, endPadding crypto stream deframer = .ok (.ok (),next) ∧ next.readMode = .tls ∧
      next.isReadEof = stream.isReadEof ∧
      next.vlessResponsePending = stream.vlessResponsePending ∧
      Hears crypto key iv .running later (stream.pendingRead ++ (survey inners).1) next.toTlsReader := by
  obtain ⟨after,session,pieces,left,rest,ran,final,calm,content,remains,front⟩ :=
    endRecords_pieces lawful (deframer.pendingBytes + 1) coherent aligned running ahead (Nat.lt_succ_self _)
  rw [endPadding,ran,content,← List.append_assoc]
  dsimp only
  by_cases none : after.remainingData = []
  · rw [if_pos none]
    obtain ⟨next,switched,same,mode,answered⟩ := @switchRead_ok
      {stream with session := session,pendingRead := stream.pendingRead ++ pieces} padding "switch_read_to_tls_mode" .tls
    refine ⟨next,switched,mode,?_,answered,?_⟩
    · rw [same]
    · change after.buffer = [] at none
      rw [none,List.nil_append] at remains
      rw [same,remains]
      exact @hears_of_awaits _ _ _ _ _ _ ⟨stream.pendingRead ++ pieces,session,stream.isReadEof⟩ final calm
  · rw [if_neg none]
    have short : after.buffer.length ≤ ciphertextReadBufCapacity := by
      have bound := frames_part_length (final.sealed.frames lawful final.small) front remains
      have double : ciphertextReadBufCapacity = tlsMaxRecordSize * 2 := rfl
      omega
    obtain ⟨fed,feeds,plaintext,start,capacity,awaits⟩ := @feedAndProcess_frames crypto key iv lawful [] left [] rest
      after.buffer later session final rfl rfl front remains short
    have length : fed.plaintextReadBuf.len = 0 := by
      rw [SlideBuffer.len,plaintext]
      rfl
    have fresh : fed.plaintextReadBuf = .new plaintextReadBufCapacity := by
      rw [SlideBuffer.mk.injEq]
      exact ⟨capacity,start,plaintext⟩
    rw [← fresh] at awaits
    obtain ⟨next,switched,same,mode,answered⟩ := @switchRead_ok
      {stream with session := fed,pendingRead := stream.pendingRead ++ pieces} padding "switch_read_to_tls_mode" .tls
    refine ⟨next,?_,mode,?_,answered,?_⟩
    · have feeds' : feedAndProcess crypto session after.remainingData = .ok (.ok fed.plaintextReadBuf.len,fed) := feeds
      simp only [feeds',length,ne_eq,not_true_eq_false,if_false]
      exact switched
    · rw [same]
    · rw [same]
      exact @hears_of_awaits _ _ _ _ _ _ ⟨stream.pendingRead ++ pieces,fed,stream.isReadEof⟩ awaits calm

end Ending

end VisionReader

end Dynet.Vless
