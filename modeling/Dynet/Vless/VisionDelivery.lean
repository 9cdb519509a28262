import Dynet.Vless.VisionRecords

/-! What a VisionStream delivers. However the records of the server arrive and are read, it
is what the server sent: the content of its padded blocks, and what follows the last one. -/
namespace Dynet.Vless
open Dynet.Lib.Framing
open Reality RealityClientConnection TlsReader

namespace VisionReader

/-! The socket. -/

def Going : TcpRead → Prop
  | .ok chunk => chunk.bytes ≠ []
  | .error e => e.kind = .wouldBlock

instance (answer : TcpRead) : Decidable (Going answer) :=
  match answer with
  | .ok chunk => inferInstanceAs (Decidable (chunk.bytes ≠ []))
  | .error e => inferInstanceAs (Decidable (e.kind = .wouldBlock))

/-- A socket that stays open: it has bytes, or nothing to read yet. -/
def Steady (tcp : List TcpRead) : Prop := ∀ answer ∈ tcp, Going answer

instance (tcp : List TcpRead) : Decidable (Steady tcp) := inferInstanceAs (Decidable (∀ answer ∈ tcp, Going answer))

/-- A read that waits or delivers something. -/
def Fine (result : PollRead) : Prop := result = .pending ∨ ∃ bytes, result = .ready (.ok bytes) ∧ bytes ≠ []

/-- A read of an open socket with room for something, and what is left of the socket. -/
inductive ReadsTcp (tcp : List TcpRead) : TcpRead × List TcpRead → Prop where
  | idle (e : IoError) (rest : List TcpRead) (waits : e.kind = .wouldBlock) (same : received rest = received tcp)
    (steady : Steady rest) :
      ReadsTcp tcp (.error e,rest)
  | data (chunk : Chunk) (rest : List TcpRead) (some : chunk.bytes ≠ [])
    (whole : received tcp = chunk.bytes ++ received rest)
      (steady : Steady rest) (shorter : socketRounds rest < socketRounds tcp) : ReadsTcp tcp (.ok chunk,rest)

theorem readTcp_steady {tcp : List TcpRead} (steady : Steady tcp) {size : Nat} (room : 0 < size) : ReadsTcp tcp
    (readTcp size tcp) := by
  cases tcp with
  | nil => exact .idle wouldBlock [] rfl rfl steady
  | cons answer tcp =>
    obtain ⟨first,others⟩ := List.forall_mem_cons.mp steady
    cases answer with
    | error e => exact .idle e tcp first rfl others
    | ok chunk =>
      have positive := List.length_pos_iff.mpr first
      rw [readTcp]
      split
      next fits =>
        refine .data chunk tcp first rfl others ?_
        simp only [socketRounds,TlsReader.received,List.flatMap_cons,List.length_append,List.length_cons,TcpRead.bytes]
        omega
      next long =>
        have left : chunk.bytes.drop size ≠ [] := by
          rw [ne_eq,List.drop_eq_nil_iff]
          omega
        refine .data ⟨chunk.bytes.take size,_⟩ _ ?_ ?_ (List.forall_mem_cons.mpr ⟨left,others⟩) ?_
        · exact List.length_pos_iff.mp (by rw [List.length_take]; omega)
        · simp only [TlsReader.received,List.flatMap_cons,TcpRead.bytes,← List.append_assoc,List.take_append_drop]
        · simp only [socketRounds,TlsReader.received,List.flatMap_cons,List.length_append,List.length_cons,TcpRead.bytes,
          List.length_drop]
          omega

/-! The TLS mode. -/

section Tls
variable {crypto : Crypto} {key : AeadKey} {iv : Bytes} {later owed : Bytes} {tls : TlsReader}

theorem Hears.settled (hears : Hears crypto key iv .running [] owed tls) (empty : tls.held = [])
    (lawful : crypto.Lawful) : owed = [] := by
  cases hears with
  | closed _ _ impossible => cases impossible
  | running waits ends owes =>
    have framed := waits.awaits.sealed.frames lawful waits.awaits.small
    have stream := waits.awaits.stream
    rw [List.append_nil] at stream
    have none := records_nil (fun record member => (framed record member).1) waits.awaits.cut stream
    have length := waits.awaits.sealed.length
    rw [none] at length
    have last := List.length_eq_zero_iff.mp length.symm
    rw [owes,empty,last]
    rfl

variable (lawful : crypto.Lawful)
include lawful

theorem Hears.round {chunk : Chunk} (hears : Hears crypto key iv .running (chunk.bytes ++ later) owed tls)
    (empty : tls.held = [])
    (some : chunk.bytes ≠ []) {size : Nat} (room : 0 < size) :
    ∃ found after still, readRound crypto tls size (.ok chunk) = .ok (found,after) ∧ after.isReadEof = tls.isReadEof ∧
      owed = (found.elim [] PollRead.bytes) ++ still ∧ Hears crypto key iv .running later still after ∧
      (found = none ∧ after.held = [] ∨ ∃ bytes, found = .some (.ready (.ok bytes)) ∧ bytes ≠ []) := by
  obtain ⟨spent,silent⟩ := List.append_eq_nil_iff.mp empty
  cases hears with
  | closed _ _ impossible => cases impossible
  | running waits ends owes =>
    obtain ⟨awaits,full,tidy⟩ := waits
    have fresh : SlideBuffer.new plaintextReadBufCapacity = tls.session.plaintextReadBuf := by
      rw [SlideBuffer.mk.injEq]
      exact ⟨full.symm,(tidy silent).symm,silent.symm⟩
    rw [fresh] at awaits
    obtain ⟨buf,done,left,rest,rfl,called,processed⟩ := awaits.process lawful
    obtain ⟨calm,ends⟩ := survey_split ends
    rw [survey_append] at owes
    rw [calm] at processed
    obtain ⟨next,process,content,front,capacity,awaited⟩ := processed
    rw [capacity] at awaited
    generalize survey done = first at owes content calm
    obtain ⟨bytes,fate⟩ := first
    cases calm
    have heard : Hears crypto key iv .running later owed {tls with session := next} := by
      refine .running ⟨awaited,capacity,fun _ => front⟩ ends ?_
      rw [owes,empty,held,spent,content]
      rfl
    have length : chunk.bytes.length ≠ 0 := fun zero => some (List.length_eq_zero_iff.mp zero)
    rcases @readRound_processed crypto tls size _ room _ _ _ called length process with
      ⟨none,round⟩ | ⟨bytes,buf,round,filled,same,capacity,tidy⟩
    · exact ⟨.none,_,owed,round,rfl,rfl,heard,.inl ⟨rfl,by rw [held,spent,none]; rfl⟩⟩
    · have whole : ({tls with session := next} : TlsReader).held = bytes ++ ([] ++ buf.bytes) := by
        rw [held,spent,same]
        rfl
      obtain ⟨still,owes,served⟩ := heard.served whole capacity fun _ => tidy
      rw [← spent] at served
      exact ⟨_,_,still,round,rfl,owes,served,.inr ⟨bytes,rfl,filled⟩⟩

theorem Hears.rounds {unread : Bytes} {tcp : List TcpRead} (steady : Steady tcp)
    (hears : Hears crypto key iv .running (received tcp ++ unread) owed tls) (empty : tls.held = []) {size : Nat}
    (room : 0 < size) :
    ∃ result after rest still, readLoop crypto tls size tcp = .ok (result,after,rest) ∧ Fine result ∧ Steady rest ∧
      after.isReadEof = tls.isReadEof ∧ owed = result.bytes ++ still ∧
      Hears crypto key iv .running (received rest ++ unread) still after ∧ (result = .pending → after.held = []) := by
  induction tcp generalizing tls owed with
  | nil =>
    obtain ⟨buf,bytes,capacity,round⟩ := @readRound_idle crypto tls size (.error wouldBlock) rfl
    exact ⟨.pending,_,[],owed,by rw [readLoop,round]; rfl,.inl rfl,steady,Bool.or_false _,rfl,
      hears.moved bytes capacity _,fun _ => empty⟩
  | cons answer tcp ih =>
    obtain ⟨filled,others⟩ := List.forall_mem_cons.mp steady
    cases answer with
    | ok chunk =>
      have ahead : received (.ok chunk::tcp) ++ unread = chunk.bytes ++ (received tcp ++ unread) := by
        rw [TlsReader.received,List.flatMap_cons,List.append_assoc]
        rfl
      rw [ahead] at hears
      obtain ⟨found,next,still,round,eof,owes,heard,served⟩ := Hears.round lawful hears empty filled room
      rcases served with ⟨rfl,silent⟩ | ⟨bytes,rfl,more⟩
      · obtain ⟨result,after,rest,last,ran,fine,kept,same,owes',final,waiting⟩ := ih others heard silent
        exact ⟨result,after,rest,last,by rw [readLoop,round]; exact ran,fine,kept,same.trans eof,owes.trans owes',
          final,waiting⟩
      · exact ⟨_,next,tcp,still,by rw [readLoop,round],.inr ⟨bytes,rfl,more⟩,others,eof,owes,heard,
        fun other => by cases other⟩
    | error e =>
      obtain ⟨buf,bytes,capacity,round⟩ := @readRound_idle crypto tls size (.error e) rfl
      have idle : TcpRead.idle (.error e) = .pending := if_pos filled
      rw [idle] at round
      exact ⟨.pending,_,tcp,owed,by rw [readLoop,round]; rfl,.inl rfl,others,Bool.or_false _,rfl,
        hears.moved bytes capacity _,fun _ => empty⟩

theorem Hears.read {unread : Bytes} {tcp : List TcpRead} (steady : Steady tcp)
    (hears : Hears crypto key iv .running (received tcp ++ unread) owed tls) (opened : tls.isReadEof = false) {size : Nat}
    (room : 0 < size) : ∃ result after rest still, tls.pollRead crypto size tcp = .ok (result,after,rest) ∧ Fine result ∧
      Steady rest ∧ after.isReadEof = false ∧ owed = result.bytes ++ still ∧
      Hears crypto key iv .running (received rest ++ unread) still after ∧ (result = .pending → after.held = []) := by
  by_cases empty : tls.held = []
  · rw [pollRead_empty empty,readSocket,if_neg (by rw [compacted,opened]; exact Bool.false_ne_true)]
    obtain ⟨result,after,rest,still,ran,fine,kept,same,owes,heard,waiting⟩ :=
      Hears.rounds lawful steady hears.compacted ((compacted_held tls).trans empty) room
    exact ⟨result,after,rest,still,ran,fine,kept,same.trans opened,owes,heard,waiting⟩
  · obtain ⟨bytes,pending,buf,read,filled,same,capacity,tidied⟩ := @pollRead_held crypto tls empty size room tcp
    obtain ⟨still,owes,served⟩ := hears.served same capacity tidied
    exact ⟨_,_,tcp,still,read,.inr ⟨bytes,rfl,filled⟩,steady,opened,owes,served,fun other => by cases other⟩

end Tls

/-! What is owed. -/

section Owing
variable {crypto : Crypto} {key : AeadKey} {iv : Bytes} {uuid : Uuid} {expects : Expects} {inners : List Inner}
  {records : List Bytes} {raw later owed content : Bytes} {stream : VisionReader}

/-- A stream in the padding, in front of the given records and the raw bytes behind them. -/
structure Pads (crypto : Crypto) (key : AeadKey) (iv : Bytes) (uuid : Uuid) (expects : Expects) (inners : List Inner)
    (records : List Bytes) (raw later : Bytes) (deframer : TlsDeframer) (stream : VisionReader) : Prop where
  padding : stream.readMode = .paddingTls
  opened : stream.isReadEof = false
  outer : stream.outerReadDeframer = some deframer
  coherent : deframer.Coherent
  ahead : deframer.buffer ++ later = records.flatten ++ raw
  aligned : Aligned crypto key iv inners records stream.session
  running : (survey inners).2 = .running
  stands : stream.Stands uuid expects
  filters : stream.Filters

/-- What a stream is still to deliver, `later` being the bytes that have not been read. -/
inductive Owes (crypto : Crypto) (key : AeadKey) (iv : Bytes) (uuid : Uuid) (raw later owed : Bytes)
    (stream : VisionReader) : Prop where
  | padding {expects : Expects} {inners : List Inner} {records : List Bytes} {deframer : TlsDeframer} {content : Bytes}
      (pads : stream.Pads crypto key iv uuid expects inners records raw later deframer)
      (quiet : recordCut deframer.buffer = .more)
      (means : meant uuid.bytes raw expects (inners.map Inner.piece) = some content)
      (owes : owed = stream.pendingRead ++ content)
  | tls (mode : stream.readMode = .tls) (opened : stream.isReadEof = false)
      (hears : Hears crypto key iv .running later owed stream.toTlsReader)
  | direct (mode : stream.readMode = .direct) (owes : owed = stream.pendingRead ++ later)

theorem meant_nil (means : meant uuid.bytes raw expects [] = some content) : raw = [] ∧ content = [] := by
  rw [meant] at means
  split at means
  next none =>
    cases means
    exact ⟨none,rfl⟩
  · cases means

theorem Pads.handled (lawful : crypto.Lawful) {deframer : TlsDeframer}
    (pads : stream.Pads crypto key iv uuid expects inners records raw later deframer)
    (answered : stream.vlessResponsePending = false)
    {data : Bytes} (some : data ≠ [])
    (means : meant uuid.bytes raw expects (data::inners.map Inner.piece) = .some content) :
    ∃ next, handlePaddedBytes crypto stream data = .ok (.ok (),next) ∧ next.vlessResponsePending = false ∧
      ((∃ after more, next.Pads crypto key iv uuid after inners records raw later deframer ∧
        meant uuid.bytes raw after (inners.map Inner.piece) = .some more ∧
        stream.pendingRead ++ content = next.pendingRead ++ more) ∨
      next.readMode ≠ .paddingTls ∧ Owes crypto key iv uuid raw later (stream.pendingRead ++ content) next) := by
  have handles := @handlePaddedBytes_handles crypto uuid stream expects pads.stands answered pads.filters data some
  rw [meant] at means
  generalize expects.read uuid.bytes data = progress at handles means
  cases progress with
  | astray => cases means
  | waits after front =>
    obtain ⟨unpadder,inner,filter,call,filters,stands⟩ := handles
    obtain ⟨more,left,rfl⟩ := Option.map_eq_some_iff.mp means
    refine ⟨_,call,answered,.inl ⟨after,more,?_,left,(List.append_assoc _ _ _).symm⟩⟩
    exact ⟨pads.padding,pads.opened,pads.outer,pads.coherent,pads.ahead,pads.aligned,pads.running,stands,filters⟩
  | finishes command front rest =>
    obtain ⟨unpadder,inner,filter,call⟩ := handles
    rw [call]
    cases command with
    | continueBlock => cases means
    | endBlock =>
      simp only at means
      split at means
      next none =>
        cases means
        have ahead := pads.ahead
        rw [none,List.append_nil] at ahead
        obtain ⟨next,ended,mode,eof,pending,hears⟩ := @endPadding_hears crypto key iv inners records later
          {stream.touched inner filter with
            readUnpadder := unpadder
            outerReadDeframer := .none
            pendingRead := stream.pendingRead ++ (front ++ rest)} lawful pads.padding deframer pads.coherent pads.aligned
          pads.running ahead
        refine ⟨next,?_,pending.trans answered,.inr ⟨by rw [mode]; decide,.tls mode (eof.trans pads.opened) ?_⟩⟩
        · rw [finishBlock]
          simp only [touched,pads.outer]
          exact ended
        · rw [survey_pieces pads.running] at hears
          simpa only [List.append_assoc] using hears
      · cases means
    | direct =>
      simp only at means
      split at means
      next last =>
        cases means
        have none : inners = [] := List.map_eq_nil_iff.mp last
        have empty : records = [] := List.length_eq_zero_iff.mp (by rw [pads.aligned.sealed.length,none]; rfl)
        have ahead := pads.ahead
        rw [empty,List.flatten_nil,List.nil_append] at ahead
        obtain ⟨next,switched,same,mode,pending⟩ := @switchRead_ok
          {stream.touched inner filter with
            readUnpadder := unpadder
            outerReadDeframer := .none
            pendingRead := stream.pendingRead ++
              ((front ++ rest) ++ deframer.remainingData)} pads.padding "switch_read_to_direct_mode" .direct
        refine ⟨next,?_,pending.trans answered,.inr ⟨by rw [mode]; decide,.direct mode ?_⟩⟩
        · rw [finishBlock]
          simp only [touched,pads.outer]
          exact switched
        · rw [congrArg TlsReader.pendingRead same,← ahead]
          simp [TlsDeframer.remainingData]
      · cases means

theorem Pads.run (lawful : crypto.Lawful) (rounds : Nat) {deframer : TlsDeframer}
    (pads : stream.Pads crypto key iv uuid expects inners records raw later deframer)
    (answered : stream.vlessResponsePending = false)
    (means : meant uuid.bytes raw expects (inners.map Inner.piece) = some content)
    (enough : deframer.buffer.length < rounds) :
    ∃ next, padRecords crypto rounds stream = .ok (.ok (),next) ∧ next.vlessResponsePending = false ∧
      Owes crypto key iv uuid raw later (stream.pendingRead ++ content) next := by
  induction rounds generalizing stream expects inners records deframer content with
  | zero => omega
  | succ rounds ih =>
    have stop (short : recordCut deframer.buffer = .more) : ∃ next, padRecords crypto (rounds+1) stream =
      .ok (.ok (),next) ∧
        next.vlessResponsePending = false ∧ Owes crypto key iv uuid raw later (stream.pendingRead ++ content) next := by
      rcases TlsDeframer.nextRecord_cases pads.coherent with ⟨-,after,found,same,kept⟩ | ⟨other,-⟩ | ⟨n,other,-⟩
      · refine ⟨{stream with outerReadDeframer := .some after},by simp only [padRecords,pads.outer,found],answered,
          .padding ⟨pads.padding,pads.opened,rfl,kept,?_,pads.aligned,pads.running,pads.stands,pads.filters⟩ ?_ means rfl⟩
        · rw [same]
          exact pads.ahead
        · rw [same]
          exact short
      · cases short.symm.trans other
      · cases short.symm.trans other
    have ahead := pads.ahead
    cases records with
    | nil =>
      have none : inners = [] := List.length_eq_zero_iff.mp pads.aligned.sealed.length.symm
      subst none
      obtain ⟨rfl,-⟩ := meant_nil means
      exact stop (by rw [(List.append_eq_nil_iff.mp ahead).1]; rfl)
    | cons record records =>
      rw [List.flatten_cons,List.append_assoc] at ahead
      rcases pads.aligned.cut_front lawful ahead with ⟨-,short,-⟩ | ⟨rest,whole,left,cut⟩
      · exact stop short
      · rcases TlsDeframer.nextRecord_cases pads.coherent with ⟨other,-⟩ | ⟨other,-⟩ | ⟨n,same,found⟩
        · cases cut.symm.trans other
        · cases cut.symm.trans other
        · cases same.symm.trans cut
          rw [whole,List.take_left,List.drop_left] at found
          have shorter : rest.length < rounds := by
            have positive := (recordCutter.progress cut).1
            rw [whole,List.length_append] at enough
            omega
          cases inners with
          | nil => cases pads.aligned.sealed
          | cons inner inners =>
            obtain ⟨-,others⟩ := survey_running pads.running
            obtain ⟨session,opened,next⟩ := openRecord_sealed lawful pads.aligned pads.running
            have behind : Pads crypto key iv uuid expects inners records raw later ⟨rest,.readingHeader⟩
                {stream with outerReadDeframer := .some ⟨rest,.readingHeader⟩,session := session} :=
              ⟨pads.padding,pads.opened,rfl,fun _ impossible => (by cases impossible),left,next,others,pads.stands,
                pads.filters⟩
            rw [padRecords]
            simp only [pads.outer,found,opened]
            rw [List.map_cons] at means
            by_cases empty : inner.piece = []
            · rw [if_pos empty]
              rw [empty,meant_skip pads.stands.read_nil] at means
              exact ih behind answered means shorter
            · rw [if_neg empty]
              obtain ⟨after,call,pending,⟨expects,more,pads,means,same⟩ | ⟨mode,owes⟩⟩ :=
                behind.handled lawful answered empty means
              · obtain ⟨final,ran,kept,owes⟩ := ih pads pending means shorter
                refine ⟨final,?_,kept,?_⟩
                · simp only [call,if_pos pads.padding]
                  exact ran
                · exact same ▸ owes
              · exact ⟨after,by simp only [call,if_neg mode],pending,owes⟩

end Owing

/-! The reads. -/

section Polls
variable {crypto : Crypto} {key : AeadKey} {iv : Bytes} {uuid : Uuid} {raw unread owed : Bytes} {stream : VisionReader}
  {tcp : List TcpRead} {size : Nat}

/-- A read that delivers the front of what is owed, and waits only for the socket. -/
structure Polled (crypto : Crypto) (key : AeadKey) (iv : Bytes) (uuid : Uuid) (raw unread owed : Bytes) (result : PollRead)
    (after : VisionReader) (rest : List TcpRead) : Prop where
  fine : Fine result
  steady : Steady rest
  owes : ∃ still, owed = result.bytes ++ still ∧ Owes crypto key iv uuid raw (received rest ++ unread) still after ∧
    (result = .pending → received rest ++ unread = [] → still = [])

theorem Pads.settled (lawful : crypto.Lawful) {expects : Expects} {inners : List Inner} {records : List Bytes}
    {deframer : TlsDeframer}
    {content : Bytes} (pads : stream.Pads crypto key iv uuid expects inners records raw [] deframer)
    (quiet : recordCut deframer.buffer = .more)
    (means : meant uuid.bytes raw expects (inners.map Inner.piece) = some content) :
    content = [] := by
  have ahead := pads.ahead
  cases records with
  | nil =>
    have none : inners = [] := List.length_eq_zero_iff.mp pads.aligned.sealed.length.symm
    subst none
    exact (meant_nil means).2
  | cons record records =>
    rw [List.flatten_cons,List.append_assoc] at ahead
    rcases pads.aligned.cut_front lawful ahead with ⟨short,-⟩ | ⟨rest,-,-,cut⟩
    · rw [List.append_nil] at ahead
      rw [ahead,List.length_append] at short
      omega
    · cases quiet.symm.trans cut

theorem Owes.serve (owes : Owes crypto key iv uuid raw (received tcp ++ unread) owed stream) (steady : Steady tcp)
    (waiting : stream.pendingRead ≠ []) (room : 0 < size) :
    Polled crypto key iv uuid raw unread owed (stream.servePending size).1 (stream.servePending size).2 tcp := by
  have more : stream.pendingRead.take size ≠ [] := by
    have := List.length_pos_iff.mpr waiting
    exact List.length_pos_iff.mp (by rw [List.length_take]; omega)
  refine ⟨.inr ⟨_,rfl,more⟩,steady,?_⟩
  have front {back : Bytes} (owes : owed = stream.pendingRead ++ back) :
      owed = stream.pendingRead.take size ++ ((stream.servePending size).2.pendingRead ++ back) := by
    rw [owes,← List.append_assoc]
    exact congrArg (· ++ back) (List.take_append_drop size _).symm
  cases owes with
  | @padding expects inners records deframer content pads quiet means owes =>
    have served : (stream.servePending size).2.Pads crypto key iv uuid expects inners records raw
      (received tcp ++ unread) deframer :=
      ⟨pads.padding,pads.opened,pads.outer,pads.coherent,pads.ahead,pads.aligned,pads.running,
        by cases expects <;> exact pads.stands,
        pads.filters⟩
    exact ⟨_,front owes,.padding served quiet means rfl,fun other => by cases other⟩
  | tls mode opened hears =>
    have same : stream.toTlsReader.held = stream.pendingRead.take size ++
        (stream.pendingRead.drop size ++ stream.session.plaintextReadBuf.bytes) := by
      rw [← List.append_assoc,List.take_append_drop]
      rfl
    obtain ⟨still,owes,served⟩ := hears.served same rfl (fun tidy => tidy)
    exact ⟨still,owes,.tls mode opened served,fun other => by cases other⟩
  | direct mode owes =>
    have served : (stream.servePending size).2.readMode = .direct := mode
    exact ⟨_,front owes,.direct served rfl,fun other => by cases other⟩

theorem Owes.after (lawful : crypto.Lawful) (owes : Owes crypto key iv uuid raw (received tcp ++ unread) owed stream)
    (steady : Steady tcp) (room : 0 < size) :
    (afterPadding crypto stream size tcp = .ok none ∧ stream.readMode = .paddingTls ∧ stream.pendingRead = []) ∨
    ∃ result next rest, afterPadding crypto stream size tcp = .ok (some (result,next,rest)) ∧
      next.vlessResponsePending = stream.vlessResponsePending ∧
        Polled crypto key iv uuid raw unread owed result next rest := by
  by_cases waiting : stream.pendingRead ≠ []
  · exact .inr ⟨_,_,tcp,if_pos waiting,rfl,owes.serve steady waiting room⟩
  · have none := not_ne_iff.mp waiting
    cases owes with
    | padding pads quiet means owes =>
      refine .inl ⟨?_,pads.padding,none⟩
      rw [afterPadding,if_neg waiting,pads.padding]
    | tls mode opened hears =>
      obtain ⟨result,after,rest,still,ran,fine,kept,eof,owes,heard,silent⟩ := Hears.read lawful steady hears opened room
      rw [TlsReader.pollRead,if_neg waiting] at ran
      have call : afterPadding crypto stream size tcp = (readTlsMode crypto stream size tcp).map some := by
        rw [afterPadding,if_neg waiting,mode]
      refine .inr ⟨result,{stream with toTlsReader := after},rest,?_,rfl,fine,kept,still,owes,.tls mode eof heard,?_⟩
      · rw [call,readTlsMode,ran]
        rfl
      · intro pending last
        rw [last] at heard
        exact Hears.settled heard (silent pending) lawful
    | direct mode owes =>
      have call : afterPadding crypto stream size tcp = .ok (some (stream.readDirect size tcp)) := by
        rw [afterPadding,if_neg waiting,mode]
      refine .inr ⟨(readTcp size tcp).1.poll,stream,(readTcp size tcp).2,call,rfl,?_⟩
      rw [none,List.nil_append] at owes
      have reads := readTcp_steady steady room
      generalize readTcp size tcp = answer at reads ⊢
      cases reads with
      | idle e rest waits same kept =>
        have idle : TcpRead.poll (.error e) = .pending := if_pos waits
        simp only [idle]
        refine ⟨.inl rfl,kept,owed,rfl,.direct mode ?_,fun _ last => ?_⟩
        · rw [none,same,owes]
          rfl
        · rw [owes,← same,last]
      | data chunk rest filled whole kept =>
        refine ⟨.inr ⟨chunk.bytes,rfl,filled⟩,kept,received rest ++ unread,?_,.direct mode (by rw [none]; rfl),
          fun other => by cases other⟩
        rw [owes,whole,List.append_assoc]
        rfl

/-- The loop of the padding: each round feeds a read to the deframer. -/
theorem Owes.rounds (lawful : crypto.Lawful) (rounds : Nat)
    (owes : Owes crypto key iv uuid raw (received tcp ++ unread) owed stream)
    (mode : stream.readMode = .paddingTls) (none : stream.pendingRead = []) (answered : stream.vlessResponsePending = false)
    (steady : Steady tcp) (room : 0 < size) (enough : socketRounds tcp < rounds) :
    ∃ result next rest, paddingRounds crypto size rounds stream tcp = .ok (result,next,rest) ∧
      next.vlessResponsePending = false ∧
      Polled crypto key iv uuid raw unread owed result next rest := by
  induction rounds generalizing stream tcp owed with
  | zero => omega
  | succ rounds ih =>
    cases owes with
    | tls other => cases mode.symm.trans other
    | direct other => cases mode.symm.trans other
    | @padding expects inners records deframer content pads quiet means owes =>
      rw [none,List.nil_append] at owes
      have reads := readTcp_steady steady (show 0 < tlsReadBufferSize by decide)
      rw [paddingRounds]
      generalize readTcp tlsReadBufferSize tcp = answer at reads ⊢
      cases reads with
      | idle e rest waits same kept =>
        have idle : TcpRead.poll (.error e) = .pending := if_pos waits
        simp only [idle]
        rw [← same] at pads
        refine ⟨_,_,_,rfl,answered,.inl rfl,kept,owed,rfl,.padding pads quiet means (by rw [none,owes]; rfl),
          fun _ last => ?_⟩
        rw [last] at pads
        rw [owes]
        exact pads.settled lawful quiet means
      | data chunk rest filled whole kept shorter =>
        have fed : stream.feedOuter chunk.bytes = .ok ((deframer.feed chunk.bytes).pendingBytes + 1,
            {stream with outerReadDeframer := some (deframer.feed chunk.bytes)}) := by
          rw [feedOuter,pads.outer]
        have ahead : (deframer.feed chunk.bytes).buffer ++ (received rest ++ unread) = records.flatten ++ raw := by
          rw [← pads.ahead,whole]
          simp [TlsDeframer.feed]
        have behind : Pads crypto key iv uuid expects inners records raw (received rest ++ unread)
          (deframer.feed chunk.bytes)
            {stream with outerReadDeframer := some (deframer.feed chunk.bytes)} :=
          ⟨pads.padding,pads.opened,rfl,pads.coherent.feed _,ahead,pads.aligned,pads.running,
            by cases expects <;> exact pads.stands,
            pads.filters⟩
        obtain ⟨next,ran,pending,owing⟩ := behind.run lawful
          ((deframer.feed chunk.bytes).pendingBytes + 1) answered means (Nat.lt_succ_self _)
        simp only [if_neg filled,fed,ran]
        have same : stream.pendingRead ++ content = owed := by rw [none,owes]; rfl
        rw [same] at owing
        rcases owing.after lawful kept room with ⟨goes,padding,empty⟩ | ⟨result,last,rest,served,pending',polled⟩
        · simp only [goes]
          exact ih owing padding empty pending kept (by omega)
        · simp only [served]
          exact ⟨result,last,rest,rfl,pending'.trans pending,polled⟩

/-- The records of one read while the response is expected. -/
theorem responseRecords_sealed (lawful : crypto.Lawful) {done left : List Inner} {whole rest : List Bytes}
    (aligned : Aligned crypto key iv (done ++ left) (whole ++ rest) stream.session)
    (running : (survey (done ++ left)).2 = .running)
    (counted : done.length = whole.length) :
    ∃ session, responseRecords crypto whole stream = .ok (.ok (),{stream with
        session := session
        partialVlessResponse := stream.partialVlessResponse ++ (done.map Inner.piece).flatten}) ∧
      Aligned crypto key iv left rest session := by
  induction whole generalizing stream done with
  | nil =>
    obtain rfl := List.length_eq_zero_iff.mp counted
    refine ⟨stream.session,?_,aligned⟩
    rw [responseRecords,List.map_nil,List.flatten_nil,List.append_nil]
  | cons record whole ih =>
    cases done with
    | nil => cases counted
    | cons inner done =>
      obtain ⟨-,others⟩ := survey_running running
      obtain ⟨after,fed,plaintext,front,capacity,next⟩ := feedAndProcess_record lawful aligned running
      have taken := takePlaintext_all front capacity
      obtain ⟨session,ran,final⟩ := @ih {stream with
        session := {after with plaintextReadBuf := .new plaintextReadBufCapacity}
        partialVlessResponse := stream.partialVlessResponse ++ inner.piece} done next others (Nat.succ.inj counted)
      refine ⟨session,?_,final⟩
      rw [responseRecords,fed]
      simp only [taken,plaintext]
      rw [ran,List.map_cons,List.flatten_cons,List.append_assoc]

theorem nextRecords_drained {deframer : TlsDeframer} (coherent : deframer.Coherent) {done : List Bytes} {part : Bytes}
    (drained : drain recordCutter deframer.buffer = ⟨done,part,false⟩) :
    ∃ after : TlsDeframer, nextRecords deframer = (.ok done,after) ∧ after.buffer = part ∧ after.Coherent := by
  obtain ⟨error,after,pulled,failed,same,kept⟩ := TlsDeframer.pull_nextRecord (deframer.pendingBytes + 1) coherent
    (Nat.lt_succ_self _)
  rw [drained] at pulled failed same
  have none : error = none := by
    cases error with
    | none => rfl
    | some e => cases failed
  refine ⟨after,?_,same,kept⟩
  have call := pulled 0
  rw [Nat.add_zero] at call
  rw [nextRecords,call,none]

/-- The loop of the response. No record behind the raw bytes may come with it: a record that
ends the padding with `direct` is still to come, or there is none. -/
theorem Pads.response (lawful : crypto.Lawful) (rounds : Nat) {sofar content : Bytes} {inners : List Inner}
    {records : List Bytes}
    {deframer : TlsDeframer}
    (pads : stream.Pads crypto key iv uuid (.response sofar) inners records raw (received tcp ++ unread) deframer)
    (quiet : recordCut deframer.buffer = .more)
    (means : meant uuid.bytes raw (.response sofar) (inners.map Inner.piece) = some content)
    (safe : raw = [] ∨ raw.length < unread.length) (none : stream.pendingRead = []) (steady : Steady tcp)
    (enough : socketRounds tcp < rounds) :
    (∃ next rest, responseRounds crypto rounds stream tcp = .ok (.none,next,rest) ∧ Steady rest ∧
      Owes crypto key iv uuid raw (received rest ++ unread) content next ∧ (received rest ++ unread = [] → content = [])) ∨
    ∃ remaining next rest left tail behind, responseRounds crypto rounds stream tcp = .ok (some (.ok remaining),next,rest) ∧
      Steady rest ∧ next.pendingRead = [] ∧ recordCut behind.buffer = .more ∧
      Pads crypto key iv uuid .userId left tail raw (received rest ++ unread) behind
        {next with vlessResponsePending := false} ∧
      meant uuid.bytes raw .userId (remaining::left.map Inner.piece) = some content := by
  induction rounds generalizing stream tcp sofar inners records deframer with
  | zero => omega
  | succ rounds ih =>
    have reads := readTcp_steady steady (show 0 < tlsReadBufferSize by decide)
    rw [responseRounds]
    generalize readTcp tlsReadBufferSize tcp = answer at reads ⊢
    cases reads with
    | idle e rest waits same kept =>
      rw [← same] at pads
      refine .inl ⟨stream,rest,by simp only [if_pos waits],kept,.padding pads quiet means (by rw [none]; rfl),
        fun last => ?_⟩
      rw [last] at pads
      exact pads.settled lawful quiet means
    | data chunk rest filled whole kept shorter =>
      have ahead : (deframer.feed chunk.bytes).buffer ++ (received rest ++ unread) = records.flatten ++ raw := by
        rw [← pads.ahead,whole]
        simp [TlsDeframer.feed]
      have inside : raw = [] ∨ (deframer.feed chunk.bytes).buffer.length < records.flatten.length := by
        refine safe.imp_right fun less => ?_
        have total := congrArg List.length ahead
        simp only [List.length_append] at total
        omega
      obtain ⟨done,tail,part,rfl,drained,cut,left⟩ := drain_prefix recordCutter rfl
        (sealed_records lawful pads.aligned.sealed pads.aligned.small) ahead inside
      obtain ⟨after,taken,same,coherent⟩ := nextRecords_drained (pads.coherent.feed chunk.bytes) drained
      obtain ⟨front,back,rfl,made,-⟩ := pads.aligned.sealed.split
      obtain ⟨session,opened,aligned⟩ := @responseRecords_sealed crypto key iv
        {stream with outerReadDeframer := some after} lawful front back done tail pads.aligned pads.running made.length.symm
      obtain ⟨-,running⟩ := survey_split pads.running
      obtain ⟨pending,rfl,fresh,more⟩ := pads.stands
      -- The records of the read as one.
      have gathered : meant uuid.bytes raw (.response stream.partialVlessResponse)
        ((front.map Inner.piece).flatten::back.map Inner.piece) = some content := by
        rw [List.map_append] at means
        cases front with
        | nil =>
          rw [List.map_nil,List.flatten_nil,meant_skip pads.stands.read_nil]
          exact means
        | cons inner front => exact meant_gather uuid.length means
      rw [meant,Expects.read] at gathered
      simp only [if_neg filled,pads.outer,taken,opened]
      cases parsed : parseVlessResponse (stream.partialVlessResponse ++ (front.map Inner.piece).flatten) with
      | failed e =>
        rw [parsed] at gathered
        cases gathered
      | more =>
        rw [parsed] at gathered
        have means : meant uuid.bytes raw (.response (stream.partialVlessResponse ++ (front.map Inner.piece).flatten))
            (back.map Inner.piece) = some content := by
          simpa using gathered
        exact ih ⟨pads.padding,pads.opened,rfl,coherent,by rw [same]; exact left,aligned,running,⟨pending,rfl,fresh,parsed⟩,
          pads.filters⟩ (by rw [same]; exact cut) means none kept (by omega)
      | complete remaining =>
        rw [parsed] at gathered
        exact .inr ⟨remaining,_,rest,back,tail,after,rfl,kept,none,by rw [same]; exact cut,
          ⟨pads.padding,pads.opened,rfl,coherent,by rw [same]; exact left,aligned,running,⟨rfl,fresh⟩,pads.filters⟩,
            gathered⟩

theorem Owes.padded (lawful : crypto.Lawful) (owes : Owes crypto key iv uuid raw (received tcp ++ unread) owed stream)
    (mode : stream.readMode = .paddingTls) (none : stream.pendingRead = []) (answered : stream.vlessResponsePending = false)
    (steady : Steady tcp) (room : 0 < size) :
    ∃ result next rest, pollReadPaddingTls crypto stream size tcp = .ok (result,next,rest) ∧
      next.vlessResponsePending = false ∧
      Polled crypto key iv uuid raw unread owed result next rest := by
  have opened : stream.isReadEof = false := by
    cases owes with
    | padding pads => exact pads.opened
    | tls _ opened => exact opened
    | direct other => cases mode.symm.trans other
  rw [pollReadPaddingTls,if_neg (by rw [opened]; exact Bool.false_ne_true)]
  exact owes.rounds lawful _ mode none answered steady room (Nat.lt_succ_self _)

/-- The data behind the response: the padding goes on with them. -/
theorem Pads.behind (lawful : crypto.Lawful) {left : List Inner} {tail : List Bytes} {deframer : TlsDeframer}
    {remaining : Bytes}
    (pads : Pads crypto key iv uuid .userId left tail raw (received tcp ++ unread) deframer
    {stream with vlessResponsePending := false})
    (quiet : recordCut deframer.buffer = .more) (none : stream.pendingRead = [])
    (means : meant uuid.bytes raw .userId (remaining::left.map Inner.piece) = some owed) (steady : Steady tcp)
    (room : 0 < size) :
    ∃ result next rest, readBehindResponse crypto stream remaining size tcp = .ok (result,next,rest) ∧
      next.vlessResponsePending = false ∧ Polled crypto key iv uuid raw unread owed result next rest := by
  have goOn {stream : VisionReader} (owes : Owes crypto key iv uuid raw (received tcp ++ unread) owed stream)
      (mode : stream.readMode = .paddingTls) (none : stream.pendingRead = [])
      (answered : stream.vlessResponsePending = false) :=
    @Owes.padded crypto key iv uuid raw unread owed stream tcp size lawful owes mode none answered steady room
  rw [readBehindResponse]
  by_cases empty : remaining = []
  · rw [if_pos empty]
    rw [empty,meant_skip pads.stands.read_nil] at means
    exact goOn (.padding pads quiet means (by rw [none]; rfl)) pads.padding none rfl
  · rw [if_neg empty]
    obtain ⟨next,call,pending,found⟩ := pads.handled lawful rfl empty means
    have owes : Owes crypto key iv uuid raw (received tcp ++ unread) owed next := by
      rw [none,List.nil_append] at found
      rcases found with ⟨after,more,pads,means,same⟩ | ⟨-,owes⟩
      · exact .padding pads quiet means same
      · exact owes
    simp only [call]
    rcases owes.after lawful steady room with ⟨goes,padding,empty⟩ | ⟨result,last,rest,served,kept,polled⟩
    · simp only [goes]
      exact goOn owes padding empty pending
    · simp only [served]
      exact ⟨result,last,rest,rfl,kept.trans pending,polled⟩

theorem Owes.poll (lawful : crypto.Lawful) (owes : Owes crypto key iv uuid raw (received tcp ++ unread) owed stream)
    (safe : stream.vlessResponsePending = false ∨ raw = [] ∨ raw.length < unread.length) (steady : Steady tcp)
    (room : 0 < size) :
    ∃ result next rest, pollRead crypto stream size tcp = .ok (result,next,rest) ∧
      (stream.vlessResponsePending = false → next.vlessResponsePending = false) ∧
      Polled crypto key iv uuid raw unread owed result next rest := by
  by_cases waiting : stream.pendingRead ≠ []
  · exact ⟨_,_,tcp,if_pos waiting,id,owes.serve steady waiting room⟩
  · have none := not_ne_iff.mp waiting
    cases mode : stream.readMode with
    | paddingTls =>
      cases pending : stream.vlessResponsePending with
      | false =>
        have call : pollRead crypto stream size tcp = pollReadPaddingTls crypto stream size tcp := by
          rw [pollRead,if_neg waiting,mode,pending]
          rfl
        obtain ⟨result,next,rest,ran,kept,polled⟩ := owes.padded lawful mode none pending steady room
        exact ⟨result,next,rest,call.trans ran,fun _ => kept,polled⟩
      | true =>
        cases owes with
        | tls other => cases mode.symm.trans other
        | direct other => cases mode.symm.trans other
        | @padding expects inners records deframer content pads quiet means owes =>
          rw [none,List.nil_append] at owes
          subst owes
          cases expects with
          | userId => cases pending.symm.trans pads.stands.1
          | block phase => cases pending.symm.trans pads.stands.1
          | response sofar =>
            have calm : raw = [] ∨ raw.length < unread.length := safe.resolve_left (by rw [pending]; decide)
            rw [pollRead,if_neg waiting,mode,pending]
            simp only [pollReadVlessResponse,if_true]
            rcases pads.response lawful (socketRounds tcp + 1) quiet means calm none steady (Nat.lt_succ_self _) with
              ⟨next,rest,ran,kept,owes,settled⟩ | ⟨remaining,next,rest,left,tail,deframer,ran,kept,empty,cut,pads,means⟩
            · simp only [ran]
              exact ⟨_,next,rest,rfl,fun impossible => (by cases impossible),.inl rfl,kept,_,rfl,owes,fun _ => settled⟩
            · simp only [ran]
              obtain ⟨result,last,final,read,answered,polled⟩ := Pads.behind lawful pads cut empty means kept room
              exact ⟨result,last,final,read,fun _ => answered,polled⟩
    | tls =>
      rcases owes.after lawful steady room with ⟨-,padding,-⟩ | ⟨result,next,rest,served,kept,polled⟩
      · cases mode.symm.trans padding
      · refine ⟨result,next,rest,?_,kept.trans,polled⟩
        rw [afterPadding,if_neg waiting,mode] at served
        obtain ⟨answer,read,same⟩ := (Dynet.Lib.Checks.map_ok_iff _ _ _).mp served
        cases same
        rw [pollRead,if_neg waiting,mode]
        exact read
    | direct =>
      rcases owes.after lawful steady room with ⟨-,padding,-⟩ | ⟨result,next,rest,served,kept,polled⟩
      · cases mode.symm.trans padding
      · refine ⟨result,next,rest,?_,kept.trans,polled⟩
        rw [afterPadding,if_neg waiting,mode] at served
        rw [pollRead,if_neg waiting,mode]
        exact congrArg Except.ok (Option.some.inj (Except.ok.inj served))

/-- Any reads of the stream: they deliver the front of what is owed, and once the socket has
given all of it and has nothing more to read, they have delivered all of it. -/
theorem Owes.run (lawful : crypto.Lawful) {sizes : List Nat} (rooms : ∀ size ∈ sizes, 0 < size)
    (owes : Owes crypto key iv uuid raw (received tcp ++ unread) owed stream)
    (safe : stream.vlessResponsePending = false ∨ raw = [] ∨ raw.length < unread.length) (steady : Steady tcp) :
    ∃ results next rest, pollAll crypto stream tcp sizes = .ok (results,next,rest) ∧ (∀ result ∈ results, Fine result) ∧
      Steady rest ∧ ∃ still, owed = delivered results ++ still ∧
        Owes crypto key iv uuid raw (received rest ++ unread) still next ∧
      (results.getLast? = some .pending → received rest ++ unread = [] → still = []) := by
  induction sizes generalizing stream tcp owed with
  | nil => exact ⟨[],stream,tcp,rfl,by simp,steady,owed,rfl,owes,fun impossible => by cases impossible⟩
  | cons size sizes ih =>
    obtain ⟨room,others⟩ := List.forall_mem_cons.mp rooms
    obtain ⟨result,next,later,read,kept,fine,calm,still,rfl,owing,settled⟩ := owes.poll lawful safe steady room
    obtain ⟨results,last,rest,ran,all,quiet,final,rfl,owed,ended⟩ := ih others owing (safe.imp_left kept) calm
    refine ⟨result::results,last,rest,?_,List.forall_mem_cons.mpr ⟨fine,all⟩,quiet,final,
      (List.append_assoc _ _ _).symm,owed,?_⟩
    · rw [pollAll,read]
      simp only [ran]
      rfl
    · intro pending none
      cases results with
      | nil =>
        cases sizes with
        | cons size sizes =>
          rw [pollAll] at ran
          split at ran
          · cases ran
          · obtain ⟨_,_,impossible⟩ := (Dynet.Lib.Checks.map_ok_iff _ _ _).mp ran
            cases impossible
        | nil =>
          cases ran
          have empty := settled (Option.some.inj pending) none
          exact (List.append_eq_nil_iff.mp empty).2
      | cons second more =>
        rw [List.getLast?_cons_cons] at pending
        exact ended pending none

end Polls

section Delivery
variable {crypto : Crypto} {conn : RealityClientConnection} {key : AeadKey} {iv : Bytes} {uuid : Uuid} {inners : List Inner}
  {records : List Bytes}

theorem newClient_owes (listens : conn.Listens key iv) (sealed : SealedFrom crypto key iv 0 inners records)
    (count : inners.length < 2^64)
    (small : ∀ inner ∈ inners, inner.plaintext.length + 16 ≤ Reality.maxTlsCiphertextLen)
    (running : (survey inners).2 = .running)
    {raw later content : Bytes} (means : meant uuid.bytes raw (.response []) (inners.map Inner.piece) = some content)
    (arrives : later = records.flatten ++ raw) : Owes crypto key iv uuid raw later content (newClient conn uuid.bytes) := by
  have stands : (newClient conn uuid.bytes).Stands uuid (.response []) := ⟨rfl,rfl,rfl,rfl⟩
  exact .padding ⟨rfl,rfl,rfl,TlsDeframer.coherent_new,arrives,listens.awaits sealed count small,running,stands,
    fun _ => ⟨[],[],FuzzyTlsDeframer.tracks_new⟩⟩ rfl means rfl

end Delivery

section Sample

def sampleUuid : Uuid := VisionUnpadder.exampleUuid

theorem one_fits (byte : UInt8) : [byte].length < 65536 := by simp

theorem zero_fits : ([0] : Bytes).length < 65536 := one_fits 0

def sampleBlock (byte : UInt8) : PaddedBlock := ⟨[byte],[0],one_fits byte,zero_fits⟩

def samplePadded (final : UnpadCommand) (ends : final ≠ .continueBlock) : PaddedStream :=
    ⟨[sampleBlock 104],sampleBlock 105,final,ends,[33]⟩

theorem known_applicationData : knownContentType contentTypeApplicationData := .inr (.inl rfl)

theorem known_alert : knownContentType contentTypeAlert := .inr (.inr rfl)

def sampleData (content : Bytes) : Inner := ⟨contentTypeApplicationData,content,0,known_applicationData⟩

/-- The response in two records, the user id in the second one, and a warning before the last. -/
def sampleSent (final : UInt8) : List Inner :=
  [sampleData [0],sampleData ([1,7] ++ (sampleUuid.bytes ++ [0,0,1,0])),⟨contentTypeAlert,[1,90],0,known_alert⟩,
    sampleData [1,104,0,final,0,1,0,1,105,0,33]]

def sampleSentRecords (final : UInt8) : List Bytes := (sampleSent final).mapIdx sampleRecord

theorem sampleSent_sealed (final : UInt8) :
    SealedFrom sampleCrypto sampleKey sampleIv 0 (sampleSent final) (sampleSentRecords final) :=
  .cons rfl (.cons rfl (.cons rfl (.cons rfl (.nil 4))))

def sampleChunk (bytes : Bytes) : Chunk := ⟨bytes.take tlsMaxRecordSize,List.length_take_le _ _⟩

/-- The first records come in parts, with a pause. -/
def sampleEarly (final : UInt8) : List TcpRead :=
  [.ok (sampleChunk ((sampleSentRecords final).flatten.take 30)),.error wouldBlock,
    .ok (sampleChunk (((sampleSentRecords final).flatten.drop 30).take 50))]

def sampleLate (final : UInt8) (raw : Bytes) : List TcpRead :=
  [.ok (sampleChunk ((sampleSentRecords final).flatten.drop 80 ++ raw))]

/-- The stream once the response and the user id have been read. -/
def sampleAnswered : VisionReader :=
  match pollAll sampleCrypto (newClient sampleListener sampleUuid.bytes) (sampleEarly 2) [4,1] with
  | .ok (_,after,_) => after
  | .error _ => newClient sampleListener sampleUuid.bytes

theorem sampleAnswered_reached :
    pollAll sampleCrypto (newClient sampleListener sampleUuid.bytes) (sampleEarly 2) [4,1] =
      .ok ([.pending,.pending],sampleAnswered,[]) ∧
      sampleAnswered.vlessResponsePending = false := by decide +kernel

end Sample

end VisionReader

end Dynet.Vless
