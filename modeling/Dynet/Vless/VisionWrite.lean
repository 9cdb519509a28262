import Mathlib.Tactic.MkIffOfInductiveProp
import Dynet.Vless.VisionStream

/-! What the write path of a Vision stream has accepted is what a reader gets back from
its padded blocks, what went after them, and what the deframer holds back. -/
namespace Dynet.Vless
open Dynet.Lib.Framing

/-! The deframer as the write path meets it. -/

theorem recordCut_item {buffer : Bytes} {n : Nat} (item : recordCut buffer = .item n) :
    5 ≤ n ∧ n ≤ tlsRecordHeaderSize + maxTlsCiphertextLen := by
  unfold recordCut at item
  cases found : headerOf buffer with
  | none => simp [found] at item
  | some header =>
    cases header with
    | error e => simp [found] at item
    | ok payloadLen =>
      simp only [found] at item
      split at item
      · cases item
      · cases item
        refine ⟨Nat.le_add_right _ _,Nat.add_le_add_left ?_ _⟩
        match buffer, found with
        | contentType::major::minor::high::low::_, found =>
          simp only [headerOf,Option.some.injEq] at found
          unfold parseHeader at found
          split at found
          · cases found
          · split at found
            · cases found
            next small =>
              split at found
              · cases found
              · cases found
                exact Nat.le_of_not_lt small

theorem headerOf_none {buffer : Bytes} (none : headerOf buffer = none) : buffer.length < 5 := by
  match buffer, none with
  | [], _ => simp
  | [_], _ => simp
  | [_,_], _ => simp
  | [_,_,_], _ => simp
  | [_,_,_,_], _ => simp

/-- A record that had been complete before would have been cut off before. -/
theorem recordCut_longer {buffer later : Bytes} {n : Nat} (more : recordCut buffer = .more)
    (item : recordCut (buffer ++ later) = .item n) : buffer.length < n := by
  obtain ⟨least,_⟩ := recordCut_item item
  unfold recordCut at more item
  cases found : headerOf buffer with
  | none =>
    have := headerOf_none found
    omega
  | some header =>
    rw [headerOf_append found] at item
    rw [found] at more
    cases header with
    | error e => cases more
    | ok payloadLen =>
      dsimp only at more item
      split at more
      · split at item
        · cases item
        · cases item
          assumption
      · cases more

theorem recordCut_announced {buffer : Bytes} {n : Nat} {contentType major minor high low : UInt8}
    (header : headerOf buffer = some (parseHeader contentType major minor high low)) (item : recordCut buffer = .item n) :
    n = 5 + be16 high low := by
  rw [recordCut,header] at item
  cases parsed : parseHeader contentType major minor high low with
  | error e =>
    rw [parsed] at item
    cases item
  | ok payloadLen =>
    have length : payloadLen = be16 high low := by
      rw [parseHeader] at parsed
      split_ifs at parsed
      exact (Except.ok.inj parsed).symm
    rw [parsed] at item
    dsimp only at item
    split at item
    · cases item
    · rw [← Cut.item.inj item,length]
      rfl

theorem be16_eq_zero {high low : UInt8} (none : be16 high low = 0) : high = 0 ∧ low = 0 := by
  rw [be16] at none
  exact ⟨UInt8.toNat_inj.mp (by rw [UInt8.toNat_zero]; omega),UInt8.toNat_inj.mp (by rw [UInt8.toNat_zero]; omega)⟩

theorem suffixLenFrom_valid (data : Bytes) (n : Nat) :
    isValidTlsHandshakePrefix (data.drop (data.length - suffixLenFrom data n)) = true := by
  induction n with
  | zero =>
    rw [suffixLenFrom,Nat.sub_zero,List.drop_length]
    rfl
  | succ n ih =>
    rw [suffixLenFrom]
    split
    next valid => exact valid
    next shorter => exact ih

/-- What is kept back as a possible header start is kept back again. -/
theorem findPotentialTlsSuffixLen_kept (data : Bytes) :
    findPotentialTlsSuffixLen (data.drop (data.length - findPotentialTlsSuffixLen data)) =
      findPotentialTlsSuffixLen data := by
  have bound := findPotentialTlsSuffixLen_le data
  have valid := suffixLenFrom_valid data (min data.length 5)
  have length : (data.drop (data.length - findPotentialTlsSuffixLen data)).length = findPotentialTlsSuffixLen data := by
    rw [List.length_drop]
    omega
  apply Nat.le_antisymm
  · exact Nat.le_trans (findPotentialTlsSuffixLen_le _) (by omega)
  · have longest := suffixLenFrom_longest (data.drop (data.length - findPotentialTlsSuffixLen data))
      (min (data.drop (data.length - findPotentialTlsSuffixLen data)).length 5) (findPotentialTlsSuffixLen data)
      (by omega) (by rw [length,Nat.sub_self,List.drop_zero]; exact valid)
    exact longest

/-- How many bytes a searching deframer hands on as an unknown prefix. -/
def frontLen (data : Bytes) : Nat :=
  (findTlsHandshakeStart data).getD (data.length - findPotentialTlsSuffixLen data)

namespace FuzzyTlsDeframer

theorem release_kept {data : Bytes} (all : findPotentialTlsSuffixLen data = data.length) :
    release ⟨.new,data,.searching⟩ = (.ok .needData,⟨.new,data,.searching⟩) := by
  rw [release]
  dsimp only
  rw [if_neg (by omega)]

/-- A searching deframer waits, starts on a record, or hands on what comes before one. -/
inductive Searched (data : Bytes) : Except IoError DeframeResult × FuzzyTlsDeframer → Prop
  | waits (few : data.length ≤ 5) (none : frontLen data = 0) :
      Searched data (.ok .needData,⟨.new,data,.searching⟩)
  | starts (found : findTlsHandshakeStart data = some 0) :
      Searched data (nextRecord ⟨TlsDeframer.new.feed data,[],.deframing⟩)
  | found (start : findTlsHandshakeStart data = some (frontLen data)) (positive : 0 < frontLen data)
      (inside : frontLen data ≤ data.length) :
      Searched data (.ok (.unknownPrefix (data.take (frontLen data))),
        ⟨TlsDeframer.new.feed (data.drop (frontLen data)),[],.deframing⟩)
  | missing (start : findTlsHandshakeStart data = none) (positive : 0 < frontLen data)
      (inside : frontLen data ≤ data.length) (few : (data.drop (frontLen data)).length ≤ 5)
      (kept : nextRecord ⟨.new,data.drop (frontLen data),.searching⟩ =
        (.ok .needData,⟨.new,data.drop (frontLen data),.searching⟩)) :
      Searched data (.ok (.unknownPrefix (data.take (frontLen data))),⟨.new,data.drop (frontLen data),.searching⟩)

theorem findTlsHandshakeStart_short {data : Bytes} (short : data.length < minTlsHandshakePatternLen) :
    findTlsHandshakeStart data = none := by
  rw [findTlsHandshakeStart,if_pos short]

theorem nextRecord_short {data : Bytes} (few : data.length ≤ 5) (all : findPotentialTlsSuffixLen data = data.length) :
    nextRecord ⟨.new,data,.searching⟩ = (.ok .needData,⟨.new,data,.searching⟩) := by
  have six : minTlsHandshakePatternLen = 6 := rfl
  change search ⟨.new,data,.searching⟩ = _
  rw [search]
  dsimp only
  split_ifs with empty long
  · rfl
  · omega
  · exact release_kept all

theorem release_searched {data : Bytes} (missing : findTlsHandshakeStart data = none) :
    Searched data (release ⟨.new,data,.searching⟩) := by
  have bound := findPotentialTlsSuffixLen_le data
  have front : frontLen data = data.length - findPotentialTlsSuffixLen data := by rw [frontLen,missing]; rfl
  by_cases shorter : findPotentialTlsSuffixLen data < data.length
  · have answer : release ⟨.new,data,.searching⟩ =
        (.ok (.unknownPrefix (data.take (frontLen data))),⟨.new,data.drop (frontLen data),.searching⟩) := by
      rw [release]
      dsimp only
      rw [if_pos shorter,front]
    have length : (data.drop (frontLen data)).length = findPotentialTlsSuffixLen data := by
      rw [List.length_drop,front]
      omega
    rw [answer]
    refine .missing missing (by omega) (by omega) (by omega) (nextRecord_short (by omega) ?_)
    rw [length,front]
    exact findPotentialTlsSuffixLen_kept data
  · rw [release_kept (by omega)]
    exact .waits (by omega) (by omega)

theorem nextRecord_searched (data : Bytes) : Searched data (nextRecord ⟨.new,data,.searching⟩) := by
  have six : minTlsHandshakePatternLen = 6 := rfl
  change Searched data (search ⟨.new,data,.searching⟩)
  rw [search]
  dsimp only
  split_ifs with empty long
  · subst empty
    exact .waits (by simp) rfl
  · cases found : findTlsHandshakeStart data with
    | none => exact release_searched found
    | some offset =>
      have front : frontLen data = offset := by rw [frontLen,found]; rfl
      have located := findTlsHandshakeStart_locates data
      rw [found] at located
      have inside := located.1.length
      dsimp only
      split_ifs with behind
      · rw [← front]
        exact .found (by rw [front,found]) (by omega) (by omega)
      · have zero : offset = 0 := by omega
        subst zero
        exact .starts found
  · exact release_searched (findTlsHandshakeStart_short (by omega))

/-- A deframer between two calls, with the bytes it holds back. -/
inductive Rests : Bytes → FuzzyTlsDeframer → Prop
  | searching {held : Bytes} (few : held.length ≤ 5) : Rests held ⟨.new,held,.searching⟩
  | deframing {inner : TlsDeframer} (coherent : inner.Coherent) (more : recordCut inner.buffer = .more) :
      Rests inner.buffer ⟨inner,[],.deframing⟩

theorem Rests.remaining {held : Bytes} {deframer : FuzzyTlsDeframer} (rests : Rests held deframer) :
    deframer.remainingData = held := by
  cases rests <;> rfl

theorem Rests.pending {held : Bytes} {deframer : FuzzyTlsDeframer} (rests : Rests held deframer) :
    deframer.pendingBytes = held.length := by
  cases rests <;> rfl

/-- Behind the first header a call of `next_record` is one look of the cutter. -/
theorem deframing_cases {inner : TlsDeframer} (coherent : inner.Coherent) :
    (recordCut inner.buffer = .more ∧ ∃ after : TlsDeframer, after.buffer = inner.buffer ∧ after.Coherent ∧
      nextRecord ⟨inner,[],.deframing⟩ = (.ok .needData,⟨after,[],.deframing⟩)) ∨
    (recordCut inner.buffer = .fail ∧ ∃ e, nextRecord ⟨inner,[],.deframing⟩ = (.error e,⟨inner,[],.deframing⟩)) ∨
    ∃ n, recordCut inner.buffer = .item n ∧ nextRecord ⟨inner,[],.deframing⟩ =
      (.ok (.tlsRecord (inner.buffer.take n)),⟨⟨inner.buffer.drop n,.readingHeader⟩,[],.deframing⟩) := by
  change (_ ∧ ∃ after : TlsDeframer, _ ∧ _ ∧ deframe inner [] = _) ∨ (_ ∧ ∃ e, deframe inner [] = _) ∨
    ∃ n, _ ∧ deframe inner [] = _
  rw [deframe]
  rcases inner.nextRecord_cases coherent with ⟨more,after,reply,same,kept⟩ | ⟨fail,e,reply⟩ | ⟨n,item,reply⟩
  · rw [reply]
    exact .inl ⟨more,after,same,kept,rfl⟩
  · rw [reply]
    exact .inr (.inl ⟨fail,e,rfl⟩)
  · rw [reply]
    exact .inr (.inr ⟨n,item,rfl⟩)

end FuzzyTlsDeframer

/-! What a reader gets back from the padded blocks. -/

/-- A packet that is read back whatever its padding: its length fits, or it is the last and
its shortened length leaves no room for padding. -/
def Readable (command : UnpadCommand) (length : Nat) : Prop :=
  length < 65536 ∨ command ≠ .continueBlock ∧ maxPaddingSize ≤ length % 65536

instance (command : UnpadCommand) (length : Nat) : Decidable (Readable command length) :=
  inferInstanceAs (Decidable (_ ∨ _))

/-- What the repository's unpadder makes of the plaintext. -/
def unpadded (uuid : Uuid) (plaintext : Bytes) : Except IoError Bytes :=
  ((VisionUnpadder.new uuid.bytes).unpad plaintext).1.map UnpadResult.content

/-- The blocks so far hold `sent`, and another may follow. -/
inductive Emitted (uuid : Uuid) : Bool → Bytes → Bytes → Prop
  | nothing : Emitted uuid true [] []
  | blocks {body sent : Bytes} (run : Phase.boundary.run body = .waits .boundary sent) :
      Emitted uuid false (uuid.bytes ++ body) sent

/-- The final block has come, and what follows is not padded. -/
inductive Closed (uuid : Uuid) : Bytes → Bytes → Prop
  | intro {body content rest : Bytes} {command : UnpadCommand}
      (run : Phase.boundary.run body = .finishes command content rest) :
      Closed uuid (uuid.bytes ++ body) (content ++ rest)

section Emission

theorem boundary_open : Phase.boundary.Open := fun _ => Phase.noConfusion

variable {uuid : Uuid} {first : Bool} {plaintext sent data : Bytes}

theorem unpadded_run {uuid : Uuid} {body : Bytes} {outcome : Reading} (run : Phase.boundary.run body = outcome) :
    unpadded uuid (uuid.bytes ++ body) = match outcome with
      | .waits _ content => .ok content
      | .finishes _ content rest => .ok (content ++ rest)
      | .invalid e => .error e := by
  have replies := VisionUnpadder.unpad_uuid uuid true body
  rw [run] at replies
  rw [unpadded,VisionUnpadder.new]
  generalize VisionUnpadder.unpad ⟨.initial uuid.bytes,true⟩ (uuid.bytes ++ body) = reply at replies ⊢
  obtain ⟨result,after⟩ := reply
  cases outcome with
  | waits phase content =>
    cases result with
    | error e => exact replies.elim
    | ok result => exact congrArg Except.ok replies.1
  | finishes command content rest =>
    cases result with
    | error e => exact replies.elim
    | ok result => exact congrArg (fun result => Except.ok result.content) replies.1
  | invalid e =>
    cases result with
    | error other => exact congrArg Except.error replies
    | ok result => exact replies.elim

theorem Emitted.unpadded (emitted : Emitted uuid first plaintext sent) : unpadded uuid plaintext = .ok sent := by
  cases emitted with
  | nothing => rfl
  | blocks run => exact unpadded_run run

theorem Closed.unpadded (closed : Closed uuid plaintext sent) : unpadded uuid plaintext = .ok sent := by
  cases closed with
  | intro run => exact unpadded_run run

theorem Closed.append (closed : Closed uuid plaintext sent) (later : Bytes) :
    Closed uuid (plaintext ++ later) (sent ++ later) := by
  cases closed with
  | @intro body content rest command run =>
    have longer : Phase.boundary.run (body ++ later) = .finishes command content (rest ++ later) := by
      rw [Phase.run_append,run]
      rfl
    rw [List.append_assoc,List.append_assoc]
    exact .intro longer

theorem Emitted.body (emitted : Emitted uuid first plaintext sent) :
    ∃ body, Phase.boundary.run body = .waits .boundary sent ∧ ∀ data command isTls packet,
      plaintext ++ VisionStream.padPacket first uuid data command isTls packet =
        uuid.bytes ++ (body ++ padWithCommand data command isTls packet.draw packet.filler) := by
  cases emitted with
  | nothing =>
    refine ⟨[],Phase.run_nil boundary_open,?_⟩
    intro data command isTls packet
    rw [List.nil_append,List.nil_append]
    exact padWithUuidAndCommand_eq data uuid command isTls packet.draw packet.filler
  | @blocks body _ run =>
    refine ⟨body,run,?_⟩
    intro data command isTls packet
    rw [List.append_assoc]
    rfl

theorem Emitted.send (emitted : Emitted uuid first plaintext sent) (fits : data.length < 65536) (isTls : Bool)
    (packet : Packet) :
    Emitted uuid false (plaintext ++ VisionStream.padPacket first uuid data .continueBlock isTls packet)
      (sent ++ data) := by
  obtain ⟨body,run,joined⟩ := emitted.body
  rw [joined]
  refine .blocks ?_
  have block := run_padWithCommand fits .continueBlock isTls packet.draw packet.filler []
  rw [List.append_nil] at block
  rw [Phase.run_append,run,Reading.resume,block]
  change ((Phase.boundary.run []).prepend data).prepend sent = _
  rw [Phase.run_nil boundary_open,Reading.prepend_prepend,Reading.prepend,List.append_nil]

theorem Emitted.close (emitted : Emitted uuid first plaintext sent) {command : UnpadCommand}
    (final : command ≠ .continueBlock) (readable : Readable command data.length) (isTls : Bool) (packet : Packet) :
    Closed uuid (plaintext ++ VisionStream.padPacket first uuid data command isTls packet) (sent ++ data) := by
  obtain ⟨body,run,joined⟩ := emitted.body
  have closed : Phase.closed command = .done command := by
    cases command with
    | continueBlock => exact absurd rfl final
    | endBlock => rfl
    | direct => rfl
  have read : ∃ content rest, content ++ rest = data ∧
      Phase.boundary.run (padWithCommand data command isTls packet.draw packet.filler) =
        .finishes command content rest := by
    rcases readable with fits | ⟨_,full⟩
    · have block := run_padWithCommand fits command isTls packet.draw packet.filler []
      rw [List.append_nil,closed,Phase.run_done,Reading.prepend,List.append_nil] at block
      exact ⟨data,[],List.append_nil data,block⟩
    · obtain ⟨content,rest,whole,block⟩ := run_padWithCommand_full full final isTls packet.draw packet.filler []
      rw [List.append_nil,List.append_nil] at block
      exact ⟨content,rest,whole,block⟩
  obtain ⟨content,rest,rfl,block⟩ := read
  have whole : Phase.boundary.run (body ++ padWithCommand (content ++ rest) command isTls packet.draw packet.filler) =
      .finishes command (sent ++ content) rest := by
    rw [Phase.run_append,run,Reading.resume,block]
    rfl
  rw [joined,← List.append_assoc sent]
  exact .intro whole

end Emission

/-! One round of the loop over the inner records. -/

namespace VisionStream

/-- The plaintext that has been handed to the session, taken by it or still waiting. -/
def plaintext (stream : VisionStream) : Bytes := stream.session ++ stream.pendingPlainWrites

def held (stream : VisionStream) : Bytes := stream.innerWriteDeframer.remainingData

/-- The accounting between two calls: before the final block, or after it. -/
inductive Carries (uuid : Uuid) (accepted : Bytes) (stream : VisionStream) : Prop
  | padding (sent held : Bytes) (user : stream.userUuid = uuid) (answered : stream.vlessResponseToSend = false)
      (mode : stream.writeMode = .paddingTls)
      (calm : stream.pendingDirectModeSwitch = false ∧ stream.pendingTlsModeSwitch = false) (silent : stream.tcp = [])
      (emitted : Emitted uuid stream.writeFirstPacket stream.plaintext sent)
      (rests : FuzzyTlsDeframer.Rests held stream.innerWriteDeframer) (whole : sent ++ held = accepted)
  | closed (sent : Bytes) (user : stream.userUuid = uuid) (answered : stream.vlessResponseToSend = false)
      (switches : stream.writeMode = .paddingTls →
        stream.pendingDirectModeSwitch = true ∨ stream.pendingTlsModeSwitch = true)
      (drained : stream.writeMode ≠ .paddingTls → stream.pendingPlainWrites = [])
      (silent : stream.writeMode ≠ .direct → stream.tcp = []) (closed : Closed uuid stream.plaintext sent)
      (empty : stream.held = []) (whole : sent ++ stream.tcp = accepted)

/-- The accounting inside the loop: `sent` is in blocks, `buffer` waits in the deframer. -/
structure Looping (uuid : Uuid) (accepted buf sent buffer : Bytes) (existing processed : Nat)
    (stream : VisionStream) : Prop where
  user : stream.userUuid = uuid
  answered : stream.vlessResponseToSend = false
  mode : stream.writeMode = .paddingTls
  calm : stream.pendingDirectModeSwitch = false ∧ stream.pendingTlsModeSwitch = false
  silent : stream.tcp = []
  emitted : Emitted uuid stream.writeFirstPacket stream.plaintext sent
  whole : sent ++ buffer = accepted ++ buf
  counted : processed + buffer.length = existing + buf.length

/-- A call has answered with a count that is accounted for. -/
def Answered (uuid : Uuid) (accepted buf : Bytes) (result : Except Panic (Reply × VisionStream)) : Prop :=
  ∃ count after, result = .ok (.ready count,after) ∧ count ≤ buf.length ∧
    Carries uuid (accepted ++ buf.take count) after

def Flow.result : Flow → Except Panic (Reply × VisionStream)
  | .next _ _ => .error .unreachable
  | .answer reply stream => .ok (reply,stream)
  | .panic cause => .error cause

theorem writeToSession_eq (stream : VisionStream) (data : Bytes) (room : Nat) :
    ∃ session waiting, session ++ waiting = stream.plaintext ++ data ∧
      stream.writeToSession data room = {stream with session := session,pendingPlainWrites := waiting} := by
  rw [writeToSession,plaintext]
  split
  next none =>
    refine ⟨_,_,?_,rfl⟩
    rw [none,List.append_nil,List.append_assoc,List.take_append_drop]
  next some => exact ⟨stream.session,stream.pendingPlainWrites ++ data,(List.append_assoc _ _ _).symm,rfl⟩

theorem drainAllWritesPadding_eq (stream : VisionStream) (drain : Drain) :
    ∃ session waiting, session ++ waiting = stream.plaintext ∧ (drain.isDone = true → waiting = []) ∧
      stream.drainAllWritesPadding drain =
        (drain.isDone,{stream with session := session,pendingPlainWrites := waiting}) := by
  cases drain with
  | done => exact ⟨_,[],List.append_nil _,fun _ => rfl,rfl⟩
  | blocked moved =>
    refine ⟨_,_,?_,Bool.noConfusion,rfl⟩
    rw [plaintext,List.append_assoc,List.take_append_drop]

theorem sendPacket_eq (stream : VisionStream) (data : Bytes) (command : UnpadCommand) (isTls : Bool)
    (packet : Packet) :
    ∃ session waiting, session ++ waiting =
        stream.plaintext ++ padPacket stream.writeFirstPacket stream.userUuid data command isTls packet ∧
      (stream.writePacket data command isTls packet).drainAllWritesPadding packet.drain = (packet.drain.isDone,
        {stream with writeFirstPacket := false,session := session,pendingPlainWrites := waiting}) := by
  obtain ⟨session,waiting,same,written⟩ := writeToSession_eq {stream with writeFirstPacket := false}
    (padPacket stream.writeFirstPacket stream.userUuid data command isTls packet) packet.room
  rw [writePacket,written]
  obtain ⟨session',waiting',same',_,drained⟩ := drainAllWritesPadding_eq
    {stream with writeFirstPacket := false,session := session,pendingPlainWrites := waiting} packet.drain
  exact ⟨session',waiting',same'.trans same,drained⟩

theorem requestSwitch_eq (stream : VisionStream) :
    ∃ command direct tls, command ≠ UnpadCommand.continueBlock ∧ (direct = true ∨ tls = true) ∧
      stream.requestSwitch =
        (command,{stream with pendingDirectModeSwitch := direct,pendingTlsModeSwitch := tls}) := by
  rw [requestSwitch]
  split
  · exact ⟨.direct,true,_,by simp,.inl rfl,rfl⟩
  · exact ⟨.endBlock,_,true,by simp,.inr rfl,rfl⟩

section Round
variable {uuid : Uuid} {accepted buf sent record rest : Bytes} {existing processed : Nat} {stream : VisionStream}

/-- The count that is reported is what the blocks hold beyond the bytes accepted before. -/
theorem accepted_take (whole : sent ++ rest = accepted ++ buf) (counted : processed + rest.length = existing + buf.length)
    (reached : existing ≤ processed) :
    processed - existing ≤ buf.length ∧ accepted ++ buf.take (processed - existing) = sent := by
  have total := congrArg List.length whole
  rw [List.length_append,List.length_append] at total
  have length : sent.length = accepted.length + (processed - existing) := by omega
  have front := congrArg (List.take sent.length) whole
  rw [List.take_left,length,List.take_length_add_append] at front
  exact ⟨by omega,front.symm⟩

theorem answered_closed {after : VisionStream} (whole : sent ++ rest = accepted ++ buf)
    (counted : processed + rest.length = existing + buf.length) (reached : existing ≤ processed)
    (user : after.userUuid = uuid) (answered : after.vlessResponseToSend = false) (mode : after.writeMode = .paddingTls)
    (switches : after.pendingDirectModeSwitch = true ∨ after.pendingTlsModeSwitch = true) (silent : after.tcp = [])
    (closed : Closed uuid after.plaintext sent) (empty : after.held = []) :
    Answered uuid accepted buf (after.report processed existing).result := by
  obtain ⟨inside,taken⟩ := accepted_take whole counted reached
  refine ⟨processed - existing,after,?_,inside,?_⟩
  · rw [report,if_neg (by omega)]
    rfl
  · refine .closed sent user answered (fun _ => switches) (fun other => absurd mode other) (fun _ => silent) closed
      empty ?_
    rw [silent,List.append_nil,taken]

/-- A record in front of the deframer's bytes: it goes out in a block and the loop goes on,
or the call answers. -/
theorem Looping.handleRecord (looping : Looping uuid accepted buf sent (record ++ rest) existing processed stream)
    (packet : Packet) (small : record.length < 65536)
    (pending : stream.innerWriteDeframer.pendingBytes = rest.length)
    (reached : existing ≤ processed + record.length)
    (beyond : (stream.filter.filterRecord record).endsPadding record = true → existing < processed + record.length) :
    ((stream.filter.filterRecord record).endsPadding record = false ∧ packet.drain.isDone = true ∧
      ∃ after, stream.handleRecord packet buf.length existing processed record = .next after (processed + record.length) ∧
        Looping uuid accepted buf (sent ++ record) rest existing (processed + record.length) after ∧
        after.innerWriteDeframer = stream.innerWriteDeframer ∧ after.filter = stream.filter.filterRecord record) ∨
    Answered uuid accepted buf (stream.handleRecord packet buf.length existing processed record).result := by
  obtain ⟨user,answered,mode,calm,silent,emitted,whole,counted⟩ := looping
  rw [List.length_append] at counted
  rw [← List.append_assoc] at whole
  have counted' : processed + record.length + rest.length = existing + buf.length := by omega
  have uuids : stream.userUuid = uuid := user
  rw [VisionStream.handleRecord]
  dsimp only
  cases ends : (stream.filter.filterRecord record).endsPadding record with
  | true =>
    have further := beyond ends
    rw [if_pos rfl]
    obtain ⟨command,direct,tls,final,switches,requested⟩ := requestSwitch_eq
      {stream with filter := stream.filter.filterRecord record}
    rw [requested]
    dsimp only
    rw [if_neg (by omega)]
    obtain ⟨session,waiting,same,drained⟩ := sendPacket_eq {stream with
        filter := stream.filter.filterRecord record
        pendingDirectModeSwitch := direct
        pendingTlsModeSwitch := tls} record command true packet
    rw [drained]
    refine .inr (answered_closed whole counted' reached user answered mode switches silent ?_ rfl)
    change Closed uuid (session ++ waiting) _
    rw [same]
    dsimp only
    rw [user]
    exact emitted.close final (.inl small) _ packet
  | false =>
    rw [if_neg (by simp)]
    obtain ⟨session,waiting,same,drained⟩ := sendPacket_eq {stream with filter := stream.filter.filterRecord record}
      record .continueBlock (stream.filter.filterRecord record).isTls packet
    rw [drained]
    have sends : Emitted uuid false (session ++ waiting) (sent ++ record) := by
      rw [same]
      dsimp only
      rw [user]
      exact emitted.send small _ packet
    cases done : packet.drain.isDone with
    | true => exact .inl ⟨rfl,rfl,_,rfl,⟨user,answered,mode,calm,silent,sends,whole,counted'⟩,rfl,rfl⟩
    | false =>
      obtain ⟨inside,taken⟩ := accepted_take whole counted' reached
      right
      dsimp only
      rw [if_neg (by omega),if_neg (by rw [pending]; omega),report,if_neg (by omega)]
      refine ⟨_,_,rfl,inside,?_⟩
      refine .padding (sent ++ record) [] user answered mode calm silent sends ?_ ?_
      · exact .searching (by simp)
      · rw [List.append_nil,taken]

/-- An unknown prefix goes out in a block, the final one when the filter is done. -/
theorem Looping.handlePrefix {front : Bytes}
    (looping : Looping uuid accepted buf sent (front ++ rest) existing processed stream) (packet : Packet) :
    (1 < stream.filter.recordFilterCount → front.length < 65536 →
      ∃ after, stream.handlePrefix packet existing processed front = .next after (processed + front.length) ∧
        Looping uuid accepted buf (sent ++ front) rest existing (processed + front.length) after ∧
        after.innerWriteDeframer = stream.innerWriteDeframer ∧
        after.filter = stream.filter.decrementFilterCount) ∧
    (stream.filter.recordFilterCount ≤ 1 → Readable .endBlock front.length → existing ≤ processed + front.length →
      Answered uuid accepted buf (stream.handlePrefix packet existing processed front).result) := by
  obtain ⟨user,answered,mode,calm,silent,emitted,whole,counted⟩ := looping
  rw [List.length_append] at counted
  rw [← List.append_assoc] at whole
  have counted' : processed + front.length + rest.length = existing + buf.length := by omega
  have filtering : stream.filter.decrementFilterCount.isFiltering = decide (1 < stream.filter.recordFilterCount) := by
    apply decide_eq_decide.mpr
    dsimp only [VisionFilter.decrementFilterCount]
    omega
  rw [VisionStream.handlePrefix]
  dsimp only
  rw [filtering]
  constructor
  · intro more fits
    rw [if_pos (decide_eq_true more)]
    obtain ⟨session,waiting,same,drained⟩ := sendPacket_eq {stream with filter := stream.filter.decrementFilterCount}
      front .continueBlock stream.filter.decrementFilterCount.isTls packet
    rw [drained]
    refine ⟨_,rfl,⟨user,answered,mode,calm,silent,?_,whole,counted'⟩,rfl,rfl⟩
    change Emitted uuid false (session ++ waiting) _
    rw [same]
    dsimp only
    rw [user]
    exact emitted.send fits _ packet
  · intro last readable reached
    rw [if_neg (by simpa using last),clearInner]
    obtain ⟨session,waiting,same,drained⟩ := sendPacket_eq {stream with
        filter := stream.filter.decrementFilterCount
        pendingTlsModeSwitch := true
        innerWriteDeframer := stream.innerWriteDeframer.clear} front .endBlock
      stream.filter.decrementFilterCount.isTls packet
    rw [drained]
    refine answered_closed whole counted' reached user answered mode (.inr rfl) silent ?_ rfl
    change Closed uuid (session ++ waiting) _
    rw [same]
    dsimp only
    rw [user]
    exact emitted.close (by simp) readable _ packet

/-- Invalid data go out with the final block, all of them. -/
theorem Looping.handleInvalid {buffer : Bytes}
    (looping : Looping uuid accepted buf sent buffer existing processed stream) (packet : Packet)
    (waiting : stream.held = buffer) (readable : Readable .endBlock buffer.length) :
    Answered uuid accepted buf (stream.handleInvalid packet buf.length).result := by
  obtain ⟨user,answered,mode,calm,silent,emitted,whole,counted⟩ := looping
  subst waiting
  rw [VisionStream.handleInvalid]
  dsimp only
  obtain ⟨session,waiting,same,drained⟩ := sendPacket_eq {stream with
      pendingTlsModeSwitch := true
      filter := stream.filter.stopFiltering} stream.held .endBlock stream.filter.stopFiltering.isTls packet
  rw [held] at same drained
  rw [drained]
  refine ⟨buf.length,_,rfl,Nat.le_refl _,?_⟩
  refine .closed (accepted ++ buf) user answered (fun _ => .inr rfl) (fun other => absurd mode other) (fun _ => silent)
    ?_ rfl ?_
  · change Closed uuid (session ++ waiting) _
    rw [same,← whole]
    dsimp only
    rw [user]
    exact emitted.close (by simp) readable _ packet
  · change _ ++ stream.tcp = _
    rw [silent,List.append_nil,List.take_length]

/-- Nothing more can be cut off: the call has taken all of its buffer. -/
theorem Looping.waits {buffer : Bytes} (looping : Looping uuid accepted buf sent buffer existing processed stream)
    (rests : FuzzyTlsDeframer.Rests buffer stream.innerWriteDeframer) :
    Answered uuid accepted buf (.ok (.ready buf.length,stream)) := by
  obtain ⟨user,answered,mode,calm,silent,emitted,whole,counted⟩ := looping
  refine ⟨buf.length,stream,rfl,Nat.le_refl _,.padding sent buffer user answered mode calm silent emitted rests ?_⟩
  rw [List.take_length,whole]

theorem writeRounds_answered {packets : Nat → Packet} {rounds written : Nat}
    (answered : Answered uuid accepted buf
      (stream.writeRound (packets written) buf.length existing processed).result) :
    Answered uuid accepted buf (writeRounds packets buf.length existing (rounds+1) written stream processed) := by
  rw [writeRounds]
  cases flow : stream.writeRound (packets written) buf.length existing processed with
  | next after processed =>
    rw [flow] at answered
    obtain ⟨_,_,impossible,_⟩ := answered
    cases impossible
  | answer reply after =>
    rw [flow] at answered
    exact answered
  | panic cause =>
    rw [flow] at answered
    exact answered

end Round

/-! The whole loop. -/

/-- Every record is sent with a CONTINUE command and drained, so that the loop goes on. -/
def Passes (packets : Nat → Packet) (filter : VisionFilter) (written : Nat) : List Bytes → Prop
  | [] => True
  | record::records => (filter.filterRecord record).endsPadding record = false ∧
      (packets written).drain.isDone = true ∧ Passes packets (filter.filterRecord record) (written+1) records

instance Passes.decide (packets : Nat → Packet) (filter : VisionFilter) (written : Nat) (records : List Bytes) :
    Decidable (Passes packets filter written records) :=
  match records with
  | [] => inferInstanceAs (Decidable True)
  | record::records =>
    have := Passes.decide packets (filter.filterRecord record) (written+1) records
    inferInstanceAs (Decidable (_ ∧ _ ∧ _))

/-- If the loop comes to invalid data, they can be read back from one block. -/
def InvalidFits (packets : Nat → Packet) (filter : VisionFilter) (written : Nat) (buffer : Bytes) : Prop :=
  (drain recordCutter buffer).failed = true → Passes packets filter written (drain recordCutter buffer).items →
    Readable .endBlock (drain recordCutter buffer).rest.length

instance (packets : Nat → Packet) (filter : VisionFilter) (written : Nat) (buffer : Bytes) :
    Decidable (InvalidFits packets filter written buffer) :=
  inferInstanceAs (Decidable (_ → _ → _))

section Loop
variable {uuid : Uuid} {accepted buf sent : Bytes} {existing processed rounds written : Nat} {stream : VisionStream}
  {packets : Nat → Packet}

theorem Looping.withDeframer {buffer : Bytes}
    (looping : Looping uuid accepted buf sent buffer existing processed stream) (deframer : FuzzyTlsDeframer) :
    Looping uuid accepted buf sent buffer existing processed {stream with innerWriteDeframer := deframer} :=
  ⟨looping.user,looping.answered,looping.mode,looping.calm,looping.silent,looping.emitted,looping.whole,looping.counted⟩

/-- The loop behind the first handshake header, by induction along the records. -/
theorem deframing_answered (buffer : Bytes) (inner : TlsDeframer) (coherent : inner.Coherent)
    (fed : stream.innerWriteDeframer = ⟨inner,[],.deframing⟩) (same : inner.buffer = buffer)
    (looping : Looping uuid accepted buf sent buffer existing processed stream) (enough : buffer.length < rounds)
    (ahead : ∀ n, recordCut buffer = .item n → existing ≤ processed + n ∧
      ((stream.filter.filterRecord (buffer.take n)).endsPadding (buffer.take n) = true → existing < processed + n))
    (fits : InvalidFits packets stream.filter written buffer) :
    Answered uuid accepted buf (writeRounds packets buf.length existing rounds written stream processed) := by
  obtain ⟨rounds,rfl⟩ : ∃ n, rounds = n + 1 := ⟨rounds - 1,by omega⟩
  induction buffer using drain_induction recordCutter generalizing stream sent processed rounds written inner with
  | more buffer more =>
    subst same
    rcases FuzzyTlsDeframer.deframing_cases coherent with ⟨_,after,same,kept,reply⟩ | ⟨fail,_⟩ | ⟨n,item,_⟩
    · apply writeRounds_answered
      rw [writeRound,fed,reply]
      refine (looping.withDeframer _).waits ?_
      rw [← same] at more ⊢
      exact .deframing kept more
    · cases more.symm.trans fail
    · cases more.symm.trans item
  | fail buffer fail =>
    subst same
    rcases FuzzyTlsDeframer.deframing_cases coherent with ⟨more,_⟩ | ⟨_,e,reply⟩ | ⟨n,item,_⟩
    · cases fail.symm.trans more
    · apply writeRounds_answered
      rw [writeRound,fed,reply]
      rw [InvalidFits,drain_fail recordCutter fail] at fits
      exact (looping.withDeframer _).handleInvalid _ rfl (fits rfl trivial)
    · cases fail.symm.trans item
  | item buffer n item ih =>
    subst same
    rcases FuzzyTlsDeframer.deframing_cases coherent with ⟨more,_⟩ | ⟨fail,_⟩ | ⟨m,other,reply⟩
    · cases item.symm.trans more
    · cases item.symm.trans fail
    · cases Cut.item.inj (item.symm.trans other)
      obtain ⟨positive,inside⟩ := recordCutter.progress item
      obtain ⟨_,largest⟩ := recordCut_item item
      obtain ⟨reached,beyond⟩ := ahead n item
      have length : (inner.buffer.take n).length = n := by rw [List.length_take,Nat.min_eq_left inside]
      have header : tlsRecordHeaderSize = 5 := rfl
      have limit : maxTlsCiphertextLen = 18432 := rfl
      rw [← List.take_append_drop n inner.buffer] at looping
      have round := (looping.withDeframer ⟨⟨inner.buffer.drop n,.readingHeader⟩,[],.deframing⟩).handleRecord
        (packets written) (by omega) rfl (by rw [length]; exact reached) (by rw [length]; exact beyond)
      have call : stream.writeRound (packets written) buf.length existing processed =
          VisionStream.handleRecord {stream with
            innerWriteDeframer := ⟨⟨inner.buffer.drop n,.readingHeader⟩,[],.deframing⟩} (packets written) buf.length
            existing processed (inner.buffer.take n) := by
        rw [writeRound,fed,reply]
      rw [← call,length] at round
      rcases round with ⟨goes,drained,after,next,looping,kept,filtered⟩ | answered
      · have shorter : (inner.buffer.drop n).length < inner.buffer.length := by
          rw [List.length_drop]
          omega
        obtain ⟨less,rfl⟩ : ∃ k, rounds = k + 1 := ⟨rounds - 1,by omega⟩
        have fresh : TlsDeframer.Coherent ⟨inner.buffer.drop n,.readingHeader⟩ := by
          intro payloadLen impossible
          cases impossible
        rw [writeRounds,next]
        refine ih _ fresh kept rfl looping ?_ ?_ less (by omega)
        · intro m further
          obtain ⟨more,_⟩ := recordCutter.progress further
          exact ⟨by omega,fun _ => by omega⟩
        · rw [InvalidFits,drain_item recordCutter item] at fits
          intro failed passes
          rw [filtered] at passes
          exact fits failed ⟨goes,drained,passes⟩
      · exact writeRounds_answered answered

theorem writeRounds_congr {deframer : FuzzyTlsDeframer} (bufLen : Nat)
    (same : stream.innerWriteDeframer.nextRecord = deframer.nextRecord) :
    writeRounds packets bufLen existing (rounds+1) written stream processed =
      writeRounds packets bufLen existing (rounds+1) written {stream with innerWriteDeframer := deframer} processed := by
  rw [writeRounds,writeRounds,writeRound,writeRound,same]

end Loop

def emptyRecordHeader : Bytes → Bool
  | [0x16,3,_,0,0] => true
  | _ => false

/-- What a searching deframer asks of the bytes held back and the data they begin: whatever
goes out in one packet can be read back, and a final packet reaches beyond the held bytes. -/
@[mk_iff]
structure SearchFits (packets : Nat → Packet) (filter : VisionFilter) (held data : Bytes) : Prop where
  short : 0 < frontLen data → 1 < filter.recordFilterCount → frontLen data < 65536
  final : 0 < frontLen data → filter.recordFilterCount ≤ 1 →
    held.length ≤ frontLen data ∧ Readable .endBlock (frontLen data)
  empty : findTlsHandshakeStart data = some 0 → emptyRecordHeader held = true →
    1 < filter.recordFilterCount ∨ filter.isTls12OrAbove = true
  invalid : findTlsHandshakeStart data = some 0 → InvalidFits packets filter 0 data
  later : findTlsHandshakeStart data = some (frontLen data) → 0 < frontLen data → 1 < filter.recordFilterCount →
    InvalidFits packets filter.decrementFilterCount 1 (data.drop (frontLen data))

instance (packets : Nat → Packet) (filter : VisionFilter) (held data : Bytes) :
    Decidable (SearchFits packets filter held data) :=
  decidable_of_iff' _ (searchFits_iff packets filter held data)

theorem isAppData_handshake (filter : VisionFilter) (record : Bytes) : filter.isAppData (0x16::record) = false := by
  simp [VisionFilter.isAppData]

/-- A first record no longer than the bytes held back is empty, and ends the padding only
with the filter. -/
theorem endsPadding_empty {filter : VisionFilter} {held later : Bytes} {n : Nat}
    (found : findTlsHandshakeStart (held ++ later) = some 0) (few : held.length ≤ 5)
    (item : recordCut (held ++ later) = .item n) (covered : n ≤ held.length)
    (ends : (filter.filterRecord ((held ++ later).take n)).endsPadding ((held ++ later).take n) = true) :
    emptyRecordHeader held = true ∧ filter.recordFilterCount ≤ 1 ∧ filter.isTls12OrAbove = false := by
  have located := findTlsHandshakeStart_locates (held ++ later)
  rw [found] at located
  obtain ⟨minor,high,low,kind,rest,bytes,_,_⟩ := located.1
  obtain ⟨least,_⟩ := recordCut_item item
  have length : held.length = 5 := by omega
  have full : n = 5 := by omega
  subst full
  match held, length with
  | [a,b,c,d,e], _ =>
    simp only [List.drop_zero,List.cons_append,List.cons.injEq] at bytes
    obtain ⟨rfl,rfl,rfl,rfl,rfl,_⟩ := bytes
    have taken : ([0x16,3,c,d,e] ++ later).take 5 = [0x16,3,c,d,e] := rfl
    rw [taken,VisionFilter.filterRecord_header _ rfl,VisionFilter.endsPadding,isAppData_handshake] at ends
    simp only [VisionFilter.isFiltering,VisionFilter.decrementFilterCount,Bool.false_or,Bool.and_eq_true,
      Bool.not_eq_true'] at ends
    have stopped := of_decide_eq_false ends.1
    refine ⟨?_,by omega,ends.2⟩
    have header : headerOf ([0x16,3,c,d,e] ++ later) = some (parseHeader 0x16 3 c d e) := rfl
    have announced := recordCut_announced header item
    have zero : be16 d e = 0 := by omega
    obtain ⟨rfl,rfl⟩ := be16_eq_zero zero
    rfl

section Calls
variable {uuid : Uuid} {accepted buf sent : Bytes} {stream : VisionStream} {packets : Nat → Packet}

/-- The loop of a searching deframer: a first look at the data, then the records. -/
theorem searching_answered {before : Bytes} (few : before.length ≤ 5)
    (fed : stream.innerWriteDeframer = ⟨.new,before ++ buf,.searching⟩)
    (looping : Looping uuid accepted buf sent (before ++ buf) before.length 0 stream)
    (fits : SearchFits packets stream.filter before (before ++ buf)) :
    Answered uuid accepted buf
      (writeRounds packets buf.length before.length ((before ++ buf).length + 1) 0 stream 0) := by
  obtain ⟨short,final,empty,invalid,later⟩ := fits
  have searched := FuzzyTlsDeframer.nextRecord_searched (before ++ buf)
  have coherent (data : Bytes) : (TlsDeframer.new.feed data).Coherent := TlsDeframer.coherent_new.feed data
  have buffer (data : Bytes) : (TlsDeframer.new.feed data).buffer = data := List.nil_append data
  have refed : stream.innerWriteDeframer.nextRecord =
      FuzzyTlsDeframer.nextRecord ⟨.new,before ++ buf,.searching⟩ := congrArg _ fed
  generalize FuzzyTlsDeframer.nextRecord ⟨.new,before ++ buf,.searching⟩ = reply at searched refed
  -- The round that hands on an unknown prefix.
  have handed (after : FuzzyTlsDeframer) (positive : 0 < frontLen (before ++ buf))
      (inside : frontLen (before ++ buf) ≤ (before ++ buf).length)
      (answer : stream.innerWriteDeframer.nextRecord =
        (.ok (.unknownPrefix ((before ++ buf).take (frontLen (before ++ buf)))),after)) :
      (∃ next, 1 < stream.filter.recordFilterCount ∧ next.innerWriteDeframer = after ∧
        next.filter = stream.filter.decrementFilterCount ∧
        Looping uuid accepted buf (sent ++ (before ++ buf).take (frontLen (before ++ buf)))
          ((before ++ buf).drop (frontLen (before ++ buf))) before.length (frontLen (before ++ buf)) next ∧
        ∀ rounds, writeRounds packets buf.length before.length (rounds+1) 0 stream 0 =
          writeRounds packets buf.length before.length rounds 1 next (frontLen (before ++ buf))) ∨
      ∀ rounds, Answered uuid accepted buf
        (writeRounds packets buf.length before.length (rounds+1) 0 stream 0) := by
    have length : ((before ++ buf).take (frontLen (before ++ buf))).length = frontLen (before ++ buf) := by
      rw [List.length_take,Nat.min_eq_left inside]
    have split := looping
    rw [← List.take_append_drop (frontLen (before ++ buf)) (before ++ buf)] at split
    have round := (split.withDeframer after).handlePrefix (packets 0)
    rw [length,Nat.zero_add] at round
    have call : stream.writeRound (packets 0) buf.length before.length 0 =
        VisionStream.handlePrefix {stream with innerWriteDeframer := after} (packets 0) before.length 0
          ((before ++ buf).take (frontLen (before ++ buf))) := by
      rw [writeRound,answer]
    by_cases more : 1 < stream.filter.recordFilterCount
    · obtain ⟨next,flow,looping,kept,filtered⟩ := round.1 more (short positive more)
      refine .inl ⟨next,more,kept,filtered,looping,fun rounds => ?_⟩
      rw [writeRounds,call,flow]
    · obtain ⟨reached,readable⟩ := final positive (by omega)
      refine .inr fun rounds => writeRounds_answered ?_
      rw [call]
      exact round.2 (by dsimp only; omega) readable reached
  cases searched with
  | waits small none =>
    apply writeRounds_answered
    rw [writeRound,refed]
    exact (looping.withDeframer _).waits (.searching small)
  | starts found =>
    rw [writeRounds_congr buf.length refed]
    refine deframing_answered (before ++ buf) _ (coherent _) rfl (buffer _) (looping.withDeframer _) (Nat.lt_succ_self _)
      ?_ (invalid found)
    intro n item
    obtain ⟨least,_⟩ := recordCut_item item
    refine ⟨by omega,fun ends => ?_⟩
    by_contra covered
    obtain ⟨bare,last,old⟩ := endsPadding_empty found few item (by omega) ends
    dsimp only at last
    rcases empty found bare with more | known
    · omega
    · cases old.symm.trans known
  | found start positive inside =>
    rcases handed _ positive inside refed with ⟨next,more,kept,filtered,looping,rounds⟩ | answered
    · rw [rounds]
      refine deframing_answered _ _ (coherent _) kept (buffer _) looping ?_ ?_ ?_
      · rw [List.length_drop]
        omega
      · intro n item
        obtain ⟨least,_⟩ := recordCut_item item
        exact ⟨by omega,fun _ => by omega⟩
      · rw [filtered]
        exact later start positive more
    · exact answered _
  | missing start positive inside small kept =>
    rcases handed _ positive inside refed with ⟨next,more,same,filtered,looping,rounds⟩ | answered
    · rw [rounds]
      obtain ⟨n,length⟩ : ∃ n, (before ++ buf).length = n + 1 := ⟨(before ++ buf).length - 1,by omega⟩
      rw [length]
      apply writeRounds_answered
      rw [writeRound,same,kept]
      exact (looping.withDeframer _).waits (.searching small)
    · exact answered _

/-- A call that gets to the deframer finds data that fit. Any other call needs nothing. -/
def CallFits (stream : VisionStream) (surroundings : Surroundings) (buf : Bytes) : Prop :=
  stream.writeMode = .paddingTls → surroundings.entry.isDone = true → stream.pendingDirectModeSwitch = false →
    stream.pendingTlsModeSwitch = false →
    match stream.innerWriteDeframer.state with
    | .searching => SearchFits surroundings.packets stream.filter stream.held (stream.held ++ buf)
    | .deframing => InvalidFits surroundings.packets stream.filter 0 (stream.held ++ buf)

instance (stream : VisionStream) (surroundings : Surroundings) (buf : Bytes) :
    Decidable (CallFits stream surroundings buf) :=
  have : Decidable (match stream.innerWriteDeframer.state with
      | .searching => SearchFits surroundings.packets stream.filter stream.held (stream.held ++ buf)
      | .deframing => InvalidFits surroundings.packets stream.filter 0 (stream.held ++ buf)) :=
    match stream.innerWriteDeframer.state with
    | .searching => inferInstance
    | .deframing => inferInstance
  inferInstanceAs (Decidable (_ → _ → _ → _ → _))

/-- What a call may answer: nothing was taken, or what was taken is accounted for. -/
def Accounted (uuid : Uuid) (accepted buf : Bytes) (result : Except Panic (Reply × VisionStream)) : Prop :=
  (∃ after, result = .ok (.pending,after) ∧ Carries uuid accepted after) ∨ Answered uuid accepted buf result

theorem writePadded_answered {before : Bytes} {surroundings : Surroundings} (user : stream.userUuid = uuid)
    (response : stream.vlessResponseToSend = false) (mode : stream.writeMode = .paddingTls)
    (calm : stream.pendingDirectModeSwitch = false ∧ stream.pendingTlsModeSwitch = false) (silent : stream.tcp = [])
    (emitted : Emitted uuid stream.writeFirstPacket stream.plaintext sent)
    (rests : FuzzyTlsDeframer.Rests before stream.innerWriteDeframer) (whole : sent ++ before = accepted)
    (fits : match stream.innerWriteDeframer.state with
      | .searching => SearchFits surroundings.packets stream.filter stream.held (stream.held ++ buf)
      | .deframing => InvalidFits surroundings.packets stream.filter 0 (stream.held ++ buf)) :
    Answered uuid accepted buf (stream.writePadded surroundings buf) := by
  have waiting : stream.held = before := rests.remaining
  have length := rests.pending
  have joined : sent ++ (before ++ buf) = accepted ++ buf := by rw [← List.append_assoc,whole]
  have looping (deframer : FuzzyTlsDeframer) : Looping uuid accepted buf sent (before ++ buf) before.length 0
      {stream with innerWriteDeframer := deframer} :=
    ⟨user,response,mode,calm,silent,emitted,joined,by rw [Nat.zero_add,List.length_append]⟩
  rw [writePadded,length]
  rw [waiting] at fits
  generalize stream.innerWriteDeframer = deframer at rests fits ⊢
  cases rests with
  | searching few => exact searching_answered few rfl (looping _) fits
  | @deframing inner coherent more =>
    refine deframing_answered (inner.buffer ++ buf) _ (coherent.feed buf) rfl rfl (looping _) ?_ ?_ fits
    · change (inner.buffer ++ buf).length < (inner.buffer ++ buf).length + 1
      exact Nat.lt_succ_self _
    · intro n item
      have longer := recordCut_longer more item
      exact ⟨by omega,fun _ => by omega⟩

/-! Behind the final block. -/

/-- The final block is out of the waiting writes, and nothing is held back. -/
structure Through (uuid : Uuid) (sent : Bytes) (stream : VisionStream) : Prop where
  user : stream.userUuid = uuid
  response : stream.vlessResponseToSend = false
  drained : stream.pendingPlainWrites = []
  closed : Closed uuid stream.plaintext sent
  empty : stream.held = []

theorem deallocate_remaining {deframer : FuzzyTlsDeframer} : deframer.deallocate.remainingData = [] := by
  rw [FuzzyTlsDeframer.deallocate,FuzzyTlsDeframer.remainingData]
  dsimp only
  split <;> rfl

theorem postPaddingCleanup_cases (stream : VisionStream) :
    stream.postPaddingCleanup = stream ∨ stream.writeMode ≠ .paddingTls ∧ stream.postPaddingCleanup =
      {stream with innerWriteDeframer := stream.innerWriteDeframer.deallocate,pendingPlainWrites := []} := by
  rw [postPaddingCleanup]
  split
  · exact .inl rfl
  next both => exact .inr ⟨fun same => both (.inr same),rfl⟩

theorem Through.cleanup (through : Through uuid sent stream) : Through uuid sent stream.postPaddingCleanup ∧
    stream.postPaddingCleanup.tcp = stream.tcp ∧ stream.postPaddingCleanup.writeMode = stream.writeMode := by
  rcases postPaddingCleanup_cases stream with same | ⟨_,same⟩
  · rw [same]
    exact ⟨through,rfl,rfl⟩
  · obtain ⟨user,response,drained,closed,empty⟩ := through
    rw [same]
    refine ⟨⟨user,response,rfl,?_,deallocate_remaining⟩,rfl,rfl⟩
    rw [plaintext,drained] at closed
    exact closed

theorem writeDirect_accounted {answer : Option Nat} (through : Through uuid sent stream)
    (mode : stream.writeMode = .direct) (whole : sent ++ stream.tcp = accepted) :
    Accounted uuid accepted buf (.ok (stream.writeDirect answer buf)) := by
  obtain ⟨user,response,drained,closed,empty⟩ := through
  have other : stream.writeMode ≠ .paddingTls := by rw [mode]; exact VisionMode.noConfusion
  cases answer with
  | none => exact .inl ⟨stream,rfl,.closed sent user response (fun same => absurd same other) (fun _ => drained)
      (fun different => absurd mode different) closed empty whole⟩
  | some count =>
    refine .inr ⟨min count buf.length,{stream with tcp := stream.tcp ++ buf.take count},rfl,Nat.min_le_right _ _,
      .closed sent user response (fun same => absurd same other) (fun _ => drained)
        (fun different => absurd mode different) closed empty ?_⟩
    change sent ++ (stream.tcp ++ buf.take count) = _
    rw [← List.take_eq_take_min,← List.append_assoc,whole]

/-- What the session takes in TLS mode follows the blocks as it is. -/
theorem tlsRounds_accounted (rounds : List (Nat × Bool)) (pos : Nat) (inside : pos ≤ buf.length)
    (through : Through uuid (accepted ++ buf.take pos) stream) (mode : stream.writeMode = .tls)
    (silent : stream.tcp = []) :
    Accounted uuid accepted buf (.ok (tlsRounds buf rounds pos stream)) := by
  have ready (pos : Nat) (stream : VisionStream) (inside : pos ≤ buf.length)
      (through : Through uuid (accepted ++ buf.take pos) stream) (mode : stream.writeMode = .tls)
      (silent : stream.tcp = []) : Carries uuid (accepted ++ buf.take pos) stream := by
    have other : stream.writeMode ≠ .paddingTls := by rw [mode]; exact VisionMode.noConfusion
    refine .closed _ through.user through.response (fun same => absurd same other) (fun _ => through.drained)
      (fun _ => silent) through.closed through.empty ?_
    rw [silent,List.append_nil]
  have idle (stream : VisionStream) (through : Through uuid (accepted ++ buf.take 0) stream)
      (mode : stream.writeMode = .tls) (silent : stream.tcp = []) : Carries uuid accepted stream := by
    have carries := ready 0 stream (Nat.zero_le _) through mode silent
    rw [List.take_zero,List.append_nil] at carries
    exact carries
  induction rounds generalizing pos stream with
  | nil =>
    rw [tlsRounds]
    split
    next stuck =>
      obtain ⟨_,rfl⟩ := stuck
      exact .inl ⟨stream,rfl,idle stream through mode silent⟩
    · exact .inr ⟨pos,stream,rfl,inside,ready pos stream inside through mode silent⟩
  | cons round rounds ih =>
    obtain ⟨room,wouldBlock⟩ := round
    rw [tlsRounds]
    split
    · have length : ((buf.drop pos).take room).length ≤ buf.length - pos := by
        rw [List.length_take,List.length_drop]
        exact Nat.min_le_right _ _
      have taken : buf.take (pos + ((buf.drop pos).take room).length) = buf.take pos ++ (buf.drop pos).take room := by
        rw [List.take_add,List.length_take,← List.take_eq_take_min]
      have further : Through uuid (accepted ++ buf.take (pos + ((buf.drop pos).take room).length))
          {stream with session := stream.session ++ (buf.drop pos).take room} := by
        obtain ⟨user,response,drained,closed,empty⟩ := through
        refine ⟨user,response,drained,?_,empty⟩
        have longer := closed.append ((buf.drop pos).take room)
        rw [plaintext,drained,List.append_nil] at longer
        rw [plaintext,drained,taken,List.append_nil,← List.append_assoc]
        exact longer
      dsimp only
      split
      · by_cases none : pos + ((buf.drop pos).take room).length = 0
        · rw [if_pos none]
          rw [none] at further
          exact .inl ⟨_,rfl,idle _ further mode silent⟩
        · rw [if_neg none]
          exact .inr ⟨_,_,rfl,by omega,ready _ _ (by omega) further mode silent⟩
      · exact ih _ (by omega) further mode silent
    · exact .inr ⟨pos,stream,rfl,inside,ready pos stream inside through mode silent⟩

theorem Through.switchWrite (through : Through uuid sent stream) (padding : stream.writeMode = .paddingTls)
    (name : String) (mode : VisionMode) :
    ∃ after, VisionStream.switchWrite name mode stream = .ok after ∧ Through uuid sent after ∧
      after.tcp = stream.tcp ∧ after.writeMode = mode := by
  have moved : Through uuid sent {stream with writeMode := mode} :=
    ⟨through.user,through.response,through.drained,through.closed,through.empty⟩
  obtain ⟨through,tcp,after⟩ := moved.cleanup
  rw [VisionStream.switchWrite,if_neg (fun other => other padding)]
  exact ⟨_,rfl,through,tcp,after⟩

/-- The call behind the final block: the mode is switched, and the data pass. -/
theorem switched_accounted {surroundings : Surroundings} (through : Through uuid accepted stream)
    (mode : stream.writeMode = .paddingTls)
    (switches : stream.pendingDirectModeSwitch = true ∨ stream.pendingTlsModeSwitch = true)
    (silent : stream.tcp = []) : Accounted uuid accepted buf (stream.writeDrained surroundings buf) := by
  rw [writeDrained]
  by_cases direct : stream.pendingDirectModeSwitch = true
  · have cleared : Through uuid accepted {stream with pendingDirectModeSwitch := false} :=
      ⟨through.user,through.response,through.drained,through.closed,through.empty⟩
    obtain ⟨after,switched,through,tcp,direct'⟩ := cleared.switchWrite mode "switch_write_to_direct_mode" .direct
    rw [if_pos direct]
    dsimp only
    rw [switchWriteToDirectMode,switched]
    refine writeDirect_accounted through direct' ?_
    rw [tcp,silent,List.append_nil]
  · have tls : stream.pendingTlsModeSwitch = true := switches.resolve_left direct
    have cleared : Through uuid accepted {stream with pendingTlsModeSwitch := false} :=
      ⟨through.user,through.response,through.drained,through.closed,through.empty⟩
    obtain ⟨after,switched,through,tcp,mode'⟩ := cleared.switchWrite mode "switch_write_to_tls_mode" .tls
    rw [if_neg direct,if_pos tls]
    dsimp only
    rw [switchWriteToTlsMode,switched]
    refine tlsRounds_accounted surroundings.tls 0 (Nat.zero_le _) ?_ mode' (tcp.trans silent)
    rw [List.take_zero,List.append_nil]
    exact through

/-- The part of a call in front of the drain only moves waiting plaintext. -/
theorem pollWritePaddingTls_eq (surroundings : Surroundings) (response : stream.vlessResponseToSend = false) :
    ∃ session waiting, session ++ waiting = stream.plaintext ∧
      (surroundings.entry.isDone = true → waiting = []) ∧
      stream.pollWritePaddingTls surroundings buf =
        if surroundings.entry.isDone then
          VisionStream.writeDrained {stream with session := session,pendingPlainWrites := waiting} surroundings buf
        else .ok (.pending,{stream with session := session,pendingPlainWrites := waiting}) := by
  have quiet : stream.sendVlessResponse surroundings.response = stream := by
    rw [sendVlessResponse,response]
    rfl
  obtain ⟨session,waiting,same,nothing,drained⟩ := drainAllWritesPadding_eq stream surroundings.entry
  refine ⟨session,waiting,same,nothing,?_⟩
  rw [pollWritePaddingTls,quiet,drained]
  cases surroundings.entry.isDone <;> rfl

theorem Carries.pollWrite {surroundings : Surroundings} (carries : Carries uuid accepted stream)
    (fits : CallFits stream surroundings buf) : Accounted uuid accepted buf (stream.pollWrite surroundings buf) := by
  cases carries with
  | padding sent before user response mode calm silent emitted rests whole =>
    obtain ⟨session,waiting,same,_,call⟩ := pollWritePaddingTls_eq surroundings response
    rw [← same] at emitted
    rw [VisionStream.pollWrite,mode]
    dsimp only
    rw [call]
    by_cases done : surroundings.entry.isDone = true
    · rw [if_pos done,writeDrained,if_neg (by simp [calm.1]),if_neg (by simp [calm.2])]
      exact .inr (writePadded_answered user response mode calm silent emitted rests whole
        (fits mode done calm.1 calm.2))
    · rw [if_neg done]
      exact .inl ⟨_,rfl,.padding sent before user response mode calm silent emitted rests whole⟩
  | closed sent user response switches drained silent closed empty whole =>
    have through (other : stream.writeMode ≠ .paddingTls) : Through uuid sent stream :=
      ⟨user,response,drained other,closed,empty⟩
    rw [VisionStream.pollWrite]
    cases mode : stream.writeMode with
    | direct => exact writeDirect_accounted (through (by rw [mode]; exact VisionMode.noConfusion)) mode whole
    | tls =>
      have none := silent (by rw [mode]; exact VisionMode.noConfusion)
      rw [none,List.append_nil] at whole
      subst whole
      refine tlsRounds_accounted surroundings.tls 0 (Nat.zero_le _) ?_ mode none
      rw [List.take_zero,List.append_nil]
      exact through (by rw [mode]; exact VisionMode.noConfusion)
    | paddingTls =>
      have none := silent (by rw [mode]; exact VisionMode.noConfusion)
      rw [none,List.append_nil] at whole
      subst whole
      obtain ⟨session,waiting,same,nothing,call⟩ := pollWritePaddingTls_eq surroundings response
      rw [← same] at closed
      dsimp only
      rw [call]
      by_cases done : surroundings.entry.isDone = true
      · rw [if_pos done]
        exact switched_accounted ⟨user,response,nothing done,closed,empty⟩ mode (switches mode) none
      · rw [if_neg done]
        refine .inl ⟨_,rfl,.closed sent user response (fun _ => switches mode) (fun other => absurd mode other)
          (fun _ => none) closed empty ?_⟩
        change sent ++ stream.tcp = sent
        rw [none,List.append_nil]

end Calls

/-! Runs of the stream. -/

inductive Event where
  | write (surroundings : Surroundings) (buf : Bytes)
  | flush (drain : Drain)
  | read (step : ReadStep)

-- A read that fails leaves the write side as it was.
def step (stream : VisionStream) : Event → Except Panic (List (Bytes × Reply) × VisionStream)
  | .write surroundings buf => (stream.pollWrite surroundings buf).map fun reply => ([(buf,reply.1)],reply.2)
  | .flush drain => .ok ([],stream.pollFlush drain)
  | .read step => match stream.read step with
    | .ok stream => .ok ([],stream)
    | .error _ => .ok ([],stream)

def play : VisionStream → List Event → Except Panic (List (Bytes × Reply) × VisionStream)
  | stream, [] => .ok ([],stream)
  | stream, event::events => match stream.step event with
    | .ok (calls,stream) => (play stream events).map fun reply => (calls ++ reply.1,reply.2)
    | .error cause => .error cause

def taken : Bytes × Reply → Bytes
  | (buf,.ready count) => buf.take count
  | _ => []

def acceptedBytes (calls : List (Bytes × Reply)) : Bytes := (calls.map taken).flatten

/-- No count is larger than its buffer, and no call fails. -/
def Counted : Bytes × Reply → Prop
  | (buf,.ready count) => count ≤ buf.length
  | (_,.pending) => True
  | (_,.failed _) => False

/-- The run comes to its end, and nothing that was accepted is missing, doubled or out of
place: it is in the padded blocks, behind them, or held back by the deframer. -/
def LosesNothing (uuid : Uuid) (events : List Event) : Prop :=
  ∃ calls stream sent, play (newClient uuid) events = .ok (calls,stream) ∧ (∀ call ∈ calls, Counted call) ∧
    unpadded uuid stream.plaintext = .ok sent ∧ sent ++ stream.tcp ++ stream.held = acceptedBytes calls

def EventFits (stream : VisionStream) : Event → Prop
  | .write surroundings buf => CallFits stream surroundings buf
  | _ => True

instance (stream : VisionStream) (event : Event) : Decidable (EventFits stream event) :=
  match event with
  | .write _ _ => inferInstanceAs (Decidable (CallFits _ _ _))
  | .flush _ => inferInstanceAs (Decidable True)
  | .read _ => inferInstanceAs (Decidable True)

def RunFits : VisionStream → List Event → Prop
  | _, [] => True
  | stream, event::events => EventFits stream event ∧ match stream.step event with
    | .ok (_,after) => RunFits after events
    | .error _ => True

instance RunFits.decide (stream : VisionStream) (events : List Event) : Decidable (RunFits stream events) :=
  match events with
  | [] => inferInstanceAs (Decidable True)
  | event::events =>
    have : Decidable (match stream.step event with
        | .ok (_,after) => RunFits after events
        | .error _ => True) :=
      match stream.step event with
      | .ok (_,after) => RunFits.decide after events
      | .error _ => inferInstanceAs (Decidable True)
    inferInstanceAs (Decidable (_ ∧ _))

section Run
variable {uuid : Uuid} {accepted : Bytes} {stream : VisionStream}

theorem Carries.accounts (carries : Carries uuid accepted stream) :
    ∃ sent, unpadded uuid stream.plaintext = .ok sent ∧ sent ++ stream.tcp ++ stream.held = accepted := by
  cases carries with
  | padding sent before user response mode calm silent emitted rests whole =>
    refine ⟨sent,emitted.unpadded,?_⟩
    have waiting : stream.held = before := rests.remaining
    rw [silent,waiting,List.append_nil,whole]
  | closed sent user response switches drained silent closed empty whole =>
    refine ⟨sent,closed.unpadded,?_⟩
    rw [empty,List.append_nil,whole]

theorem Carries.new (uuid : Uuid) : Carries uuid [] (newClient uuid) :=
  .padding [] [] rfl rfl rfl ⟨rfl,rfl⟩ rfl .nothing (.searching (Nat.zero_le _)) rfl

theorem Carries.flush (carries : Carries uuid accepted stream) (drain : Drain) :
    Carries uuid accepted (stream.pollFlush drain) := by
  rw [pollFlush]
  cases mode : stream.writeMode with
  | tls => exact carries
  | direct => exact carries
  | paddingTls =>
    obtain ⟨session,waiting,same,_,drained⟩ := drainAllWritesPadding_eq stream drain
    dsimp only
    rw [drained]
    cases carries with
    | padding sent before user response mode calm silent emitted rests whole =>
      rw [← same] at emitted
      exact .padding sent before user response mode calm silent emitted rests whole
    | closed sent user response switches drained silent closed empty whole =>
      rw [← same] at closed
      exact .closed sent user response switches (fun other => absurd mode other) silent closed empty whole

/-- Leaving the padding on the read side only cleans up behind the write side. -/
theorem Carries.switchRead (carries : Carries uuid accepted stream) {name : String} {mode : VisionMode}
    {after : VisionStream} (switched : VisionStream.switchRead name mode stream = .ok after) :
    Carries uuid accepted after := by
  rw [VisionStream.switchRead] at switched
  split at switched
  · cases switched
  · cases switched
    cases carries with
    | padding sent before user response mode calm silent emitted rests whole =>
      rw [postPaddingCleanup,if_pos (.inr mode)]
      exact .padding sent before user response mode calm silent emitted rests whole
    | closed sent user response switches drained silent closed empty whole =>
      rcases postPaddingCleanup_cases {stream with readMode := mode} with same | ⟨other,same⟩
      · rw [same]
        exact .closed sent user response switches drained silent closed empty whole
      · rw [plaintext,drained other] at closed
        rw [same]
        exact .closed sent user response switches (fun _ => rfl) silent closed deallocate_remaining whole

theorem Carries.filtered (carries : Carries uuid accepted stream) (filter : VisionFilter) :
    Carries uuid accepted {stream with filter := filter} := by
  cases carries with
  | padding sent before user response mode calm silent emitted rests whole =>
    exact .padding sent before user response mode calm silent emitted rests whole
  | closed sent user response switches drained silent closed empty whole =>
    exact .closed sent user response switches drained silent closed empty whole

theorem Carries.read (carries : Carries uuid accepted stream) {step : ReadStep} {after : VisionStream}
    (answer : stream.read step = .ok after) : Carries uuid accepted after := by
  cases step with
  | record record =>
    cases answer
    exact carries.filtered _
  | unknownPrefix =>
    cases answer
    exact carries.filtered _
  | invalid =>
    cases answer
    exact carries.filtered _
  | direct => exact carries.switchRead answer
  | endBlock => exact carries.switchRead answer

theorem Carries.step {event : Event} (carries : Carries uuid accepted stream) (fits : EventFits stream event) :
    ∃ calls after, stream.step event = .ok (calls,after) ∧ (∀ call ∈ calls, Counted call) ∧
      Carries uuid (accepted ++ acceptedBytes calls) after := by
  have idle : accepted ++ acceptedBytes [] = accepted := List.append_nil accepted
  cases event with
  | write surroundings buf =>
    have single (reply : Reply) : acceptedBytes [(buf,reply)] = taken (buf,reply) := by simp [acceptedBytes]
    have alone {reply : Reply} (counted : Counted (buf,reply)) : ∀ call ∈ [(buf,reply)], Counted call := by
      intro call member
      rw [List.mem_singleton.mp member]
      exact counted
    rw [VisionStream.step]
    rcases carries.pollWrite fits with ⟨after,answer,carries⟩ | ⟨count,after,answer,inside,carries⟩
    · refine ⟨[(buf,.pending)],after,by rw [answer]; rfl,alone trivial,?_⟩
      rw [single]
      exact idle.symm ▸ carries
    · refine ⟨[(buf,.ready count)],after,by rw [answer]; rfl,alone inside,?_⟩
      rw [single]
      exact carries
  | flush drain => exact ⟨[],_,rfl,by simp,idle.symm ▸ carries.flush drain⟩
  | read step =>
    rw [VisionStream.step]
    cases answer : stream.read step with
    | ok after => exact ⟨[],after,rfl,by simp,idle.symm ▸ carries.read answer⟩
    | error e => exact ⟨[],stream,rfl,by simp,idle.symm ▸ carries⟩

theorem Carries.play (events : List Event) (carries : Carries uuid accepted stream) (fits : RunFits stream events) :
    ∃ calls after, VisionStream.play stream events = .ok (calls,after) ∧ (∀ call ∈ calls, Counted call) ∧
      Carries uuid (accepted ++ acceptedBytes calls) after := by
  induction events generalizing stream accepted with
  | nil => exact ⟨[],stream,rfl,by simp,(List.append_nil accepted).symm ▸ carries⟩
  | cons event events ih =>
    obtain ⟨first,later⟩ := fits
    obtain ⟨calls,next,answer,counted,carries⟩ := carries.step first
    rw [answer] at later
    obtain ⟨more,after,rest,counted',carries⟩ := ih carries later
    refine ⟨calls ++ more,after,?_,?_,?_⟩
    · rw [VisionStream.play,answer]
      dsimp only
      rw [rest]
      rfl
    · intro call member
      rcases List.mem_append.mp member with front | back
      · exact counted call front
      · exact counted' call back
    · rw [acceptedBytes,List.map_append,List.flatten_append,← List.append_assoc]
      exact carries

theorem RunFits.front {events later : List Event} (fits : RunFits stream (events ++ later)) : RunFits stream events := by
  induction events generalizing stream with
  | nil => trivial
  | cons event events ih =>
    obtain ⟨first,rest⟩ := fits
    refine ⟨first,?_⟩
    generalize stream.step event = answer at rest ⊢
    cases answer with
    | error cause => trivial
    | ok reply => exact ih rest

end Run

/-- A run in which every call fits the state it finds loses nothing at any point. -/
theorem write_path_loses_nothing (uuid : Uuid) (events : List Event) (fits : RunFits (newClient uuid) events) :
    ∀ before, before <+: events → LosesNothing uuid before := by
  rintro before ⟨later,rfl⟩
  obtain ⟨calls,stream,run,counted,carries⟩ := (Carries.new uuid).play before fits.front
  obtain ⟨sent,read,whole⟩ := carries.accounts
  exact ⟨calls,stream,sent,run,counted,read,whole⟩

/-! Two runs. -/

def samplePacket (drain : Drain) : Packet := ⟨7,fun _ => 0,20,drain⟩

def sampleSurroundings (drain : Drain) : Surroundings := ⟨2,.done,fun _ => samplePacket drain,[(2,true)],none⟩

/-- A ClientHello in two calls, TCP blocking behind it; application data of another sort;
the end of the filter; and data in TLS mode. -/
def sampleEvents : List Event := [
  .write (sampleSurroundings .done) [0x16,3,1,0,5,1,0],
  .write (sampleSurroundings (.blocked 4)) [0,0,0,0x17,3,3,0,1,9],
  .flush (.blocked 2),
  .write (sampleSurroundings .done) [0x17,3,3,0,1,9],
  .read .invalid,
  .write (sampleSurroundings (.blocked 1)) [1,2,3],
  .write (sampleSurroundings .done) [4,5,6]]

theorem sample_run_loses_nothing : LosesNothing VisionUnpadder.exampleUuid sampleEvents :=
  write_path_loses_nothing VisionUnpadder.exampleUuid sampleEvents (by decide +kernel) sampleEvents List.prefix_rfl

/-- Seven bytes of another protocol, one by one, what could be the front of a handshake
record, and the byte that shows that it starts two bytes later. -/
def heldHeaderEvents : List Event :=
  List.replicate 7 (.write (sampleSurroundings .done) [0]) ++
    [.write (sampleSurroundings .done) [0x16,3,1,0x16,3],.write (sampleSurroundings .done) [3]]

theorem held_header_underflows : ¬ LosesNothing VisionUnpadder.exampleUuid heldHeaderEvents := by
  rintro ⟨calls,stream,sent,run,_⟩
  have panics : play (newClient VisionUnpadder.exampleUuid) heldHeaderEvents = .error .underflow := by rfl
  rw [panics] at run
  cases run

end VisionStream

end Dynet.Vless
