import Mathlib.Data.List.Infix
import Dynet.Lib.Checks
import Dynet.Vless.Basic

/-! The unpadder of the Vision read path. A stream of padded blocks is read byte by byte
by a small automaton (`Phase`); the unpadder, which works through whole chunks, answers
what the automaton answers. Only its first state looks at a chunk as a whole. -/
namespace Dynet.Vless
open Dynet.Lib.Checks

inductive UnpadCommand where
  | continueBlock
  | endBlock
  | direct
  deriving DecidableEq, Repr

namespace UnpadCommand

def byte : UnpadCommand → UInt8
  | .continueBlock => 0
  | .endBlock => 1
  | .direct => 2

def tryFrom (value : UInt8) : Except IoError UnpadCommand :=
  if value = 0 then .ok .continueBlock else if value = 1 then .ok .endBlock else if value = 2 then .ok .direct
  else .error (invalidData s!"Invalid padding command: {value}")

theorem tryFrom_byte (command : UnpadCommand) : tryFrom command.byte = .ok command := by
  cases command <;> rfl

end UnpadCommand

structure UnpadResult where
  content : Bytes
  command : Option UnpadCommand
  deriving DecidableEq, Repr

inductive UnpadState where
  | initial (expectedUuid : Bytes)
  | readingCommand
  | readingContentLength (command : UnpadCommand) (firstByte : Option UInt8)
  | readingPaddingLength (command : UnpadCommand) (contentLen : Nat) (firstByte : Option UInt8)
  | readingContent (command : UnpadCommand) (partialContent : Bytes) (remainingContentLen paddingLen : Nat)
  | readingPadding (command : UnpadCommand) (content : Bytes) (remainingPaddingLen : Nat)
  | done
  deriving DecidableEq, Repr

structure VisionUnpadder where
  state : UnpadState
  firstBlock : Bool
  deriving DecidableEq, Repr

namespace VisionUnpadder

def new (expectedUuid : Bytes) : VisionUnpadder := ⟨.initial expectedUuid,true⟩

-- One round of the loop in `unpad`: another round, or the call's answer.
inductive Turn where
  | loop (state : UnpadState) (firstBlock : Bool) (accumulated data : Bytes)
  | answer (result : Except IoError UnpadResult) (state : UnpadState) (firstBlock : Bool)

def waitHeader (firstBlock : Bool) (accumulated : Bytes) : UnpadResult :=
  if firstBlock then ⟨[],none⟩ else ⟨accumulated,some .continueBlock⟩

def waitBody (firstBlock : Bool) (accumulated : Bytes) : UnpadResult :=
  ⟨accumulated,if firstBlock then none else some .continueBlock⟩

def turnHeader (firstBlock : Bool) (accumulated data : Bytes) (state : UnpadState) (next : UInt8 → UnpadState) : Turn :=
  match data with
  | [] => .answer (.ok (waitHeader firstBlock accumulated)) state firstBlock
  | b::data => .loop (next b) firstBlock accumulated data

-- Reads on when no content is left; otherwise a chunk's end hands out what there is.
def turnContent (command : UnpadCommand) (partialContent : Bytes) (remaining paddingLen : Nat) (firstBlock : Bool)
    (accumulated data : Bytes) : Turn :=
  if remaining > 0 ∧ data = [] then
    .answer (.ok (waitBody firstBlock (accumulated ++ partialContent)))
      (.readingContent command [] remaining paddingLen) firstBlock
  else
    let toRead := min remaining data.length
    let content := partialContent ++ data.take toRead
    if remaining - toRead = 0 then .loop (.readingPadding command content paddingLen) firstBlock accumulated (data.drop toRead)
    else .loop (.readingContent command content (remaining - toRead) paddingLen) firstBlock accumulated (data.drop toRead)

def turnPadding (command : UnpadCommand) (content : Bytes) (remaining : Nat) (firstBlock : Bool)
    (accumulated data : Bytes) : Turn :=
  if remaining > 0 ∧ data = [] then
    .answer (.ok (waitBody firstBlock (accumulated ++ content))) (.readingPadding command [] remaining) firstBlock
  else
    let toSkip := min remaining data.length
    if remaining - toSkip = 0 then match command with
      | .continueBlock => .loop .readingCommand false (accumulated ++ content) (data.drop toSkip)
      | _ => .answer (.ok ⟨accumulated ++ content ++ data.drop toSkip,some command⟩) .done false
    else .loop (.readingPadding command content (remaining - toSkip)) firstBlock accumulated (data.drop toSkip)

def turn (state : UnpadState) (firstBlock : Bool) (accumulated data : Bytes) : Turn :=
  match state with
  | .initial expectedUuid =>
    if data.length < 16 then .answer (.ok ⟨[],none⟩) state firstBlock
    else if data.take 16 ≠ expectedUuid then .answer (.ok ⟨data,none⟩) state firstBlock
    else .loop .readingCommand firstBlock accumulated (data.drop 16)
  | .readingCommand => match data with
    | [] => .answer (.ok (waitHeader firstBlock accumulated)) state firstBlock
    | b::data => match UnpadCommand.tryFrom b with
      | .ok command => .loop (.readingContentLength command none) firstBlock accumulated data
      | .error e => .answer (.error e) state firstBlock
  | .readingContentLength command none =>
    turnHeader firstBlock accumulated data state fun b => .readingContentLength command (some b)
  | .readingContentLength command (some high) =>
    turnHeader firstBlock accumulated data state fun b => .readingPaddingLength command (be16 high b) none
  | .readingPaddingLength command contentLen none =>
    turnHeader firstBlock accumulated data state fun b => .readingPaddingLength command contentLen (some b)
  | .readingPaddingLength command contentLen (some high) =>
    turnHeader firstBlock accumulated data state fun b => .readingContent command [] contentLen (be16 high b)
  | .readingContent command partialContent remaining paddingLen =>
    turnContent command partialContent remaining paddingLen firstBlock accumulated data
  | .readingPadding command content remaining => turnPadding command content remaining firstBlock accumulated data
  | .done => .answer (.error (invalidData "Already in UnpadState::Done")) state firstBlock

def rounds : Nat → UnpadState → Bool → Bytes → Bytes → Except IoError UnpadResult × VisionUnpadder
  | 0, state, firstBlock, accumulated, _ => (.ok ⟨accumulated,none⟩,⟨state,firstBlock⟩)
  | fuel+1, state, firstBlock, accumulated, data => match turn state firstBlock accumulated data with
    | .loop state firstBlock accumulated data => rounds fuel state firstBlock accumulated data
    | .answer result state firstBlock => (result,⟨state,firstBlock⟩)

-- A byte is worth three rounds: its own and the two that only change state.
def unpad (unpadder : VisionUnpadder) (data : Bytes) : Except IoError UnpadResult × VisionUnpadder :=
  rounds (3 * data.length + 3) unpadder.state unpadder.firstBlock [] data

end VisionUnpadder

/-- Where a reader of padded blocks stands. In a block's content and padding at least one
byte is left: `content command n p` expects `n + 1` bytes and `padding command p` expects
`p + 1`. -/
inductive Phase where
  | boundary
  | contentLength (command : UnpadCommand) (high : Option UInt8)
  | paddingLength (command : UnpadCommand) (contentLen : Nat) (high : Option UInt8)
  | content (command : UnpadCommand) (remaining paddingLen : Nat)
  | padding (command : UnpadCommand) (remaining : Nat)
  | done (command : UnpadCommand)
  deriving DecidableEq, Repr

inductive Reading where
  | waits (phase : Phase) (content : Bytes)
  | finishes (command : UnpadCommand) (content rest : Bytes)
  | invalid (e : IoError)
  deriving DecidableEq, Repr

namespace Phase

def closed : UnpadCommand → Phase
  | .continueBlock => .boundary
  | command => .done command

def skipping (command : UnpadCommand) : Nat → Phase
  | 0 => closed command
  | n+1 => .padding command n

def reading (command : UnpadCommand) (paddingLen : Nat) : Nat → Phase
  | 0 => skipping command paddingLen
  | n+1 => .content command n paddingLen

/-- The phase behind one byte, with the content it adds. -/
def next : Phase → UInt8 → Except IoError (Phase × Bytes)
  | .boundary, b => (UnpadCommand.tryFrom b).map fun command => (.contentLength command none,[])
  | .contentLength command none, b => .ok (.contentLength command (some b),[])
  | .contentLength command (some high), b => .ok (.paddingLength command (be16 high b) none,[])
  | .paddingLength command contentLen none, b => .ok (.paddingLength command contentLen (some b),[])
  | .paddingLength command contentLen (some high), b => .ok (reading command (be16 high b) contentLen,[])
  | .content command remaining paddingLen, b => .ok (reading command paddingLen remaining,[b])
  | .padding command remaining, _ => .ok (skipping command remaining,[])
  | .done command, _ => .ok (.done command,[])

end Phase

def Reading.prepend (front : Bytes) : Reading → Reading
  | .waits phase content => .waits phase (front ++ content)
  | .finishes command content rest => .finishes command (front ++ content) rest
  | .invalid e => .invalid e

def Phase.run (phase : Phase) (data : Bytes) : Reading :=
  match phase with
  | .done command => .finishes command [] data
  | phase => match data with
    | [] => .waits phase []
    | b::data => match phase.next b with
      | .ok (after,out) => (after.run data).prepend out
      | .error e => .invalid e
termination_by structural data

namespace Reading

@[simp] theorem prepend_nil (outcome : Reading) : outcome.prepend [] = outcome := by
  cases outcome <;> rfl

@[simp] theorem prepend_prepend (first second : Bytes) (outcome : Reading) :
    (outcome.prepend second).prepend first = outcome.prepend (first ++ second) := by
  cases outcome <;> simp [prepend]

def size : Reading → Nat
  | .waits _ content => content.length
  | .finishes _ content rest => content.length + rest.length
  | .invalid _ => 0

theorem size_prepend (front : Bytes) (outcome : Reading) :
    (outcome.prepend front).size ≤ front.length + outcome.size := by
  cases outcome with
  | waits phase content => simp [prepend,size]
  | finishes command content rest => simp [prepend,size,Nat.add_assoc]
  | invalid e => simp [prepend,size]

/-- What a reader has found when more bytes follow. -/
def resume (later : Bytes) : Reading → Reading
  | .waits phase content => (phase.run later).prepend content
  | .finishes command content rest => .finishes command content (rest ++ later)
  | .invalid e => .invalid e

theorem resume_prepend (front later : Bytes) (outcome : Reading) :
    (outcome.prepend front).resume later = (outcome.resume later).prepend front := by
  cases outcome with
  | waits phase content => exact (prepend_prepend front content _).symm
  | finishes command content rest => rfl
  | invalid e => rfl

end Reading

namespace Phase

def Open (phase : Phase) : Prop := ∀ command, phase ≠ .done command

theorem run_done (command : UnpadCommand) (data : Bytes) : (done command).run data = .finishes command [] data := by
  rw [run]

theorem run_nil {phase : Phase} (unfinished : phase.Open) : phase.run [] = .waits phase [] := by
  cases phase with
  | done command => exact absurd rfl (unfinished command)
  | _ => rw [run]; exact fun _ impossible => by cases impossible

theorem run_cons {phase : Phase} (unfinished : phase.Open) (b : UInt8) (data : Bytes) :
    phase.run (b::data) = match phase.next b with
      | .ok (after,out) => (after.run data).prepend out
      | .error e => .invalid e := by
  cases phase with
  | done command => exact absurd rfl (unfinished command)
  | _ => rw [run]; exact fun _ impossible => by cases impossible

theorem run_next {phase after : Phase} {b : UInt8} {out : Bytes} (unfinished : phase.Open)
    (moved : phase.next b = .ok (after,out)) (data : Bytes) :
    phase.run (b::data) = (after.run data).prepend out := by
  rw [run_cons unfinished,moved]

theorem run_append (phase : Phase) (data later : Bytes) :
    phase.run (data ++ later) = (phase.run data).resume later := by
  by_cases finished : ∃ command, phase = .done command
  · obtain ⟨command,rfl⟩ := finished
    rw [run_done,run_done]
    rfl
  · have unfinished : phase.Open := fun command same => finished ⟨command,same⟩
    induction data generalizing phase with
    | nil => simp [run_nil unfinished,Reading.resume]
    | cons b data ih =>
      rw [List.cons_append,run_cons unfinished,run_cons unfinished]
      cases phase.next b with
      | error e => rfl
      | ok reply =>
        obtain ⟨after,out⟩ := reply
        dsimp only
        rw [Reading.resume_prepend]
        by_cases spare : ∃ command, after = .done command
        · obtain ⟨command,rfl⟩ := spare
          rw [run_done,run_done]
          rfl
        · rw [ih after spare fun command same => spare ⟨command,same⟩]

theorem reading_open (command : UnpadCommand) (paddingLen remaining : Nat) :
    (reading command paddingLen (remaining+1)).Open := fun _ impossible => by cases impossible

theorem skipping_open (command : UnpadCommand) (remaining : Nat) : (skipping command (remaining+1)).Open :=
  fun _ impossible => by cases impossible

theorem run_reading (command : UnpadCommand) (paddingLen : Nat) (bytes : Bytes) (length : Nat)
    (fits : bytes.length ≤ length) (data : Bytes) :
    (reading command paddingLen length).run (bytes ++ data) =
      ((reading command paddingLen (length - bytes.length)).run data).prepend bytes := by
  induction bytes generalizing length with
  | nil => simp
  | cons b bytes ih =>
    obtain ⟨n,rfl⟩ : ∃ n, length = n + 1 := ⟨length - 1,by simp only [List.length_cons] at fits; omega⟩
    have moved : (reading command paddingLen (n+1)).next b = .ok (reading command paddingLen n,[b]) := rfl
    rw [List.cons_append,run_next (reading_open command paddingLen n) moved,
      ih n (by simp only [List.length_cons] at fits; omega)]
    simp

theorem run_skipping (command : UnpadCommand) (bytes : Bytes) (length : Nat) (fits : bytes.length ≤ length)
    (data : Bytes) :
    (skipping command length).run (bytes ++ data) = (skipping command (length - bytes.length)).run data := by
  induction bytes generalizing length with
  | nil => simp
  | cons b bytes ih =>
    obtain ⟨n,rfl⟩ : ∃ n, length = n + 1 := ⟨length - 1,by simp only [List.length_cons] at fits; omega⟩
    have moved : (skipping command (n+1)).next b = .ok (skipping command n,[]) := rfl
    rw [List.cons_append,run_next (skipping_open command n) moved,
      ih n (by simp only [List.length_cons] at fits; omega)]
    simp

end Phase

namespace VisionUnpadder

/-- The phase of a state behind the user id. -/
def view : UnpadState → Option Phase
  | .initial _ => none
  | .readingCommand => some .boundary
  | .readingContentLength command firstByte => some (.contentLength command firstByte)
  | .readingPaddingLength command contentLen firstByte => some (.paddingLength command contentLen firstByte)
  | .readingContent command _ remaining paddingLen => some (.reading command paddingLen remaining)
  | .readingPadding command _ remaining => some (.skipping command remaining)
  | .done => none

/-- Content of the current block that has been read and not been handed on. -/
def held : UnpadState → Bytes
  | .readingContent _ partialContent _ _ => partialContent
  | .readingPadding _ content _ => content
  | _ => []

def InBody : UnpadState → Prop
  | .readingContent .. => True
  | .readingPadding .. => True
  | _ => False

def rank : UnpadState → Nat
  | .readingContent .. => 2
  | .readingPadding .. => 1
  | _ => 0

/-- The answer of a call against what the automaton read: the bytes in `before` had been
read when it started. -/
def Replies (before : Bytes) : Reading → Except IoError UnpadResult × VisionUnpadder → Prop
  | .waits phase content, (.ok result,after) =>
    result.content = before ++ content ∧ (result.command = none ∨ result.command = some .continueBlock) ∧
      view after.state = some phase ∧ held after.state = []
  | .finishes command content rest, (.ok result,after) =>
    result = ⟨before ++ content ++ rest,some command⟩ ∧ after.state = .done
  | .invalid e, (.error other,_) => other = e
  | _, _ => False

theorem Replies.prepend {before front : Bytes} {outcome : Reading}
    {reply : Except IoError UnpadResult × VisionUnpadder} (replies : Replies (before ++ front) outcome reply) :
    Replies before (outcome.prepend front) reply := by
  obtain ⟨result,after⟩ := reply
  cases outcome <;> cases result <;>
    simp only [Replies,Reading.prepend,List.append_assoc] at replies ⊢ <;> exact replies

theorem replies_waitHeader {state : UnpadState} {phase : Phase} (viewed : view state = some phase)
    (fresh : held state = []) (firstBlock : Bool) {accumulated : Bytes}
    (quiet : firstBlock = true → accumulated = []) :
    Replies accumulated (.waits phase []) (.ok (waitHeader firstBlock accumulated),⟨state,firstBlock⟩) := by
  cases firstBlock with
  | true =>
    cases quiet rfl
    exact ⟨rfl,.inl rfl,viewed,fresh⟩
  | false => exact ⟨(List.append_nil _).symm,.inr rfl,viewed,fresh⟩

theorem replies_waitBody {state : UnpadState} {phase : Phase} (viewed : view state = some phase)
    (fresh : held state = []) (firstBlock : Bool) (accumulated : Bytes) :
    Replies accumulated (.waits phase []) (.ok (waitBody firstBlock accumulated),⟨state,firstBlock⟩) := by
  refine ⟨(List.append_nil _).symm,?_,viewed,fresh⟩
  cases firstBlock
  · exact .inr rfl
  · exact .inl rfl

/-- The loop from any state behind the user id: the invariant is that nothing has been
collected while the first block's header is read. -/
theorem rounds_replies (fuel : Nat) (state : UnpadState) (firstBlock : Bool) (accumulated data : Bytes)
    {phase : Phase} (viewed : view state = some phase)
    (quiet : ¬ InBody state → firstBlock = true → accumulated = [])
    (enough : 3 * data.length + rank state < fuel) :
    Replies (accumulated ++ held state) (phase.run data) (rounds fuel state firstBlock accumulated data) := by
  induction fuel generalizing state firstBlock accumulated data phase with
  | zero => omega
  | succ fuel ih =>
    -- A length byte moves on and adds nothing.
    have header (next : UInt8 → UnpadState) (after : UInt8 → Phase) (unfinished : phase.Open)
        (call : turn state firstBlock accumulated data = turnHeader firstBlock accumulated data state next)
        (moves : ∀ b, phase.next b = .ok (after b,[])) (views : ∀ b, view (next b) = some (after b))
        (empty : ∀ b, held (next b) = []) (low : ∀ b, rank (next b) ≤ 2) (plain : ¬ InBody state)
        (fresh : held state = []) (start : firstBlock = true → ∀ b, ¬ InBody (next b) → accumulated = []) :
        Replies (accumulated ++ held state) (phase.run data)
          (rounds (fuel+1) state firstBlock accumulated data) := by
      rw [fresh,List.append_nil,rounds,call]
      cases data with
      | nil =>
        rw [Phase.run_nil unfinished]
        exact replies_waitHeader viewed fresh firstBlock (quiet plain)
      | cons b data =>
        rw [Phase.run_next unfinished (moves b),Reading.prepend_nil]
        have less := low b
        have later := ih (next b) firstBlock accumulated data (views b) (fun body first => start first b body)
          (by simp only [List.length_cons] at enough; omega)
        rw [empty,List.append_nil] at later
        exact later
    cases state with
    | initial expectedUuid => cases viewed
    | done => cases viewed
    | readingCommand =>
      cases viewed
      have unfinished : Phase.boundary.Open := fun _ impossible => by cases impossible
      have fresh : held .readingCommand = [] := rfl
      rw [fresh,List.append_nil,rounds]
      cases data with
      | nil =>
        rw [Phase.run_nil unfinished]
        exact replies_waitHeader rfl rfl firstBlock (quiet id)
      | cons b data =>
        rw [turn,Phase.run_cons unfinished,Phase.next]
        cases UnpadCommand.tryFrom b with
        | error e => exact rfl
        | ok command =>
          have later := ih (.readingContentLength command none) firstBlock accumulated data rfl
            (fun _ first => quiet id first) (by simp only [List.length_cons,rank] at enough ⊢; omega)
          have empty : held (.readingContentLength command none) = [] := rfl
          rw [empty,List.append_nil] at later
          simpa [Except.map] using later
    | readingContentLength command firstByte =>
      cases viewed
      have unfinished : (Phase.contentLength command firstByte).Open := fun _ impossible => by cases impossible
      have start (first : firstBlock = true) : accumulated = [] := quiet id first
      cases firstByte with
      | none =>
        exact header (fun b => .readingContentLength command (some b)) _ unfinished rfl (fun _ => rfl)
          (fun _ => rfl) (fun _ => rfl) (fun _ => by simp [rank]) id rfl (fun first _ _ => start first)
      | some high =>
        exact header (fun b => .readingPaddingLength command (be16 high b) none) _ unfinished rfl (fun _ => rfl)
          (fun _ => rfl) (fun _ => rfl) (fun _ => by simp [rank]) id rfl (fun first _ _ => start first)
    | readingPaddingLength command contentLen firstByte =>
      cases viewed
      have unfinished : (Phase.paddingLength command contentLen firstByte).Open :=
        fun _ impossible => by cases impossible
      have start (first : firstBlock = true) : accumulated = [] := quiet id first
      cases firstByte with
      | none =>
        exact header (fun b => .readingPaddingLength command contentLen (some b)) _ unfinished rfl (fun _ => rfl)
          (fun _ => rfl) (fun _ => rfl) (fun _ => by simp [rank]) id rfl (fun first _ _ => start first)
      | some high =>
        exact header (fun b => .readingContent command [] contentLen (be16 high b)) _ unfinished rfl (fun _ => rfl)
          (fun _ => rfl) (fun _ => rfl) (fun _ => by simp [rank]) id rfl (fun first _ _ => start first)
    | readingContent command partialContent remaining paddingLen =>
      cases viewed
      rw [held,rounds,turn,turnContent]
      by_cases waits : remaining > 0 ∧ data = []
      · rw [if_pos waits]
        obtain ⟨some,rfl⟩ := waits
        obtain ⟨n,rfl⟩ : ∃ n, remaining = n + 1 := ⟨remaining - 1,by omega⟩
        rw [Phase.run_nil (Phase.reading_open command paddingLen n)]
        exact replies_waitBody rfl rfl firstBlock _
      · rw [if_neg waits]
        have split := Phase.run_reading command paddingLen (data.take (min remaining data.length)) remaining
          (by rw [List.length_take]; omega) (data.drop (min remaining data.length))
        rw [List.take_append_drop,List.length_take] at split
        have taken : min (min remaining data.length) data.length = min remaining data.length := by omega
        rw [taken] at split
        rw [split]
        apply Replies.prepend
        have length : (data.drop (min remaining data.length)).length = data.length - min remaining data.length :=
          List.length_drop
        have moved : remaining - min remaining data.length ≠ 0 → 0 < min remaining data.length := by
          intro left
          have : data.length ≠ 0 := fun none => waits ⟨by omega,List.length_eq_zero_iff.mp none⟩
          omega
        dsimp only
        by_cases complete : remaining - min remaining data.length = 0
        · rw [if_pos complete,complete]
          have later := ih (.readingPadding command (partialContent ++ data.take (min remaining data.length)) paddingLen)
            firstBlock accumulated (data.drop (min remaining data.length)) rfl (fun body => absurd trivial body)
            (by simp only [rank] at enough ⊢; omega)
          rw [held,← List.append_assoc] at later
          exact later
        · rw [if_neg complete]
          have progress := moved complete
          have later := ih (.readingContent command (partialContent ++ data.take (min remaining data.length))
              (remaining - min remaining data.length) paddingLen)
            firstBlock accumulated (data.drop (min remaining data.length)) rfl (fun body => absurd trivial body)
            (by simp only [rank] at enough ⊢; omega)
          rw [held,← List.append_assoc] at later
          exact later
    | readingPadding command content remaining =>
      cases viewed
      rw [held,rounds,turn,turnPadding]
      by_cases waits : remaining > 0 ∧ data = []
      · rw [if_pos waits]
        obtain ⟨some,rfl⟩ := waits
        obtain ⟨n,rfl⟩ : ∃ n, remaining = n + 1 := ⟨remaining - 1,by omega⟩
        rw [Phase.run_nil (Phase.skipping_open command n)]
        exact replies_waitBody rfl rfl firstBlock _
      · rw [if_neg waits]
        have split := Phase.run_skipping command (data.take (min remaining data.length)) remaining
          (by rw [List.length_take]; omega) (data.drop (min remaining data.length))
        rw [List.take_append_drop,List.length_take] at split
        have taken : min (min remaining data.length) data.length = min remaining data.length := by omega
        rw [taken] at split
        rw [split]
        have length : (data.drop (min remaining data.length)).length = data.length - min remaining data.length :=
          List.length_drop
        have moved : remaining - min remaining data.length ≠ 0 → 0 < min remaining data.length := by
          intro left
          have : data.length ≠ 0 := fun none => waits ⟨by omega,List.length_eq_zero_iff.mp none⟩
          omega
        dsimp only
        by_cases complete : remaining - min remaining data.length = 0
        · rw [if_pos complete,complete]
          cases command with
          | continueBlock =>
            have later := ih .readingCommand false (accumulated ++ content) (data.drop (min remaining data.length))
              rfl (fun _ impossible => by cases impossible) (by simp only [rank] at enough ⊢; omega)
            have fresh : held .readingCommand = [] := rfl
            rw [fresh,List.append_nil] at later
            exact later
          | endBlock =>
            rw [Phase.skipping,Phase.closed,Phase.run_done]
            · exact ⟨by rw [List.append_nil],rfl⟩
            · exact UnpadCommand.noConfusion
          | direct =>
            rw [Phase.skipping,Phase.closed,Phase.run_done]
            · exact ⟨by rw [List.append_nil],rfl⟩
            · exact UnpadCommand.noConfusion
        · rw [if_neg complete]
          have progress := moved complete
          have later := ih (.readingPadding command content (remaining - min remaining data.length))
            firstBlock accumulated (data.drop (min remaining data.length)) rfl (fun body => absurd trivial body)
            (by simp only [rank] at enough ⊢; omega)
          rw [held] at later
          exact later

end VisionUnpadder

structure Uuid where
  bytes : Bytes
  length : bytes.length = 16

structure PaddedBlock where
  content : Bytes
  padding : Bytes
  contentFits : content.length < 65536
  paddingFits : padding.length < 65536

def PaddedBlock.encode (command : UnpadCommand) (block : PaddedBlock) : Bytes :=
  command.byte::(toBe16 block.content.length ++ (toBe16 block.padding.length ++ (block.content ++ block.padding)))

/-- Continue blocks, the block with the final command, and what follows unpadded. -/
structure PaddedStream where
  blocks : List PaddedBlock
  last : PaddedBlock
  final : UnpadCommand
  ends : final ≠ .continueBlock
  tail : Bytes

namespace PaddedStream

def body (stream : PaddedStream) : Bytes :=
  (stream.blocks.map (PaddedBlock.encode .continueBlock)).flatten ++ stream.last.encode stream.final

def content (stream : PaddedStream) : Bytes :=
  (stream.blocks.map (·.content)).flatten ++ stream.last.content

def bytes (uuid : Uuid) (stream : PaddedStream) : Bytes := uuid.bytes ++ (stream.body ++ stream.tail)

theorem body_ne_nil (stream : PaddedStream) : stream.body ≠ [] := by
  simp [body,PaddedBlock.encode]

end PaddedStream

namespace Phase

theorem run_encode (command : UnpadCommand) (block : PaddedBlock) (data : Bytes) :
    boundary.run (block.encode command ++ data) = ((closed command).run data).prepend block.content := by
  have opens (phase : Phase) (plain : ∀ command, phase ≠ .done command) : phase.Open := plain
  have read := run_reading command block.padding.length block.content block.content.length (Nat.le_refl _)
    (block.padding ++ data)
  have skip := run_skipping command block.padding block.padding.length (Nat.le_refl _) data
  rw [Nat.sub_self] at read skip
  have moved : boundary.next command.byte = .ok (.contentLength command none,[]) := by
    rw [next,UnpadCommand.tryFrom_byte]
    rfl
  have header : boundary.run (block.encode command ++ data) =
      (reading command block.padding.length block.content.length).run (block.content ++ (block.padding ++ data)) := by
    simp only [PaddedBlock.encode,toBe16,List.cons_append,List.nil_append,List.append_assoc]
    rw [run_next (opens _ fun _ => Phase.noConfusion) moved,run_next (opens _ fun _ => Phase.noConfusion) rfl,
      run_next (opens _ fun _ => Phase.noConfusion) rfl,run_next (opens _ fun _ => Phase.noConfusion) rfl,
      run_next (opens _ fun _ => Phase.noConfusion) rfl,be16_toBe16 block.contentFits,
      be16_toBe16 block.paddingFits]
    simp only [Reading.prepend_nil]
  rw [header,read]
  exact congrArg (Reading.prepend block.content) skip

theorem run_body (stream : PaddedStream) (data : Bytes) :
    boundary.run (stream.body ++ data) = .finishes stream.final stream.content data := by
  have last : boundary.run (stream.last.encode stream.final ++ data) =
      .finishes stream.final stream.last.content data := by
    have finished : closed stream.final = .done stream.final := by
      cases same : stream.final with
      | continueBlock => exact absurd same stream.ends
      | endBlock => rfl
      | direct => rfl
    rw [run_encode,finished,run_done]
    exact congrArg (Reading.finishes stream.final · data) (List.append_nil _)
  unfold PaddedStream.body PaddedStream.content
  induction stream.blocks with
  | nil => exact last
  | cons block blocks ih =>
    rw [List.map_cons,List.flatten_cons,List.append_assoc,List.append_assoc,run_encode,← List.append_assoc]
    change (boundary.run _).prepend _ = _
    rw [ih,List.map_cons,List.flatten_cons,List.append_assoc]
    rfl

/-- A reader that finishes on the whole is still waiting in front of the last byte. -/
theorem run_part {phase : Phase} {part rest : Bytes} {command : UnpadCommand} {content : Bytes}
    (whole : phase.run (part ++ rest) = .finishes command content []) (more : rest ≠ []) :
    ∃ after out left, phase.run part = .waits after out ∧ after.run rest = .finishes command left [] ∧
      out ++ left = content := by
  rw [run_append] at whole
  cases outcome : phase.run part with
  | waits after out =>
    rw [outcome] at whole
    change (after.run rest).prepend out = _ at whole
    cases later : after.run rest with
    | waits again left => simp [later,Reading.prepend] at whole
    | invalid e => simp [later,Reading.prepend] at whole
    | finishes other left spare =>
      simp only [later,Reading.prepend,Reading.finishes.injEq] at whole
      obtain ⟨rfl,rfl,rfl⟩ := whole
      exact ⟨after,out,left,rfl,later,rfl⟩
  | finishes other out spare =>
    simp only [outcome,Reading.resume,Reading.finishes.injEq] at whole
    exact absurd (List.append_eq_nil_iff.mp whole.2.2).2 more
  | invalid e => simp [outcome,Reading.resume] at whole

theorem next_length {phase after : Phase} {b : UInt8} {out : Bytes} (moved : phase.next b = .ok (after,out)) :
    out.length ≤ 1 := by
  cases phase with
  | boundary =>
    rw [next] at moved
    cases found : UnpadCommand.tryFrom b with
    | error e =>
      rw [found] at moved
      cases moved
    | ok command =>
      rw [found] at moved
      cases moved
      simp
  | contentLength command high => cases high <;> cases moved <;> simp
  | paddingLength command contentLen high => cases high <;> cases moved <;> simp
  | content command remaining paddingLen => cases moved; simp
  | padding command remaining => cases moved; simp
  | done command => cases moved; simp

theorem run_size (phase : Phase) (data : Bytes) : (phase.run data).size ≤ data.length := by
  induction data generalizing phase with
  | nil =>
    cases phase with
    | done command => rw [run_done]; simp [Reading.size]
    | _ => rw [run_nil (fun _ impossible => by cases impossible)]; simp [Reading.size]
  | cons b data ih =>
    by_cases finished : ∃ command, phase = .done command
    · obtain ⟨command,rfl⟩ := finished
      rw [run_done]
      simp [Reading.size]
    · rw [run_cons fun command same => finished ⟨command,same⟩]
      cases moved : phase.next b with
      | error e => simp [Reading.size]
      | ok reply =>
        obtain ⟨after,out⟩ := reply
        have small := next_length moved
        have later := ih after
        have sum := Reading.size_prepend out (after.run data)
        rw [List.length_cons]
        dsimp only
        omega

end Phase

namespace VisionUnpadder

def calls : VisionUnpadder → List Bytes → Except IoError (List UnpadResult × VisionUnpadder)
  | unpadder, [] => .ok ([],unpadder)
  | unpadder, chunk::chunks => match unpadder.unpad chunk with
    | (.ok result,unpadder) => (calls unpadder chunks).map fun reply => (result::reply.1,reply.2)
    | (.error e,_) => .error e

def contents (results : List UnpadResult) : Bytes := (results.map (·.content)).flatten

theorem contents_cons (result : UnpadResult) (results : List UnpadResult) :
    contents (result::results) = result.content ++ contents results := rfl

theorem calls_cons {unpadder reader : VisionUnpadder} {chunk : Bytes} {chunks : List Bytes}
    {results : List UnpadResult} (run : calls unpadder (chunk::chunks) = .ok (results,reader)) :
    ∃ result next rest, unpadder.unpad chunk = (.ok result,next) ∧ calls next chunks = .ok (rest,reader) ∧
      results = result::rest := by
  rw [calls] at run
  generalize call : unpadder.unpad chunk = reply at run
  obtain ⟨result,next⟩ := reply
  cases result with
  | error e => cases run
  | ok result =>
    obtain ⟨⟨rest,_⟩,later,same⟩ := (map_ok_iff _ _ _).mp run
    cases same
    exact ⟨result,next,rest,rfl,later,rfl⟩

theorem unpad_short {uuid : Bytes} {firstBlock : Bool} {data : Bytes} (short : data.length < 16) :
    unpad ⟨.initial uuid,firstBlock⟩ data = (.ok ⟨[],none⟩,⟨.initial uuid,firstBlock⟩) := by
  rw [unpad,rounds,turn,if_pos short]

theorem unpad_foreign {uuid : Bytes} {firstBlock : Bool} {data : Bytes} (long : 16 ≤ data.length)
    (foreign : data.take 16 ≠ uuid) :
    unpad ⟨.initial uuid,firstBlock⟩ data = (.ok ⟨data,none⟩,⟨.initial uuid,firstBlock⟩) := by
  rw [unpad,rounds,turn,if_neg (Nat.not_lt.mpr long),if_pos foreign]

theorem unpad_uuid (uuid : Uuid) (firstBlock : Bool) (data : Bytes) :
    Replies [] (Phase.boundary.run data) (unpad ⟨.initial uuid.bytes,firstBlock⟩ (uuid.bytes ++ data)) := by
  have length := uuid.length
  have total : (uuid.bytes ++ data).length = 16 + data.length := by rw [List.length_append,length]
  have first : turn (.initial uuid.bytes) firstBlock [] (uuid.bytes ++ data) =
      .loop .readingCommand firstBlock [] data := by
    rw [turn,if_neg (by omega),if_neg]
    · rw [← length,List.drop_left]
    · rw [← length,List.take_left]
      exact fun different => different rfl
  have low : rank .readingCommand = 0 := rfl
  rw [unpad,rounds,first]
  exact rounds_replies _ .readingCommand firstBlock [] data rfl (fun _ _ => rfl) (by omega)

theorem unpad_viewed {unpadder : VisionUnpadder} {phase : Phase} (viewed : view unpadder.state = some phase)
    (fresh : held unpadder.state = []) (data : Bytes) : Replies [] (phase.run data) (unpadder.unpad data) := by
  have low : rank unpadder.state ≤ 2 := by
    unfold rank
    split <;> omega
  have replies := rounds_replies (3 * data.length + 3) unpadder.state unpadder.firstBlock [] data viewed
    (fun _ _ => rfl) (by omega)
  rw [fresh,List.append_nil] at replies
  exact replies

/-- The calls of a reader that stands in front of `ahead` bytes of padding data report
the final command with the chunk that completes them, and not before. -/
def Finishes (unpadder : VisionUnpadder) (ahead : Nat) (content : Bytes) (final : UnpadCommand) (chunks : List Bytes) :
    Prop :=
  ∃ before chunk after, chunks = before ++ chunk::after ∧ before.flatten.length < ahead ∧
    ahead ≤ (before.flatten ++ chunk).length ∧
    ∃ results last reader, calls unpadder (before ++ [chunk]) = .ok (results ++ [last],reader) ∧
      contents (results ++ [last]) = content ++ (before.flatten ++ chunk).drop ahead ∧
      last.command = some final ∧
      ∀ result ∈ results, result.command = none ∨ result.command = some .continueBlock

theorem Finishes.cons {unpadder next : VisionUnpadder} {result : UnpadResult} {chunk : Bytes} {ahead : Nat}
    {content : Bytes} {final : UnpadCommand} {chunks : List Bytes}
    (call : unpadder.unpad chunk = (.ok result,next))
    (plain : result.command = none ∨ result.command = some .continueBlock)
    (finishes : Finishes next ahead content final chunks) :
    Finishes unpadder (chunk.length + ahead) (result.content ++ content) final (chunk::chunks) := by
  obtain ⟨before,last,after,rfl,early,late,results,answer,reader,run,whole,command,quiet⟩ := finishes
  refine ⟨chunk::before,last,after,rfl,?_,?_,result::results,answer,reader,?_,?_,command,?_⟩
  · rw [List.flatten_cons,List.length_append]
    omega
  · rw [List.flatten_cons,List.append_assoc,List.length_append]
    omega
  · simp only [List.cons_append,calls,call,run]
    rfl
  · have skipped : (chunk ++ before.flatten ++ last).drop (chunk.length + ahead) =
        (before.flatten ++ last).drop ahead := by
      rw [List.append_assoc,← List.drop_drop,List.drop_left]
    rw [List.flatten_cons,skipped,List.append_assoc,← whole]
    rfl
  · exact List.forall_mem_cons.mpr ⟨plain,quiet⟩

theorem finishes_single {unpadder next : VisionUnpadder} {result : UnpadResult} {chunk rest : Bytes}
    {content : Bytes} {final : UnpadCommand} {ahead : Nat} (chunks : List Bytes)
    (call : unpadder.unpad chunk = (.ok result,next)) (reached : ahead ≤ chunk.length) (positive : 0 < ahead)
    (whole : result = ⟨content ++ rest,some final⟩) (dropped : chunk.drop ahead = rest) :
    Finishes unpadder ahead content final (chunk::chunks) := by
  refine ⟨[],chunk,chunks,rfl,positive,by simpa using reached,[],result,next,?_,?_,?_,by simp⟩
  · simp only [List.nil_append,calls,call]
    rfl
  · rw [whole]
    simp [contents,dropped]
  · rw [whole]

/-- The call on `front ++ data` that reads `data` from the given phase, and the calls on
the chunks after it. -/
theorem finishes_from {unpadder : VisionUnpadder} {phase : Phase} {front data : Bytes} (chunks : List Bytes)
    {ahead tail content : Bytes} {final : UnpadCommand}
    (replies : Replies [] (phase.run data) (unpadder.unpad (front ++ data)))
    (run : phase.run ahead = .finishes final content []) (nonempty : ahead ≠ [])
    (whole : data ++ chunks.flatten = ahead ++ tail) :
    Finishes unpadder (front.length + ahead.length) content final ((front ++ data)::chunks) := by
  have positive := List.length_pos_iff.mpr nonempty
  induction chunks generalizing unpadder phase front data ahead content with
  | nil =>
    rw [List.flatten_nil,List.append_nil] at whole
    subst whole
    rw [Phase.run_append,run] at replies
    generalize call : unpadder.unpad (front ++ (ahead ++ tail)) = reply at replies
    obtain ⟨result,next⟩ := reply
    cases result with
    | error e => exact replies.elim
    | ok result =>
      refine finishes_single [] call (by simp) (by omega) replies.1 ?_
      rw [← List.append_assoc,List.drop_append,List.drop_eq_nil_of_le (by simp)]
      simp
  | cons chunk chunks ih =>
    by_cases reached : ahead.length ≤ data.length
    · obtain ⟨rest,rfl⟩ : ∃ rest, data = ahead ++ rest := by
        refine ⟨data.drop ahead.length,?_⟩
        have taken := congrArg (List.take ahead.length) whole
        rw [List.take_append_of_le_length reached,List.take_left] at taken
        rw [← taken,List.length_take,Nat.min_eq_left reached,List.take_append_drop]
      rw [Phase.run_append,run] at replies
      generalize call : unpadder.unpad (front ++ (ahead ++ rest)) = reply at replies
      obtain ⟨result,next⟩ := reply
      cases result with
      | error e => exact replies.elim
      | ok result =>
        refine finishes_single _ call (by simp) (by omega) replies.1 ?_
        rw [← List.append_assoc,List.drop_append,List.drop_eq_nil_of_le (by simp)]
        simp
    · obtain ⟨left,rfl⟩ : ∃ left, ahead = data ++ left := by
        refine ⟨ahead.drop data.length,?_⟩
        have taken := congrArg (List.take data.length) whole
        rw [List.take_left,List.take_append_of_le_length (by omega)] at taken
        conv_rhs => rw [taken,List.length_take,Nat.min_eq_left (by omega),List.take_append_drop]
      have more : left ≠ [] := by
        rintro rfl
        simp at reached
      obtain ⟨next,out,later,waits,finishes,rfl⟩ := Phase.run_part run more
      rw [waits] at replies
      generalize call : unpadder.unpad (front ++ data) = reply at replies
      obtain ⟨result,reader⟩ := reply
      cases result with
      | error e => exact replies.elim
      | ok result =>
        obtain ⟨content,plain,viewed,fresh⟩ := replies
        have answered : Replies [] (next.run chunk) (reader.unpad ([] ++ chunk)) := unpad_viewed viewed fresh chunk
        have rest := ih answered finishes more
          (by rw [List.append_assoc] at whole; exact List.append_cancel_left whole)
          (List.length_pos_iff.mpr more)
        have joined := rest.cons call plain
        rw [content] at joined
        simp only [List.nil_append,List.length_nil,Nat.zero_add,List.length_append,Nat.add_assoc] at joined ⊢
        exact joined

theorem calls_append {unpadder : VisionUnpadder} {first second : List Bytes} {results : List UnpadResult}
    {reader : VisionUnpadder} (run : calls unpadder (first ++ second) = .ok (results,reader)) :
    ∃ front middle back, calls unpadder first = .ok (front,middle) ∧ calls middle second = .ok (back,reader) ∧
      results = front ++ back := by
  induction first generalizing unpadder results with
  | nil => exact ⟨[],unpadder,results,rfl,run,rfl⟩
  | cons chunk first ih =>
    obtain ⟨result,next,rest,call,later,rfl⟩ := calls_cons run
    obtain ⟨front,middle,back,start,finish,rfl⟩ := ih later
    refine ⟨result::front,middle,back,?_,finish,rfl⟩
    simp only [calls,call,start]
    rfl

/-- Chunks that never hold a whole user id are lost, and nothing is reported. -/
theorem calls_short {uuid : Bytes} {firstBlock : Bool} (chunks : List Bytes)
    (short : ∀ chunk ∈ chunks, chunk.length < 16) :
    calls ⟨.initial uuid,firstBlock⟩ chunks =
      .ok (List.replicate chunks.length ⟨[],none⟩,⟨.initial uuid,firstBlock⟩) := by
  induction chunks with
  | nil => rfl
  | cons chunk chunks ih =>
    obtain ⟨first,rest⟩ := List.forall_mem_cons.mp short
    rw [calls,unpad_short first]
    simp only [ih rest]
    rfl

theorem not_finishes_short {uuid : Bytes} {firstBlock : Bool} {ahead : Nat} {content : Bytes} {final : UnpadCommand}
    {chunks : List Bytes} (short : ∀ chunk ∈ chunks, chunk.length < 16) :
    ¬ Finishes ⟨.initial uuid,firstBlock⟩ ahead content final chunks := by
  rintro ⟨before,chunk,after,rfl,_,_,results,last,reader,run,_,command,_⟩
  rw [calls_short _ fun part member => short part (by
    rcases List.mem_append.mp member with front | back
    · exact List.mem_append_left _ front
    · exact List.mem_append_right _ (List.mem_cons.mpr (.inl (List.mem_singleton.mp back))))] at run
  have same : List.replicate (before ++ [chunk]).length ⟨[],none⟩ = results ++ [last] :=
    congrArg Prod.fst (Except.ok.inj run)
  have member : last ∈ List.replicate (before ++ [chunk]).length (⟨[],none⟩ : UnpadResult) := by
    rw [same]
    simp
  rw [List.eq_of_mem_replicate member] at command
  cases command

theorem finishes_idle {uuid : Bytes} {firstBlock : Bool} {ahead : Nat} {content : Bytes} {final : UnpadCommand}
    {chunks : List Bytes} (finishes : Finishes ⟨.initial uuid,firstBlock⟩ ahead content final chunks) (idle : Nat) :
    Finishes ⟨.initial uuid,firstBlock⟩ ahead content final (List.replicate idle [] ++ chunks) := by
  induction idle with
  | zero => exact finishes
  | succ idle ih =>
    have short : ([] : Bytes).length < 16 := by simp
    have later := ih.cons (unpad_short short) (.inl rfl)
    simpa [List.replicate_succ] using later

theorem unpad_initial_cases (uuid : Uuid) (firstBlock : Bool) (chunk : Bytes) :
    (chunk.length < 16 ∧ unpad ⟨.initial uuid.bytes,firstBlock⟩ chunk =
      (.ok ⟨[],none⟩,⟨.initial uuid.bytes,firstBlock⟩)) ∨
    (16 ≤ chunk.length ∧ ¬ uuid.bytes <+: chunk ∧ unpad ⟨.initial uuid.bytes,firstBlock⟩ chunk =
      (.ok ⟨chunk,none⟩,⟨.initial uuid.bytes,firstBlock⟩)) ∨
    ∃ data, chunk = uuid.bytes ++ data ∧
      Replies [] (Phase.boundary.run data) (unpad ⟨.initial uuid.bytes,firstBlock⟩ chunk) := by
  by_cases short : chunk.length < 16
  · exact .inl ⟨short,unpad_short short⟩
  · have long := Nat.le_of_not_lt short
    by_cases starts : uuid.bytes <+: chunk
    · obtain ⟨data,rfl⟩ := starts
      exact .inr (.inr ⟨data,rfl,unpad_uuid uuid firstBlock data⟩)
    · refine .inr (.inl ⟨long,starts,unpad_foreign long fun same => starts ?_⟩)
      rw [← same]
      exact List.take_prefix 16 chunk

/-- The states between two calls. -/
def Rests (state : UnpadState) : Prop :=
  (∃ phase, view state = some phase ∧ held state = []) ∨ state = .done ∨
    ∃ uuid : Uuid, state = .initial uuid.bytes

theorem replies_size {phase : Phase} {data : Bytes} {result : UnpadResult} {next : VisionUnpadder}
    (replies : Replies [] (phase.run data) (.ok result,next)) :
    result.content.length ≤ data.length ∧ Rests next.state := by
  have bound := Phase.run_size phase data
  cases outcome : phase.run data with
  | waits after content =>
    rw [outcome] at bound replies
    obtain ⟨same,_,viewed,fresh⟩ := replies
    rw [same]
    exact ⟨bound,.inl ⟨after,viewed,fresh⟩⟩
  | finishes command content rest =>
    rw [outcome] at bound replies
    obtain ⟨rfl,finished⟩ := replies
    refine ⟨?_,.inr (.inl finished)⟩
    simp only [Reading.size,List.nil_append,List.length_append] at bound ⊢
    omega
  | invalid e =>
    rw [outcome] at replies
    exact replies.elim

theorem unpad_size {unpadder next : VisionUnpadder} {chunk : Bytes} {result : UnpadResult}
    (rests : Rests unpadder.state) (call : unpadder.unpad chunk = (.ok result,next)) :
    result.content.length ≤ chunk.length ∧ Rests next.state := by
  obtain ⟨state,firstBlock⟩ := unpadder
  rcases rests with ⟨phase,viewed,fresh⟩ | finished | ⟨uuid,initial⟩
  · have replies := unpad_viewed viewed fresh chunk
    rw [call] at replies
    exact replies_size replies
  · cases finished
    rw [unpad,rounds,turn] at call
    cases call
  · cases initial
    rcases unpad_initial_cases uuid firstBlock chunk with ⟨_,same⟩ | ⟨_,_,same⟩ | ⟨data,rfl,replies⟩
    · cases same.symm.trans call
      exact ⟨Nat.zero_le _,.inr (.inr ⟨uuid,rfl⟩)⟩
    · cases same.symm.trans call
      exact ⟨Nat.le_refl _,.inr (.inr ⟨uuid,rfl⟩)⟩
    · rw [call] at replies
      obtain ⟨size,rests⟩ := replies_size replies
      refine ⟨Nat.le_trans size ?_,rests⟩
      rw [List.length_append]
      omega

theorem calls_size {unpadder : VisionUnpadder} {chunks : List Bytes} {results : List UnpadResult}
    {reader : VisionUnpadder} (rests : Rests unpadder.state) (run : calls unpadder chunks = .ok (results,reader)) :
    (contents results).length ≤ chunks.flatten.length := by
  induction chunks generalizing unpadder results with
  | nil =>
    cases run
    simp [contents]
  | cons chunk chunks ih =>
    obtain ⟨result,next,rest,call,later,rfl⟩ := calls_cons run
    obtain ⟨size,again⟩ := unpad_size rests call
    have bound := ih again later
    rw [contents_cons,List.length_append,List.flatten_cons,List.length_append]
    omega

/-- Foreign data comes out whole only when each call has taken its chunk for foreign data. -/
theorem calls_foreign (uuid : Uuid) (firstBlock : Bool) (chunks : List Bytes) :
    (∃ results reader, calls ⟨.initial uuid.bytes,firstBlock⟩ chunks = .ok (results,reader) ∧
      contents results = chunks.flatten) ↔
    ∀ chunk ∈ chunks, chunk ≠ [] → 16 ≤ chunk.length ∧ ¬ uuid.bytes <+: chunk := by
  induction chunks with
  | nil =>
    constructor
    · intro _ chunk member
      cases member
    · intro _
      exact ⟨[],_,rfl,rfl⟩
  | cons chunk chunks ih =>
    rw [List.forall_mem_cons,← ih]
    constructor
    · rintro ⟨results,reader,run,whole⟩
      obtain ⟨result,next,rest,call,later,rfl⟩ := calls_cons run
      rw [contents_cons,List.flatten_cons] at whole
      have total := congrArg List.length whole
      rw [List.length_append,List.length_append] at total
      rcases unpad_initial_cases uuid firstBlock chunk with ⟨_,same⟩ | ⟨long,foreign,same⟩ | ⟨data,rfl,replies⟩
      · cases same.symm.trans call
        have bound := calls_size (.inr (.inr ⟨uuid,rfl⟩)) later
        have none : chunk = [] := by
          apply List.length_eq_zero_iff.mp
          simp only [List.length_nil] at total
          omega
        subst none
        exact ⟨fun some => absurd rfl some,rest,reader,later,whole⟩
      · cases same.symm.trans call
        exact ⟨fun _ => ⟨long,foreign⟩,rest,reader,later,List.append_cancel_left whole⟩
      · rw [call] at replies
        obtain ⟨size,rests⟩ := replies_size replies
        have bound := calls_size rests later
        have id := uuid.length
        rw [List.length_append] at total
        omega
    · rintro ⟨first,rest,reader,later,whole⟩
      by_cases empty : chunk = []
      · subst empty
        refine ⟨⟨[],none⟩::rest,reader,?_,whole⟩
        rw [calls,unpad_short (by simp)]
        simp only [later]
        rfl
      · obtain ⟨long,foreign⟩ := first empty
        refine ⟨⟨chunk,none⟩::rest,reader,?_,?_⟩
        · have different : chunk.take 16 ≠ uuid.bytes := fun same => foreign (same ▸ List.take_prefix 16 chunk)
          rw [calls,unpad_foreign long different]
          simp only [later]
          rfl
        · rw [contents_cons,whole,List.flatten_cons]

/-- A padded stream is read the same however it is cut behind its first chunk exactly when
that chunk holds the user id. -/
theorem finishes_iff (uuid : Uuid) (stream : PaddedStream) (idle : Nat) {first rest : Bytes}
    (whole : first ++ rest = stream.bytes uuid) :
    (∀ chunks : List Bytes, chunks.flatten = rest →
      Finishes (new uuid.bytes) (16 + stream.body.length) stream.content stream.final
        (List.replicate idle [] ++ first::chunks)) ↔
    16 ≤ first.length := by
  constructor
  · intro finishes
    by_contra short
    have single : (rest.map fun b => [b]).flatten = rest := by
      rw [← List.flatMap_def]
      exact List.flatMap_singleton' rest
    refine not_finishes_short ?_ (finishes (rest.map fun b => [b]) single)
    intro chunk member
    rcases List.mem_append.mp member with empty | later
    · rw [List.eq_of_mem_replicate empty]
      simp
    · rcases List.mem_cons.mp later with rfl | byte
      · omega
      · obtain ⟨b,_,rfl⟩ := List.mem_map.mp byte
        simp
  · intro long chunks cut
    apply finishes_idle
    obtain ⟨data,rfl⟩ : ∃ data, first = uuid.bytes ++ data := by
      have starts : uuid.bytes <+: stream.bytes uuid := List.prefix_append _ _
      rw [← whole] at starts
      obtain ⟨data,same⟩ := List.prefix_of_prefix_length_le starts (List.prefix_append _ _)
        (by rw [uuid.length]; exact long)
      exact ⟨data,same.symm⟩
    rw [PaddedStream.bytes,List.append_assoc] at whole
    have run : Phase.boundary.run stream.body = .finishes stream.final stream.content [] := by
      simpa using Phase.run_body stream []
    have finishes := finishes_from chunks (unpad_uuid uuid true data) run (PaddedStream.body_ne_nil stream)
      (by rw [cut]; exact List.append_cancel_left whole)
    rw [uuid.length] at finishes
    exact finishes

/-- When the unpadder does not depend on the chunks. A padded stream starts with `idle`
empty chunks and a first chunk that is not empty: the rest may be cut in every way exactly
when that chunk holds the whole user id. A stream of another sort comes out unchanged
exactly when each chunk is empty or long enough to be told from a padded one. -/
theorem unpad_chunk_invariant_iff (uuid : Uuid) :
    (∀ (stream : PaddedStream) (idle : Nat) (first rest : Bytes), first ≠ [] → first ++ rest = stream.bytes uuid →
      ((∀ chunks : List Bytes, chunks.flatten = rest →
          Finishes (new uuid.bytes) (16 + stream.body.length) stream.content stream.final
            (List.replicate idle [] ++ first::chunks)) ↔
        16 ≤ first.length)) ∧
    (∀ chunks : List Bytes, ¬ uuid.bytes <+: chunks.flatten →
      ((∃ results reader, calls (new uuid.bytes) chunks = .ok (results,reader) ∧
          contents results = chunks.flatten) ↔
        ∀ chunk ∈ chunks, chunk ≠ [] → 16 ≤ chunk.length ∧ ¬ uuid.bytes <+: chunk)) :=
  ⟨fun stream idle _ _ _ whole => finishes_iff uuid stream idle whole,fun chunks _ => calls_foreign uuid true chunks⟩

def exampleUuid : Uuid := ⟨[1,2,3,4,5,6,7,8,9,10,11,12,13,14,15,16],rfl⟩

def exampleStream : PaddedStream where
  blocks := [⟨[104],[0,0],by simp,by simp⟩]
  last := ⟨[105],[0],by simp,by simp⟩
  final := .endBlock
  ends := by simp
  tail := [33]

theorem unpad_chunk_invariant_example :
    Finishes (new exampleUuid.bytes) 31 [104,105] .endBlock
      [[],[1,2,3,4,5,6,7,8,9,10,11,12,13,14,15,16,0],[0,1,0],[2,104],[0,0,1,0,1,0,1,105,0,33]] :=
  ((unpad_chunk_invariant_iff exampleUuid).1 exampleStream 1
      [1,2,3,4,5,6,7,8,9,10,11,12,13,14,15,16,0] [0,1,0,2,104,0,0,1,0,1,0,1,105,0,33] (by decide) rfl).mpr
    (by decide) [[0,1,0],[2,104],[0,0,1,0,1,0,1,105,0,33]] rfl

/-- The first byte of the stream arrives alone: it is dropped, and the padded blocks behind
it come out as they are, with no command. -/
theorem unpad_loses_first_byte :
    [[1],(exampleStream.bytes exampleUuid).tail].flatten = exampleStream.bytes exampleUuid ∧
      ¬ Finishes (new exampleUuid.bytes) (16 + exampleStream.body.length) exampleStream.content exampleStream.final
        [[1],(exampleStream.bytes exampleUuid).tail] := by
  refine ⟨rfl,?_⟩
  rintro ⟨before,chunk,after,cut,_,_,results,last,reader,run,_,command,_⟩
  have whole : calls (new exampleUuid.bytes) [[1],(exampleStream.bytes exampleUuid).tail] =
      .ok ([⟨[],none⟩,⟨(exampleStream.bytes exampleUuid).tail,none⟩],new exampleUuid.bytes) := by
    rfl
  rw [cut,List.append_cons] at whole
  obtain ⟨front,middle,back,start,_,joined⟩ := calls_append whole
  cases run.symm.trans start
  have member : last ∈ [⟨[],none⟩,⟨(exampleStream.bytes exampleUuid).tail,none⟩] := by
    rw [joined]
    simp
  have quiet : last.command = none := by
    rcases List.mem_cons.mp member with rfl | later
    · rfl
    · rw [List.mem_singleton.mp later]
  rw [quiet] at command
  cases command

end VisionUnpadder

end Dynet.Vless
