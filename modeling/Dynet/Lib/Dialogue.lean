import Mathlib.Data.List.Basic
import Mathlib.Data.List.Induction

/-! Dialogues over a byte stream: programs that read exact amounts, write, and stop, and
sessions that run one dialogue after the other. In whatever pieces bytes arrive and are taken,
what a dialogue has written is a beginning of what it writes on the whole input, and what lies
behind the last byte that it reads is left alone. -/
namespace Dynet.Lib

/-- How the input of a dialogue can break off. -/
inductive Break where
  | eof
  | error (text : String)
  deriving DecidableEq, Repr

def Break.text : Break → String
  | .eof => "early eof"
  | .error text => text

inductive Dialogue (ε α : Type) where
  | done (result : Except ε α)
  | read (n : Nat) (broken : Break → ε) (next : List UInt8 → Dialogue ε α)
  | write (bytes : List UInt8) (refused : String → ε) (next : Dialogue ε α)

namespace Dialogue
variable {ε α β σ : Type}

protected def bind : Dialogue ε α → (α → Dialogue ε β) → Dialogue ε β
  | .done (.ok value), next => next value
  | .done (.error e), _ => .done (.error e)
  | .read n broken rest, next => .read n broken fun bytes => (rest bytes).bind next
  | .write bytes refused rest, next => .write bytes refused (rest.bind next)

instance : Monad (Dialogue ε) where
  pure value := .done (.ok value)
  bind := Dialogue.bind

/-- `read_exact`. -/
def exactly (n : Nat) (broken : Break → ε) : Dialogue ε (List UInt8) := .read n broken fun bytes => .done (.ok bytes)

/-- `write_all`. -/
def send (bytes : List UInt8) (refused : String → ε) : Dialogue ε Unit := .write bytes refused (.done (.ok ()))

def fail (e : ε) : Dialogue ε α := .done (.error e)

@[simp] theorem done_ok_bind (value : α) (next : α → Dialogue ε β) : (.done (.ok value) : Dialogue ε α) >>= next = next value := rfl
@[simp] theorem pure_bind (value : α) (next : α → Dialogue ε β) : (pure value : Dialogue ε α) >>= next = next value := rfl
@[simp] theorem fail_bind (e : ε) (next : α → Dialogue ε β) : (fail e : Dialogue ε α) >>= next = fail e := rfl
@[simp] theorem exactly_bind (n : Nat) (broken : Break → ε) (next : List UInt8 → Dialogue ε β) :
    exactly n broken >>= next = .read n broken next := rfl
@[simp] theorem send_bind (bytes : List UInt8) (refused : String → ε) (next : Unit → Dialogue ε β) :
    send bytes refused >>= next = .write bytes refused (next ()) := rfl

/-- A dialogue under way: what it is still to do, the bytes it has not taken yet, and all that
it has written. -/
structure Peer (ε α : Type) where
  talk : Dialogue ε α
  held : List UInt8
  written : List UInt8

namespace Peer

def after (written : List UInt8) (peer : Peer ε α) : Peer ε α := { peer with written := written ++ peer.written }

@[simp] theorem after_nil (peer : Peer ε α) : peer.after [] = peer := rfl
@[simp] theorem after_talk (written : List UInt8) (peer : Peer ε α) : (peer.after written).talk = peer.talk := rfl
@[simp] theorem after_held (written : List UInt8) (peer : Peer ε α) : (peer.after written).held = peer.held := rfl
@[simp] theorem after_written (written : List UInt8) (peer : Peer ε α) : (peer.after written).written = written ++ peer.written := rfl

@[simp] theorem after_after (first second : List UInt8) (peer : Peer ε α) :
    (peer.after second).after first = peer.after (first ++ second) := by
  simp [after]

theorem after_eq_iff {bytes held written : List UInt8} {peer : Peer ε α} {talk : Dialogue ε α} :
    peer.after bytes = ⟨talk,held,written⟩ ↔ ∃ more, written = bytes ++ more ∧ peer = ⟨talk,held,more⟩ := by
  constructor
  · intro same
    cases peer
    cases same
    exact ⟨_,rfl,rfl⟩
  · rintro ⟨more,rfl,rfl⟩
    rfl

end Peer

/-- The dialogue goes on as far as its input allows. -/
def settle : Dialogue ε α → List UInt8 → Peer ε α
  | .done result, input => ⟨.done result,input,[]⟩
  | .read n broken next, input =>
    if input.length < n then ⟨.read n broken next,input,[]⟩ else (next (input.take n)).settle (input.drop n)
  | .write bytes _ next, input => (next.settle input).after bytes

theorem settle_short {n : Nat} {broken : Break → ε} {next : List UInt8 → Dialogue ε α} {input : List UInt8}
    (short : input.length < n) : (read n broken next).settle input = ⟨.read n broken next,input,[]⟩ := by
  rw [settle,if_pos short]

theorem settle_long {n : Nat} {broken : Break → ε} {next : List UInt8 → Dialogue ε α} {input : List UInt8}
    (long : n ≤ input.length) : (read n broken next).settle input = (next (input.take n)).settle (input.drop n) := by
  rw [settle,if_neg (Nat.not_lt.mpr long)]

theorem settle_read {n : Nat} {broken : Break → ε} {next : List UInt8 → Dialogue ε α} {bytes : List UInt8}
    (sized : bytes.length = n) (later : List UInt8) : (read n broken next).settle (bytes ++ later) = (next bytes).settle later := by
  rw [settle_long (by rw [List.length_append]; omega),List.take_left' sized,List.drop_left' sized]

/-- More input later is the same as all of it at once. -/
theorem settle_append (talk : Dialogue ε α) (input later : List UInt8) : talk.settle (input ++ later) =
    ((talk.settle input).talk.settle ((talk.settle input).held ++ later)).after (talk.settle input).written := by
  induction talk generalizing input with
  | done result => rfl
  | read n broken next ih =>
    by_cases short : input.length < n
    · rw [settle_short short]
      rfl
    · have enough := Nat.not_lt.mp short
      rw [settle_long (Nat.le_trans enough (by simp)),List.take_append_of_le_length enough,List.drop_append_of_le_length enough,ih,
        settle_long enough]
  | write bytes refused next ih =>
    rw [settle,settle,ih]
    simp

theorem settle_held_length (talk : Dialogue ε α) (input : List UInt8) : (talk.settle input).held.length ≤ input.length := by
  induction talk generalizing input with
  | done result => exact Nat.le_refl _
  | read n broken next ih =>
    rw [settle]
    split
    · exact Nat.le_refl _
    · exact Nat.le_trans (ih _ _) (by rw [List.length_drop]; omega)
  | write bytes refused next ih =>
    rw [settle]
    exact ih input

theorem settle_bind (talk : Dialogue ε α) (next : α → Dialogue ε β) (input : List UInt8) : (talk >>= next).settle input =
    match (talk.settle input).talk with
    | .done (.ok value) => ((next value).settle (talk.settle input).held).after (talk.settle input).written
    | waiting => ⟨waiting >>= next,(talk.settle input).held,(talk.settle input).written⟩ := by
  induction talk generalizing input with
  | done result => cases result <;> rfl
  | read n broken rest ih =>
    change (read n broken fun bytes => rest bytes >>= next).settle input = _
    by_cases short : input.length < n
    · rw [settle_short short,settle_short short]
      rfl
    · rw [settle_long (Nat.not_lt.mp short),ih,settle_long (Nat.not_lt.mp short)]
  | write bytes refused rest ih =>
    change (write bytes refused (rest >>= next)).settle input = _
    rw [settle,settle,ih]
    simp only [Peer.after_talk,Peer.after_held,Peer.after_written]
    split
    · simp
    · rfl

/-- On this input the dialogue ends, with what it leaves and what it has written. -/
def Ends (talk : Dialogue ε α) (input : List UInt8) (result : Except ε α) (rest written : List UInt8) : Prop :=
  talk.settle input = ⟨.done result,rest,written⟩

theorem Ends.done_iff {given result : Except ε α} {input rest written : List UInt8} :
    Ends (.done given) input result rest written ↔ given = result ∧ input = rest ∧ written = [] := by
  simp [Ends,settle,eq_comm]

theorem Ends.read_iff {n : Nat} {broken : Break → ε} {next : List UInt8 → Dialogue ε α} {input : List UInt8}
    {result : Except ε α} {rest written : List UInt8} : Ends (.read n broken next) input result rest written ↔
      ∃ bytes later, bytes.length = n ∧ input = bytes ++ later ∧ Ends (next bytes) later result rest written := by
  constructor
  · intro ends
    by_cases short : input.length < n
    · rw [Ends,settle_short short] at ends
      cases ends
    · have long := Nat.not_lt.mp short
      rw [Ends,settle_long long] at ends
      exact ⟨input.take n,input.drop n,by rw [List.length_take]; omega,(List.take_append_drop n input).symm,ends⟩
  · rintro ⟨bytes,later,sized,rfl,ends⟩
    rwa [Ends,settle_read sized]

theorem Ends.write_iff {bytes : List UInt8} {refused : String → ε} {next : Dialogue ε α} {input : List UInt8}
    {result : Except ε α} {rest written : List UInt8} : Ends (.write bytes refused next) input result rest written ↔
      ∃ more, written = bytes ++ more ∧ Ends next input result rest more := Peer.after_eq_iff

theorem Ends.bind_iff {talk : Dialogue ε α} {next : α → Dialogue ε β} {input : List UInt8} {result : β}
    {rest written : List UInt8} : Ends (talk >>= next) input (.ok result) rest written ↔
      ∃ value middle first second, Ends talk input (.ok value) middle first ∧
        Ends (next value) middle (.ok result) rest second ∧ written = first ++ second := by
  constructor
  · intro ends
    rw [Ends,settle_bind] at ends
    rcases peer : talk.settle input with ⟨going,middle,first⟩
    rw [peer] at ends
    match going with
    | .done (.ok value) =>
      obtain ⟨second,wrote,later⟩ := Peer.after_eq_iff.mp ends
      exact ⟨value,middle,first,second,peer,later,wrote⟩
    | .done (.error e) => cases ends
    | .read _ _ _ => cases ends
    | .write _ _ _ => cases ends
  · rintro ⟨value,middle,first,second,one,two,rfl⟩
    rw [Ends,settle_bind,one]
    exact Peer.after_eq_iff.mpr ⟨second,rfl,two⟩

/-- The dialogue only reads. -/
inductive Silent : Dialogue ε α → Prop
  | done (result : Except ε α) : Silent (.done result)
  | read {n : Nat} {broken : Break → ε} {next : List UInt8 → Dialogue ε α} (silent : ∀ bytes, Silent (next bytes)) :
    Silent (.read n broken next)

theorem Silent.exactly (n : Nat) (broken : Break → ε) : Silent (exactly n broken) := .read fun _ => .done _

theorem Silent.bind {talk : Dialogue ε α} {next : α → Dialogue ε β} (first : Silent talk) (second : ∀ value, Silent (next value)) :
    Silent (talk >>= next) := by
  induction first with
  | done result =>
    cases result with
    | ok value => exact second value
    | error e => exact .done _
  | read _ ih => exact .read ih

theorem Silent.written {talk : Dialogue ε α} (silent : Silent talk) (input : List UInt8) : (talk.settle input).written = [] := by
  induction silent generalizing input with
  | done result => rfl
  | read _ ih =>
    rw [settle]
    split
    · rfl
    · exact ih _ _

/-! A run, in pieces. -/

/-- What can happen next: a chunk arrives, the dialogue goes on, or some of what it writes is
taken. -/
inductive Move where
  | arrives (chunk : List UInt8)
  | proceeds
  | takes (count : Nat)
  deriving DecidableEq, Repr

/-- The input of a run. -/
def arrived : List Move → List UInt8
  | [] => []
  | .arrives chunk::moves => chunk ++ arrived moves
  | _::moves => arrived moves

namespace Peer

/-- A move that cannot be made changes nothing. -/
def move (peer : Peer ε α) : Move → Peer ε α
  | .arrives chunk => { peer with held := peer.held ++ chunk }
  | .proceeds => match peer.talk with
    | .read n _ next => if peer.held.length < n then peer else ⟨next (peer.held.take n),peer.held.drop n,peer.written⟩
    | _ => peer
  | .takes count => match peer.talk with
    | .write bytes refused next =>
      if bytes.length ≤ count then ⟨next,peer.held,peer.written ++ bytes⟩
      else ⟨.write (bytes.drop count) refused next,peer.held,peer.written ++ bytes.take count⟩
    | _ => peer

/-- All that the peer still does when `later` arrives, behind what it has written. -/
def settled (peer : Peer ε α) (later : List UInt8) : Peer ε α := (peer.talk.settle (peer.held ++ later)).after peer.written

/-- The dialogue is over or waits for its input. -/
def Rested (peer : Peer ε α) : Prop := peer.talk.settle peer.held = ⟨peer.talk,peer.held,[]⟩

/-- What a move writes is the beginning of what was to come. -/
theorem move_settle (peer : Peer ε α) (move : Move) (later : List UInt8) :
    ∃ more, (peer.move move).written = peer.written ++ more ∧ peer.talk.settle (peer.held ++ (arrived [move] ++ later)) =
      ((peer.move move).talk.settle ((peer.move move).held ++ later)).after more := by
  obtain ⟨talk,held,written⟩ := peer
  have still {peer : Peer ε α} : ∃ more, peer.written = peer.written ++ more ∧ peer.talk.settle (peer.held ++ later) =
      (peer.talk.settle (peer.held ++ later)).after more := ⟨[],(List.append_nil _).symm,rfl⟩
  cases move with
  | arrives chunk => exact ⟨[],(List.append_nil _).symm,by simp [Peer.move,arrived]⟩
  | proceeds =>
    cases talk with
    | done result => exact still
    | write bytes refused next => exact still
    | read n broken next =>
      simp only [Peer.move]
      split
      · exact still
      · rename_i long
        have enough := Nat.not_lt.mp long
        refine ⟨[],(List.append_nil _).symm,?_⟩
        simp only [arrived,List.nil_append]
        rw [settle_long (Nat.le_trans enough (by simp)),List.take_append_of_le_length enough,
          List.drop_append_of_le_length enough,after_nil]
  | takes count =>
    cases talk with
    | done result => exact still
    | read n broken next => exact still
    | write bytes refused next =>
      simp only [Peer.move]
      split
      · exact ⟨bytes,rfl,rfl⟩
      · refine ⟨bytes.take count,rfl,?_⟩
        rw [settle,settle,after_after,List.take_append_drop]
        rfl

theorem settled_move (peer : Peer ε α) (move : Move) (later : List UInt8) :
    (peer.move move).settled later = peer.settled (arrived [move] ++ later) := by
  obtain ⟨more,wrote,same⟩ := peer.move_settle move later
  rw [settled,settled,wrote,same,after_after]

theorem settled_nil {peer : Peer ε α} (rested : peer.Rested) : peer.settled [] = peer := by
  rw [settled,List.append_nil,rested]
  simp [after]

end Peer

/-- The dialogue after a run of moves. -/
def converse (talk : Dialogue ε α) (moves : List Move) : Peer ε α := moves.foldl Peer.move ⟨talk,[],[]⟩

theorem arrived_append (moves more : List Move) : arrived (moves ++ more) = arrived moves ++ arrived more := by
  induction moves with
  | nil => rfl
  | cons move moves ih => cases move <;> simp [arrived,ih]

/-- Whatever moves are made, what is written and still to come is what the dialogue does on
its whole input. -/
theorem converse_settled (talk : Dialogue ε α) (moves : List Move) (later : List UInt8) :
    (talk.converse moves).settled later = talk.settle (arrived moves ++ later) := by
  induction moves using List.reverseRecOn generalizing later with
  | nil => rfl
  | append_singleton moves move ih =>
    rw [converse,List.foldl_append,List.foldl_cons,List.foldl_nil,Peer.settled_move,← converse,ih,arrived_append,
      List.append_assoc]

theorem converse_rested {talk : Dialogue ε α} {moves : List Move} (rested : (talk.converse moves).Rested) :
    talk.converse moves = talk.settle (arrived moves) := by
  have whole := converse_settled talk moves []
  rwa [Peer.settled_nil rested,List.append_nil] at whole

theorem converse_written (talk : Dialogue ε α) (moves : List Move) :
    (talk.converse moves).written <+: (talk.settle (arrived moves)).written := by
  have whole := converse_settled talk moves []
  rw [List.append_nil] at whole
  rw [← whole]
  exact List.prefix_append _ _

/-! What stops a dialogue from outside. -/

/-- The input breaks off, a write fails, or the dialogue is cancelled. -/
inductive Halt where
  | breaks (how : Break)
  | refuses (text : String)
  | cancels
  deriving DecidableEq, Repr

/-- The error that a halt ends the dialogue with, if it can come now. -/
def Peer.halt (cancelled : Option ε) (peer : Peer ε α) : Halt → Option ε
  | .breaks how => match peer.talk with
    | .read n broken _ => if peer.held.length < n then some (broken how) else none
    | _ => none
  | .refuses text => match peer.talk with
    | .write (_::_) refused _ => some (refused text)
    | _ => none
  | .cancels => match peer.talk with
    | .done _ => none
    | _ => cancelled

/-- The errors that halts of the dialogue have. -/
inductive Names (named : ε → Prop) : Dialogue ε α → Prop
  | done (result : Except ε α) : Names named (.done result)
  | read {n : Nat} {broken : Break → ε} {next : List UInt8 → Dialogue ε α} (breaks : ∀ how, named (broken how))
    (later : ∀ bytes, Names named (next bytes)) : Names named (.read n broken next)
  | write {bytes : List UInt8} {refused : String → ε} {next : Dialogue ε α} (refuses : ∀ text, named (refused text))
    (later : Names named next) : Names named (.write bytes refused next)

section Named
variable {named : ε → Prop}

theorem Names.exactly (n : Nat) {broken : Break → ε} (breaks : ∀ how, named (broken how)) :
    Names named (exactly n broken) := .read breaks fun _ => .done _

theorem Names.send (bytes : List UInt8) {refused : String → ε} (refuses : ∀ text, named (refused text)) :
    Names named (send bytes refused) := .write refuses (.done _)

theorem Names.bind {talk : Dialogue ε α} {next : α → Dialogue ε β} (first : Names named talk)
    (second : ∀ value, Names named (next value)) : Names named (talk >>= next) := by
  induction first with
  | done result =>
    cases result with
    | ok value => exact second value
    | error e => exact .done _
  | read breaks _ ih => exact .read breaks ih
  | write refuses _ ih => exact .write refuses ih

theorem Names.move {peer : Peer ε α} (names : Names named peer.talk) (move : Move) : Names named (peer.move move).talk := by
  obtain ⟨talk,held,written⟩ := peer
  cases names with
  | done result => cases move <;> exact .done result
  | read breaks later =>
    cases move with
    | arrives chunk => exact .read breaks later
    | takes count => exact .read breaks later
    | proceeds =>
      simp only [Peer.move]
      split
      · exact .read breaks later
      · exact later _
  | write refuses later =>
    cases move with
    | arrives chunk => exact .write refuses later
    | proceeds => exact .write refuses later
    | takes count =>
      simp only [Peer.move]
      split
      · exact later
      · exact .write refuses later

theorem Names.converse {talk : Dialogue ε α} (names : Names named talk) (moves : List Move) :
    Names named (talk.converse moves).talk := by
  induction moves using List.reverseRecOn with
  | nil => exact names
  | append_singleton moves move ih =>
    rw [Dialogue.converse,List.foldl_append]
    exact ih.move move

theorem Names.halt {peer : Peer ε α} (names : Names named peer.talk) {cancelled : Option ε} (cancels : ∀ e ∈ cancelled, named e)
    {halt : Halt} {e : ε} (halted : peer.halt cancelled halt = some e) : named e := by
  obtain ⟨talk,held,written⟩ := peer
  cases names with
  | done result => cases halt <;> cases halted
  | read breaks later =>
    cases halt with
    | breaks how =>
      simp only [Peer.halt] at halted
      split at halted
      · cases halted
        exact breaks how
      · cases halted
    | refuses text => cases halted
    | cancels => exact cancels e halted
  | @write bytes refused next refuses later =>
    cases halt with
    | breaks how => cases halted
    | refuses text =>
      cases bytes with
      | nil => cases halted
      | cons byte bytes =>
        cases halted
        exact refuses text
    | cancels => exact cancels e halted

end Named

section Session
variable (body : σ → Dialogue ε σ)

/-- A session starts its next dialogue as soon as one has ended well. -/
def serve : Nat → Dialogue ε σ → List UInt8 → Peer ε σ
  | 0, talk, input => talk.settle input
  | rounds+1, talk, input => match (talk.settle input).talk with
    | .done (.ok state) => (serve rounds (body state) (talk.settle input).held).after (talk.settle input).written
    | _ => talk.settle input

-- Every dialogue but the first one takes a byte, so the bytes bound the rounds.
def listen (talk : Dialogue ε σ) (input : List UInt8) : Peer ε σ := serve body (input.length + 1) talk input

/-- Every dialogue of the session begins with a read. -/
def Hungry : Prop := ∀ state, ∃ n broken next, body state = .read (n+1) broken next

/-- The dialogue does not end well on this input. -/
def Stays (talk : Dialogue ε σ) (input : List UInt8) : Prop := ∀ state, (talk.settle input).talk ≠ .done (.ok state)

variable {body}

theorem serve_done {rounds : Nat} {talk : Dialogue ε σ} {input : List UInt8} {state : σ}
    (ended : (talk.settle input).talk = .done (.ok state)) : serve body (rounds+1) talk input =
      (serve body rounds (body state) (talk.settle input).held).after (talk.settle input).written := by
  rw [serve,ended]

theorem serve_stays {talk : Dialogue ε σ} {input : List UInt8} (stays : Stays talk input) (rounds : Nat) :
    serve body rounds talk input = talk.settle input := by
  cases rounds with
  | zero => rfl
  | succ rounds =>
    rw [serve]
    split
    · rename_i ended
      exact absurd ended (stays _)
    · rfl

theorem Hungry.shorter (hungry : Hungry body) {state next : σ} {input : List UInt8}
    (ended : ((body state).settle input).talk = .done (.ok next)) : ((body state).settle input).held.length < input.length := by
  obtain ⟨n,broken,rest,shape⟩ := hungry state
  rw [shape] at ended ⊢
  by_cases short : input.length < n + 1
  · rw [settle_short short] at ended
    cases ended
  · rw [settle_long (Nat.not_lt.mp short)]
    have kept := settle_held_length (rest (input.take (n+1))) (input.drop (n+1))
    rw [List.length_drop] at kept
    omega

theorem serve_enough (hungry : Hungry body) (rounds extra : Nat) (state : σ) (input : List UInt8) (enough : input.length ≤ rounds) :
    serve body (rounds + extra) (body state) input = serve body rounds (body state) input := by
  induction rounds generalizing state input with
  | zero =>
    refine serve_stays (fun next ended => ?_) _
    have shorter := hungry.shorter ended
    omega
  | succ rounds ih =>
    by_cases stays : Stays (body state) input
    · rw [serve_stays stays,serve_stays stays]
    · simp only [Stays,not_forall,not_not] at stays
      obtain ⟨next,ended⟩ := stays
      have shorter := hungry.shorter ended
      rw [Nat.succ_add,serve_done ended,serve_done ended,ih _ _ (by omega)]

theorem listen_stays {talk : Dialogue ε σ} {input : List UInt8} (stays : Stays talk input) : listen body talk input = talk.settle input :=
  serve_stays stays _

theorem listen_done (hungry : Hungry body) {talk : Dialogue ε σ} {input : List UInt8} {state : σ}
    (ended : (talk.settle input).talk = .done (.ok state)) : listen body talk input =
      (listen body (body state) (talk.settle input).held).after (talk.settle input).written := by
  have kept := settle_held_length talk input
  have same := serve_enough hungry (talk.settle input).held.length
    (input.length - (talk.settle input).held.length) state (talk.settle input).held (Nat.le_refl _)
  have more := serve_enough hungry (talk.settle input).held.length 1 state (talk.settle input).held (Nat.le_refl _)
  rw [Nat.add_sub_cancel' kept] at same
  rw [listen,serve_done ended,same,listen,more]

theorem listen_congr (hungry : Hungry body) {talk other : Dialogue ε σ} {input rest written : List UInt8}
    (same : talk.settle input = (other.settle rest).after written) :
    listen body talk input = (listen body other rest).after written := by
  by_cases stays : Stays other rest
  · have still : Stays talk input := by
      rw [Stays,same]
      exact stays
    rw [listen_stays still,listen_stays stays,same]
  · simp only [Stays,not_forall,not_not] at stays
    obtain ⟨state,ended⟩ := stays
    have ends : (talk.settle input).talk = .done (.ok state) := by
      rw [same]
      exact ended
    rw [listen_done hungry ends,listen_done hungry ended,same]
    simp

variable (body)

/-- Dialogues that take their units of the stream whole, with what they write. -/
inductive Exchange : σ → List (List UInt8) → List UInt8 → σ → Prop
  | nil (state : σ) : Exchange state [] [] state
  | cons {state middle last : σ} {unit reply replies : List UInt8} {units : List (List UInt8)}
      (ends : (body state).settle unit = ⟨.done (.ok middle),[],reply⟩) (rest : Exchange middle units replies last) :
      Exchange state (unit::units) (reply ++ replies) last

variable {body}

theorem Exchange.listen {state last : σ} {units : List (List UInt8)} {replies : List UInt8} (hungry : Hungry body)
    (exchange : Exchange body state units replies last) (tail : List UInt8) :
    listen body (body state) (units.flatten ++ tail) = (Dialogue.listen body (body last) tail).after replies := by
  induction exchange with
  | nil state => rfl
  | @cons state middle last unit reply replies units ends _ ih =>
    have longer := settle_append (body state) unit (units.flatten ++ tail)
    rw [ends] at longer
    have ended : ((body state).settle (unit ++ (units.flatten ++ tail))).talk = .done (.ok middle) := by rw [longer]; rfl
    rw [List.flatten_cons,List.append_assoc,listen_done hungry ended,longer]
    simp only [settle,Peer.after_held,Peer.after_written,List.nil_append,List.append_nil,ih,Peer.after_after]

/-- A move of a session, which also goes on to its next dialogue. -/
def Peer.moveIn (body : σ → Dialogue ε σ) (peer : Peer ε σ) (move : Move) : Peer ε σ :=
  match move,peer.talk with
  | .proceeds,.done (.ok state) => { peer with talk := body state }
  | move,_ => peer.move move

/-- The session after a run of moves. -/
def attend (body : σ → Dialogue ε σ) (state : σ) (moves : List Move) : Peer ε σ :=
  moves.foldl (Peer.moveIn body) ⟨body state,[],[]⟩

/-- All that the session still does when `later` arrives, behind what it has written. -/
def Peer.settledIn (body : σ → Dialogue ε σ) (peer : Peer ε σ) (later : List UInt8) : Peer ε σ :=
  (listen body peer.talk (peer.held ++ later)).after peer.written

/-- The session has failed or waits for its input. -/
def Peer.RestedIn (peer : Peer ε σ) : Prop := peer.Rested ∧ ∀ state, peer.talk ≠ .done (.ok state)

theorem settledIn_move (hungry : Hungry body) (peer : Peer ε σ) (move : Move) (later : List UInt8) :
    (peer.move move).settledIn body later = peer.settledIn body (arrived [move] ++ later) := by
  obtain ⟨more,wrote,same⟩ := peer.move_settle move later
  rw [Peer.settledIn,Peer.settledIn,wrote,listen_congr hungry same,Peer.after_after]

theorem settledIn_moveIn (hungry : Hungry body) (peer : Peer ε σ) (move : Move) (later : List UInt8) :
    (peer.moveIn body move).settledIn body later = peer.settledIn body (arrived [move] ++ later) := by
  unfold Peer.moveIn
  split
  · rename_i state ended
    have finished : (peer.talk.settle (peer.held ++ later)).talk = .done (.ok state) := by
      rw [ended]
      rfl
    have next := listen_done hungry finished
    rw [ended] at next
    rw [Peer.settledIn,Peer.settledIn,ended]
    exact congrArg (Peer.after peer.written) next.symm
  · exact settledIn_move hungry peer _ later

theorem attend_settled (hungry : Hungry body) (state : σ) (moves : List Move) (later : List UInt8) :
    (attend body state moves).settledIn body later = listen body (body state) (arrived moves ++ later) := by
  induction moves using List.reverseRecOn generalizing later with
  | nil => rfl
  | append_singleton moves move ih =>
    rw [attend,List.foldl_append,List.foldl_cons,List.foldl_nil,settledIn_moveIn hungry,← attend,ih,arrived_append,
      List.append_assoc]

theorem attend_rested (hungry : Hungry body) {state : σ} {moves : List Move} (rested : (attend body state moves).RestedIn) :
    attend body state moves = listen body (body state) (arrived moves) := by
  obtain ⟨waits,unfinished⟩ := rested
  have whole := attend_settled hungry state moves []
  have stays : Stays (attend body state moves).talk ((attend body state moves).held) := by
    intro next
    rw [waits]
    exact unfinished next
  rw [List.append_nil,Peer.settledIn,List.append_nil,listen_stays stays,waits] at whole
  rw [← whole]
  simp [Peer.after]

theorem attend_written (hungry : Hungry body) (state : σ) (moves : List Move) :
    (attend body state moves).written <+: (listen body (body state) (arrived moves)).written := by
  have whole := attend_settled hungry state moves []
  rw [List.append_nil] at whole
  rw [← whole]
  exact List.prefix_append _ _

theorem Names.attend {named : ε → Prop} (names : ∀ state, Names named (body state)) (state : σ) (moves : List Move) :
    Names named (attend body state moves).talk := by
  induction moves using List.reverseRecOn with
  | nil => exact names state
  | append_singleton moves move ih =>
    rw [Dialogue.attend,List.foldl_append,List.foldl_cons,List.foldl_nil,← Dialogue.attend]
    unfold Peer.moveIn
    split
    · exact names _
    · exact ih.move _

end Session

end Dialogue

end Dynet.Lib
