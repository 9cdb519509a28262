import Dynet.Lib.StreamReader
import Mathlib.Data.List.TakeDrop

/-! A stream of units that may end anywhere: what one operation takes from the bytes that
are there, what a relay has handed on when the bytes stop, and how it returns. -/
namespace Dynet.Lib.StreamReader

/-- The result of one operation on a stream that ends after `bytes`, the owner's state
after it and the bytes it has left. -/
def Reader.consume {σ ρ : Type} (state : σ) : Reader σ ρ → List UInt8 → ρ × σ × List UInt8
  | .done result, bytes => (result,state,bytes)
  | .keep state rest, bytes => rest.consume state bytes
  | .byte _ eof, [] => (eof,state,[])
  | .byte next _, b::bytes => (next b).consume state bytes

def Reader.map {σ ρ τ : Type} (f : ρ → τ) : Reader σ ρ → Reader σ τ
  | .done result => .done (f result)
  | .keep state rest => .keep state (rest.map f)
  | .byte next eof => .byte (fun b => (next b).map f) (f eof)

/-- How a loop of reads ends: at the end of the stream or with an error. -/
inductive Stop (ε : Type) where
  | closed
  | failed (error : ε)
  deriving DecidableEq, Repr

section Consume
variable {σ ρ : Type} (state : σ)

@[simp] theorem consume_done (result : ρ) (bytes : List UInt8) :
    (Reader.done result).consume state bytes = (result,state,bytes) := by
  cases bytes <;> rfl

theorem consume_exactly (eof : ρ) (n : Nat) (next : List UInt8 → Reader σ ρ) (bytes rest : List UInt8)
    (length : bytes.length = n) :
    (Reader.exactly eof n next).consume state (bytes ++ rest) = (next bytes).consume state rest := by
  induction n generalizing next bytes with
  | zero =>
    cases List.length_eq_zero_iff.mp length
    rfl
  | succ n ih =>
    obtain ⟨b,bytes,rfl⟩ := List.exists_cons_of_length_eq_add_one length
    exact ih (fun rest => next (b::rest)) bytes (by simpa using length)

theorem consume_exactly_short (eof : ρ) (n : Nat) (next : List UInt8 → Reader σ ρ) (bytes : List UInt8)
    (short : bytes.length < n) : (Reader.exactly eof n next).consume state bytes = (eof,state,[]) := by
  induction n generalizing next bytes with
  | zero => omega
  | succ n ih =>
    cases bytes with
    | nil => rfl
    | cons b bytes => exact ih (fun rest => next (b::rest)) bytes (by simpa using short)

theorem consume_exactly_cases (eof : ρ) (n : Nat) (next : List UInt8 → Reader σ ρ) (bytes : List UInt8) :
    (Reader.exactly eof n next).consume state bytes = (eof,state,[]) ∨
    ∃ taken rest, bytes = taken ++ rest ∧ taken.length = n ∧
      (Reader.exactly eof n next).consume state bytes = (next taken).consume state rest := by
  obtain short | enough := Nat.lt_or_ge bytes.length n
  · exact .inl (consume_exactly_short state eof n next bytes short)
  · have length : (bytes.take n).length = n := by simp [enough]
    refine .inr ⟨bytes.take n,bytes.drop n,(List.take_append_drop n bytes).symm,length,?_⟩
    rw [← consume_exactly state eof n next _ _ length,List.take_append_drop]

end Consume

section Relay
variable {σ ε α : Type} (start : σ → Reader σ (Except ε α))
open Relay

/-- Units read from one resting state to another. -/
inductive Reads : σ → List (List UInt8) → List α → σ → Prop
  | nil (state : σ) : Reads state [] [] state
  | cons {before between after : σ} {bytes : List UInt8} {payload : Option α} {units : List (List UInt8)}
      {payloads : List α} (unit : Completes start before bytes between payload)
      (rest : Reads between units payloads after) : Reads before (bytes::units) (payload.toList ++ payloads) after

/-- A stream that breaks off after `part` ends the operation with this error. -/
def Breaks (before : σ) (part : List UInt8) (error : ε) : Prop :=
  ∀ relay : Relay σ ε α, relay.state = before → AtRest start relay → relay.outcome = none →
    ∃ state next, pushAll start relay part = {relay with state, future := .byte next (.error error)}

/-- A unit after which the relay returns. -/
def Stops (before : σ) (bytes : List UInt8) (error : ε) : Prop :=
  ∀ relay : Relay σ ε α, relay.state = before → AtRest start relay → relay.outcome = none →
    ∃ state, pushAll start relay bytes = {relay with state, future := start state, outcome := some (.error error)}

theorem pushAll_reads {before after : σ} {units : List (List UInt8)} {payloads : List α}
    (reads : Reads start before units payloads after) (relay : Relay σ ε α) (state : relay.state = before)
    (rest : AtRest start relay) (running : relay.outcome = none) :
    pushAll start relay units.flatten =
      {relay with state := after, future := start after, delivered := relay.delivered ++ payloads} := by
  induction reads generalizing relay with
  | nil state' =>
    subst state
    have future : relay.future = start relay.state := rest
    change relay = _
    rw [List.append_nil,← future]
  | @cons before between after bytes payload units payloads unit _ ih =>
    have first := unit relay state rest running
    have more := ih {relay with state := between, future := start between, delivered := relay.delivered ++ payload.toList}
      rfl rfl running
    rw [List.flatten_cons,pushAll_append,first,more,List.append_assoc]

theorem Reads.append {before between after : σ} {units more : List (List UInt8)} {payloads later : List α}
    (first : Reads start before units payloads between) (second : Reads start between more later after) :
    Reads start before (units ++ more) (payloads ++ later) after := by
  induction first with
  | nil => exact second
  | cons unit _ ih =>
    rw [List.cons_append,List.append_assoc]
    exact .cons unit (ih second)

theorem pushAll_short (relay : Relay σ ε α) (running : relay.outcome = none) (error : ε) (n : Nat)
    (next : List UInt8 → Reader σ (Except ε α)) (bytes : List UInt8) (short : bytes.length < n) :
    ∃ waiting, pushAll start (advance start relay (.exactly (.error error) n next)) bytes =
      {relay with future := .byte waiting (.error error)} := by
  induction n generalizing next bytes with
  | zero => omega
  | succ n ih =>
    cases bytes with
    | nil => exact ⟨_,rfl⟩
    | cons b bytes =>
      have pushed : push start (advance start relay (.exactly (.error error) (n+1) next)) b =
          advance start relay (.exactly (.error error) n fun rest => next (b::rest)) :=
        push_byte start running _ _ b
      obtain ⟨waiting,left⟩ := ih (fun rest => next (b::rest)) bytes (by simpa using short)
      refine ⟨waiting,?_⟩
      change pushAll start (push start _ b) bytes = _
      rw [pushed,left]

theorem resume {relay : Relay σ ε α} (rest : AtRest start relay) {eof : Except ε α} {n : Nat}
    {next : List UInt8 → Reader σ (Except ε α)} (wants : start relay.state = .exactly eof (n+1) next) :
    advance start relay (.exactly eof (n+1) next) = relay := by
  have future : relay.future = .exactly eof (n+1) next := rest.trans wants
  change {relay with future := .exactly eof (n+1) next} = relay
  rw [← future]

theorem reads_fragments (fragments : List (List UInt8)) : reads (fragments.map .read) = fragments.flatten := by
  induction fragments with
  | nil => rfl
  | cons chunk rest ih => rw [List.map_cons,reads,ih,List.flatten_cons]

/-- A relay that only reads: the fragments do not show. -/
theorem run_fragments (init : σ) (fragments : List (List UInt8)) :
    run start (new start init) (fragments.map .read) = pushAll start (new start init) fragments.flatten := by
  have plain := run_eq_pushAll start (new start init) (fragments.map .read)
    (fun event member => by
      obtain ⟨chunk,-,rfl⟩ := List.mem_map.mp member
      rfl)
    (fun earlier payload later split => by
      have member : Event.client payload ∈ fragments.map .read := split ▸ by simp
      obtain ⟨chunk,-,impossible⟩ := List.mem_map.mp member
      cases impossible)
  rw [plain,reads_fragments]

theorem run_reads {init after : σ} {units : List (List UInt8)} {payloads : List α}
    (reads : Reads start init units payloads after) {fragments : List (List UInt8)}
    (whole : fragments.flatten = units.flatten) :
    run start (new start init) (fragments.map .read) = ⟨after,start after,payloads,none⟩ := by
  rw [run_fragments,whole,pushAll_reads start reads (new start init) rfl rfl rfl]
  rfl

theorem run_broken {init between : σ} {units : List (List UInt8)} {payloads : List α} {part : List UInt8} {error : ε}
    (reads : Reads start init units payloads between) (breaks : Breaks start between part error)
    {fragments : List (List UInt8)} (whole : fragments.flatten = units.flatten ++ part) :
    (run start (new start init) (fragments.map .read ++ [.eof])).delivered = payloads ∧
      (run start (new start init) (fragments.map .read ++ [.eof])).outcome = some (.error error) := by
  obtain ⟨state,next,left⟩ := breaks ⟨between,start between,payloads,none⟩ rfl rfl rfl
  have fed : run start (new start init) (fragments.map .read) = ⟨state,.byte next (.error error),payloads,none⟩ := by
    rw [run_fragments,whole,pushAll_append,pushAll_reads start reads (new start init) rfl rfl rfl]
    exact left
  have last : run start (new start init) (fragments.map .read ++ [.eof]) =
      step start (run start (new start init) (fragments.map .read)) .eof := by
    rw [run,List.foldl_append]
    rfl
  rw [last,fed]
  exact ⟨rfl,rfl⟩

theorem run_stopped {init between : σ} {units : List (List UInt8)} {payloads : List α} {unit : List UInt8} {error : ε}
    (reads : Reads start init units payloads between) (stops : Stops start between unit error)
    {fragments : List (List UInt8)} {later : List UInt8} (whole : fragments.flatten = units.flatten ++ unit ++ later)
    (events : List Event) :
    (run start (new start init) (fragments.map .read ++ events)).delivered = payloads ∧
      (run start (new start init) (fragments.map .read ++ events)).outcome = some (.error error) := by
  obtain ⟨state,left⟩ := stops ⟨between,start between,payloads,none⟩ rfl rfl rfl
  have fed : run start (new start init) (fragments.map .read) = ⟨state,start state,payloads,some (.error error)⟩ := by
    rw [run_fragments,whole,pushAll_append,pushAll_append,pushAll_reads start reads (new start init) rfl rfl rfl]
    refine (congrArg (pushAll start · later) left).trans ?_
    exact pushAll_finished start rfl later
  have ended (relay : Relay σ ε α) (finished : relay.outcome.isSome = true) : run start relay events = relay := by
    induction events with
    | nil => rfl
    | cons event rest ih =>
      have kept : step start relay event = relay := if_pos finished
      change run start (step start relay event) rest = relay
      rw [kept,ih]
  have last : run start (new start init) (fragments.map .read ++ events) =
      run start (run start (new start init) (fragments.map .read)) events := by
    rw [run,List.foldl_append]
    rfl
  rw [last,fed,ended _ rfl]
  exact ⟨rfl,rfl⟩

end Relay

/-! A caller that names the errors of its operations in its own way reads the same bytes
and hands on the same payloads. -/
section Named
variable {σ ε τ α : Type} (name : ε → τ) (start : σ → Reader σ (Except ε α))
open Relay

def naming (state : σ) : Reader σ (Except τ α) := (start state).map (.mapError name)

def Relay.named (relay : Relay σ ε α) : Relay σ τ α :=
  ⟨relay.state,relay.future.map (.mapError name),relay.delivered,relay.outcome.map (.mapError name)⟩

theorem advance_named (relay : Relay σ ε α) (operation : Reader σ (Except ε α)) :
    advance (naming name start) (relay.named name) (operation.map (.mapError name)) =
      (advance start relay operation).named name := by
  induction operation generalizing relay with
  | done result => cases result <;> rfl
  | keep state rest ih => exact ih {relay with state}
  | byte next eof _ => rfl

theorem push_named (relay : Relay σ ε α) (b : UInt8) :
    push (naming name start) (relay.named name) b = (push start relay b).named name := by
  have same : (relay.named name).outcome.isSome = relay.outcome.isSome := Option.isSome_map
  unfold push
  rw [same]
  split
  · rfl
  · cases future : relay.future with
    | done result => simp only [Relay.named,future,Reader.map]
    | keep state rest => simp only [Relay.named,future,Reader.map]
    | byte next eof =>
      have mapped : (relay.named name).future = .byte (fun b => (next b).map (.mapError name)) (eof.mapError name) := by
        rw [Relay.named,future,Reader.map]
      rw [mapped]
      exact advance_named name start relay (next b)

theorem pushAll_named (relay : Relay σ ε α) (bytes : List UInt8) :
    pushAll (naming name start) (relay.named name) bytes = (pushAll start relay bytes).named name := by
  induction bytes generalizing relay with
  | nil => rfl
  | cons b bytes ih =>
    change pushAll _ (push _ _ b) bytes = (pushAll start (push start relay b) bytes).named name
    rw [push_named,ih]

theorem named_rested {relay : Relay σ τ α} (rest : AtRest (naming name start) relay) (running : relay.outcome = none) :
    relay = Relay.named name ⟨relay.state,start relay.state,relay.delivered,none⟩ := by
  obtain ⟨state,future,delivered,outcome⟩ := relay
  obtain rfl : future = (start state).map (.mapError name) := rest
  obtain rfl : outcome = none := running
  rfl

variable {name start}

theorem Completes.named {before after : σ} {bytes : List UInt8} {payload : Option α}
    (unit : Completes start before bytes after payload) : Completes (naming name start) before bytes after payload := by
  intro relay state rest running
  have plain := unit ⟨relay.state,start relay.state,relay.delivered,none⟩ state rfl rfl
  rw [named_rested name start rest running,pushAll_named,plain]
  rfl

theorem Stops.named {before : σ} {bytes : List UInt8} {error : ε} (stops : Stops start before bytes error) :
    Stops (naming name start) before bytes (name error) := by
  intro relay state rest running
  rw [named_rested name start rest running,pushAll_named]
  obtain ⟨later,left⟩ := stops ⟨relay.state,start relay.state,relay.delivered,none⟩ state rfl rfl
  exact ⟨later,by rw [left]; rfl⟩

end Named

end Dynet.Lib.StreamReader
