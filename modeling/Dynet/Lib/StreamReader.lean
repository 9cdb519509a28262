import Mathlib.Data.List.Infix

/-! Read operations over a byte stream that can be dropped half way. An operation
holds the bytes it has taken only in itself; what it stores in its owner with
`keep` is all that survives when the operation is dropped and started again. -/
namespace Dynet.Lib.StreamReader

inductive Reader (σ ρ : Type) where
  | done (result : ρ)
  | keep (state : σ) (rest : Reader σ ρ)
  | byte (next : UInt8 → Reader σ ρ) (eof : ρ)

/-- `read_exact` into a buffer of `n` bytes. -/
def Reader.exactly {σ ρ : Type} (eof : ρ) : Nat → (List UInt8 → Reader σ ρ) → Reader σ ρ
  | 0, next => next []
  | n+1, next => .byte (fun b => exactly eof n fun rest => next (b::rest)) eof

inductive Event where
  | read (chunk : List UInt8)
  | client (payload : List UInt8)
  | eof
  | closed
  | timeout
  deriving DecidableEq, Repr

def Event.isTraffic : Event → Bool
  | .read _ | .client _ => true
  | _ => false

def reads : List Event → List UInt8
  | [] => []
  | .read chunk::events => chunk ++ reads events
  | _::events => reads events

theorem reads_append (first second : List Event) : reads (first ++ second) = reads first ++ reads second := by
  induction first with
  | nil => rfl
  | cons event first ih => cases event <;> simp [reads,ih]

section Relay
variable {σ ε α : Type}

/-- A relay loop around one reader: the owner's state, the operation in progress,
what has been handed on, and how the loop returned. -/
structure Relay (σ ε α : Type) where
  state : σ
  future : Reader σ (Except ε α)
  delivered : List α
  outcome : Option (Except ε String)

variable (start : σ → Reader σ (Except ε α))

namespace Relay

def new (state : σ) : Relay σ ε α := ⟨state,start state,[],none⟩

def finish (relay : Relay σ ε α) : Except ε α → Relay σ ε α
  | .ok payload => {relay with future := start relay.state, delivered := relay.delivered ++ [payload]}
  | .error e => {relay with future := start relay.state, outcome := some (.error e)}

-- Runs an operation up to its next read; a completed one is replaced by a new one.
def advance (relay : Relay σ ε α) : Reader σ (Except ε α) → Relay σ ε α
  | .done result => finish start relay result
  | .keep state rest => advance {relay with state} rest
  | .byte next eof => {relay with future := .byte next eof}

def push (relay : Relay σ ε α) (b : UInt8) : Relay σ ε α :=
  if relay.outcome.isSome then relay else
  match relay.future with
  | .byte next _ => advance start relay (next b)
  | _ => relay

def pushAll (relay : Relay σ ε α) (bytes : List UInt8) : Relay σ ε α := bytes.foldl (push start) relay

-- A client payload wins the race: the read in progress is dropped with its bytes.
def step (relay : Relay σ ε α) (event : Event) : Relay σ ε α :=
  if relay.outcome.isSome then relay else
  match event with
  | .read chunk => pushAll start relay chunk
  | .client _ => {relay with future := start relay.state}
  | .eof => match relay.future with
    | .byte _ eof => finish start relay eof
    | _ => relay
  | .closed => {relay with outcome := some (.ok "inbound-closed")}
  | .timeout => {relay with outcome := some (.ok "idle-timeout")}

def run (relay : Relay σ ε α) (events : List Event) : Relay σ ε α := events.foldl (step start) relay

def AtRest (relay : Relay σ ε α) : Prop := relay.future = start relay.state

end Relay

open Relay

theorem pushAll_append (relay : Relay σ ε α) (first second : List UInt8) :
    pushAll start relay (first ++ second) = pushAll start (pushAll start relay first) second :=
  List.foldl_append

theorem pushAll_finished {relay : Relay σ ε α} (ended : relay.outcome.isSome = true) (bytes : List UInt8) :
    pushAll start relay bytes = relay := by
  induction bytes with
  | nil => rfl
  | cons b bytes ih =>
    have kept : push start relay b = relay := if_pos ended
    change pushAll start (push start relay b) bytes = relay
    rw [kept,ih]

theorem advance_future (relay : Relay σ ε α) (future operation : Reader σ (Except ε α)) :
    advance start {relay with future} operation = advance start relay operation := by
  induction operation generalizing relay with
  | done result => cases result <;> rfl
  | keep state rest ih => exact ih {relay with state}
  | byte next eof _ => rfl

theorem push_byte {relay : Relay σ ε α} (running : relay.outcome = none)
    (next : UInt8 → Reader σ (Except ε α)) (eof : Except ε α) (b : UInt8) :
    push start {relay with future := .byte next eof} b = advance start relay (next b) := by
  have open_ : ¬ relay.outcome.isSome = true := by simp [running]
  rw [push,if_neg open_]
  exact advance_future start relay _ _

theorem pushAll_exactly (relay : Relay σ ε α) (running : relay.outcome = none) (eof : Except ε α) (n : Nat)
    (next : List UInt8 → Reader σ (Except ε α)) (bytes : List UInt8) (length : bytes.length = n) :
    pushAll start (advance start relay (.exactly eof n next)) bytes = advance start relay (next bytes) := by
  induction n generalizing next bytes with
  | zero =>
    cases List.length_eq_zero_iff.mp length
    rfl
  | succ n ih =>
    obtain ⟨b,rest,rfl⟩ := List.exists_cons_of_length_eq_add_one length
    have pushed : push start (advance start relay (.exactly eof (n+1) next)) b =
        advance start relay (.exactly eof n fun rest => next (b::rest)) := push_byte start running _ eof b
    change pushAll start (push start _ b) rest = _
    rw [pushed]
    exact ih _ rest (by simpa using length)

theorem delivered_push (relay : Relay σ ε α) (b : UInt8) : relay.delivered <+: (push start relay b).delivered := by
  have advanced (operation : Reader σ (Except ε α)) (relay : Relay σ ε α) :
      relay.delivered <+: (advance start relay operation).delivered := by
    induction operation generalizing relay with
    | done result =>
      cases result with
      | ok payload => exact List.prefix_append _ _
      | error e => exact List.prefix_refl _
    | keep state rest ih => exact ih {relay with state}
    | byte next eof _ => exact List.prefix_refl _
  unfold push
  split
  · exact List.prefix_refl _
  · split
    · exact advanced _ relay
    · exact List.prefix_refl _

theorem delivered_pushAll (relay : Relay σ ε α) (bytes : List UInt8) :
    relay.delivered <+: (pushAll start relay bytes).delivered := by
  induction bytes generalizing relay with
  | nil => exact List.prefix_refl _
  | cons b bytes ih => exact (delivered_push start relay b).trans (ih _)

/-- A run in which every client payload finds the reader at rest is the plain
reading of its bytes: no fragmentation and no interleaving shows. -/
theorem run_eq_pushAll (relay : Relay σ ε α) (events : List Event)
    (traffic : ∀ event ∈ events, event.isTraffic = true)
    (rested : ∀ earlier payload later, events = earlier ++ .client payload::later →
      AtRest start (pushAll start relay (reads earlier))) :
    run start relay events = pushAll start relay (reads events) := by
  induction events using List.reverseRecOn with
  | nil => rfl
  | append_singleton events event ih =>
    have before := ih (fun event member => traffic event (List.mem_append_left _ member))
      (fun earlier payload later split => rested earlier payload (later ++ [event]) (by simp [split]))
    have last := traffic event (by simp)
    rw [run,List.foldl_append,reads_append,pushAll_append,← before]
    change step start (run start relay events) event = _
    unfold step
    split
    next ended => rw [pushAll_finished start ended]
    next =>
      cases event with
      | read chunk => simp [reads]
      | client payload =>
        have rest := rested events payload [] (by simp)
        rw [← before] at rest
        change {run start relay events with future := start (run start relay events).state} =
          run start relay events
        rw [← rest]
      | eof => simp [Event.isTraffic] at last
      | closed => simp [Event.isTraffic] at last
      | timeout => simp [Event.isTraffic] at last

/-- An operation at rest has read nothing: its first `read_exact` gets all its bytes. -/
theorem pushAll_start {relay : Relay σ ε α} (rest : AtRest start relay) (running : relay.outcome = none)
    {eof : Except ε α} {n : Nat} {next : List UInt8 → Reader σ (Except ε α)}
    (wants : start relay.state = .exactly eof (n+1) next) (bytes : List UInt8) (length : bytes.length = n+1) :
    pushAll start relay bytes = advance start relay (next bytes) := by
  have resumed : advance start relay (.exactly eof (n+1) next) = relay := by
    have future : relay.future = .exactly eof (n+1) next := rest.trans wants
    change {relay with future := .exactly eof (n+1) next} = relay
    rw [← future]
  rw [← pushAll_exactly start relay running eof (n+1) next bytes length,resumed]

/-- One complete unit of the stream: read from rest, it ends at rest. -/
def Completes (before : σ) (bytes : List UInt8) (after : σ) (payload : Option α) : Prop :=
  ∀ relay : Relay σ ε α, relay.state = before → AtRest start relay → relay.outcome = none →
    pushAll start relay bytes =
      {relay with state := after, future := start after, delivered := relay.delivered ++ payload.toList}

inductive Stream : σ → List (List UInt8) → List α → Prop
  | nil (state : σ) : Stream state [] []
  | cons {before after : σ} {bytes : List UInt8} {payload : Option α} {units : List (List UInt8)}
      {payloads : List α} (unit : Completes start before bytes after payload)
      (rest : Stream after units payloads) : Stream before (bytes::units) (payload.toList ++ payloads)

theorem pushAll_stream {before : σ} {units : List (List UInt8)} {payloads : List α}
    (stream : Stream start before units payloads) (relay : Relay σ ε α) (state : relay.state = before)
    (rest : AtRest start relay) (running : relay.outcome = none) :
    (pushAll start relay units.flatten).delivered = relay.delivered ++ payloads ∧
      (pushAll start relay units.flatten).outcome = none ∧
      ∀ k, AtRest start (pushAll start relay (units.take k).flatten) := by
  induction stream generalizing relay with
  | nil => exact ⟨by simp [pushAll],running,fun k => by simpa [pushAll] using rest⟩
  | @cons before after bytes payload units payloads unit _ ih =>
    have first := unit relay state rest running
    obtain ⟨delivered,outcome,boundary⟩ := ih (pushAll start relay bytes) (by rw [first])
      (by rw [first]; rfl) (by rw [first]; exact running)
    refine ⟨?_,?_,?_⟩
    · rw [List.flatten_cons,pushAll_append,delivered,first,List.append_assoc]
    · rw [List.flatten_cons,pushAll_append,outcome]
    · intro k
      cases k with
      | zero => exact rest
      | succ k =>
        rw [List.take_succ_cons,List.flatten_cons,pushAll_append]
        exact boundary k

def Aligned (units : List (List UInt8)) (events : List Event) : Prop :=
  ∀ earlier payload later, events = earlier ++ .client payload::later →
    ∃ k, reads earlier = (units.take k).flatten

/-- The relay hands on exactly the payloads of the stream, in order, in every
aligned run over it, and a part of them from the front at every point of the run. -/
def InStep (init : σ) (units : List (List UInt8)) (payloads : List α) : Prop :=
  ∀ events, (∀ event ∈ events, event.isTraffic = true) → reads events = units.flatten →
    Aligned units events →
    (run start (new start init) events).delivered = payloads ∧
      (run start (new start init) events).outcome = none ∧
      ∀ earlier, earlier <+: events → (run start (new start init) earlier).delivered <+: payloads

theorem Stream.inStep {init : σ} {units : List (List UInt8)} {payloads : List α}
    (stream : Stream start init units payloads) : InStep start init units payloads := by
  intro events traffic whole aligned
  obtain ⟨delivered,outcome,boundary⟩ := pushAll_stream start stream (new start init) rfl rfl rfl
  have plain (earlier : List Event) (part : earlier <+: events) :
      run start (new start init) earlier = pushAll start (new start init) (reads earlier) := by
    obtain ⟨later,rfl⟩ := part
    apply run_eq_pushAll
    · exact fun event member => traffic event (List.mem_append_left _ member)
    · intro first payload second split
      obtain ⟨k,same⟩ := aligned first payload (second ++ later) (by simp [split])
      rw [same]
      exact boundary k
  have final := plain events (List.prefix_refl _)
  rw [whole] at final
  refine ⟨by rw [final,delivered]; rfl,by rw [final,outcome],?_⟩
  intro earlier part
  obtain ⟨later,rfl⟩ := part
  rw [plain earlier ⟨later,rfl⟩]
  rw [reads_append] at whole
  have grows := delivered_pushAll start (pushAll start (new start init) (reads earlier)) (reads later)
  rw [← pushAll_append,whole,delivered] at grows
  exact grows

end Relay

end Dynet.Lib.StreamReader
