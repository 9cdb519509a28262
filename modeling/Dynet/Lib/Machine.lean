import Mathlib.Data.Option.Basic
import Mathlib.Data.List.Basic

/-! Runs of a machine whose step is a partial function of state and event. An
event that is not enabled in a state has no step there. A property of steps holds
along a run when every step the run takes has it, and a guard on steps is checked
the same way, so that what one guarded step keeps a guarded run keeps. -/
namespace Dynet.Lib.Machine

variable {σ ε : Type} (step : σ → ε → Option σ)

def run (s : σ) : List ε → Option σ
  | [] => some s
  | event::rest => (step s event).bind fun next => run next rest

def Reaches (s t : σ) : Prop := ∃ events, run step s events = some t

def Enabled (s : σ) : Prop := ∃ event, (step s event).isSome

/-- Every step the run takes from `s` has the property, up to its first event that
is not enabled. -/
def Along (property : σ → ε → σ → Prop) (s : σ) : List ε → Prop
  | [] => True
  | event::rest => ∀ next, step s event = some next → property s event next ∧ Along property next rest

instance alongDecidable (property : σ → ε → σ → Prop) [∀ s event t, Decidable (property s event t)] (s : σ) :
    (events : List ε) → Decidable (Along step property s events)
  | [] => .isTrue trivial
  | event::rest => match taken : step s event with
    | none => .isTrue (by simp [Along,taken])
    | some next =>
      have := alongDecidable property next rest
      decidable_of_iff (property s event next ∧ Along step property next rest) (by simp [Along,taken])

variable {step}

theorem run_cons_iff (s t : σ) (event : ε) (rest : List ε) :
    run step s (event::rest) = some t ↔ ∃ next, step s event = some next ∧ run step next rest = some t :=
  Option.bind_eq_some_iff

theorem run_append (s : σ) (first second : List ε) :
    run step s (first ++ second) = (run step s first).bind fun next => run step next second := by
  induction first generalizing s with
  | nil => rfl
  | cons event rest ih =>
    cases taken : step s event with
    | none => simp [run,taken]
    | some next => simpa [run,taken] using ih next

theorem Reaches.refl (s : σ) : Reaches step s s := ⟨[],rfl⟩

theorem Reaches.single {s t : σ} {event : ε} (taken : step s event = some t) : Reaches step s t := by
  refine ⟨[event],?_⟩
  simp [run,taken]

theorem Reaches.trans {s t u : σ} (first : Reaches step s t) (second : Reaches step t u) :
    Reaches step s u := by
  obtain ⟨before,reached⟩ := first
  obtain ⟨after,ended⟩ := second
  refine ⟨before ++ after,?_⟩
  rw [run_append,reached]
  exact ended

/-- What every step keeps, every reachable state has. -/
theorem Reaches.invariant {invariant : σ → Prop}
    (keeps : ∀ s event t, invariant s → step s event = some t → invariant t)
    {s t : σ} (start : invariant s) (reaches : Reaches step s t) : invariant t := by
  obtain ⟨events,ended⟩ := reaches
  induction events generalizing s with
  | nil =>
    cases ended
    exact start
  | cons event rest ih =>
    obtain ⟨next,taken,ended⟩ := (run_cons_iff s t event rest).mp ended
    exact ih (keeps s event next start taken) ended

/-- The step after any part of a run. -/
theorem Along.step_after {property : σ → ε → σ → Prop} {s t u : σ} {events rest : List ε} {event : ε}
    (along : Along step property s (events ++ event::rest)) (reached : run step s events = some t)
    (taken : step t event = some u) : property t event u := by
  induction events generalizing s with
  | nil =>
    cases reached
    exact (along u taken).1
  | cons first later ih =>
    obtain ⟨next,moved,reached⟩ := (run_cons_iff s t first later).mp reached
    exact ih (along next moved).2 reached

theorem along_append {property : σ → ε → σ → Prop} {s t : σ} {first second : List ε}
    (reached : run step s first = some t) : Along step property s (first ++ second) ↔
      Along step property s first ∧ Along step property t second := by
  induction first generalizing s with
  | nil =>
    cases reached
    simp [Along]
  | cons event rest ih =>
    obtain ⟨next,taken,reached⟩ := (run_cons_iff s t event rest).mp reached
    simp only [List.cons_append,Along,taken,Option.some.injEq,forall_eq',ih reached,and_assoc]

theorem along_and {first second : σ → ε → σ → Prop} {s : σ} {events : List ε} (one : Along step first s events)
    (other : Along step second s events) : Along step (fun s event t => first s event t ∧ second s event t) s events := by
  induction events generalizing s with
  | nil => trivial
  | cons event rest ih =>
    intro next taken
    obtain ⟨here,one⟩ := one next taken
    obtain ⟨there,other⟩ := other next taken
    exact ⟨⟨here,there⟩,ih one other⟩

/-- What a guarded step keeps, the end of a guarded run has. -/
theorem run_invariant {invariant : σ → Prop} {guard : σ → ε → σ → Prop}
    (keeps : ∀ s event t, invariant s → step s event = some t → guard s event t → invariant t)
    {s t : σ} {events : List ε} (start : invariant s) (guarded : Along step guard s events)
    (reached : run step s events = some t) : invariant t := by
  induction events generalizing s with
  | nil =>
    cases reached
    exact start
  | cons event rest ih =>
    obtain ⟨next,taken,reached⟩ := (run_cons_iff s t event rest).mp reached
    obtain ⟨allowed,guarded⟩ := guarded next taken
    exact ih (keeps s event next start taken allowed) guarded reached

/-- What a guarded step keeps and has, every step of a guarded run has. -/
theorem along_of_invariant {invariant : σ → Prop} {guard property : σ → ε → σ → Prop}
    (keeps : ∀ s event t, invariant s → step s event = some t → guard s event t →
      invariant t ∧ property s event t)
    {s : σ} {events : List ε} (start : invariant s) (guarded : Along step guard s events) :
    Along step property s events := by
  induction events generalizing s with
  | nil => trivial
  | cons event rest ih =>
    intro next taken
    obtain ⟨allowed,guarded⟩ := guarded next taken
    obtain ⟨kept,holds⟩ := keeps s event next start taken allowed
    exact ⟨holds,ih kept guarded⟩

variable (step) in
/-- If an invariant makes every step lower a measure, a state with no enabled
event can be reached. -/
theorem reaches_halted (measure : σ → Nat) {invariant : σ → Prop}
    (lowers : ∀ s event t, invariant s → step s event = some t → invariant t ∧ measure t < measure s)
    (s : σ) (start : invariant s) : ∃ t, Reaches step s t ∧ ¬ Enabled step t := by
  by_cases enabled : Enabled step s
  · obtain ⟨event,some⟩ := enabled
    obtain ⟨next,taken⟩ := Option.isSome_iff_exists.mp some
    obtain ⟨kept,lower⟩ := lowers s event next start taken
    obtain ⟨t,reaches,halted⟩ := reaches_halted measure lowers next kept
    exact ⟨t,(Reaches.single taken).trans reaches,halted⟩
  · exact ⟨s,Reaches.refl s,enabled⟩
termination_by measure s

end Dynet.Lib.Machine
