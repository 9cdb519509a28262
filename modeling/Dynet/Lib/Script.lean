import Mathlib.Data.List.Basic

/-! Scripts: steps that change a state as they go and stop at the first error, which leaves
the state as it is then. A claim about a script says where it ends and where it can stop. -/
namespace Dynet.Lib

abbrev Script (σ α : Type) := ExceptT String (StateM σ) α

namespace Script
variable {σ α β : Type}

/-- What the script returns or the error it stops with, and the state it leaves. -/
def exec (script : Script σ α) (before : σ) : Except String α × σ := (ExceptT.run script).run before

def reads (read : σ → α) : Script σ α := fun before => (.ok (read before),before)

def tries (read : σ → Except String α) : Script σ α := fun before => (read before,before)

/-- One step, which may change the state even if it fails. -/
def step (act : σ → Except String α × σ) : Script σ α := act

def check (condition : Prop) [Decidable condition] (message : String) : Script σ Unit :=
  if condition then pure () else throw message

@[simp] theorem exec_step (act : σ → Except String α × σ) (before : σ) : exec (step act) before = act before := rfl

theorem exec_bind (first : Script σ α) (next : α → Script σ β) (before : σ) : exec (first >>= next) before =
    match exec first before with
    | (.ok value,after) => exec (next value) after
    | (.error message,after) => (.error message,after) := by
  unfold exec
  rw [ExceptT.run_bind,StateT.run_bind]
  rcases (ExceptT.run first).run before with ⟨_ | _,after⟩
  all_goals rfl

/-- From a state with `P` the script ends with `Q`, or stops with `E`. -/
def Leads (P : σ → Prop) (script : Script σ α) (Q : α → σ → Prop) (E : σ → Prop) : Prop :=
  ∀ before, P before → (∃ value after, exec script before = (.ok value,after) ∧ Q value after) ∨
    ∃ message after, exec script before = (.error message,after) ∧ E after

namespace Leads
variable {P P' E E' : σ → Prop} {Q Q' : α → σ → Prop}

theorem pure {value : α} (ends : ∀ state, P state → Q value state) : Leads P (Pure.pure value) Q E :=
  fun before holds => .inl ⟨value,before,rfl,ends before holds⟩

theorem throw {message : String} (stops : ∀ state, P state → E state) : Leads P (MonadExcept.throw message) Q E :=
  fun before holds => .inr ⟨message,before,rfl,stops before holds⟩

theorem reads (read : σ → α) : Leads P (Script.reads read) (fun value state => P state ∧ value = read state) E :=
  fun before holds => .inl ⟨read before,before,rfl,holds,rfl⟩

theorem step {act : σ → Except String α × σ} (acts : ∀ state, P state → match act state with
    | (.ok value,after) => Q value after
    | (.error _,after) => E after) : Leads P (Script.step act) Q E := by
  intro before holds
  rw [exec_step]
  have acted := acts before holds
  rcases acting : act before with ⟨message | value,after⟩
  all_goals rw [acting] at acted
  · exact .inr ⟨message,after,rfl,acted⟩
  · exact .inl ⟨value,after,rfl,acted⟩

theorem bind {first : Script σ α} {next : α → Script σ β} {R : β → σ → Prop} (begins : Leads P first Q E)
    (goes : ∀ value, Leads (Q value) (next value) R E) : Leads P (first >>= next) R E := by
  intro before holds
  rw [exec_bind]
  rcases begins before holds with ⟨value,after,ran,middle⟩ | ⟨message,after,ran,stopped⟩
  · rw [ran]
    exact goes value after middle
  · rw [ran]
    exact .inr ⟨message,after,rfl,stopped⟩

theorem known {script : Script σ α} (leads : ∀ start, P start → Leads (· = start) script Q E) : Leads P script Q E :=
  fun before holds => leads before holds before rfl

/-- What does not speak of the state can be assumed. -/
theorem given {script : Script σ α} {fact : Prop} (leads : fact → Leads P script Q E) :
    Leads (fun state => P state ∧ fact) script Q E :=
  fun before holds => leads holds.2 before holds.1

/-- Where the state is known, so is what is read. -/
theorem reading {read : σ → α} {next : α → Script σ β} {start : σ} {R : β → σ → Prop}
    (goes : Leads (· = start) (next (read start)) R E) : Leads (· = start) (Script.reads read >>= next) R E := by
  refine (reads read).bind fun value => ?_
  rintro before ⟨rfl,rfl⟩
  exact goes before rfl

theorem trying {read : σ → Except String α} {next : α → Script σ β} {start : σ} {R : β → σ → Prop}
    (goes : ∀ value, read start = .ok value → Leads (· = start) (next value) R E)
    (stops : ∀ message, read start = .error message → E start) : Leads (· = start) (Script.tries read >>= next) R E := by
  rintro before rfl
  rw [exec_bind]
  have tried : exec (Script.tries read) before = (read before,before) := rfl
  rw [tried]
  cases found : read before with
  | error message => exact .inr ⟨message,before,rfl,stops message found⟩
  | ok value => exact goes value found before rfl

theorem mono {script : Script σ α} (leads : Leads P script Q E) (weaker : ∀ state, P' state → P state)
    (ends : ∀ value state, Q value state → Q' value state) (stops : ∀ state, E state → E' state) : Leads P' script Q' E' := by
  intro before holds
  rcases leads before (weaker before holds) with ⟨value,after,ran,done⟩ | ⟨message,after,ran,stopped⟩
  · exact .inl ⟨value,after,ran,ends value after done⟩
  · exact .inr ⟨message,after,ran,stops after stopped⟩

theorem check {condition : Prop} [Decidable condition] {message : String} (stops : ∀ state, P state → ¬ condition → E state) :
    Leads P (Script.check condition message) (fun _ state => P state ∧ condition) E := by
  unfold Script.check
  split
  · exact pure fun state holds => ⟨holds,‹_›⟩
  · exact throw fun state holds => stops state holds ‹_›

/-- What holds of the state wherever the script ends or stops. -/
theorem left {script : Script σ α} {R : σ → Prop} (leads : Leads P script (fun _ => R) R) {before : σ} (holds : P before) :
    R (exec script before).2 := by
  rcases leads before holds with ⟨value,after,ran,done⟩ | ⟨message,after,ran,stopped⟩
  · rwa [ran]
  · rwa [ran]

/-- Whether the script ends with `R` is settled where it starts. -/
theorem settles {script : Script σ α} {start : σ} {R : σ → Prop} {condition : Prop}
    (leads : Leads (· = start) script (fun _ after => R after ↔ condition) (fun _ => ¬ condition)) :
    (∃ value after, exec script start = (.ok value,after) ∧ R after) ↔ condition := by
  rcases leads start rfl with ⟨value,after,ran,same⟩ | ⟨message,after,ran,fails⟩
  · rw [← same]
    constructor
    · rintro ⟨_,_,again,holds⟩
      cases ran.symm.trans again
      exact holds
    · exact fun holds => ⟨value,after,ran,holds⟩
  · constructor
    · rintro ⟨_,_,again,-⟩
      cases ran.symm.trans again
    · exact fun holds => absurd holds fails

end Leads

end Script

end Dynet.Lib
