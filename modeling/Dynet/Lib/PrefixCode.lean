import Mathlib.Data.List.Basic

/-! Codes whose words can be told from whatever follows them. A code tells a view of its
values: a word with a rest behind it determines the view and the rest. -/
namespace Dynet.Lib

variable {α κ ι γ : Type*}

def Tells (domain : α → Prop) (view : α → κ) (code : α → List γ) : Prop :=
  ∀ a b rest later, domain a → domain b → code a ++ rest = code b ++ later → view a = view b ∧ rest = later

namespace Tells
variable {domain : α → Prop} {view : α → κ} {code : α → List γ}

theorem mono {smaller : α → Prop} (tells : Tells domain view code) (inside : ∀ a, smaller a → domain a) :
    Tells smaller view code :=
  fun a b rest later first second same => tells a b rest later (inside a first) (inside b second) same

theorem weaken {other : α → ι} (tells : Tells domain view code)
    (less : ∀ a b, domain a → domain b → view a = view b → other a = other b) : Tells domain other code := by
  intro a b rest later first second same
  obtain ⟨views,rests⟩ := tells a b rest later first second same
  exact ⟨less a b first second views,rests⟩

/-- A fixed word tells nothing. -/
theorem literal (domain : α → Prop) (word : List γ) : Tells domain (fun _ => ()) fun _ => word :=
  fun _ _ _ _ _ _ same => ⟨rfl,List.append_cancel_left same⟩

theorem fixed {width : Nat} (sized : ∀ a, domain a → (code a).length = width)
    (injective : ∀ a b, domain a → domain b → code a = code b → view a = view b) : Tells domain view code := by
  intro a b rest later first second same
  obtain ⟨words,rests⟩ := List.append_inj same ((sized a first).trans (sized b second).symm)
  exact ⟨injective a b first second words,rests⟩

/-- One code behind another, which may depend on what the first has told. -/
theorem followed {next : α → ι} {after : α → List γ} (tells : Tells domain view code)
    (rest : ∀ told, Tells (fun a => domain a ∧ view a = told) next after) :
    Tells domain (fun a => (view a,next a)) fun a => code a ++ after a := by
  intro a b rests later first second same
  rw [List.append_assoc,List.append_assoc] at same
  obtain ⟨views,behind⟩ := tells a b _ _ first second same
  obtain ⟨nexts,ends⟩ := rest (view b) a b _ _ ⟨first,views⟩ ⟨second,rfl⟩ behind
  exact ⟨Prod.ext views nexts,ends⟩

/-- One code behind another, on its own. -/
theorem append {next : α → ι} {after : α → List γ} (tells : Tells domain view code) (rest : Tells domain next after) :
    Tells domain (fun a => (view a,next a)) fun a => code a ++ after a :=
  tells.followed fun _ => rest.mono fun _ inside => inside.1

/-- A field of a value by a code of the field. -/
theorem comap {β : Type*} {inner : β → Prop} {seen : β → κ} {word : β → List γ} (tells : Tells inner seen word) (field : α → β)
    (inside : ∀ a, domain a → inner (field a)) : Tells domain (fun a => seen (field a)) fun a => word (field a) :=
  fun a b rest later first second same => tells (field a) (field b) rest later (inside a first) (inside b second) same

/-- Bytes behind their own length. -/
theorem counted {length : Nat → List γ} {limit : Nat} (tells : Tells (· < limit) id length) :
    Tells (fun bytes : List γ => bytes.length < limit) id fun bytes => length bytes.length ++ bytes := by
  have sizes : Tells (fun bytes : List γ => bytes.length < limit) List.length fun bytes => length bytes.length :=
    tells.comap List.length fun _ inside => inside
  refine (sizes.followed fun told => ?_).weaken fun _ _ _ _ same => (Prod.mk.inj same).2
  exact fixed (fun _ inside => inside.2) fun _ _ _ _ same => same

/-- A stream of words that are not empty determines what they tell. -/
theorem stream (tells : Tells domain view code) (filled : ∀ a, domain a → code a ≠ []) {xs ys : List α}
    (first : ∀ x ∈ xs, domain x) (second : ∀ y ∈ ys, domain y) (same : xs.flatMap code = ys.flatMap code) :
    xs.map view = ys.map view := by
  induction xs generalizing ys with
  | nil =>
    cases ys with
    | nil => rfl
    | cons y ys =>
      rw [List.flatMap_nil,List.flatMap_cons] at same
      exact absurd (List.append_eq_nil_iff.mp same.symm).1 (filled y (second y List.mem_cons_self))
  | cons x xs ih =>
    obtain ⟨inside,first⟩ := List.forall_mem_cons.mp first
    cases ys with
    | nil =>
      rw [List.flatMap_nil,List.flatMap_cons] at same
      exact absurd (List.append_eq_nil_iff.mp same).1 (filled x inside)
    | cons y ys =>
      obtain ⟨other,second⟩ := List.forall_mem_cons.mp second
      rw [List.flatMap_cons,List.flatMap_cons] at same
      obtain ⟨views,behind⟩ := tells x y _ _ inside other same
      rw [List.map_cons,List.map_cons,views,ih first second behind]

end Tells

end Dynet.Lib
