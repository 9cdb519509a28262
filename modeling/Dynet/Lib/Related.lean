import Mathlib.Data.List.Forall2

/-! Two lists related entry by entry. Whatever the relation lets one see of an entry
can be asked of either list. -/
namespace Dynet.Lib.Related

variable {α β γ : Type*} {related : α → β → Prop} {xs : List α} {ys : List β}

theorem map_eq {f : α → γ} {g : β → γ} (same : ∀ x y, related x y → f x = g y)
    (each : List.Forall₂ related xs ys) : xs.map f = ys.map g := by
  rw [← List.forall₂_eq_eq_eq,List.forall₂_map_left_iff,List.forall₂_map_right_iff]
  exact each.imp same

theorem forall_iff {p : α → Prop} {q : β → Prop} (same : ∀ x y, related x y → (p x ↔ q y))
    (each : List.Forall₂ related xs ys) : (∀ x ∈ xs, p x) ↔ ∀ y ∈ ys, q y := by
  induction each with
  | nil => simp
  | cons fits _ ih => rw [List.forall_mem_cons,List.forall_mem_cons,same _ _ fits,ih]

theorem exists_iff {p : α → Prop} {q : β → Prop} (same : ∀ x y, related x y → (p x ↔ q y))
    (each : List.Forall₂ related xs ys) : (∃ x ∈ xs, p x) ↔ ∃ y ∈ ys, q y := by
  induction each with
  | nil => simp
  | cons fits _ ih => simp only [List.mem_cons,exists_eq_or_imp,same _ _ fits,ih]

theorem find_rel {p : α → Bool} {q : β → Bool} (same : ∀ x y, related x y → p x = q y)
    (each : List.Forall₂ related xs ys) : Option.Rel related (xs.find? p) (ys.find? q) := by
  induction each with
  | nil => exact .none
  | @cons x y _ _ fits _ ih =>
    cases found : p x with
    | true =>
      rw [List.find?_cons_of_pos found,List.find?_cons_of_pos (same x y fits ▸ found)]
      exact .some fits
    | false =>
      have missed : ¬ q y = true := by rw [← same x y fits,found]; exact Bool.false_ne_true
      rw [List.find?_cons_of_neg (by simp [found]),List.find?_cons_of_neg missed]
      exact ih

theorem forall₂_getLast (each : List.Forall₂ related xs ys) {x : α} (final : xs.getLast? = some x) :
    ∃ y, ys.getLast? = some y ∧ related x y := by
  induction each with
  | nil => simp at final
  | @cons a b rest others fits tail ih =>
    cases tail with
    | nil =>
      cases Option.some.inj final
      exact ⟨b,rfl,fits⟩
    | cons next more =>
      rw [List.getLast?_cons_cons] at final
      obtain ⟨y,last,related⟩ := ih final
      exact ⟨y,by rw [List.getLast?_cons_cons]; exact last,related⟩

end Dynet.Lib.Related
