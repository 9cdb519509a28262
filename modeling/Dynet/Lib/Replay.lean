import Mathlib.Data.List.Nodup

/-! Replay memories. Numbers are shown one after another, newest first in a list, and a
number is admitted when it was not shown before and no number shown before is too far
above it. A memory that keeps only what it admitted answers the same. -/
namespace Dynet.Lib.Replay

/-- What a memory of this width should answer after the numbers `shown`. -/
def Admits (width : Nat) (shown : List Nat) (id : Nat) : Prop :=
  id ∉ shown ∧ ∀ older ∈ shown, older < id + width

instance (width : Nat) (shown : List Nat) (id : Nat) : Decidable (Admits width shown id) :=
  inferInstanceAs (Decidable (_ ∧ _))

/-- The numbers admitted on the way, newest first. -/
def kept (width : Nat) : List Nat → List Nat
  | [] => []
  | id::shown => if Admits width (kept width shown) id then id::kept width shown else kept width shown

variable {width : Nat}

theorem kept_subset (shown : List Nat) : kept width shown ⊆ shown := by
  induction shown with
  | nil => simp [kept]
  | cons id shown ih =>
    rw [kept]
    split
    · exact List.cons_subset_cons id ih
    · exact List.subset_cons_of_subset id ih

/-- A number that was shown was kept, or a kept one had already left it behind. -/
theorem shown_cases {shown : List Nat} {id : Nat} (member : id ∈ shown) :
    id ∈ kept width shown ∨ ∃ newer ∈ kept width shown, id + width ≤ newer := by
  induction shown with
  | nil => simp at member
  | cons first shown ih =>
    rw [kept]
    split
    · rename_i admitted
      obtain rfl | member := List.mem_cons.mp member
      · exact .inl List.mem_cons_self
      · obtain here | ⟨newer,above,far⟩ := ih member
        · exact .inl (List.mem_cons_of_mem _ here)
        · exact .inr ⟨newer,List.mem_cons_of_mem _ above,far⟩
    · rename_i refused
      obtain rfl | member := List.mem_cons.mp member
      · by_cases here : id ∈ kept width shown
        · exact .inl here
        · have far : ¬∀ older ∈ kept width shown, older < id + width := fun near => refused ⟨here,near⟩
          simpa using Or.inr far
      · exact ih member

/-- To answer, the admitted numbers are enough. -/
theorem admits_kept_iff (shown : List Nat) (id : Nat) :
    Admits width (kept width shown) id ↔ Admits width shown id := by
  constructor
  · rintro ⟨fresh,near⟩
    constructor
    · intro member
      obtain here | ⟨newer,above,far⟩ := @shown_cases width _ _ member
      · exact fresh here
      · exact absurd (near newer above) (Nat.not_lt.mpr far)
    · intro older member
      obtain here | ⟨newer,above,far⟩ := @shown_cases width _ _ member
      · exact near older here
      · exact Nat.lt_of_le_of_lt (Nat.le_trans (Nat.le_add_right older width) far) (near newer above)
  · rintro ⟨fresh,near⟩
    exact ⟨fun member => fresh (kept_subset shown member),fun older member => near older (kept_subset shown member)⟩

end Dynet.Lib.Replay
