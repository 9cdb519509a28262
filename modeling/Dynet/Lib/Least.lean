import Std.Data.ExtTreeMap

/-! The least entry of a list, kept in a fold: `min_by`, where the first of equal ones stays.
Sorted, entries that a comparison tells apart stand in one order only. -/
namespace Dynet.Lib.Least

variable {α : Type} (cmp : α → α → Ordering) [Std.TransCmp cmp]

theorem mergeSort_eq_of_perm {xs ys : List α} (reordered : ys.Perm xs) (apart : ∀ x ∈ xs, ∀ y ∈ xs, cmp x y = .eq → x = y) :
    ys.mergeSort (fun left right => (cmp left right).isLE) = xs.mergeSort fun left right => (cmp left right).isLE := by
  have trans (a b c : α) (first : (cmp a b).isLE) (second : (cmp b c).isLE) : (cmp a c).isLE := Std.TransCmp.isLE_trans first second
  have total (a b : α) : ((cmp a b).isLE || (cmp b a).isLE) = true := by
    rw [Bool.or_eq_true,← @Std.OrientedCmp.isGE_iff_isLE _ cmp _ a b]
    cases cmp a b <;> simp
  have perm := (List.mergeSort_perm ys fun left right => (cmp left right).isLE).trans
    (reordered.trans (List.mergeSort_perm xs fun left right => (cmp left right).isLE).symm)
  refine perm.eq_of_pairwise (fun x y first second below above => ?_) (List.pairwise_mergeSort trans total ys) (List.pairwise_mergeSort trans total xs)
  rw [List.mem_mergeSort] at first second
  refine apart x (reordered.mem_iff.mp first) y second ?_
  rw [← Std.OrientedCmp.isGE_iff_isLE] at above
  cases order : cmp x y <;> simp_all

variable {pick : Option α → α → Option α}
  (pick_none : ∀ entry, pick none entry = some entry)
  (pick_some : ∀ kept entry, pick (some kept) entry = if (cmp entry kept).isLT then some entry else some kept)
include pick_none pick_some

-- The entry kept so far is least among those already seen.
theorem picked_least (entries : List α) (best : Option α) (chosen : α) (picked : entries.foldl pick best = some chosen) :
    (∀ kept ∈ best, (cmp chosen kept).isLE) ∧ ∀ entry ∈ entries, (cmp chosen entry).isLE := by
  induction entries generalizing best with
  | nil =>
    refine ⟨fun kept held => ?_,by simp⟩
    cases held.symm.trans picked
    exact Ordering.isLE_of_eq_eq Std.ReflCmp.compare_self
  | cons entry rest ih =>
    obtain ⟨first,later⟩ := ih _ picked
    cases best with
    | none =>
      rw [pick_none] at first
      exact ⟨by simp,List.forall_mem_cons.mpr ⟨first entry rfl,later⟩⟩
    | some kept =>
      rw [pick_some] at first
      split at first
      · rename_i less
        have least := first entry rfl
        have below : (cmp entry kept).isLE := Ordering.isLE_of_eq_lt (Ordering.isLT_iff_eq_lt.mp less)
        refine ⟨fun other held => ?_,List.forall_mem_cons.mpr ⟨least,later⟩⟩
        cases held
        exact Std.TransCmp.isLE_trans least below
      · rename_i notLess
        have least := first kept rfl
        have above : (cmp kept entry).isLE := by
          rw [← Std.OrientedCmp.isGE_iff_isLE]
          cases order : cmp entry kept <;> simp_all
        refine ⟨fun other held => ?_,List.forall_mem_cons.mpr ⟨Std.TransCmp.isLE_trans least above,later⟩⟩
        cases held
        exact least

omit [Std.TransCmp cmp] in
theorem picked_mem (entries : List α) (best : Option α) (chosen : α) (picked : entries.foldl pick best = some chosen) :
    chosen ∈ entries ∨ best = some chosen := by
  induction entries generalizing best with
  | nil => exact .inr picked
  | cons first rest ih =>
    rcases ih _ picked with later | now
    · exact .inl (List.mem_cons_of_mem _ later)
    · cases best with
      | none =>
        rw [pick_none] at now
        cases Option.some.inj now
        exact .inl List.mem_cons_self
      | some kept =>
        rw [pick_some] at now
        split at now
        · cases Option.some.inj now
          exact .inl List.mem_cons_self
        · exact .inr now

omit [Std.TransCmp cmp] in
theorem picked_some (entries : List α) (best : Option α) (any : best.isSome ∨ entries ≠ []) :
    ∃ chosen, entries.foldl pick best = some chosen := by
  induction entries generalizing best with
  | nil =>
    rcases any with held | empty
    · exact Option.isSome_iff_exists.mp held
    · exact absurd rfl empty
  | cons entry rest ih =>
    refine ih _ (.inl ?_)
    cases best with
    | none => simp [pick_none]
    | some kept =>
      rw [pick_some]
      split <;> rfl

end Dynet.Lib.Least
