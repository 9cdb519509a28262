import Mathlib.Algebra.Group.Int.Defs
import Mathlib.Algebra.Group.Nat.Defs
import Mathlib.Data.Int.Order.Basic
import Mathlib.Data.Option.Basic

/-! Machine arithmetic that answers nothing when a result does not fit, and the greatest
item of a list. -/
namespace Dynet.Lib.Checked

def i64 (n : Int) : Option Int := if -2^63 ≤ n ∧ n < 2^63 then some n else none

def u64 (n : Nat) : Option Nat := if n < 2^64 then some n else none

def saturatingMul (a b : Nat) : Nat := min (a * b) (2^64 - 1)

/-- `i64::try_from(n).unwrap_or(i64::MAX)`. -/
def clampI64 (n : Nat) : Int := if n < 2^63 then n else 2^63 - 1

theorem i64_fits {n : Int} (low : -2^63 ≤ n) (high : n < 2^63) : i64 n = some n := if_pos ⟨low,high⟩

theorem i64_value {n m : Int} (fits : i64 n = some m) : m = n := by
  unfold i64 at fits
  split at fits
  · exact (Option.some.inj fits).symm
  · cases fits

theorem u64_fits {n : Nat} (small : n < 2^64) : u64 n = some n := if_pos small

theorem clampI64_small {n : Nat} (small : n < 2^63) : clampI64 n = n := if_pos small

theorem clampI64_range (n : Nat) : 0 ≤ clampI64 n ∧ clampI64 n < 2^63 := by
  rw [clampI64]
  split <;> omega

theorem mem_mapM {α β : Type} {f : α → Option β} {xs : List α} {ys : List β} (mapped : xs.mapM f = some ys) (y : β) :
    y ∈ ys ↔ ∃ x ∈ xs, f x = some y := by
  induction xs generalizing ys with
  | nil =>
    cases mapped
    simp
  | cons x xs ih =>
    rw [List.mapM_cons] at mapped
    obtain ⟨head,first,mapped⟩ := Option.bind_eq_some_iff.mp mapped
    obtain ⟨tail,rest,done⟩ := Option.bind_eq_some_iff.mp mapped
    cases done
    simp [ih rest,first,eq_comm]

theorem mapM_length {α β : Type} {f : α → Option β} {xs : List α} {ys : List β} (mapped : xs.mapM f = some ys) :
    ys.length = xs.length := by
  induction xs generalizing ys with
  | nil =>
    cases mapped
    rfl
  | cons x xs ih =>
    rw [List.mapM_cons] at mapped
    obtain ⟨head,first,mapped⟩ := Option.bind_eq_some_iff.mp mapped
    obtain ⟨tail,rest,done⟩ := Option.bind_eq_some_iff.mp mapped
    cases done
    simp [ih rest]

theorem mapM_isSome_iff {α β : Type} (f : α → Option β) (xs : List α) :
    (xs.mapM f).isSome ↔ ∀ x ∈ xs, (f x).isSome := by
  induction xs with
  | nil => simp
  | cons x xs ih =>
    rw [List.mapM_cons,List.forall_mem_cons,← ih]
    cases f x <;> cases xs.mapM f <;> simp

section Greatest
variable {α : Type} (cmp : α → α → Ordering)

/-- `Iterator::max_by`: of equally great items the last. -/
def maxBy : List α → Option α
  | [] => none
  | first::rest => some (rest.foldl (fun best x => if cmp best x = .gt then best else x) first)

theorem maxBy_isSome_iff (xs : List α) : (maxBy cmp xs).isSome ↔ xs ≠ [] := by
  cases xs <;> simp [maxBy]

variable {cmp} [Std.TransCmp cmp]

theorem maxBy_fold (rest : List α) (first : α) :
    let best := rest.foldl (fun best x => if cmp best x = .gt then best else x) first
    best ∈ first::rest ∧ ∀ x ∈ first::rest, (cmp x best).isLE := by
  induction rest generalizing first with
  | nil => simp [Std.ReflCmp.isLE_rfl]
  | cons next rest ih =>
    obtain ⟨member,greatest⟩ := ih (if cmp first next = .gt then first else next)
    rw [List.foldl_cons]
    obtain ⟨head,tail⟩ := List.forall_mem_cons.mp greatest
    by_cases above : cmp first next = .gt
    · simp only [above,if_true] at member head tail ⊢
      have below : (cmp next first).isLE := by
        have turned := Std.OrientedCmp.gt_iff_lt.mp above
        simp [turned]
      refine ⟨?_,?_⟩
      · obtain same | later := List.mem_cons.mp member
        · rw [same]
          exact List.mem_cons_self
        · exact List.mem_cons_of_mem _ (List.mem_cons_of_mem _ later)
      · exact List.forall_mem_cons.mpr ⟨head,List.forall_mem_cons.mpr ⟨Std.TransCmp.isLE_trans below head,tail⟩⟩
    · simp only [above,if_false] at member head tail ⊢
      have below : (cmp first next).isLE := Ordering.isLE_iff_ne_gt.mpr above
      exact ⟨List.mem_cons_of_mem _ member,
        List.forall_mem_cons.mpr ⟨Std.TransCmp.isLE_trans below head,List.forall_mem_cons.mpr ⟨head,tail⟩⟩⟩

theorem maxBy_greatest {xs : List α} {best : α} (found : maxBy cmp xs = some best) :
    best ∈ xs ∧ ∀ x ∈ xs, (cmp x best).isLE := by
  cases xs with
  | nil => cases found
  | cons first rest =>
    cases found
    exact maxBy_fold rest first

end Greatest

end Dynet.Lib.Checked
