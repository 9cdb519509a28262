import Mathlib.Algebra.Group.Nat.Defs
import Mathlib.Algebra.Group.Int.Defs
import Mathlib.Data.List.Basic
import Mathlib.Tactic.Common

/-! Numbers as SQLite computes them, and running totals kept in a column. An
integer result outside the signed 64-bit range becomes a real and stays one. -/
namespace Dynet.Lib.Sqlite

inductive SqlNumber where
  | integer (value : Int)
  | real
  deriving DecidableEq, Repr

namespace SqlNumber

def ofInt (value : Int) : SqlNumber := if -2^63 ≤ value ∧ value < 2^63 then .integer value else .real

def add : SqlNumber → SqlNumber → SqlNumber
  | .integer a, .integer b => ofInt (a + b)
  | _, _ => .real

def sub : SqlNumber → SqlNumber → SqlNumber
  | .integer a, .integer b => ofInt (a - b)
  | _, _ => .real

-- `max(x, 0)`
def clip : SqlNumber → SqlNumber
  | .integer a => .integer (max a 0)
  | .real => .real

-- `row.get::<i64>`: a real does not decode.
def toI64 : SqlNumber → Option Int
  | .integer value => some value
  | .real => none

/-- Where a number stands among integers. A real comes from an overflow upwards. -/
def position : SqlNumber → Int
  | .integer value => value
  | .real => 2^63

/-- A natural number as the column shows it. -/
def ofNat (n : Nat) : SqlNumber := if n < 2^63 then .integer n else .real

theorem ofNat_of_lt {n : Nat} (small : n < 2^63) : ofNat n = .integer n := if_pos small

theorem ofNat_add (n m : Nat) : (ofNat n).add (.integer m) = ofNat (n + m) := by
  unfold ofNat
  by_cases small : n < 2^63
  · rw [if_pos small,add,ofInt]
    by_cases fits : n + m < 2^63
    · rw [if_pos fits,if_pos (by omega)]
      norm_cast
    · rw [if_neg fits,if_neg (by omega)]
  · rw [if_neg small,if_neg (by omega)]
    rfl

theorem clip_sub_self (value : Int) : (sub (.integer value) (.integer value)).clip = .integer 0 := by
  simp [sub,ofInt,clip]

end SqlNumber

section Tally
variable {α : Type} (total part : α → Option Nat)

/-- The plain running total: a reported total replaces it, a part adds to it. -/
def tally (sum : Nat) (xs : List α) : Nat :=
  xs.foldl (fun sum x => (total x).getD sum + (part x).getD 0) sum

/-- The running total in 64-bit arithmetic. -/
def tallyWrapped (sum : Nat) (x : α) : Nat :=
  match part x with
  | some amount => ((total x).getD sum + amount) % 2^64
  | none => (total x).getD sum

/-- The running total as the column keeps it: an update with a total drops its part. -/
def tallyColumn (cell : SqlNumber) (x : α) : SqlNumber :=
  match total x with
  | some amount => .integer amount
  | none => cell.add (.integer ((part x).getD 0))

-- What the column keeps, as a plain number, and what it has dropped.
def kept (sum : Nat) (xs : List α) : Nat :=
  xs.foldl (fun sum x => (total x).getD (sum + (part x).getD 0)) sum

def dropped (surplus : Nat) (xs : List α) : Nat :=
  ((xs.reverse.find? fun x => (total x).isSome).map fun x => (part x).getD 0).getD surplus

theorem dropped_cons (surplus : Nat) (x : α) (xs : List α) :
    dropped total part surplus (x::xs) =
      dropped total part (if (total x).isSome then (part x).getD 0 else surplus) xs := by
  unfold dropped
  rw [List.reverse_cons,List.find?_append]
  cases xs.reverse.find? fun x => (total x).isSome with
  | some last => rfl
  | none =>
    by_cases given : (total x).isSome = true
    · simp [given]
    · simp [given]

theorem tally_eq_kept_add_dropped (sum surplus : Nat) (xs : List α) :
    tally total part (sum + surplus) xs = kept total part sum xs + dropped total part surplus xs := by
  induction xs generalizing sum surplus with
  | nil => rfl
  | cons x xs ih =>
    rw [dropped_cons]
    change tally total part ((total x).getD (sum + surplus) + (part x).getD 0) xs =
      kept total part ((total x).getD (sum + (part x).getD 0)) xs + _
    rw [← ih]
    cases total x with
    | some amount => rfl
    | none =>
      have same : sum + surplus + (part x).getD 0 = sum + (part x).getD 0 + surplus := by omega
      simp [same]

theorem foldl_tallyWrapped (sum : Nat) (xs : List α) (small : ∀ x ∈ xs, ∀ amount ∈ total x, amount < 2^63) :
    xs.foldl (tallyWrapped total part) (sum % 2^64) = tally total part sum xs % 2^64 := by
  induction xs generalizing sum with
  | nil => rfl
  | cons x xs ih =>
    obtain ⟨first,rest⟩ := List.forall_mem_cons.mp small
    have step : tallyWrapped total part (sum % 2^64) x = ((total x).getD sum + (part x).getD 0) % 2^64 := by
      unfold tallyWrapped
      cases given : total x with
      | none =>
        cases part x with
        | none => simp
        | some amount => simp [Nat.mod_add_mod]
      | some amount =>
        have bound := first amount given
        cases part x with
        | none => simp; omega
        | some more => simp
    rw [List.foldl_cons,step,ih _ rest]
    rfl

theorem foldl_tallyColumn (sum : Nat) (xs : List α) (small : ∀ x ∈ xs, ∀ amount ∈ total x, amount < 2^63) :
    xs.foldl (tallyColumn total part) (.ofNat sum) = .ofNat (kept total part sum xs) := by
  induction xs generalizing sum with
  | nil => rfl
  | cons x xs ih =>
    obtain ⟨first,rest⟩ := List.forall_mem_cons.mp small
    have step : tallyColumn total part (.ofNat sum) x =
        .ofNat ((total x).getD (sum + (part x).getD 0)) := by
      unfold tallyColumn
      cases given : total x with
      | none => exact SqlNumber.ofNat_add _ _
      | some amount => exact (SqlNumber.ofNat_of_lt (first amount given)).symm
    rw [List.foldl_cons,step,ih _ rest]
    rfl

/-- Column and 64-bit counter agree exactly when the last total after the start
came without a part and the plain total fits a signed 64-bit integer. -/
theorem column_eq_wrapped_iff (sum : Nat) (xs : List α)
    (totals : ∀ x ∈ xs, ∀ amount ∈ total x, amount < 2^63)
    (parts : ∀ x ∈ xs, ∀ amount ∈ part x, amount < 2^63) :
    (xs.foldl (tallyColumn total part) (.ofNat sum)).toI64.map Int.toNat =
        some (xs.foldl (tallyWrapped total part) (sum % 2^64)) ↔
      dropped total part 0 xs = 0 ∧ tally total part sum xs < 2^63 := by
  have split := tally_eq_kept_add_dropped total part sum 0 xs
  rw [Nat.add_zero] at split
  have bound : dropped total part 0 xs < 2^63 := by
    unfold dropped
    cases found : xs.reverse.find? fun x => (total x).isSome with
    | none => simp
    | some last =>
      have member := List.mem_reverse.mp (List.mem_of_find?_eq_some found)
      cases given : part last with
      | none => simp [given]
      | some amount =>
        have := parts last member amount given
        simp [given]
        omega
  rw [foldl_tallyWrapped total part sum xs totals,foldl_tallyColumn total part sum xs totals]
  unfold SqlNumber.ofNat
  by_cases small : kept total part sum xs < 2^63
  · rw [if_pos small,SqlNumber.toI64,Option.map_some,Option.some_inj,Int.toNat_natCast]
    omega
  · rw [if_neg small]
    simp only [SqlNumber.toI64,Option.map_none]
    exact ⟨fun impossible => by contradiction,fun ⟨exact,fits⟩ => by omega⟩

end Tally

/-- A part of a folded state that each step updates on its own is a fold itself. -/
theorem field_fold {σ α γ : Type} {step : σ → α → σ} (get : σ → γ) (update : γ → α → γ)
    (follows : ∀ state x, update (get state) x = get (step state x)) (state : σ) (xs : List α) :
    get (xs.foldl step state) = xs.foldl update (get state) := (List.foldl_hom get follows).symm

section Fields
variable {α β : Type} (field : α → Option β)

theorem foldl_first (init : Option β) (xs : List α) :
    xs.foldl (fun kept x => kept.or (field x)) init = init.or (xs.findSome? field) := by
  induction xs generalizing init with
  | nil => simp
  | cons x xs ih =>
    rw [List.foldl_cons,ih,List.findSome?_cons]
    cases init <;> cases field x <;> simp

theorem foldl_last (init : Option β) (xs : List α) :
    xs.foldl (fun kept x => (field x).or kept) init = (xs.reverse.findSome? field).or init := by
  induction xs generalizing init with
  | nil => simp
  | cons x xs ih =>
    rw [List.foldl_cons,ih,List.reverse_cons,List.findSome?_append]
    cases xs.reverse.findSome? field with
    | some last => rfl
    | none => cases given : field x <;> simp [given]

theorem foldl_first_cons (x : α) (xs : List α) :
    xs.foldl (fun kept y => kept.or (field y)) (field x) = (x::xs).findSome? field := by
  rw [foldl_first,List.findSome?_cons]
  cases field x <;> rfl

theorem foldl_last_cons (x : α) (xs : List α) :
    xs.foldl (fun kept y => (field y).or kept) (field x) = (x::xs).reverse.findSome? field := by
  rw [foldl_last,List.reverse_cons,List.findSome?_append]
  cases given : field x <;> simp [given]

theorem findSome_if (holds : α → Bool) (value : α → β) (xs : List α) :
    xs.findSome? (fun x => if holds x then some (value x) else none) = (xs.find? holds).map value := by
  induction xs with
  | nil => rfl
  | cons x xs ih =>
    rw [List.findSome?_cons,List.find?_cons]
    cases holds x with
    | true => rfl
    | false => exact ih

end Fields

end Dynet.Lib.Sqlite
