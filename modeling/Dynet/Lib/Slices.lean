import Mathlib.Algebra.Group.Nat.Defs
import Mathlib.Data.List.TakeDrop

/-! Reads of a list that stop the program when they leave it: a computation either
panics, which is `none`, or ends with a result or an error. -/
namespace Dynet.Lib.Slices

abbrev Guarded (ε : Type) := ExceptT ε Option

section Reads
variable {ε α β : Type}

def panic : Guarded ε α := ExceptT.lift none

/-- `xs[i]`. -/
def index (xs : List α) (i : Nat) : Guarded ε α := ExceptT.lift xs[i]?

/-- `xs[start..stop]`. -/
def range (xs : List α) (start stop : Nat) : Guarded ε (List α) :=
  if start ≤ stop ∧ stop ≤ xs.length then pure ((xs.drop start).take (stop - start)) else panic

/-- `copy_from_slice` into an array of this width. -/
def copyFromSlice (width : Nat) (source : List α) : Guarded ε (List α) :=
  if source.length = width then pure source else panic

theorem index_bind {xs : List α} {i : Nat} {x : α} (here : xs[i]? = some x) (next : α → Guarded ε β) :
    (index xs i >>= next) = next x := by
  rw [index,here]
  exact pure_bind x next

theorem range_bind (before inside after : List α) (next : List α → Guarded ε β) {start stop : Nat}
    (first : start = before.length) (last : stop = before.length + inside.length) :
    (range (before ++ (inside ++ after)) start stop >>= next) = next inside := by
  subst first last
  have within : before.length ≤ before.length + inside.length ∧
      before.length + inside.length ≤ (before ++ (inside ++ after)).length := by
    rw [List.length_append,List.length_append]
    omega
  rw [range,if_pos within,List.drop_left,Nat.add_sub_cancel_left,List.take_left]
  exact pure_bind inside next

theorem copyFromSlice_bind {width : Nat} {source : List α} (sized : source.length = width) (next : List α → Guarded ε β) :
    (copyFromSlice width source >>= next) = next source := by
  rw [copyFromSlice,if_pos sized]
  exact pure_bind source next

/-- The machine that the program is compiled for: the width of its `usize`. -/
structure Target where
  bits : Nat
  wide : 32 ≤ bits

/-- A slice of bytes takes less than half of the address space. -/
def Target.Slice (target : Target) : Type := {bytes : List UInt8 // bytes.length < 2 ^ (target.bits - 1)}

theorem Target.halves (target : Target) : 2 ^ target.bits = 2 * 2 ^ (target.bits - 1) ∧ 2 ^ 31 ≤ 2 ^ (target.bits - 1) := by
  have wide := target.wide
  constructor
  · rw [← Nat.pow_succ']
    congr 1
    omega
  · exact Nat.pow_le_pow_right (by decide) (by omega)

-- `a + b` and `a - b` of `usize`.
def plus (target : Target) (a b : Nat) : Guarded ε Nat := if a + b < 2 ^ target.bits then pure (a + b) else panic

def minus (a b : Nat) : Guarded ε Nat := if b ≤ a then pure (a - b) else panic

theorem plus_bind {target : Target} {a b : Nat} (small : a + b < 2 ^ target.bits) (next : Nat → Guarded ε β) :
    (plus target a b >>= next) = next (a + b) := by
  rw [plus,if_pos small]
  exact pure_bind _ next

theorem minus_bind {a b : Nat} (held : b ≤ a) (next : Nat → Guarded ε β) : (minus a b >>= next) = next (a - b) := by
  rw [minus,if_pos held]
  exact pure_bind _ next

/-- A computation without a panic. -/
def done (result : Except ε α) : Guarded ε α := ExceptT.mk (some result)

theorem done_inj {first second : Except ε α} : (done first : Guarded ε α) = done second ↔ first = second :=
  ⟨fun same => Option.some.inj same,congrArg done⟩

theorem done_ok_bind (value : α) (next : α → Guarded ε β) : (done (.ok value) >>= next) = next value := rfl

end Reads

end Dynet.Lib.Slices
