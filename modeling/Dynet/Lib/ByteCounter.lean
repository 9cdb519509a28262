import Mathlib.Algebra.Group.Nat.Defs
import Mathlib.Algebra.Group.Int.Defs
import Mathlib.Data.Nat.Init
import Mathlib.Logic.Function.Iterate

/-! A counter kept in bytes, least significant first, that wraps at its width. -/
namespace Dynet.Lib.ByteCounter

def value : List UInt8 → Nat
  | [] => 0
  | b::bytes => b.toNat + 256 * value bytes

/-- Adds one and carries on as long as a byte overflows. -/
def increment : List UInt8 → List UInt8
  | [] => []
  | b::bytes => (b + 1)::(if b = 255 then increment bytes else bytes)

@[simp] theorem length_increment (bytes : List UInt8) : (increment bytes).length = bytes.length := by
  induction bytes with
  | nil => rfl
  | cons b bytes ih =>
    rw [increment,List.length_cons,List.length_cons]
    split
    · rw [ih]
    · rfl

theorem value_lt (bytes : List UInt8) : value bytes < 256 ^ bytes.length := by
  induction bytes with
  | nil => simp [value]
  | cons b bytes ih =>
    have low := b.toNat_lt
    rw [value,List.length_cons,Nat.pow_succ]
    omega

theorem value_increment (bytes : List UInt8) : value (increment bytes) = (value bytes + 1) % 256 ^ bytes.length := by
  induction bytes with
  | nil => rfl
  | cons b bytes ih =>
    have high := value_lt bytes
    have low := b.toNat_lt
    rw [increment,value,value,List.length_cons,Nat.pow_succ',UInt8.toNat_add]
    split
    · rename_i full
      subst full
      have next : 255 + 256 * value bytes + 1 = 256 * (value bytes + 1) := by omega
      have top : (255 : UInt8).toNat = 255 := rfl
      have one : (1 : UInt8).toNat = 1 := rfl
      rw [ih,top,one,next,Nat.mul_mod_mul_left]
      omega
    · rename_i small
      have below : b.toNat ≠ 255 := fun full => small (UInt8.toNat_inj.mp full)
      have one : (1 : UInt8).toNat = 1 := rfl
      rw [one,Nat.mod_eq_of_lt (by omega),Nat.mod_eq_of_lt (by omega)]
      omega

theorem length_iterate (n : Nat) (bytes : List UInt8) : (increment^[n] bytes).length = bytes.length := by
  induction n with
  | zero => rfl
  | succ n ih => rw [Function.iterate_succ_apply',length_increment,ih]

theorem value_iterate (n : Nat) (bytes : List UInt8) :
    value (increment^[n] bytes) = (value bytes + n) % 256 ^ bytes.length := by
  induction n with
  | zero => exact (Nat.mod_eq_of_lt (value_lt bytes)).symm
  | succ n ih => rw [Function.iterate_succ_apply',value_increment,ih,length_iterate,Nat.mod_add_mod,Nat.add_assoc]

theorem iterate_injective {bytes : List UInt8} {i j : Nat} (first : i < 256 ^ bytes.length) (second : j < 256 ^ bytes.length)
    (same : increment^[i] bytes = increment^[j] bytes) : i = j := by
  have values := congrArg value same
  rw [value_iterate,value_iterate] at values
  have start := value_lt bytes
  generalize 256 ^ bytes.length = full at *
  have turn (k : Nat) (fits : k < full) : (value bytes + k) % full =
      if value bytes + k < full then value bytes + k else value bytes + k - full := by
    split
    · exact Nat.mod_eq_of_lt ‹_›
    · rw [Nat.mod_eq_sub_mod (by omega),Nat.mod_eq_of_lt (by omega)]
  rw [turn i first,turn j second] at values
  split at values <;> split at values <;> omega

end Dynet.Lib.ByteCounter
