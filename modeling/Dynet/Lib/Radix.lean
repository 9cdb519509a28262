import Mathlib.Data.List.Basic

/-! Numbers written in a radix: `from_str_radix` of an unsigned type, with the error that
it gives, and the texts that it accepts. -/
namespace Dynet.Lib.Radix

inductive IntErrorKind where
  | empty
  | invalidDigit
  | posOverflow
  deriving DecidableEq, Repr

def IntErrorKind.display : IntErrorKind → String
  | .empty => "cannot parse integer from empty string"
  | .invalidDigit => "invalid digit found in string"
  | .posOverflow => "number too large to fit in target type"

section Numerals
variable (radix : Nat)

/-- `char::to_digit`. -/
def toDigit (c : Char) : Option Nat :=
  let value :=
    if '0' ≤ c ∧ c ≤ '9' then c.toNat - 48
    else if 'a' ≤ c ∧ c ≤ 'z' then c.toNat - 87
    else if 'A' ≤ c ∧ c ≤ 'Z' then c.toNat - 55
    else radix
  if value < radix then some value else none

def fromDigits (limit : Nat) : Nat → List Char → Except IntErrorKind Nat
  | value,[] => .ok value
  | value,c::rest => match toDigit radix c with
    | none => .error .invalidDigit
    | some digit =>
      if value * radix + digit < limit then fromDigits limit (value * radix + digit) rest else .error .posOverflow

-- A sign alone is no number.
def fromStrRadix (limit : Nat) (text : String) : Except IntErrorKind Nat :=
  match text.toList with
  | [] => .error .empty
  | ['+'] => .error .invalidDigit
  | ['-'] => .error .invalidDigit
  | '+'::digits => fromDigits radix limit 0 digits
  | digits => fromDigits radix limit 0 digits

/-- The number that digits stand for behind those of a number. -/
def numeral (value : Nat) (digits : List Char) : Nat :=
  digits.foldl (fun value c => value * radix + (toDigit radix c).getD 0) value

/-- Digits of a number, with zeros in front and letters of any case. -/
structure Digits (digits : List Char) (n : Nat) : Prop where
  filled : digits ≠ []
  all : ∀ c ∈ digits, (toDigit radix c).isSome
  value : numeral radix 0 digits = n

end Numerals

section Accepted
variable {radix limit : Nat}

theorem le_numeral (positive : 0 < radix) (value : Nat) (digits : List Char) : value ≤ numeral radix value digits := by
  induction digits generalizing value with
  | nil => exact Nat.le_refl _
  | cons c rest ih =>
    have grown : value ≤ value * radix := Nat.le_mul_of_pos_right value positive
    exact Nat.le_trans (Nat.le_trans grown (Nat.le_add_right _ _)) (ih _)

theorem fromDigits_ok_iff (positive : 0 < radix) {value n : Nat} (small : value < limit) (digits : List Char) :
    fromDigits radix limit value digits = .ok n ↔
      (∀ c ∈ digits, (toDigit radix c).isSome) ∧ numeral radix value digits = n ∧ n < limit := by
  induction digits generalizing value with
  | nil =>
    rw [fromDigits,Except.ok.injEq]
    constructor
    · rintro rfl
      exact ⟨List.forall_mem_nil _,rfl,small⟩
    · rintro ⟨-,same,-⟩
      exact same
  | cons c rest ih =>
    rw [fromDigits,List.forall_mem_cons]
    cases digit : toDigit radix c with
    | none =>
      constructor
      · intro impossible
        cases impossible
      · rintro ⟨⟨impossible,-⟩,-⟩
        cases impossible
    | some d =>
      have unfolded : numeral radix value (c::rest) = numeral radix (value * radix + d) rest := by
        rw [numeral,List.foldl_cons,digit]
        rfl
      rw [unfolded]
      dsimp only
      split
      · rename_i fits
        rw [ih fits]
        exact ⟨fun ⟨all,rest⟩ => ⟨⟨rfl,all⟩,rest⟩,fun ⟨⟨_,all⟩,rest⟩ => ⟨all,rest⟩⟩
      · rename_i past
        constructor
        · intro impossible
          cases impossible
        · rintro ⟨-,same,fits⟩
          have least := le_numeral positive (value * radix + d) rest
          omega

theorem not_sign {c : Char} (digit : (toDigit radix c).isSome) : c ≠ '+' ∧ c ≠ '-' := by
  constructor <;> rintro rfl <;> simp [toDigit] at digit

theorem fromDigits_digits_iff (positive : 0 < radix) (some : 0 < limit) {digits : List Char} (filled : digits ≠ []) (n : Nat) :
    fromDigits radix limit 0 digits = .ok n ↔ n < limit ∧ Digits radix digits n := by
  rw [fromDigits_ok_iff positive some]
  exact ⟨fun ⟨all,value,small⟩ => ⟨small,filled,all,value⟩,fun ⟨small,_,all,value⟩ => ⟨all,value,small⟩⟩

/-- The accepted texts are the digits of numbers below the limit, with or without a plus. -/
theorem fromStrRadix_ok_iff (positive : 0 < radix) (some : 0 < limit) (text : String) (n : Nat) :
    fromStrRadix radix limit text = .ok n ↔
      n < limit ∧ ∃ digits, Digits radix digits n ∧ (text.toList = digits ∨ text.toList = '+'::digits) := by
  unfold fromStrRadix
  split
  next shape =>
    constructor
    · intro impossible
      cases impossible
    · rintro ⟨-,digits,held,rfl | same⟩
      · exact absurd shape held.filled
      · rw [shape] at same
        cases same
  next shape =>
    constructor
    · intro impossible
      cases impossible
    · rintro ⟨-,digits,held,rfl | same⟩
      · exact absurd rfl (not_sign (held.all '+' (by rw [shape]; exact List.mem_cons_self))).1
      · rw [shape] at same
        cases same
        exact absurd rfl held.filled
  next shape =>
    constructor
    · intro impossible
      cases impossible
    · rintro ⟨-,digits,held,rfl | same⟩
      · exact absurd rfl (not_sign (held.all '-' (by rw [shape]; exact List.mem_cons_self))).2
      · rw [shape] at same
        cases same
  next rest alone shape =>
    have filled : rest ≠ [] := by
      rintro rfl
      exact alone rfl
    rw [fromDigits_digits_iff positive some filled]
    constructor
    · rintro ⟨small,held⟩
      exact ⟨small,rest,held,.inr shape⟩
    · rintro ⟨small,digits,held,rfl | same⟩
      · exact absurd rfl (not_sign (held.all '+' (by rw [shape]; exact List.mem_cons_self))).1
      · rw [shape] at same
        cases same
        exact ⟨small,held⟩
  next empty _ _ unsigned =>
    rw [fromDigits_digits_iff positive some empty]
    constructor
    · rintro ⟨small,held⟩
      exact ⟨small,_,held,.inl rfl⟩
    · rintro ⟨small,digits,held,rfl | same⟩
      · exact ⟨small,held⟩
      · exact absurd same (unsigned digits)

end Accepted

section Written
variable {radix : Nat} (base : 1 < radix)
include base

/-- The digits that a number is printed with: no zero stands in front of others. -/
theorem toDigits_shape (n : Nat) : ∃ digits : List Nat, Nat.toDigits radix n = digits.map Nat.digitChar ∧
    (∀ d ∈ digits, d < radix) ∧ digits.foldl (fun value d => value * radix + d) 0 = n ∧ (digits.head? = some 0 → digits = [0]) := by
  induction n using Nat.strongRecOn with
  | ind n ih =>
    by_cases small : n < radix
    · refine ⟨[n],Nat.toDigits_of_lt_base small,by simpa using small,by simp,?_⟩
      intro zero
      rw [List.head?_cons,Option.some.injEq] at zero
      rw [zero]
    · obtain ⟨digits,written,bounded,value,front⟩ := ih (n / radix) (Nat.div_lt_self (by omega) base)
      refine ⟨digits ++ [n % radix],?_,?_,?_,?_⟩
      · rw [Nat.toDigits_of_base_le base (Nat.le_of_not_lt small),written,List.map_append]
        rfl
      · rw [List.forall_mem_append]
        exact ⟨bounded,by simpa using Nat.mod_lt n (by omega : 0 < radix)⟩
      · rw [List.foldl_append,value,List.foldl_cons,List.foldl_nil,Nat.mul_comm,Nat.div_add_mod]
      · cases digits with
        | nil =>
          have empty : Nat.toDigits radix (n / radix) = [] := written
          exact absurd empty Nat.toDigits_ne_nil
        | cons d rest =>
          intro zero
          cases front zero
          have less : n / radix = 0 := by simpa using value.symm
          rw [Nat.div_eq_zero_iff] at less
          omega

variable (hex : radix ≤ 16)
include hex

omit base in
theorem toDigit_digitChar {d : Nat} (small : d < radix) : toDigit radix (Nat.digitChar d) = some d := by
  have all : ∀ radix ≤ 16, ∀ d < radix, toDigit radix (Nat.digitChar d) = some d := by decide
  exact all radix hex d small

theorem digits_toDigits (n : Nat) : Digits radix (Nat.toDigits radix n) n := by
  obtain ⟨digits,written,bounded,value,-⟩ := toDigits_shape base n
  refine ⟨Nat.toDigits_ne_nil,?_,?_⟩
  · rw [written,List.forall_mem_map]
    intro d member
    rw [toDigit_digitChar hex (bounded d member)]
    rfl
  · rw [written,numeral,List.foldl_map]
    refine Eq.trans (List.foldl_ext _ _ _ fun value d member => ?_) value
    rw [toDigit_digitChar hex (bounded d member),Option.getD_some]

end Written

section Hexadecimal

theorem hex_of_toDigit {c : Char} (digit : (toDigit 16 c).isSome) : c ∈ "0123456789abcdefABCDEF".toList := by
  have table : ∀ n < 128, (toDigit 16 (Char.ofNat n)).isSome → Char.ofNat n ∈ "0123456789abcdefABCDEF".toList := by decide
  have low : c.toNat < 128 := by
    by_contra high
    have past (bound : Char) (small : bound.toNat < 128) : ¬c ≤ bound := by
      rw [Char.le_def,UInt32.le_iff_toNat_le]
      change ¬c.toNat ≤ bound.toNat
      omega
    simp [toDigit,past '9' (by decide),past 'z' (by decide),past 'Z' (by decide)] at digit
  have member := table c.toNat low
  rw [Char.ofNat_toNat] at member
  exact member digit

end Hexadecimal

end Dynet.Lib.Radix
