import Mathlib.Data.List.Infix
import Mathlib.Data.List.DropRight

/-! Text a program writes and reads back: decimal numbers of a bounded type, and
lists joined by a separator. -/
namespace Dynet.Lib.Text

/-- `str::parse` at an unsigned type with values below the limit. -/
def parseUnsigned (limit : Nat) (text : String) : Option Nat :=
  let digits := match text.toList with
    | '+'::rest => rest
    | rest => rest
  if digits ≠ [] ∧ digits.all (·.isDigit) ∧ Nat.ofDigitChars 10 digits 0 < limit then
    some (Nat.ofDigitChars 10 digits 0)
  else none

theorem isDigit_of_toDigits {n : Nat} {c : Char} (member : c ∈ Nat.toDigits 10 n) : c.isDigit = true :=
  Nat.isDigit_of_mem_toDigits (by decide) (by decide) member

theorem parseUnsigned_toString (limit n : Nat) :
    parseUnsigned limit (toString n) = if n < limit then some n else none := by
  have digits : (toString n).toList = Nat.toDigits 10 n := Nat.toList_repr
  have signless : (match Nat.toDigits 10 n with
      | '+'::rest => rest
      | rest => rest) = Nat.toDigits 10 n := by
    split
    · rename_i rest shape
      have plus := isDigit_of_toDigits (n := n) (c := '+') (by rw [shape]; exact List.mem_cons_self)
      exact absurd plus (by decide)
    · rfl
  have numeric : (Nat.toDigits 10 n).all (·.isDigit) = true :=
    List.all_eq_true.mpr fun c member => isDigit_of_toDigits member
  rw [parseUnsigned,digits]
  simp only [signless,numeric,Nat.ofDigitChars_ten_toDigits,Nat.toDigits_ne_nil,ne_eq,not_false_eq_true,
    true_and]

/-- `str::contains`. -/
def contains (text part : String) : Bool := decide (part.toList <:+: text.toList)

def startsWith (text front : String) : Bool := decide (front.toList <+: text.toList)

/-- `str::trim` for a class of blank characters. -/
def trim (blank : Char → Bool) (text : String) : String :=
  String.ofList ((text.toList.dropWhile blank).reverse.dropWhile blank).reverse

def join (separator : Char) (parts : List String) : String :=
  String.ofList ([separator].intercalate (parts.map String.toList))

theorem prefix_join (separator : Char) (part : String) (rest : List String) : part.toList <+: (join separator (part::rest)).toList := by
  rw [join,String.toList_ofList]
  cases rest with
  | nil => simp
  | cons next rest => simp

/-- `str::split` at a character. -/
def split (separator : Char) (text : String) : List String :=
  (text.toList.splitOn separator).map String.ofList

theorem split_join (separator : Char) (parts : List String) (some : parts ≠ [])
    (free : ∀ part ∈ parts, separator ∉ part.toList) : split separator (join separator parts) = parts := by
  rw [split,join,String.toList_ofList,List.splitOn_intercalate]
  · rw [List.map_map]
    exact (List.map_congr_left fun part _ => String.ofList_toList).trans (List.map_id _)
  · simpa using free
  · simpa using some

theorem split_free {separator : Char} {text part : String} (member : part ∈ split separator text) :
    separator ∉ part.toList := by
  have pieces (chars piece : List Char) (member : piece ∈ chars.splitOn separator) : separator ∉ piece := by
    induction chars generalizing piece with
    | nil =>
      rw [List.splitOn_nil,List.mem_singleton] at member
      rw [member]
      exact List.not_mem_nil
    | cons c rest ih =>
      rw [List.splitOn_cons_eq_if_modifyHead] at member
      split at member
      · rcases List.mem_cons.mp member with rfl|member
        · exact List.not_mem_nil
        · exact ih piece member
      · rename_i other
        obtain ⟨first,others,shape⟩ := List.exists_cons_of_ne_nil (List.splitOn_ne_nil separator rest)
        rw [shape,List.modifyHead_cons] at member
        rcases List.mem_cons.mp member with rfl|member
        · rw [List.mem_cons,not_or]
          exact ⟨fun same => other (by simp [same]),ih first (by rw [shape]; exact List.mem_cons_self)⟩
        · exact ih piece (by rw [shape]; exact List.mem_cons_of_mem _ member)
  obtain ⟨piece,listed,rfl⟩ := List.mem_map.mp member
  rw [String.toList_ofList]
  exact pieces _ piece listed

/-- `split(separator).next()`: what stands before the first separator. -/
theorem head_split (separator : Char) (text : String) :
    (split separator text).head?.getD "" = String.ofList (text.toList.takeWhile (· ≠ separator)) := by
  rw [split]
  generalize text.toList = chars
  induction chars with
  | nil => simp
  | cons c rest ih =>
    rw [List.splitOn_cons_eq_if_modifyHead]
    by_cases same : c = separator
    · simp [same]
    · obtain ⟨first,others,shape⟩ := List.exists_cons_of_ne_nil (List.splitOn_ne_nil separator rest)
      rw [shape] at ih
      simpa [shape,same] using ih

theorem takeWhile_separator {separator : Char} {front rest : List Char} (free : separator ∉ front)
    (ends : rest = [] ∨ ∃ tail, rest = separator::tail) : (front ++ rest).takeWhile (· ≠ separator) = front := by
  have all : ∀ c ∈ front, decide (c ≠ separator) = true := by
    intro c member
    refine decide_eq_true ?_
    rintro rfl
    exact free member
  rw [List.takeWhile_append_of_pos all]
  obtain rfl | ⟨tail,rfl⟩ := ends
  · simp
  · simp

theorem trim_sublist (blank : Char → Bool) (text : String) :
    (trim blank text).toList.Sublist text.toList := by
  rw [trim,String.toList_ofList]
  exact (List.rdropWhile_prefix blank _).sublist.trans (List.dropWhile_sublist _)

theorem trim_trim (blank : Char → Bool) (text : String) : trim blank (trim blank text) = trim blank text := by
  have kept : ((text.toList.dropWhile blank).rdropWhile blank).dropWhile blank =
      (text.toList.dropWhile blank).rdropWhile blank := by
    rw [List.dropWhile_eq_self_iff]
    intro some
    have first := (List.rdropWhile_prefix blank (text.toList.dropWhile blank)).getElem some
    rw [first]
    exact List.dropWhile_get_zero_not blank _ _
  change String.ofList (List.rdropWhile blank (List.dropWhile blank (trim blank text).toList)) = _
  rw [trim,String.toList_ofList]
  change String.ofList (List.rdropWhile blank (List.dropWhile blank ((text.toList.dropWhile blank).rdropWhile blank))) = _
  rw [kept,List.rdropWhile_idempotent]
  rfl

end Dynet.Lib.Text
