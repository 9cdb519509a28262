import Mathlib.Data.List.Basic

/-! The UTF-8 bytes of a text, and what the standard library says of bytes that are none. -/
namespace Dynet.Lib.Utf8

/-- `str::as_bytes`. -/
def asBytes (text : String) : List UInt8 := text.toByteArray.data.toList

def fromUtf8 (bytes : List UInt8) : Option String := String.fromUTF8? ⟨bytes.toArray⟩

theorem fromUtf8_eq_some_iff (bytes : List UInt8) (text : String) : fromUtf8 bytes = some text ↔ bytes = asBytes text := by
  constructor
  · intro decoded
    unfold fromUtf8 String.fromUTF8? at decoded
    split at decoded
    · cases decoded
      rfl
    · cases decoded
  · rintro rfl
    exact dif_pos text.isValidUTF8

theorem asBytes_ofList (chars : List Char) : asBytes (String.ofList chars) = chars.flatMap String.utf8EncodeChar := by
  change (List.toByteArray (chars.flatMap String.utf8EncodeChar)).data.toList = _
  rw [List.data_toByteArray]

theorem asBytes_append (first second : List Char) :
    asBytes (String.ofList (first ++ second)) = asBytes (String.ofList first) ++ asBytes (String.ofList second) := by
  rw [asBytes_ofList,asBytes_ofList,asBytes_ofList,List.flatMap_append]

structure Utf8Error where
  validUpTo : Nat
  errorLen : Option Nat
  deriving DecidableEq, Repr

def Utf8Error.display (error : Utf8Error) : String :=
  match error.errorLen with
  | some length => s!"invalid utf-8 sequence of {length} bytes from index {error.validUpTo}"
  | none => s!"incomplete utf-8 byte sequence from index {error.validUpTo}"

/-- The bounds of the second byte and how many bytes follow that one. -/
def sequel (first : UInt8) : Option (UInt8 × UInt8 × Nat) :=
  if first < 0xc2 then none
  else if first < 0xe0 then some (0x80,0xbf,0)
  else if first = 0xe0 then some (0xa0,0xbf,1)
  else if first = 0xed then some (0x80,0x9f,1)
  else if first < 0xf0 then some (0x80,0xbf,1)
  else if first = 0xf0 then some (0x90,0xbf,2)
  else if first < 0xf4 then some (0x80,0xbf,2)
  else if first = 0xf4 then some (0x80,0x8f,2)
  else none

/-- `run_utf8_validation`: `pending` is a sequence begun at `start`, as the bytes taken of
it, the bounds of the next one and how many follow. -/
def validate (start : Nat) (pending : Option (Nat × UInt8 × UInt8 × Nat)) : List UInt8 → Option Utf8Error
  | [] => pending.map fun _ => ⟨start,none⟩
  | b::rest => match pending with
    | none =>
      if b < 0x80 then validate (start + 1) none rest
      else match sequel b with
        | none => some ⟨start,some 1⟩
        | some (low,high,more) => validate start (some (1,low,high,more)) rest
    | some (taken,low,high,more) =>
      if low ≤ b ∧ b ≤ high then match more with
        | 0 => validate (start + taken + 1) none rest
        | more+1 => validate start (some (taken + 1,0x80,0xbf,more)) rest
      else some ⟨start,some taken⟩

/-- The text of the error that bytes give which are no UTF-8. -/
def utf8Error (bytes : List UInt8) : String := ((validate 0 none bytes).map Utf8Error.display).getD ""

example : utf8Error [97,0xe2,0x82] = "incomplete utf-8 byte sequence from index 1" := by decide
example : utf8Error [97,0xf0,0x9f,0x41] = "invalid utf-8 sequence of 2 bytes from index 1" := by decide

end Dynet.Lib.Utf8
