import Mathlib.Data.List.Basic

/-! Bytes and errors of the VLESS prototype. -/
namespace Dynet.Vless

abbrev Bytes := List UInt8

inductive ErrorKind where
  | invalidData
  | invalidInput
  | permissionDenied
  | connectionAborted
  | unexpectedEof
  | wouldBlock
  | writeZero
  | other
  deriving DecidableEq, Repr

structure IoError where
  kind : ErrorKind
  message : String
  deriving DecidableEq, Repr

def invalidData (message : String) : IoError := ⟨.invalidData,message⟩

-- `{:02x}` of a byte.
def hexByte (b : UInt8) : String :=
  String.ofList [Nat.digitChar (b.toNat / 16),Nat.digitChar (b.toNat % 16)]

def be16 (high low : UInt8) : Nat := high.toNat * 256 + low.toNat

def be24 (high mid low : UInt8) : Nat := high.toNat * 65536 + mid.toNat * 256 + low.toNat

def toBe16 (n : Nat) : Bytes := [UInt8.ofNat (n / 256),UInt8.ofNat n]

theorem be16_toBe16 {n : Nat} (small : n < 65536) : be16 (UInt8.ofNat (n / 256)) (UInt8.ofNat n) = n := by
  simp only [be16,UInt8.toNat_ofNat']
  omega

end Dynet.Vless
