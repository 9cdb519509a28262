import Dynet.Vless.Basic

/-! A cursor over a slice. Every read checks the end of the slice and fails there. -/
namespace Dynet.Vless

structure BufReader where
  buf : Bytes
  pos : Nat
  deriving DecidableEq, Repr

abbrev ReadM := StateT BufReader (Except IoError)

namespace BufReader

def new (buf : Bytes) : BufReader := ⟨buf,0⟩

def readPastEnd : IoError := ⟨.unexpectedEof,"Read past end of buffer"⟩

def position : ReadM Nat := return (← get).pos

def remaining : ReadM Nat := do
  let reader ← get
  return reader.buf.length - reader.pos

def isConsumed : ReadM Bool := do
  let reader ← get
  return reader.pos == reader.buf.length

def readSlice (len : Nat) : ReadM Bytes := do
  let reader ← get
  if reader.pos + len > reader.buf.length then throw readPastEnd
  set (⟨reader.buf,reader.pos + len⟩ : BufReader)
  return (reader.buf.drop reader.pos).take len

def skip (amount : Nat) : ReadM Unit := do
  let _ ← readSlice amount

def readU8 : ReadM UInt8 := do
  match ← readSlice 1 with
  | [b] => return b
  | _ => throw readPastEnd

def readU16Be : ReadM Nat := do
  match ← readSlice 2 with
  | [high,low] => return be16 high low
  | _ => throw readPastEnd

def readU24Be : ReadM Nat := do
  match ← readSlice 3 with
  | [high,mid,low] => return be24 high mid low
  | _ => throw readPastEnd

def run {α : Type} (read : ReadM α) (buf : Bytes) : Except IoError α := (·.1) <$> read (new buf)

end BufReader

end Dynet.Vless
