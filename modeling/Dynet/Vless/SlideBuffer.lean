import Dynet.Vless.Basic

/-! The fixed buffer of a connection. Its bytes lie at `start` in the storage and never
leave it; a write that would is a panic of the source. -/
namespace Dynet.Vless

inductive Panic where
  | overrun
  | unreachable
  | underflow
  | assertion
  deriving DecidableEq, Repr

structure SlideBuffer where
  capacity : Nat
  start : Nat
  bytes : Bytes
  fits : start + bytes.length ≤ capacity
  deriving DecidableEq, Repr

namespace SlideBuffer

def new (capacity : Nat) : SlideBuffer := ⟨capacity,0,[],Nat.zero_le _⟩

def len (buffer : SlideBuffer) : Nat := buffer.bytes.length

def remainingCapacity (buffer : SlideBuffer) : Nat := buffer.capacity - (buffer.start + buffer.len)

def extendFromSlice (buffer : SlideBuffer) (data : Bytes) : Except Panic SlideBuffer :=
  if room : buffer.start + (buffer.bytes ++ data).length ≤ buffer.capacity then
    .ok ⟨buffer.capacity,buffer.start,buffer.bytes ++ data,room⟩
  else .error .overrun

-- The offsets go back to the front when nothing is left.
def consume (buffer : SlideBuffer) (n : Nat) : SlideBuffer :=
  if inside : n < buffer.len then ⟨buffer.capacity,buffer.start + n,buffer.bytes.drop n,by
    have := buffer.fits
    rw [len] at inside
    rw [List.length_drop]
    omega⟩
  else ⟨buffer.capacity,0,[],Nat.zero_le _⟩

def compact (buffer : SlideBuffer) : SlideBuffer :=
  ⟨buffer.capacity,0,buffer.bytes,Nat.le_trans (by omega) buffer.fits⟩

def maybeCompact (buffer : SlideBuffer) (threshold : Nat) : SlideBuffer :=
  if buffer.start > threshold then buffer.compact else buffer

@[simp] theorem maybeCompact_bytes (buffer : SlideBuffer) (threshold : Nat) :
    (buffer.maybeCompact threshold).bytes = buffer.bytes := by
  unfold maybeCompact
  split <;> rfl

@[simp] theorem maybeCompact_capacity (buffer : SlideBuffer) (threshold : Nat) :
    (buffer.maybeCompact threshold).capacity = buffer.capacity := by
  unfold maybeCompact
  split <;> rfl

@[simp] theorem consume_capacity (buffer : SlideBuffer) (n : Nat) : (buffer.consume n).capacity = buffer.capacity := by
  unfold consume
  split <;> rfl

@[simp] theorem consume_bytes (buffer : SlideBuffer) (n : Nat) : (buffer.consume n).bytes = buffer.bytes.drop n := by
  unfold consume
  split
  · rfl
  next past => exact (List.drop_eq_nil_of_le (Nat.le_of_not_lt past)).symm

theorem extendFromSlice_ok_iff (buffer after : SlideBuffer) (data : Bytes) :
    buffer.extendFromSlice data = .ok after ↔
      buffer.start + buffer.len + data.length ≤ buffer.capacity ∧ after.capacity = buffer.capacity ∧
        after.start = buffer.start ∧ after.bytes = buffer.bytes ++ data := by
  rw [extendFromSlice,len]
  split
  next room =>
    rw [List.length_append] at room
    constructor
    · intro same
      cases same
      exact ⟨by omega,rfl,rfl,rfl⟩
    · rintro ⟨_,capacity,start,bytes⟩
      obtain ⟨_,_,_,_⟩ := after
      subst capacity start bytes
      rfl
  next full =>
    rw [List.length_append] at full
    constructor
    · intro impossible
      cases impossible
    · rintro ⟨room,_⟩
      omega

theorem extendFromSlice_error_iff (buffer : SlideBuffer) (data : Bytes) (panic : Panic) :
    buffer.extendFromSlice data = .error panic ↔
      panic = .overrun ∧ buffer.capacity < buffer.start + buffer.len + data.length := by
  rw [extendFromSlice,len]
  split
  next room =>
    rw [List.length_append] at room
    simp only [reduceCtorEq,false_iff,not_and]
    omega
  next full =>
    rw [List.length_append] at full
    simp only [Except.error.injEq]
    constructor
    · rintro rfl
      exact ⟨rfl,by omega⟩
    · rintro ⟨rfl,_⟩
      rfl

end SlideBuffer

end Dynet.Vless
