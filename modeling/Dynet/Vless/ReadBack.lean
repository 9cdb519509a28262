import Dynet.Vless.ServerHello

/-! What a writer has put down is read back: a reader that takes exactly the given bytes off
a buffer and answers a value. The rules follow the reader's own steps, so that a format is
read back field by field. -/
namespace Dynet.Vless
open Cursor (ok_bind lift_ok readSlice_written readU16Be_written skip_inside)

variable {α β : Type} {front rest bytes later : Bytes}

/-- Between `front` and `rest` the reader takes `bytes` off and answers the value. -/
def Reads (front rest : Bytes) (read : ReadM α) (bytes : Bytes) (value : α) : Prop :=
  ∀ buf, buf = front ++ (bytes ++ rest) → read ⟨buf,front.length⟩ = .ok (value,⟨buf,front.length + bytes.length⟩)

namespace Reads

theorem pure (front rest : Bytes) (value : α) : Reads front rest (Pure.pure value) [] value :=
  fun _ _ => rfl

theorem bind {read : ReadM α} {next : α → ReadM β} {value : α} {answer : β}
    (first : Reads front (later ++ rest) read bytes value)
    (second : Reads (front ++ bytes) rest (next value) later answer) :
    Reads front rest (read >>= next) (bytes ++ later) answer := by
  intro buf same
  rw [List.append_assoc] at same
  have step := second buf (by rw [same,List.append_assoc])
  rw [List.length_append] at step
  rw [ok_bind (first buf same),step,List.length_append,Nat.add_assoc]

/-- A step that takes nothing off. -/
theorem peek {read : ReadM α} {next : α → ReadM β} {value : α} {answer : β}
    (first : Reads front (bytes ++ rest) read [] value) (second : Reads front rest (next value) bytes answer) :
    Reads front rest (read >>= next) bytes answer := by
  have both : Reads front rest (read >>= next) ([] ++ bytes) answer :=
    first.bind (by rw [List.append_nil]; exact second)
  exact both

theorem passed {c : Prop} [Decidable c] {refuse read : ReadM α} {value : α} (allowed : ¬c)
    (reads : Reads front rest read bytes value) : Reads front rest (if c then refuse else read) bytes value := by
  rw [if_neg allowed]
  exact reads

theorem chosen {c : Prop} [Decidable c] {read other : ReadM α} {value : α} (holds : c)
    (reads : Reads front rest read bytes value) : Reads front rest (if c then read else other) bytes value := by
  rw [if_pos holds]
  exact reads

theorem slice (front rest bytes : Bytes) : Reads front rest (BufReader.readSlice bytes.length) bytes bytes := by
  intro buf same
  refine @readSlice_written _ _ bytes rest ?_ ?_
  · rw [same,List.length_append]
    omega
  · rw [same,List.drop_left]

theorem sliceOf {n : Nat} (sized : bytes.length = n) : Reads front rest (BufReader.readSlice n) bytes bytes := by
  subst sized
  exact slice front rest bytes

theorem skipOf {n : Nat} (sized : bytes.length = n) : Reads front rest (BufReader.skip n) bytes () := by
  intro buf same
  subst sized
  refine skip_inside ?_
  rw [same,List.length_append,List.length_append]
  omega

theorem u8 (front rest : Bytes) (byte : UInt8) : Reads front rest BufReader.readU8 [byte] byte := by
  intro buf same
  have read : BufReader.readSlice 1 ⟨buf,front.length⟩ = _ := slice front rest [byte] buf same
  rw [BufReader.readU8,ok_bind read]
  rfl

theorem u16 {n : Nat} (small : n < 65536) : Reads front rest BufReader.readU16Be (toBe16 n) n := by
  intro buf same
  refine @readU16Be_written _ _ n rest ?_ small ?_
  · rw [same,List.length_append]
    omega
  · rw [same,List.drop_left]

theorem u24 (front rest : Bytes) (high mid low : UInt8) :
    Reads front rest BufReader.readU24Be [high,mid,low] (be24 high mid low) := by
  intro buf same
  have read : BufReader.readSlice 3 ⟨buf,front.length⟩ = _ := slice front rest [high,mid,low] buf same
  rw [BufReader.readU24Be,ok_bind read]
  rfl

theorem remaining (front rest : Bytes) : Reads front rest BufReader.remaining [] rest.length := by
  intro buf same
  have left : buf.length - front.length = rest.length := by
    rw [same,List.nil_append,List.length_append]
    omega
  rw [← left]
  rfl

theorem position (front rest : Bytes) : Reads front rest BufReader.position [] front.length := fun _ _ => rfl

theorem isConsumed (front rest : Bytes) : Reads front rest BufReader.isConsumed [] rest.isEmpty := by
  intro buf same
  have left : (front.length == buf.length) = rest.isEmpty := by
    cases rest <;> simp [same]
  rw [← left]
  rfl

theorem lifted {read : Except IoError α} {value : α} (made : read = .ok value) :
    Reads front rest (StateT.lift read) [] value := by
  subst made
  exact fun _ _ => rfl

/-- A reader run on a buffer of its own. -/
theorem run {read : ReadM α} {value : α} (reads : Reads [] rest read bytes value) :
    BufReader.run read (bytes ++ rest) = .ok value := by
  have made := reads (bytes ++ rest) rfl
  rw [BufReader.run,BufReader.new]
  rw [List.length_nil] at made
  rw [made]
  rfl

theorem whole {read : ReadM α} {value : α} (reads : Reads [] [] read bytes value) :
    BufReader.run read bytes = .ok value := by
  have made := reads.run
  rw [List.append_nil] at made
  exact made

end Reads

end Dynet.Vless
