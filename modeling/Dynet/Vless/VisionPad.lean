import Dynet.Vless.VisionUnpad

/-! Padded blocks as the write side builds them. The length field has sixteen bits, so a
block is read back only when its data fit in. -/
namespace Dynet.Vless

def longPaddingMin : Nat := 900
def longPaddingRandomMax : Nat := 500
def shortPaddingRandomMax : Nat := 256
def maxPaddingSize : Nat := 8171

-- `draw` is what the random generator gives, brought into the range it is asked for.
def calculatePaddingLength (contentLen : Nat) (isTls : Bool) (draw : Nat) : Nat :=
  let maxAllowable := maxPaddingSize - contentLen
  if isTls ∧ contentLen < longPaddingMin then
    min (longPaddingMin - contentLen + draw % longPaddingRandomMax) maxAllowable
  else min (draw % shortPaddingRandomMax) maxAllowable

def pad (data : Bytes) (uuid : Option Uuid) (command : UnpadCommand) (isTls : Bool) (draw : Nat)
    (filler : Nat → UInt8) : Bytes :=
  let contentLen := data.length % 65536
  let paddingLen := calculatePaddingLength contentLen isTls draw
  (match uuid with
    | some uuid => uuid.bytes
    | none => []) ++
    command.byte::(toBe16 contentLen ++ (toBe16 paddingLen ++ (data ++ (List.range paddingLen).map filler)))

def padWithUuidAndCommand (data : Bytes) (uuid : Uuid) (command : UnpadCommand) (isTls : Bool) (draw : Nat)
    (filler : Nat → UInt8) : Bytes :=
  pad data (some uuid) command isTls draw filler

def padWithCommand (data : Bytes) (command : UnpadCommand) (isTls : Bool) (draw : Nat) (filler : Nat → UInt8) : Bytes :=
  pad data none command isTls draw filler

theorem calculatePaddingLength_le (contentLen : Nat) (isTls : Bool) (draw : Nat) :
    calculatePaddingLength contentLen isTls draw ≤ maxPaddingSize - contentLen := by
  unfold calculatePaddingLength
  dsimp only
  split <;> exact Nat.min_le_right _ _

theorem padWithUuidAndCommand_eq (data : Bytes) (uuid : Uuid) (command : UnpadCommand) (isTls : Bool) (draw : Nat)
    (filler : Nat → UInt8) :
    padWithUuidAndCommand data uuid command isTls draw filler =
      uuid.bytes ++ padWithCommand data command isTls draw filler := rfl

theorem run_block {content padding : Bytes} {contentLen paddingLen : Nat} (command : UnpadCommand)
    (counted : content.length = contentLen) (filled : padding.length = paddingLen) (small : contentLen < 65536)
    (low : paddingLen < 65536) (later : Bytes) :
    Phase.boundary.run
        (command.byte::(toBe16 contentLen ++ (toBe16 paddingLen ++ (content ++ padding))) ++ later) =
      ((Phase.closed command).run later).prepend content := by
  subst counted filled
  exact Phase.run_encode command ⟨content,padding,small,low⟩ later

/-- Data that fit are read back, and the reader stands where the command leaves it. -/
theorem run_padWithCommand {data : Bytes} (fits : data.length < 65536) (command : UnpadCommand) (isTls : Bool)
    (draw : Nat) (filler : Nat → UInt8) (later : Bytes) :
    Phase.boundary.run (padWithCommand data command isTls draw filler ++ later) =
      ((Phase.closed command).run later).prepend data := by
  have bound := calculatePaddingLength_le (data.length % 65536) isTls draw
  have largest : maxPaddingSize = 8171 := rfl
  have whole : data.length = data.length % 65536 := (Nat.mod_eq_of_lt fits).symm
  exact run_block command whole (by rw [List.length_map,List.length_range]) (by omega) (by omega) later

/-- Data too long for the length field. Where the shortened length leaves no room for
padding, a final block is still read back: what the field does not count follows it. -/
theorem run_padWithCommand_full {data : Bytes} (full : maxPaddingSize ≤ data.length % 65536) {command : UnpadCommand}
    (final : command ≠ .continueBlock) (isTls : Bool) (draw : Nat) (filler : Nat → UInt8) (later : Bytes) :
    ∃ content rest, content ++ rest = data ∧
      Phase.boundary.run (padWithCommand data command isTls draw filler ++ later) =
        .finishes command content (rest ++ later) := by
  have bound := calculatePaddingLength_le (data.length % 65536) isTls draw
  have largest : maxPaddingSize = 8171 := rfl
  have none : calculatePaddingLength (data.length % 65536) isTls draw = 0 := by omega
  have inside : data.length % 65536 ≤ data.length := Nat.mod_le _ _
  have closed : Phase.closed command = .done command := by
    cases command with
    | continueBlock => exact absurd rfl final
    | endBlock => rfl
    | direct => rfl
  have joined : data.take (data.length % 65536) ++ data.drop (data.length % 65536) = data :=
    List.take_append_drop _ _
  have front : (data.take (data.length % 65536)).length = data.length % 65536 := by
    rw [List.length_take,Nat.min_eq_left inside]
  have block := run_block command front List.length_nil (by omega) (by omega)
    (data.drop (data.length % 65536) ++ later)
  rw [closed,Phase.run_done,Reading.prepend,List.append_nil] at block
  refine ⟨_,_,joined,?_⟩
  have same : padWithCommand data command isTls draw filler ++ later =
      command.byte::(toBe16 (data.length % 65536) ++ (toBe16 0 ++ data.take (data.length % 65536))) ++
        (data.drop (data.length % 65536) ++ later) := by
    have split : data ++ later =
        data.take (data.length % 65536) ++ (data.drop (data.length % 65536) ++ later) := by
      rw [← List.append_assoc,joined]
    simp only [padWithCommand,pad,none,List.range_zero,List.map_nil,List.append_nil,List.nil_append,
      List.cons_append,List.append_assoc,← split]
  rw [same]
  exact block

end Dynet.Vless
