import Dynet.Dns.Resolve
import Dynet.Lib.Radix
import Dynet.Lib.Slices
import Dynet.Lib.Text
import Dynet.Lib.Utf8

/-! The chunks of a DNS-over-HTTPS body. -/
namespace Dynet.Dns.Chunked
open Dynet.Lib.Slices Dynet.Lib.Text Dynet.Lib.Utf8 Dynet.Lib.Radix

def crlf : Bytes := [13,10]

/-- `windows(2).position(|window| window == b"\r\n")`. -/
def crlfPosition : Bytes → Option Nat
  | first::second::rest =>
    if first = 13 ∧ second = 10 then some 0 else (crlfPosition (second::rest)).map (· + 1)
  | _ => none

section Decoder
variable (target : Target) (upstreamId : String) (body : Bytes)

def checkedAdd (a b : Nat) : Option Nat := if a + b < 2 ^ target.bits then some (a + b) else none

def invalidBody : DnsResolveError := ⟨s!"invalid chunked DNS-over-HTTPS body from upstream {upstreamId}"⟩

def invalidSize (error : String) : DnsResolveError :=
  ⟨s!"invalid chunk size from DNS-over-HTTPS upstream {upstreamId}: {error}"⟩

/-- `ok_or_else`. -/
def orElse {α : Type} (error : DnsResolveError) : Option α → Guarded DnsResolveError α
  | some value => pure value
  | none => throw error

/-- The size in a line: what stands before the first semicolon. -/
def chunkSize (line : Bytes) : Except DnsResolveError Nat :=
  match fromUtf8 line with
  | none => .error (invalidSize upstreamId (utf8Error line))
  | some text => match fromStrRadix 16 (2 ^ target.bits) ((split ';' text).head?.getD "") with
    | .error error => .error (invalidSize upstreamId error.display)
    | .ok size => .ok size

/-- One round of the loop: the chunk and the cursor behind it, or the end at a size of zero. -/
def chunkRound (cursor : Nat) : Guarded DnsResolveError (Option (Bytes × Nat)) := do
  let rest ← range body cursor body.length
  let offset ← orElse (invalidBody upstreamId) (crlfPosition rest)
  let lineEnd ← plus target cursor offset
  let sizeLine ← range body cursor lineEnd
  let size ← done (chunkSize target upstreamId sizeLine)
  let cursor ← plus target lineEnd 2
  if size = 0 then return none
  else
    let chunkEnd ← orElse (invalidBody upstreamId) (checkedAdd target cursor size)
    let trailerEnd ← orElse (invalidBody upstreamId) (checkedAdd target chunkEnd 2)
    if slice body chunkEnd trailerEnd ≠ some crlf then throw (invalidBody upstreamId)
    else
      let chunk ← orElse (invalidBody upstreamId) (slice body cursor chunkEnd)
      return some (chunk,trailerEnd)

-- A loop that has not ended within its rounds counts as a panic.
def decodeLoop : Nat → Nat → Bytes → Guarded DnsResolveError Bytes
  | 0,_,_ => panic
  | rounds+1,cursor,decoded => do
    match ← chunkRound target upstreamId body cursor with
    | none => return decoded
    | some (chunk,cursor) => decodeLoop rounds cursor (decoded ++ chunk)

def decodeChunkedBody (rounds : Nat) : Guarded DnsResolveError Bytes := decodeLoop target upstreamId body rounds 0 []

end Decoder

/-! What a chunked body looks like. -/

/-- A line with the size in hexadecimal digits, perhaps behind a plus, and then nothing or an
extension behind a semicolon. -/
structure SizeLine (line : Bytes) (size : Nat) : Prop where
  text : ∃ sign digits extension : List Char, line = asBytes (String.ofList (sign ++ digits ++ extension)) ∧
    (sign = [] ∨ sign = ['+']) ∧ Digits 16 digits size ∧ (extension = [] ∨ ∃ rest, extension = ';'::rest)
  unbroken : ¬crlf <:+: line

structure Block where
  line : Bytes
  data : Bytes
  deriving DecidableEq, Repr

namespace Block

def bytes (block : Block) : Bytes := block.line ++ (crlf ++ (block.data ++ crlf))

theorem length_bytes (block : Block) : block.bytes.length = block.line.length + 2 + block.data.length + 2 := by
  have two : crlf.length = 2 := rfl
  rw [bytes,List.length_append,List.length_append,List.length_append,two]
  omega

structure Sized (block : Block) : Prop where
  filled : block.data ≠ []
  line : SizeLine block.line block.data.length

end Block

/-- The blocks at the front of a body, up to the line with a size of zero. -/
structure Blocks (body : Bytes) (blocks : List Block) : Prop where
  sized : ∀ block ∈ blocks, block.Sized
  bytes : ∃ last rest, SizeLine last 0 ∧ body = blocks.flatMap Block.bytes ++ (last ++ (crlf ++ rest))

section Lines

theorem crlfPosition_eq_some_iff (bytes : Bytes) (n : Nat) :
    crlfPosition bytes = some n ↔ ∃ line rest, bytes = line ++ (crlf ++ rest) ∧ line.length = n ∧ ¬crlf <:+: line := by
  fun_induction crlfPosition bytes generalizing n with
  | case1 first second rest here =>
    obtain ⟨rfl,rfl⟩ := here
    constructor
    · intro same
      cases same
      exact ⟨[],rest,rfl,rfl,by decide⟩
    · rintro ⟨line,after,split,rfl,unbroken⟩
      match line with
      | [] => rfl
      | [_] => exact absurd split (by simp [crlf])
      | _::_::line =>
        simp only [List.cons_append,List.cons.injEq] at split
        obtain ⟨rfl,rfl,-⟩ := split
        exact absurd ⟨[],line,rfl⟩ unbroken
  | case2 first second rest other ih =>
    rw [Option.map_eq_some_iff]
    constructor
    · rintro ⟨m,found,rfl⟩
      obtain ⟨line,after,split,rfl,unbroken⟩ := (ih m).mp found
      refine ⟨first::line,after,by rw [split]; rfl,rfl,fun inside => ?_⟩
      rcases List.infix_cons_iff.mp inside with ⟨tail,front⟩ | later
      · match line with
        | [] => simp [crlf] at front
        | _::line =>
          simp only [crlf,List.cons_append,List.cons.injEq] at front split
          exact other ⟨front.1.symm,split.1.trans front.2.1.symm⟩
      · exact unbroken later
    · rintro ⟨line,after,split,rfl,unbroken⟩
      match line with
      | [] =>
        simp only [crlf,List.nil_append,List.cons_append,List.cons.injEq] at split
        exact absurd ⟨split.1,split.2.1⟩ other
      | c::line =>
        simp only [List.cons_append,List.cons.injEq] at split
        refine ⟨line.length,(ih _).mpr ⟨line,after,split.2,rfl,fun inside => unbroken ?_⟩,rfl⟩
        exact List.infix_cons_iff.mpr (.inr inside)
  | case3 bytes short =>
    constructor
    · intro impossible
      cases impossible
    · rintro ⟨line,after,split,-,-⟩
      match line with
      | [] => exact absurd split (short _ _ _)
      | [_] => exact absurd split (short _ _ _)
      | _::_::_ => exact absurd split (short _ _ _)

theorem size_text (text : String) (size limit : Nat) (some : 0 < limit) :
    fromStrRadix 16 limit ((split ';' text).head?.getD "") = .ok size ↔ size < limit ∧
      ∃ sign digits extension : List Char, text.toList = sign ++ digits ++ extension ∧ (sign = [] ∨ sign = ['+']) ∧
        Digits 16 digits size ∧ (extension = [] ∨ ∃ rest, extension = ';'::rest) := by
  rw [head_split,fromStrRadix_ok_iff (by decide) some,String.toList_ofList]
  refine and_congr_right fun _ => ⟨?_,?_⟩
  · rintro ⟨digits,held,front⟩
    have ends : text.toList.dropWhile (· ≠ ';') = [] ∨ ∃ rest, text.toList.dropWhile (· ≠ ';') = ';'::rest := by
      cases after : text.toList.dropWhile (· ≠ ';') with
      | nil => exact .inl rfl
      | cons c rest =>
        have first := List.head?_dropWhile_not (· ≠ ';') text.toList
        rw [after] at first
        simp at first
        exact .inr ⟨rest,by rw [first]⟩
    have whole := List.takeWhile_append_dropWhile (p := fun c => decide (c ≠ ';')) (l := text.toList)
    obtain plain | signed := front
    · exact ⟨[],digits,_,by rw [List.nil_append,← plain]; exact whole.symm,.inl rfl,held,ends⟩
    · exact ⟨['+'],digits,_,by rw [List.singleton_append,← signed]; exact whole.symm,.inr rfl,held,ends⟩
  · rintro ⟨sign,digits,extension,whole,signed,held,ends⟩
    have free : ';' ∉ digits := by
      intro member
      have impossible := held.all _ member
      simp [toDigit] at impossible
    rw [whole]
    refine ⟨digits,held,?_⟩
    obtain rfl | rfl := signed
    · exact .inl (takeWhile_separator (by simpa using free) ends)
    · exact .inr (takeWhile_separator (by simpa using free) ends)

theorem chunkSize_ok_iff (target : Target) (upstreamId : String) {line : Bytes} (unbroken : ¬crlf <:+: line) (size : Nat) :
    chunkSize target upstreamId line = .ok size ↔ size < 2 ^ target.bits ∧ SizeLine line size := by
  have parsed (text : String) := size_text text size _ (Nat.two_pow_pos target.bits)
  unfold chunkSize
  cases decoded : fromUtf8 line with
  | none =>
    constructor
    · intro impossible
      cases impossible
    · rintro ⟨-,⟨sign,digits,extension,rfl,-⟩,-⟩
      rw [(fromUtf8_eq_some_iff _ _).mpr rfl] at decoded
      cases decoded
  | some text =>
    have same := (fromUtf8_eq_some_iff _ _).mp decoded
    have reading : (∃ sign digits extension : List Char, text.toList = sign ++ digits ++ extension ∧ (sign = [] ∨ sign = ['+']) ∧
        Digits 16 digits size ∧ (extension = [] ∨ ∃ rest, extension = ';'::rest)) ↔ SizeLine line size := by
      constructor
      · rintro ⟨sign,digits,extension,whole,rest⟩
        exact ⟨⟨sign,digits,extension,by rw [← whole,String.ofList_toList]; exact same,rest⟩,unbroken⟩
      · rintro ⟨⟨sign,digits,extension,line,rest⟩,-⟩
        rw [line,(fromUtf8_eq_some_iff _ _).mpr rfl] at decoded
        cases decoded
        exact ⟨sign,digits,extension,String.toList_ofList,rest⟩
    rw [← reading,← parsed]
    dsimp only
    cases fromStrRadix 16 (2 ^ target.bits) ((split ';' text).head?.getD "") with
    | error error =>
      constructor <;> intro impossible <;> cases impossible
    | ok value =>
      constructor <;> intro same <;> cases same <;> rfl

end Lines

section Rounds
variable {target : Target} {upstreamId : String} {body : Bytes}

theorem chunkRound_unended {cursor : Nat} (within : cursor ≤ body.length) (missing : crlfPosition (body.drop cursor) = none) :
    chunkRound target upstreamId body cursor = done (.error (invalidBody upstreamId)) := by
  rw [chunkRound,range,if_pos ⟨within,Nat.le_refl _⟩,← List.length_drop,List.take_length,pure_bind,missing]
  rfl

theorem blocks_nil_iff (bytes : Bytes) : Blocks bytes [] ↔ ∃ last rest, SizeLine last 0 ∧ bytes = last ++ (crlf ++ rest) :=
  ⟨fun held => held.bytes,fun held => ⟨List.forall_mem_nil _,held⟩⟩

theorem blocks_cons_iff (cursor : Nat) (block : Block) (blocks : List Block) : Blocks (body.drop cursor) (block::blocks) ↔
    block.Sized ∧ body.drop cursor = block.bytes ++ body.drop (cursor + block.bytes.length) ∧
      Blocks (body.drop (cursor + block.bytes.length)) blocks := by
  constructor
  · rintro ⟨sized,last,rest,ended,whole⟩
    obtain ⟨first,others⟩ := List.forall_mem_cons.mp sized
    rw [List.flatMap_cons,List.append_assoc] at whole
    have behind : body.drop (cursor + block.bytes.length) = blocks.flatMap Block.bytes ++ (last ++ (crlf ++ rest)) := by
      rw [← List.drop_drop,whole,List.drop_left]
    exact ⟨first,by rw [behind]; exact whole,others,last,rest,ended,behind⟩
  · rintro ⟨first,split,others,last,rest,ended,behind⟩
    refine ⟨List.forall_mem_cons.mpr ⟨first,others⟩,last,rest,ended,?_⟩
    rw [split,behind,List.flatMap_cons,List.append_assoc]

theorem block_taken {cursor n : Nat} {line rest : Bytes} (split : body.drop cursor = line ++ (crlf ++ rest)) (sized : SizeLine line n)
    (positive : n ≠ 0) (closed : (rest.drop n).take 2 = crlf) :
    ∃ block : Block, block.Sized ∧ block.data = rest.take n ∧ cursor + line.length + 2 + n + 2 = cursor + block.bytes.length ∧
      body.drop cursor = block.bytes ++ body.drop (cursor + line.length + 2 + n + 2) := by
  have length := congrArg List.length closed
  have two : crlf.length = 2 := rfl
  rw [List.length_take,List.length_drop,two] at length
  have whole : (rest.take n).length = n := by
    rw [List.length_take]
    omega
  refine ⟨⟨line,rest.take n⟩,⟨?_,by rw [whole]; exact sized⟩,rfl,?_,?_⟩
  · intro empty
    change rest.take n = [] at empty
    rw [empty] at whole
    exact positive whole.symm
  · rw [Block.length_bytes]
    dsimp only
    omega
  · have behind : body.drop (cursor + line.length + 2) = rest := by
      rw [← List.drop_drop,← List.drop_drop,split,List.drop_left]
      rfl
    have tail : rest = rest.take n ++ (crlf ++ rest.drop (n + 2)) := by
      conv => lhs; rw [← List.take_append_drop n rest,← List.take_append_drop 2 (rest.drop n),closed,List.drop_drop]
    rw [Nat.add_assoc _ n,← List.drop_drop,behind,split,Block.bytes,List.append_assoc,List.append_assoc,List.append_assoc,← tail]

/-- What a round makes of a line and of the bytes behind its break. -/
def lineOutcome (target : Target) (upstreamId : String) (cursor : Nat) (line rest : Bytes) :
    Except DnsResolveError (Option (Bytes × Nat)) :=
  match chunkSize target upstreamId line with
  | .error error => .error error
  | .ok size =>
    if size = 0 then .ok none
    else if (rest.drop size).take 2 = crlf then .ok (some (rest.take size,cursor + line.length + 2 + size + 2))
    else .error (invalidBody upstreamId)

theorem lineOutcome_ended_iff (cursor : Nat) (line rest : Bytes) :
    lineOutcome target upstreamId cursor line rest = .ok none ↔ chunkSize target upstreamId line = .ok 0 := by
  unfold lineOutcome
  cases chunkSize target upstreamId line with
  | error error => simp
  | ok size =>
    dsimp only
    split
    · rename_i zero
      simp [zero]
    · rename_i positive
      split <;> simp [positive]

theorem lineOutcome_taken_iff (cursor : Nat) (line rest data : Bytes) (next : Nat) :
    lineOutcome target upstreamId cursor line rest = .ok (some (data,next)) ↔
      ∃ size, chunkSize target upstreamId line = .ok size ∧ size ≠ 0 ∧ (rest.drop size).take 2 = crlf ∧
        rest.take size = data ∧ cursor + line.length + 2 + size + 2 = next := by
  unfold lineOutcome
  cases chunkSize target upstreamId line with
  | error error => simp
  | ok size =>
    dsimp only
    split
    · rename_i zero
      simp [zero]
    · rename_i positive
      split
      · rename_i closed
        simp [positive,closed]
      · rename_i unclosed
        simp [unclosed]

variable (small : body.length < 2 ^ (target.bits - 1))
include small

theorem chunkRound_line {cursor : Nat} (within : cursor ≤ body.length) {line rest : Bytes}
    (split : body.drop cursor = line ++ (crlf ++ rest)) (unbroken : ¬crlf <:+: line) :
    chunkRound target upstreamId body cursor = done (lineOutcome target upstreamId cursor line rest) := by
  have halves := target.halves
  have found : crlfPosition (body.drop cursor) = some line.length :=
    (crlfPosition_eq_some_iff _ _).mpr ⟨line,rest,split,rfl,unbroken⟩
  have length := congrArg List.length split
  have two : crlf.length = 2 := rfl
  rw [List.length_drop,List.length_append,List.length_append,two] at length
  have front : range body cursor (cursor + line.length) = (pure line : Guarded DnsResolveError Bytes) := by
    rw [range,if_pos ⟨Nat.le_add_right _ _,by omega⟩,Nat.add_sub_cancel_left,split,List.take_left]
  have behind : body.drop (cursor + line.length + 2) = rest := by
    rw [← List.drop_drop,← List.drop_drop,split,List.drop_left]
    rfl
  rw [chunkRound,range,if_pos ⟨within,Nat.le_refl _⟩,← List.length_drop,List.take_length,pure_bind,found,orElse,pure_bind,
    plus_bind (by omega),front,pure_bind,lineOutcome]
  cases chunkSize target upstreamId line with
  | error error => rfl
  | ok size =>
    rw [done_ok_bind,plus_bind (by omega)]
    dsimp only
    split
    · rfl
    · have cut (n : Nat) : body.drop (cursor + line.length + 2 + n) = rest.drop n := by rw [← List.drop_drop,behind]
      by_cases fits : size + 2 ≤ rest.length
      · have data : slice body (cursor + line.length + 2) (cursor + line.length + 2 + size) = some (rest.take size) := by
          rw [slice,if_pos (by omega),behind,Nat.add_sub_cancel_left]
        have ending : slice body (cursor + line.length + 2 + size) (cursor + line.length + 2 + size + 2) =
            some ((rest.drop size).take 2) := by
          rw [slice,if_pos (by omega),cut,Nat.add_sub_cancel_left]
        rw [checkedAdd,if_pos (by omega),orElse,pure_bind,checkedAdd,if_pos (by omega),orElse,pure_bind,ending,data]
        by_cases closed : (rest.drop size).take 2 = crlf
        · rw [if_neg (not_not.mpr (congrArg some closed)),if_pos closed]
          rfl
        · rw [if_pos (fun same => closed (Option.some.inj same)),if_neg closed]
          rfl
      · have unclosed : (rest.drop size).take 2 ≠ crlf := by
          intro same
          have sized := congrArg List.length same
          rw [List.length_take,List.length_drop,two] at sized
          omega
        rw [if_neg unclosed,checkedAdd]
        split
        · rw [orElse,pure_bind,checkedAdd]
          split
          · have past : slice body (cursor + line.length + 2 + size) (cursor + line.length + 2 + size + 2) = none := by
              rw [slice,if_neg (by omega)]
            rw [orElse,pure_bind,past]
            rfl
          · rfl
        · rfl

/-- No round panics. It ends the loop at a line with a size of zero, and takes a block that
stands at the cursor. -/
theorem chunkRound_done {cursor : Nat} (within : cursor ≤ body.length) :
    ∃ result, chunkRound target upstreamId body cursor = done result ∧
      (result = .ok none ↔ ∃ last rest, SizeLine last 0 ∧ body.drop cursor = last ++ (crlf ++ rest)) ∧
      ∀ data next, result = .ok (some (data,next)) ↔
        ∃ block : Block, block.Sized ∧ block.data = data ∧ next = cursor + block.bytes.length ∧
          body.drop cursor = block.bytes ++ body.drop next := by
  cases found : crlfPosition (body.drop cursor) with
  | none =>
    have lost (line rest : Bytes) (size : Nat) (sized : SizeLine line size) : body.drop cursor ≠ line ++ (crlf ++ rest) := by
      intro split
      rw [(crlfPosition_eq_some_iff _ _).mpr ⟨line,rest,split,rfl,sized.unbroken⟩] at found
      cases found
    refine ⟨_,chunkRound_unended within found,?_,fun data next => ?_⟩
    · constructor
      · intro impossible
        cases impossible
      · rintro ⟨last,rest,sized,split⟩
        exact absurd split (lost _ _ _ sized)
    · constructor
      · intro impossible
        cases impossible
      · rintro ⟨block,sized,-,-,split⟩
        rw [Block.bytes,List.append_assoc,List.append_assoc] at split
        exact absurd split (lost _ _ _ sized.line)
  | some offset =>
    obtain ⟨line,rest,split,rfl,unbroken⟩ := (crlfPosition_eq_some_iff _ _).mp found
    -- Whatever line ends at a break in front of which there is none is this one.
    have same {other after : Bytes} {size : Nat} (sized : SizeLine other size) (parted : body.drop cursor = other ++ (crlf ++ after)) :
        other = line ∧ after = rest := by
      have place := (crlfPosition_eq_some_iff _ _).mpr ⟨other,after,parted,rfl,sized.unbroken⟩
      rw [found] at place
      rw [split] at parted
      obtain ⟨lines,rests⟩ := List.append_inj parted (Option.some.inj place)
      exact ⟨lines.symm,(List.append_cancel_left rests).symm⟩
    have parsed := chunkSize_ok_iff target upstreamId unbroken
    refine ⟨_,chunkRound_line small within split unbroken,?_,fun data next => ?_⟩
    · rw [lineOutcome_ended_iff]
      constructor
      · exact fun size => ⟨line,rest,((parsed 0).mp size).2,split⟩
      · rintro ⟨last,after,sized,parted⟩
        obtain ⟨rfl,-⟩ := same sized parted
        exact (parsed 0).mpr ⟨Nat.two_pow_pos _,sized⟩
    · rw [lineOutcome_taken_iff]
      constructor
      · rintro ⟨n,size,positive,closed,rfl,rfl⟩
        exact block_taken split ((parsed n).mp size).2 positive closed
      · rintro ⟨block,sized,rfl,rfl,parted⟩
        rw [Block.bytes,List.append_assoc,List.append_assoc,List.append_assoc] at parted
        obtain ⟨lines,rests⟩ := same sized.line parted
        have length := congrArg List.length parted
        have halves := target.halves
        rw [List.length_drop,List.length_append,List.length_append,List.length_append] at length
        refine ⟨block.data.length,(parsed _).mpr ⟨by omega,lines ▸ sized.line⟩,?_,?_,?_,?_⟩
        · exact fun empty => sized.filled (List.eq_nil_of_length_eq_zero empty)
        · rw [← rests,List.drop_left]
          rfl
        · rw [← rests,List.take_left]
        · rw [Block.length_bytes,lines]
          omega

/-- From every cursor the loop comes to an end without a panic, and to a result exactly for
the blocks that stand there. -/
theorem decodeLoop_done (n : Nat) {cursor : Nat} (within : cursor ≤ body.length) (left : body.length - cursor < n) (decoded : Bytes) :
    ∃ result, (∀ rounds, n ≤ rounds → decodeLoop target upstreamId body rounds cursor decoded = done result) ∧
      ∀ whole, result = .ok whole ↔
        ∃ blocks, Blocks (body.drop cursor) blocks ∧ whole = decoded ++ blocks.flatMap Block.data := by
  induction n generalizing cursor decoded with
  | zero => omega
  | succ n ih =>
    obtain ⟨result,round,ended,taken⟩ := @chunkRound_done target upstreamId body small cursor within
    have first (block : Block) (blocks : List Block) (listed : Blocks (body.drop cursor) (block::blocks)) :
        result = .ok (some (block.data,cursor + block.bytes.length)) := by
      obtain ⟨sized,split,-⟩ := (blocks_cons_iff cursor block blocks).mp listed
      exact (taken _ _).mpr ⟨block,sized,rfl,rfl,split⟩
    have last (listed : Blocks (body.drop cursor) []) : result = .ok none := ended.mpr ((blocks_nil_iff _).mp listed)
    cases result with
    | error error =>
      refine ⟨.error error,fun rounds enough => ?_,fun whole => ?_⟩
      · obtain ⟨rounds,rfl⟩ := Nat.exists_eq_add_of_le' enough
        rw [← Nat.add_assoc,decodeLoop,round]
        rfl
      · constructor
        · intro impossible
          cases impossible
        · rintro ⟨_ | ⟨block,blocks⟩,listed,-⟩
          · cases last listed
          · cases first _ _ listed
    | ok outcome => cases outcome with
      | none =>
        refine ⟨.ok decoded,fun rounds enough => ?_,fun whole => ?_⟩
        · obtain ⟨rounds,rfl⟩ := Nat.exists_eq_add_of_le' enough
          rw [← Nat.add_assoc,decodeLoop,round]
          rfl
        · constructor
          · intro same
            cases same
            exact ⟨[],(blocks_nil_iff _).mpr (ended.mp rfl),(List.append_nil _).symm⟩
          · rintro ⟨_ | ⟨block,blocks⟩,listed,rfl⟩
            · rw [List.flatMap_nil,List.append_nil]
            · cases first _ _ listed
      | some pair =>
        obtain ⟨data,next⟩ := pair
        obtain ⟨block,sized,rfl,rfl,split⟩ := (taken data next).mp rfl
        have length := congrArg List.length split
        have size := block.length_bytes
        rw [List.length_append,List.length_drop,List.length_drop] at length
        obtain ⟨rest,reached,found⟩ := @ih (cursor + block.bytes.length) (by omega) (by omega) (decoded ++ block.data)
        refine ⟨rest,fun rounds enough => ?_,fun whole => ?_⟩
        · obtain ⟨rounds,rfl⟩ := Nat.exists_eq_add_of_le' enough
          rw [← Nat.add_assoc,decodeLoop,round]
          exact reached _ (Nat.le_add_left _ _)
        · rw [found]
          constructor
          · rintro ⟨blocks,listed,rfl⟩
            refine ⟨block::blocks,(blocks_cons_iff cursor block blocks).mpr ⟨sized,split,listed⟩,?_⟩
            rw [List.flatMap_cons,List.append_assoc]
          · rintro ⟨_ | ⟨other,blocks⟩,listed,rfl⟩
            · cases last listed
            · obtain ⟨-,-,later⟩ := (blocks_cons_iff cursor other blocks).mp listed
              have same := first _ _ listed
              simp only [Except.ok.injEq,Option.some.injEq,Prod.mk.injEq] at same
              rw [← same.2] at later
              exact ⟨blocks,later,by rw [List.flatMap_cons,same.1,List.append_assoc]⟩

end Rounds

/-! The encoder: each size is written with any digits that stand for it. -/

structure SizeText where
  digits : List Char
  extension : Option String
  deriving DecidableEq, Repr

namespace SizeText

def text (size : SizeText) : List Char :=
  size.digits ++ match size.extension with
    | none => []
    | some extension => ';'::extension.toList

def bytes (size : SizeText) : Bytes := asBytes (String.ofList size.text)

structure Writes (size : SizeText) (n : Nat) : Prop where
  digits : Digits 16 size.digits n
  unbroken : ∀ extension ∈ size.extension, ¬crlf <:+: asBytes extension

end SizeText

structure Chunk where
  size : SizeText
  data : Bytes
  filled : data ≠ []
  written : size.Writes data.length

def Chunk.bytes (chunk : Chunk) : Bytes := chunk.size.bytes ++ (crlf ++ (chunk.data ++ crlf))

/-- What follows the last size and its line break is the trailers and the end of the message. -/
def encode (chunks : List Chunk) (last : SizeText) (trailers : Bytes) : Bytes :=
  chunks.flatMap Chunk.bytes ++ (last.bytes ++ (crlf ++ trailers))

section Encoder

theorem crlf_infix_append {front rest : Bytes} (free : 13 ∉ front) (inside : crlf <:+: front ++ rest) : crlf <:+: rest := by
  induction front with
  | nil => exact inside
  | cons b front ih =>
    obtain ⟨other,free⟩ := not_or.mp (List.mem_cons.not.mp free)
    rcases List.infix_cons_iff.mp inside with ⟨tail,same⟩ | later
    · simp only [crlf,List.cons_append,List.cons.injEq] at same
      exact absurd same.1 other
    · exact ih free later

theorem no_return_in_digits {digits : List Char} {n : Nat} (held : Digits 16 digits n) :
    13 ∉ asBytes (String.ofList digits) := by
  have table : "0123456789abcdefABCDEF".toList.all (fun c => 13 ∉ String.utf8EncodeChar c) = true := by decide
  rw [asBytes_ofList]
  intro member
  obtain ⟨c,listed,byte⟩ := List.mem_flatMap.mp member
  exact of_decide_eq_true (List.all_eq_true.mp table c (hex_of_toDigit (held.all c listed))) byte

theorem SizeText.Writes.line {size : SizeText} {n : Nat} (writes : size.Writes n) : SizeLine size.bytes n := by
  have clean := no_return_in_digits writes.digits
  obtain ⟨digits,extension⟩ := size
  cases extension with
  | none =>
    refine ⟨⟨[],digits,[],?_,.inl rfl,writes.digits,.inl rfl⟩,fun inside => ?_⟩
    · rfl
    · have nothing : crlf <:+: [] := crlf_infix_append clean (by
        simpa [SizeText.bytes,SizeText.text] using inside)
      exact absurd nothing (by decide)
  | some extension =>
    refine ⟨⟨[],digits,';'::extension.toList,?_,.inl rfl,writes.digits,.inr ⟨_,rfl⟩⟩,fun inside => ?_⟩
    · rfl
    · rw [SizeText.bytes,SizeText.text,asBytes_append] at inside
      have behind := crlf_infix_append clean inside
      have separator : asBytes (String.ofList (';'::extension.toList)) = [59] ++ asBytes extension := by
        rw [← List.singleton_append,asBytes_append,String.ofList_toList]
        rfl
      rw [separator] at behind
      exact writes.unbroken extension rfl (crlf_infix_append (by decide) behind)

theorem blocks_encode (chunks : List Chunk) {last : SizeText} (ends : last.Writes 0) (trailers : Bytes) :
    Blocks (encode chunks last trailers) (chunks.map fun chunk => ⟨chunk.size.bytes,chunk.data⟩) := by
  refine ⟨fun block member => ?_,last.bytes,trailers,ends.line,?_⟩
  · obtain ⟨chunk,-,rfl⟩ := List.mem_map.mp member
    exact ⟨chunk.filled,chunk.written.line⟩
  · rw [encode,List.flatMap_map]
    rfl

/-- The decoder gives back the chunks of every encoding. Over every slice it comes to the same
end in any number of rounds that is enough, without a panic, and when it succeeds the blocks at
the front of the slice hold exactly what it has returned. -/
theorem decodeChunkedBody_encode (target : Target) (upstreamId : String) :
    (∀ (chunks : List Chunk) (last : SizeText) (trailers : Bytes) (body : target.Slice), last.Writes 0 →
      body.val = encode chunks last trailers → ∀ extra,
      decodeChunkedBody target upstreamId body.val (body.val.length + 1 + extra) = done (.ok (chunks.flatMap Chunk.data))) ∧
    ∀ body : target.Slice, ∃ result,
      (∀ extra, decodeChunkedBody target upstreamId body.val (body.val.length + 1 + extra) = done result) ∧
      ∀ whole, result = .ok whole → ∃ blocks, Blocks body.val blocks ∧ whole = blocks.flatMap Block.data := by
  have decoding (body : target.Slice) := @decodeLoop_done target upstreamId body.val body.property (body.val.length + 1) 0
    (Nat.zero_le _) (Nat.lt_succ_self _) []
  constructor
  · intro chunks last trailers body ends encoded extra
    obtain ⟨result,reached,found⟩ := decoding body
    rw [decodeChunkedBody,reached _ (Nat.le_add_right _ _)]
    congr 1
    refine (found _).mpr ⟨chunks.map fun chunk => ⟨chunk.size.bytes,chunk.data⟩,?_,?_⟩
    · rw [List.drop_zero,encoded]
      exact blocks_encode chunks ends trailers
    · rw [List.nil_append,List.flatMap_map]
  · intro body
    obtain ⟨result,reached,found⟩ := decoding body
    exact ⟨result,fun extra => reached _ (Nat.le_add_right _ _),fun whole same => (found whole).mp same⟩

end Encoder

end Dynet.Dns.Chunked
