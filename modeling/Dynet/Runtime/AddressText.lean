import Dynet.Lib.Radix
import Dynet.Runtime.Net

/-! The text of an address is read back as the address: what is printed fits the grammar
of the parsers, which take all of it and stop where it ends. -/
namespace Dynet.Runtime
open Dynet.Lib

namespace Parse

/-- No digit stands at the front. -/
def Stops (radix : Nat) (rest : List Char) : Prop := ∀ c ∈ rest.head?, digit radix c = none

theorem stops_nil (radix : Nat) : Stops radix [] := by simp [Stops]

theorem stops_cons {radix : Nat} {c : Char} (other : digit radix c = none) (rest : List Char) : Stops radix (c::rest) := by
  simpa [Stops] using other

section Numbers
variable {radix : Nat} {rest : List Char}

theorem digit_digitChar (hex : radix ≤ 16) {d : Nat} (small : d < radix) : digit radix (Nat.digitChar d) = some d := by
  have all : ∀ radix ≤ 16, ∀ d < radix, digit radix (Nat.digitChar d) = some d := by decide
  exact all radix hex d small

theorem digits_stops (limit : Option Nat) (seen : List Nat) (stops : Stops radix rest) :
    digits radix limit seen rest = some (seen,rest) := by
  cases rest with
  | nil => rfl
  | cons c rest =>
    have other : digit radix c = none := stops c (by simp)
    simp only [digits,other]

theorem digits_append (hex : radix ≤ 16) (limit : Option Nat) (seen : List Nat) {numbers : List Nat}
    (bounded : ∀ d ∈ numbers, d < radix) (short : ∀ most ∈ limit, seen.length + numbers.length ≤ most) (stops : Stops radix rest) :
    digits radix limit seen (numbers.map Nat.digitChar ++ rest) = some (seen ++ numbers,rest) := by
  induction numbers generalizing seen with
  | nil => simpa using digits_stops limit seen stops
  | cons d numbers ih =>
    obtain ⟨small,bounded⟩ := List.forall_mem_cons.mp bounded
    have room : limit.any (fun most => seen.length ≥ most) = false := by
      cases limit with
      | none => rfl
      | some most =>
        have fits := short most rfl
        rw [List.length_cons] at fits
        simp only [Option.any_some,decide_eq_false_iff_not]
        omega
    have more := ih (seen ++ [d]) bounded fun most within => by
      have fits := short most within
      rw [List.length_cons] at fits
      rw [List.length_append,List.length_singleton]
      omega
    simp only [List.map_cons,List.cons_append,digits,digit_digitChar hex small,room,Bool.false_eq_true,if_false,more]
    simp

theorem number_toDigits (base : 1 < radix) (hex : radix ≤ 16) {bound n : Nat} (small : n < bound) {limit : Option Nat}
    (short : ∀ most ∈ limit, (Nat.toDigits radix n).length ≤ most) (zeroPrefix : Bool) (stops : Stops radix rest) :
    number radix bound limit zeroPrefix (Nat.toDigits radix n ++ rest) = some (n,rest) := by
  obtain ⟨numbers,written,bounded,value,front⟩ := Radix.toDigits_shape base n
  have filled : numbers ≠ [] := by
    rintro rfl
    exact absurd written Nat.toDigits_ne_nil
  rw [written] at short ⊢
  have taken := digits_append hex limit [] bounded (fun most within => by simpa using short most within) stops
  rw [number,taken]
  simp only [Option.bind_eq_bind,Option.bind_some,List.nil_append,value]
  rw [if_neg,if_neg]
  · rintro ⟨-,zero,long⟩
    rw [front zero] at long
    simp at long
  · rintro (empty | past)
    · exact filled (List.isEmpty_iff.mp empty)
    · omega

theorem number_stops {bound : Nat} {limit : Option Nat} {zeroPrefix : Bool} (stops : Stops radix rest) :
    number radix bound limit zeroPrefix rest = none := by
  rw [number,digits_stops limit [] stops]
  rfl

theorem digits_rest {limit : Option Nat} {seen taken : List Nat} {input : List Char}
    (read : digits radix limit seen input = some (taken,rest)) : rest = input.dropWhile fun c => (digit radix c).isSome := by
  induction input generalizing seen with
  | nil =>
    cases read
    rfl
  | cons c input ih =>
    rw [digits] at read
    rw [List.dropWhile_cons]
    cases here : digit radix c with
    | none =>
      rw [here] at read
      cases read
      rfl
    | some d =>
      rw [here] at read
      dsimp only at read
      split at read
      · cases read
      · exact ih read

theorem number_rest {bound n : Nat} {limit : Option Nat} {zeroPrefix : Bool} {input : List Char}
    (read : number radix bound limit zeroPrefix input = some (n,rest)) : rest = input.dropWhile fun c => (digit radix c).isSome := by
  rw [number] at read
  obtain ⟨⟨taken,left⟩,seen,read⟩ := Option.bind_eq_some_iff.mp read
  dsimp only at read
  split at read
  · cases read
  · split at read
    · cases read
    · cases read
      exact digits_rest seen

end Numbers

theorem separated_zero {α : Type} (separator : Char) (inner : List Char → Option (α × List Char)) (input : List Char) :
    separated separator 0 inner input = inner input := rfl

theorem separated_succ {α : Type} (separator : Char) (index : Nat) (inner : List Char → Option (α × List Char)) (input : List Char) :
    separated separator (index + 1) inner (separator::input) = inner input := by
  simp [separated,given]

theorem separated_other {α : Type} {separator : Char} {index : Nat} (later : 0 < index) (inner : List Char → Option (α × List Char))
    {input : List Char} (other : input.head? ≠ some separator) : separated separator index inner input = none := by
  rw [separated,if_pos later]
  cases input with
  | nil => rfl
  | cons c rest =>
    have apart : c ≠ separator := by simpa using other
    simp [given,apart]

end Parse

section V4
open Parse

theorem display_ipv4 (address : BitVec 32) : (Display.ipv4 address).toList =
    Nat.toDigits 10 (address.toNat / 2^24) ++ '.'::(Nat.toDigits 10 (address.toNat / 2^16 % 256) ++
      '.'::(Nat.toDigits 10 (address.toNat / 2^8 % 256) ++ '.'::Nat.toDigits 10 (address.toNat % 256))) := by
  simp [Display.ipv4,toString]

theorem octet_digits {n : Nat} (small : n < 256) : ∀ most ∈ some 3, (Nat.toDigits 10 n).length ≤ most := by
  rintro most ⟨⟩
  rw [Nat.length_toDigits_le_iff (by decide) (by decide)]
  omega

theorem parse_ipv4 (address : BitVec 32) {rest : List Char} (stops : Stops 10 rest) :
    Parse.ipv4 ((Display.ipv4 address).toList ++ rest) = some (address,rest) := by
  have small := address.isLt
  have dot (more : List Char) : Stops 10 ('.'::more) := stops_cons (by decide) more
  have first : address.toNat / 2^24 < 256 := by omega
  have second : address.toNat / 2^16 % 256 < 256 := Nat.mod_lt _ (by decide)
  have third : address.toNat / 2^8 % 256 < 256 := Nat.mod_lt _ (by decide)
  have fourth : address.toNat % 256 < 256 := Nat.mod_lt _ (by decide)
  have whole : ((address.toNat / 2^24 * 256 + address.toNat / 2^16 % 256) * 256 + address.toNat / 2^8 % 256) * 256 +
      address.toNat % 256 = address.toNat := by omega
  rw [display_ipv4]
  simp only [List.append_assoc,List.cons_append,Parse.ipv4,separated_zero,separated_succ _ 0,separated_succ _ 1,separated_succ _ 2,
    number_toDigits (by decide) (by decide) first (octet_digits first) false (dot _),
    number_toDigits (by decide) (by decide) second (octet_digits second) false (dot _),
    number_toDigits (by decide) (by decide) third (octet_digits third) false (dot _),
    number_toDigits (by decide) (by decide) fourth (octet_digits fourth) false stops,Option.bind_eq_bind,Option.bind_some,whole,
    BitVec.ofNat_toNat]
  simp

end V4

section V6
open Parse

/-- What may follow a group of an address. -/
def GroupEnds (rest : List Char) : Prop := ∀ c ∈ rest.head?, c = ':' ∨ c = ']' ∨ c = '%'

/-- What may follow an address. -/
def AddressEnds (rest : List Char) : Prop := ∀ c ∈ rest.head?, c = ']' ∨ c = '%'

theorem AddressEnds.group {rest : List Char} (ends : AddressEnds rest) : GroupEnds rest :=
  fun c first => .inr (ends c first)

theorem GroupEnds.stops {rest : List Char} (ends : GroupEnds rest) {radix : Nat} (used : radix = 10 ∨ radix = 16) : Stops radix rest := by
  intro c first
  rcases used with rfl | rfl <;> rcases ends c first with rfl | rfl | rfl <;> decide

theorem groupEnds_colon (rest : List Char) : GroupEnds (':'::rest) := by simp [GroupEnds]

/-- Text without a dot behind the digits at its front is no address. -/
theorem parse_ipv4_none {text rest : List Char} (free : '.' ∉ text) (stops : Stops 10 rest) (other : rest.head? ≠ some '.') :
    Parse.ipv4 (text ++ rest) = none := by
  have dotless : ((text ++ rest).dropWhile fun c => (digit 10 c).isSome).head? ≠ some '.' := by
    induction text with
    | nil =>
      cases rest with
      | nil => simp
      | cons c rest =>
        have ended : digit 10 c = none := stops c (by simp)
        simpa [List.dropWhile_cons,ended] using other
    | cons c text ih =>
      rw [List.cons_append,List.dropWhile_cons]
      split
      · exact ih fun member => free (List.mem_cons_of_mem _ member)
      · rw [List.head?_cons,Option.some_inj.ne]
        exact fun same => free (same ▸ List.mem_cons_self)
  unfold Parse.ipv4
  simp only [Option.bind_eq_bind,separated_zero]
  cases read : number 10 256 (some 3) false (text ++ rest) with
  | none => rfl
  | some first =>
    obtain ⟨n,left⟩ := first
    rw [← number_rest read] at dotless
    simp only [Option.bind_some,separated_other Nat.one_pos _ dotless,Option.bind_none]

theorem hextet_dotless (word : Nat) : '.' ∉ Nat.toDigits 16 word := by
  intro member
  have digit := (Radix.digits_toDigits (by decide : 1 < 16) (by decide) word).all _ member
  exact absurd digit (by decide)

theorem hextet_digits {word : Nat} (small : word < 65536) : ∀ most ∈ some 4, (Nat.toDigits 16 word).length ≤ most := by
  rintro most ⟨⟩
  rw [Nat.length_toDigits_le_iff (by decide) (by decide)]
  exact small

/-- Groups behind the first one, each after its colon. -/
def colons (words : List Nat) : List Char := words.flatMap fun word => ':'::Nat.toDigits 16 word

theorem hextets_cons (word : Nat) (words : List Nat) :
    (Display.hextets (word::words)).toList = Nat.toDigits 16 word ++ colons words := by
  rw [Display.hextets,String.toList_intercalate]
  induction words generalizing word with
  | nil => simp [colons]
  | cons next words ih =>
    have rest := ih next
    simp only [List.map_cons,String.toList_ofList,colons,List.flatMap_cons] at rest ⊢
    rw [List.intercalate_cons_cons,rest]
    simp

theorem colons_ends (words : List Nat) {rest : List Char} (ends : GroupEnds rest) : GroupEnds (colons words ++ rest) := by
  cases words with
  | nil => exact ends
  | cons word words => exact groupEnds_colon _

/-- No further group: the end of the address, or the two colons of a gap. -/
def NoGroup (rest : List Char) : Prop := ∀ more, rest = ':'::more → more.head? = some ':'

theorem noGroup_gap (rest : List Char) : NoGroup (':'::(':'::rest)) := by
  rintro more ⟨⟩
  rfl

theorem AddressEnds.noGroup {rest : List Char} (ends : AddressEnds rest) : NoGroup rest := by
  rintro more rfl
  rcases ends ':' (by simp) with impossible | impossible <;> cases impossible

section Groups
variable {limit : Nat} {rest : List Char}

theorem hextet_read {word : Nat} (fits : word < 65536) (words : List Nat) (ends : GroupEnds rest) :
    Parse.ipv4 (Nat.toDigits 16 word ++ (colons words ++ rest)) = none ∧
      number 16 65536 (some 4) true (Nat.toDigits 16 word ++ (colons words ++ rest)) = some (word,colons words ++ rest) := by
  have behind := colons_ends words ends
  refine ⟨parse_ipv4_none (hextet_dotless word) (behind.stops (.inl rfl)) fun dot => ?_,
    number_toDigits (by decide) (by decide) fits (hextet_digits fits) true (behind.stops (.inr rfl))⟩
  rcases behind '.' (by rw [dot]; rfl) with impossible | impossible | impossible <;> cases impossible

theorem group_none {index : Nat} (later : 0 < index) (ends : GroupEnds rest) (last : NoGroup rest) :
    separated ':' index Parse.ipv4 rest = none ∧ separated ':' index (number 16 65536 (some 4) true) rest = none := by
  cases rest with
  | nil => exact ⟨separated_other later _ (by simp),separated_other later _ (by simp)⟩
  | cons c more =>
    by_cases colon : c = ':'
    · obtain ⟨index,rfl⟩ := Nat.exists_eq_succ_of_ne_zero (Nat.pos_iff_ne_zero.mp later)
      subst colon
      obtain ⟨more,rfl⟩ : ∃ tail, more = ':'::tail := List.head?_eq_some_iff.mp (last more rfl)
      rw [separated_succ,separated_succ]
      have stops (radix : Nat) (used : radix = 10 ∨ radix = 16) : Stops radix (':'::more) := (groupEnds_colon more).stops used
      exact ⟨@parse_ipv4_none [] _ List.not_mem_nil (stops 10 (.inl rfl)) (by simp),number_stops (stops 16 (.inr rfl))⟩
    · have other : (c::more).head? ≠ some ':' := by simpa using colon
      exact ⟨separated_other later _ other,separated_other later _ other⟩

theorem groups_end {fuel index : Nat} (later : 0 < index) (ends : GroupEnds rest) (last : fuel = 0 ∨ NoGroup rest) :
    groups limit fuel index rest = ([],false,rest) := by
  cases fuel with
  | zero => rfl
  | succ fuel =>
    obtain ⟨embedded,single⟩ := group_none later ends (last.resolve_left (Nat.succ_ne_zero fuel))
    rw [groups,embedded,single]
    simp

theorem groups_colons {words : List Nat} (small : ∀ word ∈ words, word < 65536) (ends : GroupEnds rest) {fuel index : Nat}
    (later : 0 < index) (room : words.length ≤ fuel) (last : words.length = fuel ∨ NoGroup rest) :
    groups limit fuel index (colons words ++ rest) = (words,false,rest) := by
  induction words generalizing fuel index with
  | nil => exact groups_end later ends (last.imp_left Eq.symm)
  | cons word words ih =>
    obtain ⟨fits,small⟩ := List.forall_mem_cons.mp small
    obtain ⟨fuel,rfl⟩ : ∃ less, fuel = less + 1 := ⟨fuel - 1,by rw [List.length_cons] at room; omega⟩
    obtain ⟨index,rfl⟩ := Nat.exists_eq_succ_of_ne_zero (Nat.pos_iff_ne_zero.mp later)
    rw [List.length_cons,Nat.add_le_add_iff_right] at room
    rw [List.length_cons,Nat.add_right_cancel_iff] at last
    obtain ⟨plain,read⟩ := hextet_read fits words ends
    have text : colons (word::words) ++ rest = ':'::(Nat.toDigits 16 word ++ (colons words ++ rest)) := by
      simp [colons]
    rw [groups,text,separated_succ,separated_succ,plain,read,ite_self]
    simp only [ih small (Nat.succ_pos _) room last]

theorem groups_hextets {words : List Nat} (small : ∀ word ∈ words, word < 65536) (ends : GroupEnds rest) {fuel : Nat}
    (room : words.length ≤ fuel) (last : words.length = fuel ∨ NoGroup rest) (some : words = [] → Stops 16 rest ∧ Parse.ipv4 rest = none) :
    groups limit fuel 0 ((Display.hextets words).toList ++ rest) = (words,false,rest) := by
  cases words with
  | nil =>
    obtain ⟨stops,plain⟩ := some rfl
    cases fuel with
    | zero => rfl
    | succ fuel =>
      have text : (Display.hextets []).toList ++ rest = rest := by simp [Display.hextets]
      rw [text,groups,separated_zero,separated_zero,plain,number_stops stops,ite_self]
  | cons word words =>
    obtain ⟨fits,small⟩ := List.forall_mem_cons.mp small
    obtain ⟨fuel,rfl⟩ : ∃ less, fuel = less + 1 := ⟨fuel - 1,by rw [List.length_cons] at room; omega⟩
    rw [List.length_cons,Nat.add_le_add_iff_right] at room
    rw [List.length_cons,Nat.add_right_cancel_iff] at last
    obtain ⟨plain,read⟩ := hextet_read fits words ends
    rw [hextets_cons,List.append_assoc,groups,separated_zero,separated_zero,plain,read,ite_self]
    simp only [groups_colons small ends Nat.one_pos room last]

end Groups

section Gap
variable {words : List Nat}

/-- Start and length of a stretch of zeroes. -/
def ZeroRun (words : List Nat) (run : Nat × Nat) : Prop :=
  run.1 + run.2 ≤ words.length ∧ ∀ i, run.1 ≤ i → i < run.1 + run.2 → words[i]? = some 0

theorem longestZeroes_run {rest : List Nat} {index : Nat} {longest current : Nat × Nat} (left : words.drop index = rest)
    (most : ZeroRun words longest) (here : ZeroRun words current) (reaches : current.2 = 0 ∨ current.1 + current.2 = index) :
    ZeroRun words (Display.longestZeroes index longest current rest) := by
  induction rest generalizing index longest current with
  | nil => exact most
  | cons word rest ih =>
    have place : words[index]? = some word := by rw [← List.head?_drop,left,List.head?_cons]
    have inside : index < words.length := (List.getElem?_eq_some_iff.mp place).1
    have next : words.drop (index + 1) = rest := by rw [← List.drop_drop,left,List.drop_one,List.tail_cons]
    rw [Display.longestZeroes]
    split
    · rename_i zero
      rw [zero] at place
      let longer := if current.2 = 0 then (index,1) else (current.1,current.2 + 1)
      have grown : ZeroRun words longer ∧ longer.1 + longer.2 = index + 1 := by
        unfold longer
        split
        · refine ⟨⟨by dsimp only; omega,fun i low high => ?_⟩,rfl⟩
          have same : i = index := by dsimp only at low high; omega
          rw [same,place]
        · rename_i some
          have joins := reaches.resolve_left some
          refine ⟨⟨by dsimp only; omega,fun i low high => ?_⟩,by dsimp only; omega⟩
          dsimp only at low high
          by_cases last : i = index
          · rw [last,place]
          · exact here.2 i low (by omega)
      refine ih next ?_ grown.1 (.inr grown.2)
      change ZeroRun words (if longer.2 > longest.2 then longer else longest)
      split
      · exact grown.1
      · exact most
    · exact ih next most ⟨Nat.zero_le _,fun i _ high => absurd high (Nat.not_lt_zero i)⟩ (.inl rfl)

theorem longestZeroes_zeroes (words : List Nat) : ZeroRun words (Display.longestZeroes 0 (0,0) (0,0) words) := by
  have none : ZeroRun words (0,0) := ⟨Nat.zero_le _,fun i _ high => absurd high (Nat.not_lt_zero i)⟩
  exact longestZeroes_run List.drop_zero none none (.inl rfl)

theorem split_run {start length : Nat} (run : ZeroRun words (start,length)) :
    words = words.take start ++ List.replicate length 0 ++ words.drop (start + length) := by
  obtain ⟨inside,zero⟩ := run
  dsimp only at inside zero
  have middle : (words.drop start).take length = List.replicate length 0 := by
    refine List.eq_replicate_iff.mpr ⟨by rw [List.length_take,List.length_drop]; omega,fun word member => ?_⟩
    obtain ⟨i,located⟩ := List.mem_iff_getElem?.mp member
    rw [List.getElem?_take,List.getElem?_drop] at located
    split at located
    · rw [zero (start + i) (by omega) (by omega)] at located
      exact (Option.some.inj located).symm
    · cases located
  rw [← middle,List.append_assoc,← List.drop_drop,List.take_append_drop,List.take_append_drop]

end Gap

section Words
variable (address : BitVec 128)

def wordsValue (words : List Nat) : BitVec 128 := BitVec.ofNat 128 (words.foldl (fun value word => value * 65536 + word) 0)

theorem segments_length : (Display.segments address).length = 8 := by simp [Display.segments]

theorem segments_small : ∀ word ∈ Display.segments address, word < 65536 := by
  intro word member
  obtain ⟨i,-,rfl⟩ := List.mem_map.mp member
  exact Nat.mod_lt _ (by decide)

theorem fold_segments (n k : Nat) :
    ((List.range k).map fun i => n / 65536 ^ (k - 1 - i) % 65536).foldl (fun value word => value * 65536 + word) 0 = n % 65536 ^ k := by
  induction k generalizing n with
  | zero => simp [Nat.mod_one]
  | succ k ih =>
    have front : (List.range k).map (fun i => n / 65536 ^ (k + 1 - 1 - i) % 65536) =
        (List.range k).map fun i => n / 65536 / 65536 ^ (k - 1 - i) % 65536 := by
      refine List.map_congr_left fun i member => ?_
      have less := List.mem_range.mp member
      rw [Nat.div_div_eq_div_mul,← Nat.pow_succ',show k + 1 - 1 - i = k - 1 - i + 1 by omega]
    have last : k + 1 - 1 - k = 0 := by omega
    rw [List.range_succ,List.map_append,front,List.foldl_append,ih,List.map_singleton,List.foldl_cons,List.foldl_nil,last,
      Nat.pow_zero,Nat.div_one,Nat.pow_succ',Nat.mod_mul]
    omega

theorem wordsValue_segments : wordsValue (Display.segments address) = address := by
  have bound := address.isLt
  have all : 65536 ^ 8 = 2 ^ 128 := by decide
  rw [wordsValue,Display.segments,fold_segments address.toNat 8,all,Nat.mod_eq_of_lt bound,BitVec.ofNat_toNat,BitVec.setWidth_eq]

end Words

section Printed
variable {rest : List Char}

theorem ipv6_whole {input : List Char} {words : List Nat} (full : words.length = 8) (read : groups 8 8 0 input = (words,false,rest)) :
    Parse.ipv6 input = some (wordsValue words,rest) := by
  simp [Parse.ipv6,read,full,wordsValue]

theorem ipv6_gap {input more : List Char} {head tail : List Nat} {embedded : Bool} (short : head.length < 8)
    (front : groups 8 8 0 input = (head,false,':'::(':'::more)))
    (back : groups (8 - (head.length + 1)) (8 - (head.length + 1)) 0 more = (tail,embedded,rest)) :
    Parse.ipv6 input = some (wordsValue (head ++ List.replicate (8 - head.length - tail.length) 0 ++ tail),rest) := by
  simp only [Parse.ipv6,front,Nat.ne_of_lt short,if_false,Bool.false_eq_true,given,if_true,Option.bind_eq_bind,Option.bind_some,back]
  rfl

/-- Nothing to read in front of a gap or at the end of an address. -/
theorem nothing_read (ends : GroupEnds rest) : Stops 16 rest ∧ Parse.ipv4 rest = none := by
  have stops := ends.stops (.inl rfl : (10 : Nat) = 10 ∨ 10 = 16)
  refine ⟨ends.stops (.inr rfl),@parse_ipv4_none [] _ List.not_mem_nil stops fun dot => ?_⟩
  rcases ends '.' (by rw [dot]; rfl) with impossible | impossible | impossible <;> cases impossible

theorem ipv4_hextets {words : List Nat} (small : ∀ word ∈ words, word < 65536) (ends : GroupEnds rest) :
    Parse.ipv4 ((Display.hextets words).toList ++ rest) = none := by
  cases words with
  | nil => simpa [Display.hextets] using (nothing_read ends).2
  | cons word words =>
    rw [hextets_cons,List.append_assoc]
    exact (hextet_read (small word List.mem_cons_self) words ends).1

theorem hextets_nil : (Display.hextets []).toList = [] := by simp [Display.hextets]

theorem parse_mapped (address : BitVec 32) (ends : AddressEnds rest) :
    Parse.ipv6 ("::ffff:".toList ++ (Display.ipv4 address).toList ++ rest) =
      some (wordsValue [0,0,0,0,0,0xffff,address.toNat / 65536,address.toNat % 65536],rest) := by
  let more := ':'::((Display.ipv4 address).toList ++ rest)
  have text : "::ffff:".toList ++ (Display.ipv4 address).toList ++ rest = ':'::(':'::(Nat.toDigits 16 0xffff ++ more)) := by
    simp [more,Nat.toDigits_of_base_le,Nat.toDigits_of_lt_base,Nat.digitChar]
  have front : groups 8 8 0 (':'::(':'::(Nat.toDigits 16 0xffff ++ more))) =
      ([],false,':'::(':'::(Nat.toDigits 16 0xffff ++ more))) := by
    have none := groupEnds_colon (':'::(Nat.toDigits 16 0xffff ++ more))
    have read := @groups_hextets 8 _ [] (by simp) none 8 (Nat.zero_le _) (.inr (noGroup_gap _)) fun _ => nothing_read none
    rwa [hextets_nil,List.nil_append] at read
  have back : groups 7 7 0 (Nat.toDigits 16 0xffff ++ more) = ([0xffff,address.toNat / 65536,address.toNat % 65536],true,rest) := by
    obtain ⟨plain,read⟩ := @hextet_read more 0xffff (by decide) [] (groupEnds_colon _)
    rw [colons,List.flatMap_nil,List.nil_append] at plain read
    have inner := parse_ipv4 address (ends.group.stops (.inl rfl))
    have second : groups 7 6 1 more = ([address.toNat / 65536,address.toNat % 65536],true,rest) := by
      rw [groups,separated_succ,inner]
      rfl
    rw [groups,separated_zero,separated_zero,plain,read,ite_self]
    simp only [second]
  rw [text,ipv6_gap (by decide) front back]
  rfl

theorem parse_ipv6 (address : BitVec 128) (ends : AddressEnds rest) :
    Parse.ipv6 ((Display.ipv6 address).toList ++ rest) = some (address,rest) := by
  have small := segments_small address
  have full := segments_length address
  have value := wordsValue_segments address
  rw [Display.ipv6]
  dsimp only
  split
  · rename_i mapped
    have words : Display.segments address =
        [0,0,0,0,0,0xffff,(address.setWidth 32).toNat / 65536,(address.setWidth 32).toNat % 65536] := by
      have low : (Display.segments address).drop 6 = [(address.setWidth 32).toNat / 65536,(address.setWidth 32).toNat % 65536] := by
        rw [BitVec.toNat_setWidth]
        simp [Display.segments,List.range_succ]
        omega
      rw [← List.take_append_drop 6 (Display.segments address),mapped,low]
      rfl
    have read := parse_mapped (address.setWidth 32) ends
    rw [← words,value] at read
    simpa [toString] using read
  · have run := longestZeroes_zeroes (Display.segments address)
    generalize Display.longestZeroes 0 (0,0) (0,0) (Display.segments address) = zeroes at run ⊢
    obtain ⟨start,length⟩ := zeroes
    dsimp only
    split
    · rename_i long
      have inside : start + length ≤ 8 := full ▸ run.1
      let head := (Display.segments address).take start
      let tail := (Display.segments address).drop (start + length)
      have headLength : head.length = start := by rw [List.length_take,full]; omega
      have tailLength : tail.length = 8 - start - length := by rw [List.length_drop,full]; omega
      have gap := groupEnds_colon (':'::((Display.hextets tail).toList ++ rest))
      have front := @groups_hextets 8 _ head (fun word member => small word (List.mem_of_mem_take member)) gap 8 (by omega)
        (.inr (noGroup_gap _)) fun _ => nothing_read gap
      have back := @groups_hextets (8 - (head.length + 1)) _ tail (fun word member => small word (List.mem_of_mem_drop member)) ends.group
        (8 - (head.length + 1)) (by omega) (.inr ends.noGroup) fun _ => nothing_read ends.group
      have read := ipv6_gap (by omega) front back
      have zeroes : 8 - head.length - tail.length = length := by omega
      rw [zeroes,← split_run run,value] at read
      rw [← read]
      simp [toString,head,tail]
    · have read := @groups_hextets 8 _ _ small ends.group 8 (Nat.le_of_eq full) (.inl full) fun none => by
        rw [none] at full
        cases full
      rw [ipv6_whole full read,value]

theorem ipv4_ipv6 (address : BitVec 128) : Parse.ipv4 (Display.ipv6 address).toList = none := by
  have small := segments_small address
  have gap (more : List Char) := groupEnds_colon (':'::more)
  rw [Display.ipv6]
  dsimp only
  split
  · have none := (nothing_read (gap ("ffff:".toList ++ (Display.ipv4 (address.setWidth 32)).toList))).2
    simpa [toString] using none
  · generalize Display.longestZeroes 0 (0,0) (0,0) (Display.segments address) = run
    split
    · have front : ∀ word ∈ (Display.segments address).take run.1, word < 65536 :=
        fun word member => small word (List.mem_of_mem_take member)
      have none := ipv4_hextets front (gap (Display.hextets ((Display.segments address).drop (run.1 + run.2))).toList)
      simpa [toString] using none
    · simpa using @ipv4_hextets [] _ small (by simp [GroupEnds])

end Printed
end V6

section Addresses
open Parse

/-- The text of an address is read back as that address. -/
theorem parse_ipAddr (address : IpAddr) : Parse.ipAddr (Display.ipAddr address) = some address := by
  cases address with
  | v4 bits =>
    have read := parse_ipv4 bits (stops_nil 10)
    rw [List.append_nil] at read
    simp [Parse.ipAddr,Display.ipAddr,read,whole]
  | v6 bits =>
    have read := @parse_ipv6 [] bits (by simp [AddressEnds])
    rw [List.append_nil] at read
    simp [Parse.ipAddr,Display.ipAddr,ipv4_ipv6,read,whole]

theorem parse_port (port : UInt16) : portSuffix (':'::Nat.toDigits 10 port.toNat) = some (port,[]) := by
  have read := @number_toDigits 10 [] (by decide) (by decide) 65536 port.toNat port.toNat_lt none (by simp) true (stops_nil 10)
  rw [List.append_nil] at read
  simp [portSuffix,given,read]

theorem parse_scope (scope : UInt32) (rest : List Char) :
    scopeSuffix ('%'::(Nat.toDigits 10 scope.toNat ++ ']'::rest)) = some (scope,']'::rest) := by
  have read := @number_toDigits 10 (']'::rest) (by decide) (by decide) (2^32) scope.toNat scope.toNat_lt none (by simp) true
    (stops_cons (by decide) rest)
  simp [scopeSuffix,given,read]

/-- The text of a socket address is read back as that address when it has no flow information. -/
theorem parse_socketAddr (address : SocketAddr) (plain : ∀ bits port flowinfo scope, address = .v6 bits port flowinfo scope → flowinfo = 0) :
    Parse.socketAddr (Display.socketAddr address) = some address := by
  cases address with
  | v4 bits port =>
    have read := parse_ipv4 bits (stops_cons (by decide : digit 10 ':' = none) (Nat.toDigits 10 port.toNat))
    simp [Parse.socketAddr,Display.socketAddr,socketV4,toString,read,parse_port,whole]
  | v6 bits port flowinfo scope =>
    cases plain bits port flowinfo scope rfl
    have other (more : List Char) : Parse.ipv4 ('['::more) = none :=
      @parse_ipv4_none [] _ List.not_mem_nil (stops_cons (by decide) more) (by simp)
    rw [Display.socketAddr]
    split
    · rename_i zero
      have read := parse_ipv6 bits (by simp [AddressEnds] : AddressEnds (']'::(':'::Nat.toDigits 10 port.toNat)))
      simp [Parse.socketAddr,socketV4,socketV6,toString,other,given,read,parse_port,whole,zero,scopeSuffix]
    · have read := parse_ipv6 bits (by simp [AddressEnds] :
        AddressEnds ('%'::(Nat.toDigits 10 scope.toNat ++ ']'::(':'::Nat.toDigits 10 port.toNat))))
      simp [Parse.socketAddr,socketV4,socketV6,toString,other,given,read,parse_port,parse_scope,whole]

end Addresses
end Dynet.Runtime
