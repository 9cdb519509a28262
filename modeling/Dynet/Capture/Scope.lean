import Dynet.Runtime.Model
import Dynet.Lib.Checks
import Dynet.Lib.Words

/-! The traffic scope of a hook: an interface and the source prefixes behind it, with the
characters that a validated scope can hold. -/
namespace Dynet.Capture
open Dynet.Runtime Dynet.Lib Dynet.Lib.Checks

def maxSourceSelectors : Nat := 64

inductive IpVersion where
  | v4 | v6
  deriving DecidableEq, Repr

structure TrafficScope where
  interface : String
  ipv4Sources : List String
  ipv6Sources : List String
  deriving DecidableEq, Repr

def interfaceChar (c : Char) : Bool := c.isAlphanum || "_.:-".toList.contains c

def validateInterface (interface : String) : Except String Unit :=
  ensure (interface ≠ "" ∧ interface.utf8ByteSize ≤ 15 ∧ interface.toList.all interfaceChar = true)
    "traffic scope interface must be a 1-15 character Linux interface name using letters, digits, _, ., :, or -"

/-- The `Display` of the error of `str::parse::<u8>`. -/
def parseU8Error (text : String) : String :=
  let body := match text.toList with
    | '+'::rest => rest
    | rest => rest
  if text = "" then "cannot parse integer from empty string"
  else if body ≠ [] ∧ body.all (·.isDigit) = true then "number too large to fit in target type"
  else "invalid digit found in string"

/-- The leading `length` bits of an address, the others cleared. -/
def network (w : Nat) (address : BitVec w) (length : Nat) : BitVec w :=
  address &&& (if length = 0 then 0 else BitVec.allOnes w <<< (w - length))

def hostBitsError (label source canonical : String) (length : Nat) : String :=
  s!"traffic scope {label} source {debug source} has host bits set; use {canonical}/{length}"

def requireCanonicalV4 (label source : String) (address : BitVec 32) (length : Nat) : Except String Unit :=
  ensure (network 32 address length = address)
    (hostBitsError label source (Display.ipv4 (network 32 address length)) length)

def requireCanonicalV6 (label source : String) (address : BitVec 128) (length : Nat) : Except String Unit :=
  ensure (network 128 address length = address)
    (hostBitsError label source (Display.ipv6 (network 128 address length)) length)

def validateSource (label source : String) (family : IpVersion) : Except String Unit := do
  let (address,length) ← need (splitOnce '/' source.toList) s!"traffic scope {label} source {debug source} must be a CIDR"
  let address ← need (Parse.ipAddr (String.ofList address))
    s!"traffic scope {label} source {debug source} has an invalid address: invalid IP address syntax"
  let lengthFault := parseU8Error (String.ofList length)
  let length ← need (Parse.u8 (String.ofList length))
    s!"traffic scope {label} source {debug source} has an invalid prefix: {lengthFault}"
  match family,address with
  | .v4,.v4 bits =>
    if length ≤ 32 then requireCanonicalV4 label source bits length
    else throw s!"traffic scope {label} source {debug source} has an out-of-range prefix"
  | .v6,.v6 bits =>
    if length ≤ 128 then requireCanonicalV6 label source bits length
    else throw s!"traffic scope {label} source {debug source} has an out-of-range prefix"
  | .v4,.v6 _ => throw s!"traffic scope {label} source {debug source} must be IPv4"
  | .v6,.v4 _ => throw s!"traffic scope {label} source {debug source} must be IPv6"

def validateSources (label : String) (sources : List String) (family : IpVersion) : Except String Unit := do
  ensure (sources.length ≤ maxSourceSelectors)
    s!"traffic scope accepts at most {maxSourceSelectors} {label} source CIDRs"
  let _ ← insertAll id (validateSource label · family)
    (fun source => s!"traffic scope contains duplicate {label} source CIDR {source}") [] sources

def TrafficScope.validate (scope : TrafficScope) (ipv6Enabled : Bool) : Except String Unit := do
  validateInterface scope.interface
  validateSources "IPv4" scope.ipv4Sources .v4
  validateSources "IPv6" scope.ipv6Sources .v6
  ensure (scope.ipv4Sources ≠ []) "traffic scope requires at least one IPv4 source CIDR"
  ensure (ipv6Enabled = true → scope.ipv6Sources ≠ [])
    "IPv6-enabled traffic scope requires at least one IPv6 source CIDR"

/-- The prefix that a source denotes. -/
def denoted (source : String) : Option (IpAddr × Nat) := do
  let (address,length) ← splitOnce '/' source.toList
  return (← Parse.ipAddr (String.ofList address),← Parse.u8 (String.ofList length))

def version : IpAddr → IpVersion
  | .v4 _ => .v4
  | .v6 _ => .v6

def hostLength : IpAddr → Nat
  | .v4 _ => 32
  | .v6 _ => 128

def hostLengthText : IpVersion → String
  | .v4 => "32"
  | .v6 => "128"

/-- A prefix as nft lists it: the address in its canonical form, without the length of a
single host. -/
def listedPrefix : IpAddr × Nat → String
  | (address,length) =>
    if length = hostLength address then Display.ipAddr address
    else s!"{Display.ipAddr address}/{length}"

def listedSource (source : String) : String := ((denoted source).map listedPrefix).getD source

/-- `source_matches` looks for these texts after the family's `saddr`: the source as it is
spelled, or its address alone when it is a single host. -/
def spellings (family : IpVersion) (source : String) : List String :=
  match splitOnce '/' source.toList with
  | none => [source]
  | some (address,length) =>
    if String.ofList length = hostLengthText family then [source,String.ofList address]
    else [source]

def addressChar (c : Char) : Bool := (Parse.digit 16 c).isSome || c == '.' || c == ':'

def sourceChar (c : Char) : Bool := addressChar c || c == '/' || c == '+'

section Reads
variable {α : Type}

/-- What a parser takes from its input are characters of an address. -/
def Reads (read : List Char → Option (α × List Char)) : Prop :=
  ∀ input value rest, read input = some (value,rest) → ∃ used, input = used ++ rest ∧ ∀ c ∈ used, addressChar c = true

theorem digit_address {radix : Nat} (small : radix ≤ 16) {c : Char} {d : Nat} (read : Parse.digit radix c = some d) :
    addressChar c = true := by
  simp only [Parse.digit,Option.filter_eq_some_iff,decide_eq_true_eq] at read
  have wide : Parse.digit 16 c = some d := by
    simp only [Parse.digit,Option.filter_eq_some_iff,decide_eq_true_eq]
    exact ⟨read.1,by omega⟩
  simp [addressChar,wide]

theorem digits_read {radix : Nat} (small : radix ≤ 16) (limit : Option Nat) {seen out : List Nat} {input rest : List Char}
    (read : Parse.digits radix limit seen input = some (out,rest)) :
    ∃ used, input = used ++ rest ∧ ∀ c ∈ used, addressChar c = true := by
  induction input generalizing seen with
  | nil =>
    cases Option.some.inj read
    exact ⟨[],rfl,by simp⟩
  | cons c input ih =>
    unfold Parse.digits at read
    cases found : Parse.digit radix c with
    | none =>
      rw [found] at read
      cases Option.some.inj read
      exact ⟨[],rfl,by simp⟩
    | some d =>
      simp only [found] at read
      split at read
      · cases read
      · obtain ⟨used,rfl,fine⟩ := ih read
        exact ⟨c::used,rfl,List.forall_mem_cons.mpr ⟨digit_address small found,fine⟩⟩

theorem number_reads {radix : Nat} (small : radix ≤ 16) (bound : Nat) (limit : Option Nat) (zeroPrefix : Bool) :
    Reads (Parse.number radix bound limit zeroPrefix) := by
  intro input value rest read
  simp only [Parse.number,Option.bind_eq_bind,Option.bind_eq_some_iff] at read
  obtain ⟨⟨seen,left⟩,digits,kept⟩ := read
  dsimp only at kept
  split at kept
  · cases kept
  · split at kept
    · cases kept
    · cases Option.some.inj kept
      exact digits_read small limit digits

theorem given_reads {expected : Char} (plain : addressChar expected = true) {input rest : List Char}
    (read : Parse.given expected input = some rest) :
    ∃ used, input = used ++ rest ∧ ∀ c ∈ used, addressChar c = true := by
  cases input with
  | nil => cases read
  | cons c input =>
    simp only [Parse.given] at read
    split at read
    · rename_i same
      cases Option.some.inj read
      exact ⟨[c],rfl,by simpa [same] using plain⟩
    · cases read

theorem separated_reads {separator : Char} (plain : addressChar separator = true) (index : Nat)
    {inner : List Char → Option (α × List Char)} (reads : Reads inner) : Reads (Parse.separated separator index inner) := by
  intro input value rest read
  by_cases later : index > 0
  · simp only [Parse.separated,later,if_true,Option.bind_eq_bind,Option.bind_eq_some_iff] at read
    obtain ⟨left,given,read⟩ := read
    obtain ⟨first,rfl,fineFirst⟩ := given_reads plain given
    obtain ⟨used,rfl,fine⟩ := reads left value rest read
    exact ⟨first ++ used,by simp,List.forall_mem_append.mpr ⟨fineFirst,fine⟩⟩
  · have direct : inner input = some (value,rest) := by simpa [Parse.separated,later] using read
    exact reads input value rest direct

theorem ipv4_reads : Reads Parse.ipv4 := by
  have octet (index : Nat) : Reads (Parse.separated '.' index (Parse.number 10 256 (some 3) false)) :=
    separated_reads (by decide) index (number_reads (by omega) 256 (some 3) false)
  intro input value rest read
  simp only [Parse.ipv4,Option.bind_eq_bind,Option.bind_eq_some_iff,Prod.exists] at read
  obtain ⟨_,_,first,_,_,second,_,_,third,_,_,fourth,kept⟩ := read
  obtain ⟨one,rfl,fineOne⟩ := octet 0 _ _ _ first
  obtain ⟨two,rfl,fineTwo⟩ := octet 1 _ _ _ second
  obtain ⟨three,rfl,fineThree⟩ := octet 2 _ _ _ third
  obtain ⟨four,rfl,fineFour⟩ := octet 3 _ _ _ fourth
  cases Option.some.inj kept
  refine ⟨one ++ two ++ three ++ four,by simp,?_⟩
  simp only [List.forall_mem_append]
  exact ⟨⟨⟨fineOne,fineTwo⟩,fineThree⟩,fineFour⟩

theorem groups_read (limit fuel index : Nat) (input : List Char) : ∃ used,
    input = used ++ (Parse.groups limit fuel index input).2.2 ∧ ∀ c ∈ used, addressChar c = true := by
  induction fuel generalizing index input with
  | zero => exact ⟨[],rfl,by simp⟩
  | succ fuel ih =>
    unfold Parse.groups
    dsimp only
    split
    · rename_i value rest found
      split at found
      · exact separated_reads (by decide) index ipv4_reads _ _ _ found
      · cases found
    · split
      · exact ⟨[],rfl,by simp⟩
      · rename_i group rest found
        obtain ⟨used,rfl,fine⟩ := separated_reads (by decide) index (number_reads (by omega) _ _ _) _ _ _ found
        obtain ⟨more,shape,rest⟩ := ih (index + 1) rest
        refine ⟨used ++ more,?_,List.forall_mem_append.mpr ⟨fine,rest⟩⟩
        rw [List.append_assoc,← shape]

theorem ipv6_reads : Reads Parse.ipv6 := by
  intro input value rest read
  obtain ⟨first,shape,fineFirst⟩ := groups_read 8 8 0 input
  unfold Parse.ipv6 at read
  dsimp only at read
  split at read
  · cases Option.some.inj read
    exact ⟨first,shape,fineFirst⟩
  · split at read
    · cases read
    · simp only [Option.bind_eq_bind,Option.bind_eq_some_iff] at read
      obtain ⟨left,one,middle,two,kept⟩ := read
      cases Option.some.inj kept
      obtain ⟨colon,colonShape,fineColon⟩ := given_reads (by decide) one
      obtain ⟨other,otherShape,fineOther⟩ := given_reads (by decide) two
      obtain ⟨tail,tailShape,fineTail⟩ := groups_read (8 - ((Parse.groups 8 8 0 input).1.length + 1))
        (8 - ((Parse.groups 8 8 0 input).1.length + 1)) 0 middle
      refine ⟨first ++ (colon ++ (other ++ tail)),?_,?_⟩
      · simp only [List.append_assoc]
        rw [← tailShape,← otherShape,← colonShape]
        exact shape
      · simp only [List.forall_mem_append]
        exact ⟨fineFirst,fineColon,fineOther,fineTail⟩

theorem all_read {read : List Char → Option (α × List Char)} (reads : Reads read) {input rest : List Char} {value : α}
    (found : read input = some (value,rest)) (ended : rest.isEmpty = true) : ∀ c ∈ input, addressChar c = true := by
  obtain ⟨used,rfl,fine⟩ := reads _ _ _ found
  rw [List.isEmpty_iff] at ended
  simpa [ended] using fine

end Reads

theorem ipAddr_chars {text : List Char} {address : IpAddr} (parsed : Parse.ipAddr (String.ofList text) = some address) :
    ∀ c ∈ text, addressChar c = true := by
  unfold Parse.ipAddr Parse.whole at parsed
  rw [String.toList_ofList] at parsed
  cases first : Parse.ipv4 text with
  | some found =>
    obtain ⟨value,rest⟩ := found
    simp only [first,Option.map_some,Option.orElse_eq_orElse,Option.orElse_some,Option.bind_some] at parsed
    split at parsed
    · rename_i ended
      exact all_read ipv4_reads first ended
    · cases parsed
  | none =>
    cases second : Parse.ipv6 text with
    | none => simp [first,second] at parsed
    | some found =>
      obtain ⟨value,rest⟩ := found
      simp only [first,second,Option.map_none,Option.map_some,Option.orElse_eq_orElse,Option.orElse_none,
        Option.bind_some] at parsed
      split at parsed
      · rename_i ended
        exact all_read ipv6_reads second ended
      · cases parsed

theorem u8_chars {text : List Char} {value : Nat} (parsed : Parse.u8 (String.ofList text) = some value) :
    ∀ c ∈ text, sourceChar c = true := by
  have plain {body : List Char} (parsed : Parse.whole (Parse.number 10 256 none true body) = some value) :
      ∀ c ∈ body, sourceChar c = true := by
    unfold Parse.whole at parsed
    cases found : Parse.number 10 256 none true body with
    | none => simp [found] at parsed
    | some pair =>
      obtain ⟨value,rest⟩ := pair
      simp only [found,Option.bind_some] at parsed
      split at parsed
      · rename_i ended
        intro c member
        simp [sourceChar,all_read (number_reads (by omega) 256 none true) found ended c member]
      · cases parsed
  unfold Parse.u8 at parsed
  rw [String.toList_ofList] at parsed
  split at parsed
  · rename_i rest
    exact List.forall_mem_cons.mpr ⟨by decide,plain parsed⟩
  · exact plain parsed

section Display

theorem toDigits_chars (n : Nat) : ∀ c ∈ Nat.toDigits 16 n, addressChar c = true := by
  have digits : ∀ d : Fin 16, addressChar d.val.digitChar = true := by decide
  have digit (d : Nat) (small : d < 16) : addressChar d.digitChar = true := digits ⟨d,small⟩
  induction n using Nat.strongRecOn with
  | ind n ih =>
    rw [Nat.toDigits_eq_if (by omega)]
    split
    · rename_i small
      simpa using digit n small
    · rw [List.forall_mem_append]
      exact ⟨ih (n / 16) (by omega),by simpa using digit (n % 16) (by omega)⟩

theorem decimal_chars (n : Nat) : ∀ c ∈ (toString n).toList, addressChar c = true := by
  intro c member
  have digits : (toString n).toList = Nat.toDigits 10 n := Nat.toList_repr
  rw [digits] at member
  have numeric := Text.isDigit_of_toDigits member
  simp only [Char.isDigit,Bool.and_eq_true,decide_eq_true_eq] at numeric
  have read : Parse.digit 10 c = some (c.toNat - '0'.toNat) := by
    have small : c.toNat - '0'.toNat < 10 := by
      have := numeric.2
      change c.toNat - 48 < 10
      have : c.toNat ≤ 57 := this
      omega
    simp only [Parse.digit,Option.filter_eq_some_iff,decide_eq_true_eq]
    exact ⟨if_pos numeric,small⟩
  exact digit_address (by omega) read

theorem ipv4_chars (address : BitVec 32) : ∀ c ∈ (Display.ipv4 address).toList, addressChar c = true := by
  have dot : ∀ c ∈ ".".toList, addressChar c = true := List.all_eq_true.mp (by decide)
  simp only [Display.ipv4,String.toList_append,List.forall_mem_append]
  exact ⟨⟨⟨⟨⟨⟨decimal_chars _,dot⟩,decimal_chars _⟩,dot⟩,decimal_chars _⟩,dot⟩,decimal_chars _⟩

theorem hextets_chars (words : List Nat) : ∀ c ∈ (Display.hextets words).toList, addressChar c = true := by
  rw [Display.hextets,String.toList_intercalate,List.map_map]
  refine Words.forall_mem_intercalate (by decide) ?_
  simp only [List.forall_mem_map]
  intro word _
  simpa using toDigits_chars word

theorem ipv6_chars (address : BitVec 128) : ∀ c ∈ (Display.ipv6 address).toList, addressChar c = true := by
  have mapped : ∀ c ∈ "::ffff:".toList, addressChar c = true := List.all_eq_true.mp (by decide)
  have gap : ∀ c ∈ "::".toList, addressChar c = true := List.all_eq_true.mp (by decide)
  unfold Display.ipv6
  dsimp only
  split
  · simp only [String.toList_append,List.forall_mem_append]
    exact ⟨mapped,ipv4_chars _⟩
  · split
    · simp only [String.toList_append,List.forall_mem_append]
      exact ⟨⟨hextets_chars _,gap⟩,hextets_chars _⟩
    · exact hextets_chars _

theorem ipAddr_display_chars (address : IpAddr) : ∀ c ∈ (Display.ipAddr address).toList, addressChar c = true := by
  cases address with
  | v4 bits => exact ipv4_chars bits
  | v6 bits => exact ipv6_chars bits

end Display

theorem sourceChar_of_address {c : Char} (plain : addressChar c = true) : sourceChar c = true := by
  simp [sourceChar,plain]

theorem listedPrefix_chars (target : IpAddr × Nat) : ∀ c ∈ (listedPrefix target).toList, sourceChar c = true := by
  obtain ⟨address,length⟩ := target
  have slash : ∀ c ∈ "/".toList, sourceChar c = true := List.all_eq_true.mp (by decide)
  have head : ∀ c ∈ (Display.ipAddr address).toList, sourceChar c = true :=
    fun c member => sourceChar_of_address (ipAddr_display_chars address c member)
  unfold listedPrefix
  dsimp only
  split
  · exact head
  · simp only [String.toList_append,List.forall_mem_append]
    exact ⟨⟨head,slash⟩,fun c member => sourceChar_of_address (decimal_chars length c member)⟩

/-- A valid source denotes a prefix and is written with address characters alone. -/
structure PlainSource (source : String) : Prop where
  denotes : ∃ target, denoted source = some target
  chars : ∀ c ∈ source.toList, sourceChar c = true

theorem validateSource_plain {label source : String} {family : IpVersion}
    (valid : validateSource label source family = .ok ()) : PlainSource source := by
  simp only [validateSource,bind_ok_iff,need_ok_iff] at valid
  obtain ⟨⟨address,length⟩,cut,parsed,isAddress,size,isLength,_⟩ := valid
  refine ⟨⟨(parsed,size),by simp [denoted,cut,isAddress,isLength]⟩,?_⟩
  rw [splitOnce_shape cut,List.forall_mem_append,List.forall_mem_cons]
  exact ⟨fun c member => sourceChar_of_address (ipAddr_chars isAddress c member),by decide,u8_chars isLength⟩

theorem validateSource_version {label source : String} {family : IpVersion}
    (valid : validateSource label source family = .ok ()) {target : IpAddr × Nat} (denotes : denoted source = some target) :
    version target.1 = family := by
  simp only [validateSource,bind_ok_iff,need_ok_iff] at valid
  obtain ⟨⟨address,length⟩,cut,parsed,isAddress,size,isLength,fits⟩ := valid
  obtain rfl : (parsed,size) = target := by simpa [denoted,cut,isAddress,isLength] using denotes
  cases family <;> cases parsed
  · rfl
  · cases fits
  · cases fits
  · rfl

theorem listedSource_chars {source : String} (plain : PlainSource source) :
    ∀ c ∈ (listedSource source).toList, sourceChar c = true := by
  obtain ⟨target,denotes⟩ := plain.denotes
  rw [listedSource,denotes,Option.map_some,Option.getD_some]
  exact listedPrefix_chars target

theorem spellings_chars {source : String} (plain : PlainSource source) (family : IpVersion) :
    ∀ text ∈ spellings family source, ∀ c ∈ text.toList, sourceChar c = true := by
  unfold spellings
  split
  · simpa using plain.chars
  · rename_i address length cut
    have front : ∀ c ∈ address, sourceChar c = true := by
      intro c member
      refine plain.chars c ?_
      rw [splitOnce_shape cut]
      exact List.mem_append_left _ member
    split
    · simpa using ⟨plain.chars,front⟩
    · simpa using plain.chars

structure PlainScope (scope : TrafficScope) : Prop where
  interface : scope.interface.toList.all interfaceChar = true
  ipv4Sources : ∀ source ∈ scope.ipv4Sources, PlainSource source
  ipv6Sources : ∀ source ∈ scope.ipv6Sources, PlainSource source
  version4 : ∀ source ∈ scope.ipv4Sources, ∀ target, denoted source = some target → version target.1 = .v4
  version6 : ∀ source ∈ scope.ipv6Sources, ∀ target, denoted source = some target → version target.1 = .v6
  some4 : scope.ipv4Sources ≠ []

theorem validateSources_plain {label : String} {sources : List String} {family : IpVersion}
    (valid : validateSources label sources family = .ok ()) : ∀ source ∈ sources,
      PlainSource source ∧ ∀ target, denoted source = some target → version target.1 = family := by
  simp only [validateSources,bind_ok_iff,insertAll_ok_iff] at valid
  obtain ⟨_,_,_,⟨checked,_⟩,_⟩ := valid
  intro source member
  exact ⟨validateSource_plain (checked source member),fun _ => validateSource_version (checked source member)⟩

theorem validate_plain {scope : TrafficScope} {ipv6Enabled : Bool} (valid : scope.validate ipv6Enabled = .ok ()) :
    PlainScope scope ∧ (ipv6Enabled = true → scope.ipv6Sources ≠ []) := by
  simp only [TrafficScope.validate,then_ok_iff,ensure_ok_iff,validateInterface] at valid
  obtain ⟨interface,four,six,some4,some6⟩ := valid
  have plain4 := validateSources_plain four
  have plain6 := validateSources_plain six
  exact ⟨⟨interface.2.2,fun source member => (plain4 source member).1,fun source member => (plain6 source member).1,
    fun source member => (plain4 source member).2,fun source member => (plain6 source member).2,some4⟩,some6⟩

end Dynet.Capture
