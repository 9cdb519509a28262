import Dynet.Capture.Scope

/-! How nft lists a chain of rules, and how the status of a hook reads a listing: the
parts that the router ingress and the DNS mapping share. -/
namespace Dynet.Capture
open Dynet.Runtime Dynet.Lib Dynet.Lib.Text Dynet.Lib.Words

inductive CheckState where
  | ready | missingAutoCreatable | missingHardFail | invalidHardFail
  deriving DecidableEq, Repr

structure CommandOutput where
  success : Bool
  stdout : String
  stderr : String
  deriving DecidableEq, Repr

def nftFamily : String := "inet"
def nftTable : String := "dynet"
def markValueHex : String := "0x40000000"
def markMaskHex : String := "0x40000000"

def IpVersion.nft : IpVersion → String
  | .v4 => "ip"
  | .v6 => "ip6"

def TrafficScope.sources (scope : TrafficScope) (ipv6Enabled : Bool) : List (IpVersion × String) :=
  scope.ipv4Sources.map (.v4,·) ++ if ipv6Enabled then scope.ipv6Sources.map (.v6,·) else []

/-- Both hooks test a listed line for a source in the same way. -/
def sourceMatches (line : String) (family : IpVersion) (source : String) : Bool :=
  contains line (phrase [family.nft,"saddr",source]) ||
    match splitOnce '/' source.toList with
    | none => false
    | some (address,length) =>
      String.ofList length == hostLengthText family &&
        contains line (phrase [family.nft,"saddr",String.ofList address])

/-- The words of a rule as nft lists them: the prefix after `saddr` in its listed form. -/
def listedWords : List String → List String
  | "saddr"::source::rest => "saddr"::listedSource source::listedWords rest
  | word::rest => word::listedWords rest
  | [] => []

def chainHead (chain kind priority marker : String) : List String :=
  ["table inet dynet \x7b","\tchain " ++ chain ++ " \x7b","\t\tcomment " ++ quoted marker,
    "\t\t" ++ phrase ["type",kind,"hook","prerouting","priority",priority ++ ";","policy","accept;"]]

def chainFoot : List String := ["\t\x7d","\x7d"]

def listedRule (rule : List String) : String := "\t\t" ++ phrase (listedWords rule)

/-- A chain as `nft list chain` prints it. -/
def listChain (head : List String) (rules : List (List String)) : String :=
  join '\n' (head ++ rules.map listedRule ++ chainFoot)

def chainState (output : Except String CommandOutput) (expected : String → Bool) : CheckState :=
  match output with
  | .ok output =>
    if !output.success then .missingAutoCreatable else if expected output.stdout then .ready else .invalidHardFail
  | .error _ => .missingHardFail

/-- The listed form of an installed source begins with a spelling of the expected one. -/
def Shows (family : IpVersion) (expected installed : String) : Prop :=
  ∃ text ∈ spellings family expected, text.toList <+: (listedSource installed).toList

instance (family : IpVersion) (expected installed : String) : Decidable (Shows family expected installed) :=
  inferInstanceAs (Decidable (∃ text ∈ spellings family expected, text.toList <+: (listedSource installed).toList))

/-- Every expected source is shown by an installed one of its family. -/
def Covers (installed expected : List (IpVersion × String)) : Prop :=
  ∀ e ∈ expected, ∃ s ∈ installed, s.1 = e.1 ∧ Shows e.1 e.2 s.2

instance (installed expected : List (IpVersion × String)) : Decidable (Covers installed expected) :=
  inferInstanceAs (Decidable (∀ e ∈ expected, ∃ s ∈ installed, s.1 = e.1 ∧ Shows e.1 e.2 s.2))

def IsWord (text : String) : Prop := ∀ c ∈ text.toList, c.isWhitespace = false

instance (text : String) : Decidable (IsWord text) := List.decidableBAll _ _

section Words

theorem IsWord.free {text : String} (word : IsWord text) {c : Char} (white : c.isWhitespace = true) : c ∉ text.toList :=
  fun member => by simp [word c member] at white

theorem sourceChar_word {text : String} (chars : ∀ c ∈ text.toList, sourceChar c = true) : IsWord text := by
  intro c member
  have plain := chars c member
  by_contra white
  simp only [Char.isWhitespace,Bool.or_eq_true,decide_eq_true_eq,Bool.not_eq_false] at white
  rcases white with ((rfl | rfl) | rfl) | rfl
  all_goals exact absurd plain (by decide)

theorem quoted_word {interface : String} (chars : interface.toList.all interfaceChar = true) : IsWord (quoted interface) := by
  intro c member
  simp only [quoted,String.toList_append,List.mem_append] at member
  rw [List.all_eq_true] at chars
  have quote : IsWord "\"" := by decide
  rcases member with (front | inner) | back
  · exact quote c front
  · have plain := chars c inner
    by_contra white
    simp only [Char.isWhitespace,Bool.or_eq_true,decide_eq_true_eq,Bool.not_eq_false] at white
    rcases white with ((rfl | rfl) | rfl) | rfl
    all_goals exact absurd plain (by decide)
  · exact quote c back

theorem contains_of_contains {text part inner : String} (outer : contains text part = true)
    (within : inner.toList <:+: part.toList) : contains text inner = true :=
  (contains_iff text inner).mpr (within.trans ((contains_iff text part).mp outer))

theorem sourceMatches_iff (line : String) (family : IpVersion) (source : String) : sourceMatches line family source = true ↔
    ∃ text ∈ spellings family source, contains line (phrase [family.nft,"saddr",text]) = true := by
  unfold sourceMatches spellings
  cases splitOnce '/' source.toList with
  | none => simp
  | some cut =>
    obtain ⟨address,length⟩ := cut
    by_cases host : String.ofList length = hostLengthText family
    · simp [host]
    · simp [host]

end Words

section Listing
variable {head : List String} {rules : List (List String)}

/-- A part without a line break is listed around the rules or in one of them. -/
theorem listing_contains_iff {part : String} (breaks : '\n' ∉ part.toList) (tabs : '\t' ∉ part.toList) (some : part ≠ "") :
    contains (listChain head rules) part = true ↔ (∃ line ∈ head ++ chainFoot, contains line part = true) ∨
      ∃ rule ∈ rules, contains (phrase (listedWords rule)) part = true := by
  have indented (rule : List String) :
      contains (listedRule rule) part = true ↔ contains (phrase (listedWords rule)) part = true :=
    contains_indented_iff tabs some _
  have ruled : (∃ line ∈ rules.map listedRule, contains line part = true) ↔
      ∃ rule ∈ rules, contains (phrase (listedWords rule)) part = true := by
    simp [indented]
  rw [listChain,contains_join_iff breaks some]
  simp only [List.mem_append,or_and_right,exists_or,ruled]
  exact or_right_comm

def Unbroken (line : String) : Prop := '\n' ∉ line.toList ∧ '\r' ∉ line.toList

instance (line : String) : Decidable (Unbroken line) := inferInstanceAs (Decidable (_ ∧ _))

theorem phrase_unbroken {words : List String} (plain : ∀ word ∈ words, IsWord word) : Unbroken ("\t\t" ++ phrase words) := by
  have tabs : ∀ c ∈ "\t\t".toList, c ≠ '\n' ∧ c ≠ '\r' := by simp
  have body : ∀ c ∈ (phrase words).toList, c ≠ '\n' ∧ c ≠ '\r' := by
    rw [phrase,join,String.toList_ofList]
    refine forall_mem_intercalate (by decide) ?_
    simp only [List.forall_mem_map]
    intro word member c inside
    have white := plain word member c inside
    constructor
    all_goals
      rintro rfl
      exact absurd white (by decide)
  have chars : ∀ c ∈ ("\t\t" ++ phrase words).toList, c ≠ '\n' ∧ c ≠ '\r' := by
    rw [String.toList_append,List.forall_mem_append]
    exact ⟨tabs,body⟩
  exact ⟨fun member => (chars _ member).1 rfl,fun member => (chars _ member).2 rfl⟩

theorem mem_between {line : String} {head middle foot : List String} (listed : line ∈ head ++ middle ++ foot)
    (fixed : line ∉ head ++ foot) : line ∈ middle := by
  simp only [List.mem_append,not_or] at listed fixed
  obtain (front | inside) | behind := listed
  · exact absurd front fixed.1
  · exact inside
  · exact absurd behind fixed.2

theorem listing_lines (framed : ∀ line ∈ head, Unbroken line)
    (plain : ∀ rule ∈ rules, ∀ word ∈ listedWords rule, IsWord word) :
    lines (listChain head rules) = head ++ rules.map listedRule ++ chainFoot := by
  have ruled : ∀ line ∈ rules.map listedRule, Unbroken line := by
    simp only [List.forall_mem_map]
    exact fun rule member => phrase_unbroken (plain rule member)
  have body : ∀ line ∈ head ++ rules.map listedRule ++ ["\t\x7d"], Unbroken line := by
    simp only [List.forall_mem_append]
    exact ⟨⟨framed,ruled⟩,by decide⟩
  have shape : head ++ rules.map listedRule ++ chainFoot = (head ++ rules.map listedRule ++ ["\t\x7d"]) ++ ["\x7d"] := by
    simp [chainFoot]
  rw [listChain,shape]
  refine lines_join _ _ (by decide) ?_ fun line member => (body line member).2
  rw [List.forall_mem_append]
  exact ⟨fun line member => (body line member).1,by decide⟩

end Listing

section Phrases

theorem quoted_toList (text : String) : (quoted text).toList = '"'::(text.toList ++ ['"']) := by
  simp [quoted]

theorem quoted_prefix_iff {name other : String} (plain : '"' ∉ name.toList) (otherPlain : '"' ∉ other.toList) :
    (quoted name).toList <+: (quoted other).toList ↔ name = other := by
  rw [quoted_toList,quoted_toList,List.cons_prefix_cons,append_prefix_iff plain otherPlain]
  simp [String.toList_inj]

theorem quoted_ne (text : String) {word : String} (bare : word.toList.head? ≠ some '"') : quoted text ≠ word := by
  rintro rfl
  rw [quoted_toList] at bare
  exact bare rfl

theorem listedWords_cons {word : String} (other : word ≠ "saddr") (rest : List String) :
    listedWords (word::rest) = word::listedWords rest := by
  rw [listedWords]
  exact fun _ _ same => absurd same other

theorem listedWords_saddr (source : String) (rest : List String) :
    listedWords ("saddr"::source::rest) = "saddr"::listedSource source::listedWords rest := by
  rw [listedWords]

theorem source_ne {source : String} (plain : PlainSource source) {word : String} {c : Char} (member : c ∈ word.toList)
    (foreign : sourceChar c = false) : listedSource source ≠ word := by
  rintro rfl
  have inside := listedSource_chars plain c member
  simp [foreign] at inside

theorem source_prefix {source : String} (plain : PlainSource source) {c : Char} (foreign : sourceChar c = false)
    (rest : List Char) : ¬ c::rest <+: (listedSource source).toList := by
  intro front
  have inside := listedSource_chars plain c (front.subset List.mem_cons_self)
  simp [foreign] at inside

end Phrases

def transports : List String := ["tcp","udp"]

theorem nft_word (family : IpVersion) : IsWord family.nft := by cases family <;> decide

theorem transport_word {transport : String} (known : transport ∈ transports) : IsWord transport := by
  revert known
  revert transport
  decide

theorem unquoted {name : String} (plain : name.toList.all interfaceChar = true) : '"' ∉ name.toList := by
  intro member
  rw [List.all_eq_true] at plain
  exact absurd (plain _ member) (by decide)

theorem ruleLine_contains_iff {rule : List String} {word : String} {words : List String}
    (plain : ∀ part ∈ listedWords rule, IsWord part) (parts : ∀ part ∈ word::words, IsWord part) (some : words ≠ []) :
    contains (listedRule rule) (phrase (word::words)) = true ↔
      Occurs word.toList (words.map String.toList) ((listedWords rule).map String.toList) := by
  have free : '\t' ∉ (phrase (word::words)).toList := by
    have chars : ∀ c ∈ (phrase (word::words)).toList, c ≠ '\t' := by
      rw [phrase,join,String.toList_ofList]
      refine forall_mem_intercalate (by decide) ?_
      simp only [List.forall_mem_map]
      rintro part member c inside rfl
      exact absurd (parts part member _ inside) (by decide)
    exact fun member => chars _ member rfl
  have nonempty : phrase (word::words) ≠ "" := by
    obtain ⟨next,rest,rfl⟩ := List.exists_cons_of_ne_nil some
    intro empty
    have chars := congrArg String.toList empty
    rw [phrase,join,String.toList_ofList,List.map_cons,List.map_cons,intercalate_cons_cons] at chars
    simp at chars
  rw [listedRule,contains_indented_iff free nonempty]
  exact contains_phrase_iff (fun part member => (parts part member).free (by decide))
    (fun part member => (plain part member).free (by decide)) some

/-- What validation grants of the part of a scope that is in use. -/
structure PlainUse (scope : TrafficScope) (ipv6Enabled : Bool) : Prop where
  interface : scope.interface.toList.all interfaceChar = true
  sources : ∀ source ∈ scope.sources ipv6Enabled, PlainSource source.2
  versions : ∀ source ∈ scope.sources ipv6Enabled, ∀ target, denoted source.2 = some target → version target.1 = source.1
  some4 : scope.ipv4Sources ≠ []
  some6 : ipv6Enabled = true → scope.ipv6Sources ≠ []

theorem validate_plainUse {scope : TrafficScope} {ipv6Enabled : Bool} (valid : scope.validate ipv6Enabled = .ok ()) :
    PlainUse scope ipv6Enabled := by
  obtain ⟨plain,some6⟩ := validate_plain valid
  have fine : ∀ source ∈ scope.sources ipv6Enabled,
      PlainSource source.2 ∧ ∀ target, denoted source.2 = some target → version target.1 = source.1 := by
    intro source member
    rcases List.mem_append.mp member with four | six
    · obtain ⟨text,listed,rfl⟩ := List.mem_map.mp four
      exact ⟨plain.ipv4Sources text listed,plain.version4 text listed⟩
    · split at six
      · obtain ⟨text,listed,rfl⟩ := List.mem_map.mp six
        exact ⟨plain.ipv6Sources text listed,plain.version6 text listed⟩
      · simp at six
  exact ⟨plain.interface,fun source member => (fine source member).1,fun source member => (fine source member).2,
    plain.some4,some6⟩

section Use
variable {scope : TrafficScope} {ipv6Enabled : Bool}

theorem PlainUse.head4 (plain : PlainUse scope ipv6Enabled) : ∃ source, (IpVersion.v4,source) ∈ scope.sources ipv6Enabled := by
  obtain ⟨first,rest,some4⟩ := List.exists_cons_of_ne_nil plain.some4
  exact ⟨first,by simp [TrafficScope.sources,some4]⟩

theorem PlainUse.head6 (plain : PlainUse scope true) : ∃ source, (IpVersion.v6,source) ∈ scope.sources true := by
  obtain ⟨first,rest,some6⟩ := List.exists_cons_of_ne_nil (plain.some6 rfl)
  exact ⟨first,by simp [TrafficScope.sources,some6]⟩

theorem enabled_of_mem {source : String} (member : (IpVersion.v6,source) ∈ scope.sources ipv6Enabled) : ipv6Enabled = true := by
  by_contra disabled
  rw [Bool.not_eq_true] at disabled
  simp [TrafficScope.sources,disabled] at member

end Use

end Dynet.Capture
