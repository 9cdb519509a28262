import Dynet.Capture.RouterIngress

/-! The output hook: its rules, how nft lists them, and what its status reads out of the
listing. -/
namespace Dynet.Capture
open Dynet.Lib Dynet.Lib.Text Dynet.Lib.Words

namespace Output

def chain : String := "dynet_output"
def ownerMarker : String := "dynet-owned: capture-output:v1"

/-- The names that nft gives the priority -150 of the chain. -/
def priorities : List String := ["mangle","-150"]

def head (priority : String) : List String :=
  ["table inet dynet \x7b","\tchain " ++ chain ++ " \x7b","\t\tcomment " ++ quoted ownerMarker,
    "\t\t" ++ phrase ["type","route","hook","output","priority",priority ++ ";","policy","accept;"]]

def addChainArgs : List String := ["add","chain",nftFamily,nftTable,chain,"\x7b","type","route","hook","output",
  "priority","-150;","policy","accept;","comment",quoted ownerMarker ++ ";","\x7d"]

end Output

structure HookOptions where
  serviceUid : UInt32
  ipv6Enabled : Bool
  deriving DecidableEq, Repr

def uidText (options : HookOptions) : String := toString options.serviceUid.toNat

def guardRule : List String := ["meta","mark","&",markMaskHex,"!=","0","return"]

def captureRule (protocol : String) : List String :=
  ["meta","l4proto",protocol,"meta","mark","set","meta","mark","|",markValueHex]

/-- The rules of the chain in order, without the words that address the chain. -/
def outputRules (options : HookOptions) : List (List String) :=
  [["meta","skuid",uidText options,"return"],guardRule] ++
  (if options.ipv6Enabled then [["ip6","daddr","::1","return"],["ip6","daddr","fe80::/10","return"],
    ["ip6","daddr","ff00::/8","return"]] else [["meta","nfproto","ipv6","return"]]) ++
  [["ip","daddr","127.0.0.0/8","return"],["ip","daddr","169.254.0.0/16","return"],["ip","daddr","224.0.0.0/4","return"],
    ["ip","daddr","255.255.255.255","return"],["tcp","sport","22","return"],["tcp","dport","22","return"],
    captureRule "tcp",captureRule "udp"]

/-- Whether `output_chain_status` takes a listing for the chain of these options. -/
def outputIsOwned (stdout : String) (options : Option HookOptions) : Bool :=
  contains stdout Output.ownerMarker && match options with
    | none => true
    | some options =>
      let expectedUid := phrase ["meta","skuid",uidText options,"return"]
      let expectedIpv6 := if options.ipv6Enabled then "ip6 daddr ::1 return" else "meta nfproto ipv6 return"
      let markGuard := contains stdout "meta mark & 0x40000000 != 0 return" ||
        contains stdout "meta mark & 0x40000000 != 0x00000000 return"
      let expectedPriority := contains stdout "type route hook output priority mangle;" ||
        contains stdout "type route hook output priority -150;"
      contains stdout expectedUid && contains stdout expectedIpv6 && markGuard && expectedPriority &&
        contains stdout "meta l4proto tcp meta mark set meta mark | 0x40000000" &&
        contains stdout "meta l4proto udp meta mark set meta mark | 0x40000000"

/-- A chain as nft holds it: the lines before its rules, and the rules in listed form. -/
structure OutputChain where
  head : List String
  rules : List (List String)
  deriving DecidableEq, Repr

namespace OutputChain

def text (chain : OutputChain) : String := listChain chain.head chain.rules

def extended (chain : OutputChain) (rules : List (List String)) : OutputChain :=
  { chain with rules := chain.rules ++ rules }

@[simp] theorem extended_nil (chain : OutputChain) : chain.extended [] = chain := by simp [extended]

theorem extended_extended (chain : OutputChain) (first second : List (List String)) :
    (chain.extended first).extended second = chain.extended (first ++ second) := by simp [extended]

end OutputChain

section Text
variable {options : HookOptions} {head : List String} {rules : List (List String)}

/-- What the status looks for, each part with the spellings it accepts. -/
def outputParts (options : HookOptions) : List (List String) :=
  [[Output.ownerMarker],[phrase ["meta","skuid",uidText options,"return"]],
    [if options.ipv6Enabled then "ip6 daddr ::1 return" else "meta nfproto ipv6 return"],
    ["meta mark & 0x40000000 != 0 return","meta mark & 0x40000000 != 0x00000000 return"],
    ["type route hook output priority mangle;","type route hook output priority -150;"],
    ["meta l4proto tcp meta mark set meta mark | 0x40000000"],["meta l4proto udp meta mark set meta mark | 0x40000000"]]

theorem outputIsOwned_iff (stdout : String) : outputIsOwned stdout (some options) = true ↔
    ∀ spellings ∈ outputParts options, ∃ part ∈ spellings, contains stdout part = true := by
  simp [outputIsOwned,outputParts,and_assoc]

theorem uidText_digits {c : Char} (member : c ∈ (uidText options).toList) : c.isDigit = true := by
  have digits : (uidText options).toList = Nat.toDigits 10 options.serviceUid.toNat := Nat.toList_repr
  rw [digits] at member
  exact isDigit_of_toDigits member

/-- The listed rule for the service's user has none of the characters that the given ones
are not made of. -/
theorem uidPhrase_free {c : Char} (other : c.isDigit = false) (free : c ∉ "meta skuid  return".toList) :
    c ∉ (phrase ["meta","skuid",uidText options,"return"]).toList := by
  have shape : (phrase ["meta","skuid",uidText options,"return"]).toList =
      "meta skuid ".toList ++ ((uidText options).toList ++ " return".toList) := by
    simp [phrase,join]
  have whole : "meta skuid  return".toList = "meta skuid ".toList ++ " return".toList := by decide
  rw [whole,List.mem_append,not_or] at free
  rw [shape,List.mem_append,List.mem_append]
  rintro (front | digit | back)
  · exact free.1 front
  · rw [uidText_digits digit] at other
    cases other
  · exact free.2 back

theorem outputParts_plain : ∀ spellings ∈ outputParts options, ∀ part ∈ spellings,
    '\n' ∉ part.toList ∧ '\t' ∉ part.toList ∧ part ≠ "" := by
  have uid : phrase ["meta","skuid",uidText options,"return"] ≠ "" := by
    intro empty
    have chars := congrArg String.toList empty
    simp [phrase,join] at chars
  have lines := @uidPhrase_free options '\n' (by decide) (by decide)
  have tabs := @uidPhrase_free options '\t' (by decide) (by decide)
  cases enabled : options.ipv6Enabled
  all_goals
    simp only [outputParts,enabled,List.forall_mem_cons,List.not_mem_nil,IsEmpty.forall_iff,implies_true,and_true,
      Bool.false_eq_true,if_false,if_true]
    refine ⟨by decide,⟨lines,tabs,uid⟩,by decide,by decide,by decide,by decide,by decide⟩

/-- More rules do not hide a part. -/
theorem extended_owned (chain : OutputChain) (more : List (List String))
    (owned : outputIsOwned chain.text (some options) = true) :
    outputIsOwned (chain.extended more).text (some options) = true := by
  rw [outputIsOwned_iff] at owned ⊢
  intro spellings member
  obtain ⟨part,spelling,found⟩ := owned spellings member
  obtain ⟨breaks,tabs,filled⟩ := outputParts_plain spellings member part spelling
  refine ⟨part,spelling,(listing_contains_iff breaks tabs filled).mpr ?_⟩
  rcases (listing_contains_iff breaks tabs filled).mp found with framed | ⟨rule,listed,found⟩
  · exact .inl framed
  · exact .inr ⟨rule,List.mem_append_left _ listed,found⟩

theorem listedWords_free {rule : List String} (free : "saddr" ∉ rule) : listedWords rule = rule := by
  induction rule with
  | nil => rfl
  | cons word rest ih =>
    obtain ⟨here,free⟩ := not_or.mp (List.mem_cons.not.mp free)
    rw [listedWords_cons (Ne.symm here),ih free]

theorem outputRules_free : ∀ rule ∈ outputRules options, "saddr" ∉ rule := by
  have digits : "saddr" ≠ uidText options := by
    intro same
    have letter : 's' ∈ (uidText options).toList := by rw [← same]; decide
    exact absurd (uidText_digits letter) (by decide)
  have user : "saddr" ∉ ["meta","skuid",uidText options,"return"] := by simp [digits]
  cases enabled : options.ipv6Enabled
  all_goals
    simp only [outputRules,enabled,List.forall_mem_append,List.forall_mem_cons,List.not_mem_nil,IsEmpty.forall_iff,
      implies_true,and_true,Bool.false_eq_true,if_false,if_true]
    refine ⟨⟨⟨user,by decide⟩,by decide⟩,by decide⟩

def frontRules (options : HookOptions) : List (List String) := (outputRules options).dropLast

theorem outputRules_eq (options : HookOptions) : outputRules options = frontRules options ++ [captureRule "udp"] := by
  cases enabled : options.ipv6Enabled
  all_goals simp [frontRules,outputRules,enabled]

theorem front_of_take {position : Nat} (short : position < (outputRules options).length) :
    ∀ rule ∈ (outputRules options).take position, rule ∈ frontRules options := by
  intro rule member
  rw [outputRules_eq,List.length_append,List.length_singleton] at short
  rw [outputRules_eq,List.take_append_of_le_length (by omega)] at member
  exact List.mem_of_mem_take member

/-- The rules in front of the last one whose text is the same for all options. -/
def fixedRules : List (List String) :=
  [["ip6","daddr","::1","return"],["ip6","daddr","fe80::/10","return"],["ip6","daddr","ff00::/8","return"],
    ["meta","nfproto","ipv6","return"],["ip","daddr","127.0.0.0/8","return"],["ip","daddr","169.254.0.0/16","return"],
    ["ip","daddr","224.0.0.0/4","return"],["ip","daddr","255.255.255.255","return"],["tcp","sport","22","return"],
    ["tcp","dport","22","return"],captureRule "tcp"]

theorem frontRules_cases {rule : List String} (member : rule ∈ frontRules options) :
    rule = ["meta","skuid",uidText options,"return"] ∨ rule = guardRule ∨ rule ∈ fixedRules := by
  cases enabled : options.ipv6Enabled
  all_goals
    simp only [frontRules,outputRules,enabled,Bool.false_eq_true,if_false,if_true,List.cons_append,List.nil_append,
      List.dropLast_cons_cons,List.dropLast_singleton,List.mem_cons,List.not_mem_nil,or_false] at member
    rcases member with user | guard | fixed
    · exact .inl user
    · exact .inr (.inl guard)
    · refine .inr (.inr ?_)
      simp only [fixedRules,List.mem_cons,List.not_mem_nil,or_false]
      tauto

end Text

end Dynet.Capture
