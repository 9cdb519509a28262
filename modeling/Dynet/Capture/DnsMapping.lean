import Dynet.Capture.Listing
import Mathlib.Data.List.Infix

/-! The DNS port mapping: its rules, how nft lists them, and what its status reads out of
the listing. -/
namespace Dynet.Capture
open Dynet.Runtime Dynet.Lib Dynet.Lib.Checks Dynet.Lib.Text Dynet.Lib.Words

namespace Mapping

def chain : String := "dynet_dns_mapping"
def ownerMarker : String := "dynet-owned: dns-mapping:v1"
def markClearMaskHex : String := "0xbfffffff"
def head : List String := chainHead chain "nat" "-100" ownerMarker

end Mapping

def isUnspecified : IpAddr → Bool
  | .v4 address => address == 0
  | .v6 address => address == 0

structure DnsMappingOptions where
  scope : TrafficScope
  sourcePort : UInt16
  target : SocketAddr
  ipv6Enabled : Bool
  deriving DecidableEq, Repr

namespace DnsMappingOptions

def validate (options : DnsMappingOptions) : Except String Unit := do
  options.scope.validate options.ipv6Enabled
  ensure (options.sourcePort ≠ 0 ∧ options.target.port ≠ 0) "dns mapping ports must be between 1 and 65535"
  ensure (options.sourcePort ≠ options.target.port)
    "dns mapping source port must differ from the dynet DNS listener port"
  ensure (isUnspecified options.target.ip = true)
    "dns mapping requires the dynet DNS listener to use an unspecified bind address"
  ensure (options.ipv6Enabled = true → options.target.isIpv6 = true)
    "IPv6 DNS mapping requires an IPv6 unspecified listener such as [::]:1053"
  ensure (options.ipv6Enabled = false → options.target.isIpv6 = false)
    "IPv4-only DNS mapping requires an IPv4 unspecified listener such as 0.0.0.0:1053"

def sources (options : DnsMappingOptions) : List (IpVersion × String) := options.scope.sources options.ipv6Enabled

end DnsMappingOptions

def IpVersion.nfproto : IpVersion → String
  | .v4 => "ipv4"
  | .v6 => "ipv6"

def mappingRule (options : DnsMappingOptions) (family : IpVersion) (source protocol : String) : List String :=
  ["iifname",quoted options.scope.interface,"meta","nfproto",family.nfproto,family.nft,"saddr",source,
    protocol,"dport",toString options.sourcePort.toNat,"meta","mark","set","meta","mark","&",
    Mapping.markClearMaskHex,"redirect","to",":" ++ toString options.target.port.toNat]

/-- The rules of the chain, without the words that address it. -/
def mappingRules (options : DnsMappingOptions) : List (List String) :=
  options.sources.flatMap fun (family,source) =>
    [mappingRule options family source "udp",mappingRule options family source "tcp"]

def mappingLineMatches (options : DnsMappingOptions) (family : IpVersion) (source protocol line : String) : Bool :=
  contains line (phrase ["iifname",quoted options.scope.interface]) && sourceMatches line family source &&
    (contains line (phrase ["meta","nfproto",family.nfproto]) || contains line (phrase [family.nft,"saddr"])) &&
    contains line (phrase [protocol,"dport",toString options.sourcePort.toNat]) &&
    contains line (phrase ["meta","mark","set","meta","mark","&",Mapping.markClearMaskHex]) &&
    contains line (phrase ["redirect","to",":" ++ toString options.target.port.toNat])

def mappingIsExpected (stdout : String) (options : Option DnsMappingOptions) : Bool :=
  contains stdout Mapping.ownerMarker && match options with
    | none => true
    | some options =>
      let priority := contains stdout "type nat hook prerouting priority dstnat;" ||
        contains stdout "type nat hook prerouting priority -100;"
      let rulesReady := options.sources.all fun (family,source) => ["udp","tcp"].all fun protocol =>
        (lines stdout).any (mappingLineMatches options family source protocol)
      let hasUnexpectedIpv6 := !options.ipv6Enabled &&
        (lines stdout).any fun line => contains line "meta nfproto ipv6" || contains line "ip6 saddr"
      priority && rulesReady && !hasUnexpectedIpv6

def mappingStatus (output : Except String CommandOutput) (options : Option DnsMappingOptions) : CheckState :=
  chainState output fun stdout => mappingIsExpected stdout options

/-- The listing of a mapping chain that was installed for these options. -/
def mappingListing (options : DnsMappingOptions) : String :=
  listChain Mapping.head (mappingRules options)

/-- The decimal text of a port begins with that of another. -/
def PortShows (expected installed : UInt16) : Prop :=
  (toString expected.toNat).toList <+: (toString installed.toNat).toList

instance (expected installed : UInt16) : Decidable (PortShows expected installed) :=
  inferInstanceAs (Decidable ((toString expected.toNat).toList <+: (toString installed.toNat).toList))

theorem validate_mappingPlain {options : DnsMappingOptions} (valid : options.validate = .ok ()) :
    PlainUse options.scope options.ipv6Enabled := by
  simp only [DnsMappingOptions.validate,then_ok_iff] at valid
  exact validate_plainUse valid.1

theorem port_chars (port : UInt16) : ∀ c ∈ (toString port.toNat).toList, sourceChar c = true :=
  fun c member => sourceChar_of_address (decimal_chars port.toNat c member)

theorem port_word (port : UInt16) : IsWord (toString port.toNat) := sourceChar_word (port_chars port)

theorem target_chars (port : UInt16) : ∀ c ∈ (":" ++ toString port.toNat).toList, sourceChar c = true := by
  rw [String.toList_append,List.forall_mem_append]
  exact ⟨List.all_eq_true.mp (by decide),port_chars port⟩

theorem target_word (port : UInt16) : IsWord (":" ++ toString port.toNat) := sourceChar_word (target_chars port)

section MapLine
variable {installed expected : DnsMappingOptions} {family listed : IpVersion} {source asked : String}
  {protocol transport : String}

theorem nfproto_word (family : IpVersion) : IsWord family.nfproto := by cases family <;> decide

theorem text_ne {text word : String} (chars : ∀ c ∈ text.toList, sourceChar c = true) {c : Char} (member : c ∈ word.toList)
    (foreign : sourceChar c = false) : text ≠ word := by
  rintro rfl
  have inside := chars c member
  simp [foreign] at inside

theorem listedWords_mappingRule (known : transport ∈ transports) :
    listedWords (mappingRule installed family source transport) =
      mappingRule installed family (listedSource source) transport := by
  have transportOther : transport ≠ "saddr" := by
    rintro rfl
    exact absurd known (by decide)
  have familyOther : family.nft ≠ "saddr" := by cases family <;> decide
  have protoOther : family.nfproto ≠ "saddr" := by cases family <;> decide
  have portOther : toString installed.sourcePort.toNat ≠ "saddr" :=
    text_ne (port_chars _) (c := 's') (by decide) (by decide)
  have targetOther : ":" ++ toString installed.target.port.toNat ≠ "saddr" :=
    text_ne (target_chars _) (c := 's') (by decide) (by decide)
  unfold mappingRule
  rw [listedWords_cons (by decide),listedWords_cons (quoted_ne _ (by decide)),listedWords_cons (by decide),
    listedWords_cons (by decide),listedWords_cons protoOther,listedWords_cons familyOther,listedWords_saddr,
    listedWords_cons transportOther,listedWords_cons (by decide),listedWords_cons portOther]
  iterate 9 rw [listedWords_cons (by decide)]
  rw [listedWords_cons targetOther]
  rfl

theorem mappingRule_words (plain : installed.scope.interface.toList.all interfaceChar = true) (word : IsWord source)
    (known : transport ∈ transports) : ∀ part ∈ mappingRule installed family source transport, IsWord part := by
  have middle : ∀ part ∈ ["meta","mark","set","meta","mark","&",Mapping.markClearMaskHex,"redirect","to"], IsWord part := by
    decide
  simp only [List.forall_mem_cons] at middle
  obtain ⟨m1,m2,m3,m4,m5,m6,m7,m8,m9,_⟩ := middle
  simp only [mappingRule,List.forall_mem_cons]
  exact ⟨by decide,quoted_word plain,by decide,by decide,nfproto_word family,nft_word family,by decide,word,
    transport_word known,by decide,port_word _,m1,m2,m3,m4,m5,m6,m7,m8,m9,target_word _,by simp⟩

theorem mappingLine_contains_iff (plain : installed.scope.interface.toList.all interfaceChar = true)
    (given : PlainSource source) (known : transport ∈ transports) {word : String} {words : List String}
    (parts : ∀ part ∈ word::words, IsWord part) (some : words ≠ []) :
    contains (listedRule (mappingRule installed listed source transport)) (phrase (word::words)) = true ↔
      Occurs word.toList (words.map String.toList)
        ((mappingRule installed listed (listedSource source) transport).map String.toList) := by
  have words := @listedWords_mappingRule installed listed source transport known
  rw [ruleLine_contains_iff (words ▸ mappingRule_words plain (sourceChar_word (listedSource_chars given)) known)
    parts some,words]

/-- A word that holds a foreign character is not a decimal text, nor the beginning of one. -/
theorem port_prefix (port : UInt16) {c : Char} (foreign : sourceChar c = false) (rest : List Char) :
    ¬ c::rest <+: (toString port.toNat).toList := by
  intro front
  have inside := port_chars port c (front.subset List.mem_cons_self)
  simp [foreign] at inside

theorem mappingLine_interface_iff {interface : String} (plain : interface.toList.all interfaceChar = true)
    (otherPlain : installed.scope.interface.toList.all interfaceChar = true) (given : PlainSource source)
    (known : transport ∈ transports) :
    contains (listedRule (mappingRule installed listed source transport)) (phrase ["iifname",quoted interface]) = true ↔
      installed.scope.interface = interface := by
  have parts : ∀ part ∈ ["iifname",quoted interface], IsWord part := by
    simp only [List.forall_mem_cons]
    exact ⟨by decide,quoted_word plain,by simp⟩
  have apart (rest : List Char) : ¬ '"'::rest <+: (listedSource source).toList := source_prefix given (by decide) rest
  have portApart (rest : List Char) : ¬ '"'::rest <+: (toString installed.sourcePort.toNat).toList :=
    port_prefix _ (by decide) rest
  have named : interface.toList ++ ['"'] <+: installed.scope.interface.toList ++ ['"'] ↔
      installed.scope.interface = interface := by
    have iff := quoted_prefix_iff (unquoted plain) (unquoted otherPlain)
    rw [quoted_toList,quoted_toList,List.cons_prefix_cons] at iff
    simpa [eq_comm] using iff
  rw [mappingLine_contains_iff otherPlain given known parts (by simp)]
  simp only [transports,List.mem_cons,List.not_mem_nil,or_false] at known
  rcases known with rfl | rfl
  all_goals cases listed
  all_goals
    simp only [mappingRule,List.map_cons,List.map_nil,Occurs,Begins,quoted_toList,apart,portApart,IpVersion.nft,
      IpVersion.nfproto,Mapping.markClearMaskHex,String.toList_append]
    simpa using named

theorem mappingLine_source_iff (plain : installed.scope.interface.toList.all interfaceChar = true)
    (given : PlainSource source) (known : transport ∈ transports) {text : String} (word : IsWord text) :
    contains (listedRule (mappingRule installed listed source transport)) (phrase [family.nft,"saddr",text]) = true ↔
      listed = family ∧ text.toList <+: (listedSource source).toList := by
  have parts : ∀ part ∈ [family.nft,"saddr",text], IsWord part := by
    simp only [List.forall_mem_cons]
    exact ⟨nft_word family,by decide,word,by simp⟩
  have bare : "saddr" ≠ quoted installed.scope.interface := (quoted_ne _ (by decide)).symm
  have apart : "saddr" ≠ listedSource source := (source_ne given (c := 's') (by decide) (by decide)).symm
  have portApart : "saddr" ≠ toString installed.sourcePort.toNat :=
    (text_ne (port_chars _) (c := 's') (by decide) (by decide)).symm
  have longer : ¬ ['i','p','6'] <:+ ['i','p'] := by decide
  have shorter : ¬ ['i','p'] <:+ ['i','p','6'] := by decide
  have targetApart : "saddr" ≠ ":" ++ toString installed.target.port.toNat :=
    (text_ne (target_chars _) (c := 's') (by decide) (by decide)).symm
  rw [mappingLine_contains_iff plain given known parts (by simp)]
  simp only [transports,List.mem_cons,List.not_mem_nil,or_false] at known
  rcases known with rfl | rfl
  all_goals cases listed
  all_goals cases family
  all_goals
    simp only [mappingRule,List.map_cons,List.map_nil,Occurs,Begins,String.toList_inj,IpVersion.nft,IpVersion.nfproto,
      Mapping.markClearMaskHex,bare,apart,portApart,targetApart]
    simp [longer,shorter]

theorem mappingLine_port_iff {port : UInt16} (plain : installed.scope.interface.toList.all interfaceChar = true)
    (given : PlainSource source) (known : transport ∈ transports) (protocolKnown : protocol ∈ transports) :
    contains (listedRule (mappingRule installed listed source transport))
      (phrase [protocol,"dport",toString port.toNat]) = true ↔
      transport = protocol ∧ PortShows port installed.sourcePort := by
  have parts : ∀ part ∈ [protocol,"dport",toString port.toNat], IsWord part := by
    simp only [List.forall_mem_cons]
    exact ⟨transport_word protocolKnown,by decide,port_word port,by simp⟩
  have bare : "dport" ≠ quoted installed.scope.interface := (quoted_ne _ (by decide)).symm
  have apart : "dport" ≠ listedSource source := (source_ne given (c := 'p') (by decide) (by decide)).symm
  have portApart : "dport" ≠ toString installed.sourcePort.toNat :=
    (text_ne (port_chars _) (c := 'p') (by decide) (by decide)).symm
  have targetApart : "dport" ≠ ":" ++ toString installed.target.port.toNat :=
    (text_ne (target_chars _) (c := 'p') (by decide) (by decide)).symm
  have udp : ¬ ['u','d','p'] <:+ ['t','c','p'] := by decide
  have tcp : ¬ ['t','c','p'] <:+ ['u','d','p'] := by decide
  rw [mappingLine_contains_iff plain given known parts (by simp)]
  simp only [transports,List.mem_cons,List.not_mem_nil,or_false] at known protocolKnown
  rcases known with rfl | rfl
  all_goals rcases protocolKnown with rfl | rfl
  all_goals cases listed
  all_goals
    simp only [mappingRule,List.map_cons,List.map_nil,Occurs,Begins,String.toList_inj,IpVersion.nft,IpVersion.nfproto,
      Mapping.markClearMaskHex,bare,apart,portApart,targetApart]
    simp [PortShows,udp,tcp]

theorem mappingLine_target_iff {port : UInt16} (plain : installed.scope.interface.toList.all interfaceChar = true)
    (given : PlainSource source) (known : transport ∈ transports) :
    contains (listedRule (mappingRule installed listed source transport))
      (phrase ["redirect","to",":" ++ toString port.toNat]) = true ↔ PortShows port installed.target.port := by
  have parts : ∀ part ∈ ["redirect","to",":" ++ toString port.toNat], IsWord part := by
    simp only [List.forall_mem_cons]
    exact ⟨by decide,by decide,target_word port,by simp⟩
  have bare : "to" ≠ quoted installed.scope.interface := (quoted_ne _ (by decide)).symm
  have apart : "to" ≠ listedSource source := (source_ne given (c := 't') (by decide) (by decide)).symm
  have portApart : "to" ≠ toString installed.sourcePort.toNat :=
    (text_ne (port_chars _) (c := 't') (by decide) (by decide)).symm
  have targetApart : "to" ≠ ":" ++ toString installed.target.port.toNat :=
    (text_ne (target_chars _) (c := 't') (by decide) (by decide)).symm
  rw [mappingLine_contains_iff plain given known parts (by simp)]
  simp only [transports,List.mem_cons,List.not_mem_nil,or_false] at known
  rcases known with rfl | rfl
  all_goals cases listed
  all_goals
    simp only [mappingRule,List.map_cons,List.map_nil,Occurs,Begins,String.toList_inj,IpVersion.nft,IpVersion.nfproto,
      Mapping.markClearMaskHex,bare,apart,portApart,targetApart]
    simp [PortShows]

theorem mappingLine_mark (plain : installed.scope.interface.toList.all interfaceChar = true)
    (given : PlainSource source) (known : transport ∈ transports) :
    contains (listedRule (mappingRule installed listed source transport))
      (phrase ["meta","mark","set","meta","mark","&",Mapping.markClearMaskHex]) = true := by
  rw [mappingLine_contains_iff plain given known (by decide) (by simp)]
  simp [mappingRule,Occurs,Begins,Mapping.markClearMaskHex]

theorem mappingLine_nfproto (plain : installed.scope.interface.toList.all interfaceChar = true)
    (given : PlainSource source) (known : transport ∈ transports) :
    contains (listedRule (mappingRule installed listed source transport)) (phrase ["meta","nfproto",listed.nfproto]) = true := by
  have parts : ∀ part ∈ ["meta","nfproto",listed.nfproto], IsWord part := by
    simp only [List.forall_mem_cons]
    exact ⟨by decide,by decide,nfproto_word listed,by simp⟩
  rw [mappingLine_contains_iff plain given known parts (by simp)]
  simp [mappingRule,Occurs,Begins]

/-- What the status asks of a line, answered for the listed rule of a source. -/
theorem mappingLine_matches_iff (plain : installed.scope.interface.toList.all interfaceChar = true)
    (expectedPlain : expected.scope.interface.toList.all interfaceChar = true) (other : PlainSource asked)
    (given : PlainSource source) (protocolKnown : protocol ∈ transports) (known : transport ∈ transports) :
    mappingLineMatches expected family asked protocol (listedRule (mappingRule installed listed source transport)) = true ↔
      installed.scope.interface = expected.scope.interface ∧ (listed = family ∧ Shows family asked source) ∧
        (transport = protocol ∧ PortShows expected.sourcePort installed.sourcePort) ∧
          PortShows expected.target.port installed.target.port := by
  have shown : sourceMatches (listedRule (mappingRule installed listed source transport)) family asked = true ↔
      listed = family ∧ Shows family asked source := by
    rw [sourceMatches_iff,Shows]
    constructor
    · rintro ⟨text,spelled,found⟩
      have word := sourceChar_word (spellings_chars other family text spelled)
      obtain ⟨same,front⟩ := (mappingLine_source_iff plain given known word).mp found
      exact ⟨same,text,spelled,front⟩
    · rintro ⟨same,text,spelled,front⟩
      have word := sourceChar_word (spellings_chars other family text spelled)
      exact ⟨text,spelled,(mappingLine_source_iff plain given known word).mpr ⟨same,front⟩⟩
  simp only [mappingLineMatches,Bool.and_eq_true,Bool.or_eq_true,mappingLine_interface_iff expectedPlain plain given known,
    shown,mappingLine_port_iff plain given known protocolKnown,mappingLine_target_iff plain given known,
    mappingLine_mark plain given known,and_true]
  constructor
  · rintro ⟨⟨⟨⟨named,shows⟩,_⟩,ports⟩,target⟩
    exact ⟨named,shows,ports,target⟩
  · rintro ⟨named,shows,ports,target⟩
    refine ⟨⟨⟨⟨named,shows⟩,.inl ?_⟩,ports⟩,target⟩
    rw [← shows.1]
    exact mappingLine_nfproto plain given known

theorem mappingLine_v4 (plain : installed.scope.interface.toList.all interfaceChar = true)
    (given : PlainSource source) (known : transport ∈ transports) :
    contains (listedRule (mappingRule installed .v4 source transport)) "meta nfproto ipv6" = false ∧
      contains (listedRule (mappingRule installed .v4 source transport)) "ip6 saddr" = false := by
  have proto : phrase ["meta","nfproto","ipv6"] = "meta nfproto ipv6" := by decide
  have saddr : phrase ["ip6","saddr"] = "ip6 saddr" := by decide
  have bare : "nfproto" ≠ quoted installed.scope.interface := (quoted_ne _ (by decide)).symm
  have apart : "nfproto" ≠ listedSource source := (source_ne given (c := 'n') (by decide) (by decide)).symm
  have portApart : "nfproto" ≠ toString installed.sourcePort.toNat :=
    (text_ne (port_chars _) (c := 'n') (by decide) (by decide)).symm
  have targetApart : "nfproto" ≠ ":" ++ toString installed.target.port.toNat :=
    (text_ne (target_chars _) (c := 'n') (by decide) (by decide)).symm
  have sourceApart (rest : List Char) : ¬ 's'::rest <+: (listedSource source).toList := source_prefix given (by decide) rest
  have portFront (rest : List Char) : ¬ 's'::rest <+: (toString installed.sourcePort.toNat).toList :=
    port_prefix _ (by decide) rest
  have longer : ¬ ['i','p','6'] <:+ ['i','p'] := by decide
  have spelled : "saddr".toList = ['s','a','d','d','r'] := by decide
  rw [← proto,← saddr,← Bool.not_eq_true,← Bool.not_eq_true,mappingLine_contains_iff plain given known (by decide) (by simp),
    mappingLine_contains_iff plain given known (by decide) (by simp)]
  simp only [transports,List.mem_cons,List.not_mem_nil,or_false] at known
  rcases known with rfl | rfl
  all_goals
    constructor
    · simp only [mappingRule,List.map_cons,List.map_nil,Occurs,Begins,String.toList_inj,IpVersion.nft,IpVersion.nfproto,
        Mapping.markClearMaskHex,bare,apart,portApart,targetApart]
      simp
    · simp only [mappingRule,List.map_cons,List.map_nil,Occurs,Begins,IpVersion.nft,IpVersion.nfproto,
        Mapping.markClearMaskHex,quoted_toList,String.toList_append,spelled,sourceApart,portFront]
      simp [longer]

end MapLine

section Ready
variable {installed expected : DnsMappingOptions}

theorem mappingRules_words (plain : PlainUse installed.scope installed.ipv6Enabled) :
    ∀ rule ∈ mappingRules installed, ∀ word ∈ listedWords rule, IsWord word := by
  intro rule member
  obtain ⟨⟨family,text⟩,listed,pair⟩ := List.mem_flatMap.mp member
  have word := sourceChar_word (listedSource_chars (plain.sources _ listed))
  simp only [List.mem_cons,List.not_mem_nil,or_false] at pair
  rcases pair with rfl | rfl
  · rw [listedWords_mappingRule (by decide)]
    exact mappingRule_words plain.interface word (by decide)
  · rw [listedWords_mappingRule (by decide)]
    exact mappingRule_words plain.interface word (by decide)

theorem mappingListing_lines (plain : PlainUse installed.scope installed.ipv6Enabled) :
    lines (mappingListing installed) = Mapping.head ++ (mappingRules installed).map listedRule ++ chainFoot := by
  rw [mappingListing,listing_lines (by decide +kernel) (mappingRules_words plain)]

theorem mappingLines_iff (plain : PlainUse installed.scope installed.ipv6Enabled)
    (expectedPlain : PlainUse expected.scope expected.ipv6Enabled) {family : IpVersion} {source : String}
    (member : (family,source) ∈ expected.sources) {protocol : String} (known : protocol ∈ transports) :
    (lines (mappingListing installed)).any (mappingLineMatches expected family source protocol) = true ↔
      installed.scope.interface = expected.scope.interface ∧
        (PortShows expected.sourcePort installed.sourcePort ∧ PortShows expected.target.port installed.target.port) ∧
          ∃ s ∈ installed.sources, s.1 = family ∧ Shows family source s.2 := by
  have asked := expectedPlain.sources _ member
  rw [mappingListing_lines plain,List.any_eq_true]
  constructor
  · rintro ⟨line,listed,found⟩
    have named : contains line "iifname" = true := by
      simp only [mappingLineMatches,Bool.and_eq_true] at found
      refine contains_of_contains found.1.1.1.1.1 ⟨[],' '::(quoted expected.scope.interface).toList,?_⟩
      simp [phrase,join]
    have unnamed : ∀ line ∈ Mapping.head ++ chainFoot, contains line "iifname" = false := by decide +kernel
    have fixed : line ∉ Mapping.head ++ chainFoot := by
      intro inside
      rw [unnamed line inside] at named
      cases named
    obtain ⟨rule,source,rfl⟩ := List.mem_map.mp (mem_between listed fixed)
    obtain ⟨⟨listed,text⟩,used,pair⟩ := List.mem_flatMap.mp source
    have given := plain.sources _ used
    simp only [List.mem_cons,List.not_mem_nil,or_false] at pair
    rcases pair with rfl | rfl
    all_goals
      obtain ⟨same,⟨version,shows⟩,⟨_,port⟩,target⟩ := (mappingLine_matches_iff plain.interface expectedPlain.interface
        asked given known (by decide)).mp found
      exact ⟨same,⟨port,target⟩,_,used,version,shows⟩
  · rintro ⟨same,⟨port,target⟩,⟨listed,text⟩,used,version,shows⟩
    have given := plain.sources _ used
    refine ⟨listedRule (mappingRule installed listed text protocol),?_,?_⟩
    · refine List.mem_append_left _ (List.mem_append_right _ (List.mem_map_of_mem (List.mem_flatMap.mpr ⟨_,used,?_⟩)))
      simp only [transports,List.mem_cons,List.not_mem_nil,or_false] at known
      rcases known with rfl | rfl
      · exact List.mem_cons_of_mem _ List.mem_cons_self
      · exact List.mem_cons_self
    · exact (mappingLine_matches_iff plain.interface expectedPlain.interface asked given known known).mpr
        ⟨same,⟨version,shows⟩,⟨rfl,port⟩,target⟩

theorem mappingSources_iff (plain : PlainUse installed.scope installed.ipv6Enabled)
    (expectedPlain : PlainUse expected.scope expected.ipv6Enabled) :
    (∀ e ∈ expected.sources, (["udp","tcp"].all fun protocol =>
      (lines (mappingListing installed)).any (mappingLineMatches expected e.1 e.2 protocol)) = true) ↔
        installed.scope.interface = expected.scope.interface ∧
          (PortShows expected.sourcePort installed.sourcePort ∧ PortShows expected.target.port installed.target.port) ∧
            Covers installed.sources expected.sources := by
  have answered {e : IpVersion × String} (member : e ∈ expected.sources) {protocol : String} (known : protocol ∈ transports) :=
    mappingLines_iff plain expectedPlain member known
  simp only [List.all_eq_true]
  constructor
  · intro ready
    have shown (e : IpVersion × String) (member : e ∈ expected.sources) :=
      (answered member (by decide : "udp" ∈ transports)).mp (ready e member "udp" (by decide))
    obtain ⟨first,head⟩ := expectedPlain.head4
    exact ⟨(shown _ head).1,(shown _ head).2.1,fun e member => (shown e member).2.2⟩
  · rintro ⟨same,ports,covered⟩ e member protocol known
    have transported : protocol ∈ transports := by
      simp only [transports,List.mem_cons,List.not_mem_nil,or_false] at known ⊢
      exact known.symm
    exact (answered member transported).mpr ⟨same,ports,covered e member⟩

theorem mappingIpv6_iff (plain : PlainUse installed.scope installed.ipv6Enabled) :
    ((lines (mappingListing installed)).any fun line => contains line "meta nfproto ipv6" || contains line "ip6 saddr") = true ↔
      installed.ipv6Enabled = true := by
  rw [mappingListing_lines plain,List.any_eq_true]
  constructor
  · rintro ⟨line,listed,found⟩
    have framed : ∀ line ∈ Mapping.head ++ chainFoot,
        (contains line "meta nfproto ipv6" || contains line "ip6 saddr") = false := by decide +kernel
    have fixed : line ∉ Mapping.head ++ chainFoot := by
      intro inside
      rw [framed line inside] at found
      cases found
    obtain ⟨rule,source,rfl⟩ := List.mem_map.mp (mem_between listed fixed)
    obtain ⟨⟨listed,text⟩,used,pair⟩ := List.mem_flatMap.mp source
    have given := plain.sources _ used
    cases listed with
    | v6 => exact enabled_of_mem used
    | v4 =>
      simp only [List.mem_cons,List.not_mem_nil,or_false] at pair
      have silent (transport : String) (known : transport ∈ transports) :
          (contains (listedRule (mappingRule installed .v4 text transport)) "meta nfproto ipv6" ||
            contains (listedRule (mappingRule installed .v4 text transport)) "ip6 saddr") = false := by
        obtain ⟨proto,saddr⟩ := mappingLine_v4 plain.interface given known
        rw [proto,saddr]
        rfl
      rcases pair with rfl | rfl
      · rw [silent "udp" (by decide)] at found
        cases found
      · rw [silent "tcp" (by decide)] at found
        cases found
  · intro enabled
    have six : PlainUse installed.scope true := enabled ▸ plain
    obtain ⟨text,used⟩ := six.head6
    rw [← enabled] at used
    refine ⟨listedRule (mappingRule installed .v6 text "udp"),?_,?_⟩
    · refine List.mem_append_left _ (List.mem_append_right _ (List.mem_map_of_mem (List.mem_flatMap.mpr ⟨_,used,?_⟩)))
      exact List.mem_cons_self
    · have proto : phrase ["meta","nfproto","ipv6"] = "meta nfproto ipv6" := by decide
      have shown : contains (listedRule (mappingRule installed .v6 text "udp")) (phrase ["meta","nfproto","ipv6"]) = true :=
        mappingLine_nfproto plain.interface (plain.sources _ used) (by decide)
      rw [← proto,Bool.or_eq_true]
      exact .inl shown

theorem mapping_ready_iff (plain : PlainUse installed.scope installed.ipv6Enabled)
    (expectedPlain : PlainUse expected.scope expected.ipv6Enabled) :
    mappingIsExpected (mappingListing installed) (some expected) = true ↔
      installed.scope.interface = expected.scope.interface ∧ installed.ipv6Enabled = expected.ipv6Enabled ∧
        (PortShows expected.sourcePort installed.sourcePort ∧ PortShows expected.target.port installed.target.port) ∧
          Covers installed.sources expected.sources := by
  have marker : contains (mappingListing installed) Mapping.ownerMarker = true :=
    (listing_contains_iff (by decide) (by decide) (by decide)).mpr (.inl (by decide +kernel))
  have priority : contains (mappingListing installed) "type nat hook prerouting priority -100;" = true :=
    (listing_contains_iff (by decide) (by decide) (by decide)).mpr (.inl (by decide +kernel))
  simp only [mappingIsExpected,marker,priority,Bool.or_true,Bool.true_and,Bool.and_eq_true]
  refine (and_congr (List.all_eq_true.trans (mappingSources_iff plain expectedPlain)) Iff.rfl).trans ?_
  rw [and_assoc,and_congr_right_iff]
  intro _
  have unexpected := mappingIpv6_iff plain
  cases switch : expected.ipv6Enabled with
  | false =>
    rw [Bool.not_false,Bool.true_and,Bool.not_eq_true',← Bool.not_eq_true,unexpected,Bool.not_eq_true]
    exact and_comm
  | true =>
    simp only [Bool.not_true,Bool.false_and,Bool.not_false,and_true]
    refine ⟨fun covered => ⟨?_,covered⟩,fun ready => ready.2⟩
    rw [switch] at expectedPlain
    obtain ⟨first,head⟩ := expectedPlain.head6
    obtain ⟨⟨version,source⟩,used,same,_⟩ := covered.2 (.v6,first) (by rwa [DnsMappingOptions.sources,switch])
    cases same
    exact enabled_of_mem used

end Ready

end Dynet.Capture
