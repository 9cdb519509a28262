import Dynet.Capture.Listing

/-! The router ingress hook: its rules, how nft lists them, and what its status reads out
of the listing. -/
namespace Dynet.Capture
open Dynet.Runtime Dynet.Lib Dynet.Lib.Text Dynet.Lib.Words

namespace Router

def chain : String := "dynet_router_ingress"
def ownerMarker : String := "dynet-owned: router-ingress:v1"
def head : List String := chainHead chain "filter" "-151" ownerMarker

end Router

structure RouterHookOptions where
  scope : TrafficScope
  ipv6Enabled : Bool
  deriving DecidableEq, Repr

namespace RouterHookOptions

def validate (options : RouterHookOptions) : Except String Unit := options.scope.validate options.ipv6Enabled

def sources (options : RouterHookOptions) : List (IpVersion × String) := options.scope.sources options.ipv6Enabled

end RouterHookOptions

def markRule (interface : String) (family : IpVersion) (source protocol : String) : List String :=
  ["iifname",quoted interface,family.nft,"saddr",source,"meta","l4proto",protocol,"meta","mark","set",
    "meta","mark","|",markValueHex]

/-- The rules of the chain before any source, without the words that address the chain. -/
def guardRules (ipv6Enabled : Bool) : List (List String) :=
  [["meta","mark","&",markMaskHex,"!=","0","return"],["fib","daddr","type","local","return"],
    ["ip","daddr","0.0.0.0/8","return"],["ip","daddr","10.0.0.0/8","return"],["ip","daddr","127.0.0.0/8","return"],
    ["ip","daddr","169.254.0.0/16","return"],["ip","daddr","172.16.0.0/12","return"],
    ["ip","daddr","192.168.0.0/16","return"],["ip","daddr","224.0.0.0/4","return"],
    ["ip","daddr","255.255.255.255","return"]] ++
  if ipv6Enabled then [["ip6","daddr","::1","return"],["ip6","daddr","fe80::/10","return"],
    ["ip6","daddr","fc00::/7","return"],["ip6","daddr","ff00::/8","return"]]
  else [["meta","nfproto","ipv6","return"]]

def sourceRules (options : RouterHookOptions) : List (List String) :=
  options.sources.flatMap fun (family,source) =>
    [markRule options.scope.interface family source "tcp",markRule options.scope.interface family source "udp"]

def routerRules (options : RouterHookOptions) : List (List String) :=
  guardRules options.ipv6Enabled ++ sourceRules options

def nftRule (chain : String) (rule : List String) : List String := ["add","rule",nftFamily,nftTable,chain] ++ rule

def routerLineMatches (interface : String) (family : IpVersion) (source protocol line : String) : Bool :=
  contains line (phrase ["iifname",quoted interface]) && sourceMatches line family source &&
    contains line (phrase ["meta","l4proto",protocol]) &&
    contains line (phrase ["meta","mark","set","meta","mark","|",markValueHex])

def routerChainIsExpected (stdout : String) (options : Option RouterHookOptions) : Bool :=
  contains stdout Router.ownerMarker && match options with
    | none => true
    | some options =>
      let priority := contains stdout "type filter hook prerouting priority -151;" ||
        contains stdout "type filter hook prerouting priority mangle - 1;"
      let markGuard := contains stdout "meta mark & 0x40000000 != 0 return" ||
        contains stdout "meta mark & 0x40000000 != 0x00000000 return"
      let sources := options.sources.all fun (family,source) => ["tcp","udp"].all fun protocol =>
        (lines stdout).any (routerLineMatches options.scope.interface family source protocol)
      let expectedIpv6 := if options.ipv6Enabled then contains stdout "ip6 daddr fe80::/10 return" &&
          contains stdout "ip6 daddr fc00::/7 return" && contains stdout "ip6 daddr ff00::/8 return"
        else contains stdout "meta nfproto ipv6 return"
      priority && markGuard && sources && expectedIpv6 && contains stdout "fib daddr type local return" &&
        contains stdout "ip daddr 10.0.0.0/8 return" && contains stdout "ip daddr 172.16.0.0/12 return" &&
        contains stdout "ip daddr 192.168.0.0/16 return"

def routerChainStatus (output : Except String CommandOutput) (options : Option RouterHookOptions) : CheckState :=
  chainState output fun stdout => routerChainIsExpected stdout options

/-- The listing of a chain that was installed for these options. -/
def routerListing (options : RouterHookOptions) : String :=
  listChain Router.head (routerRules options)

section MarkLine
variable {interface other : String} {family listed : IpVersion} {expected source : String} {protocol transport : String}

theorem listedWords_markRule (known : transport ∈ transports) :
    listedWords (markRule interface family source transport) = markRule interface family (listedSource source) transport := by
  have transportOther : transport ≠ "saddr" := by
    rintro rfl
    exact absurd known (by decide)
  have familyOther : family.nft ≠ "saddr" := by cases family <;> decide
  unfold markRule
  rw [listedWords_cons (by decide),listedWords_cons (quoted_ne interface (by decide)),listedWords_cons familyOther,
    listedWords_saddr,listedWords_cons (by decide),listedWords_cons (by decide),listedWords_cons transportOther]
  rfl

theorem markRule_words (plain : interface.toList.all interfaceChar = true) (word : IsWord source)
    (known : transport ∈ transports) : ∀ part ∈ markRule interface family source transport, IsWord part := by
  have middle : ∀ part ∈ ["meta","mark","set","meta","mark","|",markValueHex], IsWord part := by decide
  simp only [markRule,List.forall_mem_cons]
  simp only [List.forall_mem_cons] at middle
  exact ⟨by decide,quoted_word plain,nft_word family,by decide,word,by decide,by decide,transport_word known,middle⟩

theorem markLine_contains_iff (plain : other.toList.all interfaceChar = true) (given : PlainSource source)
    (known : transport ∈ transports) {word : String} {words : List String} (parts : ∀ part ∈ word::words, IsWord part)
    (some : words ≠ []) :
    contains (listedRule (markRule other listed source transport)) (phrase (word::words)) = true ↔
      Occurs word.toList (words.map String.toList)
        ((markRule other listed (listedSource source) transport).map String.toList) := by
  have words := @listedWords_markRule other listed source transport known
  rw [ruleLine_contains_iff (words ▸ markRule_words plain (sourceChar_word (listedSource_chars given)) known) parts some,words]

theorem markLine_interface_iff (plain : interface.toList.all interfaceChar = true)
    (otherPlain : other.toList.all interfaceChar = true) (given : PlainSource source) (known : transport ∈ transports) :
    contains (listedRule (markRule other listed source transport)) (phrase ["iifname",quoted interface]) = true ↔
      other = interface := by
  have parts : ∀ part ∈ ["iifname",quoted interface], IsWord part := by
    simp only [List.forall_mem_cons]
    exact ⟨by decide,quoted_word plain,by simp⟩
  have apart (rest : List Char) : ¬ '"'::rest <+: (listedSource source).toList := source_prefix given (by decide) rest
  have named : interface.toList ++ ['"'] <+: other.toList ++ ['"'] ↔ other = interface := by
    have iff := quoted_prefix_iff (unquoted plain) (unquoted otherPlain)
    rw [quoted_toList,quoted_toList,List.cons_prefix_cons] at iff
    simpa [eq_comm] using iff
  rw [markLine_contains_iff otherPlain given known parts (by simp)]
  simp only [transports,List.mem_cons,List.not_mem_nil,or_false] at known
  rcases known with rfl | rfl
  all_goals cases listed
  all_goals
    simp only [markRule,List.map_cons,List.map_nil,Occurs,Begins,quoted_toList,apart,IpVersion.nft,markValueHex]
    simpa using named

theorem markLine_source_iff (otherPlain : other.toList.all interfaceChar = true) (given : PlainSource source)
    (known : transport ∈ transports) {text : String} (word : IsWord text) :
    contains (listedRule (markRule other listed source transport)) (phrase [family.nft,"saddr",text]) = true ↔
      listed = family ∧ text.toList <+: (listedSource source).toList := by
  have parts : ∀ part ∈ [family.nft,"saddr",text], IsWord part := by
    simp only [List.forall_mem_cons]
    exact ⟨nft_word family,by decide,word,by simp⟩
  have bare : "saddr" ≠ quoted other := (quoted_ne other (by decide)).symm
  have apart : "saddr" ≠ listedSource source := (source_ne given (c := 's') (by decide) (by decide)).symm
  have longer : ¬ ['i','p','6'] <:+ ['i','p'] := by decide
  have shorter : ¬ ['i','p'] <:+ ['i','p','6'] := by decide
  rw [markLine_contains_iff otherPlain given known parts (by simp)]
  simp only [transports,List.mem_cons,List.not_mem_nil,or_false] at known
  rcases known with rfl | rfl
  all_goals cases listed
  all_goals cases family
  all_goals
    simp only [markRule,List.map_cons,List.map_nil,Occurs,Begins,String.toList_inj,IpVersion.nft,markValueHex,bare,apart]
    simp [longer,shorter]

theorem markLine_protocol_iff (otherPlain : other.toList.all interfaceChar = true) (given : PlainSource source)
    (known : transport ∈ transports) (protocolKnown : protocol ∈ transports) :
    contains (listedRule (markRule other listed source transport)) (phrase ["meta","l4proto",protocol]) = true ↔
      transport = protocol := by
  have parts : ∀ part ∈ ["meta","l4proto",protocol], IsWord part := by
    simp only [List.forall_mem_cons]
    exact ⟨by decide,by decide,transport_word protocolKnown,by simp⟩
  have bare : "l4proto" ≠ quoted other := (quoted_ne other (by decide)).symm
  have apart : "l4proto" ≠ listedSource source := (source_ne given (c := 'l') (by decide) (by decide)).symm
  rw [markLine_contains_iff otherPlain given known parts (by simp)]
  simp only [transports,List.mem_cons,List.not_mem_nil,or_false] at known protocolKnown
  rcases known with rfl | rfl
  all_goals rcases protocolKnown with rfl | rfl
  all_goals cases listed
  all_goals
    simp only [markRule,List.map_cons,List.map_nil,Occurs,Begins,String.toList_inj,IpVersion.nft,markValueHex,bare,apart]
    simp

theorem markLine_mark (otherPlain : other.toList.all interfaceChar = true) (given : PlainSource source)
    (known : transport ∈ transports) : contains (listedRule (markRule other listed source transport))
      (phrase ["meta","mark","set","meta","mark","|",markValueHex]) = true := by
  rw [markLine_contains_iff otherPlain given known (by decide) (by simp)]
  simp [markRule,Occurs,Begins,markValueHex]

/-- What the status asks of a line, answered for the listed rule of a source. -/
theorem markLine_matches_iff (plain : interface.toList.all interfaceChar = true)
    (otherPlain : other.toList.all interfaceChar = true) (asked : PlainSource expected) (given : PlainSource source)
    (protocolKnown : protocol ∈ transports) (known : transport ∈ transports) :
    routerLineMatches interface family expected protocol (listedRule (markRule other listed source transport)) = true ↔
      other = interface ∧ listed = family ∧ transport = protocol ∧ Shows family expected source := by
  have shown : sourceMatches (listedRule (markRule other listed source transport)) family expected = true ↔
      listed = family ∧ Shows family expected source := by
    rw [sourceMatches_iff,Shows]
    constructor
    · rintro ⟨text,spelled,found⟩
      have word := sourceChar_word (spellings_chars asked family text spelled)
      obtain ⟨same,front⟩ := (markLine_source_iff otherPlain given known word).mp found
      exact ⟨same,text,spelled,front⟩
    · rintro ⟨same,text,spelled,front⟩
      have word := sourceChar_word (spellings_chars asked family text spelled)
      exact ⟨text,spelled,(markLine_source_iff otherPlain given known word).mpr ⟨same,front⟩⟩
  simp only [routerLineMatches,Bool.and_eq_true,markLine_interface_iff plain otherPlain given known,shown,
    markLine_protocol_iff otherPlain given known protocolKnown,markLine_mark otherPlain given known,and_true]
  constructor
  · rintro ⟨⟨named,same,shows⟩,transported⟩
    exact ⟨named,same,transported,shows⟩
  · rintro ⟨named,same,transported,shows⟩
    exact ⟨⟨named,same,shows⟩,transported⟩

end MarkLine

theorem guard_listed (ipv6Enabled : Bool) :
    ∀ rule ∈ guardRules ipv6Enabled, listedWords rule = rule ∧ ∀ word ∈ rule, IsWord word := by
  cases ipv6Enabled <;> decide

/-- The lines of a listing that no source has written. -/
def fixedLines (ipv6Enabled : Bool) : List String :=
  Router.head ++ (guardRules ipv6Enabled).map listedRule ++ chainFoot

theorem fixedLines_unnamed (ipv6Enabled : Bool) :
    ∀ line ∈ fixedLines ipv6Enabled, contains line "iifname" = false := by
  have framed : ∀ line ∈ Router.head ++ chainFoot, contains line "iifname" = false := by decide +kernel
  have bare : ∀ rule ∈ guardRules ipv6Enabled, ∀ word ∈ rule, ¬contains word "iifname" = true := by
    cases ipv6Enabled <;> decide +kernel
  rw [List.forall_mem_append] at framed
  simp only [fixedLines,List.forall_mem_append,List.forall_mem_map]
  refine ⟨⟨framed.1,fun rule guard => ?_⟩,framed.2⟩
  rw [listedRule,(guard_listed _ rule guard).1,← Bool.not_eq_true,contains_indented_iff (by decide) (by decide),phrase,
    contains_join_iff (by decide) (by decide)]
  rintro ⟨word,member,named⟩
  exact bare rule guard word member named

section Ready
variable {installed expected : RouterHookOptions}

theorem routerRules_words (plain : PlainUse installed.scope installed.ipv6Enabled) :
    ∀ rule ∈ routerRules installed, ∀ word ∈ listedWords rule, IsWord word := by
  intro rule member
  rcases List.mem_append.mp member with guard | source
  · obtain ⟨same,words⟩ := guard_listed _ rule guard
    rwa [same]
  · obtain ⟨⟨family,text⟩,listed,pair⟩ := List.mem_flatMap.mp source
    have word := sourceChar_word (listedSource_chars (plain.sources _ listed))
    simp only [List.mem_cons,List.not_mem_nil,or_false] at pair
    rcases pair with rfl | rfl
    · rw [listedWords_markRule (by decide)]
      exact markRule_words plain.interface word (by decide)
    · rw [listedWords_markRule (by decide)]
      exact markRule_words plain.interface word (by decide)

theorem routerLines_iff (plain : PlainUse installed.scope installed.ipv6Enabled) (expectedPlain : PlainUse expected.scope expected.ipv6Enabled)
    {family : IpVersion} {source : String} (member : (family,source) ∈ expected.sources) {protocol : String}
    (known : protocol ∈ transports) :
    (lines (routerListing installed)).any (routerLineMatches expected.scope.interface family source protocol) = true ↔
      installed.scope.interface = expected.scope.interface ∧
        ∃ s ∈ installed.sources, s.1 = family ∧ Shows family source s.2 := by
  have asked := expectedPlain.sources _ member
  rw [routerListing,listing_lines (by decide +kernel) (routerRules_words plain),List.any_eq_true]
  constructor
  · rintro ⟨line,listed,found⟩
    have named : contains line "iifname" = true := by
      simp only [routerLineMatches,Bool.and_eq_true] at found
      refine contains_of_contains found.1.1.1 ⟨[],' '::(quoted expected.scope.interface).toList,?_⟩
      simp [phrase,join]
    have fixed : line ∉ fixedLines installed.ipv6Enabled := by
      intro inside
      rw [fixedLines_unnamed _ line inside] at named
      cases named
    rw [routerRules,List.map_append,← List.append_assoc] at listed
    obtain ⟨rule,source,rfl⟩ := List.mem_map.mp (mem_between listed fixed)
    obtain ⟨⟨listed,text⟩,used,pair⟩ := List.mem_flatMap.mp source
    have given := plain.sources _ used
    simp only [List.mem_cons,List.not_mem_nil,or_false] at pair
    rcases pair with rfl | rfl
    all_goals
      obtain ⟨same,version,_,shows⟩ := (markLine_matches_iff expectedPlain.interface plain.interface asked given known
        (by decide)).mp found
      exact ⟨same,_,used,version,shows⟩
  · rintro ⟨same,⟨listed,text⟩,used,version,shows⟩
    have given := plain.sources _ used
    refine ⟨listedRule (markRule installed.scope.interface listed text protocol),?_,?_⟩
    · refine List.mem_append_left _ (List.mem_append_right _ (List.mem_map_of_mem (List.mem_append_right _ ?_)))
      refine List.mem_flatMap.mpr ⟨_,used,?_⟩
      simp only [transports,List.mem_cons,List.not_mem_nil,or_false] at known
      rcases known with rfl | rfl
      · exact List.mem_cons_self
      · exact List.mem_cons_of_mem _ List.mem_cons_self
    · exact (markLine_matches_iff expectedPlain.interface plain.interface asked given known known).mpr
        ⟨same,version,rfl,shows⟩

theorem guard_shown {rule : List String} {part : String} (spelled : phrase rule = part)
    (breaks : '\n' ∉ part.toList) (tabs : '\t' ∉ part.toList) (some : part ≠ "")
    (guard : rule ∈ guardRules installed.ipv6Enabled) : contains (routerListing installed) part = true := by
  refine (listing_contains_iff breaks tabs some).mpr (.inr ⟨rule,List.mem_append_left _ guard,?_⟩)
  rw [(guard_listed _ rule guard).1,spelled,contains_iff]

theorem head_shown {part : String} (breaks : '\n' ∉ part.toList) (tabs : '\t' ∉ part.toList) (some : part ≠ "")
    (shown : ∃ line ∈ Router.head ++ chainFoot, contains line part = true) :
    contains (routerListing installed) part = true := (listing_contains_iff breaks tabs some).mpr (.inl shown)

theorem ipv6Return_iff (plain : PlainUse installed.scope installed.ipv6Enabled) :
    contains (routerListing installed) "meta nfproto ipv6 return" = true ↔ installed.ipv6Enabled = false := by
  constructor
  · intro found
    by_contra enabled
    rw [Bool.not_eq_false] at enabled
    rw [routerListing,listing_contains_iff (by decide) (by decide) (by decide)] at found
    have framed : ∀ line ∈ Router.head ++ chainFoot, contains line "meta nfproto ipv6 return" = false := by
      decide +kernel
    have guarded : ∀ rule ∈ guardRules true, contains (phrase (listedWords rule)) "meta nfproto ipv6 return" = false := by
      decide +kernel
    rcases found with ⟨line,member,found⟩ | ⟨rule,member,found⟩
    · rw [framed line member] at found
      cases found
    · rw [routerRules,enabled] at member
      rcases List.mem_append.mp member with guard | source
      · rw [guarded rule guard] at found
        cases found
      · obtain ⟨⟨listed,text⟩,used,pair⟩ := List.mem_flatMap.mp source
        have given := plain.sources _ used
        have absent (transport : String) (known : transport ∈ transports) :
            contains (listedRule (markRule installed.scope.interface listed text transport))
              (phrase ["meta","nfproto","ipv6","return"]) ≠ true := by
          have bare : "nfproto" ≠ quoted installed.scope.interface := (quoted_ne _ (by decide)).symm
          have apart : "nfproto" ≠ listedSource text := (source_ne given (c := 'n') (by decide) (by decide)).symm
          rw [ne_eq,markLine_contains_iff plain.interface given known (by decide) (by simp)]
          simp only [transports,List.mem_cons,List.not_mem_nil,or_false] at known
          rcases known with rfl | rfl
          all_goals cases listed
          all_goals
            simp only [markRule,List.map_cons,List.map_nil,Occurs,Begins,String.toList_inj,IpVersion.nft,markValueHex,
              bare,apart]
            simp
        have spelled : phrase ["meta","nfproto","ipv6","return"] = "meta nfproto ipv6 return" := by decide
        rw [← spelled,← contains_indented_iff (by decide) (by decide)] at found
        simp only [List.mem_cons,List.not_mem_nil,or_false] at pair
        rcases pair with rfl | rfl
        · exact absent "tcp" (by decide) found
        · exact absent "udp" (by decide) found
  · intro disabled
    have guard : ["meta","nfproto","ipv6","return"] ∈ guardRules installed.ipv6Enabled := by
      rw [disabled]
      decide
    exact guard_shown (by decide) (by decide) (by decide) (by decide) guard

theorem routerSources_iff (plain : PlainUse installed.scope installed.ipv6Enabled) (expectedPlain : PlainUse expected.scope expected.ipv6Enabled) :
    (∀ e ∈ expected.sources, (["tcp","udp"].all fun protocol =>
      (lines (routerListing installed)).any (routerLineMatches expected.scope.interface e.1 e.2 protocol)) = true) ↔
        installed.scope.interface = expected.scope.interface ∧ Covers installed.sources expected.sources := by
  have answered {e : IpVersion × String} (member : e ∈ expected.sources) {protocol : String} (known : protocol ∈ transports) :=
    routerLines_iff plain expectedPlain member known
  simp only [List.all_eq_true]
  constructor
  · intro ready
    have shown (e : IpVersion × String) (member : e ∈ expected.sources) :=
      (answered member (by decide : "tcp" ∈ transports)).mp (ready e member "tcp" (by decide))
    obtain ⟨first,head⟩ := expectedPlain.head4
    exact ⟨(shown _ head).1,fun e member => (shown e member).2⟩
  · rintro ⟨same,covered⟩ e member protocol known
    exact (answered member known).mpr ⟨same,covered e member⟩

theorem router_ready_iff (plain : PlainUse installed.scope installed.ipv6Enabled) (expectedPlain : PlainUse expected.scope expected.ipv6Enabled) :
    routerChainIsExpected (routerListing installed) (some expected) = true ↔
      installed.scope.interface = expected.scope.interface ∧ installed.ipv6Enabled = expected.ipv6Enabled ∧
        Covers installed.sources expected.sources := by
  have guards (enabled : Bool) : ∀ rule ∈ [["meta","mark","&",markMaskHex,"!=","0","return"],
      ["fib","daddr","type","local","return"],["ip","daddr","10.0.0.0/8","return"],
      ["ip","daddr","172.16.0.0/12","return"],["ip","daddr","192.168.0.0/16","return"]], rule ∈ guardRules enabled := by
    cases enabled <;> decide
  simp only [List.forall_mem_cons] at guards
  obtain ⟨mark,localRule,ten,middle,home,_⟩ := guards installed.ipv6Enabled
  have marker : contains (routerListing installed) Router.ownerMarker = true :=
    head_shown (by decide) (by decide) (by decide) (by decide +kernel)
  have priority : contains (routerListing installed) "type filter hook prerouting priority -151;" = true :=
    head_shown (by decide) (by decide) (by decide) (by decide +kernel)
  have markGuard : contains (routerListing installed) "meta mark & 0x40000000 != 0 return" = true :=
    guard_shown (by decide) (by decide) (by decide) (by decide) mark
  have localGuard : contains (routerListing installed) "fib daddr type local return" = true :=
    guard_shown (by decide) (by decide) (by decide) (by decide) localRule
  have tenGuard : contains (routerListing installed) "ip daddr 10.0.0.0/8 return" = true :=
    guard_shown (by decide) (by decide) (by decide) (by decide) ten
  have middleGuard : contains (routerListing installed) "ip daddr 172.16.0.0/12 return" = true :=
    guard_shown (by decide) (by decide) (by decide) (by decide) middle
  have homeGuard : contains (routerListing installed) "ip daddr 192.168.0.0/16 return" = true :=
    guard_shown (by decide) (by decide) (by decide) (by decide) home
  simp only [routerChainIsExpected,marker,priority,markGuard,localGuard,tenGuard,middleGuard,homeGuard,Bool.true_or,
    Bool.true_and,Bool.and_true,Bool.and_eq_true]
  refine (and_congr (List.all_eq_true.trans (routerSources_iff plain expectedPlain)) Iff.rfl).trans ?_
  rw [and_assoc,and_congr_right_iff]
  intro _
  cases switch : expected.ipv6Enabled with
  | false => simp [ipv6Return_iff plain,and_comm]
  | true =>
    have six (enabled : installed.ipv6Enabled = true) : ∀ rule ∈ [["ip6","daddr","fe80::/10","return"],
        ["ip6","daddr","fc00::/7","return"],["ip6","daddr","ff00::/8","return"]],
        rule ∈ guardRules installed.ipv6Enabled := by
      rw [enabled]
      decide
    constructor
    · rintro ⟨covered,_⟩
      -- An expected IPv6 source is shown by an installed one, so IPv6 is installed.
      rw [switch] at expectedPlain
      obtain ⟨first,head⟩ := expectedPlain.head6
      obtain ⟨⟨version,source⟩,used,same,_⟩ := covered (.v6,first) (by rwa [RouterHookOptions.sources,switch])
      cases same
      exact ⟨enabled_of_mem used,covered⟩
    · rintro ⟨enabled,covered⟩
      simp only [List.forall_mem_cons] at six
      obtain ⟨link,unique,multi,_⟩ := six enabled
      have linkGuard : contains (routerListing installed) "ip6 daddr fe80::/10 return" = true :=
        guard_shown (by decide) (by decide) (by decide) (by decide) link
      have uniqueGuard : contains (routerListing installed) "ip6 daddr fc00::/7 return" = true :=
        guard_shown (by decide) (by decide) (by decide) (by decide) unique
      have multiGuard : contains (routerListing installed) "ip6 daddr ff00::/8 return" = true :=
        guard_shown (by decide) (by decide) (by decide) (by decide) multi
      exact ⟨covered,by simp [linkGuard,uniqueGuard,multiGuard]⟩

end Ready

end Dynet.Capture
