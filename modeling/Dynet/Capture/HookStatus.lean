import Dynet.Capture.RouterIngress
import Dynet.Capture.DnsMapping

/-! What the status of an installed hook says of the options it was installed for. -/
namespace Dynet.Capture
open Dynet.Runtime

def prefixes (sources : List (IpVersion × String)) : List (IpAddr × Nat) := sources.filterMap (denoted ·.2)

def SamePrefixes (installed expected : List (IpVersion × String)) : Prop :=
  ∀ target, target ∈ prefixes installed ↔ target ∈ prefixes expected

def RouterHookOptions.Same (installed expected : RouterHookOptions) : Prop :=
  installed.scope.interface = expected.scope.interface ∧ SamePrefixes installed.sources expected.sources

def DnsMappingOptions.Same (installed expected : DnsMappingOptions) : Prop :=
  installed.scope.interface = expected.scope.interface ∧ SamePrefixes installed.sources expected.sources ∧
    installed.sourcePort = expected.sourcePort ∧ installed.target.port = expected.target.port

/-- An expected source whose text begins the listed form of no installed one. -/
def Unshown (installed expected : List (IpVersion × String)) : Prop :=
  ∃ e ∈ expected, ∀ s ∈ installed, s.1 = e.1 → ¬ Shows e.1 e.2 s.2

theorem unshown_iff (installed expected : List (IpVersion × String)) :
    Unshown installed expected ↔ ¬ Covers installed expected := by
  unfold Unshown Covers
  push Not
  rfl

/-- The options agree, and the listing spells an expected source in another way. -/
def RouterHookOptions.Misspelled (installed expected : RouterHookOptions) : Prop :=
  installed.Same expected ∧ Unshown installed.sources expected.sources

/-- Interface and IPv6 switch agree and every expected source begins an installed one,
but the prefixes differ. -/
def RouterHookOptions.Unnoticed (installed expected : RouterHookOptions) : Prop :=
  installed.scope.interface = expected.scope.interface ∧ installed.ipv6Enabled = expected.ipv6Enabled ∧
    ¬ Unshown installed.sources expected.sources ∧ ¬ SamePrefixes installed.sources expected.sources

def DnsMappingOptions.Misspelled (installed expected : DnsMappingOptions) : Prop :=
  installed.Same expected ∧ Unshown installed.sources expected.sources

/-- As for the router hook; also the decimal texts of the expected ports begin the
installed ones, but prefixes or ports differ. -/
def DnsMappingOptions.Unnoticed (installed expected : DnsMappingOptions) : Prop :=
  installed.scope.interface = expected.scope.interface ∧ installed.ipv6Enabled = expected.ipv6Enabled ∧
    PortShows expected.sourcePort installed.sourcePort ∧ PortShows expected.target.port installed.target.port ∧
      ¬ Unshown installed.sources expected.sources ∧
        (¬ SamePrefixes installed.sources expected.sources ∨ installed.sourcePort ≠ expected.sourcePort ∨
          installed.target.port ≠ expected.target.port)

section Scopes
variable {scope other : TrafficScope} {enabled otherEnabled : Bool}

theorem mem_prefixes_six (plain : PlainUse scope enabled) :
    enabled = true ↔ ∃ target ∈ prefixes (scope.sources enabled), version target.1 = .v6 := by
  constructor
  · rintro rfl
    obtain ⟨text,used⟩ := plain.head6
    obtain ⟨target,denotes⟩ := (plain.sources _ used).denotes
    exact ⟨target,List.mem_filterMap.mpr ⟨_,used,denotes⟩,plain.versions _ used target denotes⟩
  · rintro ⟨target,member,six⟩
    obtain ⟨⟨family,text⟩,used,denotes⟩ := List.mem_filterMap.mp member
    have same := plain.versions _ used target denotes
    rw [six] at same
    cases same
    exact enabled_of_mem used

theorem enabled_of_samePrefixes (plain : PlainUse scope enabled) (otherPlain : PlainUse other otherEnabled)
    (same : SamePrefixes (scope.sources enabled) (other.sources otherEnabled)) : enabled = otherEnabled := by
  rw [Bool.eq_iff_iff,mem_prefixes_six plain,mem_prefixes_six otherPlain]
  constructor
  · rintro ⟨target,member,six⟩
    exact ⟨target,(same target).mp member,six⟩
  · rintro ⟨target,member,six⟩
    exact ⟨target,(same target).mpr member,six⟩

end Scopes

theorem router_status_iff {installed expected : RouterHookOptions} (valid : installed.validate = .ok ())
    (expectedValid : expected.validate = .ok ()) :
    routerChainStatus (.ok ⟨true,routerListing installed,""⟩) (some expected) = .ready ↔
      installed.scope.interface = expected.scope.interface ∧ installed.ipv6Enabled = expected.ipv6Enabled ∧
        Covers installed.sources expected.sources := by
  rw [← router_ready_iff (validate_plainUse valid) (validate_plainUse expectedValid)]
  simp [routerChainStatus,chainState]

theorem mapping_status_iff {installed expected : DnsMappingOptions} (valid : installed.validate = .ok ())
    (expectedValid : expected.validate = .ok ()) :
    mappingStatus (.ok ⟨true,mappingListing installed,""⟩) (some expected) = .ready ↔
      installed.scope.interface = expected.scope.interface ∧ installed.ipv6Enabled = expected.ipv6Enabled ∧
        (PortShows expected.sourcePort installed.sourcePort ∧ PortShows expected.target.port installed.target.port) ∧
          Covers installed.sources expected.sources := by
  rw [← mapping_ready_iff (validate_mappingPlain valid) (validate_mappingPlain expectedValid)]
  simp [mappingStatus,chainState]

theorem agree_iff (ready same : Prop) : (ready ↔ same) ↔ ¬ (same ∧ ¬ ready) ∧ ¬ (ready ∧ ¬ same) := by
  tauto

theorem router_misspelled_iff {installed expected : RouterHookOptions} (valid : installed.validate = .ok ())
    (expectedValid : expected.validate = .ok ()) : installed.Misspelled expected ↔ installed.Same expected ∧
      ¬ routerChainStatus (.ok ⟨true,routerListing installed,""⟩) (some expected) = .ready := by
  rw [router_status_iff valid expectedValid,RouterHookOptions.Misspelled,and_congr_right_iff,unshown_iff,not_iff_not]
  rintro ⟨named,prefixes⟩
  have switch := enabled_of_samePrefixes (validate_plainUse valid) (validate_plainUse expectedValid) prefixes
  exact ⟨fun covered => ⟨named,switch,covered⟩,fun ready => ready.2.2⟩

theorem router_unnoticed_iff {installed expected : RouterHookOptions} (valid : installed.validate = .ok ())
    (expectedValid : expected.validate = .ok ()) : installed.Unnoticed expected ↔
      routerChainStatus (.ok ⟨true,routerListing installed,""⟩) (some expected) = .ready ∧ ¬ installed.Same expected := by
  rw [router_status_iff valid expectedValid,RouterHookOptions.Unnoticed,unshown_iff,not_not]
  constructor
  · rintro ⟨named,switch,covered,other⟩
    exact ⟨⟨named,switch,covered⟩,fun same => other same.2⟩
  · rintro ⟨⟨named,switch,covered⟩,other⟩
    exact ⟨named,switch,covered,fun same => other ⟨named,same⟩⟩

theorem mapping_misspelled_iff {installed expected : DnsMappingOptions} (valid : installed.validate = .ok ())
    (expectedValid : expected.validate = .ok ()) : installed.Misspelled expected ↔ installed.Same expected ∧
      ¬ mappingStatus (.ok ⟨true,mappingListing installed,""⟩) (some expected) = .ready := by
  rw [mapping_status_iff valid expectedValid,DnsMappingOptions.Misspelled,and_congr_right_iff,unshown_iff,not_iff_not]
  rintro ⟨named,prefixes,source,target⟩
  have switch := enabled_of_samePrefixes (validate_mappingPlain valid) (validate_mappingPlain expectedValid) prefixes
  rw [source,target]
  exact ⟨fun covered => ⟨named,switch,⟨List.prefix_rfl,List.prefix_rfl⟩,covered⟩,fun ready => ready.2.2.2⟩

theorem mapping_unnoticed_iff {installed expected : DnsMappingOptions} (valid : installed.validate = .ok ())
    (expectedValid : expected.validate = .ok ()) : installed.Unnoticed expected ↔
      mappingStatus (.ok ⟨true,mappingListing installed,""⟩) (some expected) = .ready ∧ ¬ installed.Same expected := by
  rw [mapping_status_iff valid expectedValid,DnsMappingOptions.Unnoticed,unshown_iff,not_not]
  constructor
  · rintro ⟨named,switch,source,target,covered,other⟩
    refine ⟨⟨named,switch,⟨source,target⟩,covered⟩,?_⟩
    rintro ⟨_,prefixes,samePort,sameTarget⟩
    rcases other with different | different | different
    · exact different prefixes
    · exact different samePort
    · exact different sameTarget
  · rintro ⟨⟨named,switch,⟨source,target⟩,covered⟩,other⟩
    refine ⟨named,switch,source,target,covered,?_⟩
    by_contra same
    push Not at same
    exact other ⟨named,same⟩

/-- The status of either hook is ready exactly for the options that the installed ones
denote, unless the listing spells an expected source in another way or a difference goes
unnoticed. -/
theorem hookStatus_exact_iff (installed expected : RouterHookOptions) (mapped asked : DnsMappingOptions)
    (valid : installed.validate = .ok ()) (expectedValid : expected.validate = .ok ())
    (mappedValid : mapped.validate = .ok ()) (askedValid : asked.validate = .ok ()) :
    ((routerChainStatus (.ok ⟨true,routerListing installed,""⟩) (some expected) = .ready ↔ installed.Same expected) ↔
      ¬ installed.Misspelled expected ∧ ¬ installed.Unnoticed expected) ∧
    ((mappingStatus (.ok ⟨true,mappingListing mapped,""⟩) (some asked) = .ready ↔ mapped.Same asked) ↔
      ¬ mapped.Misspelled asked ∧ ¬ mapped.Unnoticed asked) := by
  constructor
  · rw [router_misspelled_iff valid expectedValid,router_unnoticed_iff valid expectedValid]
    exact agree_iff _ _
  · rw [mapping_misspelled_iff mappedValid askedValid,mapping_unnoticed_iff mappedValid askedValid]
    exact agree_iff _ _

def houseScope (source : String) : TrafficScope := ⟨"eth1",[source],[]⟩

def houseRouter (source : String) : RouterHookOptions := ⟨houseScope source,false⟩

def houseMapping (source : String) : DnsMappingOptions := ⟨houseScope source,53,.v4 0 1053,false⟩

/-- The installed hook is for another host than the expected one, and the mapping for another
network. -/
theorem house_exact :
    ((routerChainStatus (.ok ⟨true,routerListing (houseRouter "192.168.20.12/32"),""⟩)
      (some (houseRouter "192.168.20.7/32")) = .ready ↔
        (houseRouter "192.168.20.12/32").Same (houseRouter "192.168.20.7/32")) ↔
      ¬ (houseRouter "192.168.20.12/32").Misspelled (houseRouter "192.168.20.7/32") ∧
        ¬ (houseRouter "192.168.20.12/32").Unnoticed (houseRouter "192.168.20.7/32")) ∧
    ((mappingStatus (.ok ⟨true,mappingListing (houseMapping "192.168.20.0/24"),""⟩)
      (some (houseMapping "192.168.30.0/24")) = .ready ↔
        (houseMapping "192.168.20.0/24").Same (houseMapping "192.168.30.0/24")) ↔
      ¬ (houseMapping "192.168.20.0/24").Misspelled (houseMapping "192.168.30.0/24") ∧
        ¬ (houseMapping "192.168.20.0/24").Unnoticed (houseMapping "192.168.30.0/24")) :=
  hookStatus_exact_iff (houseRouter "192.168.20.12/32") (houseRouter "192.168.20.7/32")
    (houseMapping "192.168.20.0/24") (houseMapping "192.168.30.0/24") (by decide +kernel) (by decide +kernel)
    (by decide +kernel) (by decide +kernel)

/-- A host whose text begins that of the installed one passes for it. -/
theorem neighbour_unnoticed : ∃ installed expected : RouterHookOptions,
    installed.validate = .ok () ∧ expected.validate = .ok () ∧
      routerChainStatus (.ok ⟨true,routerListing installed,""⟩) (some expected) = .ready ∧ ¬ installed.Same expected := by
  have valid : (houseRouter "192.168.20.12/32").validate = .ok () := by decide +kernel
  have expectedValid : (houseRouter "192.168.20.1/32").validate = .ok () := by decide +kernel
  refine ⟨houseRouter "192.168.20.12/32",houseRouter "192.168.20.1/32",valid,expectedValid,?_,?_⟩
  · exact (router_status_iff valid expectedValid).mpr (by decide +kernel)
  · rintro ⟨_,prefixes⟩
    exact absurd ((prefixes (.v4 0xc0a8140c,32)).mp (by decide +kernel)) (by decide +kernel)

end Dynet.Capture
