import Dynet.Persistence.Bootstrap
import Dynet.Runtime.AddressText
import Dynet.Runtime.Ipv6Policy

/-! The bootstrap as it is loaded again: each table in the order of its query, each row
decoded by hand, and the whole validated as a seed is. What the transaction wrote is
decoded to what was declared, but for two thresholds past `i64::MAX` and the case of
domain names. -/
namespace Dynet.Persistence.Bootstrap
open Dynet.Runtime Dynet.Runtime.Validation Dynet.Lib Dynet.Lib.Checks

def schemaVersion : String := "14"

inductive LoadError where
  | store (error : RuntimeStoreError)
  | invalidNode (id message : String)
  | invalidGroup (id message : String)
  | invalidGroupMember (groupId nodeId message : String)
  | invalidRouteRule (id message : String)
  deriving DecidableEq, Repr

namespace LoadError

def invalidBootstrap (message : String) : LoadError := .store (.invalidBootstrap message)

def invalidDnsUpstream (id message : String) : LoadError := .store (.invalidDnsUpstream id message)

end LoadError

structure RuntimeBootstrap where
  ipv6Enabled : Bool
  nodes : List ForwardNode
  defaultGroupId : GroupId
  groups : List ForwardGroup
  groupMembers : List GroupMember
  routeRules : List RouteRule
  dnsUpstreams : List DnsUpstream
  dnsPolicy : DnsRacePolicy
  deriving DecidableEq, Repr

def boolFromI64 (value : Int) : Option Bool :=
  if value = 0 then some false else if value = 1 then some true else none

def u32FromI64 (value : Int) : Option UInt32 :=
  if 0 ≤ value ∧ value < UInt32.size then some (.ofNat value.toNat) else none

/-- `u64::try_from` of a column. -/
def u64FromI64 (value : Int) : Option UInt64 := if 0 ≤ value then some (.ofNat value.toNat) else none

def schedulerFromStr (value : String) : Option SchedulerPolicy :=
  if value = "single-first-enabled" then some .singleFirstEnabled else none

def dnsStrategyFromStr (value : String) : Option DnsRaceStrategy :=
  if value = "parallel" then some .parallel else none

section Rows
open LoadError

def rowToNode (row : NodeRow) : Except LoadError ForwardNode := do
  let supportsIpv6 ← need (boolFromI64 row.supportsIpv6) (invalidNode row.id "supports_ipv6 must be 0 or 1")
  ensure (row.enabled = 0 ∨ row.enabled = 1) (invalidNode row.id s!"enabled must be 0 or 1, got {row.enabled}")
  return ⟨⟨row.id⟩,row.tag,row.enabled = 1,row.fingerprint,supportsIpv6⟩

def limitFromRow (row : GroupRow) : Except LoadError (Option UInt64) :=
  match row.maxActiveSessions with
  | none => .ok none
  | some value => some <$> need (u64FromI64 value) (invalidGroup row.id "max_active_sessions must fit u64")

def rowToGroup (row : GroupRow) : Except LoadError ForwardGroup := do
  let enabled ← need (boolFromI64 row.enabled) (invalidGroup row.id "enabled must be 0 or 1")
  let scheduler ← need (schedulerFromStr row.scheduler) (invalidGroup row.id "scheduler is unsupported")
  let minSuccessRatePpm ← need (u32FromI64 row.minSuccessRatePpm)
    (invalidGroup row.id "min_success_rate_ppm must fit u32")
  let minSamples ← need (u64FromI64 row.minSamples) (invalidGroup row.id "min_samples must fit u64")
  let maxActiveSessions ← limitFromRow row
  return ⟨⟨row.id⟩,enabled,scheduler,⟨minSuccessRatePpm,minSamples,maxActiveSessions⟩,.parse row.next⟩

def rowToGroupMember (row : GroupMemberRow) : Except LoadError GroupMember := do
  let enabled ← need (boolFromI64 row.enabled) (invalidGroupMember row.groupId row.nodeId "enabled must be 0 or 1")
  let priority ← need (u32FromI64 row.priority) (invalidGroupMember row.groupId row.nodeId "priority must fit u32")
  return ⟨⟨row.groupId⟩,⟨row.nodeId⟩,enabled,priority⟩

def matcherFromRow (row : RouteRuleRow) : Except LoadError RouteMatcher :=
  match row.matcherKind with
  | "domain-exact" => .ok (.domainExact (asciiLowercase row.matcherValue))
  | "domain-suffix" => .ok (.domainSuffix (asciiLowercase row.matcherValue))
  | "ip-exact" => .ipExact <$> need (Parse.ipAddr row.matcherValue)
      (invalidRouteRule row.id "matcher_value must be an IP address: invalid IP address syntax")
  | "ip-cidr" => .ok (.ipCidr row.matcherValue)
  | kind => .error (invalidRouteRule row.id s!"matcher_kind {debug kind} is unsupported")

def ipv6FromRow (row : RouteRuleRow) : Except LoadError Ipv6RulePolicy :=
  match row.ipv6Policy with
  | "inherit" => .ok .inherit
  | "allow" => .ok .allow
  | "deny" => .ok .deny
  | value => .error (invalidRouteRule row.id s!"ipv6_policy {debug value} is unsupported")

def rowToRouteRule (row : RouteRuleRow) : Except LoadError RouteRule := do
  let enabled ← need (boolFromI64 row.enabled) (invalidRouteRule row.id "enabled must be 0 or 1")
  let matcher ← matcherFromRow row
  let ipv6 ← ipv6FromRow row
  return ⟨⟨row.id⟩,row.priority,enabled,matcher,⟨row.groupId⟩,ipv6⟩

def dnsTransportFromRow (row : DnsUpstreamRow) : Except LoadError DnsUpstreamTransport :=
  match row.transport with
  | "udp" => .ok .udp
  | "https" => do
    let host ← need row.host (invalidDnsUpstream row.id "host is required for HTTPS DNS upstream")
    return .https ⟨host,row.path.getD "/dns-query"⟩
  | other => .error (invalidDnsUpstream row.id s!"transport {debug other} is unsupported")

def rowToDnsUpstream (row : DnsUpstreamRow) : Except LoadError DnsUpstream := do
  let enabled ← need (boolFromI64 row.enabled) (invalidDnsUpstream row.id "enabled must be 0 or 1")
  let address ← need (Parse.socketAddr row.address)
    (invalidDnsUpstream row.id "address must be a socket address: invalid socket address syntax")
  let priority ← need (u32FromI64 row.priority) (invalidDnsUpstream row.id "priority must fit u32")
  let transport ← dnsTransportFromRow row
  return ⟨⟨row.id⟩,address,transport,enabled,priority⟩

end Rows

section Queries

/-- `order by` of a query, whose columns are compared one after the other. -/
def orderBy {ρ : Type} (order : ρ → ρ → Ordering) (rows : List ρ) : List ρ :=
  rows.mergeSort fun left right => (order left right).isLE

def loadNodes (store : Tables) : Except LoadError (List ForwardNode) :=
  (orderBy (compareLex (compareOn fun row : NodeRow => if row.id = defaultNodeId then 0 else 1) (compareOn NodeRow.id))
    store.nodes).mapM rowToNode

def loadGroups (store : Tables) : Except LoadError (List ForwardGroup) :=
  (orderBy (compareOn GroupRow.id) store.groups).mapM rowToGroup

def loadGroupMembers (store : Tables) : Except LoadError (List GroupMember) :=
  (orderBy (compareLex (compareOn GroupMemberRow.groupId)
    (compareLex (compareOn GroupMemberRow.priority) (compareOn GroupMemberRow.nodeId))) store.groupMembers).mapM rowToGroupMember

def loadRouteRules (store : Tables) : Except LoadError (List RouteRule) :=
  (orderBy (compareLex (fun left right => compare right.priority left.priority) (compareOn RouteRuleRow.id))
    store.routeRules).mapM rowToRouteRule

def loadDnsUpstreams (store : Tables) : Except LoadError (List DnsUpstream) :=
  (orderBy (compareLex (compareOn DnsUpstreamRow.priority) (compareOn DnsUpstreamRow.id)) store.dnsUpstreams).mapM rowToDnsUpstream

open LoadError

def loadDnsPolicy (store : Tables) : Except LoadError DnsRacePolicy := do
  let value ← need store.dnsRaceStrategy (invalidBootstrap "missing dns_race_strategy")
  let strategy ← need (dnsStrategyFromStr value) (invalidBootstrap s!"dns_race_strategy {debug value} is unsupported")
  let value ← need store.dnsRaceTimeoutMs (invalidBootstrap "missing dns_race_timeout_ms")
  let timeoutMs ← (Radix.fromStrRadix 10 (2^64) value).mapError fun kind =>
    invalidBootstrap s!"dns_race_timeout_ms must be an integer: {kind.display}"
  return ⟨Duration.fromMillis timeoutMs,strategy⟩

def loadIpv6Enabled (store : Tables) : Except LoadError Bool :=
  match store.ipv6Enabled with
  | some "1" => .ok true
  | some "0" => .ok false
  | none => .ok false
  | some value => .error (invalidBootstrap s!"ipv6_enabled must be 0 or 1, got {debug value}")

-- `{:?}` of an optional text.
def debugOption : Option String → String
  | none => "None"
  | some text => s!"Some({debug text})"

/-- `version` is what `runtime_meta` holds as the schema version, if anything. -/
def loadBootstrap (version : Option String) (store : Tables) : Except LoadError RuntimeBootstrap := do
  ensure (version = some schemaVersion) (invalidBootstrap
    s!"runtime store schema_version must be {schemaVersion}, got {debugOption version}")
  let defaultGroupId ← need (store.defaultGroupId.map Id.mk) (invalidBootstrap "missing default_group_id")
  let ipv6Enabled ← loadIpv6Enabled store
  let nodes ← loadNodes store
  let groups ← loadGroups store
  let groupMembers ← loadGroupMembers store
  let routeRules ← loadRouteRules store
  let dnsUpstreams ← loadDnsUpstreams store
  let dnsPolicy ← loadDnsPolicy store
  (validateBootstrap nodes defaultGroupId groups groupMembers routeRules dnsUpstreams dnsPolicy).mapError .store
  return ⟨ipv6Enabled,nodes,defaultGroupId,groups,groupMembers,routeRules,dnsUpstreams,dnsPolicy⟩

end Queries

section Stored

/-- A count as the store holds it. -/
def storedCount (value : UInt64) : UInt64 := .ofNat (u64ToI64 value).toNat

def storedThresholds (thresholds : GroupThresholds) : GroupThresholds :=
  {thresholds with
    minSamples := storedCount thresholds.minSamples
    maxActiveSessions := thresholds.maxActiveSessions.map storedCount}

def storedGroup (group : ForwardGroup) : ForwardGroup := {group with thresholds := storedThresholds group.thresholds}

def storedMatcher : RouteMatcher → RouteMatcher
  | .domainExact domain => .domainExact (asciiLowercase domain)
  | .domainSuffix suffix => .domainSuffix (asciiLowercase suffix)
  | .ipExact address => .ipExact address
  | .ipCidr cidr => .ipCidr cidr

def storedRule (rule : RouteRule) : RouteRule := {rule with matcher := storedMatcher rule.matcher}

theorem boolFromI64_flag (value : Bool) : boolFromI64 (flag value) = some value := by
  cases value <;> rfl

theorem u32FromI64_toNat (value : UInt32) : u32FromI64 value.toNat = some value := by
  rw [u32FromI64,if_pos ⟨Int.natCast_nonneg _,Int.ofNat_lt.mpr value.toNat_lt⟩,Int.toNat_natCast,UInt32.ofNat_toNat]

theorem u64FromI64_stored (value : UInt64) : u64FromI64 (u64ToI64 value) = some (storedCount value) :=
  if_pos (Checked.clampI64_range value.toNat).1

theorem rowToNode_nodeRow (node : ForwardNode) : rowToNode (nodeRow node) = .ok node := by
  cases node with
  | mk id tag enabled fingerprint supportsIpv6 =>
    cases enabled <;> cases supportsIpv6 <;> rfl

theorem limitFromRow_groupRow (group : ForwardGroup) :
    limitFromRow (groupRow group) = .ok (group.thresholds.maxActiveSessions.map storedCount) := by
  rw [limitFromRow,groupRow]
  cases group.thresholds.maxActiveSessions with
  | none => rfl
  | some value => exact (map_ok_iff _ _ _).mpr ⟨_,(need_ok_iff _ _ _).mpr (u64FromI64_stored value),rfl⟩

theorem rowToGroup_groupRow {group : ForwardGroup} (parsed : group.next.Parsed) :
    rowToGroup (groupRow group) = .ok (storedGroup group) := by
  have next : NextRef.parse group.next.label = group.next := parsed.symm
  simp only [rowToGroup,bind_ok_iff,need_ok_iff]
  refine ⟨_,boolFromI64_flag _,_,rfl,_,u32FromI64_toNat _,_,u64FromI64_stored _,_,limitFromRow_groupRow group,?_⟩
  simp only [groupRow,next]
  rfl

theorem rowToGroupMember_groupMemberRow (member : GroupMember) : rowToGroupMember (groupMemberRow member) = .ok member := by
  simp only [rowToGroupMember,bind_ok_iff,need_ok_iff]
  exact ⟨_,boolFromI64_flag _,_,u32FromI64_toNat _,rfl⟩

theorem matcherFromRow_routeRuleRow (rule : RouteRule) : matcherFromRow (routeRuleRow rule) = .ok (storedMatcher rule.matcher) := by
  cases shape : rule.matcher <;> simp [matcherFromRow,routeRuleRow,matcherColumns,shape,parse_ipAddr,need,Functor.map,Except.map,storedMatcher]

theorem ipv6FromRow_routeRuleRow (rule : RouteRule) : ipv6FromRow (routeRuleRow rule) = .ok rule.ipv6 := by
  cases policy : rule.ipv6 <;> simp [ipv6FromRow,routeRuleRow,Ipv6RulePolicy.asStr,policy]

theorem rowToRouteRule_routeRuleRow (rule : RouteRule) : rowToRouteRule (routeRuleRow rule) = .ok (storedRule rule) := by
  simp only [rowToRouteRule,bind_ok_iff,need_ok_iff]
  exact ⟨_,boolFromI64_flag _,_,matcherFromRow_routeRuleRow rule,_,ipv6FromRow_routeRuleRow rule,rfl⟩

/-- The upstreams whose addresses are printed in full. -/
def Printed (upstream : DnsUpstream) : Prop :=
  ∀ bits port flowinfo scope, upstream.address = .v6 bits port flowinfo scope → flowinfo = 0

theorem dnsTransportFromRow_dnsUpstreamRow (upstream : DnsUpstream) :
    dnsTransportFromRow (dnsUpstreamRow upstream) = .ok upstream.transport := by
  cases transport : upstream.transport <;>
    simp [dnsTransportFromRow,dnsUpstreamRow,transportColumns,transport,need,bind,Except.bind,pure,Except.pure]

theorem rowToDnsUpstream_dnsUpstreamRow {upstream : DnsUpstream} (printed : Printed upstream) :
    rowToDnsUpstream (dnsUpstreamRow upstream) = .ok upstream := by
  simp only [rowToDnsUpstream,bind_ok_iff,need_ok_iff]
  exact ⟨_,boolFromI64_flag _,_,parse_socketAddr _ printed,_,u32FromI64_toNat _,_,dnsTransportFromRow_dnsUpstreamRow upstream,rfl⟩

theorem loadDnsPolicy_ofSeed {seed : RuntimeSeed} {millis : Nat} (short : millis < 2^64)
    (timeout : seed.dnsPolicy.timeout = Duration.fromMillis millis) : loadDnsPolicy (.ofSeed seed) = .ok seed.dnsPolicy := by
  have whole : Duration.asMillis seed.dnsPolicy.timeout = millis := by
    rw [timeout,Duration.asMillis,Duration.fromMillis]
    omega
  have read : Radix.fromStrRadix 10 (2^64) (toString millis) = .ok millis := by
    refine (Radix.fromStrRadix_ok_iff (by decide) (by decide) _ _).mpr ⟨short,_,Radix.digits_toDigits (by decide) (by decide) millis,.inl ?_⟩
    simp [toString]
  have strategy : dnsStrategyFromStr seed.dnsPolicy.strategy.asStr = some seed.dnsPolicy.strategy := rfl
  simp only [loadDnsPolicy,Tables.ofSeed,need,strategy,whole,read,bind,Except.bind,Except.mapError,pure,Except.pure]
  rw [← timeout]

end Stored
end Dynet.Persistence.Bootstrap
