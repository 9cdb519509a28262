import Dynet.State.Config
import Dynet.State.NodeConfig

/-! The `forwarding` table of the configuration file and its loader. A key that the file
leaves out is `none`. Loading stops at the first fault with the text that is reported for
it. -/
namespace Dynet.State
open Dynet.Runtime Dynet.Ingress Dynet.Lib Dynet.Lib.Checks

structure FileGroupThresholds where
  windowSecs : Option UInt64 := none
  minConfidence : Option Float := none
  maxExploreRatio : Option Float := none
  failureCooldownSecs : Option UInt64 := none
  minSuccessRate : Option Float := none
  minSamples : Option UInt64 := none
  maxActiveSessions : Option UInt64 := none
  deriving Repr

structure FileForwardGroupConfig where
  id : String
  enabled : Option Bool := none
  mode : String
  profile : Option String := none
  next : Option String := none
  members : List String
  thresholds : Option FileGroupThresholds := none
  deriving Repr

structure FileRouteRuleConfig where
  id : String
  priority : Int
  matcher : String
  value : String
  group : String
  enabled : Option Bool := none
  ipv6 : Option String := none
  deriving DecidableEq, Repr

structure FileDnsUpstreamConfig where
  id : String
  kind : String
  address : String
  host : Option String := none
  path : Option String := none
  enabled : Option Bool := none
  priority : Option UInt32 := none
  deriving DecidableEq, Repr

structure FileForwardingConfig where
  defaultGroup : Option String := none
  nodes : Option (List FileForwardNodeConfig) := none
  groups : Option (List FileForwardGroupConfig) := none
  rules : Option (List FileRouteRuleConfig) := none
  dnsUpstreams : Option (List FileDnsUpstreamConfig) := none
  dnsRaceTimeoutMs : Option UInt64 := none
  thresholds : Option FileGroupThresholds := none
  deriving Repr

def inUnitRange (value : Float) : Prop := 0.0 ≤ value ∧ value ≤ 1.0

instance (value : Float) : Decidable (inUnitRange value) := inferInstanceAs (Decidable (_ ∧ _))

def rateToPpm (value : Float) : Except String UInt32 := do
  ensure (inUnitRange value) "forwarding.groups[].thresholds.min_success_rate must be between 0 and 1"
  return (value * 1000000.0).round.toUInt32

def loadThresholds (thresholds : Option FileGroupThresholds) (defaults : GroupThresholds) :
    Except String GroupThresholds :=
  match thresholds with
  | none => .ok defaults
  | some thresholds => do
    let rate ← thresholds.minSuccessRate.mapM rateToPpm
    return ⟨rate.getD defaults.minSuccessRatePpm,thresholds.minSamples.getD defaults.minSamples,
      thresholds.maxActiveSessions <|> defaults.maxActiveSessions⟩

def thresholdFault (id rest : String) : String := s!"forwarding group {debug id} thresholds.{rest}"

def validateThresholds (id : String) (thresholds : Option FileGroupThresholds) : Except String Unit :=
  match thresholds with
  | none => .ok ()
  | some thresholds => do
    ensure (thresholds.windowSecs ≠ some 0) (thresholdFault id "window_secs must be positive")
    each (fun (name,value) => ensure (∀ given ∈ value, inUnitRange given)
        (thresholdFault id s!"{name} must be between 0 and 1"))
      [("min_confidence",thresholds.minConfidence),("max_explore_ratio",thresholds.maxExploreRatio),
        ("min_success_rate",thresholds.minSuccessRate)]
    ensure (thresholds.minSamples ≠ some 0) (thresholdFault id "min_samples must be positive")
    ensure (thresholds.maxActiveSessions ≠ some 0) (thresholdFault id "max_active_sessions must be positive")

namespace FileRouteRuleConfig

def parseIpv6Policy (id : String) (value : Option String) : Except String Ipv6RulePolicy :=
  match value.getD "inherit" with
  | "inherit" => .ok .inherit
  | "allow" => .ok .allow
  | "deny" => .ok .deny
  | value => .error s!"forwarding rule {debug id} ipv6 must be allow, deny, or inherit, got {debug value}"

def parseIpExactRule (id value : String) : Except String RouteMatcher :=
  .ipExact <$> need (Parse.ipAddr value)
    s!"forwarding rule {debug id} value must be an IP: invalid IP address syntax"

def loadMatcher (rule : FileRouteRuleConfig) : Except String RouteMatcher :=
  match rule.matcher with
  | "domain-exact" => .ok (.domainExact (asciiLowercase rule.value))
  | "domain-suffix" => .ok (.domainSuffix (asciiLowercase rule.value))
  | "ip-exact" => parseIpExactRule rule.id rule.value
  | "ip-cidr" => .ok (.ipCidr rule.value)
  | _ => .error s!"forwarding rule {debug rule.id} match {debug rule.matcher} is unsupported"

def load (rule : FileRouteRuleConfig) : Except String RouteRule := do
  let id ← nonEmpty "forwarding.rules[].id" rule.id
  let ipv6 ← parseIpv6Policy id rule.ipv6
  let matcher ← rule.loadMatcher
  let group ← nonEmpty "forwarding.rules[].group" rule.group
  return ⟨⟨id⟩,rule.priority,rule.enabled.getD true,matcher,⟨group⟩,ipv6⟩

end FileRouteRuleConfig

namespace FileDnsUpstreamConfig

variable (upstream : FileDnsUpstreamConfig)

def fault (rest : String) : String := s!"forwarding.dns_upstreams {debug upstream.id} {rest}"

def loadHttpsTransport : Except String DnsUpstreamTransport := do
  let host ← need upstream.host (upstream.fault "host is required")
  let host ← nonEmpty "forwarding.dns_upstreams[].host" host
  let path := upstream.path.getD "/dns-query"
  ensure (path.toList.head? = some '/') (upstream.fault "path must start with '/'")
  return .https ⟨host,path⟩

def loadTransport : Except String DnsUpstreamTransport :=
  match upstream.kind with
  | "udp" => do
    ensure (upstream.host = none ∧ upstream.path = none)
      (upstream.fault "host/path require type = \"https\"")
    return .udp
  | "https" | "doh" => upstream.loadHttpsTransport
  | _ => .error (upstream.fault s!"type {debug upstream.kind} is unsupported")

def load : Except String DnsUpstream := do
  let id ← nonEmpty "forwarding.dns_upstreams[].id" upstream.id
  let address ← need (Parse.socketAddr upstream.address)
    (upstream.fault "address must be a socket address: invalid socket address syntax")
  let transport ← upstream.loadTransport
  return ⟨⟨id⟩,address,transport,upstream.enabled.getD true,upstream.priority.getD 0⟩

end FileDnsUpstreamConfig

abbrev ExecutionNodes := Std.ExtTreeMap String EgressNodeConfig

/-- The loop of `load_nodes`, from the nodes that are already loaded. -/
def loadNodes (sha256 : String → String) (loaded : List ForwardNode) (configs : ExecutionNodes) :
    List FileForwardNodeConfig → Except String (List ForwardNode × ExecutionNodes)
  | [] => .ok (loaded,configs)
  | file::rest => do
    let (node,config) ← file.loadExecutionNode sha256
    ensure (node.id.value ∉ configs) s!"forwarding node id {debug node.id.value} is duplicated"
    loadNodes sha256 (loaded ++ [node]) (configs.insert node.id.value config) rest

/-- The group ids seen so far, with the checked one. -/
def validateGroupHeader (id : String) (group : FileForwardGroupConfig) (groupIds : List String) :
    Except String (List String) := do
  ensure (id ≠ NextRef.directLabel) "forwarding group id 'direct' is reserved"
  ensure (id ∉ groupIds) s!"forwarding group id {debug id} is duplicated"
  ensure (group.mode = "smart") s!"forwarding group {debug id} mode must be smart, got {debug group.mode}"
  validateThresholds id group.thresholds
  return id::groupIds

/-- The members of one group, from the given priority on. -/
def pushGroupMembers (groupId : String) (priority : Nat) : List String → Except String (List GroupMember)
  | [] => .ok []
  | member::rest => do
    let nodeId ← nonEmpty "forwarding.groups[].members[]" member
    ensure (priority < 2^32) s!"forwarding group {debug groupId} has too many members"
    let others ← pushGroupMembers groupId (priority + 1) rest
    return ⟨⟨groupId⟩,⟨nodeId⟩,true,UInt32.ofNat priority⟩::others

def loadGroups (defaults : GroupThresholds) (groupIds : List String) :
    List FileForwardGroupConfig → Except String (List ForwardGroup × List GroupMember)
  | [] => .ok ([],[])
  | file::rest => do
    let id ← nonEmpty "forwarding.groups[].id" file.id
    let groupIds ← validateGroupHeader id file groupIds
    let next := (file.next.map NextRef.parse).getD .directAuditOutlet
    let thresholds ← loadThresholds file.thresholds defaults
    let members ← pushGroupMembers id 0 file.members
    let (groups,others) ← loadGroups defaults groupIds rest
    return (⟨⟨id⟩,file.enabled.getD true,.singleFirstEnabled,thresholds,next⟩::groups,members ++ others)

/-- `min_by` on priority and node id: a later member wins only when it is smaller. -/
def firstMember : List GroupMember → Option GroupMember
  | [] => none
  | member::rest => some <| rest.foldl (fun best other =>
      if other.priority < best.priority ∨
        (other.priority = best.priority ∧ other.nodeId.value < best.nodeId.value) then other else best) member

def validateExecutionNode (defaultGroup : String) (groups : List ForwardGroup) (members : List GroupMember)
    (configs : ExecutionNodes) : Except String Unit := do
  let fault := fun rest : String => s!"forwarding.default_group {debug defaultGroup} {rest}"
  let group ← need (groups.find? fun group => group.id.value = defaultGroup) (fault "is missing")
  ensure group.enabled (fault "is disabled")
  let member ← need (firstMember (members.filter fun member => member.groupId = group.id)) (fault "has no members")
  ensure (member.nodeId.value ∈ configs) (fault s!"member {debug member.nodeId.value} is missing")

def loadDnsPolicy (timeoutMs : Option UInt64) (policy : DnsRacePolicy) : Except String DnsRacePolicy :=
  match timeoutMs with
  | none => .ok policy
  | some timeoutMs => do
    ensure (timeoutMs ≠ 0) "forwarding.dns_race_timeout_ms must be positive"
    return {policy with timeout := .fromMillis timeoutMs.toNat}

def loadDnsUpstreams (upstreams : Option (List FileDnsUpstreamConfig)) (defaults : List DnsUpstream) :
    Except String (List DnsUpstream) :=
  match upstreams with
  | none => .ok defaults
  | some upstreams => upstreams.mapM FileDnsUpstreamConfig.load

/-- `first` is the id of the first group, which is the default when none is named. -/
def buildGraph (sha256 : String → String) (file : FileForwardingConfig) (first : String)
    (nodes : List FileForwardNodeConfig) (groups : List FileForwardGroupConfig) :
    Except String ForwardingConfig := do
  let defaultGroup := file.defaultGroup.getD first
  let (runtimeNodes,configs) ← loadNodes sha256 [] ∅ nodes
  validateThresholds "forwarding" file.thresholds
  let thresholds ← loadThresholds file.thresholds .default
  let (runtimeGroups,members) ← loadGroups thresholds [] groups
  let rules ← (file.rules.getD []).mapM FileRouteRuleConfig.load
  let defaults := RuntimeSeed.singleNode "direct"
  let upstreams ← loadDnsUpstreams file.dnsUpstreams defaults.dnsUpstreams
  let policy ← loadDnsPolicy file.dnsRaceTimeoutMs defaults.dnsPolicy
  validateExecutionNode defaultGroup runtimeGroups members configs
  return ⟨⟨false,runtimeNodes,⟨defaultGroup⟩,runtimeGroups,members,rules,upstreams,policy⟩,configs⟩

def FileForwardingConfig.load (sha256 : String → String) (file : FileForwardingConfig) :
    Except String ForwardingConfig := do
  let nodes ← need file.nodes "forwarding.nodes is required"
  let groups ← need file.groups "forwarding.groups is required"
  ensure (nodes ≠ []) "forwarding.nodes must not be empty"
  match groups with
  | [] => .error "forwarding.groups must not be empty"
  | first::_ => buildGraph sha256 file first.id nodes groups

theorem loadNodes_any (sha256 digest : String → String) (files : List FileForwardNodeConfig)
    (loaded others nodes : List ForwardNode) (configs final : ExecutionNodes)
    (ok : loadNodes sha256 loaded configs files = .ok (nodes,final)) :
    ∃ result, loadNodes digest others configs files = .ok (result,final) := by
  induction files generalizing loaded others configs with
  | nil =>
    cases ok
    exact ⟨others,rfl⟩
  | cons file rest ih =>
    obtain ⟨⟨node,config⟩,head,tail⟩ := (bind_ok_iff _ _ _).mp ok
    obtain ⟨fresh,tail⟩ := (then_ok_iff _ _ _).mp tail
    rw [loadNodes,file.loadExecutionNode_any head digest,ok_bind]
    simp only [fresh,ok_bind]
    exact ih _ _ _ tail

theorem load_any {sha256 : String → String} {file : FileForwardingConfig} {config : ForwardingConfig}
    (ok : file.load sha256 = .ok config) (digest : String → String) :
    ∃ other, file.load digest = .ok other := by
  obtain ⟨nodes,someNodes,tail⟩ := (bind_ok_iff _ _ _).mp ok
  obtain ⟨groups,someGroups,tail⟩ := (bind_ok_iff _ _ _).mp tail
  obtain ⟨present,tail⟩ := (then_ok_iff _ _ _).mp tail
  rw [FileForwardingConfig.load,someNodes,ok_bind,someGroups,ok_bind,present,ok_bind]
  cases groups with
  | nil => cases tail
  | cons first rest =>
    obtain ⟨⟨_,configs⟩,nodesOk,tail⟩ := (bind_ok_iff _ _ _).mp tail
    obtain ⟨_,again⟩ := loadNodes_any sha256 digest nodes [] [] _ _ _ nodesOk
    simp only [buildGraph,again,ok_bind]
    simp only [bind_ok_iff] at tail ⊢
    obtain ⟨_,checked,_,thresholds,_,loaded,_,rules,_,upstreams,_,policy,_,valid,_⟩ := tail
    exact ⟨_,_,checked,_,thresholds,_,loaded,_,rules,_,upstreams,_,policy,_,valid,rfl⟩

end Dynet.State
