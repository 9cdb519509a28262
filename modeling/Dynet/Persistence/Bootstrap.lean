import Dynet.Lib.Checked
import Dynet.Runtime.Validation

/-! The bootstrap tables of the runtime store. Replacing them is one transaction: a
seed that fails validation, a key that is written twice or any fault of the database
leaves the tables as they were. The `updated_at_unix_ms` columns, which no query of
the bootstrap reads, are left out. -/
namespace Dynet.Persistence.Bootstrap
open Dynet.Runtime Dynet.Runtime.Validation Dynet.Lib Dynet.Lib.Checks

structure NodeRow where
  id : String
  tag : String
  enabled : Int
  fingerprint : String
  supportsIpv6 : Int
  deriving DecidableEq, Repr

structure GroupRow where
  id : String
  enabled : Int
  scheduler : String
  minSuccessRatePpm : Int
  minSamples : Int
  maxActiveSessions : Option Int
  next : String
  deriving DecidableEq, Repr

structure GroupMemberRow where
  groupId : String
  nodeId : String
  enabled : Int
  priority : Int
  deriving DecidableEq, Repr

structure RouteRuleRow where
  id : String
  priority : Int
  enabled : Int
  matcherKind : String
  matcherValue : String
  groupId : String
  ipv6Policy : String
  deriving DecidableEq, Repr

structure DnsUpstreamRow where
  id : String
  address : String
  transport : String
  host : Option String
  path : Option String
  enabled : Int
  priority : Int
  deriving DecidableEq, Repr

/-- The five tables and the keys of `runtime_meta` that the bootstrap writes. -/
structure Tables where
  nodes : List NodeRow
  groups : List GroupRow
  groupMembers : List GroupMemberRow
  routeRules : List RouteRuleRow
  dnsUpstreams : List DnsUpstreamRow
  defaultGroupId : Option String
  ipv6Enabled : Option String
  dnsRaceStrategy : Option String
  dnsRaceTimeoutMs : Option String
  deriving DecidableEq, Repr

def flag (value : Bool) : Int := if value then 1 else 0

def u64ToI64 (value : UInt64) : Int := Checked.clampI64 value.toNat

def nodeRow (node : ForwardNode) : NodeRow :=
  ⟨node.id.value,node.tag,flag node.enabled,node.fingerprint,flag node.supportsIpv6⟩

def groupRow (group : ForwardGroup) : GroupRow :=
  ⟨group.id.value,flag group.enabled,group.scheduler.asStr,group.thresholds.minSuccessRatePpm.toNat,
    u64ToI64 group.thresholds.minSamples,group.thresholds.maxActiveSessions.map u64ToI64,group.next.label⟩

def groupMemberRow (member : GroupMember) : GroupMemberRow :=
  ⟨member.groupId.value,member.nodeId.value,flag member.enabled,member.priority.toNat⟩

def matcherColumns : RouteMatcher → String × String
  | .domainExact value => ("domain-exact",value)
  | .domainSuffix value => ("domain-suffix",value)
  | .ipExact value => ("ip-exact",Display.ipAddr value)
  | .ipCidr value => ("ip-cidr",value)

def routeRuleRow (rule : RouteRule) : RouteRuleRow :=
  let (kind,value) := matcherColumns rule.matcher
  ⟨rule.id.value,rule.priority,flag rule.enabled,kind,value,rule.groupId.value,rule.ipv6.asStr⟩

def transportColumns : DnsUpstreamTransport → String × Option String × Option String
  | .udp => ("udp",none,none)
  | .https endpoint => ("https",some endpoint.host,some endpoint.path)

def dnsUpstreamRow (upstream : DnsUpstream) : DnsUpstreamRow :=
  let (transport,host,path) := transportColumns upstream.transport
  ⟨upstream.id.value,Display.socketAddr upstream.address,transport,host,path,flag upstream.enabled,
    upstream.priority.toNat⟩

def Tables.ofSeed (seed : RuntimeSeed) : Tables where
  nodes := seed.nodes.map nodeRow
  groups := seed.groups.map groupRow
  groupMembers := seed.groupMembers.map groupMemberRow
  routeRules := seed.routeRules.map routeRuleRow
  dnsUpstreams := seed.dnsUpstreams.map dnsUpstreamRow
  defaultGroupId := some seed.defaultGroupId.value
  ipv6Enabled := some (if seed.ipv6Enabled then "1" else "0")
  dnsRaceStrategy := some seed.dnsPolicy.strategy.asStr
  dnsRaceTimeoutMs := some (toString (Duration.asMillis seed.dnsPolicy.timeout))

def uniqueFailed {ρ : Type} (columns : String) (_ : ρ) : RuntimeStoreError :=
  .sqlx s!"UNIQUE constraint failed: {columns}"

/-- The inserts of the transaction into the emptied tables. -/
def insertBootstrap (seed : RuntimeSeed) : Except RuntimeStoreError Tables := do
  let nodes ← appendRows NodeRow.id (uniqueFailed "runtime_nodes.id") [] (seed.nodes.map nodeRow)
  let groups ← appendRows GroupRow.id (uniqueFailed "runtime_forward_groups.id") [] (seed.groups.map groupRow)
  let members ← appendRows (fun row : GroupMemberRow => (row.groupId,row.nodeId))
    (uniqueFailed "runtime_group_members.group_id, runtime_group_members.node_id") []
    (seed.groupMembers.map groupMemberRow)
  let rules ← appendRows RouteRuleRow.id (uniqueFailed "runtime_route_rules.id") []
    (seed.routeRules.map routeRuleRow)
  let upstreams ← appendRows DnsUpstreamRow.id (uniqueFailed "runtime_dns_upstreams.id") []
    (seed.dnsUpstreams.map dnsUpstreamRow)
  return { Tables.ofSeed seed with
    nodes, groups, groupMembers := members, routeRules := rules, dnsUpstreams := upstreams }

/-- `fault` is the database's own failure, wherever it strikes the transaction. -/
def replaceBootstrap (fault : Option String) (seed : RuntimeSeed) (store : Tables) :
    Except RuntimeStoreError Unit × Tables :=
  match validateSeed seed, fault, insertBootstrap seed with
  | .error error, _, _ => (.error error,store)
  | .ok _, some message, _ => (.error (.sqlx message),store)
  | .ok _, none, .error error => (.error error,store)
  | .ok _, none, .ok written => (.ok (),written)

def memberKey (member : GroupMember) : String × String := (member.groupId.value,member.nodeId.value)

/-- No primary key of the bootstrap tables is written twice. -/
structure KeysDistinct (seed : RuntimeSeed) : Prop where
  nodes : (seed.nodes.map (·.id.value)).Nodup
  groups : (seed.groups.map (·.id.value)).Nodup
  members : (seed.groupMembers.map memberKey).Nodup
  rules : (seed.routeRules.map (·.id.value)).Nodup
  upstreams : (seed.dnsUpstreams.map (·.id.value)).Nodup

theorem insertBootstrap_ok_iff (seed : RuntimeSeed) (written : Tables) :
    insertBootstrap seed = .ok written ↔ KeysDistinct seed ∧ written = .ofSeed seed := by
  simp only [insertBootstrap,bind_ok_iff,appendRows_ok_iff,List.map_map,List.map_nil,List.nil_append,
    List.not_mem_nil,not_false_eq_true,implies_true,true_and,pure,Except.pure,Except.ok.injEq]
  constructor
  · rintro ⟨_,⟨nodes,rfl⟩,_,⟨groups,rfl⟩,_,⟨members,rfl⟩,_,⟨rules,rfl⟩,_,⟨upstreams,rfl⟩,same⟩
    exact ⟨⟨nodes,groups,members,rules,upstreams⟩,same.symm⟩
  · rintro ⟨distinct,same⟩
    exact ⟨_,⟨distinct.nodes,rfl⟩,_,⟨distinct.groups,rfl⟩,_,⟨distinct.members,rfl⟩,_,
      ⟨distinct.rules,rfl⟩,_,⟨distinct.upstreams,rfl⟩,same.symm⟩

theorem replaceBootstrap_cases (fault : Option String) (seed : RuntimeSeed) (store : Tables) :
    (fault = none ∧ SeedAccepted seed ∧ KeysDistinct seed ∧
      replaceBootstrap fault seed store = (.ok (),.ofSeed seed)) ∨
    (¬ (fault = none ∧ SeedAccepted seed ∧ KeysDistinct seed) ∧
      ∃ error, replaceBootstrap fault seed store = (.error error,store)) := by
  unfold replaceBootstrap
  cases valid : validateSeed seed with
  | error error =>
    refine .inr ⟨?_,error,rfl⟩
    intro ⟨_,accepted,_⟩
    rw [(validateSeed_ok_iff seed).mpr accepted] at valid
    cases valid
  | ok stored =>
    have accepted := (validateSeed_ok_iff seed).mp valid
    cases fault with
    | some message =>
      refine .inr ⟨?_,.sqlx message,rfl⟩
      intro ⟨impossible,_⟩
      cases impossible
    | none =>
      cases inserted : insertBootstrap seed with
      | error error =>
        refine .inr ⟨?_,error,rfl⟩
        intro ⟨_,_,distinct⟩
        rw [(insertBootstrap_ok_iff seed _).mpr ⟨distinct,rfl⟩] at inserted
        cases inserted
      | ok written =>
        obtain ⟨distinct,rfl⟩ := (insertBootstrap_ok_iff seed written).mp inserted
        exact .inl ⟨rfl,accepted,distinct,rfl⟩

end Dynet.Persistence.Bootstrap
