import Dynet.State.ForwardingConfig
import Dynet.Lib.Related
import Dynet.Persistence.Bootstrap
import Dynet.Runtime.SelectionGraph

/-! Which accepted configuration files can be started. The loader checks node and group
ids for repetitions, the default group and every entry on its own; what it leaves to the
seed validator and to the keys of the store is collected in `Startable`. -/
namespace Dynet.State
open Dynet.Runtime Dynet.Runtime.Validation Dynet.Persistence.Bootstrap
open Dynet.Ingress Dynet.Lib Dynet.Lib.Checks Dynet.Lib.Walk

/-- The seed passes the validator, and the store takes its rows. -/
def Starts (seed : RuntimeSeed) : Prop :=
  validateSeed seed = .ok () ∧ ∀ store, replaceBootstrap none seed store = (.ok (),.ofSeed seed)

theorem starts_iff (seed : RuntimeSeed) : Starts seed ↔ SeedAccepted seed ∧ KeysDistinct seed := by
  rw [Starts,validateSeed_ok_iff]
  constructor
  · intro ⟨accepted,writes⟩
    obtain ⟨_,_,distinct,_⟩ | ⟨_,_,failed⟩ := replaceBootstrap_cases none seed (.ofSeed seed)
    · exact ⟨accepted,distinct⟩
    · rw [writes] at failed
      cases failed
  · intro ⟨accepted,distinct⟩
    refine ⟨accepted,?_⟩
    intro store
    obtain ⟨_,_,_,written⟩ | ⟨refused,_⟩ := replaceBootstrap_cases none seed store
    · exact written
    · exact (refused ⟨rfl,accepted,distinct⟩).elim

namespace FileForwardGroupConfig

def Declares (file : FileForwardGroupConfig) (group : ForwardGroup) : Prop :=
  group.id.value = file.id ∧ group.enabled = file.enabled.getD true ∧
    group.next.label = file.next.getD NextRef.directLabel

def memberKeys (file : FileForwardGroupConfig) : List (String × String) :=
  file.members.map fun member => (file.id,member)

end FileForwardGroupConfig

def FileRouteRuleConfig.Declares (file : FileRouteRuleConfig) (rule : RouteRule) : Prop :=
  rule.id.value = file.id ∧ rule.groupId.value = file.group

def FileDnsUpstreamConfig.Declares (file : FileDnsUpstreamConfig) (upstream : DnsUpstream) : Prop :=
  upstream.id.value = file.id ∧ upstream.enabled = file.enabled.getD true ∧ EndpointValid upstream

namespace FileForwardingConfig

variable (file : FileForwardingConfig)

def nodeList : List FileForwardNodeConfig := file.nodes.getD []
def groupList : List FileForwardGroupConfig := file.groups.getD []
def ruleList : List FileRouteRuleConfig := file.rules.getD []

def nextGroup (group : FileForwardGroupConfig) : Option FileForwardGroupConfig :=
  file.groupList.find? fun candidate => group.next = some candidate.id

/-- What the loader does not check and the start of the runtime needs. -/
structure Startable : Prop where
  nodeNames : ∀ node ∈ file.nodeList, node.id ≠ NextRef.directLabel
  namesApart : ∀ node ∈ file.nodeList, ∀ group ∈ file.groupList, node.id ≠ group.id
  membersOnce : ∀ group ∈ file.groupList, group.members.Nodup
  memberNodes : ∀ group ∈ file.groupList, ∀ member ∈ group.members,
    ∃ node ∈ file.nodeList, node.id = member
  rulesOnce : (file.ruleList.map (·.id)).Nodup
  ruleGroups : ∀ rule ∈ file.ruleList, ∃ group ∈ file.groupList, group.id = rule.group
  nextDeclared : ∀ group ∈ file.groupList, ∀ next, group.next = some next →
    next = NextRef.directLabel ∨
      (∃ node ∈ file.nodeList, node.id = next ∧ node.enabled.getD true = true) ∨
      ∃ after ∈ file.groupList, after.id = next ∧ after.enabled.getD true = true
  acyclic : ∀ group ∈ file.groupList,
    ¬ Relation.TransGen (fun first second => file.nextGroup first = some second) group group
  upstreamsOnce : ∀ upstreams, file.dnsUpstreams = some upstreams → (upstreams.map (·.id)).Nodup
  upstreamEnabled : ∀ upstreams, file.dnsUpstreams = some upstreams →
    ∃ upstream ∈ upstreams, upstream.enabled.getD true = true

end FileForwardingConfig

theorem loadNodes_ok (sha256 : String → String) (files : List FileForwardNodeConfig)
    (loaded result : List ForwardNode) (configs final : ExecutionNodes)
    (ok : loadNodes sha256 loaded configs files = .ok (result,final)) :
    ∃ added, result = loaded ++ added ∧ List.Forall₂ FileForwardNodeConfig.Declares files added ∧
      (added.map (·.id.value)).Nodup ∧ ∀ node ∈ added, node.id.value ∉ configs := by
  induction files generalizing loaded configs with
  | nil =>
    cases ok
    exact ⟨[],by simp,.nil,by simp,by simp⟩
  | cons file rest ih =>
    obtain ⟨⟨node,config⟩,head,tail⟩ := (bind_ok_iff _ _ _).mp ok
    obtain ⟨fresh,tail⟩ := (then_ok_iff _ _ _).mp tail
    rw [ensure_ok_iff] at fresh
    obtain ⟨added,rfl,declared,distinct,outside⟩ := ih _ _ tail
    have apart : ∀ other ∈ added, other.id.value ≠ node.id.value ∧ other.id.value ∉ configs := by
      intro other member
      have missing := outside other member
      rw [Std.ExtTreeMap.mem_insert,not_or,Std.LawfulEqCmp.compare_eq_iff_eq] at missing
      exact ⟨fun same => missing.1 same.symm,missing.2⟩
    refine ⟨node::added,by simp,.cons (file.loadExecutionNode_declares head) declared,?_,?_⟩
    · exact nodup_map_cons (fun other member => (apart other member).1) distinct
    · exact List.forall_mem_cons.mpr ⟨fresh,fun other member => (apart other member).2⟩

theorem validateGroupHeader_ok {id : String} {group : FileForwardGroupConfig} {groupIds result : List String}
    (ok : validateGroupHeader id group groupIds = .ok result) :
    id ≠ NextRef.directLabel ∧ id ∉ groupIds ∧ result = id::groupIds := by
  simp only [validateGroupHeader,then_ok_iff,ensure_ok_iff] at ok
  obtain ⟨named,fresh,_,_,done⟩ := ok
  exact ⟨named,fresh,(Except.ok.inj done).symm⟩

theorem pushGroupMembers_ok (groupId : String) (names : List String) (priority : Nat)
    (members : List GroupMember) (ok : pushGroupMembers groupId priority names = .ok members) :
    members.map memberKey = names.map (fun name => (groupId,name)) ∧
      ∀ member ∈ members, member.enabled = true := by
  induction names generalizing priority members with
  | nil =>
    cases ok
    simp
  | cons name rest ih =>
    obtain ⟨nodeId,named,tail⟩ := (bind_ok_iff _ _ _).mp ok
    obtain ⟨_,tail⟩ := (then_ok_iff _ _ _).mp tail
    obtain ⟨others,pushed,done⟩ := (bind_ok_iff _ _ _).mp tail
    cases done
    obtain ⟨keys,enabled⟩ := ih _ _ pushed
    refine ⟨?_,List.forall_mem_cons.mpr ⟨rfl,enabled⟩⟩
    rw [List.map_cons,List.map_cons,keys,((nonEmpty_ok_iff _ _ _).mp named).2]
    rfl

theorem loadGroups_ok (defaults : GroupThresholds) (files : List FileForwardGroupConfig)
    (groupIds : List String) (groups : List ForwardGroup) (members : List GroupMember)
    (ok : loadGroups defaults groupIds files = .ok (groups,members)) :
    List.Forall₂ FileForwardGroupConfig.Declares files groups ∧ (files.map (·.id)).Nodup ∧
      (∀ file ∈ files, file.id ≠ NextRef.directLabel ∧ file.id ∉ groupIds) ∧
      members.map memberKey = files.flatMap (·.memberKeys) ∧ (∀ member ∈ members, member.enabled = true) ∧
      ∀ group ∈ groups, group.next.Parsed := by
  induction files generalizing groupIds groups members with
  | nil =>
    cases ok
    exact ⟨.nil,by simp,by simp,by simp,by simp,by simp⟩
  | cons file rest ih =>
    obtain ⟨id,named,tail⟩ := (bind_ok_iff _ _ _).mp ok
    obtain ⟨_,rfl⟩ := (nonEmpty_ok_iff _ _ _).mp named
    obtain ⟨ids,header,tail⟩ := (bind_ok_iff _ _ _).mp tail
    obtain ⟨thresholds,_,tail⟩ := (bind_ok_iff _ _ _).mp tail
    obtain ⟨own,pushed,tail⟩ := (bind_ok_iff _ _ _).mp tail
    obtain ⟨⟨later,others⟩,loaded,done⟩ := (bind_ok_iff _ _ _).mp tail
    cases done
    obtain ⟨unreserved,fresh,rfl⟩ := validateGroupHeader_ok header
    obtain ⟨keys,enabled⟩ := pushGroupMembers_ok _ _ _ _ pushed
    obtain ⟨declared,distinct,outside,otherKeys,othersEnabled,parsed⟩ := ih _ _ _ loaded
    have apart : ∀ other ∈ rest, other.id ≠ file.id ∧ other.id ∉ groupIds := by
      intro other member
      simpa using (outside other member).2
    refine ⟨.cons ⟨rfl,rfl,?_⟩ declared,?_,?_,?_,?_,List.forall_mem_cons.mpr ⟨?_,parsed⟩⟩
    · cases named : file.next with
      | none => rfl
      | some next => exact NextRef.parse_label next
    · exact nodup_map_cons (fun other member => (apart other member).1) distinct
    · exact List.forall_mem_cons.mpr ⟨⟨unreserved,fresh⟩,
        fun other member => ⟨(outside other member).1,(apart other member).2⟩⟩
    · rw [List.map_append,List.flatMap_cons,keys,otherKeys]
      rfl
    · intro member inside
      obtain own | later := List.mem_append.mp inside
      · exact enabled member own
      · exact othersEnabled member later
    · cases named : file.next with
      | none => rfl
      | some next => exact NextRef.parse_parsed next

theorem FileRouteRuleConfig.load_declares {file : FileRouteRuleConfig} {rule : RouteRule}
    (ok : file.load = .ok rule) : file.Declares rule := by
  obtain ⟨id,named,tail⟩ := (bind_ok_iff _ _ _).mp ok
  obtain ⟨_,_,tail⟩ := (bind_ok_iff _ _ _).mp tail
  obtain ⟨_,_,tail⟩ := (bind_ok_iff _ _ _).mp tail
  obtain ⟨group,target,done⟩ := (bind_ok_iff _ _ _).mp tail
  cases done
  exact ⟨((nonEmpty_ok_iff _ _ _).mp named).2,((nonEmpty_ok_iff _ _ _).mp target).2⟩

namespace FileDnsUpstreamConfig

theorem loadHttpsTransport_ok {file : FileDnsUpstreamConfig} {transport : DnsUpstreamTransport}
    (ok : file.loadHttpsTransport = .ok transport) (endpoint : DnsHttpsEndpoint)
    (https : transport = .https endpoint) :
    blank endpoint.host = false ∧ endpoint.path.toList.head? = some '/' := by
  obtain ⟨_,_,tail⟩ := (bind_ok_iff _ _ _).mp ok
  obtain ⟨host,named,tail⟩ := (bind_ok_iff _ _ _).mp tail
  obtain ⟨absolute,done⟩ := (then_ok_iff _ _ _).mp tail
  rw [ensure_ok_iff] at absolute
  obtain ⟨filled,rfl⟩ := (nonEmpty_ok_iff _ _ _).mp named
  cases done
  cases https
  exact ⟨filled,absolute⟩

theorem loadTransport_ok {file : FileDnsUpstreamConfig} {transport : DnsUpstreamTransport}
    (ok : file.loadTransport = .ok transport) (endpoint : DnsHttpsEndpoint)
    (https : transport = .https endpoint) :
    blank endpoint.host = false ∧ endpoint.path.toList.head? = some '/' := by
  unfold loadTransport at ok
  split at ok
  · obtain ⟨_,done⟩ := (then_ok_iff _ _ _).mp ok
    cases done
    cases https
  · exact loadHttpsTransport_ok ok endpoint https
  · exact loadHttpsTransport_ok ok endpoint https
  · cases ok

theorem load_declares {file : FileDnsUpstreamConfig} {upstream : DnsUpstream}
    (ok : file.load = .ok upstream) : file.Declares upstream := by
  obtain ⟨id,named,tail⟩ := (bind_ok_iff _ _ _).mp ok
  obtain ⟨_,_,tail⟩ := (bind_ok_iff _ _ _).mp tail
  obtain ⟨transport,loaded,done⟩ := (bind_ok_iff _ _ _).mp tail
  cases done
  exact ⟨((nonEmpty_ok_iff _ _ _).mp named).2,rfl,loadTransport_ok loaded⟩

end FileDnsUpstreamConfig

theorem firstMember_mem {members : List GroupMember} {member : GroupMember}
    (found : firstMember members = some member) : member ∈ members := by
  cases members with
  | nil => cases found
  | cons first rest =>
    cases found
    induction rest generalizing first with
    | nil => simp
    | cons other rest ih =>
      rw [List.foldl_cons]
      split
      · exact List.mem_cons_of_mem _ (ih other)
      · exact (List.mem_cons.mp (ih first)).elim (fun same => by rw [same]; exact List.mem_cons_self)
          fun later => List.mem_cons_of_mem _ (List.mem_cons_of_mem _ later)

theorem validateExecutionNode_ok {defaultGroup : String} {groups : List ForwardGroup}
    {members : List GroupMember} {configs : ExecutionNodes}
    (ok : validateExecutionNode defaultGroup groups members configs = .ok ()) :
    (∃ group ∈ groups, group.id = ⟨defaultGroup⟩ ∧ group.enabled = true) ∧
      ∃ member ∈ members, member.groupId = ⟨defaultGroup⟩ := by
  obtain ⟨group,found,tail⟩ := (bind_ok_iff _ _ _).mp ok
  obtain ⟨enabled,tail⟩ := (then_ok_iff _ _ _).mp tail
  obtain ⟨member,first,_⟩ := (bind_ok_iff _ _ _).mp tail
  rw [need_ok_iff] at found first
  rw [ensure_ok_iff] at enabled
  have name : group.id = ⟨defaultGroup⟩ := by
    have same : group.id.value = defaultGroup := by simpa using List.find?_some found
    rw [← same]
  obtain ⟨inside,own⟩ := List.mem_filter.mp (firstMember_mem first)
  refine ⟨⟨group,List.mem_of_find?_eq_some found,name,enabled⟩,member,inside,?_⟩
  rw [← name]
  simpa using own

theorem loadDnsPolicy_ok {timeoutMs : Option UInt64} {policy result : DnsRacePolicy}
    (positive : policy.timeout ≠ 0) (ok : loadDnsPolicy timeoutMs policy = .ok result) :
    result.timeout ≠ 0 := by
  cases timeoutMs with
  | none =>
    cases ok
    exact positive
  | some millis =>
    obtain ⟨nonzero,done⟩ := (then_ok_iff _ _ _).mp ok
    rw [ensure_ok_iff] at nonzero
    cases done
    have given : millis.toNat ≠ 0 := fun zero => nonzero (UInt64.toNat_inj.mp zero)
    exact Nat.mul_ne_zero given (by decide)

/-- What an accepting run of the loader establishes of the seed. -/
structure Loaded (file : FileForwardingConfig) (seed : RuntimeSeed) : Prop where
  nodes : List.Forall₂ FileForwardNodeConfig.Declares file.nodeList seed.nodes
  nodesPresent : file.nodeList ≠ []
  nodesOnce : (seed.nodes.map (·.id.value)).Nodup
  groups : List.Forall₂ FileForwardGroupConfig.Declares file.groupList seed.groups
  groupsOnce : (file.groupList.map (·.id)).Nodup
  groupNames : ∀ group ∈ file.groupList, group.id ≠ NextRef.directLabel
  members : seed.groupMembers.map memberKey = file.groupList.flatMap (·.memberKeys)
  membersEnabled : ∀ member ∈ seed.groupMembers, member.enabled = true
  nextParsed : seed.NextParsed
  defaultGroup : ∃ group ∈ seed.groups, group.id = seed.defaultGroupId ∧ group.enabled = true
  defaultMember : ∃ member ∈ seed.groupMembers, member.groupId = seed.defaultGroupId
  rules : List.Forall₂ FileRouteRuleConfig.Declares file.ruleList seed.routeRules
  upstreams : (file.dnsUpstreams = none ∧ seed.dnsUpstreams = defaultDnsUpstreams) ∨
    ∃ given, file.dnsUpstreams = some given ∧
      List.Forall₂ FileDnsUpstreamConfig.Declares given seed.dnsUpstreams
  timeoutPositive : seed.dnsPolicy.timeout ≠ 0

theorem loadDnsUpstreams_ok {given : Option (List FileDnsUpstreamConfig)} {defaults result : List DnsUpstream}
    (ok : loadDnsUpstreams given defaults = .ok result) :
    (given = none ∧ result = defaults) ∨
      ∃ files, given = some files ∧ List.Forall₂ FileDnsUpstreamConfig.Declares files result := by
  cases given with
  | none => exact .inl ⟨rfl,(Except.ok.inj ok).symm⟩
  | some files =>
    refine .inr ⟨files,rfl,?_⟩
    exact ((mapM_forall₂ _ _ _).mp ok).imp fun _ _ => FileDnsUpstreamConfig.load_declares

theorem load_loaded {sha256 : String → String} {file : FileForwardingConfig} {config : ForwardingConfig}
    (ok : file.load sha256 = .ok config) (ipv6Enabled : Bool) : Loaded file {config.seed with ipv6Enabled} := by
  obtain ⟨nodes,someNodes,tail⟩ := (bind_ok_iff _ _ _).mp ok
  obtain ⟨groups,someGroups,tail⟩ := (bind_ok_iff _ _ _).mp tail
  obtain ⟨present,tail⟩ := (then_ok_iff _ _ _).mp tail
  rw [need_ok_iff] at someNodes someGroups
  rw [ensure_ok_iff] at present
  have nodeList : file.nodeList = nodes := by rw [FileForwardingConfig.nodeList,someNodes]; rfl
  have groupList : file.groupList = groups := by rw [FileForwardingConfig.groupList,someGroups]; rfl
  cases groups with
  | nil => cases tail
  | cons first rest =>
    obtain ⟨⟨runtimeNodes,configs⟩,nodesOk,tail⟩ := (bind_ok_iff _ _ _).mp tail
    obtain ⟨_,tail⟩ := (then_ok_iff _ _ _).mp tail
    obtain ⟨thresholds,_,tail⟩ := (bind_ok_iff _ _ _).mp tail
    obtain ⟨⟨runtimeGroups,members⟩,groupsOk,tail⟩ := (bind_ok_iff _ _ _).mp tail
    obtain ⟨rules,rulesOk,tail⟩ := (bind_ok_iff _ _ _).mp tail
    obtain ⟨upstreams,upstreamsOk,tail⟩ := (bind_ok_iff _ _ _).mp tail
    obtain ⟨policy,policyOk,tail⟩ := (bind_ok_iff _ _ _).mp tail
    obtain ⟨executionOk,done⟩ := (then_ok_iff _ _ _).mp tail
    cases done
    obtain ⟨added,rfl,nodesDeclared,nodesOnce,_⟩ := loadNodes_ok _ _ _ _ _ _ nodesOk
    obtain ⟨groupsDeclared,groupsOnce,groupNames,keys,enabled,nextParsed⟩ := loadGroups_ok _ _ _ _ _ groupsOk
    obtain ⟨defaultGroup,defaultMember⟩ := validateExecutionNode_ok executionOk
    exact {
      nodes := nodeList ▸ nodesDeclared
      nodesPresent := nodeList ▸ present
      nodesOnce
      groups := groupList ▸ groupsDeclared
      groupsOnce := groupList ▸ groupsOnce
      groupNames := fun group member => (groupNames group (groupList ▸ member)).1
      members := groupList ▸ keys
      membersEnabled := enabled
      nextParsed
      defaultGroup
      defaultMember
      rules := ((mapM_forall₂ _ _ _).mp rulesOk).imp fun _ _ => FileRouteRuleConfig.load_declares
      upstreams := loadDnsUpstreams_ok upstreamsOk
      timeoutPositive := loadDnsPolicy_ok (by decide) policyOk }

namespace Loaded

variable {file : FileForwardingConfig} {seed : RuntimeSeed} (loaded : Loaded file seed)

include loaded

theorem nodeIds : file.nodeList.map (·.id) = seed.nodes.map (·.id.value) :=
  Related.map_eq (fun _ _ declared => declared.1.symm) loaded.nodes

theorem groupIds : file.groupList.map (·.id) = seed.groups.map (·.id.value) :=
  Related.map_eq (fun _ _ declared => declared.1.symm) loaded.groups

theorem node_iff (name : String) :
    (∃ node ∈ seed.nodes, node.id.value = name) ↔ ∃ node ∈ file.nodeList, node.id = name := by
  rw [← List.mem_map,← List.mem_map,loaded.nodeIds]

theorem group_iff (name : String) :
    (∃ group ∈ seed.groups, group.id.value = name) ↔ ∃ group ∈ file.groupList, group.id = name := by
  rw [← List.mem_map,← List.mem_map,loaded.groupIds]

theorem nodeNames_iff : (∀ node ∈ seed.nodes, node.id.value ≠ NextRef.directLabel) ↔
    ∀ node ∈ file.nodeList, node.id ≠ NextRef.directLabel :=
  (Related.forall_iff (fun _ _ declared => by rw [declared.1]) loaded.nodes).symm

theorem namesApart_iff : (∀ node ∈ seed.nodes, ∀ group ∈ seed.groups, node.id.value ≠ group.id.value) ↔
    ∀ node ∈ file.nodeList, ∀ group ∈ file.groupList, node.id ≠ group.id := by
  refine (Related.forall_iff ?_ loaded.nodes).symm
  intro node declaredNode same
  refine Related.forall_iff ?_ loaded.groups
  intro group declaredGroup named
  rw [same.1,named.1]

theorem memberGroups : ∀ member ∈ seed.groupMembers, ∃ group ∈ seed.groups, group.id = member.groupId := by
  intro member inside
  have key := List.mem_map_of_mem (f := memberKey) inside
  rw [loaded.members] at key
  obtain ⟨group,declared,own⟩ := List.mem_flatMap.mp key
  obtain ⟨_,_,same⟩ := List.mem_map.mp own
  obtain ⟨other,present,named⟩ := (loaded.group_iff _).mpr ⟨group,declared,rfl⟩
  exact ⟨other,present,Id.value_inj.mp (named.trans (congrArg Prod.fst same))⟩

theorem memberNodes_iff :
    (∀ member ∈ seed.groupMembers, ∃ node ∈ seed.nodes, node.id = member.nodeId) ↔
      ∀ group ∈ file.groupList, ∀ member ∈ group.members, ∃ node ∈ file.nodeList, node.id = member := by
  have named (member : GroupMember) : (∃ node ∈ seed.nodes, node.id = member.nodeId) ↔
      ∃ node ∈ file.nodeList, node.id = (memberKey member).2 := by
    rw [← loaded.node_iff]
    simp only [memberKey,Id.value_inj]
  simp only [named]
  rw [← List.forall_mem_map (P := fun key : String × String => ∃ node ∈ file.nodeList, node.id = key.2),
    loaded.members]
  constructor
  · intro each group declared member own
    exact each _ (List.mem_flatMap.mpr ⟨group,declared,List.mem_map_of_mem own⟩)
  · intro each key inside
    obtain ⟨group,declared,own⟩ := List.mem_flatMap.mp inside
    obtain ⟨member,named,rfl⟩ := List.mem_map.mp own
    exact each group declared member named

theorem membersOnce_iff :
    (seed.groupMembers.map memberKey).Nodup ↔ ∀ group ∈ file.groupList, group.members.Nodup := by
  have apart : file.groupList.Pairwise (Function.onFun List.Disjoint (·.memberKeys)) := by
    refine (List.pairwise_map.mp loaded.groupsOnce).imp ?_
    intro first second different key own other
    obtain ⟨_,_,rfl⟩ := List.mem_map.mp own
    obtain ⟨_,_,same⟩ := List.mem_map.mp other
    exact different (congrArg Prod.fst same).symm
  rw [loaded.members,List.nodup_flatMap,and_iff_left apart]
  refine forall₂_congr ?_
  intro group _
  exact List.nodup_map_iff fun _ _ same => congrArg Prod.snd same

theorem rulesOnce_iff : (seed.routeRules.map (·.id.value)).Nodup ↔ (file.ruleList.map (·.id)).Nodup := by
  rw [Related.map_eq (fun _ _ declared => declared.1.symm) loaded.rules]

theorem ruleGroups_iff :
    (∀ rule ∈ seed.routeRules, ∃ group ∈ seed.groups, group.id = rule.groupId) ↔
      ∀ rule ∈ file.ruleList, ∃ group ∈ file.groupList, group.id = rule.group := by
  refine (Related.forall_iff ?_ loaded.rules).symm
  intro rule declared ⟨_,target⟩
  rw [← loaded.group_iff,← target]
  simp only [Id.value_inj]

theorem nextDeclared_iff : (∀ group ∈ seed.groups, NextResolved seed.nodes seed.groups group) ↔
    ∀ group ∈ file.groupList, ∀ next, group.next = some next →
      next = NextRef.directLabel ∨
        (∃ node ∈ file.nodeList, node.id = next ∧ node.enabled.getD true = true) ∨
        ∃ after ∈ file.groupList, after.id = next ∧ after.enabled.getD true = true := by
  have node (name : String) : (∃ node ∈ file.nodeList, node.id = name ∧ node.enabled.getD true = true) ↔
      ∃ node ∈ seed.nodes, node.id.value = name ∧ node.enabled = true :=
    Related.exists_iff (fun _ _ declared => by rw [declared.1,declared.2]) loaded.nodes
  have group (name : String) : (∃ after ∈ file.groupList, after.id = name ∧ after.enabled.getD true = true) ↔
      ∃ after ∈ seed.groups, after.id.value = name ∧ after.enabled = true :=
    Related.exists_iff (fun _ _ declared => by rw [declared.1,declared.2.1]) loaded.groups
  simp only [node,group]
  refine (Related.forall_iff ?_ loaded.groups).symm
  intro given declared ⟨_,_,label⟩
  rw [NextResolved,label]
  cases given.next with
  | none => simp
  | some next => simp

theorem nextGroup_rel (apart : ∀ node ∈ file.nodeList, ∀ group ∈ file.groupList, node.id ≠ group.id)
    (given : FileForwardGroupConfig) (group : ForwardGroup) (declared : given.Declares group) :
    Option.Rel FileForwardGroupConfig.Declares (file.nextGroup given)
      (nextGroup seed.nodes seed.groups group) := by
  obtain ⟨_,_,label⟩ := declared
  rw [nextGroup,label,FileForwardingConfig.nextGroup]
  cases given.next with
  | none =>
    rw [Option.getD_none,if_pos rfl,List.find?_eq_none.mpr (by simp)]
    exact .none
  | some next =>
    rw [Option.getD_some]
    split
    next direct =>
      rw [List.find?_eq_none.mpr]
      · exact .none
      · intro candidate inside
        simpa [direct,eq_comm] using loaded.groupNames candidate inside
    next _ =>
      split
      next known =>
        obtain ⟨node,inside,same⟩ : ∃ node ∈ file.nodeList, node.id = next := by
          rw [← loaded.node_iff]
          simpa using known
        rw [List.find?_eq_none.mpr]
        · exact .none
        · intro candidate present
          simpa [← same] using apart node inside candidate present
      next _ =>
        refine Related.find_rel ?_ loaded.groups
        intro candidate other same
        simp [same.1,eq_comm]

theorem acyclic_iff (apart : ∀ node ∈ file.nodeList, ∀ group ∈ file.groupList, node.id ≠ group.id) :
    (∀ group ∈ seed.groups, ∃ path, Path (nextGroup seed.nodes seed.groups) group path) ↔
      ∀ group ∈ file.groupList,
        ¬ Relation.TransGen (fun first second => file.nextGroup first = some second) group group := by
  rw [← exists_path_iff_acyclic file.groupList]
  · refine (Related.forall_iff ?_ loaded.groups).symm
    intro given group declared
    exact Path.exists_iff (loaded.nextGroup_rel apart) declared
  · intro first _ second edge
    exact List.mem_of_find?_eq_some edge

theorem upstreamsOnce_iff : (seed.dnsUpstreams.map (·.id.value)).Nodup ↔
    ∀ upstreams, file.dnsUpstreams = some upstreams → (upstreams.map (·.id)).Nodup := by
  obtain ⟨absent,same⟩ | ⟨given,present,declared⟩ := loaded.upstreams
  · simp [absent,same,defaultDnsUpstreams]
  · rw [← Related.map_eq (fun _ _ declared => declared.1.symm) declared]
    simp [present]

theorem upstreamEnabled_iff : (∃ upstream ∈ seed.dnsUpstreams, upstream.enabled = true) ↔
    ∀ upstreams, file.dnsUpstreams = some upstreams →
      ∃ upstream ∈ upstreams, upstream.enabled.getD true = true := by
  obtain ⟨absent,same⟩ | ⟨given,present,declared⟩ := loaded.upstreams
  · simp [absent,same,defaultDnsUpstreams]
  · rw [← Related.exists_iff (fun _ _ declared => by rw [declared.2.1]) declared]
    simp [present]

theorem endpointsValid : ∀ upstream ∈ seed.dnsUpstreams, EndpointValid upstream := by
  obtain ⟨_,same⟩ | ⟨given,_,declared⟩ := loaded.upstreams
  · simp [same,defaultDnsUpstreams,EndpointValid]
  · exact (Related.forall_iff (fun _ _ declared => iff_of_true trivial declared.2.2) declared).mp
      (fun _ _ => trivial)

theorem accepted (startable : file.Startable) : SeedAccepted seed where
  nodeNames := loaded.nodeNames_iff.mpr startable.nodeNames
  groupNames := (Related.forall_iff (fun _ _ declared => by rw [declared.1]) loaded.groups).mp loaded.groupNames
  distinctNodes := loaded.nodesOnce
  distinctGroups := loaded.groupIds ▸ loaded.groupsOnce
  namesApart := loaded.namesApart_iff.mpr startable.namesApart
  distinctRules := loaded.rulesOnce_iff.mpr startable.rulesOnce
  distinctDns := loaded.upstreamsOnce_iff.mpr startable.upstreamsOnce
  nodesPresent := fun empty => loaded.nodesPresent (List.forall₂_nil_right_iff.mp (empty ▸ loaded.nodes))
  defaultGroup := loaded.defaultGroup
  defaultMember := by
    obtain ⟨member,inside,own⟩ := loaded.defaultMember
    exact ⟨member,inside,own,loaded.membersEnabled member inside⟩
  memberGroups := loaded.memberGroups
  memberNodes := loaded.memberNodes_iff.mpr startable.memberNodes
  ruleGroups := loaded.ruleGroups_iff.mpr startable.ruleGroups
  nextResolved := loaded.nextDeclared_iff.mpr startable.nextDeclared
  acyclic := (loaded.acyclic_iff startable.namesApart).mpr startable.acyclic
  dnsEnabled := loaded.upstreamEnabled_iff.mpr startable.upstreamEnabled
  dnsEndpoints := loaded.endpointsValid
  timeoutPositive := loaded.timeoutPositive

theorem startable (accepted : SeedAccepted seed) (distinct : KeysDistinct seed) : file.Startable where
  nodeNames := loaded.nodeNames_iff.mp accepted.nodeNames
  namesApart := loaded.namesApart_iff.mp accepted.namesApart
  membersOnce := loaded.membersOnce_iff.mp distinct.members
  memberNodes := loaded.memberNodes_iff.mp accepted.memberNodes
  rulesOnce := loaded.rulesOnce_iff.mp accepted.distinctRules
  ruleGroups := loaded.ruleGroups_iff.mp accepted.ruleGroups
  nextDeclared := loaded.nextDeclared_iff.mp accepted.nextResolved
  acyclic := (loaded.acyclic_iff (loaded.namesApart_iff.mp accepted.namesApart)).mp accepted.acyclic
  upstreamsOnce := loaded.upstreamsOnce_iff.mp accepted.distinctDns
  upstreamEnabled := loaded.upstreamEnabled_iff.mp accepted.dnsEnabled

theorem keysDistinct (startable : file.Startable) : KeysDistinct seed where
  nodes := loaded.nodesOnce
  groups := loaded.groupIds ▸ loaded.groupsOnce
  members := loaded.membersOnce_iff.mpr startable.membersOnce
  rules := loaded.rulesOnce_iff.mpr startable.rulesOnce
  upstreams := loaded.upstreamsOnce_iff.mpr startable.upstreamsOnce

theorem starts_iff_startable : Starts seed ↔ file.Startable := by
  rw [starts_iff]
  constructor
  · intro ⟨accepted,distinct⟩
    exact loaded.startable accepted distinct
  · intro startable
    exact ⟨loaded.accepted startable,loaded.keysDistinct startable⟩

/-- The selector walks the declared chain of every start group of the loaded seed. -/
theorem follows_chain (startable : file.Startable) (start : ForwardGroup) (member : start ∈ seed.groups)
    {σ : Type} (family : IpFamily) (selectNode : σ → GroupCandidateSet → Option NodeId × σ) (state : σ) :
    ∃ path, seed.Chain start path ∧ seed.Follows family start path
      (seed.groupStore.selectGraphWith seed.nodeStore family selectNode start.id state) := by
  have accepted := loaded.accepted startable
  obtain ⟨path,walk⟩ := accepted.acyclic start member
  exact ⟨path,walk,selectGraphWith_outcome family selectNode accepted loaded.nextParsed walk member state⟩

end Loaded

/-- A loaded file can be started exactly when it is free of the faults that the loader
does not look for. The IPv6 switch comes from another table of the file. -/
theorem load_starts_iff (sha256 : String → String) (file : FileForwardingConfig) (config : ForwardingConfig)
    (ipv6Enabled : Bool) (accepted : file.load sha256 = .ok config) :
    Starts {config.seed with ipv6Enabled} ↔ file.Startable :=
  (load_loaded accepted ipv6Enabled).starts_iff_startable

def directNode (id : String) : FileForwardNodeConfig := {id, kind := "direct"}

def smartGroup (id : String) (members : List String) : FileForwardGroupConfig := {id, mode := "smart", members}

def chainedGroup : FileForwardGroupConfig :=
  {smartGroup "default" ["node-a","node-b"] with next := some "backup"}

def backupRule : FileRouteRuleConfig := ⟨"rule-a",10,"domain-suffix","example.com","backup",none,none⟩

def chainedFile : FileForwardingConfig where
  nodes := some [directNode "node-a",directNode "node-b"]
  groups := some [chainedGroup,smartGroup "backup" ["node-b"]]
  rules := some [backupRule]

/-- The digest of `type=direct`, `ipv6=true` and the two empty parts. -/
def directDigest (_ : String) : String :=
  "4f285f039d7b1a9898590f1355b87bb1fab1fd1725a18a861162d00a5cde8c9e"

theorem chainedFile_startable : chainedFile.Startable := by
  have nodes : chainedFile.nodeList = [directNode "node-a",directNode "node-b"] := rfl
  have groups : chainedFile.groupList = [chainedGroup,smartGroup "backup" ["node-b"]] := rfl
  have rules : chainedFile.ruleList = [backupRule] := rfl
  refine ⟨?_,?_,?_,?_,by decide,?_,?_,?_,by simp [chainedFile],by simp [chainedFile]⟩
  · simp [nodes,directNode,NextRef.directLabel]
  · simp [nodes,groups,directNode,chainedGroup,smartGroup]
  · simp [groups,chainedGroup,smartGroup]
  · simp [nodes,groups,directNode,chainedGroup,smartGroup]
  · simp [rules,groups,backupRule,smartGroup]
  · simp [groups,nodes,chainedGroup,smartGroup,directNode]
  · rw [← exists_path_iff_acyclic]
    · have stops : chainedFile.nextGroup (smartGroup "backup" ["node-b"]) = none := by
        simp [FileForwardingConfig.nextGroup,smartGroup]
      have moves : chainedFile.nextGroup chainedGroup = some (smartGroup "backup" ["node-b"]) := by
        simp [FileForwardingConfig.nextGroup,groups,chainedGroup,smartGroup]
      rw [groups,List.forall_mem_cons,List.forall_mem_singleton]
      exact ⟨⟨_,.step moves (.last stops)⟩,⟨_,.last stops⟩⟩
    · intro first _ second edge
      exact List.mem_of_find?_eq_some edge

theorem chainedFile_starts : ∃ config, chainedFile.load directDigest = .ok config ∧
    Starts {config.seed with ipv6Enabled := true} := by
  have computed : (chainedFile.load directDigest).toOption.map (fun _ => ()) = some () := by decide +kernel
  obtain ⟨config,loaded,_⟩ := ok_of_toOption_map computed
  exact ⟨config,loaded,(load_starts_iff directDigest chainedFile config true loaded).mpr chainedFile_startable⟩

def plainFile (node group : String) (members : List String) : FileForwardingConfig :=
  {nodes := some [directNode node], groups := some [smartGroup group members]}

def loopedGroup : FileForwardGroupConfig := {smartGroup "default" ["node-a"] with next := some "default"}

def loopedFile : FileForwardingConfig :=
  {nodes := some [directNode "node-a"], groups := some [loopedGroup]}

/-- A reserved node name, a name shared by a node and a group, a member listed twice, a
missing member and a group that follows itself. -/
def looseFiles : List FileForwardingConfig :=
  [plainFile "direct" "default" ["direct"],plainFile "default" "default" ["default"],
    plainFile "node-a" "default" ["node-a","node-a"],plainFile "node-a" "default" ["node-a","node-b"],loopedFile]

theorem looseFiles_load : ∀ file ∈ looseFiles, (file.load directDigest).toOption.map (fun _ => ()) = some () := by
  decide +kernel

theorem looseFiles_not_startable : ∀ file ∈ looseFiles, ¬ file.Startable := by
  have node (node group : String) (members : List String) :
      directNode node ∈ (plainFile node group members).nodeList := List.mem_cons_self
  have group (node group : String) (members : List String) :
      smartGroup group members ∈ (plainFile node group members).groupList := List.mem_cons_self
  simp only [looseFiles,List.forall_mem_cons,List.not_mem_nil,false_imp_iff,implies_true,and_true]
  refine ⟨?_,?_,?_,?_,?_⟩
  · intro startable
    exact startable.nodeNames _ (node _ _ _) rfl
  · intro startable
    exact startable.namesApart _ (node _ _ _) _ (group _ _ _) rfl
  · intro startable
    have once := startable.membersOnce _ (group _ _ _)
    simp [smartGroup] at once
  · intro startable
    have known := startable.memberNodes _ (group _ _ _) "node-b" (by simp [smartGroup])
    simp [plainFile,FileForwardingConfig.nodeList,directNode] at known
  · intro startable
    apply startable.acyclic loopedGroup List.mem_cons_self
    apply Relation.TransGen.single
    simp [FileForwardingConfig.nextGroup,FileForwardingConfig.groupList,loopedFile,loopedGroup,smartGroup]

/-- All of these load whatever the digest, and none of them starts. -/
theorem looseFiles_refused : ¬ ∃ file ∈ looseFiles, ∃ sha256 : String → String,
    ∀ config, file.load sha256 = .ok config → Starts config.seed := by
  intro ⟨file,member,sha256,starts⟩
  obtain ⟨_,direct,_⟩ := ok_of_toOption_map (looseFiles_load file member)
  obtain ⟨config,loaded⟩ := load_any direct sha256
  have started := (load_loaded loaded config.seed.ipv6Enabled).starts_iff_startable.mp (starts config loaded)
  exact looseFiles_not_startable file member started

end Dynet.State
