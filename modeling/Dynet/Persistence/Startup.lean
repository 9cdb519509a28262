import Dynet.Dns.Resolve
import Dynet.Lib.Least
import Dynet.Persistence.StoredSelection
import Dynet.Runtime.RouteMatching

/-! Startup from the store and reload from the seed build the same router: what is loaded
after a replacement is the seed with its rows in another order, and neither the order nor
what the columns cannot hold shows in an answer. -/
namespace Dynet.Persistence.Bootstrap
open Dynet.Runtime Dynet.Runtime.Validation Dynet.Lib Dynet.Lib.Checks Dynet.Lib.Walk

section Loading

/-- The seed as its rows are read back, each table in any order. -/
structure Restores (seed : RuntimeSeed) (bootstrap : RuntimeBootstrap) : Prop where
  ipv6Enabled : bootstrap.ipv6Enabled = seed.ipv6Enabled
  nodes : bootstrap.nodes.Perm seed.nodes
  defaultGroupId : bootstrap.defaultGroupId = seed.defaultGroupId
  groups : bootstrap.groups.Perm (seed.groups.map storedGroup)
  groupMembers : bootstrap.groupMembers.Perm seed.groupMembers
  routeRules : bootstrap.routeRules.Perm (seed.routeRules.map storedRule)
  dnsUpstreams : bootstrap.dnsUpstreams.Perm seed.dnsUpstreams
  dnsPolicy : bootstrap.dnsPolicy = seed.dnsPolicy

variable {seed : RuntimeSeed} {bootstrap : RuntimeBootstrap}

theorem storedGroups_ids (groups : List ForwardGroup) : (groups.map storedGroup).map (·.id) = groups.map (·.id) := by
  rw [List.map_map]
  rfl

theorem storedGroups_names (groups : List ForwardGroup) : (groups.map storedGroup).map (·.id.value) = groups.map (·.id.value) := by
  rw [List.map_map]
  rfl

namespace Restores
variable (restores : Restores seed bootstrap)
include restores

theorem mem_groups {group : ForwardGroup} : group ∈ bootstrap.groups ↔ ∃ declared ∈ seed.groups, storedGroup declared = group := by
  rw [restores.groups.mem_iff,List.mem_map]

theorem nextGroup_stored (distinct : (seed.groups.map (·.id.value)).Nodup) (group : ForwardGroup) :
    nextGroup bootstrap.nodes bootstrap.groups (storedGroup group) = (nextGroup seed.nodes seed.groups group).map storedGroup := by
  have label : (storedGroup group).next.label = group.next.label := rfl
  have distinctStored : ((seed.groups.map storedGroup).map (·.id.value)).Nodup := (storedGroups_names seed.groups).symm ▸ distinct
  unfold nextGroup
  rw [label,restores.nodes.any_eq]
  split
  · rfl
  · split
    · rfl
    · rw [Maps.find_perm restores.groups distinctStored,List.find?_map]
      rfl

theorem accepted (accepted : SeedAccepted seed) :
    SeedAccepted ⟨bootstrap.ipv6Enabled,bootstrap.nodes,bootstrap.defaultGroupId,bootstrap.groups,bootstrap.groupMembers,
      bootstrap.routeRules,bootstrap.dnsUpstreams,bootstrap.dnsPolicy⟩ := by
  have nodes {node : ForwardNode} : node ∈ bootstrap.nodes ↔ node ∈ seed.nodes := restores.nodes.mem_iff
  have members {member : GroupMember} : member ∈ bootstrap.groupMembers ↔ member ∈ seed.groupMembers := restores.groupMembers.mem_iff
  have upstreams {upstream : DnsUpstream} : upstream ∈ bootstrap.dnsUpstreams ↔ upstream ∈ seed.dnsUpstreams :=
    restores.dnsUpstreams.mem_iff
  have declared {holds : ForwardGroup → Prop} (every : ∀ group ∈ seed.groups, holds (storedGroup group)) :
      ∀ group ∈ bootstrap.groups, holds group := by
    intro group member
    obtain ⟨group,listed,rfl⟩ := restores.mem_groups.mp member
    exact every group listed
  have stored {holds : ForwardGroup → Prop} (some : ∃ group ∈ seed.groups, holds (storedGroup group)) :
      ∃ group ∈ bootstrap.groups, holds group := by
    obtain ⟨group,listed,fits⟩ := some
    exact ⟨_,restores.mem_groups.mpr ⟨group,listed,rfl⟩,fits⟩
  exact {
    nodeNames := fun node member => accepted.nodeNames node (nodes.mp member)
    groupNames := declared accepted.groupNames
    distinctNodes := (restores.nodes.map _).nodup_iff.mpr accepted.distinctNodes
    distinctGroups := (restores.groups.map _).nodup_iff.mpr ((storedGroups_names seed.groups).symm ▸ accepted.distinctGroups)
    namesApart := fun node member => declared (accepted.namesApart node (nodes.mp member))
    distinctRules := by
      refine (restores.routeRules.map _).nodup_iff.mpr ?_
      rw [List.map_map]
      exact accepted.distinctRules
    distinctDns := (restores.dnsUpstreams.map _).nodup_iff.mpr accepted.distinctDns
    nodesPresent := fun none => accepted.nodesPresent (List.nil_perm.mp (none ▸ restores.nodes))
    defaultGroup := by
      rw [restores.defaultGroupId]
      exact stored accepted.defaultGroup
    defaultMember := by
      obtain ⟨member,listed,owner,enabled⟩ := accepted.defaultMember
      exact ⟨member,members.mpr listed,owner.trans restores.defaultGroupId.symm,enabled⟩
    memberGroups := fun member listed => stored (accepted.memberGroups member (members.mp listed))
    memberNodes := fun member listed => by
      obtain ⟨node,present,same⟩ := accepted.memberNodes member (members.mp listed)
      exact ⟨node,nodes.mpr present,same⟩
    ruleGroups := fun rule listed => by
      obtain ⟨declared,present,rfl⟩ := List.mem_map.mp (restores.routeRules.mem_iff.mp listed)
      exact stored (accepted.ruleGroups declared present)
    nextResolved := declared fun group listed => by
      rcases accepted.nextResolved group listed with direct | ⟨node,present,named⟩ | after
      · exact .inl direct
      · exact .inr (.inl ⟨node,nodes.mpr present,named⟩)
      · exact .inr (.inr (stored after))
    acyclic := declared fun group listed => by
      obtain ⟨path,walk⟩ := accepted.acyclic group listed
      exact ⟨_,walk.map storedGroup (restores.nextGroup_stored accepted.distinctGroups)⟩
    dnsEnabled := by
      obtain ⟨upstream,listed,enabled⟩ := accepted.dnsEnabled
      exact ⟨upstream,upstreams.mpr listed,enabled⟩
    dnsEndpoints := fun upstream listed => accepted.dnsEndpoints upstream (upstreams.mp listed)
    timeoutPositive := by
      rw [restores.dnsPolicy]
      exact accepted.timeoutPositive }

end Restores

theorem orderBy_mapM {ρ α β ε : Type} {decode : ρ → Except ε β} {encode : α → ρ} {stored : α → β} {xs : List α}
    (decodes : ∀ x ∈ xs, decode (encode x) = .ok (stored x)) (order : ρ → ρ → Ordering) :
    ∃ ys, (orderBy order (xs.map encode)).mapM decode = .ok ys ∧ ys.Perm (xs.map stored) :=
  mapM_perm decodes (List.mergeSort_perm _ _)

theorem loadNodes_ofSeed (seed : RuntimeSeed) : ∃ nodes, loadNodes (.ofSeed seed) = .ok nodes ∧ nodes.Perm seed.nodes := by
  have loaded := orderBy_mapM (fun node (_ : node ∈ seed.nodes) => rowToNode_nodeRow node)
  simp only [List.map_id'] at loaded
  exact loaded _

theorem loadGroups_ofSeed (parsed : seed.NextParsed) :
    ∃ groups, loadGroups (.ofSeed seed) = .ok groups ∧ groups.Perm (seed.groups.map storedGroup) :=
  orderBy_mapM (fun group listed => rowToGroup_groupRow (parsed group listed)) _

theorem loadGroupMembers_ofSeed (seed : RuntimeSeed) :
    ∃ members, loadGroupMembers (.ofSeed seed) = .ok members ∧ members.Perm seed.groupMembers := by
  have loaded := orderBy_mapM (fun member (_ : member ∈ seed.groupMembers) => rowToGroupMember_groupMemberRow member)
  simp only [List.map_id'] at loaded
  exact loaded _

theorem loadRouteRules_ofSeed (seed : RuntimeSeed) :
    ∃ rules, loadRouteRules (.ofSeed seed) = .ok rules ∧ rules.Perm (seed.routeRules.map storedRule) :=
  orderBy_mapM (fun rule _ => rowToRouteRule_routeRuleRow rule) _

theorem loadDnsUpstreams_ofSeed (printed : ∀ upstream ∈ seed.dnsUpstreams, Printed upstream) :
    ∃ upstreams, loadDnsUpstreams (.ofSeed seed) = .ok upstreams ∧ upstreams.Perm seed.dnsUpstreams := by
  have loaded := orderBy_mapM fun upstream listed => rowToDnsUpstream_dnsUpstreamRow (printed upstream listed)
  simp only [List.map_id'] at loaded
  exact loaded _

theorem loadIpv6Enabled_ofSeed (seed : RuntimeSeed) : loadIpv6Enabled (.ofSeed seed) = .ok seed.ipv6Enabled := by
  cases on : seed.ipv6Enabled <;> simp [loadIpv6Enabled,Tables.ofSeed,on]

/-- What the transaction wrote is accepted when it is loaded. -/
theorem loadBootstrap_ofSeed (accepted : SeedAccepted seed) (parsed : seed.NextParsed) {millis : Nat} (short : millis < 2^64)
    (timeout : seed.dnsPolicy.timeout = Duration.fromMillis millis) (printed : ∀ upstream ∈ seed.dnsUpstreams, Printed upstream) :
    ∃ bootstrap, loadBootstrap (some schemaVersion) (.ofSeed seed) = .ok bootstrap ∧ Restores seed bootstrap := by
  obtain ⟨nodes,loadedNodes,nodesPerm⟩ := loadNodes_ofSeed seed
  obtain ⟨groups,loadedGroups,groupsPerm⟩ := loadGroups_ofSeed parsed
  obtain ⟨members,loadedMembers,membersPerm⟩ := loadGroupMembers_ofSeed seed
  obtain ⟨rules,loadedRules,rulesPerm⟩ := loadRouteRules_ofSeed seed
  obtain ⟨upstreams,loadedUpstreams,upstreamsPerm⟩ := loadDnsUpstreams_ofSeed printed
  have restores : Restores seed ⟨seed.ipv6Enabled,nodes,seed.defaultGroupId,groups,members,rules,upstreams,seed.dnsPolicy⟩ :=
    ⟨rfl,nodesPerm,rfl,groupsPerm,membersPerm,rulesPerm,upstreamsPerm,rfl⟩
  have valid := (validateSeed_ok_iff _).mpr (restores.accepted accepted)
  refine ⟨_,?_,restores⟩
  rw [loadBootstrap]
  simp only [bind_ok_iff,need_ok_iff]
  exact ⟨(),ensure_of _ _ trivial,_,rfl,_,loadIpv6Enabled_ofSeed seed,_,loadedNodes,_,loadedGroups,_,loadedMembers,_,loadedRules,_,loadedUpstreams,_,
    loadDnsPolicy_ofSeed short timeout,(),(mapError_ok_iff _ _ _).mpr valid,rfl⟩

end Loading

section Routing

/-- The routing of `from_bootstrap`. -/
def RuntimeBootstrap.routing (bootstrap : RuntimeBootstrap) : RuntimeRouting where
  generation := 1
  ipv6Enabled := bootstrap.ipv6Enabled
  nodes := .fromNodes bootstrap.nodes
  groups := .fromParts bootstrap.defaultGroupId bootstrap.groups bootstrap.groupMembers
  routes := .fromRules bootstrap.routeRules
  dnsUpstreams := .fromUpstreams bootstrap.dnsUpstreams
  dnsPolicy := bootstrap.dnsPolicy

theorem matches_stored (matcher : RouteMatcher) (target : TargetContext) :
    (storedMatcher matcher).matches target = matcher.matches target := by
  cases matcher <;> simp [storedMatcher,RouteMatcher.matches,asciiLowercase_idem]

variable {seed : RuntimeSeed} {bootstrap : RuntimeBootstrap} (accepted : SeedAccepted seed) (restores : Restores seed bootstrap)
  (keys : KeysDistinct seed)

theorem nodup_ids {α : Type} {kind : IdKind} {key : α → Id kind} {xs : List α} (distinct : (xs.map fun x => (key x).value).Nodup) :
    (xs.map key).Nodup := by
  refine List.Nodup.of_map Id.value ?_
  rwa [List.map_map]

namespace Restores

section Groups
include accepted restores

theorem nodes_same : bootstrap.routing.nodes.nodes = seed.nodeStore.nodes :=
  Maps.fill_perm id restores.nodes (nodup_ids accepted.distinctNodes)

theorem groups_stored (groupId : GroupId) :
    bootstrap.routing.groups.groups[groupId]? = seed.groupStore.groups[groupId]?.map storedGroup := by
  have distinct : (seed.groups.map (·.id)).Nodup := nodup_ids accepted.distinctGroups
  have distinctStored : ((seed.groups.map storedGroup).map (·.id)).Nodup := (storedGroups_ids seed.groups).symm ▸ distinct
  change (Maps.fill (·.id) id bootstrap.groups ∅)[groupId]? = (Maps.fill (·.id) id seed.groups ∅)[groupId]?.map storedGroup
  rw [Maps.fill_perm id restores.groups distinctStored,Maps.fill_empty_lookup _ _ _ _ distinctStored,
    Maps.fill_empty_lookup _ _ _ _ distinct,List.find?_map,Option.map_id]
  rfl

theorem groups_size : bootstrap.routing.groups.groups.size = seed.groupStore.groups.size := by
  have distinct : (seed.groups.map (·.id)).Nodup := nodup_ids accepted.distinctGroups
  have distinctStored : ((seed.groups.map storedGroup).map (·.id)).Nodup := (storedGroups_ids seed.groups).symm ▸ distinct
  change (Maps.fill (·.id) id bootstrap.groups ∅).size = (Maps.fill (·.id) id seed.groups ∅).size
  rw [Maps.fill_perm id restores.groups distinctStored,Maps.fill_empty_size _ _ _ distinctStored,Maps.fill_empty_size _ _ _ distinct,
    List.length_map]

theorem defaultGroup_same : bootstrap.routing.groups.defaultGroup = seed.groupStore.defaultGroup := by
  have loaded := @defaultGroup_declared _ (restores.accepted accepted)
  rw [defaultGroup_declared accepted]
  exact loaded.trans (congrArg some restores.defaultGroupId)

end Groups

theorem members_same (restores : Restores seed bootstrap) (distinct : (seed.groupMembers.map memberKey).Nodup) :
    bootstrap.routing.groups.members = seed.groupStore.members := by
  refine Std.ExtTreeMap.ext_getElem? fun groupId => ?_
  change ((Maps.bucket (·.groupId) bootstrap.groupMembers ∅).map fun _ list => list.mergeSort GroupStore.memberBefore)[groupId]? =
    ((Maps.bucket (·.groupId) seed.groupMembers ∅).map fun _ list => list.mergeSort GroupStore.memberBefore)[groupId]?
  rw [Std.ExtTreeMap.getElem?_map,Std.ExtTreeMap.getElem?_map,Maps.bucket_empty_lookup,Maps.bucket_empty_lookup,
    restores.groupMembers.any_eq]
  split
  · have sorted := Least.mergeSort_eq_of_perm (compareLex (compareOn GroupMember.priority) (compareOn GroupMember.nodeId))
      (restores.groupMembers.filter fun member => member.groupId = groupId) fun left first right second equal => by
        obtain ⟨listed,owner⟩ := List.mem_filter.mp first
        obtain ⟨other,owner'⟩ := List.mem_filter.mp second
        have node := (Ordering.then_eq_eq.mp equal).2
        have same : left.nodeId = right.nodeId := Std.LawfulEqOrd.eq_of_compare node
        have group : left.groupId = right.groupId := (of_decide_eq_true owner).trans (of_decide_eq_true owner').symm
        exact List.inj_on_of_nodup_map distinct listed other (by rw [memberKey,memberKey,same,group])
    exact congrArg some sorted
  · rfl

theorem routes_stored (restores : Restores seed bootstrap) (distinct : (seed.routeRules.map (·.id.value)).Nodup) :
    bootstrap.routing.routes.rules = (RouteRuleStore.fromRules seed.routeRules).rules.map storedRule := by
  have sorted := Least.mergeSort_eq_of_perm
    (compareLex (fun left right => compareOn RouteRule.priority right left) (compareOn RouteRule.id)) restores.routeRules
    fun left first right second equal => by
      have id := (Ordering.then_eq_eq.mp equal).2
      have same : left.id = right.id := Std.LawfulEqOrd.eq_of_compare id
      have stored : ((seed.routeRules.map storedRule).map (·.id.value)).Nodup := by
        rw [List.map_map]
        exact distinct
      exact List.inj_on_of_nodup_map stored first second (by rw [same])
  refine sorted.trans ?_
  exact (@List.map_mergeSort _ _ RouteRuleStore.ruleBefore _ storedRule seed.routeRules fun left _ right _ => rfl).symm

theorem matchGroup_same (restores : Restores seed bootstrap) (distinct : (seed.routeRules.map (·.id.value)).Nodup)
    (target : TargetContext) :
    bootstrap.routing.routes.matchGroup target = (RouteRuleStore.fromRules seed.routeRules).matchGroup target := by
  have fits : (fun rule : RouteRule => rule.enabled && rule.matcher.matches target) ∘ storedRule =
      fun rule => rule.enabled && rule.matcher.matches target := by
    funext rule
    rw [Function.comp_apply,storedRule,matches_stored]
  rw [RouteRuleStore.matchGroup,RouteRuleStore.matchGroup,restores.routes_stored distinct,List.find?_map,fits]
  cases (RouteRuleStore.fromRules seed.routeRules).rules.find? _ <;> rfl

theorem alike (accepted : SeedAccepted seed) (keys : KeysDistinct seed) (restores : Restores seed bootstrap) :
    Alike bootstrap.routing.groups seed.groupStore bootstrap.routing.nodes seed.nodeStore where
  nodes := nodes_same accepted restores
  groups := groups_stored accepted restores
  size := groups_size accepted restores
  members := restores.members_same keys.members
  defaultGroup := defaultGroup_same accepted restores

end Restores

/-- After a replacement the store loads, and the routing that startup builds from it gives
the answers of the routing that a reload builds from the seed: to every match, start group,
selection of the active rollout, candidate list and list of DNS upstreams. -/
theorem startup_agrees {seed : RuntimeSeed} (parsed : seed.NextParsed)
    (timeout : ∃ millis < 2^63, seed.dnsPolicy.timeout = Duration.fromMillis millis)
    (printed : ∀ upstream ∈ seed.dnsUpstreams, Printed upstream) {fault : Option String} {store after : Tables}
    (replaced : replaceBootstrap fault seed store = (.ok (),after)) (generation : Nat) :
    ∃ bootstrap, loadBootstrap (some schemaVersion) after = .ok bootstrap ∧
      let loaded := bootstrap.routing
      let direct := RuntimeRouting.fromSeed generation seed
      (∀ target, loaded.routes.matchGroup target = direct.routes.matchGroup target ∧
        loaded.startGroup target = direct.startGroup target) ∧
      (∀ sessions, hops sessions < 2^63 - 1 → ∀ context groupId,
        RuntimeState.selectGraph (selectActive loaded.nodes sessions) loaded context groupId =
          RuntimeState.selectGraph (selectActive direct.nodes sessions) direct context groupId) ∧
      (∀ groupId family, loaded.groups.enabledCandidates groupId loaded.nodes family =
        direct.groups.enabledCandidates groupId direct.nodes family) ∧
      Dns.enabledUpstreams loaded.dnsUpstreams = Dns.enabledUpstreams direct.dnsUpstreams := by
  obtain ⟨-,accepted,keys,written⟩ | ⟨-,error,failed⟩ := replaceBootstrap_cases fault seed store
  · obtain ⟨millis,short,timeout⟩ := timeout
    cases replaced.symm.trans written
    obtain ⟨bootstrap,loads,restores⟩ := loadBootstrap_ofSeed accepted parsed (by omega) timeout printed
    have alike := restores.alike accepted keys
    have matched := restores.matchGroup_same accepted.distinctRules
    refine ⟨bootstrap,loads,fun target => ⟨matched target,?_⟩,fun sessions few context groupId => ?_,
      fun groupId family => alike.enabledCandidates family groupId,?_⟩
    · change ((bootstrap.routing.routes.matchGroup target).groupId <|> bootstrap.routing.groups.defaultGroup) = _
      rw [matched target,alike.defaultGroup]
      rfl
    · refine (alike.selectGraphWith _ _ groupId ()).trans ?_
      simp only [alike.selectActive few]
      rfl
    · have upstreams : bootstrap.routing.dnsUpstreams = .fromUpstreams seed.dnsUpstreams :=
        congrArg DnsUpstreamStore.mk (Maps.fill_perm id restores.dnsUpstreams (nodup_ids accepted.distinctDns))
      rw [upstreams]
      rfl
  · cases replaced.symm.trans failed

end Routing

section Sample

def wideGroup : ForwardGroup :=
  {ForwardGroup.defaultGroup with id := ⟨"GitHub"⟩, thresholds := ⟨980000,.ofNat (2^63),some (.ofNat (2^64 - 1))⟩}

/-- Thresholds that no column holds, and addresses with a gap and with a scope. -/
def wideSeed : RuntimeSeed :=
  {RuntimeSeed.singleNode "direct" with
    defaultGroupId := wideGroup.id
    groups := [wideGroup]
    groupMembers := [.defaultMember ⟨defaultNodeId⟩ wideGroup.id]
    routeRules := [⟨⟨"documentation"⟩,10,true,.ipExact (.v6 0x20010db8000000000000000000000010),wideGroup.id,.allow⟩]
    dnsUpstreams := [⟨⟨"router"⟩,.v6 0xfe800000000000000000000000000001 53 0 7,.udp,true,0⟩]}

example : storedThresholds wideGroup.thresholds = ⟨980000,.ofNat (2^63 - 1),some (.ofNat (2^63 - 1))⟩ := by decide

theorem wideSeed_replaced : replaceBootstrap none wideSeed (.ofSeed (.singleNode "direct")) = (.ok (),.ofSeed wideSeed) := by
  have accepted : SeedAccepted wideSeed := (validateSeed_ok_iff _).mp (by decide)
  have keys : KeysDistinct wideSeed := ⟨by decide,by decide,by decide,by decide,by decide⟩
  obtain ⟨-,-,-,replaced⟩ | ⟨refused,-⟩ := replaceBootstrap_cases none wideSeed (.ofSeed (.singleNode "direct"))
  · exact replaced
  · exact absurd ⟨rfl,accepted,keys⟩ refused

theorem wideSeed_agrees : ∃ bootstrap, loadBootstrap (some schemaVersion) (.ofSeed wideSeed) = .ok bootstrap ∧
    ∀ context, RuntimeState.selectGraph (selectActive bootstrap.routing.nodes [openSession]) bootstrap.routing context wideGroup.id =
      RuntimeState.selectGraph (selectActive wideSeed.nodeStore [openSession]) (.fromSeed 2 wideSeed) context wideGroup.id := by
  have printed : ∀ upstream ∈ wideSeed.dnsUpstreams, Printed upstream := by
    intro upstream member
    cases List.mem_singleton.mp member
    rintro _ _ _ _ ⟨⟩
    rfl
  obtain ⟨bootstrap,loads,-,selected,-⟩ := startup_agrees (by decide) ⟨2000,by decide,rfl⟩ printed wideSeed_replaced 2
  exact ⟨bootstrap,loads,fun context => selected [openSession] (by decide) context wideGroup.id⟩

end Sample
end Dynet.Persistence.Bootstrap
