import Dynet.Runtime.Model
import Dynet.Lib.Checks
import Dynet.Lib.Maps
import Dynet.Lib.Walk

/-! Validation of a routing seed, and what an accepting run establishes. The
declarative reading `SeedAccepted` states the accepted seeds without the order of
the checks; the cycle check is read as the existence of a complete `next` walk. -/
namespace Dynet.Runtime
open Dynet.Lib Dynet.Lib.Checks Dynet.Lib.Walk

inductive RuntimeStoreError where
  | sqlx (message : String)
  | invalidDnsUpstream (id message : String)
  | invalidBootstrap (message : String)
  deriving DecidableEq, Repr

namespace Validation
open RuntimeStoreError

def notReserved (kind id : String) : Except RuntimeStoreError Unit :=
  ensure (id ≠ NextRef.directLabel) (invalidBootstrap s!"{kind} id 'direct' is reserved")

def validateUniqueRuleIds (rules : List RouteRule) : Except RuntimeStoreError Unit :=
  (fun _ => ()) <$> insertAll (·.id.value) (fun _ => .ok ())
    (fun rule : RouteRule => invalidBootstrap s!"route rule id {debug rule.id.value} is duplicated") [] rules

def validateUniqueDnsIds (upstreams : List DnsUpstream) : Except RuntimeStoreError Unit :=
  (fun _ => ()) <$> insertAll (·.id.value) (fun _ => .ok ())
    (fun upstream : DnsUpstream => invalidBootstrap s!"DNS upstream id {debug upstream.id.value} is duplicated")
    [] upstreams

def duplicatedName (id : String) : RuntimeStoreError :=
  invalidBootstrap s!"forwarding name {debug id} is duplicated"

def validateUniqueIds (nodes : List ForwardNode) (groups : List ForwardGroup) (rules : List RouteRule)
    (upstreams : List DnsUpstream) : Except RuntimeStoreError Unit := do
  let names ← insertAll (·.id.value) (fun node : ForwardNode => notReserved "node" node.id.value)
    (fun node => duplicatedName node.id.value) [] nodes
  let _ ← insertAll (·.id.value) (fun group : ForwardGroup => notReserved "group" group.id.value)
    (fun group => duplicatedName group.id.value) names groups
  validateUniqueRuleIds rules
  validateUniqueDnsIds upstreams

def validateDnsUpstream (upstream : DnsUpstream) : Except RuntimeStoreError Unit :=
  match upstream.transport with
  | .udp => .ok ()
  | .https endpoint => do
    ensure (¬ blank endpoint.host)
      (invalidDnsUpstream upstream.id.value "HTTPS DNS upstream host must not be empty")
    ensure (endpoint.path.toList.head? = some '/')
      (invalidDnsUpstream upstream.id.value "HTTPS DNS upstream path must start with '/'")

def validateGroupNextReference (nodes : List ForwardNode) (groups : List ForwardGroup)
    (group : ForwardGroup) : Except RuntimeStoreError Unit :=
  let next := group.next.label
  if next = NextRef.directLabel then .ok () else
  match nodes.find? fun node => node.id.value = next with
  | some node => ensure node.enabled
      (invalidBootstrap s!"group {group.id} next {debug next} references a disabled node")
  | none => match groups.find? fun candidate => candidate.id.value = next with
    | some referenced => ensure referenced.enabled
        (invalidBootstrap s!"group {group.id} next {debug next} references a disabled group")
    | none => .error (invalidBootstrap
        s!"group {group.id} next {debug next} references no declared forwarding node or group")

-- The source's `loop`, with `groups.length + 1` rounds (`nextCycleLoop_fuel`).
def nextCycleLoop (nodes : List ForwardNode) (groups : List ForwardGroup) :
    Nat → List String → String → Except RuntimeStoreError Unit
  | 0, _, current => .error (invalidBootstrap s!"group next cycle includes {debug current}")
  | fuel+1, seen, current => do
    ensure (current ∉ seen) (invalidBootstrap s!"group next cycle includes {debug current}")
    match groups.find? fun candidate => candidate.id.value = current with
    | none => .ok ()
    | some group =>
      let next := group.next.label
      if next = NextRef.directLabel then .ok ()
      else if nodes.any fun node => node.id.value = next then .ok ()
      else nextCycleLoop nodes groups fuel (current::seen) next

def validateGroupNextCycle (nodes : List ForwardNode) (groups : List ForwardGroup) (start : String) :
    Except RuntimeStoreError Unit :=
  nextCycleLoop nodes groups (groups.length + 1) [] start

def validateGroupNextRefs (nodes : List ForwardNode) (groups : List ForwardGroup) :
    Except RuntimeStoreError Unit := do
  each (validateGroupNextReference nodes groups) groups
  each (fun group => validateGroupNextCycle nodes groups group.id.value) groups

def validateMember (nodes : List ForwardNode) (groups : List ForwardGroup) (member : GroupMember) :
    Except RuntimeStoreError Unit := do
  ensure (groups.any fun group => group.id = member.groupId)
    (invalidBootstrap s!"group member references missing group {member.groupId}")
  ensure (nodes.any fun node => node.id = member.nodeId)
    (invalidBootstrap s!"group member references missing node {member.nodeId}")

def validateReferences (nodes : List ForwardNode) (groups : List ForwardGroup)
    (members : List GroupMember) (rules : List RouteRule) : Except RuntimeStoreError Unit := do
  each (validateMember nodes groups) members
  each (fun rule : RouteRule => ensure (groups.any fun group => group.id = rule.groupId)
    (invalidBootstrap s!"route rule {rule.id} references missing group {rule.groupId}")) rules
  validateGroupNextRefs nodes groups

def validateDefaultGroup (defaultGroupId : GroupId) (groups : List ForwardGroup)
    (members : List GroupMember) : Except RuntimeStoreError Unit := do
  match groups.find? fun group => group.id = defaultGroupId with
  | none => .error (invalidBootstrap s!"default group {defaultGroupId} is missing")
  | some group => ensure group.enabled (invalidBootstrap s!"default group {defaultGroupId} is disabled")
  ensure (members.any fun member => member.groupId = defaultGroupId && member.enabled)
    (invalidBootstrap s!"default group {defaultGroupId} has no enabled member")

def validateBootstrap (nodes : List ForwardNode) (defaultGroupId : GroupId) (groups : List ForwardGroup)
    (members : List GroupMember) (rules : List RouteRule) (upstreams : List DnsUpstream)
    (policy : DnsRacePolicy) : Except RuntimeStoreError Unit := do
  validateUniqueIds nodes groups rules upstreams
  ensure (nodes ≠ []) (invalidBootstrap "at least one node is required")
  validateDefaultGroup defaultGroupId groups members
  validateReferences nodes groups members rules
  ensure (upstreams.any (·.enabled)) (invalidBootstrap "at least one enabled DNS upstream is required")
  each validateDnsUpstream upstreams
  ensure (policy.timeout ≠ 0) (invalidBootstrap "dns_race_timeout_ms must be positive")

def validateSeed (seed : RuntimeSeed) : Except RuntimeStoreError Unit :=
  validateBootstrap seed.nodes seed.defaultGroupId seed.groups seed.groupMembers seed.routeRules
    seed.dnsUpstreams seed.dnsPolicy

example : validateSeed (.singleNode "direct") = .ok () := by decide

-- One `next` edge between groups. A label that names a node leaves the group graph
-- even when that node is disabled.
def nextGroup (nodes : List ForwardNode) (groups : List ForwardGroup) (group : ForwardGroup) :
    Option ForwardGroup :=
  if group.next.label = NextRef.directLabel then none
  else if nodes.any fun node => node.id.value = group.next.label then none
  else groups.find? fun candidate => candidate.id.value = group.next.label

def Canonical (groups : List ForwardGroup) (group : ForwardGroup) : Prop :=
  groups.find? (fun candidate => candidate.id.value = group.id.value) = some group

theorem Canonical.mem {groups : List ForwardGroup} {group : ForwardGroup}
    (canonical : Canonical groups group) : group ∈ groups := List.mem_of_find?_eq_some canonical

theorem Canonical.eq_of_name {groups : List ForwardGroup} {first second : ForwardGroup}
    (left : Canonical groups first) (right : Canonical groups second)
    (same : first.id.value = second.id.value) : first = second := by
  rw [Canonical,same] at left
  exact Option.some.inj (left.symm.trans right)

theorem canonical_of_find {groups : List ForwardGroup} {group : ForwardGroup} {name : String}
    (found : groups.find? (fun candidate => candidate.id.value = name) = some group) :
    group.id.value = name ∧ Canonical groups group := by
  have same : group.id.value = name := by simpa using List.find?_some found
  exact ⟨same,by rw [Canonical,same]; exact found⟩

theorem canonical_of_mem {groups : List ForwardGroup} {group : ForwardGroup}
    (distinct : (groups.map (·.id.value)).Nodup) (member : group ∈ groups) : Canonical groups group :=
  (Maps.find_key_iff (fun group : ForwardGroup => group.id.value) groups group.id.value group distinct).mpr ⟨member,rfl⟩

theorem nextGroup_canonical {nodes : List ForwardNode} {groups : List ForwardGroup}
    {group after : ForwardGroup} (edge : nextGroup nodes groups group = some after) :
    after.id.value = group.next.label ∧ Canonical groups after := by
  unfold nextGroup at edge
  split at edge
  · contradiction
  · split at edge
    · contradiction
    · exact canonical_of_find edge

theorem path_canonical {nodes : List ForwardNode} {groups path : List ForwardGroup}
    {group : ForwardGroup} (walk : Path (nextGroup nodes groups) group path)
    (start : Canonical groups group) : ∀ visited ∈ path, Canonical groups visited := by
  induction walk with
  | last stop => simpa using start
  | step edge tail ih =>
    exact List.forall_mem_cons.mpr ⟨start,ih (nextGroup_canonical edge).2⟩

theorem path_length_le {nodes : List ForwardNode} {groups path : List ForwardGroup}
    {group : ForwardGroup} (walk : Path (nextGroup nodes groups) group path)
    (start : Canonical groups group) : path.length ≤ groups.length :=
  walk.length_le start.mem fun _ _ _ edge => (nextGroup_canonical edge).2.mem

section Cycle
variable (nodes : List ForwardNode) (groups : List ForwardGroup)

/-- The round bound stands for the unbounded `loop`: more rounds change nothing. -/
theorem nextCycleLoop_fuel (fuel : Nat) (seen : List String) (current : String) (distinct : seen.Nodup)
    (inside : seen ⊆ groups.map (·.id.value)) (enough : groups.length < fuel + seen.length) :
    nextCycleLoop nodes groups (fuel+1) seen current = nextCycleLoop nodes groups fuel seen current := by
  induction fuel generalizing seen current with
  | zero =>
    have bound := (List.subperm_of_subset distinct inside).length_le
    rw [List.length_map] at bound
    omega
  | succ fuel ih =>
    rw [nextCycleLoop,nextCycleLoop]
    by_cases fresh : current ∈ seen
    · simp [ensure,fresh,bind,Except.bind]
    · cases found : groups.find? (fun candidate => candidate.id.value = current) with
      | none => rfl
      | some group =>
        have name := canonical_of_find found
        have member : current ∈ groups.map (·.id.value) := name.1 ▸ List.mem_map_of_mem name.2.mem
        have rest := ih (current::seen) group.next.label (List.nodup_cons.mpr ⟨fresh,distinct⟩)
          (List.cons_subset.mpr ⟨member,inside⟩) (by simp only [List.length_cons]; omega)
        simp only [rest]

theorem nextCycleLoop_walk (fuel : Nat) (seen : List String) (group : ForwardGroup)
    (canonical : Canonical groups group)
    (ok : nextCycleLoop nodes groups fuel seen group.id.value = .ok ()) :
    ∃ path, Path (nextGroup nodes groups) group path := by
  induction fuel generalizing seen group with
  | zero => simp [nextCycleLoop] at ok
  | succ fuel ih =>
    rw [nextCycleLoop,then_ok_iff,canonical] at ok
    cases edge : nextGroup nodes groups group with
    | none => exact ⟨[group],.last edge⟩
    | some after =>
      obtain ⟨name,inside⟩ := nextGroup_canonical edge
      unfold nextGroup at edge
      split at edge
      · contradiction
      next different =>
        split at edge
        · contradiction
        next outside =>
          have rest := ok.2
          simp only [if_neg different,if_neg outside] at rest
          rw [← name] at rest
          obtain ⟨path,walk⟩ := ih _ after inside rest
          refine ⟨group::path,.step ?_ walk⟩
          rw [nextGroup,if_neg different,if_neg outside,edge]

-- The invariant of the converse: no group still ahead on the walk has a seen name.
theorem nextCycleLoop_of_walk (path : List ForwardGroup) (group : ForwardGroup)
    (walk : Path (nextGroup nodes groups) group path) (fuel : Nat) (seen : List String)
    (canonical : Canonical groups group) (inside : seen ⊆ groups.map (·.id.value))
    (ahead : ∀ visited ∈ path, visited.id.value ∉ seen) (enough : path.length < fuel) :
    nextCycleLoop nodes groups fuel seen group.id.value = .ok () := by
  induction walk generalizing fuel seen with
  | @last group stop =>
    obtain ⟨fuel,rfl⟩ : ∃ k, fuel = k+2 := ⟨fuel-2,by simp only [List.length_singleton] at enough; omega⟩
    have fresh := ahead group (by simp)
    rw [nextCycleLoop,then_ok_iff,ensure_ok_iff,canonical]
    refine ⟨fresh,?_⟩
    unfold nextGroup at stop
    split at stop
    next direct => simp [direct]
    next different =>
      split at stop
      next known => simp only [if_neg different,if_pos known]
      next outside =>
        have missing : group.next.label ∉ group.id.value::seen := by
          intro member
          have names : group.next.label ∈ groups.map (·.id.value) :=
            List.cons_subset.mpr ⟨List.mem_map_of_mem canonical.mem,inside⟩ member
          obtain ⟨other,present,same⟩ := List.mem_map.mp names
          simpa [same] using List.find?_eq_none.mp stop other present
        simp only [if_neg different,if_neg outside,nextCycleLoop,then_ok_iff,ensure_ok_iff,stop]
        exact ⟨missing,trivial⟩
  | @step group after rest edge tail ih =>
    obtain ⟨fuel,rfl⟩ : ∃ k, fuel = k+1 := ⟨fuel-1,by omega⟩
    obtain ⟨name,next⟩ := nextGroup_canonical edge
    have fresh := ahead group (by simp)
    have nodup := List.nodup_cons.mp (Path.step edge tail).nodup
    have unseen : ∀ visited ∈ rest, visited.id.value ∉ group.id.value::seen := by
      intro visited member
      rw [List.mem_cons,not_or]
      refine ⟨?_,ahead visited (List.mem_cons_of_mem _ member)⟩
      intro same
      have equal := (path_canonical tail next visited member).eq_of_name canonical same
      exact nodup.1 (equal ▸ member)
    have tailOk := ih fuel (group.id.value::seen) next
      (List.cons_subset.mpr ⟨List.mem_map_of_mem canonical.mem,inside⟩) unseen
      (by simp only [List.length_cons] at enough; omega)
    rw [nextCycleLoop,then_ok_iff,ensure_ok_iff,canonical]
    refine ⟨fresh,?_⟩
    unfold nextGroup at edge
    split at edge
    · contradiction
    next different =>
      split at edge
      · contradiction
      next outside =>
        rw [name] at tailOk
        simpa only [if_neg different,if_neg outside] using tailOk

theorem validateGroupNextCycle_ok_iff (group : ForwardGroup) (canonical : Canonical groups group) :
    validateGroupNextCycle nodes groups group.id.value = .ok () ↔
      ∃ path, Path (nextGroup nodes groups) group path := by
  constructor
  · exact nextCycleLoop_walk nodes groups _ _ group canonical
  · rintro ⟨path,walk⟩
    have bound := path_length_le walk canonical
    exact nextCycleLoop_of_walk nodes groups path group walk _ [] canonical (by simp) (by simp)
      (by omega)

end Cycle

def EndpointValid (upstream : DnsUpstream) : Prop :=
  ∀ endpoint, upstream.transport = .https endpoint →
    blank endpoint.host = false ∧ endpoint.path.toList.head? = some '/'

def NextResolved (nodes : List ForwardNode) (groups : List ForwardGroup) (group : ForwardGroup) : Prop :=
  group.next.label = NextRef.directLabel ∨
    (∃ node ∈ nodes, node.id.value = group.next.label ∧ node.enabled = true) ∨
    ∃ after ∈ groups, after.id.value = group.next.label ∧ after.enabled = true

/-- What the validator accepts, read off the seed alone. -/
structure SeedAccepted (seed : RuntimeSeed) : Prop where
  nodeNames : ∀ node ∈ seed.nodes, node.id.value ≠ NextRef.directLabel
  groupNames : ∀ group ∈ seed.groups, group.id.value ≠ NextRef.directLabel
  distinctNodes : (seed.nodes.map (·.id.value)).Nodup
  distinctGroups : (seed.groups.map (·.id.value)).Nodup
  namesApart : ∀ node ∈ seed.nodes, ∀ group ∈ seed.groups, node.id.value ≠ group.id.value
  distinctRules : (seed.routeRules.map (·.id.value)).Nodup
  distinctDns : (seed.dnsUpstreams.map (·.id.value)).Nodup
  nodesPresent : seed.nodes ≠ []
  defaultGroup : ∃ group ∈ seed.groups, group.id = seed.defaultGroupId ∧ group.enabled = true
  defaultMember : ∃ member ∈ seed.groupMembers, member.groupId = seed.defaultGroupId ∧ member.enabled = true
  memberGroups : ∀ member ∈ seed.groupMembers, ∃ group ∈ seed.groups, group.id = member.groupId
  memberNodes : ∀ member ∈ seed.groupMembers, ∃ node ∈ seed.nodes, node.id = member.nodeId
  ruleGroups : ∀ rule ∈ seed.routeRules, ∃ group ∈ seed.groups, group.id = rule.groupId
  nextResolved : ∀ group ∈ seed.groups, NextResolved seed.nodes seed.groups group
  acyclic : ∀ group ∈ seed.groups, ∃ path, Path (nextGroup seed.nodes seed.groups) group path
  dnsEnabled : ∃ upstream ∈ seed.dnsUpstreams, upstream.enabled = true
  dnsEndpoints : ∀ upstream ∈ seed.dnsUpstreams, EndpointValid upstream
  timeoutPositive : seed.dnsPolicy.timeout ≠ 0

theorem notReserved_ok_iff (kind id : String) : notReserved kind id = .ok () ↔ id ≠ NextRef.directLabel := by
  rw [notReserved,ensure_ok_iff]

theorem validateUniqueRuleIds_ok_iff (rules : List RouteRule) :
    validateUniqueRuleIds rules = .ok () ↔ (rules.map (·.id.value)).Nodup := by
  simp [validateUniqueRuleIds,map_ok_iff,insertAll_ok_iff]

theorem validateUniqueDnsIds_ok_iff (upstreams : List DnsUpstream) :
    validateUniqueDnsIds upstreams = .ok () ↔ (upstreams.map (·.id.value)).Nodup := by
  simp [validateUniqueDnsIds,map_ok_iff,insertAll_ok_iff]

theorem validateUniqueIds_ok_iff (nodes : List ForwardNode) (groups : List ForwardGroup)
    (rules : List RouteRule) (upstreams : List DnsUpstream) :
    validateUniqueIds nodes groups rules upstreams = .ok () ↔
      (∀ node ∈ nodes, node.id.value ≠ NextRef.directLabel) ∧ (nodes.map (·.id.value)).Nodup ∧
      (∀ group ∈ groups, group.id.value ≠ NextRef.directLabel) ∧ (groups.map (·.id.value)).Nodup ∧
      (∀ group ∈ groups, ∀ node ∈ nodes, node.id.value ≠ group.id.value) ∧
      (rules.map (·.id.value)).Nodup ∧ (upstreams.map (·.id.value)).Nodup := by
  have tail : (validateUniqueRuleIds rules >>= fun _ => validateUniqueDnsIds upstreams) = .ok () ↔
      (rules.map (·.id.value)).Nodup ∧ (upstreams.map (·.id.value)).Nodup := by
    rw [then_ok_iff,validateUniqueRuleIds_ok_iff,validateUniqueDnsIds_ok_iff]
  rw [validateUniqueIds,bind_ok_iff]
  simp only [bind_ok_iff _ (fun _ => validateUniqueRuleIds rules >>= _),insertAll_ok_iff,
    notReserved_ok_iff,tail,List.append_nil]
  constructor
  · rintro ⟨names,⟨nodeNames,nodeDistinct,_,rfl⟩,_,⟨groupNames,groupDistinct,apart,_⟩,rulesOk,dnsOk⟩
    refine ⟨nodeNames,nodeDistinct,groupNames,groupDistinct,?_,rulesOk,dnsOk⟩
    intro group member node present same
    exact apart group member (by simpa using ⟨node,present,same⟩)
  · rintro ⟨nodeNames,nodeDistinct,groupNames,groupDistinct,apart,rulesOk,dnsOk⟩
    refine ⟨_,⟨nodeNames,nodeDistinct,by simp,rfl⟩,_,⟨groupNames,groupDistinct,?_,rfl⟩,rulesOk,dnsOk⟩
    intro group member seen
    obtain ⟨node,present,same⟩ := List.mem_map.mp (List.mem_reverse.mp seen)
    exact apart group member node present same

theorem validateDnsUpstream_ok_iff (upstream : DnsUpstream) :
    validateDnsUpstream upstream = .ok () ↔ EndpointValid upstream := by
  unfold validateDnsUpstream EndpointValid
  split
  next udp => simp [udp]
  next endpoint https => simp [https,then_ok_iff]

-- Distinct names make the first match the only one, so both lookups can be read
-- as plain existence.
theorem validateGroupNextReference_ok_iff (nodes : List ForwardNode) (groups : List ForwardGroup)
    (group : ForwardGroup) (nodesDistinct : (nodes.map (·.id.value)).Nodup)
    (groupsDistinct : (groups.map (·.id.value)).Nodup)
    (apart : ∀ group ∈ groups, ∀ node ∈ nodes, node.id.value ≠ group.id.value) :
    validateGroupNextReference nodes groups group = .ok () ↔ NextResolved nodes groups group := by
  unfold validateGroupNextReference NextResolved
  by_cases direct : group.next.label = NextRef.directLabel
  · simp [direct]
  · rw [if_neg direct,or_iff_right direct]
    cases found : nodes.find? (fun node => node.id.value = group.next.label) with
    | some node =>
      have name : node.id.value = group.next.label := by simpa using List.find?_some found
      have inside := List.mem_of_find?_eq_some found
      simp only [ensure_ok_iff]
      constructor
      · exact fun enabled => .inl ⟨node,inside,name,enabled⟩
      · rintro (⟨other,member,same,enabled⟩ | ⟨other,member,same,_⟩)
        · exact List.inj_on_of_nodup_map nodesDistinct member inside (same.trans name.symm) ▸ enabled
        · exact False.elim (apart other member node inside (name.trans same.symm))
    | none =>
      have noNode : ¬ ∃ node ∈ nodes, node.id.value = group.next.label ∧ node.enabled = true := by
        rintro ⟨node,member,same,_⟩
        simpa [same] using List.find?_eq_none.mp found node member
      rw [or_iff_right noNode]
      cases other : groups.find? (fun candidate => candidate.id.value = group.next.label) with
      | some after =>
        obtain ⟨name,canonical⟩ := canonical_of_find other
        simp only [ensure_ok_iff]
        constructor
        · exact fun enabled => ⟨after,canonical.mem,name,enabled⟩
        · rintro ⟨target,member,same,enabled⟩
          exact List.inj_on_of_nodup_map groupsDistinct member canonical.mem (same.trans name.symm) ▸ enabled
      | none =>
        have noGroup : ¬ ∃ after ∈ groups, after.id.value = group.next.label ∧ after.enabled = true := by
          rintro ⟨after,member,same,_⟩
          simpa [same] using List.find?_eq_none.mp other after member
        simp [noGroup]

theorem validateDefaultGroup_ok_iff (defaultGroupId : GroupId) (groups : List ForwardGroup)
    (members : List GroupMember) (distinct : (groups.map (·.id.value)).Nodup) :
    validateDefaultGroup defaultGroupId groups members = .ok () ↔
      (∃ group ∈ groups, group.id = defaultGroupId ∧ group.enabled = true) ∧
        ∃ member ∈ members, member.groupId = defaultGroupId ∧ member.enabled = true := by
  unfold validateDefaultGroup
  cases found : groups.find? (fun group => group.id = defaultGroupId) with
  | none =>
    have missing : ¬ ∃ group ∈ groups, group.id = defaultGroupId ∧ group.enabled = true := by
      rintro ⟨group,member,same,_⟩
      simpa [same] using List.find?_eq_none.mp found group member
    simp [missing,then_ok_iff]
  | some group =>
    have name : group.id = defaultGroupId := by simpa using List.find?_some found
    have inside := List.mem_of_find?_eq_some found
    have enabledIff : (∃ other ∈ groups, other.id = defaultGroupId ∧ other.enabled = true) ↔
        group.enabled = true := by
      constructor
      · rintro ⟨other,member,same,enabled⟩
        have equal := List.inj_on_of_nodup_map distinct member inside
          (congrArg Id.value (same.trans name.symm))
        exact equal ▸ enabled
      · exact fun enabled => ⟨group,inside,name,enabled⟩
    rw [then_ok_iff,ensure_ok_iff,ensure_ok_iff,enabledIff]
    simp

theorem validateReferences_ok_iff (nodes : List ForwardNode) (groups : List ForwardGroup)
    (members : List GroupMember) (rules : List RouteRule)
    (nodesDistinct : (nodes.map (·.id.value)).Nodup) (groupsDistinct : (groups.map (·.id.value)).Nodup)
    (apart : ∀ group ∈ groups, ∀ node ∈ nodes, node.id.value ≠ group.id.value) :
    validateReferences nodes groups members rules = .ok () ↔
      (∀ member ∈ members, (∃ group ∈ groups, group.id = member.groupId) ∧
        ∃ node ∈ nodes, node.id = member.nodeId) ∧
      (∀ rule ∈ rules, ∃ group ∈ groups, group.id = rule.groupId) ∧
      (∀ group ∈ groups, NextResolved nodes groups group) ∧
      ∀ group ∈ groups, ∃ path, Path (nextGroup nodes groups) group path := by
  have member (item : GroupMember) : validateMember nodes groups item = .ok () ↔
      (∃ group ∈ groups, group.id = item.groupId) ∧ ∃ node ∈ nodes, node.id = item.nodeId := by
    simp [validateMember,then_ok_iff]
  have next (group : ForwardGroup) := validateGroupNextReference_ok_iff nodes groups group
    nodesDistinct groupsDistinct apart
  simp only [validateReferences,validateGroupNextRefs,then_ok_iff,each_ok_iff,ensure_ok_iff,member,next]
  refine and_congr Iff.rfl (and_congr (by simp) (and_congr Iff.rfl ?_))
  exact forall₂_congr fun group inside =>
    validateGroupNextCycle_ok_iff nodes groups group (canonical_of_mem groupsDistinct inside)

theorem validateSeed_ok_iff (seed : RuntimeSeed) : validateSeed seed = .ok () ↔ SeedAccepted seed := by
  simp only [validateSeed,validateBootstrap,then_ok_iff,ensure_ok_iff,validateUniqueIds_ok_iff,
    each_ok_iff,validateDnsUpstream_ok_iff]
  constructor
  · rintro ⟨⟨nodeNames,nodesDistinct,groupNames,groupsDistinct,apart,rules,dns⟩,present,default,
      references,enabled,endpoints,timeout⟩
    have default := (validateDefaultGroup_ok_iff _ _ _ groupsDistinct).mp default
    have references := (validateReferences_ok_iff _ _ _ _ nodesDistinct groupsDistinct apart).mp references
    exact ⟨nodeNames,groupNames,nodesDistinct,groupsDistinct,
      fun node inside group member => apart group member node inside,rules,dns,present,default.1,default.2,
      fun member inside => (references.1 member inside).1,
      fun member inside => (references.1 member inside).2,references.2.1,references.2.2.1,references.2.2.2,
      by simpa using enabled,endpoints,timeout⟩
  · intro accepted
    have apart : ∀ group ∈ seed.groups, ∀ node ∈ seed.nodes, node.id.value ≠ group.id.value :=
      fun group member node inside => accepted.namesApart node inside group member
    refine ⟨⟨accepted.nodeNames,accepted.distinctNodes,accepted.groupNames,accepted.distinctGroups,
      apart,accepted.distinctRules,accepted.distinctDns⟩,accepted.nodesPresent,?_,?_,?_,
      accepted.dnsEndpoints,accepted.timeoutPositive⟩
    · exact (validateDefaultGroup_ok_iff _ _ _ accepted.distinctGroups).mpr
        ⟨accepted.defaultGroup,accepted.defaultMember⟩
    · exact (validateReferences_ok_iff _ _ _ _ accepted.distinctNodes accepted.distinctGroups apart).mpr
        ⟨fun member inside => ⟨accepted.memberGroups member inside,accepted.memberNodes member inside⟩,
          accepted.ruleGroups,accepted.nextResolved,accepted.acyclic⟩
    · simpa using accepted.dnsEnabled

end Validation
end Dynet.Runtime
