import Dynet.Runtime.Stores
import Dynet.Runtime.Validation

/-! The group walk on an accepted seed follows exactly the declared `next` chain.
The validator walks names and the selector walks its maps; on accepted seeds both
are the walk along `nextGroup`, whatever the node chooser answers. -/
namespace Dynet.Runtime
open Dynet.Lib Dynet.Lib.Checks Dynet.Lib.Walk Validation

namespace RuntimeSeed

def nodeStore (seed : RuntimeSeed) : NodeStore := .fromNodes seed.nodes

def groupStore (seed : RuntimeSeed) : GroupStore :=
  .fromParts seed.defaultGroupId seed.groups seed.groupMembers

def NextParsed (seed : RuntimeSeed) : Prop := ∀ group ∈ seed.groups, group.next.Parsed

instance (seed : RuntimeSeed) : Decidable seed.NextParsed :=
  inferInstanceAs (Decidable (∀ group ∈ seed.groups, group.next.Parsed))

def Serves (seed : RuntimeSeed) (family : IpFamily) (nodeId : NodeId) : Prop :=
  ∃ node ∈ seed.nodes, node.id = nodeId ∧ node.enabled = true ∧ (family = .ipv6 → node.supportsIpv6 = true)

def Candidate (seed : RuntimeSeed) (family : IpFamily) (group : ForwardGroup) (nodeId : NodeId) : Prop :=
  (∃ member ∈ seed.groupMembers, member.groupId = group.id ∧ member.nodeId = nodeId ∧ member.enabled = true) ∧
    seed.Serves family nodeId

structure HopOf (seed : RuntimeSeed) (family : IpFamily) (group : ForwardGroup) (hop : SelectionTraceHop) :
    Prop where
  groupId : hop.groupId = group.id
  next : hop.next = group.next
  scheduler : hop.scheduler = group.scheduler
  candidate : seed.Candidate family group hop.nodeId

def TerminalOf (seed : RuntimeSeed) : NextRef → SelectionTerminal → Prop
  | .directAuditOutlet, terminal => terminal = .directAuditOutlet
  | .named name, terminal => ∃ node ∈ seed.nodes, node.id.value = name ∧ node.enabled = true ∧
      terminal = .node node.id

def Chain (seed : RuntimeSeed) : ForwardGroup → List ForwardGroup → Prop :=
  Path (nextGroup seed.nodes seed.groups)

def PathServes (seed : RuntimeSeed) (family : IpFamily) (trace : List SelectionTraceHop)
    (terminal : SelectionTerminal) : Prop :=
  (∀ hop ∈ trace, seed.Serves family hop.nodeId) ∧ ∀ nodeId, terminal = .node nodeId → seed.Serves family nodeId

def ExitServes (seed : RuntimeSeed) (family : IpFamily) : NextRef → Prop
  | .directAuditOutlet => True
  | .named name => seed.Serves family ⟨name⟩

def Exhausted (seed : RuntimeSeed) (family : IpFamily) (group : ForwardGroup) (e : GroupSelectError) : Prop :=
  (e = .noEnabledNode group.id ∨ e = .noCapableNode group.id family) ∧
    ¬ ∃ nodeId, seed.Candidate family group nodeId

/-- The answers a walk along `path` may give. -/
def Follows (seed : RuntimeSeed) (family : IpFamily) (start : ForwardGroup) (path : List ForwardGroup) :
    Except GroupSelectError GroupSelection → Prop
  | .ok selection => (∀ visited ∈ path, visited.enabled = true) ∧
      List.Forall₂ (seed.HopOf family) path selection.trace ∧
      (selection.trace.map (·.groupId)).Nodup ∧
      ∃ hop, selection.trace.getLast? = some hop ∧ seed.TerminalOf hop.next selection.terminal
  | .error e => (e = .disabled start.id ∧ start.enabled = false) ∨
      ∃ visited ∈ path, visited.enabled = true ∧ seed.Exhausted family visited e

end RuntimeSeed

theorem id_nodup {α : Type} {kind : IdKind} (id : α → Id kind) {xs : List α}
    (distinct : (xs.map fun x => (id x).value).Nodup) : (xs.map id).Nodup := by
  have values : xs.map (fun x => (id x).value) = (xs.map id).map Id.value := by simp
  rw [values] at distinct
  exact distinct.of_map _

section Stores
variable {seed : RuntimeSeed} (accepted : SeedAccepted seed)
include accepted

theorem nodeStore_lookup (nodeId : NodeId) :
    seed.nodeStore.nodes[nodeId]? = seed.nodes.find? fun node => node.id = nodeId := by
  have filled := Maps.fill_empty_lookup (fun node : ForwardNode => node.id) id seed.nodes nodeId
    (id_nodup _ accepted.distinctNodes)
  simpa [RuntimeSeed.nodeStore,NodeStore.fromNodes] using filled

theorem node_lookup_iff (nodeId : NodeId) (node : ForwardNode) :
    seed.nodeStore.nodes[nodeId]? = some node ↔ node ∈ seed.nodes ∧ node.id = nodeId := by
  rw [nodeStore_lookup accepted]
  exact Maps.find_key_iff (fun node : ForwardNode => node.id) seed.nodes nodeId node
    (id_nodup _ accepted.distinctNodes)

theorem isEligible_iff (nodeId : NodeId) (family : IpFamily) :
    seed.nodeStore.isEligible nodeId family = true ↔ seed.Serves family nodeId := by
  simp only [NodeStore.isEligible,Option.any_eq_true,Bool.and_eq_true,Bool.or_eq_true,beq_iff_eq,
    node_lookup_iff accepted,RuntimeSeed.Serves]
  constructor
  · rintro ⟨node,⟨member,same⟩,enabled,capable⟩
    refine ⟨node,member,same,enabled,fun ipv6 => ?_⟩
    rw [ipv6] at capable
    simpa using capable
  · rintro ⟨node,member,same,enabled,capable⟩
    refine ⟨node,⟨member,same⟩,enabled,?_⟩
    cases family
    · exact .inl rfl
    · exact .inr (capable rfl)

theorem enabledNodeId_iff (name : String) (nodeId : NodeId) :
    seed.nodeStore.enabledNodeId name = some nodeId ↔
      ∃ node ∈ seed.nodes, node.id.value = name ∧ node.enabled = true ∧ nodeId = node.id := by
  simp only [NodeStore.enabledNodeId,Option.bind_eq_some_iff,node_lookup_iff accepted]
  constructor
  · rintro ⟨node,⟨member,same⟩,answer⟩
    split at answer
    next enabled => exact ⟨node,member,congrArg Id.value same,enabled,(Option.some.inj answer).symm⟩
    next disabled => contradiction
  · rintro ⟨node,member,rfl,enabled,rfl⟩
    exact ⟨node,⟨member,rfl⟩,by simp [enabled]⟩

theorem groupStore_lookup {group : ForwardGroup} (member : group ∈ seed.groups) :
    seed.groupStore.groups[group.id]? = some group := by
  have distinct := id_nodup (fun group : ForwardGroup => group.id) accepted.distinctGroups
  have filled := Maps.fill_empty_lookup (fun group : ForwardGroup => group.id) id seed.groups group.id distinct
  rw [(Maps.find_key_iff _ seed.groups group.id group distinct).mpr ⟨member,rfl⟩] at filled
  exact filled

theorem groupStore_size : seed.groupStore.groups.size = seed.groups.length :=
  Maps.fill_empty_size (fun group : ForwardGroup => group.id) id seed.groups
    (id_nodup _ accepted.distinctGroups)

omit accepted in
theorem groupStore_members (groupId : GroupId) :
    seed.groupStore.members[groupId]? =
      if seed.groupMembers.any (fun member => member.groupId = groupId) then
        some ((seed.groupMembers.filter fun member => member.groupId = groupId).mergeSort
          GroupStore.memberBefore) else none := by
  have buckets := Maps.bucket_empty_lookup (fun member : GroupMember => member.groupId)
    seed.groupMembers groupId
  simp only [RuntimeSeed.groupStore,GroupStore.fromParts,Std.ExtTreeMap.getElem?_map,buckets]
  split <;> simp

theorem mem_hopCandidates_iff (family : IpFamily) (groupId : GroupId) (member : GroupMember) :
    member ∈ GroupStore.hopCandidates seed.nodeStore family
        ((seed.groupMembers.filter fun member => member.groupId = groupId).mergeSort GroupStore.memberBefore) ↔
      member ∈ seed.groupMembers ∧ member.groupId = groupId ∧ member.enabled = true ∧
        seed.Serves family member.nodeId := by
  simp [GroupStore.hopCandidates,List.mem_mergeSort,isEligible_iff accepted,and_assoc]

end Stores

section Hop
variable {seed : RuntimeSeed} (accepted : SeedAccepted seed) {σ : Type} (family : IpFamily)
  (selectNode : σ → GroupCandidateSet → Option NodeId × σ)
include accepted

theorem selectGroupHop_outcome {group : ForwardGroup} (member : group ∈ seed.groups) (state : σ) :
    match seed.groupStore.selectGroupHop seed.nodeStore family selectNode group.id state with
    | .ok (hop,_) => group.enabled = true ∧ seed.HopOf family group hop
    | .error e => (e = .disabled group.id ∧ group.enabled = false) ∨
        (group.enabled = true ∧ seed.Exhausted family group e) := by
  rw [GroupStore.selectGroupHop,groupStore_lookup accepted member]
  cases enabled : group.enabled with
  | false => simp [ensure,enabled,bind,Except.bind]
  | true =>
    rw [groupStore_members]
    by_cases present : seed.groupMembers.any (fun item => item.groupId = group.id)
    · have candidates := mem_hopCandidates_iff accepted family group.id
      simp only [ensure,enabled,if_true,if_pos present,bind,Except.bind]
      cases found : GroupStore.hopCandidates seed.nodeStore family
          ((seed.groupMembers.filter fun item => item.groupId = group.id).mergeSort
            GroupStore.memberBefore) with
      | nil =>
        refine .inr ⟨trivial,.inr rfl,?_⟩
        rintro ⟨nodeId,⟨item,inside,owner,same,active⟩,serves⟩
        have chosen := (candidates item).mpr ⟨inside,owner,active,same ▸ serves⟩
        simp [found] at chosen
      | cons first rest =>
        rw [found] at candidates
        have fits (item : GroupMember) (chosen : item ∈ first::rest) :
            seed.Candidate family group item.nodeId := by
          obtain ⟨inside,owner,active,serves⟩ := (candidates item).mp chosen
          exact ⟨⟨item,inside,owner,rfl,active⟩,serves⟩
        refine ⟨trivial,rfl,rfl,rfl,?_⟩
        generalize selectNode state _ = reply
        cases answer : reply.1.filter (fun node => (first::rest).any fun item => item.nodeId == node) with
        | none => simpa [answer] using fits first (by simp)
        | some node =>
          have listed := (Option.filter_eq_some_iff.mp answer).2
          obtain ⟨item,chosen,same⟩ := List.any_eq_true.mp listed
          have same : item.nodeId = node := by simpa using same
          simpa [answer,← same] using fits item chosen
    · simp only [ensure,enabled,if_true,if_neg present,bind,Except.bind]
      refine .inr ⟨trivial,.inl rfl,?_⟩
      rintro ⟨nodeId,⟨item,inside,owner,_⟩,_⟩
      exact present (List.any_eq_true.mpr ⟨item,inside,by simpa using owner⟩)

end Hop

section Next
variable {seed : RuntimeSeed} (accepted : SeedAccepted seed)
include accepted

theorem enabledNodeId_group {group : ForwardGroup} (member : group ∈ seed.groups) :
    seed.nodeStore.enabledNodeId group.id.value = none := by
  cases found : seed.nodeStore.enabledNodeId group.id.value with
  | none => rfl
  | some nodeId =>
    obtain ⟨node,inside,same,_⟩ := (enabledNodeId_iff accepted _ _).mp found
    exact False.elim (accepted.namesApart node inside group member same)

/-- Where a declared `next` leads on an accepted seed: out to the audit outlet, to
an enabled node, or to an enabled group that no node name hides. -/
theorem next_cases {group : ForwardGroup} (member : group ∈ seed.groups) (parsed : group.next.Parsed) :
    (group.next = .directAuditOutlet ∧ nextGroup seed.nodes seed.groups group = none) ∨
    (∃ node ∈ seed.nodes, node.enabled = true ∧ group.next = .named node.id.value ∧
      nextGroup seed.nodes seed.groups group = none) ∨
    ∃ after ∈ seed.groups, after.enabled = true ∧ group.next = .named after.id.value ∧
      nextGroup seed.nodes seed.groups group = some after := by
  by_cases direct : group.next.label = NextRef.directLabel
  · exact .inl ⟨parsed.eq_direct direct,if_pos direct⟩
  · have named := parsed.eq_named direct
    obtain same | ⟨node,inside,same,enabled⟩ | ⟨after,inside,same,enabled⟩ :=
      accepted.nextResolved group member
    · exact False.elim (direct same)
    · have known : seed.nodes.any (fun other => other.id.value = group.next.label) = true :=
        List.any_eq_true.mpr ⟨node,inside,by simpa using same⟩
      refine .inr (.inl ⟨node,inside,enabled,by rw [same,← named],?_⟩)
      rw [nextGroup,if_neg direct,if_pos known]
    · have outside : ¬ seed.nodes.any (fun other => other.id.value = group.next.label) = true := by
        intro known
        obtain ⟨node,present,clash⟩ := List.any_eq_true.mp known
        have clash : node.id.value = group.next.label := by simpa using clash
        exact accepted.namesApart node present after inside (clash.trans same.symm)
      refine .inr (.inr ⟨after,inside,enabled,by rw [same,← named],?_⟩)
      rw [nextGroup,if_neg direct,if_neg outside,← same]
      exact canonical_of_mem accepted.distinctGroups inside

theorem chain_enabled (parsed : seed.NextParsed) {start : ForwardGroup} {path : List ForwardGroup}
    (walk : seed.Chain start path) (member : start ∈ seed.groups) :
    ∀ visited ∈ path, visited ∈ seed.groups ∧ (visited = start ∨ visited.enabled = true) := by
  induction walk with
  | last stop => simpa using member
  | @step group after rest edge tail ih =>
    obtain ⟨_,stop⟩ | ⟨_,_,_,_,stop⟩ | ⟨other,inside,enabled,_,found⟩ :=
      next_cases accepted member (parsed group member)
    · simp [stop] at edge
    · simp [stop] at edge
    · cases Option.some.inj (found.symm.trans edge)
      intro visited present
      obtain rfl | later := List.mem_cons.mp present
      · exact ⟨member,.inl rfl⟩
      · obtain ⟨declared,rfl | active⟩ := ih inside visited later
        · exact ⟨declared,.inr enabled⟩
        · exact ⟨declared,.inr active⟩

end Next

section Graph
variable {σ : Type} (family : IpFamily) (selectNode : σ → GroupCandidateSet → Option NodeId × σ)

theorem selectGroupHop_declared {store : GroupStore} {nodes : NodeStore} {current : GroupId} {state : σ}
    {reply : SelectionTraceHop × σ}
    (chosen : store.selectGroupHop nodes family selectNode current state = .ok reply) :
    current ∈ store.groups := by
  cases found : store.groups[current]? with
  | none => simp [GroupStore.selectGroupHop,found,throw,throwThe,MonadExceptOf.throw] at chosen
  | some group => exact Std.ExtTreeMap.mem_iff_isSome_getElem?.mpr (by rw [found]; rfl)

theorem selectGroupHop_eligible {store : GroupStore} {nodes : NodeStore} {current : GroupId} {state : σ}
    {hop : SelectionTraceHop} {after : σ}
    (chosen : store.selectGroupHop nodes family selectNode current state = .ok (hop,after)) :
    nodes.isEligible hop.nodeId family = true := by
  unfold GroupStore.selectGroupHop at chosen
  split at chosen
  next group found =>
    obtain ⟨_,rest⟩ := (then_ok_iff _ _ _).mp chosen
    split at rest
    next members listed =>
      split at rest
      · contradiction
      next first others candidates =>
        have eligible (member : GroupMember) (inside : member ∈ first::others) :
            nodes.isEligible member.nodeId family = true := by
          rw [← candidates] at inside
          have kept := (List.mem_filter.mp inside).2
          rw [Bool.and_eq_true] at kept
          exact kept.2
        cases rest
        cases answer : (selectNode state _).1.filter fun node =>
            (first::others).any fun member => member.nodeId == node with
        | none => simpa [answer] using eligible first (by simp)
        | some node =>
          obtain ⟨member,inside,same⟩ := List.any_eq_true.mp (Option.filter_eq_some_iff.mp answer).2
          have same : member.nodeId = node := by simpa using same
          simpa [answer,← same] using eligible member inside
    next => contradiction
  next => contradiction

theorem graphLoop_fresh {store : GroupStore} {nodes : NodeStore} (fuel : Nat) {seen : List GroupId}
    (trace : List SelectionTraceHop) {current : GroupId} {state : σ} (fresh : current ∉ seen)
    {hop : SelectionTraceHop} {after : σ}
    (chosen : store.selectGroupHop nodes family selectNode current state = .ok (hop,after)) :
    store.graphLoop nodes family selectNode (fuel+1) seen trace current state =
      match hop.next with
      | .directAuditOutlet =>
        .ok (GroupStore.finish .directAuditOutlet ((trace ++ [hop]).headD hop) (trace ++ [hop]).tail)
      | .named name => match nodes.enabledNodeId name with
        | some nodeId =>
          .ok (GroupStore.finish (.node nodeId) ((trace ++ [hop]).headD hop) (trace ++ [hop]).tail)
        | none =>
          store.graphLoop nodes family selectNode fuel (current::seen) (trace ++ [hop]) ⟨name⟩ after := by
  rw [GroupStore.graphLoop,ensure_of _ _ fresh,ok_bind,chosen,ok_bind]
  rfl

theorem graphLoop_failed {store : GroupStore} {nodes : NodeStore} (fuel : Nat) {seen : List GroupId}
    (trace : List SelectionTraceHop) {current : GroupId} {state : σ} (fresh : current ∉ seen)
    {e : GroupSelectError}
    (failed : store.selectGroupHop nodes family selectNode current state = .error e) :
    store.graphLoop nodes family selectNode (fuel+1) seen trace current state = .error e := by
  rw [GroupStore.graphLoop,ensure_of _ _ fresh,ok_bind,failed,error_bind]

/-- The round bound stands for the unbounded `loop`: more rounds change nothing. -/
theorem graphLoop_fuel (store : GroupStore) (nodes : NodeStore) (fuel : Nat) (seen : List GroupId)
    (trace : List SelectionTraceHop) (current : GroupId) (state : σ) (distinct : seen.Nodup)
    (inside : seen ⊆ store.groups.keys) (enough : store.groups.size < fuel + seen.length) :
    store.graphLoop nodes family selectNode (fuel+1) seen trace current state =
      store.graphLoop nodes family selectNode fuel seen trace current state := by
  induction fuel generalizing seen trace current state with
  | zero =>
    have bound := (List.subperm_of_subset distinct inside).length_le
    rw [Std.ExtTreeMap.length_keys] at bound
    omega
  | succ fuel ih =>
    by_cases fresh : current ∈ seen
    · simp [GroupStore.graphLoop,ensure,fresh,bind,Except.bind]
    · cases chosen : store.selectGroupHop nodes family selectNode current state with
      | error e =>
        rw [graphLoop_failed _ _ _ trace fresh chosen,graphLoop_failed _ _ _ trace fresh chosen]
      | ok reply =>
        have member : current ∈ store.groups.keys :=
          Std.ExtTreeMap.mem_keys.mpr (selectGroupHop_declared family selectNode chosen)
        have rest (name : String) := ih (current::seen) (trace ++ [reply.1]) ⟨name⟩ reply.2
          (List.nodup_cons.mpr ⟨fresh,distinct⟩) (List.cons_subset.mpr ⟨member,inside⟩)
          (by simp only [List.length_cons]; omega)
        rw [graphLoop_fresh _ _ _ trace fresh chosen,graphLoop_fresh _ _ _ trace fresh chosen]
        simp only [rest]

theorem finish_trace (terminal : SelectionTerminal) (trace : List SelectionTraceHop) (hop : SelectionTraceHop) :
    (GroupStore.finish terminal ((trace ++ [hop]).headD hop) (trace ++ [hop]).tail).trace = trace ++ [hop] := by
  cases trace <;> rfl

theorem graphLoop_eligible {store : GroupStore} {nodes : NodeStore} (fuel : Nat) (seen : List GroupId)
    (trace : List SelectionTraceHop) (current : GroupId) (state : σ) {selection : GroupSelection}
    (sofar : ∀ hop ∈ trace, nodes.isEligible hop.nodeId family = true)
    (ok : store.graphLoop nodes family selectNode fuel seen trace current state = .ok selection) :
    ∀ hop ∈ selection.trace, nodes.isEligible hop.nodeId family = true := by
  induction fuel generalizing seen trace current state with
  | zero => simp [GroupStore.graphLoop] at ok
  | succ fuel ih =>
    by_cases fresh : current ∈ seen
    · rw [GroupStore.graphLoop,ensure_of_not _ _ (not_not.mpr fresh),error_bind] at ok
      contradiction
    · cases chosen : store.selectGroupHop nodes family selectNode current state with
      | error e =>
        rw [graphLoop_failed family selectNode fuel trace fresh chosen] at ok
        contradiction
      | ok reply =>
        obtain ⟨hop,after⟩ := reply
        have longer : ∀ visited ∈ trace ++ [hop], nodes.isEligible visited.nodeId family = true := by
          intro visited present
          obtain earlier | last := List.mem_append.mp present
          · exact sofar visited earlier
          · cases List.mem_singleton.mp last
            exact selectGroupHop_eligible family selectNode chosen
        rw [graphLoop_fresh family selectNode fuel trace fresh chosen] at ok
        split at ok
        · cases ok
          rw [finish_trace]
          exact longer
        · split at ok
          · cases ok
            rw [finish_trace]
            exact longer
          · exact ih _ _ _ _ longer ok

variable {seed : RuntimeSeed} (accepted : SeedAccepted seed) (parsed : seed.NextParsed)
include accepted parsed

omit parsed in
theorem graphLoop_hop {group : ForwardGroup} (member : group ∈ seed.groups) (fuel : Nat) {seen : List GroupId}
    (trace : List SelectionTraceHop) (state : σ) (fresh : group.id ∉ seen) :
    (∃ e, seed.groupStore.graphLoop seed.nodeStore family selectNode (fuel+1) seen trace group.id state =
        .error e ∧ ((e = .disabled group.id ∧ group.enabled = false) ∨
          (group.enabled = true ∧ seed.Exhausted family group e))) ∨
    ∃ hop after, seed.groupStore.selectGroupHop seed.nodeStore family selectNode group.id state =
        .ok (hop,after) ∧ group.enabled = true ∧ seed.HopOf family group hop := by
  have hopCase := selectGroupHop_outcome accepted family selectNode member state
  cases chosen : seed.groupStore.selectGroupHop seed.nodeStore family selectNode group.id state with
  | error e =>
    rw [chosen] at hopCase
    exact .inl ⟨e,graphLoop_failed family selectNode fuel trace fresh chosen,hopCase⟩
  | ok reply =>
    rw [chosen] at hopCase
    exact .inr ⟨reply.1,reply.2,rfl,hopCase⟩

-- The invariant of the walk: the groups still ahead are exactly the rest of the
-- declared chain, and none of them has been seen.
theorem graphLoop_outcome {group : ForwardGroup} {path : List ForwardGroup} (walk : seed.Chain group path)
    (member : group ∈ seed.groups) (fuel : Nat) (seen : List GroupId) (trace : List SelectionTraceHop)
    (state : σ) (ahead : ∀ visited ∈ path, visited.id ∉ seen) (enough : path.length ≤ fuel) :
    match seed.groupStore.graphLoop seed.nodeStore family selectNode fuel seen trace group.id state with
    | .ok selection => (∀ visited ∈ path, visited.enabled = true) ∧
        ∃ hops, selection.trace = trace ++ hops ∧ List.Forall₂ (seed.HopOf family) path hops ∧
          ∃ last, hops.getLast? = some last ∧ seed.TerminalOf last.next selection.terminal
    | .error e => ∃ visited ∈ path, (e = .disabled visited.id ∧ visited.enabled = false) ∨
        (visited.enabled = true ∧ seed.Exhausted family visited e) := by
  induction walk generalizing fuel seen trace state with
  | @last group stop =>
    obtain ⟨fuel,rfl⟩ : ∃ k, fuel = k+1 := ⟨fuel-1,by simp only [List.length_singleton] at enough; omega⟩
    have fresh := ahead group (by simp)
    obtain ⟨e,failed,reason⟩ | ⟨hop,after,chosen,enabled,fits⟩ :=
      graphLoop_hop family selectNode accepted member fuel trace state fresh
    · rw [failed]
      exact ⟨group,by simp,reason⟩
    · have hops : List.Forall₂ (seed.HopOf family) [group] [hop] := .cons fits .nil
      rw [graphLoop_fresh family selectNode fuel trace fresh chosen,fits.next]
      obtain ⟨direct,_⟩ | ⟨node,inside,active,named,_⟩ | ⟨_,_,_,_,found⟩ :=
        next_cases accepted member (parsed group member)
      · have terminal : seed.TerminalOf hop.next .directAuditOutlet := by
          rw [fits.next,direct]
          rfl
        rw [direct]
        exact ⟨by simpa using enabled,[hop],finish_trace _ trace hop,hops,hop,rfl,terminal⟩
      · have answer : seed.nodeStore.enabledNodeId node.id.value = some node.id :=
          (enabledNodeId_iff accepted _ _).mpr ⟨node,inside,rfl,active,rfl⟩
        have terminal : seed.TerminalOf hop.next (.node node.id) := by
          rw [fits.next,named]
          exact ⟨node,inside,rfl,active,rfl⟩
        simp only [named,answer]
        exact ⟨by simpa using enabled,[hop],finish_trace _ trace hop,hops,hop,rfl,terminal⟩
      · simp [stop] at found
  | @step group after rest edge tail ih =>
    obtain ⟨fuel,rfl⟩ : ∃ k, fuel = k+1 := ⟨fuel-1,by simp only [List.length_cons] at enough; omega⟩
    have fresh := ahead group (by simp)
    obtain ⟨e,failed,reason⟩ | ⟨hop,next,chosen,enabled,fits⟩ :=
      graphLoop_hop family selectNode accepted member fuel trace state fresh
    · rw [failed]
      exact ⟨group,by simp,reason⟩
    · rw [graphLoop_fresh family selectNode fuel trace fresh chosen,fits.next]
      obtain ⟨_,stop⟩ | ⟨_,_,_,_,stop⟩ | ⟨other,inside,_,named,found⟩ :=
        next_cases accepted member (parsed group member)
      · simp [stop] at edge
      · simp [stop] at edge
      · cases Option.some.inj (found.symm.trans edge)
        have unseen : ∀ visited ∈ rest, visited.id ∉ group.id::seen := by
          intro visited present
          have again := (List.nodup_cons.mp (Path.step edge tail).nodup).1
          have declared := (chain_enabled accepted parsed tail inside visited present).1
          rw [List.mem_cons,not_or]
          refine ⟨?_,ahead visited (List.mem_cons_of_mem _ present)⟩
          intro same
          have equal := List.inj_on_of_nodup_map accepted.distinctGroups declared member
            (congrArg Id.value same)
          exact again (equal ▸ present)
        have later := ih inside fuel (group.id::seen) (trace ++ [hop]) next unseen
          (by simp only [List.length_cons] at enough; omega)
        simp only [named,enabledNodeId_group accepted inside]
        cases result : seed.groupStore.graphLoop seed.nodeStore family selectNode fuel (group.id::seen)
            (trace ++ [hop]) after.id next with
        | error e =>
          simp only [result] at later
          obtain ⟨visited,present,reason⟩ := later
          exact ⟨visited,List.mem_cons_of_mem _ present,reason⟩
        | ok selection =>
          simp only [result] at later
          obtain ⟨active,hops,traced,each,last,final,terminal⟩ := later
          have nonempty : hops ≠ [] := by
            intro empty
            simp [empty] at final
          refine ⟨List.forall_mem_cons.mpr ⟨enabled,active⟩,hop::hops,?_,.cons fits each,last,?_,terminal⟩
          · rw [traced,List.append_assoc,List.singleton_append]
          · rw [List.getLast?_cons_of_ne_nil nonempty,final]

omit accepted parsed in
theorem hops_groupIds {path : List ForwardGroup} {hops : List SelectionTraceHop}
    (each : List.Forall₂ (seed.HopOf family) path hops) : hops.map (·.groupId) = path.map (·.id) := by
  induction each with
  | nil => rfl
  | cons fits _ ih => rw [List.map_cons,List.map_cons,fits.groupId,ih]

omit accepted parsed in
theorem hops_serve {path : List ForwardGroup} {hops : List SelectionTraceHop}
    (each : List.Forall₂ (seed.HopOf family) path hops) : ∀ hop ∈ hops, seed.Serves family hop.nodeId := by
  induction each with
  | nil => simp
  | cons fits _ ih => exact List.forall_mem_cons.mpr ⟨fits.candidate.2,ih⟩

omit accepted parsed in
theorem hops_candidates {path : List ForwardGroup} {hops : List SelectionTraceHop}
    (each : List.Forall₂ (seed.HopOf family) path hops) :
    ∀ visited ∈ path, ∃ nodeId, seed.Candidate family visited nodeId := by
  induction each with
  | nil => simp
  | cons fits _ ih => exact List.forall_mem_cons.mpr ⟨⟨_,fits.candidate⟩,ih⟩

theorem selectGraphWith_outcome {start : ForwardGroup} {path : List ForwardGroup}
    (walk : seed.Chain start path) (member : start ∈ seed.groups) (state : σ) :
    seed.Follows family start path
      (seed.groupStore.selectGraphWith seed.nodeStore family selectNode start.id state) := by
  have canonical := canonical_of_mem accepted.distinctGroups member
  have enough : path.length ≤ seed.groupStore.groups.size + 1 := by
    have bound := path_length_le walk canonical
    rw [groupStore_size accepted]
    omega
  have outcome := graphLoop_outcome family selectNode accepted parsed walk member _ [] [] state
    (by simp) enough
  rw [GroupStore.selectGraphWith]
  cases result : seed.groupStore.graphLoop seed.nodeStore family selectNode
      (seed.groupStore.groups.size + 1) [] [] start.id state with
  | error e =>
    rw [result] at outcome
    obtain ⟨visited,present,⟨reason,disabled⟩ | ⟨enabled,exhausted⟩⟩ := outcome
    · obtain ⟨_,rfl | active⟩ := chain_enabled accepted parsed walk member visited present
      · exact .inl ⟨reason,disabled⟩
      · simp [active] at disabled
    · exact .inr ⟨visited,present,enabled,exhausted⟩
  | ok selection =>
    rw [result] at outcome
    obtain ⟨enabled,hops,traced,each,last,final,terminal⟩ := outcome
    rw [List.nil_append] at traced
    have distinct : (path.map (·.id)).Nodup := by
      apply List.Nodup.map_on _ walk.nodup
      intro first left second right same
      have inside := fun visited present =>
        (chain_enabled accepted parsed walk member visited present).1
      exact List.inj_on_of_nodup_map accepted.distinctGroups (inside first left) (inside second right)
        (congrArg Id.value same)
    have groups := hops_groupIds family each
    refine ⟨enabled,traced ▸ each,?_,last,?_,terminal⟩
    · rw [traced,groups]
      exact distinct
    · rw [traced]
      exact final

end Graph

/-- The selector walks the declared chain and nothing else. On an accepted seed
it can only fail in a disabled start group or in a group without a candidate. -/
theorem selectGraphWith_follows_chain (seed : RuntimeSeed) (ok : validateSeed seed = .ok ())
    (parsed : seed.NextParsed) (start : ForwardGroup) (member : start ∈ seed.groups) {σ : Type}
    (family : IpFamily) (selectNode : σ → GroupCandidateSet → Option NodeId × σ) (state : σ) :
    ∃ path, seed.Chain start path ∧ path.Nodup ∧
      (∀ visited ∈ path, visited ∈ seed.groups ∧ (visited = start ∨ visited.enabled = true)) ∧
      seed.Follows family start path
        (seed.groupStore.selectGraphWith seed.nodeStore family selectNode start.id state) := by
  have accepted := (validateSeed_ok_iff seed).mp ok
  obtain ⟨path,walk⟩ := accepted.acyclic start member
  exact ⟨path,walk,walk.nodup,chain_enabled accepted parsed walk member,
    selectGraphWith_outcome family selectNode accepted parsed walk member state⟩

def relayGroup : ForwardGroup := {ForwardGroup.defaultGroup with next := .parse "relay"}

def relaySeed : RuntimeSeed :=
  {RuntimeSeed.singleNode "entry" with
    ipv6Enabled := true
    nodes := [.new defaultNodeId "entry" true,(ForwardNode.new "relay" "relay" true).withCapabilities false]
    groups := [relayGroup]}

theorem selectGraphWith_relay :
    validateSeed relaySeed = .ok () ∧ relaySeed.NextParsed ∧
      ∃ path, relaySeed.Chain relayGroup path ∧ path.Nodup ∧
        (∀ visited ∈ path, visited ∈ relaySeed.groups ∧ (visited = relayGroup ∨ visited.enabled = true)) ∧
        relaySeed.Follows .ipv4 relayGroup path
          (relaySeed.groupStore.selectGraphWith relaySeed.nodeStore .ipv4
            (fun (_ : Unit) _ => (none,())) relayGroup.id ()) :=
  ⟨by decide,by decide,selectGraphWith_follows_chain relaySeed (by decide) (by decide) relayGroup (by decide)
    .ipv4 (fun (_ : Unit) _ => (none,())) ()⟩

end Dynet.Runtime