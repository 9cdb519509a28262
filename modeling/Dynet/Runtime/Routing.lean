import Dynet.Lib.Related
import Dynet.Runtime.SelectionGraph

/-! The published routing table and the selection it answers. The node chooser of
the active rollout is an argument: every result here holds for every chooser. -/
namespace Dynet.Runtime
open Dynet.Lib Dynet.Lib.Checks Dynet.Lib.Walk Validation

structure SelectionError where
  message : String
  code : String
  matchedRuleId : Option RuleId
  deriving DecidableEq, Repr

namespace SelectionError

def new (message : String) : SelectionError := ⟨message,"selection-error",none⟩

def ipv6Disabled : SelectionError :=
  ⟨"IPv6 target rejected because dynet IPv6 participation is disabled","ipv6-disabled",none⟩

def ipv6Denied (ruleId : Option RuleId) : SelectionError :=
  let rule := (ruleId.map (·.value)).getD "<default>"
  ⟨s!"IPv6 target rejected by forwarding rule {rule}","ipv6-policy-deny",ruleId⟩

end SelectionError

structure ObservedDnsMap where
  inner : Std.ExtTreeMap String (List IpAddr)

namespace ObservedDnsMap

def empty : ObservedDnsMap := ⟨∅⟩

def record (map : ObservedDnsMap) (domain : String) (answers : List IpAddr) : ObservedDnsMap :=
  if answers = [] then map else ⟨map.inner.insert (asciiLowercase domain) answers⟩

-- The first domain in key order, not the latest observation.
def domainForIp (map : ObservedDnsMap) (address : IpAddr) : Option String :=
  (map.inner.toList.find? fun entry => entry.2.contains address).map (·.1)

end ObservedDnsMap

structure RuntimeRouting where
  generation : Nat
  ipv6Enabled : Bool
  nodes : NodeStore
  groups : GroupStore
  routes : RouteRuleStore
  dnsUpstreams : DnsUpstreamStore
  dnsPolicy : DnsRacePolicy

namespace RuntimeRouting

def fromSeed (generation : Nat) (seed : RuntimeSeed) : RuntimeRouting where
  generation
  ipv6Enabled := seed.ipv6Enabled
  nodes := seed.nodeStore
  groups := seed.groupStore
  routes := .fromRules seed.routeRules
  dnsUpstreams := .fromUpstreams seed.dnsUpstreams
  dnsPolicy := seed.dnsPolicy

def startGroup (routing : RuntimeRouting) (target : TargetContext) : Option GroupId :=
  (routing.routes.matchGroup target).groupId <|> routing.groups.defaultGroup

def ipv6PolicySource (routing : RuntimeRouting) (target : TargetContext) :
    Except SelectionError (Option Ipv6PolicySource) :=
  match target.family with
  | .ipv4 => .ok none
  | .ipv6 =>
    let routeMatch := routing.routes.matchGroup target
    if routing.ipv6Enabled then match routeMatch.ipv6 with
      | .deny => .error (.ipv6Denied routeMatch.ruleId)
      | .allow => .ok (some .rule)
      | .inherit => .ok (some .global)
    else .error .ipv6Disabled

end RuntimeRouting

structure RuntimeReconfigure where
  previousGeneration : Nat
  routing : RuntimeRouting

structure RuntimeState where
  routing : RuntimeRouting
  dnsMap : ObservedDnsMap
  nextDecisionId : Nat

namespace RuntimeState

def fromSeed (seed : RuntimeSeed) : RuntimeState := ⟨.fromSeed 1 seed,.empty,0⟩

def generation (state : RuntimeState) : Nat := state.routing.generation

def prepareReconfigure (state : RuntimeState) (seed : RuntimeSeed) : RuntimeReconfigure :=
  ⟨state.generation,.fromSeed (state.generation + 1) seed⟩

def commitReconfigure (state : RuntimeState) (prepared : RuntimeReconfigure) :
    Except String (Nat × RuntimeState) := do
  ensure (state.generation = prepared.previousGeneration)
    s!"runtime generation changed from {prepared.previousGeneration} to {state.generation} while reload was prepared"
  return (prepared.routing.generation,{state with routing := prepared.routing})

theorem commitReconfigure_ok_iff (state : RuntimeState) (prepared : RuntimeReconfigure) (generation : Nat)
    (after : RuntimeState) :
    state.commitReconfigure prepared = .ok (generation,after) ↔
      state.generation = prepared.previousGeneration ∧ generation = prepared.routing.generation ∧
        after = {state with routing := prepared.routing} := by
  simp only [commitReconfigure,then_ok_iff,ensure_ok_iff,pure,Except.pure,Except.ok.injEq,Prod.mk.injEq]
  constructor
  · intro ⟨unmoved,next,moved⟩
    exact ⟨unmoved,next.symm,moved.symm⟩
  · intro ⟨unmoved,next,moved⟩
    exact ⟨unmoved,next.symm,moved.symm⟩

def decisionFor (routing : RuntimeRouting) (context : SelectionContext) (decisionId : Nat) (groupId : GroupId)
    (source : Option Ipv6PolicySource) (selection : GroupSelection) (first : SelectionTraceHop) :
    SelectionDecision where
  decisionId
  configGeneration := routing.generation
  groupId
  matchedRuleId := (routing.routes.matchGroup context.target).ruleId
  nodeId := first.nodeId
  next := first.next
  trace := selection.trace
  terminal := selection.terminal
  reason := .singleNode
  scheduler := selection.scheduler
  candidateCount := selection.candidateCount
  ipFamily := context.target.family
  ipv6PolicySource := source

section Select
variable (choose : SelectionContext → GroupCandidateSet → Option NodeId)

def selectGraph (routing : RuntimeRouting) (context : SelectionContext) (groupId : GroupId) :
    Except GroupSelectError GroupSelection :=
  routing.groups.selectGraphWith routing.nodes context.target.family
    (fun (_ : Unit) set => (choose context set,())) groupId ()

def select (state : RuntimeState) (context : SelectionContext) :
    Except SelectionError (SelectionDecision × RuntimeState) := do
  let routing := state.routing
  let source ← routing.ipv6PolicySource context.target
  let groupId ← need (routing.startGroup context.target) (.new "no default forwarding group is available")
  let selection ← (selectGraph choose routing context groupId).mapError fun e => .new e.message
  let first ← need selection.trace.head? (.new "selection graph has at least one hop")
  return (decisionFor routing context (state.nextDecisionId + 1) groupId source selection first,
    {state with nextDecisionId := state.nextDecisionId + 1})

theorem select_ok_iff (state : RuntimeState) (context : SelectionContext) (decision : SelectionDecision)
    (after : RuntimeState) :
    select choose state context = .ok (decision,after) ↔
      ∃ source groupId selection first, state.routing.ipv6PolicySource context.target = .ok source ∧
        state.routing.startGroup context.target = some groupId ∧
        selectGraph choose state.routing context groupId = .ok selection ∧
        selection.trace.head? = some first ∧
        decision = decisionFor state.routing context (state.nextDecisionId + 1) groupId source selection first ∧
        after = {state with nextDecisionId := state.nextDecisionId + 1} := by
  simp only [select,bind_ok_iff,need_ok_iff,mapError_ok_iff,pure,Except.pure,Except.ok.injEq,Prod.mk.injEq]
  constructor
  · rintro ⟨source,policy,groupId,start,selection,walk,first,head,decided,moved⟩
    exact ⟨source,groupId,selection,first,policy,start,walk,head,decided.symm,moved.symm⟩
  · rintro ⟨source,groupId,selection,first,policy,start,walk,head,decided,moved⟩
    exact ⟨source,policy,groupId,start,selection,walk,first,head,decided.symm,moved.symm⟩

end Select
end RuntimeState

section Capability
variable {seed : RuntimeSeed} (accepted : SeedAccepted seed) (generation : Nat)
include accepted

theorem defaultGroup_declared : seed.groupStore.defaultGroup = some seed.defaultGroupId := by
  obtain ⟨group,member,same,enabled⟩ := accepted.defaultGroup
  have found := groupStore_lookup accepted member
  rw [same] at found
  have active : seed.groupStore.groups[seed.defaultGroupId]?.any (·.enabled) = true := by
    rw [found]
    exact enabled
  exact if_pos active

theorem startGroup_declared (target : TargetContext) :
    ∃ start ∈ seed.groups, (RuntimeRouting.fromSeed generation seed).startGroup target = some start.id := by
  unfold RuntimeRouting.startGroup RouteRuleStore.matchGroup
  split
  next rule found =>
    have member : rule ∈ seed.routeRules := by
      have sorted := List.mem_of_find?_eq_some found
      exact List.mem_mergeSort.mp sorted
    obtain ⟨group,inside,same⟩ := accepted.ruleGroups rule member
    exact ⟨group,inside,by rw [same]; rfl⟩
  next missing =>
    obtain ⟨group,inside,same,_⟩ := accepted.defaultGroup
    exact ⟨group,inside,by rw [same]; exact defaultGroup_declared accepted⟩

variable (parsed : seed.NextParsed) (choose : SelectionContext → GroupCandidateSet → Option NodeId)
  (context : SelectionContext)
include parsed

theorem selectGraph_follows {start : ForwardGroup} (member : start ∈ seed.groups) {path : List ForwardGroup}
    (walk : seed.Chain start path) :
    seed.Follows context.target.family start path
      (RuntimeState.selectGraph choose (.fromSeed generation seed) context start.id) :=
  selectGraphWith_outcome context.target.family (fun (_ : Unit) set => (choose context set,()))
    accepted parsed walk member ()

theorem selectGraph_ok {start : ForwardGroup} (member : start ∈ seed.groups) {path : List ForwardGroup}
    (walk : seed.Chain start path) {selection : GroupSelection}
    (ok : RuntimeState.selectGraph choose (.fromSeed generation seed) context start.id = .ok selection) :
    start.enabled = true ∧ (∀ visited ∈ path, ∃ nodeId, seed.Candidate context.target.family visited nodeId) ∧
      (∀ hop ∈ selection.trace, seed.Serves context.target.family hop.nodeId) ∧
      (∃ first, selection.trace.head? = some first) ∧
      ∃ last, path.getLast? = some last ∧ seed.TerminalOf last.next selection.terminal := by
  have outcome := selectGraph_follows accepted generation parsed choose context member walk
  rw [ok] at outcome
  obtain ⟨enabled,each,_,hop,final,terminal⟩ := outcome
  have start := enabled start walk.head_mem
  obtain ⟨last,ends⟩ : ∃ last, path.getLast? = some last :=
    ⟨_,List.getLast?_eq_some_getLast walk.ne_nil⟩
  obtain ⟨other,same,fits⟩ := Related.forall₂_getLast each ends
  rw [final] at same
  cases same
  rw [fits.next] at terminal
  have nonempty : selection.trace ≠ [] := by
    intro empty
    rw [empty] at final
    simp at final
  exact ⟨start,hops_candidates _ each,hops_serve _ each,⟨_,List.head?_eq_some_head nonempty⟩,last,ends,terminal⟩

theorem selectGraph_ok_of {start : ForwardGroup} (member : start ∈ seed.groups) {path : List ForwardGroup}
    (walk : seed.Chain start path) (enabled : start.enabled = true)
    (served : ∀ visited ∈ path, ∃ nodeId, seed.Candidate context.target.family visited nodeId) :
    ∃ selection, RuntimeState.selectGraph choose (.fromSeed generation seed) context start.id = .ok selection := by
  have outcome := selectGraph_follows accepted generation parsed choose context member walk
  cases result : RuntimeState.selectGraph choose (.fromSeed generation seed) context start.id with
  | ok selection => exact ⟨selection,rfl⟩
  | error e =>
    rw [result] at outcome
    obtain ⟨_,disabled⟩ | ⟨visited,present,_,_,none⟩ := outcome
    · simp [enabled] at disabled
    · exact False.elim (none (served visited present))

omit accepted parsed in
theorem terminal_serves_iff {next : NextRef} {terminal : SelectionTerminal}
    (reached : seed.TerminalOf next terminal) (family : IpFamily) :
    (∀ nodeId, terminal = .node nodeId → seed.Serves family nodeId) ↔ seed.ExitServes family next := by
  cases next with
  | directAuditOutlet =>
    have direct : terminal = .directAuditOutlet := reached
    simp [direct,RuntimeSeed.ExitServes]
  | named name =>
    obtain ⟨node,_,same,_,direct⟩ := reached
    simp [direct,RuntimeSeed.ExitServes,← same]

end Capability

section Policy
variable (routing : RuntimeRouting) {target : TargetContext} (ipv6 : target.family = .ipv6)
include ipv6

theorem ipv6PolicySource_ok_iff :
    (∃ source, routing.ipv6PolicySource target = .ok source) ↔
      routing.ipv6Enabled = true ∧ (routing.routes.matchGroup target).ipv6 ≠ .deny := by
  unfold RuntimeRouting.ipv6PolicySource
  rw [ipv6]
  cases routing.ipv6Enabled <;> cases policy : (routing.routes.matchGroup target).ipv6 <;> simp [policy]

end Policy

-- The seeds and start groups on which no IPv6 selection can end in a node that
-- does not carry IPv6: the selection fails, or the chain ends well.
def RuntimeSeed.Ipv6Covered (seed : RuntimeSeed) (policy : Ipv6RulePolicy) (start : ForwardGroup) : Prop :=
  seed.ipv6Enabled = false ∨ policy = .deny ∨ start.enabled = false ∨
    ∃ path, seed.Chain start path ∧
      ((∃ visited ∈ path, ¬ ∃ nodeId, seed.Candidate .ipv6 visited nodeId) ∨
        ∃ last, path.getLast? = some last ∧ seed.ExitServes .ipv6 last.next)

/-- An IPv6 selection never leaves through a node without IPv6 exactly when the
terminal of the start group's chain carries IPv6 or the selection cannot succeed. -/
theorem select_ipv6_path_serves_iff (seed : RuntimeSeed) (ok : validateSeed seed = .ok ())
    (parsed : seed.NextParsed) (generation nextDecisionId : Nat) (dnsMap : ObservedDnsMap)
    (choose : SelectionContext → GroupCandidateSet → Option NodeId) (context : SelectionContext)
    (ipv6 : context.target.family = .ipv6) :
    ∃ start ∈ seed.groups,
      (RuntimeRouting.fromSeed generation seed).startGroup context.target = some start.id ∧
      ((∀ decision after,
          RuntimeState.select choose ⟨.fromSeed generation seed,dnsMap,nextDecisionId⟩ context =
            .ok (decision,after) → seed.PathServes .ipv6 decision.trace decision.terminal) ↔
        seed.Ipv6Covered ((RuntimeRouting.fromSeed generation seed).routes.matchGroup context.target).ipv6
          start) := by
  have accepted := (validateSeed_ok_iff seed).mp ok
  obtain ⟨start,member,routed⟩ := startGroup_declared accepted generation context.target
  obtain ⟨path,walk⟩ := accepted.acyclic start member
  refine ⟨start,member,routed,?_,?_⟩
  · intro served
    by_cases enabled : seed.ipv6Enabled = true
    · by_cases denied : ((RuntimeRouting.fromSeed generation seed).routes.matchGroup context.target).ipv6 = .deny
      · exact .inr (.inl denied)
      · by_cases active : start.enabled = true
        · refine .inr (.inr (.inr ⟨path,walk,?_⟩))
          by_cases everywhere : ∀ visited ∈ path, ∃ nodeId, seed.Candidate .ipv6 visited nodeId
          · obtain ⟨source,policy⟩ := (ipv6PolicySource_ok_iff (.fromSeed generation seed) ipv6).mpr
              ⟨enabled,denied⟩
            obtain ⟨selection,found⟩ := selectGraph_ok_of accepted generation parsed choose context member
              walk active (by rw [ipv6]; exact everywhere)
            obtain ⟨_,_,_,⟨first,head⟩,last,ends,terminal⟩ := selectGraph_ok accepted generation parsed
              choose context member walk found
            have path := served _ _ ((RuntimeState.select_ok_iff choose _ context _ _).mpr
              ⟨source,start.id,selection,first,policy,routed,found,head,rfl,rfl⟩)
            exact .inr ⟨last,ends,(terminal_serves_iff terminal .ipv6).mp path.2⟩
          · push Not at everywhere
            obtain ⟨visited,present,none⟩ := everywhere
            exact .inl ⟨visited,present,fun ⟨nodeId,candidate⟩ => none nodeId candidate⟩
        · exact .inr (.inr (.inl (by simpa using active)))
    · exact .inl (by simpa using enabled)
  · intro covered decision after selected
    obtain ⟨source,groupId,selection,first,policy,start',found,_,rfl,_⟩ :=
      (RuntimeState.select_ok_iff choose _ context _ _).mp selected
    cases Option.some.inj (routed.symm.trans start')
    obtain ⟨enabled,allowed⟩ := (ipv6PolicySource_ok_iff (.fromSeed generation seed) ipv6).mp ⟨source,policy⟩
    obtain ⟨active,candidates,serves,_,last,ends,terminal⟩ := selectGraph_ok accepted generation parsed
      choose context member walk found
    rw [ipv6] at candidates serves
    refine ⟨serves,(terminal_serves_iff terminal .ipv6).mpr ?_⟩
    obtain off | denied | disabled | ⟨other,chain,⟨visited,present,none⟩ | ⟨final,finish,exit⟩⟩ := covered
    · have on : seed.ipv6Enabled = true := enabled
      simp [on] at off
    · exact False.elim (allowed denied)
    · simp [active] at disabled
    · cases walk.unique chain
      exact False.elim (none (candidates visited present))
    · cases walk.unique chain
      cases Option.some.inj (ends.symm.trans finish)
      exact exit

def ipv6Context : SelectionContext := ⟨1,.tcp,.externalContext (.v6 1 443 0 0) none⟩

theorem select_ipv6_path_serves_relay :
    ∃ start ∈ relaySeed.groups,
      (RuntimeRouting.fromSeed 1 relaySeed).startGroup ipv6Context.target = some start.id ∧
      ((∀ decision after,
          RuntimeState.select (fun _ _ => none) ⟨.fromSeed 1 relaySeed,.empty,0⟩ ipv6Context =
            .ok (decision,after) → relaySeed.PathServes .ipv6 decision.trace decision.terminal) ↔
        relaySeed.Ipv6Covered ((RuntimeRouting.fromSeed 1 relaySeed).routes.matchGroup ipv6Context.target).ipv6
          start) :=
  select_ipv6_path_serves_iff relaySeed (by decide) (by decide) 1 0 .empty (fun _ _ => none) ipv6Context rfl

theorem select_ipv6_through_relay :
    validateSeed relaySeed = .ok () ∧ relaySeed.NextParsed ∧ ipv6Context.target.family = .ipv6 ∧
      ∃ decision after, RuntimeState.select (fun _ _ => none) (.fromSeed relaySeed) ipv6Context =
        .ok (decision,after) ∧ ¬ relaySeed.PathServes .ipv6 decision.trace decision.terminal := by
  refine ⟨by decide,by decide,rfl,?_⟩
  have outlet : (RuntimeState.select (fun _ _ => none) (.fromSeed relaySeed) ipv6Context).toOption.map
      (fun reply => reply.1.terminal) = some (.node ⟨"relay"⟩) := by decide +kernel
  obtain ⟨⟨decision,after⟩,selected,terminal⟩ := ok_of_toOption_map outlet
  refine ⟨decision,after,selected,?_⟩
  intro path
  obtain ⟨node,member,same,_,capable⟩ := path.2 ⟨"relay"⟩ terminal
  have incapable : ∀ node ∈ relaySeed.nodes, node.id = ⟨"relay"⟩ → node.supportsIpv6 = false := by decide
  simp [incapable node member same] at capable

end Dynet.Runtime
