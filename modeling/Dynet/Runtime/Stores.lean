import Dynet.Runtime.Model
import Dynet.Lib.Checks
import Dynet.Lib.Maps

/-! The in-memory stores built from a seed and the group graph walk. The node
chooser of the walk is an arbitrary stateful closure: it is handed the candidate
set and may answer anything, including nothing or a foreign node. -/
namespace Dynet.Runtime
open Dynet.Lib Dynet.Lib.Checks

structure MatrixCandidateInput where
  nodeId : NodeId
  priority : UInt32
  deriving DecidableEq, Repr

structure GroupCandidateSet where
  groupId : GroupId
  scheduler : SchedulerPolicy
  thresholds : GroupThresholds
  candidates : List MatrixCandidateInput
  deriving DecidableEq, Repr

structure GroupSelection where
  trace : List SelectionTraceHop
  terminal : SelectionTerminal
  scheduler : SchedulerPolicy
  candidateCount : Nat
  deriving DecidableEq, Repr

inductive GroupSelectError where
  | nextCycle (group : GroupId)
  | missing (group : GroupId)
  | disabled (group : GroupId)
  | noEnabledNode (group : GroupId)
  | noCapableNode (group : GroupId) (family : IpFamily)
  deriving DecidableEq, Repr

def GroupSelectError.message : GroupSelectError → String
  | .nextCycle group => s!"group next cycle includes {group}"
  | .missing group => s!"forwarding group {group} is missing"
  | .disabled group => s!"forwarding group {group} is disabled"
  | .noEnabledNode group => s!"forwarding group {group} has no enabled node"
  | .noCapableNode group family => s!"forwarding group {group} has no {family.asStr}-capable enabled node"

structure NodeStore where
  defaultNode : Option NodeId
  nodes : Std.ExtTreeMap NodeId ForwardNode

namespace NodeStore

def fromNodes (nodes : List ForwardNode) : NodeStore where
  defaultNode := ((nodes.find? fun node => node.id.value == defaultNodeId && node.enabled) <|>
    nodes.find? (·.enabled)).map (·.id)
  nodes := Maps.fill (·.id) id nodes ∅

def isEligible (store : NodeStore) (nodeId : NodeId) (family : IpFamily) : Bool :=
  store.nodes[nodeId]?.any fun node => node.enabled && (family == .ipv4 || node.supportsIpv6)

def enabledNodeId (store : NodeStore) (id : String) : Option NodeId :=
  store.nodes[(⟨id⟩ : NodeId)]?.bind fun node => if node.enabled then some node.id else none

def fingerprintsById (store : NodeStore) : Std.ExtTreeMap String String :=
  Maps.fill (fun entry => entry.2.id.value) (fun entry => entry.2.fingerprint) store.nodes.toList ∅

end NodeStore

structure GroupStore where
  defaultGroup : Option GroupId
  groups : Std.ExtTreeMap GroupId ForwardGroup
  members : Std.ExtTreeMap GroupId (List GroupMember)

namespace GroupStore

def memberBefore (left right : GroupMember) : Bool :=
  ((compare left.priority right.priority).then (compare left.nodeId right.nodeId)).isLE

def fromParts (defaultGroup : GroupId) (groups : List ForwardGroup) (members : List GroupMember) :
    GroupStore :=
  let map := Maps.fill (·.id) id groups ∅
  { defaultGroup := if map[defaultGroup]?.any (·.enabled) then some defaultGroup
      else (map.toList.find? (·.2.enabled)).map (·.2.id)
    groups := map
    members := (Maps.bucket (·.groupId) members ∅).map fun _ list => list.mergeSort memberBefore }

section Select
variable {σ : Type} (store : GroupStore) (nodes : NodeStore) (family : IpFamily)
  (selectNode : σ → GroupCandidateSet → Option NodeId × σ)

def hopCandidates (members : List GroupMember) : List GroupMember :=
  members.filter fun member => member.enabled && nodes.isEligible member.nodeId family

-- The closure runs only once the candidate list is known to be non-empty, and an
-- answer outside that list falls back to the first candidate.
def selectGroupHop (groupId : GroupId) (state : σ) :
    Except GroupSelectError (SelectionTraceHop × σ) := do
  let some group := store.groups[groupId]? | throw (.missing groupId)
  ensure group.enabled (.disabled groupId)
  let some members := store.members[groupId]? | throw (.noEnabledNode groupId)
  match hopCandidates nodes family members with
  | [] => throw (.noCapableNode groupId family)
  | first::rest =>
    let candidates := first::rest
    let (answer,state) := selectNode state ⟨group.id,group.scheduler,group.thresholds,
      candidates.map fun member => ⟨member.nodeId,member.priority⟩⟩
    let selected := (answer.filter fun node => candidates.any fun member => member.nodeId == node).getD
      first.nodeId
    return (⟨group.id,selected,group.next,group.scheduler,candidates.length⟩,state)

def finish (terminal : SelectionTerminal) (first : SelectionTraceHop) (rest : List SelectionTraceHop) :
    GroupSelection := ⟨first::rest,terminal,first.scheduler,first.candidateCount⟩

-- The source's `loop`. A round that gets past both guards visits a new declared
-- group, so `groups.size + 1` rounds are enough (`graphLoop_fuel`).
def graphLoop : Nat → List GroupId → List SelectionTraceHop → GroupId → σ →
    Except GroupSelectError GroupSelection
  | 0, _, _, current, _ => .error (.nextCycle current)
  | fuel+1, seen, trace, current, state => do
    ensure (current ∉ seen) (.nextCycle current)
    let (hop,state) ← selectGroupHop store nodes family selectNode current state
    let trace := trace ++ [hop]
    let first := trace.headD hop
    match hop.next with
    | .directAuditOutlet => return finish .directAuditOutlet first trace.tail
    | .named name => match nodes.enabledNodeId name with
      | some nodeId => return finish (.node nodeId) first trace.tail
      | none => graphLoop fuel (current::seen) trace ⟨name⟩ state

def selectGraphWith (groupId : GroupId) (state : σ) : Except GroupSelectError GroupSelection :=
  graphLoop store nodes family selectNode (store.groups.size + 1) [] [] groupId state

end Select

def enabledCandidates (store : GroupStore) (groupId : GroupId) (nodes : NodeStore) (family : IpFamily) :
    Except GroupSelectError (List MatrixCandidateInput) := do
  let some group := store.groups[groupId]? | throw (.missing groupId)
  ensure group.enabled (.disabled groupId)
  let some members := store.members[groupId]? | throw (.noEnabledNode groupId)
  return (hopCandidates nodes family members).map fun member => ⟨member.nodeId,member.priority⟩

end GroupStore

structure RouteMatch where
  groupId : Option GroupId
  ruleId : Option RuleId
  ipv6 : Ipv6RulePolicy
  deriving DecidableEq, Repr

structure RouteRuleStore where
  rules : List RouteRule
  deriving DecidableEq, Repr

namespace RouteRuleStore

def ruleBefore (left right : RouteRule) : Bool :=
  ((compare right.priority left.priority).then (compare left.id right.id)).isLE

def fromRules (rules : List RouteRule) : RouteRuleStore := ⟨rules.mergeSort ruleBefore⟩

def matchGroup (store : RouteRuleStore) (target : TargetContext) : RouteMatch :=
  match store.rules.find? fun rule => rule.enabled && rule.matcher.matches target with
  | some rule => ⟨some rule.groupId,some rule.id,rule.ipv6⟩
  | none => ⟨none,none,.inherit⟩

end RouteRuleStore

structure DnsUpstreamStore where
  upstreams : Std.ExtTreeMap DnsUpstreamId DnsUpstream

def DnsUpstreamStore.fromUpstreams (upstreams : List DnsUpstream) : DnsUpstreamStore :=
  ⟨Maps.fill (·.id) id upstreams ∅⟩

end Dynet.Runtime
