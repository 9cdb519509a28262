import Dynet.Persistence.BootstrapLoad
import Dynet.Runtime.ActiveSelection

/-! Selection over groups as the store holds them. The walk hands a chooser the stored
thresholds, and the chooser of the active rollout answers as it does to the declared ones:
a sample count past `i64::MAX` saturates either way, and no node has that many sessions. -/
namespace Dynet.Persistence.Bootstrap
open Dynet.Runtime Dynet.Lib Dynet.Lib.Checks Dynet.Lib.Checked

section Thresholds

theorem storedCount_toNat (value : UInt64) : (storedCount value).toNat = min value.toNat (2^63 - 1) := by
  have clipped : (u64ToI64 value).toNat = min value.toNat (2^63 - 1) := by
    rw [u64ToI64,clampI64]
    split <;> omega
  rw [storedCount,clipped,UInt64.toNat_ofNat_of_lt']
  change _ < 2^64
  omega

theorem cooledStats_stored (stats : MatrixNodeStats) (thresholds : GroupThresholds) :
    cooledStats stats (storedThresholds thresholds) = cooledStats stats thresholds := by
  have saturated : saturatingMul (storedCount thresholds.minSamples).toNat 1000 = saturatingMul thresholds.minSamples.toNat 1000 := by
    rw [storedCount_toNat,saturatingMul,saturatingMul]
    omega
  simp only [cooledStats,storedThresholds,saturated]
  rfl

theorem cappedNode_stored {stats : MatrixNodeStats} (few : stats.activeSessionCount < 2^63 - 1) (thresholds : GroupThresholds) :
    cappedNode stats (storedThresholds thresholds) = cappedNode stats thresholds := by
  rw [cappedNode,cappedNode,storedThresholds,Option.any_map]
  congr 1
  funext limit
  rw [storedCount_toNat,decide_eq_decide]
  omega

end Thresholds

section Board

/-- The hops of all sessions. A node of a group has no more sessions than that. -/
def hops (sessions : List TrafficSession) : Nat := (pairedSessions sessions).length

variable {context : SelectionContext} {groupId : GroupId} {thresholds : GroupThresholds} {sessions : List TrafficSession}
  {fingerprintsByNode : Std.ExtTreeMap String String}

theorem aggregate_active_le {nodeId : NodeId} {stats : MatrixNodeStats}
    (known : (sessionBoard context groupId thresholds sessions fingerprintsByNode).aggregate nodeId = some stats) :
    stats.activeSessionCount ≤ hops sessions := by
  simp only [Scoreboard.aggregate,sessionBoard,matchingNodeStats_eq] at known
  obtain ⟨counts,found,rfl⟩ := Option.map_eq_some_iff.mp known
  have counted := accumulate_active (pairedSessions sessions) (groupId.value,nodeId.value)
  rw [found,Option.map_some,Option.getD_some] at counted
  change counts.activeSessionCount ≤ _
  rw [counted]
  exact List.countP_le_length

theorem score_stored (few : hops sessions < 2^63 - 1) (candidate : MatrixCandidateInput) (rank : Nat) :
    (sessionBoard context groupId (storedThresholds thresholds) sessions fingerprintsByNode).score candidate rank =
      (sessionBoard context groupId thresholds sessions fingerprintsByNode).score candidate rank := by
  let board := sessionBoard context groupId thresholds sessions fingerprintsByNode
  change activeScore candidate.priority rank (storedThresholds thresholds) (board.target candidate.nodeId)
    (board.aggregate candidate.nodeId) = activeScore candidate.priority rank thresholds (board.target candidate.nodeId)
    (board.aggregate candidate.nodeId)
  cases known : board.aggregate candidate.nodeId with
  | none => simp only [activeScore,cooledNode,cooledTarget,cooledStats_stored,Option.any_none]
  | some stats =>
    have active := aggregate_active_le known
    simp only [activeScore,cooledNode,cooledTarget,cooledStats_stored,Option.any_some,
      cappedNode_stored (Nat.lt_of_le_of_lt active few)]

theorem selectActiveCandidate_stored (few : hops sessions < 2^63 - 1) (candidates : List MatrixCandidateInput) :
    (sessionBoard context groupId (storedThresholds thresholds) sessions fingerprintsByNode).selectActiveCandidate candidates =
      (sessionBoard context groupId thresholds sessions fingerprintsByNode).selectActiveCandidate candidates := by
  simp only [Scoreboard.selectActiveCandidate,score_stored few]
  rfl

end Board

/-- The closure of `select`: what the active rollout answers to a candidate set. -/
def selectActive (nodes : NodeStore) (sessions : List TrafficSession) (context : SelectionContext) (set : GroupCandidateSet) :
    Option NodeId :=
  -- A score that overflows is no answer here; in the source it ends the selection.
  ((sessionBoard context set.groupId set.thresholds sessions nodes.fingerprintsById).selectActiveCandidate set.candidates).join

section Walk
variable {σ : Type} {stored declared : GroupStore} {nodes declaredNodes : NodeStore} (family : IpFamily)
  (selectNode : σ → GroupCandidateSet → Option NodeId × σ)

def storedSet (set : GroupCandidateSet) : GroupCandidateSet := {set with thresholds := storedThresholds set.thresholds}

/-- Stores with the same nodes, members and groups but for the thresholds. -/
structure Alike (stored declared : GroupStore) (nodes declaredNodes : NodeStore) : Prop where
  nodes : nodes.nodes = declaredNodes.nodes
  groups : ∀ groupId : GroupId, stored.groups[groupId]? = declared.groups[groupId]?.map storedGroup
  size : stored.groups.size = declared.groups.size
  members : stored.members = declared.members
  defaultGroup : stored.defaultGroup = declared.defaultGroup

namespace Alike
variable (alike : Alike stored declared nodes declaredNodes)
include alike

theorem hopCandidates (members : List GroupMember) :
    GroupStore.hopCandidates nodes family members = GroupStore.hopCandidates declaredNodes family members := by
  simp only [GroupStore.hopCandidates,NodeStore.isEligible,alike.nodes]

theorem selectGroupHop (groupId : GroupId) (state : σ) :
    stored.selectGroupHop nodes family selectNode groupId state =
      declared.selectGroupHop declaredNodes family (fun state set => selectNode state (storedSet set)) groupId state := by
  unfold GroupStore.selectGroupHop
  rw [alike.groups]
  cases declared.groups[groupId]? with
  | none => rfl
  | some group =>
    simp only [Option.map_some,alike.members,alike.hopCandidates family]
    rfl

theorem graphLoop (fuel : Nat) (seen : List GroupId) (trace : List SelectionTraceHop) (groupId : GroupId) (state : σ) :
    stored.graphLoop nodes family selectNode fuel seen trace groupId state =
      declared.graphLoop declaredNodes family (fun state set => selectNode state (storedSet set)) fuel seen trace groupId state := by
  have named (name : String) : nodes.enabledNodeId name = declaredNodes.enabledNodeId name := by
    rw [NodeStore.enabledNodeId,NodeStore.enabledNodeId,alike.nodes]
  induction fuel generalizing seen trace groupId state with
  | zero => rfl
  | succ fuel ih => simp only [GroupStore.graphLoop,alike.selectGroupHop family selectNode,named,ih]

/-- A walk over stored groups is the walk over the declared ones with a chooser that is
shown the stored thresholds. -/
theorem selectGraphWith (groupId : GroupId) (state : σ) :
    stored.selectGraphWith nodes family selectNode groupId state =
      declared.selectGraphWith declaredNodes family (fun state set => selectNode state (storedSet set)) groupId state := by
  rw [GroupStore.selectGraphWith,GroupStore.selectGraphWith,alike.size,alike.graphLoop]

theorem enabledCandidates (groupId : GroupId) :
    stored.enabledCandidates groupId nodes family = declared.enabledCandidates groupId declaredNodes family := by
  unfold GroupStore.enabledCandidates
  rw [alike.groups]
  cases declared.groups[groupId]? with
  | none => rfl
  | some group =>
    simp only [Option.map_some,alike.members,alike.hopCandidates family]
    rfl

omit family selectNode in
theorem selectActive {sessions : List TrafficSession} (few : hops sessions < 2^63 - 1) (context : SelectionContext)
    (set : GroupCandidateSet) : selectActive nodes sessions context (storedSet set) = selectActive declaredNodes sessions context set := by
  have fingerprints : nodes.fingerprintsById = declaredNodes.fingerprintsById := by
    rw [NodeStore.fingerprintsById,NodeStore.fingerprintsById,alike.nodes]
  rw [Bootstrap.selectActive,Bootstrap.selectActive,fingerprints]
  exact congrArg Option.join (selectActiveCandidate_stored few set.candidates)

end Alike
end Walk
end Dynet.Persistence.Bootstrap
