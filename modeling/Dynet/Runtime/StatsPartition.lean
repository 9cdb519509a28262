import Dynet.Runtime.MatrixStats
import Mathlib.Algebra.GroupWithZero.Nat
import Mathlib.Algebra.Order.BigOperators.Group.List
import Mathlib.Algebra.Order.Group.Nat

/-! The matrix statistics as a partition of the sessions: what every accumulator keeps
balanced, and how the statistics of the targets of a node add up to the node's own. -/
namespace Dynet.Runtime
open Dynet.Lib Dynet.Lib.Text

/-- The `u64` counters that are sums over sessions. -/
inductive Counter where
  | sessions | successes | errors | effectiveErrorMillis | activeSessions
  | clientToUpstreamBytes | upstreamToClientBytes | clientToUpstreamDatagrams | upstreamToClientDatagrams
  deriving DecidableEq, Repr

namespace Counter

def held (stats : MatrixNodeStatsAccumulator) : Counter → Nat
  | .sessions => stats.sessionCount
  | .successes => stats.successCount
  | .errors => stats.errorCount
  | .effectiveErrorMillis => stats.effectiveErrorMillis
  | .activeSessions => stats.activeSessionCount
  | .clientToUpstreamBytes => stats.clientToUpstreamBytes
  | .upstreamToClientBytes => stats.upstreamToClientBytes
  | .clientToUpstreamDatagrams => stats.clientToUpstreamDatagrams
  | .upstreamToClientDatagrams => stats.upstreamToClientDatagrams

def shown (stats : MatrixNodeStats) : Counter → Nat
  | .sessions => stats.sessionCount
  | .successes => stats.successCount
  | .errors => stats.errorCount
  | .effectiveErrorMillis => stats.effectiveErrorMillis
  | .activeSessions => stats.activeSessionCount
  | .clientToUpstreamBytes => stats.clientToUpstreamBytes
  | .upstreamToClientBytes => stats.upstreamToClientBytes
  | .clientToUpstreamDatagrams => stats.clientToUpstreamDatagrams
  | .upstreamToClientDatagrams => stats.upstreamToClientDatagrams

def adds (session : TrafficSession) : Counter → Nat
  | .sessions => 1
  | .successes => if session.error.isNone && session.closedAtUnixMs.isSome then 1 else 0
  | .errors => if session.error.isSome then 1 else 0
  | .effectiveErrorMillis => if session.error.isSome then session.effectiveErrorMillis else 0
  | .activeSessions => if session.active then 1 else 0
  | .clientToUpstreamBytes => session.clientToUpstreamBytes
  | .upstreamToClientBytes => session.upstreamToClientBytes
  | .clientToUpstreamDatagrams => session.clientToUpstreamDatagrams
  | .upstreamToClientDatagrams => session.upstreamToClientDatagrams

theorem held_zero (counter : Counter) : held .zero counter = 0 := by cases counter <;> rfl

theorem shown_finish (counter : Counter) (stats : MatrixNodeStatsAccumulator) (groupId nodeId nodeFingerprint : String) :
    shown (stats.finish groupId nodeId nodeFingerprint) counter = held stats counter := by
  cases counter <;> rfl

theorem held_record (counter : Counter) (stats : MatrixNodeStatsAccumulator) (session : TrafficSession)
    (fits : held stats counter + adds session counter < 2^64) :
    held (stats.record session) counter = held stats counter + adds session counter := by
  cases counter with
  | clientToUpstreamBytes => exact Nat.mod_eq_of_lt fits
  | upstreamToClientBytes => exact Nat.mod_eq_of_lt fits
  | clientToUpstreamDatagrams => exact Nat.mod_eq_of_lt fits
  | upstreamToClientDatagrams => exact Nat.mod_eq_of_lt fits
  | _ =>
    cases failed : session.error <;> cases closed : session.closedAtUnixMs <;>
      simp [held,adds,MatrixNodeStatsAccumulator.record,TrafficSession.active,failed,closed]

theorem held_records {κ : Type} (counter : Counter) (entries : List (κ × TrafficSession))
    (stats : MatrixNodeStatsAccumulator)
    (fits : held stats counter + (entries.map fun entry => adds entry.2 counter).sum < 2^64) :
    held (entries.foldl (fun stats entry => stats.record entry.2) stats) counter =
      held stats counter + (entries.map fun entry => adds entry.2 counter).sum := by
  induction entries generalizing stats with
  | nil => rfl
  | cons entry rest ih =>
    rw [List.map_cons,List.sum_cons] at fits ⊢
    have first := held_record counter stats entry.2 (by omega)
    rw [List.foldl_cons,ih _ (by omega),first,Nat.add_assoc]

end Counter

def CountersFit (sessions : List TrafficSession) : Prop := ∀ (pair : String × String) (counter : Counter),
  (((pairedSessions sessions).filter fun entry => entry.1 = pair).map fun entry => counter.adds entry.2).sum < 2^64

theorem countersFit_of_total {sessions : List TrafficSession}
    (total : ∀ counter : Counter, ((pairedSessions sessions).map fun entry => counter.adds entry.2).sum < 2^64) :
    CountersFit sessions := fun _ counter =>
  (List.Sublist.sum_le_sum (List.filter_sublist.map _) fun _ _ => Nat.zero_le _).trans_lt (total counter)

structure MatrixNodeStatsAccumulator.Balanced (stats : MatrixNodeStatsAccumulator) : Prop where
  outcomes : stats.sessionCount = stats.successCount + stats.errorCount + stats.activeSessionCount
  millis : stats.effectiveErrorMillis ≤ 1000 * stats.errorCount

structure MatrixNodeStats.Balanced (stats : MatrixNodeStats) : Prop where
  outcomes : stats.sessionCount = stats.successCount + stats.errorCount + stats.activeSessionCount
  millis : stats.effectiveErrorMillis ≤ 1000 * stats.errorCount
  effectiveErrors : stats.effectiveErrorCount = millisToCount stats.effectiveErrorMillis
  errorRate : stats.errorRatePpm ≤ 1000000
  effectiveErrorRate : stats.effectiveErrorRatePpm ≤ 1000000

theorem record_balanced {stats : MatrixNodeStatsAccumulator} (balanced : stats.Balanced) (session : TrafficSession) :
    (stats.record session).Balanced := by
  obtain ⟨outcomes,millis⟩ := balanced
  have small := effectiveErrorMillis_le session
  cases failed : session.error with
  | some error =>
    constructor <;> simp only [MatrixNodeStatsAccumulator.record,failed,Option.isSome_some,if_true] <;> omega
  | none =>
    cases closed : session.closedAtUnixMs <;> constructor <;>
      simp [MatrixNodeStatsAccumulator.record,failed,closed] <;> omega

theorem records_balanced {κ : Type} (entries : List (κ × TrafficSession)) {stats : MatrixNodeStatsAccumulator}
    (balanced : stats.Balanced) : (entries.foldl (fun stats entry => stats.record entry.2) stats).Balanced := by
  induction entries generalizing stats with
  | nil => exact balanced
  | cons entry rest ih => exact ih (record_balanced balanced entry.2)

theorem saturateU32_le (value : Nat) : saturateU32 value ≤ value := by
  unfold saturateU32
  split <;> omega

theorem finish_balanced {stats : MatrixNodeStatsAccumulator} (balanced : stats.Balanced)
    (groupId nodeId nodeFingerprint : String) : (stats.finish groupId nodeId nodeFingerprint).Balanced := by
  obtain ⟨outcomes,millis⟩ := balanced
  have rate {numerator : Nat} (scale : Nat) (few : numerator * scale ≤ stats.sessionCount * 1000000) :
      saturateU32 (numerator * scale / stats.sessionCount) ≤ 1000000 :=
    (saturateU32_le _).trans (Nat.div_le_of_le_mul few)
  refine ⟨outcomes,millis,rfl,?_,?_⟩
  · change ratePpm stats.errorCount stats.sessionCount ≤ 1000000
    unfold ratePpm
    split
    · omega
    · exact rate 1000000 (by omega)
  · change effectiveRatePpm stats.effectiveErrorMillis stats.sessionCount ≤ 1000000
    unfold effectiveRatePpm
    split
    · omega
    · exact rate 1000 (by omega)

theorem record_commutes (stats : MatrixNodeStatsAccumulator) (first second : TrafficSession) :
    (stats.record first).record second = (stats.record second).record first := by
  cases firstFailed : first.error <;> cases firstClosed : first.closedAtUnixMs <;>
    cases secondFailed : second.error <;> cases secondClosed : second.closedAtUnixMs <;>
    simp [MatrixNodeStatsAccumulator.record,firstFailed,firstClosed,secondFailed,secondClosed] <;> omega

section Accumulators
variable {κ : Type} [Ord κ] [Std.TransOrd κ] [Std.LawfulEqOrd κ] [DecidableEq κ]

theorem accumulate_balanced (entries : List (κ × TrafficSession)) :
    ∀ entry ∈ (accumulate entries).toList, entry.2.Balanced := by
  intro entry listed
  have found := Std.ExtTreeMap.mem_toList_iff_getElem?_eq_some.mp listed
  rw [accumulate_lookup,Option.ite_none_right_eq_some,Option.some.injEq] at found
  rw [← found.2]
  exact records_balanced _ ⟨rfl,Nat.le_refl 0⟩

theorem accumulate_perm {entries others : List (κ × TrafficSession)} (perm : entries.Perm others) :
    accumulate entries = accumulate others :=
  Maps.tally_perm Prod.fst _ _ (fun stats first second => record_commutes stats first.2 second.2) perm

end Accumulators

def TrafficSession.targeted (session : TrafficSession) : Bool := session.targetScopeOf.isSome

theorem targetedSessions_pairs (sessions : List TrafficSession) :
    (targetedSessions sessions).map (fun entry => (entry.1.1,entry.2)) =
      pairedSessions (sessions.filter (·.targeted)) := by
  induction sessions with
  | nil => rfl
  | cons session rest ih =>
    simp only [targetedSessions,List.flatMap_cons,List.map_append] at ih ⊢
    rw [ih,List.filter_cons]
    cases scope : session.targetScopeOf with
    | none => simp [TrafficSession.targeted,scope]
    | some scope =>
      have kept : session.targeted = true := by simp [TrafficSession.targeted,scope]
      rw [if_pos kept]
      change _ = _ ++ pairedSessions (rest.filter (·.targeted))
      rw [List.map_map]
      rfl

theorem pairedSessions_sublist {sessions part : List TrafficSession} (sublist : part.Sublist sessions) :
    (pairedSessions part).Sublist (pairedSessions sessions) := by
  induction sublist with
  | slnil => exact List.Sublist.refl _
  | cons session _ ih => exact ih.trans (List.sublist_append_right _ _)
  | cons_cons session _ ih => exact ih.append_left _

theorem fits_of_sublist {entries : List ((String × String) × TrafficSession)} {sessions : List TrafficSession}
    (fit : CountersFit sessions) (pair : String × String) (counter : Counter)
    (sublist : entries.Sublist ((pairedSessions sessions).filter fun entry => entry.1 = pair)) :
    (entries.map fun entry => counter.adds entry.2).sum < 2^64 :=
  (List.Sublist.sum_le_sum (sublist.map _) fun _ _ => Nat.zero_le _).trans_lt (fit pair counter)

theorem target_entries_sublist (sessions : List TrafficSession) (key : (String × String) × String × String) :
    (((targetedSessions sessions).filter fun entry => entry.1 = key).map fun entry => (entry.1.1,entry.2)).Sublist
      ((pairedSessions sessions).filter fun entry => entry.1 = key.1) := by
  have narrower : ((targetedSessions sessions).filter fun entry => entry.1 = key).Sublist
      ((targetedSessions sessions).filter fun entry => entry.1.1 = key.1) := by
    refine List.monotone_filter_right _ fun entry same => ?_
    simp only [decide_eq_true_eq] at same ⊢
    rw [same]
  have mapped := narrower.map fun entry => (entry.1.1,entry.2)
  have all : ((targetedSessions sessions).filter fun entry => entry.1.1 = key.1).map (fun entry => (entry.1.1,entry.2)) =
      (pairedSessions (sessions.filter (·.targeted))).filter fun entry => entry.1 = key.1 := by
    rw [← targetedSessions_pairs,List.filter_map]
    rfl
  rw [all] at mapped
  exact mapped.trans ((pairedSessions_sublist List.filter_sublist).filter _)

theorem node_counter {sessions : List TrafficSession} (fit : CountersFit sessions)
    (fingerprintsByNode : Std.ExtTreeMap String String) (groupId nodeId : String) (counter : Counter) :
    ((matchingNodeStats groupId nodeId (nodeStatsFromSessions sessions fingerprintsByNode)).map
      (Counter.shown · counter)).getD 0 =
      (((pairedSessions sessions).filter fun entry => entry.1 = (groupId,nodeId)).map fun entry =>
        counter.adds entry.2).sum := by
  have sums := fit (groupId,nodeId) counter
  rw [matchingNodeStats_eq,Option.map_map,accumulate_lookup]
  split
  · have held := counter.held_records ((pairedSessions sessions).filter fun entry => entry.1 = (groupId,nodeId)) .zero
      (by rw [counter.held_zero]; omega)
    simp only [Option.map_some,Function.comp_apply,Option.getD_some,Counter.shown_finish,held,counter.held_zero,Nat.zero_add]
  · rename_i absent
    have none : ((pairedSessions sessions).filter fun entry => entry.1 = (groupId,nodeId)) = [] := by
      rw [List.filter_eq_nil_iff]
      exact fun entry member same => absent (List.any_eq_true.mpr ⟨entry,member,same⟩)
    rw [none]
    rfl

def targetsOf (groupId nodeId : String) (stats : List MatrixTargetNodeStats) : List MatrixTargetNodeStats :=
  stats.filter fun stats => stats.groupId = groupId ∧ stats.nodeId = nodeId

theorem targetsOf_eq (sessions : List TrafficSession) (fingerprintsByNode : Std.ExtTreeMap String String)
    (groupId nodeId : String) :
    targetsOf groupId nodeId (targetStatsFromSessions sessions fingerprintsByNode) =
      ((accumulate (targetedSessions sessions)).toList.filter fun entry => entry.1.1 = (groupId,nodeId)).map fun entry =>
        entry.2.finishTarget entry.1.1.1 entry.1.1.2 (nodeFingerprint entry.1.1.2 fingerprintsByNode)
          entry.1.2.1 entry.1.2.2 := by
  rw [targetsOf,targetStatsFromSessions,List.filter_map]
  congr 1
  refine List.filter_congr fun entry _ => ?_
  simp [MatrixNodeStatsAccumulator.finishTarget,MatrixNodeStatsAccumulator.finish,Prod.ext_iff]

theorem target_counters {sessions : List TrafficSession} (fit : CountersFit sessions)
    (fingerprintsByNode : Std.ExtTreeMap String String) (groupId nodeId : String) (counter : Counter) :
    ((targetsOf groupId nodeId (targetStatsFromSessions sessions fingerprintsByNode)).map
      fun stats => Counter.shown stats.toMatrixNodeStats counter).sum =
      (((pairedSessions (sessions.filter (·.targeted))).filter fun entry => entry.1 = (groupId,nodeId)).map fun entry =>
        counter.adds entry.2).sum := by
  have tallied := Maps.tally_sum Prod.fst (fun stats entry => MatrixNodeStatsAccumulator.record stats entry.2) .zero
    (targetedSessions sessions) (fun key => decide (key.1 = (groupId,nodeId))) (Counter.held · counter)
    (fun entry => counter.adds entry.2) (by
      intro key _
      have small := fits_of_sublist fit key.1 counter (target_entries_sublist sessions key)
      rw [List.map_map] at small
      have held := counter.held_records ((targetedSessions sessions).filter fun entry => entry.1 = key) .zero
        (by rw [counter.held_zero,Nat.zero_add]; exact small)
      rw [counter.held_zero,Nat.zero_add] at held
      exact held)
  rw [targetsOf_eq,List.map_map,← targetedSessions_pairs,List.filter_map,List.map_map]
  refine Eq.trans ?_ tallied
  exact congrArg List.sum (List.map_congr_left fun entry _ => counter.shown_finish entry.2 _ _ _)

theorem nodeStats_balanced (sessions : List TrafficSession) (fingerprintsByNode : Std.ExtTreeMap String String) :
    ∀ stats ∈ nodeStatsFromSessions sessions fingerprintsByNode, stats.Balanced := by
  intro stats listed
  obtain ⟨entry,member,rfl⟩ := List.mem_map.mp listed
  exact finish_balanced (accumulate_balanced _ entry member) _ _ _

theorem targetStats_balanced (sessions : List TrafficSession) (fingerprintsByNode : Std.ExtTreeMap String String) :
    ∀ stats ∈ targetStatsFromSessions sessions fingerprintsByNode, stats.toMatrixNodeStats.Balanced := by
  intro stats listed
  obtain ⟨entry,member,rfl⟩ := List.mem_map.mp listed
  exact finish_balanced (accumulate_balanced _ entry member) _ _ _

theorem nodeStats_perm {sessions others : List TrafficSession} (perm : sessions.Perm others)
    (fingerprintsByNode : Std.ExtTreeMap String String) :
    nodeStatsFromSessions sessions fingerprintsByNode = nodeStatsFromSessions others fingerprintsByNode := by
  rw [nodeStatsFromSessions,nodeStatsFromSessions,pairedSessions,accumulate_perm (perm.flatMap_right _)]
  rfl

theorem targetStats_perm {sessions others : List TrafficSession} (perm : sessions.Perm others)
    (fingerprintsByNode : Std.ExtTreeMap String String) :
    targetStatsFromSessions sessions fingerprintsByNode = targetStatsFromSessions others fingerprintsByNode := by
  rw [targetStatsFromSessions,targetStatsFromSessions,targetedSessions,accumulate_perm (perm.flatMap_right _)]
  rfl

-- Rounding up once gives no more than rounding up each part.
theorem millisToCount_sum (parts : List Nat) : millisToCount parts.sum ≤ (parts.map millisToCount).sum := by
  induction parts with
  | nil => exact Nat.le_refl 0
  | cons part rest ih =>
    rw [List.map_cons,List.sum_cons,List.sum_cons]
    unfold millisToCount at ih ⊢
    omega

theorem effectiveErrors_le {sessions : List TrafficSession}
    (fingerprintsByNode : Std.ExtTreeMap String String) (groupId nodeId : String)
    (total : ∀ counter, ((targetsOf groupId nodeId (targetStatsFromSessions sessions fingerprintsByNode)).map
        fun stats => Counter.shown stats.toMatrixNodeStats counter).sum =
      ((matchingNodeStats groupId nodeId (nodeStatsFromSessions (sessions.filter (·.targeted)) fingerprintsByNode)).map
        (Counter.shown · counter)).getD 0) :
    ((matchingNodeStats groupId nodeId (nodeStatsFromSessions (sessions.filter (·.targeted)) fingerprintsByNode)).map
        (·.effectiveErrorCount)).getD 0 ≤
      ((targetsOf groupId nodeId (targetStatsFromSessions sessions fingerprintsByNode)).map
        (·.effectiveErrorCount)).sum := by
  have each : (targetsOf groupId nodeId (targetStatsFromSessions sessions fingerprintsByNode)).map (·.effectiveErrorCount) =
      ((targetsOf groupId nodeId (targetStatsFromSessions sessions fingerprintsByNode)).map
        fun stats => Counter.shown stats.toMatrixNodeStats .effectiveErrorMillis).map millisToCount := by
    rw [List.map_map]
    refine List.map_congr_left fun stats listed => ?_
    exact (targetStats_balanced sessions fingerprintsByNode stats (List.mem_of_mem_filter listed)).effectiveErrors
  rw [each]
  refine le_trans ?_ (millisToCount_sum _)
  rw [total]
  cases found : matchingNodeStats groupId nodeId (nodeStatsFromSessions (sessions.filter (·.targeted)) fingerprintsByNode) with
  | none => exact Nat.zero_le _
  | some stats =>
    have listed := List.mem_of_find?_eq_some found
    exact le_of_eq (nodeStats_balanced _ fingerprintsByNode stats listed).effectiveErrors

/-- The statistics partition the sessions: the outcomes of every entry add up, its rates
are at most one, the targets of a group and node add up to its targeted sessions, and the
order of the sessions does not show. Only the rounded error count may add up to more. -/
theorem stats_partition (sessions : List TrafficSession) (fingerprintsByNode : Std.ExtTreeMap String String)
    (fit : CountersFit sessions) :
    (∀ stats ∈ nodeStatsFromSessions sessions fingerprintsByNode, stats.Balanced) ∧
    (∀ stats ∈ targetStatsFromSessions sessions fingerprintsByNode, stats.toMatrixNodeStats.Balanced) ∧
    (∀ groupId nodeId,
      let targets := targetsOf groupId nodeId (targetStatsFromSessions sessions fingerprintsByNode)
      let node := matchingNodeStats groupId nodeId (nodeStatsFromSessions (sessions.filter (·.targeted)) fingerprintsByNode)
      (∀ counter, (targets.map fun stats => Counter.shown stats.toMatrixNodeStats counter).sum =
        (node.map (Counter.shown · counter)).getD 0) ∧
      (node.map (·.effectiveErrorCount)).getD 0 ≤ (targets.map (·.effectiveErrorCount)).sum) ∧
    ∀ others, sessions.Perm others →
      nodeStatsFromSessions sessions fingerprintsByNode = nodeStatsFromSessions others fingerprintsByNode ∧
      targetStatsFromSessions sessions fingerprintsByNode = targetStatsFromSessions others fingerprintsByNode := by
  refine ⟨nodeStats_balanced _ _,targetStats_balanced _ _,?_,?_⟩
  · intro groupId nodeId
    have narrower : CountersFit (sessions.filter (·.targeted)) := fun pair counter =>
      fits_of_sublist fit pair counter ((pairedSessions_sublist List.filter_sublist).filter _)
    have total (counter : Counter) := (target_counters fit fingerprintsByNode groupId nodeId counter).trans
      (node_counter narrower fingerprintsByNode groupId nodeId counter).symm
    exact ⟨total,effectiveErrors_le fingerprintsByNode groupId nodeId total⟩
  · exact fun others perm => ⟨nodeStats_perm perm _,targetStats_perm perm _⟩

/-- A session through one node that ends half way into its response. -/
def interrupted (sessionId : Nat) (targetIp : String) : TrafficSession where
  sessionKey := toString sessionId
  sessionId := sessionId
  decisionId := none
  configGeneration := none
  inbound := "tcp"
  nodeProtocol := none
  peer := none
  target := none
  targetIp := some targetIp
  targetPort := none
  targetDomain := none
  targetSource := none
  upstream := none
  selectionGroups := some "g"
  selectionNodes := some "n"
  selectionTrace := none
  startedAtUnixMs := 0
  closedAtUnixMs := none
  durationMs := none
  closeReason := none
  errorStage := none
  errorCode := none
  errorClass := some "response-interrupted"
  errorSide := none
  errorPhase := none
  errorProtocolPhase := none
  errorScoreImpact := none
  error := some "reset"
  clientToUpstreamBytes := 1
  upstreamToClientBytes := 1
  clientToUpstreamDatagrams := 0
  upstreamToClientDatagrams := 0
  firstUpstreamAtUnixMs := none
  firstDownstreamAtUnixMs := none
  firstResponseLatencyMs := none
  lastObservedAtUnixMs := 0

def twoTargets : List TrafficSession := [interrupted 1 "a",interrupted 2 "b"]

-- Each target counts one effective error, the node counts one for both.
theorem rounded_errors_exceed :
    ((targetsOf "g" "n" (targetStatsFromSessions twoTargets ∅)).map (·.effectiveErrorCount)).sum ≠
      ((matchingNodeStats "g" "n" (nodeStatsFromSessions (twoTargets.filter (·.targeted)) ∅)).map
        (·.effectiveErrorCount)).getD 0 := by
  decide +kernel

theorem twoTargets_add_up :
    ((targetsOf "g" "n" (targetStatsFromSessions twoTargets ∅)).map
      fun stats => Counter.shown stats.toMatrixNodeStats .effectiveErrorMillis).sum =
      ((matchingNodeStats "g" "n" (nodeStatsFromSessions (twoTargets.filter (·.targeted)) ∅)).map
        (Counter.shown · .effectiveErrorMillis)).getD 0 := by
  have fit : CountersFit twoTargets := countersFit_of_total fun counter => by
    cases counter <;> decide +kernel
  exact ((stats_partition twoTargets ∅ fit).2.2.1 "g" "n").1 .effectiveErrorMillis

end Dynet.Runtime
