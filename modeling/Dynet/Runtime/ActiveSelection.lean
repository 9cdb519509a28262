import Dynet.Runtime.MatrixActive

/-! Bounds on the statistics of at most 1024 sessions, and what they mean for scores: none
overflows, and load never makes up for history, health or one step of priority. -/
namespace Dynet.Runtime
open Dynet.Lib.Checked

/-- What the fold over sessions keeps. -/
structure Tallied (stats : MatrixNodeStatsAccumulator) : Prop where
  succeeded : stats.successCount ≤ stats.sessionCount
  active : stats.activeSessionCount ≤ stats.sessionCount
  errors : stats.effectiveErrorMillis ≤ 1000 * stats.sessionCount

theorem record_tallied {stats : MatrixNodeStatsAccumulator} (tallied : Tallied stats) (session : TrafficSession) :
    Tallied (stats.record session) := by
  obtain ⟨succeeded,active,errors⟩ := tallied
  have most := effectiveErrorMillis_le session
  unfold MatrixNodeStatsAccumulator.record
  split
  · exact ⟨by simp only; omega,by simp only; omega,by simp only; omega⟩
  · split
    · exact ⟨by simp only; omega,by simp only; omega,by simp only; omega⟩
    · exact ⟨by simp only; omega,by simp only; omega,by simp only; omega⟩

theorem records_tallied {κ : Type} (entries : List (κ × TrafficSession)) {stats : MatrixNodeStatsAccumulator}
    (tallied : Tallied stats) : Tallied (entries.foldl (fun stats entry => stats.record entry.2) stats) := by
  induction entries generalizing stats with
  | nil => exact tallied
  | cons entry rest ih => exact ih (record_tallied tallied entry.2)

/-- What scoring relies on in the entry of a table. -/
structure Modest (stats : MatrixNodeStats) : Prop where
  sessions : stats.sessionCount ≤ 1024
  succeeded : stats.successCount ≤ 1024
  active : stats.activeSessionCount ≤ 1024
  errors : stats.effectiveErrorMillis ≤ 1024000
  rate : stats.effectiveErrorRatePpm ≤ 1000000

theorem effectiveRatePpm_le {millis sessions : Nat} (errors : millis ≤ 1000 * sessions) :
    effectiveRatePpm millis sessions ≤ 1000000 := by
  unfold effectiveRatePpm
  split
  · omega
  · rename_i some
    have rate : millis * 1000 / sessions ≤ 1000000 := by
      rw [Nat.div_le_iff_le_mul (Nat.pos_of_ne_zero some)]
      omega
    unfold saturateU32
    split <;> omega

theorem finish_modest {stats : MatrixNodeStatsAccumulator} (tallied : Tallied stats) (few : stats.sessionCount ≤ 1024)
    (groupId nodeId nodeFingerprint : String) : Modest (stats.finish groupId nodeId nodeFingerprint) := by
  obtain ⟨succeeded,active,errors⟩ := tallied
  exact ⟨few,Nat.le_trans succeeded few,Nat.le_trans active few,by simp only [MatrixNodeStatsAccumulator.finish]; omega,
    effectiveRatePpm_le errors⟩

section Tables
variable {κ : Type} [DecidableEq κ]

theorem listed_countP_le (keys : TrafficSession → List κ) (sessions : List TrafficSession) (key : κ)
    (once : ∀ session ∈ sessions, (keys session).Nodup) :
    (sessions.flatMap fun session => (keys session).map (·,session)).countP (fun entry => entry.1 = key) ≤ sessions.length := by
  induction sessions with
  | nil => simp
  | cons session rest ih =>
    obtain ⟨first,once⟩ := List.forall_mem_cons.mp once
    have here : ((keys session).map (·,session)).countP (fun entry => entry.1 = key) ≤ 1 := by
      rw [List.countP_map]
      have counted := List.nodup_iff_count_le_one.mp first key
      rw [List.count_eq_countP] at counted
      simpa [Function.comp_def,beq_eq_decide] using counted
    rw [List.flatMap_cons,List.countP_append,List.length_cons]
    have later := ih once
    omega

variable [Ord κ] [Std.TransOrd κ] [Std.LawfulEqOrd κ]

theorem accumulate_modest {entries : List (κ × TrafficSession)} {key : κ} {stats : MatrixNodeStatsAccumulator}
    (few : entries.countP (fun entry => entry.1 = key) ≤ 1024) (found : (accumulate entries)[key]? = some stats)
    (groupId nodeId nodeFingerprint : String) : Modest (stats.finish groupId nodeId nodeFingerprint) := by
  have counted := accumulate_count entries key
  rw [found] at counted
  rw [accumulate_lookup] at found
  split at found
  · obtain rfl := Option.some.inj found
    refine finish_modest (records_tallied _ ⟨Nat.le_refl _,Nat.le_refl _,Nat.zero_le _⟩) ?_ _ _ _
    simp only [Option.map_some,Option.getD_some] at counted
    omega
  · cases found

end Tables

/-- The scoreboard that the sessions of a store give a group. -/
def sessionBoard (context : SelectionContext) (groupId : GroupId) (thresholds : GroupThresholds)
    (sessions : List TrafficSession) (fingerprintsByNode : Std.ExtTreeMap String String) : Scoreboard where
  context := context
  groupId := groupId
  thresholds := thresholds
  nodeStats := nodeStatsFromSessions sessions fingerprintsByNode
  targetStats := targetStatsFromSessions sessions fingerprintsByNode

def scopedPairs (session : TrafficSession) : List ((String × String) × String × String) :=
  (session.targetScopeOf.map fun scope => ((selectionPairs session).getD []).map (·,scope)).getD []

theorem targetedSessions_eq (sessions : List TrafficSession) :
    targetedSessions sessions = sessions.flatMap fun session => (scopedPairs session).map (·,session) := by
  unfold targetedSessions scopedPairs
  congr 1
  funext session
  cases session.targetScopeOf with
  | none => rfl
  | some scope => simp [Function.comp_def]

section Bounds
variable {context : SelectionContext} {groupId : GroupId} {thresholds : GroupThresholds}
  {sessions : List TrafficSession} {fingerprintsByNode : Std.ExtTreeMap String String}
  (few : sessions.length ≤ 1024) (once : ∀ session ∈ sessions, ((selectionPairs session).getD []).Nodup)
include few once

theorem aggregate_modest {nodeId : NodeId} {stats : MatrixNodeStats}
    (known : (sessionBoard context groupId thresholds sessions fingerprintsByNode).aggregate nodeId = some stats) :
    Modest stats := by
  simp only [Scoreboard.aggregate,sessionBoard,matchingNodeStats_eq] at known
  obtain ⟨counts,found,rfl⟩ := Option.map_eq_some_iff.mp known
  exact accumulate_modest (Nat.le_trans (listed_countP_le _ sessions _ once) few) found _ _ _

theorem target_modest {nodeId : NodeId} {stats : MatrixTargetNodeStats}
    (known : (sessionBoard context groupId thresholds sessions fingerprintsByNode).target nodeId = some stats) :
    Modest stats.toMatrixNodeStats := by
  simp only [Scoreboard.target,sessionBoard,matchingTargetStats_eq] at known
  obtain ⟨counts,found,rfl⟩ := Option.map_eq_some_iff.mp known
  rw [targetedSessions_eq] at found
  refine accumulate_modest (Nat.le_trans (listed_countP_le _ sessions _ ?_) few) found _ _ _
  intro session member
  unfold scopedPairs
  cases session.targetScopeOf with
  | none => exact List.nodup_nil
  | some scope => exact (once session member).map fun left right same => (Prod.mk.inj same).1

end Bounds

theorem latencyPenalty_bounds (value : Option Nat) : 0 ≤ latencyPenalty value ∧ latencyPenalty value ≤ 100000 := by
  have small : min (value.getD 0) 100000 ≤ 100000 := Nat.min_le_right _ _
  rw [latencyPenalty,clampI64_small (by omega)]
  omega

theorem load_bounds {stats : MatrixNodeStats} (modest : Modest stats) : 0 ≤ stats.load ∧ stats.load ≤ 210250240 := by
  obtain ⟨low,high⟩ := latencyPenalty_bounds stats.avgFirstResponseLatencyMs
  obtain ⟨sessions,-,active,-,rate⟩ := modest
  rw [MatrixNodeStats.load,u64Penalty,u64Penalty,clampI64_small (by omega),clampI64_small (by omega)]
  simp only [errorRateWeight,latencyWeight,activeSessionWeight,recentUsageWeight]
  omega

theorem statsPenalty_modest {stats : MatrixNodeStats} (modest : Modest stats) : statsPenalty stats = some stats.load := by
  obtain ⟨low,high⟩ := latencyPenalty_bounds stats.avgFirstResponseLatencyMs
  obtain ⟨sessions,-,active,-,rate⟩ := modest
  unfold statsPenalty MatrixNodeStats.load u64Penalty
  rw [clampI64_small (by omega : stats.activeSessionCount < 2^63),clampI64_small (by omega : stats.sessionCount < 2^63)]
  simp only [errorRateWeight,latencyWeight,activeSessionWeight,recentUsageWeight]
  rw [i64_fits (by omega) (by omega),i64_fits (by omega) (by omega),i64_fits (by omega) (by omega),
    i64_fits (by omega) (by omega),Option.bind_eq_bind,Option.bind_some,Option.bind_some,Option.bind_some,Option.bind_some,
    i64_fits (by omega) (by omega),Option.bind_some,i64_fits (by omega) (by omega),Option.bind_some]
  exact i64_fits (by omega) (by omega)

theorem cooledStats_modest {stats : MatrixNodeStats} (modest : Modest stats) (thresholds : GroupThresholds) :
    ∃ cooled, cooledStats stats thresholds = some cooled := by
  obtain ⟨-,succeeded,-,errors,-⟩ := modest
  have product : saturatingMul stats.successCount 1000 ≤ stats.successCount * 1000 := Nat.min_le_left _ _
  unfold cooledStats
  rw [u64_fits (by omega)]
  exact ⟨_,rfl⟩

theorem charge_fits {due : Bool} {penalty score : Int} (positive : 0 ≤ penalty) (small : penalty ≤ 3000000000000)
    (low : -5000000000000000000 ≤ score) (high : score ≤ 5000000000000) :
    ∃ result, charge due penalty score = some result ∧ score - 3000000000000 ≤ result ∧ result ≤ score := by
  cases due with
  | false => exact ⟨score,rfl,by omega,by omega⟩
  | true => exact ⟨score - penalty,i64_fits (by omega) (by omega),by omega,by omega⟩

theorem chargeEntry_fits {α : Type} {entry : Option α} {stats : α → MatrixNodeStats}
    (modest : ∀ known, entry = some known → Modest (stats known)) (thresholds : GroupThresholds)
    {score : Int} (low : -4900000000000000000 ≤ score) (high : score ≤ 5000000000000) :
    ∃ result, chargeEntry score (entry.map fun known => (statsPenalty (stats known),cooledStats (stats known) thresholds)) =
      some result ∧ score - 4000000000000 ≤ result ∧ result ≤ score := by
  cases entry with
  | none => exact ⟨score,rfl,by omega,by omega⟩
  | some known =>
    obtain ⟨cooled,judged⟩ := cooledStats_modest (modest known rfl) thresholds
    obtain ⟨positive,bounded⟩ := load_bounds (modest known rfl)
    obtain ⟨result,charged,least,most⟩ := @charge_fits cooled cooldownPenalty (score - (stats known).load)
      (by decide) (by decide) (by omega) (by omega)
    refine ⟨result,?_,by omega,by omega⟩
    rw [Option.map_some,chargeEntry,statsPenalty_modest (modest known rfl),judged,Option.bind_eq_bind,Option.bind_some,
      i64_fits (by omega) (by omega),Option.bind_some,Option.bind_eq_bind,Option.bind_some]
    exact charged

theorem score_computed (board : Scoreboard) (candidate : MatrixCandidateInput) {rank : Nat} (near : rank < 100000000)
    (aggregate : ∀ stats, board.aggregate candidate.nodeId = some stats → Modest stats)
    (target : ∀ stats, board.target candidate.nodeId = some stats → Modest stats.toMatrixNodeStats) :
    (board.score candidate rank).isSome := by
  have priority := candidate.priority.toNat_lt
  have place : clampI64 rank = rank := clampI64_small (by omega)
  unfold Scoreboard.score activeScore
  rw [place]
  simp only [priorityWeight,noHistoryScore,historyScore]
  rw [i64_fits (by omega) (by omega),Option.bind_eq_bind,Option.bind_some]
  split
  · rw [i64_fits (by omega) (by omega),Option.bind_some,i64_fits (by omega) (by omega)]
    rfl
  · rw [i64_fits (by omega) (by omega),Option.bind_some,i64_fits (by omega) (by omega),Option.bind_some]
    obtain ⟨afterCap,cap,capLow,capHigh⟩ := @charge_fits
      ((board.aggregate candidate.nodeId).any fun stats => cappedNode stats board.thresholds) concurrencyCapPenalty
      (1000000000000 - candidate.priority.toNat * 1000000000 - rank) (by decide) (by decide) (by omega) (by omega)
    rw [cap,Option.bind_some]
    obtain ⟨afterNode,node,nodeLow,nodeHigh⟩ := @chargeEntry_fits _ _ (fun stats => stats) aggregate board.thresholds afterCap
      (by omega) (by omega)
    obtain ⟨result,last,-,-⟩ := @chargeEntry_fits _ _ MatrixTargetNodeStats.toMatrixNodeStats target board.thresholds afterNode
      (by omega) (by omega)
    have first : chargeEntry afterCap ((board.aggregate candidate.nodeId).map fun stats =>
        (aggregatePenalty stats,cooledNode stats board.thresholds)) = some afterNode := node
    have second : chargeEntry afterNode ((board.target candidate.nodeId).map fun stats =>
        (targetPenalty stats,cooledTarget stats board.thresholds)) = some result := last
    rw [first,Option.bind_some,second]
    rfl

theorem aggregateLoad_bounds {board : Scoreboard} {nodeId : NodeId}
    (aggregate : ∀ stats, board.aggregate nodeId = some stats → Modest stats) :
    0 ≤ ((board.aggregate nodeId).map fun stats => stats.load).getD 0 ∧
      ((board.aggregate nodeId).map fun stats => stats.load).getD 0 ≤ 210250240 := by
  cases known : board.aggregate nodeId with
  | none => simp
  | some stats => exact load_bounds (aggregate stats known)

theorem targetLoad_bounds {board : Scoreboard} {nodeId : NodeId}
    (target : ∀ stats, board.target nodeId = some stats → Modest stats.toMatrixNodeStats) :
    0 ≤ ((board.target nodeId).map fun stats => stats.toMatrixNodeStats.load).getD 0 ∧
      ((board.target nodeId).map fun stats => stats.toMatrixNodeStats.load).getD 0 ≤ 210250240 := by
  cases known : board.target nodeId with
  | none => simp
  | some stats => exact load_bounds (target stats known)

/-- Beyond its priority, rank and load take less than one step of priority. -/
theorem drag_bounds {board : Scoreboard} (candidate : MatrixCandidateInput) {rank : Nat} (near : rank < 100000000)
    (aggregate : ∀ stats, board.aggregate candidate.nodeId = some stats → Modest stats)
    (target : ∀ stats, board.target candidate.nodeId = some stats → Modest stats.toMatrixNodeStats) :
    candidate.priority.toNat * priorityWeight ≤ board.drag candidate rank ∧
      board.drag candidate rank < (candidate.priority.toNat + 1) * priorityWeight := by
  obtain ⟨low,high⟩ := aggregateLoad_bounds aggregate
  obtain ⟨low',high'⟩ := targetLoad_bounds target
  rw [Scoreboard.drag,clampI64_small (by omega)]
  simp only [priorityWeight]
  omega

theorem burden_bounds (board : Scoreboard) {nodeId : NodeId} :
    0 ≤ board.burden nodeId ∧ (board.healthy nodeId = false → cooldownPenalty ≤ board.burden nodeId) := by
  unfold Scoreboard.burden Scoreboard.healthy
  cases board.capped nodeId <;> cases board.cooledByNode nodeId <;> cases board.cooledByTarget nodeId <;> decide

/-- What the scoring is meant to put first. -/
inductive Scoreboard.Prefers (board : Scoreboard) (first second : MatrixCandidateInput) : Prop where
  | fresh : first.priority = second.priority → board.fresh first.nodeId = true → board.fresh second.nodeId = false →
      Prefers board first second
  | healthy : first.priority = second.priority → board.healthy first.nodeId = true →
      board.healthy second.nodeId = false → Prefers board first second
  | priority : first.priority < second.priority → board.healthy first.nodeId = true → board.healthy second.nodeId = true →
      board.fresh first.nodeId = false → board.fresh second.nodeId = false → Prefers board first second

theorem healthy_of_fresh {board : Scoreboard} {nodeId : NodeId} (fresh : board.fresh nodeId = true) :
    board.healthy nodeId = true := by
  obtain ⟨target,aggregate⟩ := Bool.and_eq_true_iff.mp fresh
  simp [Scoreboard.healthy,Scoreboard.capped,Scoreboard.cooledByNode,Scoreboard.cooledByTarget,
    Option.isNone_iff_eq_none.mp target,Option.isNone_iff_eq_none.mp aggregate]

/-- Statistics of at most 1024 sessions: every score is computed, the candidate returned
has the greatest one, the smallest id where several have it, and what the scoring is
meant to put first has the greater score. -/
theorem active_selection_law (context : SelectionContext) (groupId : GroupId) (thresholds : GroupThresholds)
    (sessions : List TrafficSession) (fingerprintsByNode : Std.ExtTreeMap String String)
    (candidates : List MatrixCandidateInput) (rollout : activeRolloutGroup groupId = true)
    (short : candidates.length < 100000000) (few : sessions.length ≤ 1024)
    (once : ∀ session ∈ sessions, ((selectionPairs session).getD []).Nodup) :
    let board := sessionBoard context groupId thresholds sessions fingerprintsByNode
    (∃ answer, board.selectActiveCandidate candidates = some answer ∧ (answer = none ↔ candidates = [])) ∧
    (∀ nodeId, board.selectActiveCandidate candidates = some (some nodeId) →
      ∃ (rank : Nat) (candidate : MatrixCandidateInput) (score : Int), candidates[rank]? = some candidate ∧
        candidate.nodeId = nodeId ∧ board.score candidate rank = some score ∧
        ∀ (otherRank : Nat) (other : MatrixCandidateInput), candidates[otherRank]? = some other →
          ∃ otherScore, board.score other otherRank = some otherScore ∧
            (otherScore < score ∨ otherScore = score ∧ (compare nodeId other.nodeId).isLE)) ∧
    ∀ (rank otherRank : Nat) (candidate other : MatrixCandidateInput), candidates[rank]? = some candidate →
      candidates[otherRank]? = some other → board.Prefers candidate other →
        ∃ score otherScore, board.score candidate rank = some score ∧ board.score other otherRank = some otherScore ∧
          otherScore < score := by
  intro board
  have aggregate (nodeId : NodeId) (stats : MatrixNodeStats) (known : board.aggregate nodeId = some stats) : Modest stats :=
    aggregate_modest few once known
  have target (nodeId : NodeId) (stats : MatrixTargetNodeStats) (known : board.target nodeId = some stats) :
      Modest stats.toMatrixNodeStats := target_modest few once known
  have near {rank : Nat} {candidate : MatrixCandidateInput} (listed : candidates[rank]? = some candidate) :
      rank < 100000000 := by
    obtain ⟨inside,-⟩ := List.getElem?_eq_some_iff.mp listed
    omega
  have computed (rank : Nat) (candidate : MatrixCandidateInput) (listed : candidates[rank]? = some candidate) :
      (board.score candidate rank).isSome :=
    score_computed board candidate (near listed) (aggregate candidate.nodeId) (target candidate.nodeId)
  refine ⟨Scoreboard.select_computed rollout computed,fun nodeId chosen => Scoreboard.select_some chosen,?_⟩
  intro rank otherRank candidate other listed otherListed preferred
  obtain ⟨score,known⟩ := Option.isSome_iff_exists.mp (computed rank candidate listed)
  obtain ⟨otherScore,otherKnown⟩ := Option.isSome_iff_exists.mp (computed otherRank other otherListed)
  refine ⟨score,otherScore,known,otherKnown,?_⟩
  have value := board.score_value known
  have otherValue := board.score_value otherKnown
  obtain ⟨-,light⟩ := drag_bounds candidate (near listed) (aggregate candidate.nodeId) (target candidate.nodeId)
  obtain ⟨heavy,-⟩ := drag_bounds other (near otherListed) (aggregate other.nodeId) (target other.nodeId)
  obtain ⟨otherBurden,strained⟩ := @burden_bounds board other.nodeId
  simp only [priorityWeight] at light heavy
  cases preferred with
  | fresh same fresh known =>
    rw [board.burden_healthy (healthy_of_fresh fresh),Scoreboard.start,if_pos fresh] at value
    rw [Scoreboard.start,known] at otherValue
    rw [same] at light
    simp only [noHistoryScore,historyScore,Bool.false_eq_true,if_false] at value otherValue
    omega
  | healthy same healthy unhealthy =>
    have cooled := strained unhealthy
    have start : historyScore ≤ board.start candidate.nodeId := by
      unfold Scoreboard.start
      split <;> decide
    have known : board.fresh other.nodeId = false := by
      by_contra fresh
      rw [healthy_of_fresh (by simpa using fresh)] at unhealthy
      cases unhealthy
    rw [board.burden_healthy healthy] at value
    rw [Scoreboard.start,known] at otherValue
    rw [same] at light
    simp only [historyScore,cooldownPenalty,Bool.false_eq_true,if_false] at start cooled otherValue
    omega
  | priority less healthy otherHealthy known otherKnown =>
    have step := UInt32.lt_iff_toNat_lt.mp less
    rw [board.burden_healthy healthy,Scoreboard.start,known] at value
    rw [board.burden_healthy otherHealthy,Scoreboard.start,otherKnown] at otherValue
    omega

def openSession : TrafficSession where
  sessionKey := "tcp:1:1"
  sessionId := 1
  decisionId := some 1
  configGeneration := none
  inbound := "tcp"
  nodeProtocol := none
  peer := none
  target := none
  targetIp := some "140.82.112.4"
  targetPort := none
  targetDomain := some "github.com"
  targetSource := none
  upstream := none
  selectionGroups := some "GitHub"
  selectionNodes := some "airport-primary"
  selectionTrace := none
  startedAtUnixMs := 1
  closedAtUnixMs := none
  durationMs := none
  closeReason := none
  errorStage := none
  errorCode := none
  errorClass := none
  errorSide := none
  errorPhase := none
  errorProtocolPhase := none
  errorScoreImpact := none
  error := none
  clientToUpstreamBytes := 0
  upstreamToClientBytes := 0
  clientToUpstreamDatagrams := 0
  upstreamToClientDatagrams := 0
  firstUpstreamAtUnixMs := none
  firstDownstreamAtUnixMs := none
  firstResponseLatencyMs := none
  lastObservedAtUnixMs := 1

theorem open_session_selection : ∃ answer,
    (sessionBoard busyPrimary.context ⟨"GitHub"⟩ .default [openSession] ∅).selectActiveCandidate (backupAt 1) = some answer ∧
      (answer = none ↔ backupAt 1 = []) :=
  (active_selection_law busyPrimary.context ⟨"GitHub"⟩ .default [openSession] ∅ (backupAt 1) (by decide) (by decide)
    (by decide) (by decide)).1

end Dynet.Runtime
