import Dynet.Lib.Checked
import Dynet.Runtime.MatrixStats

/-! Scoring of the candidates of a rollout group. Every operation on `i64` and `u64` is
checked, and a score that overflows is no score. -/
namespace Dynet.Runtime
open Dynet.Lib.Checked

def priorityWeight : Int := 1000000000
def noHistoryScore : Int := 4000000000000
def historyScore : Int := 1000000000000
def cooldownPenalty : Int := 2000000000000
def concurrencyCapPenalty : Int := 3000000000000
def errorRateWeight : Int := 100
def latencyWeight : Int := 1000
def activeSessionWeight : Int := 10000
def recentUsageWeight : Int := 10

def activeRolloutGroup (groupId : GroupId) : Bool :=
  groupId.value = "GitHub" || groupId.value = "Common" || groupId.value = "Tunnel"

def latencyPenalty (value : Option Nat) : Int := clampI64 (min (value.getD 0) 100000)

def u64Penalty (value : Nat) : Int := clampI64 value

-- One body for the two penalties, whose weights are the same.
def statsPenalty (stats : MatrixNodeStats) : Option Int := do
  let errors ← i64 (stats.effectiveErrorRatePpm * errorRateWeight)
  let latency ← i64 (latencyPenalty stats.avgFirstResponseLatencyMs * latencyWeight)
  let active ← i64 (u64Penalty stats.activeSessionCount * activeSessionWeight)
  let usage ← i64 (u64Penalty stats.sessionCount * recentUsageWeight)
  let sum ← i64 (errors + latency)
  let sum ← i64 (sum + active)
  i64 (sum + usage)

def aggregatePenalty (stats : MatrixNodeStats) : Option Int := statsPenalty stats

def targetPenalty (stats : MatrixTargetNodeStats) : Option Int := statsPenalty stats.toMatrixNodeStats

def weightedSuccessRatePpm (success completedMillis : Nat) : Nat :=
  if completedMillis = 0 then 0 else saturateU32 (success * 1000000000 / completedMillis)

def cooledStats (stats : MatrixNodeStats) (thresholds : GroupThresholds) : Option Bool := do
  let completedMillis ← u64 (saturatingMul stats.successCount 1000 + stats.effectiveErrorMillis)
  return saturatingMul thresholds.minSamples.toNat 1000 ≤ completedMillis &&
    weightedSuccessRatePpm stats.successCount completedMillis < thresholds.minSuccessRatePpm.toNat

def cooledNode (stats : MatrixNodeStats) (thresholds : GroupThresholds) : Option Bool := cooledStats stats thresholds

def cooledTarget (stats : MatrixTargetNodeStats) (thresholds : GroupThresholds) : Option Bool :=
  cooledStats stats.toMatrixNodeStats thresholds

def charge (due : Bool) (penalty score : Int) : Option Int := if due then i64 (score - penalty) else some score

/-- What a table's entry takes: its penalty, and the cooldown when it is cooled. -/
def chargeEntry (score : Int) : Option (Option Int × Option Bool) → Option Int
  | none => some score
  | some (penalty,cooled) => do
    let score ← i64 (score - (← penalty))
    charge (← cooled) cooldownPenalty score

def activeScore (priority : UInt32) (rank : Nat) (thresholds : GroupThresholds)
    (target : Option MatrixTargetNodeStats) (aggregate : Option MatrixNodeStats) : Option Int := do
  let weighted ← i64 (priority.toNat * priorityWeight)
  if target.isNone && aggregate.isNone then
    let score ← i64 (noHistoryScore - weighted)
    i64 (score - clampI64 rank)
  else
    let score ← i64 (historyScore - weighted)
    let score ← i64 (score - clampI64 rank)
    let score ← charge (aggregate.any fun stats => cappedNode stats thresholds) concurrencyCapPenalty score
    let score ← chargeEntry score (aggregate.map fun stats => (aggregatePenalty stats,cooledNode stats thresholds))
    chargeEntry score (target.map fun stats => (targetPenalty stats,cooledTarget stats thresholds))

/-- The comparison of `max_by`: by score, then against the order of ids. -/
def byScore : NodeId × Int → NodeId × Int → Ordering :=
  compareLex (compareOn Prod.snd) fun left right => compareOn Prod.fst right left

instance : Std.TransCmp byScore := inferInstanceAs (Std.TransCmp (compareLex _ _))

/-- What the selection of a group reads: the group's thresholds and two tables. -/
structure Scoreboard where
  context : SelectionContext
  groupId : GroupId
  thresholds : GroupThresholds
  nodeStats : List MatrixNodeStats
  targetStats : List MatrixTargetNodeStats

namespace Scoreboard
variable (board : Scoreboard)

def target (nodeId : NodeId) : Option MatrixTargetNodeStats :=
  matchingTargetStats board.context board.groupId.value nodeId.value board.targetStats

def aggregate (nodeId : NodeId) : Option MatrixNodeStats :=
  matchingNodeStats board.groupId.value nodeId.value board.nodeStats

def score (candidate : MatrixCandidateInput) (rank : Nat) : Option Int :=
  activeScore candidate.priority rank board.thresholds (board.target candidate.nodeId) (board.aggregate candidate.nodeId)

/-- `select_active_candidate`; no answer when a score overflows. -/
def selectActiveCandidate (candidates : List MatrixCandidateInput) : Option (Option NodeId) :=
  if !activeRolloutGroup board.groupId then some none
  else do
    let scored ← candidates.zipIdx.mapM fun (candidate,rank) => (board.score candidate rank).map (candidate.nodeId,·)
    return (maxBy byScore scored).map Prod.fst

def fresh (nodeId : NodeId) : Bool := (board.target nodeId).isNone && (board.aggregate nodeId).isNone

def capped (nodeId : NodeId) : Bool := (board.aggregate nodeId).any fun stats => cappedNode stats board.thresholds

def cooledByNode (nodeId : NodeId) : Bool :=
  (board.aggregate nodeId).any fun stats => cooledNode stats board.thresholds = some true

def cooledByTarget (nodeId : NodeId) : Bool :=
  (board.target nodeId).any fun stats => cooledTarget stats board.thresholds = some true

def healthy (nodeId : NodeId) : Bool :=
  !board.capped nodeId && !board.cooledByNode nodeId && !board.cooledByTarget nodeId

end Scoreboard

/-- The penalty without bounds on its numbers. -/
def MatrixNodeStats.load (stats : MatrixNodeStats) : Int :=
  stats.effectiveErrorRatePpm * errorRateWeight + latencyPenalty stats.avgFirstResponseLatencyMs * latencyWeight +
    u64Penalty stats.activeSessionCount * activeSessionWeight + u64Penalty stats.sessionCount * recentUsageWeight

theorem statsPenalty_value {stats : MatrixNodeStats} {penalty : Int} (computed : statsPenalty stats = some penalty) :
    penalty = stats.load := by
  simp only [statsPenalty,Option.bind_eq_bind,Option.bind_eq_some_iff] at computed
  obtain ⟨errors,fit₁,latency,fit₂,active,fit₃,usage,fit₄,sum,fit₅,most,fit₆,fit₇⟩ := computed
  rw [i64_value fit₇,i64_value fit₆,i64_value fit₅,i64_value fit₄,i64_value fit₃,i64_value fit₂,i64_value fit₁]
  rfl

namespace Scoreboard
variable (board : Scoreboard)

/-- What priority, rank and load take from a score. -/
def drag (candidate : MatrixCandidateInput) (rank : Nat) : Int :=
  candidate.priority.toNat * priorityWeight + clampI64 rank +
    ((board.aggregate candidate.nodeId).map fun stats => stats.load).getD 0 +
    ((board.target candidate.nodeId).map fun stats => stats.toMatrixNodeStats.load).getD 0

/-- What the cap and the cooldowns take from a score. -/
def burden (nodeId : NodeId) : Int :=
  (if board.capped nodeId then concurrencyCapPenalty else 0) +
    (if board.cooledByNode nodeId then cooldownPenalty else 0) +
    (if board.cooledByTarget nodeId then cooldownPenalty else 0)

def start (nodeId : NodeId) : Int := if board.fresh nodeId then noHistoryScore else historyScore

theorem charge_value {due : Bool} {penalty score result : Int} (computed : charge due penalty score = some result) :
    result = score - if due then penalty else 0 := by
  cases due with
  | false => simpa [charge] using computed.symm
  | true =>
    simp only [charge,if_true] at computed ⊢
    exact i64_value computed

theorem chargeEntry_value {α : Type} {entry : Option α} {stats : α → MatrixNodeStats} {cooled : α → Option Bool}
    {score result : Int}
    (computed : chargeEntry score (entry.map fun known => (statsPenalty (stats known),cooled known)) = some result) :
    result = score - (entry.map fun known => (stats known).load).getD 0 -
      if entry.any fun known => cooled known = some true then cooldownPenalty else 0 := by
  cases entry with
  | none => simpa [chargeEntry] using computed.symm
  | some known =>
    rw [Option.map_some,chargeEntry] at computed
    obtain ⟨penalty,paid,computed⟩ := Option.bind_eq_some_iff.mp computed
    obtain ⟨lower,fit,computed⟩ := Option.bind_eq_some_iff.mp computed
    obtain ⟨cool,judged,computed⟩ := Option.bind_eq_some_iff.mp computed
    rw [charge_value computed,i64_value fit,statsPenalty_value paid]
    simp [judged]

theorem score_value {candidate : MatrixCandidateInput} {rank : Nat} {score : Int}
    (computed : board.score candidate rank = some score) :
    score = board.start candidate.nodeId - board.drag candidate rank - board.burden candidate.nodeId := by
  unfold Scoreboard.score activeScore at computed
  obtain ⟨weighted,fit,computed⟩ := Option.bind_eq_some_iff.mp computed
  have weight := i64_value fit
  unfold start fresh drag burden capped cooledByNode cooledByTarget
  split at computed
  · rename_i none
    rw [if_pos none]
    obtain ⟨without,without'⟩ := Bool.and_eq_true_iff.mp none
    obtain ⟨sum,fit₁,fit₂⟩ := Option.bind_eq_some_iff.mp computed
    rw [i64_value fit₂,i64_value fit₁,weight,Option.isNone_iff_eq_none.mp without,Option.isNone_iff_eq_none.mp without']
    simp
    omega
  · rename_i some
    rw [if_neg some]
    obtain ⟨first,fit₁,computed⟩ := Option.bind_eq_some_iff.mp computed
    obtain ⟨second,fit₂,computed⟩ := Option.bind_eq_some_iff.mp computed
    obtain ⟨third,cap,computed⟩ := Option.bind_eq_some_iff.mp computed
    obtain ⟨fourth,node,target⟩ := Option.bind_eq_some_iff.mp computed
    rw [chargeEntry_value target,chargeEntry_value node,charge_value cap,i64_value fit₂,i64_value fit₁,weight]
    omega

theorem byScore_isLE_iff (left right : NodeId × Int) :
    (byScore left right).isLE ↔ left.2 < right.2 ∨ left.2 = right.2 ∧ (compare right.1 left.1).isLE := by
  simp only [byScore,compareLex,compareOn]
  cases scores : compare left.2 right.2 with
  | lt => exact iff_of_true (by simp) (.inl (Int.compare_eq_lt.mp scores))
  | eq =>
    have same := Std.LawfulEqOrd.eq_of_compare scores
    simp [same]
  | gt =>
    have above : right.2 < left.2 := Int.compare_eq_gt.mp scores
    simp
    omega

/-- The candidate that is returned, and what its score is worth against every other. -/
theorem select_some {board : Scoreboard} {candidates : List MatrixCandidateInput} {nodeId : NodeId}
    (chosen : board.selectActiveCandidate candidates = some (some nodeId)) :
    ∃ (rank : Nat) (candidate : MatrixCandidateInput) (score : Int), candidates[rank]? = some candidate ∧
      candidate.nodeId = nodeId ∧ board.score candidate rank = some score ∧
      ∀ (otherRank : Nat) (other : MatrixCandidateInput), candidates[otherRank]? = some other →
        ∃ otherScore, board.score other otherRank = some otherScore ∧
          (otherScore < score ∨ otherScore = score ∧ (compare nodeId other.nodeId).isLE) := by
  unfold selectActiveCandidate at chosen
  split at chosen
  · cases chosen
  · obtain ⟨scored,mapped,chosen⟩ := Option.bind_eq_some_iff.mp chosen
    obtain ⟨⟨bestId,bestScore⟩,found,rfl⟩ := Option.map_eq_some_iff.mp (Option.some.inj chosen)
    obtain ⟨member,greatest⟩ := maxBy_greatest found
    obtain ⟨⟨candidate,rank⟩,listed,best⟩ := (mem_mapM mapped _).mp member
    obtain ⟨score,computed,same⟩ := Option.map_eq_some_iff.mp best
    cases same
    refine ⟨rank,candidate,bestScore,List.mk_mem_zipIdx_iff_getElem?.mp listed,rfl,computed,?_⟩
    intro otherRank other otherListed
    have inside : (other,otherRank) ∈ candidates.zipIdx := List.mk_mem_zipIdx_iff_getElem?.mpr otherListed
    have computes := (mapM_isSome_iff _ _).mp (Option.isSome_of_eq_some mapped) _ inside
    rw [Option.isSome_map] at computes
    obtain ⟨otherScore,otherComputed⟩ := Option.isSome_iff_exists.mp computes
    have otherMember : (other.nodeId,otherScore) ∈ scored :=
      (mem_mapM mapped _).mpr ⟨_,inside,by simp [otherComputed]⟩
    exact ⟨otherScore,otherComputed,(byScore_isLE_iff _ _).mp (greatest _ otherMember)⟩

theorem select_computed {board : Scoreboard} (rollout : activeRolloutGroup board.groupId = true)
    {candidates : List MatrixCandidateInput}
    (computed : ∀ (rank : Nat) (candidate : MatrixCandidateInput), candidates[rank]? = some candidate →
      (board.score candidate rank).isSome) :
    ∃ answer, board.selectActiveCandidate candidates = some answer ∧ (answer = none ↔ candidates = []) := by
  have mapped : (candidates.zipIdx.mapM fun (candidate,rank) =>
      (board.score candidate rank).map (candidate.nodeId,·)).isSome := by
    rw [mapM_isSome_iff]
    rintro ⟨candidate,rank⟩ member
    rw [Option.isSome_map]
    exact computed rank candidate (List.mk_mem_zipIdx_iff_getElem?.mp member)
  obtain ⟨scored,mapped⟩ := Option.isSome_iff_exists.mp mapped
  refine ⟨(maxBy byScore scored).map Prod.fst,?_,?_⟩
  · simp only [selectActiveCandidate,rollout,Bool.not_true,Bool.false_eq_true,if_false,mapped]
    rfl
  · rw [Option.map_eq_none_iff,← Option.not_isSome_iff_eq_none,maxBy_isSome_iff,not_not,
      ← List.length_eq_zero_iff,mapM_length mapped,List.length_zipIdx,List.length_eq_zero_iff]

/-- A candidate comes before another when priority, rank and load do not cost it more
than history, cap and cooldowns cost the other; where the scores agree the ids decide. -/
def Outweighs (candidate : MatrixCandidateInput) (rank : Nat) (other : MatrixCandidateInput) (otherRank : Nat) : Prop :=
  let behind := board.drag candidate rank - board.drag other otherRank
  let relief := board.start candidate.nodeId - board.start other.nodeId + board.burden other.nodeId
  behind < relief ∨ behind = relief ∧ compare candidate.nodeId other.nodeId = .lt

theorem burden_healthy {nodeId : NodeId} (healthy : board.healthy nodeId = true) : board.burden nodeId = 0 := by
  simp only [Scoreboard.healthy,Bool.and_eq_true,Bool.not_eq_true'] at healthy
  obtain ⟨⟨room,calm⟩,calm'⟩ := healthy
  simp [burden,room,calm,calm']

end Scoreboard

/-- Only candidates that are neither capped nor cooled are returned exactly when a score
overflows (and nothing is returned) or every other candidate is outweighed by one of them. -/
theorem healthy_selected_iff (board : Scoreboard) (candidates : List MatrixCandidateInput)
    (rollout : activeRolloutGroup board.groupId = true) :
    (∀ nodeId, board.selectActiveCandidate candidates = some (some nodeId) → board.healthy nodeId = true) ↔
      (∃ (rank : Nat) (candidate : MatrixCandidateInput),
        candidates[rank]? = some candidate ∧ board.score candidate rank = none) ∨
      ∀ (rank : Nat) (candidate : MatrixCandidateInput), candidates[rank]? = some candidate →
        board.healthy candidate.nodeId = false →
          ∃ (freeRank : Nat) (free : MatrixCandidateInput), candidates[freeRank]? = some free ∧
            board.healthy free.nodeId = true ∧ board.Outweighs free freeRank candidate rank := by
  constructor
  · intro respected
    by_cases overflow : ∃ (rank : Nat) (candidate : MatrixCandidateInput),
        candidates[rank]? = some candidate ∧ board.score candidate rank = none
    · exact .inl overflow
    · refine .inr ?_
      intro rank candidate listed strained
      have computed : ∀ (rank : Nat) (candidate : MatrixCandidateInput), candidates[rank]? = some candidate →
          (board.score candidate rank).isSome := by
        intro rank candidate listed
        cases known : board.score candidate rank with
        | none => exact absurd ⟨rank,candidate,listed,known⟩ overflow
        | some score => rfl
      obtain ⟨answer,selected,empty⟩ := Scoreboard.select_computed rollout computed
      cases answer with
      | none =>
        rw [empty.mp rfl] at listed
        simp at listed
      | some nodeId =>
        have free := respected nodeId selected
        obtain ⟨freeRank,winner,score,winnerListed,rfl,winnerScore,best⟩ := Scoreboard.select_some selected
        obtain ⟨otherScore,otherComputed,order⟩ := best rank candidate listed
        refine ⟨freeRank,winner,winnerListed,free,?_⟩
        have winnerValue := board.score_value winnerScore
        have otherValue := board.score_value otherComputed
        rw [board.burden_healthy free] at winnerValue
        obtain less | ⟨same,order⟩ := order
        · exact .inl (by omega)
        · refine .inr ⟨by omega,?_⟩
          cases ids : compare winner.nodeId candidate.nodeId with
          | lt => rfl
          | eq =>
            rw [Std.LawfulEqOrd.eq_of_compare ids,strained] at free
            cases free
          | gt => simp [ids] at order
  · rintro (⟨rank,candidate,listed,overflow⟩ | outweighed) nodeId selected
    · obtain ⟨_,_,_,-,-,-,best⟩ := Scoreboard.select_some selected
      obtain ⟨score,computed,-⟩ := best rank candidate listed
      rw [overflow] at computed
      cases computed
    · obtain ⟨rank,winner,score,listed,rfl,winnerScore,best⟩ := Scoreboard.select_some selected
      by_contra strained
      obtain ⟨freeRank,other,otherListed,free,order⟩ := outweighed rank winner listed (by simpa using strained)
      obtain ⟨otherScore,otherComputed,against⟩ := best freeRank other otherListed
      have winnerValue := board.score_value winnerScore
      have otherValue := board.score_value otherComputed
      rw [board.burden_healthy free] at otherValue
      obtain less | ⟨same,first⟩ := order
      · omega
      · obtain worse | ⟨-,second⟩ := against
        · omega
        · rw [@Std.OrientedCmp.eq_swap _ compare,first] at second
          cases second

theorem caps_respected_iff (board : Scoreboard) (candidates : List MatrixCandidateInput)
    (rollout : activeRolloutGroup board.groupId = true) :
    ((∃ candidate ∈ candidates, board.healthy candidate.nodeId = true) →
      ∀ nodeId, board.selectActiveCandidate candidates = some (some nodeId) → board.healthy nodeId = true) ↔
    ((∃ candidate ∈ candidates, board.healthy candidate.nodeId = true) →
      (∃ (rank : Nat) (candidate : MatrixCandidateInput),
        candidates[rank]? = some candidate ∧ board.score candidate rank = none) ∨
      ∀ (rank : Nat) (candidate : MatrixCandidateInput), candidates[rank]? = some candidate →
        board.healthy candidate.nodeId = false →
          ∃ (freeRank : Nat) (free : MatrixCandidateInput), candidates[freeRank]? = some free ∧
            board.healthy free.nodeId = true ∧ board.Outweighs free freeRank candidate rank) :=
  imp_congr_right fun _ => healthy_selected_iff board candidates rollout

/-- One active session on `airport-primary`, whose group allows one. -/
def busyPrimary : Scoreboard where
  context := ⟨2,.tcp,⟨.v4 0x8c527004 443,some "github.com",.fixedUpstream⟩⟩
  groupId := ⟨"GitHub"⟩
  thresholds := {GroupThresholds.default with maxActiveSessions := some 1}
  nodeStats := [⟨"GitHub","airport-primary","node-id:airport-primary",1,0,0,0,0,1,0,0,none,0,0,0,0,1⟩]
  targetStats := []

def backupAt (priority : UInt32) : List MatrixCandidateInput :=
  [⟨⟨"airport-primary"⟩,0⟩,⟨⟨"airport-backup"⟩,priority⟩]

theorem near_backup_selected : busyPrimary.selectActiveCandidate (backupAt 1) = some (some ⟨"airport-backup"⟩) ∧
    busyPrimary.healthy ⟨"airport-backup"⟩ = true := by
  have selected : busyPrimary.selectActiveCandidate (backupAt 1) = some (some ⟨"airport-backup"⟩) := by decide
  refine ⟨selected,(caps_respected_iff busyPrimary (backupAt 1) (by decide)).mpr ?_ ⟨⟨⟨"airport-backup"⟩,1⟩,by decide,by decide⟩ _ selected⟩
  refine fun _ => .inr fun rank candidate listed strained => ⟨1,⟨⟨"airport-backup"⟩,1⟩,rfl,by decide,?_⟩
  match rank with
  | 0 =>
    cases listed
    exact .inl (by decide)
  | 1 =>
    cases listed
    exact absurd strained (by decide)
  | _+2 => cases listed

/-- Far enough down the list an idle node never takes over from one at its cap. -/
theorem capped_selected : (∃ candidate ∈ backupAt 10000, busyPrimary.healthy candidate.nodeId = true) ∧
    busyPrimary.selectActiveCandidate (backupAt 10000) = some (some ⟨"airport-primary"⟩) ∧
    busyPrimary.healthy ⟨"airport-primary"⟩ = false := by
  refine ⟨⟨⟨⟨"airport-backup"⟩,10000⟩,by decide,by decide⟩,by decide,by decide⟩

end Dynet.Runtime
