import Dynet.Runtime.Event
import Dynet.Runtime.Stores

/-! Statistics of the selection matrix, recomputed from the retained sessions: one
accumulator for each group and node a session was selected through, and the lookups
that scoring makes into them. -/
namespace Dynet.Runtime
open Dynet.Lib Dynet.Lib.Text

instance pairOrd {α β : Type} [Ord α] [Ord β] : Ord (α × β) := lexOrd

structure MatrixNodeStats where
  groupId : String
  nodeId : String
  nodeFingerprint : String
  sessionCount : Nat
  successCount : Nat
  errorCount : Nat
  effectiveErrorCount : Nat
  effectiveErrorMillis : Nat
  activeSessionCount : Nat
  errorRatePpm : Nat
  effectiveErrorRatePpm : Nat
  avgFirstResponseLatencyMs : Option Nat
  clientToUpstreamBytes : Nat
  upstreamToClientBytes : Nat
  clientToUpstreamDatagrams : Nat
  upstreamToClientDatagrams : Nat
  lastObservedAtUnixMs : Nat
  deriving DecidableEq, Repr

structure MatrixTargetNodeStats extends MatrixNodeStats where
  targetScope : String
  targetValue : String
  deriving DecidableEq, Repr

-- The counters count retained sessions; the sums of `u64` values wrap.
structure MatrixNodeStatsAccumulator where
  sessionCount : Nat
  successCount : Nat
  errorCount : Nat
  effectiveErrorMillis : Nat
  activeSessionCount : Nat
  firstResponseLatencyTotalMs : Nat
  firstResponseLatencyCount : Nat
  clientToUpstreamBytes : Nat
  upstreamToClientBytes : Nat
  clientToUpstreamDatagrams : Nat
  upstreamToClientDatagrams : Nat
  lastObservedAtUnixMs : Nat
  deriving DecidableEq, Repr

def splitList (value : String) : List String :=
  ((split ',' value).map (trim isWhitespace)).filter (· ≠ "")

def pairLists (groups nodes : Option String) : Option (List (String × String)) := do
  let groups := splitList (← groups)
  let nodes := splitList (← nodes)
  guard (¬ (groups = [] ∨ groups.length ≠ nodes.length))
  return groups.zip nodes

def selectionPairs (session : TrafficSession) : Option (List (String × String)) :=
  pairLists session.selectionGroups session.selectionNodes

def TrafficSession.effectiveErrorMillis (session : TrafficSession) : Nat :=
  match session.errorClass with
  | some "client-aborted" => 0
  | some "response-interrupted" => if session.upstreamToClientBytes > 0 then 250 else 750
  | some "no-response-before-first-byte" => 750
  | _ => 1000

theorem effectiveErrorMillis_le (session : TrafficSession) : session.effectiveErrorMillis ≤ 1000 := by
  unfold TrafficSession.effectiveErrorMillis
  split
  · omega
  · split <;> omega
  · omega
  · omega

def millisToCount (value : Nat) : Nat := (value + 999) / 1000

def saturateU32 (value : Nat) : Nat := if value < 2^32 then value else 2^32 - 1

def ratePpm (numerator denominator : Nat) : Nat :=
  if denominator = 0 then 0 else saturateU32 (numerator * 1000000 / denominator)

def effectiveRatePpm (errorMillis sessions : Nat) : Nat :=
  if sessions = 0 then 0 else saturateU32 (errorMillis * 1000 / sessions)

def TrafficSession.active (session : TrafficSession) : Bool :=
  session.error.isNone && session.closedAtUnixMs.isNone

namespace MatrixNodeStatsAccumulator

def zero : MatrixNodeStatsAccumulator := ⟨0,0,0,0,0,0,0,0,0,0,0,0⟩

def record (stats : MatrixNodeStatsAccumulator) (session : TrafficSession) : MatrixNodeStatsAccumulator :=
  let outcome := { stats with sessionCount := stats.sessionCount + 1 }
  let outcome := if session.error.isSome then
      { outcome with
        errorCount := stats.errorCount + 1
        effectiveErrorMillis := stats.effectiveErrorMillis + session.effectiveErrorMillis }
    else if session.closedAtUnixMs.isSome then { outcome with successCount := stats.successCount + 1 }
    else { outcome with activeSessionCount := stats.activeSessionCount + 1 }
  { outcome with
    firstResponseLatencyTotalMs :=
      stats.firstResponseLatencyTotalMs + session.firstResponseLatencyMs.getD 0
    firstResponseLatencyCount :=
      stats.firstResponseLatencyCount + if session.firstResponseLatencyMs.isSome then 1 else 0
    clientToUpstreamBytes := (stats.clientToUpstreamBytes + session.clientToUpstreamBytes) % 2^64
    upstreamToClientBytes := (stats.upstreamToClientBytes + session.upstreamToClientBytes) % 2^64
    clientToUpstreamDatagrams :=
      (stats.clientToUpstreamDatagrams + session.clientToUpstreamDatagrams) % 2^64
    upstreamToClientDatagrams :=
      (stats.upstreamToClientDatagrams + session.upstreamToClientDatagrams) % 2^64
    lastObservedAtUnixMs := max stats.lastObservedAtUnixMs session.lastObservedAtUnixMs }

def finish (stats : MatrixNodeStatsAccumulator) (groupId nodeId nodeFingerprint : String) : MatrixNodeStats where
  groupId := groupId
  nodeId := nodeId
  nodeFingerprint := nodeFingerprint
  sessionCount := stats.sessionCount
  successCount := stats.successCount
  errorCount := stats.errorCount
  effectiveErrorCount := millisToCount stats.effectiveErrorMillis
  effectiveErrorMillis := stats.effectiveErrorMillis
  activeSessionCount := stats.activeSessionCount
  errorRatePpm := ratePpm stats.errorCount stats.sessionCount
  effectiveErrorRatePpm := effectiveRatePpm stats.effectiveErrorMillis stats.sessionCount
  avgFirstResponseLatencyMs := if stats.firstResponseLatencyCount > 0 then
    some (stats.firstResponseLatencyTotalMs / stats.firstResponseLatencyCount) else none
  clientToUpstreamBytes := stats.clientToUpstreamBytes
  upstreamToClientBytes := stats.upstreamToClientBytes
  clientToUpstreamDatagrams := stats.clientToUpstreamDatagrams
  upstreamToClientDatagrams := stats.upstreamToClientDatagrams
  lastObservedAtUnixMs := stats.lastObservedAtUnixMs

def finishTarget (stats : MatrixNodeStatsAccumulator)
    (groupId nodeId nodeFingerprint targetScope targetValue : String) : MatrixTargetNodeStats :=
  { stats.finish groupId nodeId nodeFingerprint with targetScope, targetValue }

end MatrixNodeStatsAccumulator

/-- The accumulators of the sessions listed under each key. -/
def accumulate {κ : Type} [Ord κ] [Std.TransOrd κ] (entries : List (κ × TrafficSession)) :
    Std.ExtTreeMap κ MatrixNodeStatsAccumulator :=
  Maps.tally Prod.fst (fun stats entry => stats.record entry.2) MatrixNodeStatsAccumulator.zero entries ∅

def nodeFingerprint (nodeId : String) (fingerprintsByNode : Std.ExtTreeMap String String) : String :=
  (fingerprintsByNode[nodeId]?.filter (· ≠ "")).getD s!"node-id:{nodeId}"

/-- Every session once for each pair it was selected through, in the order of the
two nested loops. -/
def pairedSessions (sessions : List TrafficSession) : List ((String × String) × TrafficSession) :=
  sessions.flatMap fun session => ((selectionPairs session).getD []).map (·,session)

def nodeStatsFromSessions (sessions : List TrafficSession) (fingerprintsByNode : Std.ExtTreeMap String String) :
    List MatrixNodeStats :=
  (accumulate (pairedSessions sessions)).toList.map fun entry =>
    entry.2.finish entry.1.1 entry.1.2 (nodeFingerprint entry.1.2 fingerprintsByNode)

-- `Some(text.trim()).filter(nonempty)`
def trimmed (text : Option String) : Option String :=
  (text.map (trim isWhitespace)).filter (· ≠ "")

namespace TrafficSession

def targetScopeOf (session : TrafficSession) : Option (String × String) :=
  match trimmed session.targetDomain with
  | some domain => some ("domain",asciiLowercase domain)
  | none => (trimmed session.targetIp).map ("ip",·)

end TrafficSession

def targetedSessions (sessions : List TrafficSession) :
    List (((String × String) × String × String) × TrafficSession) :=
  sessions.flatMap fun session => match session.targetScopeOf with
    | none => []
    | some scope => ((selectionPairs session).getD []).map fun pair => ((pair,scope),session)

def targetStatsFromSessions (sessions : List TrafficSession) (fingerprintsByNode : Std.ExtTreeMap String String) :
    List MatrixTargetNodeStats :=
  (accumulate (targetedSessions sessions)).toList.map fun entry =>
    entry.2.finishTarget entry.1.1.1 entry.1.1.2 (nodeFingerprint entry.1.1.2 fingerprintsByNode)
      entry.1.2.1 entry.1.2.2

def cappedNode (stats : MatrixNodeStats) (thresholds : GroupThresholds) : Bool :=
  thresholds.maxActiveSessions.any fun limit => stats.activeSessionCount ≥ limit.toNat

def TargetContext.scope (target : TargetContext) : String × String :=
  match trimmed target.domain with
  | some domain => ("domain",asciiLowercase domain)
  | none => ("ip",Display.ipAddr target.address.ip)

def matchingTargetStats (context : SelectionContext) (groupId nodeId : String) (stats : List MatrixTargetNodeStats) :
    Option MatrixTargetNodeStats :=
  stats.find? fun stats => stats.groupId = groupId ∧ stats.nodeId = nodeId ∧
    stats.targetScope = context.target.scope.1 ∧ stats.targetValue = context.target.scope.2

def matchingNodeStats (groupId nodeId : String) (stats : List MatrixNodeStats) : Option MatrixNodeStats :=
  stats.find? fun stats => stats.groupId = groupId ∧ stats.nodeId = nodeId

/-- The active sessions that scoring sees under a group and node. -/
def activeSessionCount (stats : List MatrixNodeStats) (groupId nodeId : String) : Nat :=
  ((matchingNodeStats groupId nodeId stats).map (·.activeSessionCount)).getD 0

theorem record_active (stats : MatrixNodeStatsAccumulator) (session : TrafficSession) :
    (stats.record session).activeSessionCount = stats.activeSessionCount + if session.active then 1 else 0 := by
  cases failed : session.error <;> cases closed : session.closedAtUnixMs <;>
    simp [MatrixNodeStatsAccumulator.record,TrafficSession.active,failed,closed]

theorem records_active {κ : Type} (entries : List (κ × TrafficSession)) (stats : MatrixNodeStatsAccumulator) :
    (entries.foldl (fun stats entry => stats.record entry.2) stats).activeSessionCount =
      stats.activeSessionCount + entries.countP (·.2.active) := by
  induction entries generalizing stats with
  | nil => rfl
  | cons entry rest ih =>
    rw [List.foldl_cons,ih,record_active,List.countP_cons]
    omega

section Lookup
variable {κ : Type} [Ord κ] [Std.TransOrd κ] [Std.LawfulEqOrd κ] [DecidableEq κ]

theorem accumulate_lookup (entries : List (κ × TrafficSession)) (key : κ) :
    (accumulate entries)[key]? = if entries.any (·.1 = key) then
      some ((entries.filter (·.1 = key)).foldl (fun stats entry => stats.record entry.2) .zero) else none :=
  Maps.tally_empty_lookup Prod.fst _ _ entries key

omit [Ord κ] [Std.TransOrd κ] [Std.LawfulEqOrd κ] [DecidableEq κ] in
theorem records_count (entries : List (κ × TrafficSession)) (stats : MatrixNodeStatsAccumulator) :
    (entries.foldl (fun stats entry => stats.record entry.2) stats).sessionCount =
      stats.sessionCount + entries.length := by
  induction entries generalizing stats with
  | nil => rfl
  | cons entry rest ih =>
    have one : (stats.record entry.2).sessionCount = stats.sessionCount + 1 := by
      simp only [MatrixNodeStatsAccumulator.record]
      split
      · rfl
      · split <;> rfl
    rw [List.foldl_cons,ih,one,List.length_cons]
    omega

theorem accumulate_count (entries : List (κ × TrafficSession)) (key : κ) :
    ((accumulate entries)[key]?.map (·.sessionCount)).getD 0 = entries.countP fun entry => entry.1 = key := by
  rw [accumulate_lookup]
  split
  · simp [records_count,MatrixNodeStatsAccumulator.zero,List.countP_eq_length_filter]
  · rename_i absent
    simp only [List.any_eq_true,decide_eq_true_eq,not_exists,not_and] at absent
    symm
    simpa [List.countP_eq_zero] using absent

theorem accumulate_active (entries : List (κ × TrafficSession)) (key : κ) :
    ((accumulate entries)[key]?.map (·.activeSessionCount)).getD 0 =
      entries.countP fun entry => entry.2.active && decide (entry.1 = key) := by
  rw [accumulate_lookup]
  split
  · simp [records_active,MatrixNodeStatsAccumulator.zero,List.countP_filter]
  · rename_i absent
    simp only [List.any_eq_true,decide_eq_true_eq,not_exists,not_and] at absent
    symm
    simp only [Option.map_none,Option.getD_none,List.countP_eq_zero,Bool.and_eq_true,decide_eq_true_eq,not_and]
    exact fun entry member _ => absent entry member

end Lookup

theorem matchingNodeStats_eq (groupId nodeId : String) (sessions : List TrafficSession)
    (fingerprintsByNode : Std.ExtTreeMap String String) :
    matchingNodeStats groupId nodeId (nodeStatsFromSessions sessions fingerprintsByNode) =
      (accumulate (pairedSessions sessions))[(groupId,nodeId)]?.map fun stats =>
        stats.finish groupId nodeId (nodeFingerprint nodeId fingerprintsByNode) := by
  rw [matchingNodeStats,nodeStatsFromSessions,List.find?_map]
  have same : (fun stats : MatrixNodeStats => decide (stats.groupId = groupId ∧ stats.nodeId = nodeId)) ∘
      (fun entry : (String × String) × MatrixNodeStatsAccumulator =>
        entry.2.finish entry.1.1 entry.1.2 (nodeFingerprint entry.1.2 fingerprintsByNode)) =
      fun entry => decide (entry.1 = (groupId,nodeId)) := by
    funext entry
    simp [MatrixNodeStatsAccumulator.finish,Prod.ext_iff]
  rw [same,Maps.find_toList]
  cases (accumulate (pairedSessions sessions))[(groupId,nodeId)]? <;> rfl

theorem matchingTargetStats_eq (context : SelectionContext) (groupId nodeId : String)
    (sessions : List TrafficSession) (fingerprintsByNode : Std.ExtTreeMap String String) :
    matchingTargetStats context groupId nodeId (targetStatsFromSessions sessions fingerprintsByNode) =
      (accumulate (targetedSessions sessions))[((groupId,nodeId),context.target.scope)]?.map fun stats =>
        stats.finishTarget groupId nodeId (nodeFingerprint nodeId fingerprintsByNode)
          context.target.scope.1 context.target.scope.2 := by
  rw [matchingTargetStats,targetStatsFromSessions,List.find?_map]
  have same : (fun stats : MatrixTargetNodeStats => decide (stats.groupId = groupId ∧ stats.nodeId = nodeId ∧
        stats.targetScope = context.target.scope.1 ∧ stats.targetValue = context.target.scope.2)) ∘
      (fun entry : ((String × String) × String × String) × MatrixNodeStatsAccumulator =>
        entry.2.finishTarget entry.1.1.1 entry.1.1.2 (nodeFingerprint entry.1.1.2 fingerprintsByNode)
          entry.1.2.1 entry.1.2.2) =
      fun entry => decide (entry.1 = ((groupId,nodeId),context.target.scope)) := by
    funext entry
    simp [MatrixNodeStatsAccumulator.finish,MatrixNodeStatsAccumulator.finishTarget,Prod.ext_iff,and_assoc]
  rw [same,Maps.find_toList]
  cases (accumulate (targetedSessions sessions))[((groupId,nodeId),context.target.scope)]? <;> rfl

/-- A session listed once for each of its pairs is counted once for each. -/
theorem pairedSessions_countP (sessions : List TrafficSession) (pair : String × String)
    (distinct : ∀ session ∈ sessions, session.active → ((selectionPairs session).getD []).Nodup) :
    (pairedSessions sessions).countP (fun entry => entry.2.active && decide (entry.1 = pair)) =
      sessions.countP fun session => session.active && decide (pair ∈ (selectionPairs session).getD []) := by
  induction sessions with
  | nil => rfl
  | cons session rest ih =>
    obtain ⟨first,distinct⟩ := List.forall_mem_cons.mp distinct
    have here : (((selectionPairs session).getD []).map (·,session)).countP
        (fun entry => entry.2.active && decide (entry.1 = pair)) =
        if session.active && decide (pair ∈ (selectionPairs session).getD []) then 1 else 0 := by
      rw [List.countP_map]
      cases active : session.active with
      | false => simp [Function.comp_def,active]
      | true =>
        have counted := (first active).count (a := pair)
        rw [List.count_eq_countP] at counted
        have same (other : String × String) : (other == pair) = decide (other = pair) := by
          by_cases equal : other = pair <;> simp [equal]
        simpa [Function.comp_def,active,same] using counted
    change (_ ++ pairedSessions rest).countP _ = _
    rw [List.countP_append,here,ih distinct,List.countP_cons]
    omega

theorem activeSessionCount_eq (sessions : List TrafficSession) (fingerprintsByNode : Std.ExtTreeMap String String)
    (groupId nodeId : String)
    (distinct : ∀ session ∈ sessions, session.active → ((selectionPairs session).getD []).Nodup) :
    activeSessionCount (nodeStatsFromSessions sessions fingerprintsByNode) groupId nodeId =
      sessions.countP fun session =>
        session.active && decide ((groupId,nodeId) ∈ (selectionPairs session).getD []) := by
  rw [activeSessionCount,matchingNodeStats_eq,Option.map_map,← pairedSessions_countP sessions _ distinct,
    ← accumulate_active]
  rfl

end Dynet.Runtime
