import Dynet.Persistence.SessionRow
import Dynet.Runtime.Event
import Dynet.State.Config

/-! The tables of observations, their pruning and their maintenance. A statement has
its effect or fails without one. What SQLite answers, the clock and the page counts
are arguments. -/
namespace Dynet.Persistence
open Dynet.Runtime Dynet.State Dynet.Lib.Sqlite Dynet.Lib.Checked

def deleteBatchSize : Nat := 512

structure EventRow where
  rowId : Nat
  eventId : Int
  observedAtUnixMs : Int
  kind : String
  fields : Fields
  deriving DecidableEq

/-- The columns that pruning and recovery read of the two tables of decisions. -/
structure DecisionRow where
  rowId : Nat
  decisionId : Int
  sessionId : Int
  observedAtUnixMs : Int
  deriving DecidableEq

/-- The last row id that each table has handed out. -/
structure RowIds where
  events : Nat
  decisions : Nat
  shadows : Nat
  deriving DecidableEq

/-- `applied` keeps the session updates that have taken effect, for the results about
them. No function reads it. -/
structure Observations where
  runtimeEvents : List EventRow
  selectionDecisions : List DecisionRow
  matrixShadowDecisions : List DecisionRow
  trafficSessions : Std.ExtTreeMap String SessionRow
  rowIds : RowIds
  applied : List TrafficSessionUpdate

inductive StoreError where
  | database (code : Option String)
  | other (message : String)
  deriving DecidableEq, Repr

def StoreError.isDatabaseFull : StoreError → Bool
  | .database code => code = some "13"
  | .other _ => false

abbrev Outcome := Except StoreError Unit × Observations

/-- One statement or transaction, with what SQLite answers. -/
def statement (answer : Option StoreError) (tables done : Observations) : Outcome :=
  match answer with
  | some error => (.error error,tables)
  | none => (.ok (),done)

def Outcome.andThen (outcome : Outcome) (next : Observations → Outcome) : Outcome :=
  match outcome.1 with
  | .error error => (.error error,outcome.2)
  | .ok () => next outcome.2

structure PageMetrics where
  pageSize : Nat
  pageCount : Nat
  freelistCount : Nat
  deriving DecidableEq, Repr

def PageMetrics.allocatedBytes (metrics : PageMetrics) : Nat :=
  saturatingMul metrics.pageCount metrics.pageSize

def PageMetrics.liveBytes (metrics : PageMetrics) : Nat :=
  saturatingMul (metrics.pageCount - metrics.freelistCount) metrics.pageSize

/-- What one maintenance meets: the time, the answers of its transactions and the page
counts before the first and before each further batch. -/
structure Upkeep where
  now : Nat
  expiry : Option StoreError
  metrics : Nat → Except StoreError PageMetrics
  batch : Nat → Option StoreError
  checkpoint : Option StoreError

namespace Observations

def empty : Observations := ⟨[],[],[],∅,⟨0,0,0⟩,[]⟩

def insertEventRow (tables : Observations) (event : IngressEvent) : Observations :=
  let rowId := tables.rowIds.events + 1
  { tables with
    runtimeEvents := tables.runtimeEvents ++
      [⟨rowId,u64ToI64 event.id,u64ToI64 event.observedAtUnixMs,event.kind.asStr,event.fields⟩]
    rowIds := { tables.rowIds with events := rowId } }

def upsertSession (tables : Observations) (update : TrafficSessionUpdate) : Observations :=
  { tables with
    trafficSessions := upsertTrafficSession tables.trafficSessions update
    applied := tables.applied ++ [update] }

def insertSelectionDecision (tables : Observations) (observedAtUnixMs : Nat) (context : SelectionContext)
    (decision : SelectionDecision) : Observations :=
  let rowId := tables.rowIds.decisions + 1
  { tables with
    selectionDecisions := tables.selectionDecisions ++
      [⟨rowId,u64ToI64 decision.decisionId,u64ToI64 context.sessionId,u64ToI64 observedAtUnixMs⟩]
    rowIds := { tables.rowIds with decisions := rowId } }

def insertMatrixShadow (tables : Observations) (decisionId sessionId observedAtUnixMs : Nat) : Observations :=
  let rowId := tables.rowIds.shadows + 1
  { tables with
    matrixShadowDecisions := tables.matrixShadowDecisions ++
      [⟨rowId,u64ToI64 decisionId,u64ToI64 sessionId,u64ToI64 observedAtUnixMs⟩]
    rowIds := { tables.rowIds with shadows := rowId } }

/-- `retention.as_millis()` before `now`. The difference of two bound times never
leaves the range of the column. -/
def cutoff (policy : PersistencePolicy) (now : Nat) : Int :=
  u64ToI64 now - u64ToI64 policy.retention.asMillis

def pruneExpired (tables : Observations) (cutoff : Int) : Observations :=
  { tables with
    runtimeEvents := tables.runtimeEvents.filter (cutoff ≤ ·.observedAtUnixMs)
    selectionDecisions := tables.selectionDecisions.filter (cutoff ≤ ·.observedAtUnixMs)
    matrixShadowDecisions := tables.matrixShadowDecisions.filter (cutoff ≤ ·.observedAtUnixMs)
    trafficSessions := tables.trafficSessions.filter fun _ row =>
      ¬ (row.lastObservedAtUnixMs.position < cutoff ∧ (row.closedAtUnixMs.isSome ∨ row.error.isSome)) }

section Oldest
variable {α κ ι : Type} [Ord κ] [DecidableEq ι]

/-- The rows left when the first batch of them in the order of `rank` is deleted. -/
def dropOldest (rank : α → κ) (key : α → ι) (rows : List α) : List α :=
  let doomed := ((rows.mergeSort fun a b => (compare (rank a) (rank b)).isLE).take deleteBatchSize).map key
  rows.filter fun row => key row ∉ doomed

theorem dropOldest_sublist (rank : α → κ) (key : α → ι) (rows : List α) :
    (dropOldest rank key rows).Sublist rows := List.filter_sublist

end Oldest

local instance : Ord (Int × Nat) := lexOrd
local instance : Ord (Int × String) := lexOrd

def size (tables : Observations) : Nat :=
  tables.runtimeEvents.length + tables.selectionDecisions.length + tables.matrixShadowDecisions.length +
    tables.trafficSessions.size

def deleteOldestBatch (tables : Observations) : Observations :=
  let doomed := ((tables.trafficSessions.toList.mergeSort fun a b =>
    (compare (a.2.lastObservedAtUnixMs.position,a.1) (b.2.lastObservedAtUnixMs.position,b.1)).isLE).take
      deleteBatchSize).map (·.1)
  { tables with
    runtimeEvents := dropOldest (fun row => (row.observedAtUnixMs,row.rowId)) (·.rowId) tables.runtimeEvents
    selectionDecisions :=
      dropOldest (fun row => (row.observedAtUnixMs,row.rowId)) (·.rowId) tables.selectionDecisions
    matrixShadowDecisions :=
      dropOldest (fun row => (row.observedAtUnixMs,row.rowId)) (·.rowId) tables.matrixShadowDecisions
    trafficSessions := tables.trafficSessions.filter fun key _ => key ∉ doomed }

def databaseBudget (policy : PersistencePolicy) : Nat := saturatingMul policy.maxBytes.toNat 7 / 8

-- The rounds of `prune_for_size` after its first reading. A round that deletes nothing ends it.
def pruneRounds (lowWater : Nat) (force : Bool) (upkeep : Upkeep) (round : Nat) (tables : Observations) :
    Outcome :=
  match upkeep.metrics (round + 1) with
  | .error error => (.error error,tables)
  | .ok metrics =>
    if (!force || round ≠ 0) && metrics.liveBytes ≤ lowWater then (.ok (),tables)
    else match upkeep.batch round with
      | some error => (.error error,tables)
      | none =>
        if tables.deleteOldestBatch.size < tables.size then
          pruneRounds lowWater force upkeep (round + 1) tables.deleteOldestBatch
        else (.ok (),tables.deleteOldestBatch)
termination_by tables.size

def pruneForSize (policy : PersistencePolicy) (force : Bool) (upkeep : Upkeep) (tables : Observations) : Outcome :=
  let budget := databaseBudget policy
  match upkeep.metrics 0 with
  | .error error => (.error error,tables)
  | .ok metrics =>
    if !force && metrics.allocatedBytes < saturatingMul budget 85 / 100 then (.ok (),tables)
    else pruneRounds (saturatingMul budget 65 / 100) force upkeep 0 tables

def maintain (policy : PersistencePolicy) (force : Bool) (upkeep : Upkeep) (tables : Observations) : Outcome :=
  let expired := statement upkeep.expiry tables (tables.pruneExpired (cutoff policy upkeep.now))
  (expired.andThen (pruneForSize policy force upkeep)).andThen fun tables =>
    statement upkeep.checkpoint tables tables

/-- What pruning may do: rows disappear and nothing else changes. -/
structure Within (left tables : Observations) : Prop where
  events : left.runtimeEvents.Sublist tables.runtimeEvents
  decisions : left.selectionDecisions.Sublist tables.selectionDecisions
  shadows : left.matrixShadowDecisions.Sublist tables.matrixShadowDecisions
  sessions : ∀ (key : String) (row : SessionRow), left.trafficSessions[key]? = some row → tables.trafficSessions[key]? = some row
  rowIds : left.rowIds = tables.rowIds
  applied : left.applied = tables.applied

namespace Within

theorem refl (tables : Observations) : Within tables tables :=
  ⟨.refl _,.refl _,.refl _,fun _ _ present => present,rfl,rfl⟩

theorem trans {first second third : Observations} (outer : Within first second) (inner : Within second third) :
    Within first third :=
  ⟨outer.events.trans inner.events,outer.decisions.trans inner.decisions,outer.shadows.trans inner.shadows,
    fun key row present => inner.sessions key row (outer.sessions key row present),
    outer.rowIds.trans inner.rowIds,outer.applied.trans inner.applied⟩

end Within

theorem filter_sessions {sessions : Std.ExtTreeMap String SessionRow} {keep : String → SessionRow → Bool}
    (key : String) (row : SessionRow) (present : (sessions.filter keep)[key]? = some row) :
    sessions[key]? = some row := by
  rw [Std.ExtTreeMap.getElem?_filter,Option.pfilter_eq_some_iff] at present
  exact present.1

theorem pruneExpired_within (tables : Observations) (cutoff : Int) : Within (tables.pruneExpired cutoff) tables :=
  ⟨List.filter_sublist,List.filter_sublist,List.filter_sublist,filter_sessions,rfl,rfl⟩

theorem deleteOldestBatch_within (tables : Observations) : Within tables.deleteOldestBatch tables :=
  ⟨dropOldest_sublist _ _ _,dropOldest_sublist _ _ _,dropOldest_sublist _ _ _,filter_sessions,rfl,rfl⟩

theorem statement_within (answer : Option StoreError) {tables done : Observations} (within : Within done tables) :
    Within (statement answer tables done).2 tables := by
  cases answer with
  | some error => exact .refl tables
  | none => exact within

theorem andThen_within {outcome : Outcome} {next : Observations → Outcome} {tables : Observations}
    (first : Within outcome.2 tables) (second : ∀ tables, Within (next tables).2 tables) :
    Within (outcome.andThen next).2 tables := by
  unfold Outcome.andThen
  cases outcome.1 with
  | error error => exact first
  | ok => exact (second outcome.2).trans first

theorem pruneRounds_within (lowWater : Nat) (force : Bool) (upkeep : Upkeep) (round : Nat) (tables : Observations) :
    Within (pruneRounds lowWater force upkeep round tables).2 tables := by
  fun_induction pruneRounds lowWater force upkeep round tables with
  | case1 | case2 | case3 => exact .refl _
  | case4 round tables _ _ _ _ _ ih => exact ih.trans tables.deleteOldestBatch_within
  | case5 round tables => exact tables.deleteOldestBatch_within

theorem pruneForSize_within (policy : PersistencePolicy) (force : Bool) (upkeep : Upkeep) (tables : Observations) :
    Within (pruneForSize policy force upkeep tables).2 tables := by
  unfold pruneForSize
  cases upkeep.metrics 0 with
  | error error => exact .refl tables
  | ok metrics =>
    dsimp only
    split
    · exact .refl tables
    · exact pruneRounds_within _ force upkeep 0 tables

theorem maintain_within (policy : PersistencePolicy) (force : Bool) (upkeep : Upkeep) (tables : Observations) :
    Within (maintain policy force upkeep tables).2 tables := by
  have expired := statement_within upkeep.expiry (tables.pruneExpired_within (cutoff policy upkeep.now))
  have pruned := andThen_within expired (pruneForSize_within policy force upkeep)
  have settled (tables : Observations) : Within (statement upkeep.checkpoint tables tables).2 tables :=
    statement_within upkeep.checkpoint (.refl tables)
  unfold maintain
  exact andThen_within pruned settled

end Observations

end Dynet.Persistence
