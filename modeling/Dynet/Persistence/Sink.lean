import Dynet.Persistence.Observations
import Dynet.Lib.Machine

/-! The worker behind the observation sink. An event is written by two statements and
the pair is retried as a whole when the database is full. -/
namespace Dynet.Persistence
open Dynet.Runtime Dynet.State Dynet.Lib Observations

def maintenanceEveryObservations : Nat := 128

inductive RuntimeObservation where
  | event (event : IngressEvent)
  | selectionDecision (observedAtUnixMs : Nat) (context : SelectionContext) (decision : SelectionDecision)
  | matrixShadow (decisionId sessionId observedAtUnixMs : Nat)
  | flush
  deriving DecidableEq

/-- What SQLite answers to the statements of one `persist_data`. -/
structure Attempt where
  row : Option StoreError
  session : Option StoreError
  deriving DecidableEq

/-- What one `persist` meets: its first attempt, the forced maintenance and the retry
after a full database, and the routine maintenance. -/
structure Answers where
  first : Attempt
  forced : Upkeep
  retry : Attempt
  routine : Upkeep

def insertEvent (attempt : Attempt) (event : IngressEvent) (tables : Observations) : Outcome :=
  (statement attempt.row tables (tables.insertEventRow event)).andThen fun tables =>
    match sessionUpdateFromEvent event with
    | some update => statement attempt.session tables (tables.upsertSession update)
    | none => (.ok (),tables)

def persistData (attempt : Attempt) : RuntimeObservation → Observations → Outcome
  | .event event, tables => insertEvent attempt event tables
  | .selectionDecision observedAtUnixMs context decision, tables =>
    statement attempt.row tables (tables.insertSelectionDecision observedAtUnixMs context decision)
  | .matrixShadow decisionId sessionId observedAtUnixMs, tables =>
    statement attempt.row tables (tables.insertMatrixShadow decisionId sessionId observedAtUnixMs)
  -- `persist` takes a flush apart before.
  | .flush, tables => (.ok (),tables)

structure Worker where
  tables : Observations
  observationsSinceMaintenance : Nat

section Persist
variable (policy : PersistencePolicy)

/-- The first half of `persist`: the writes with their retry. -/
def writeObservation (answers : Answers) (observation : RuntimeObservation) (tables : Observations) : Outcome :=
  let first := persistData answers.first observation tables
  match first.1 with
  | .error error =>
    if error.isDatabaseFull then
      (maintain policy true answers.forced first.2).andThen (persistData answers.retry observation)
    else first
  | .ok () => first

def maintained (upkeep : Upkeep) (count : Nat) (tables : Observations) : Except StoreError Unit × Worker :=
  let outcome := maintain policy false upkeep tables
  match outcome.1 with
  | .error error => (.error error,⟨outcome.2,count⟩)
  | .ok () => (.ok (),⟨outcome.2,0⟩)

theorem maintained_tables (upkeep : Upkeep) (count : Nat) (tables : Observations) :
    (maintained policy upkeep count tables).2.tables = (maintain policy false upkeep tables).2 := by
  unfold maintained
  dsimp only
  split
  · rfl
  · rfl

def persist (answers : Answers) (observation : RuntimeObservation) (worker : Worker) :
    Except StoreError Unit × Worker :=
  if observation = .flush then maintained policy answers.routine worker.observationsSinceMaintenance worker.tables
  else
    let written := writeObservation policy answers observation worker.tables
    match written.1 with
    | .error error => (.error error,⟨written.2,worker.observationsSinceMaintenance⟩)
    | .ok () =>
      let count := min (worker.observationsSinceMaintenance + 1) (2^64 - 1)
      if maintenanceEveryObservations ≤ count then maintained policy answers.routine count written.2
      else (.ok (),⟨written.2,count⟩)

inductive WorkerStep where
  | persist (answers : Answers) (observation : RuntimeObservation)
  | runMaintenance (upkeep : Upkeep)
  | respawn

/-- The worker's loop. A failed `persist` is counted and forgotten. `respawn` is a
restart of the process on the retained database. -/
def work (worker : Worker) : WorkerStep → Option Worker
  | .persist answers observation => some (persist policy answers observation worker).2
  | .runMaintenance upkeep => some (maintained policy upkeep worker.observationsSinceMaintenance worker.tables).2
  | .respawn => some ⟨worker.tables,0⟩

end Persist

def Worker.start : Worker := ⟨.empty,0⟩

/-- The event rows that were inserted since `before` and are still there. -/
def newRows (before after : Observations) : List EventRow :=
  after.runtimeEvents.filter fun row => before.rowIds.events < row.rowId

/-- At most one row was inserted and kept, and one was exactly if the event's session
update took effect exactly once. -/
structure PersistedOnce (event : IngressEvent) (before after : Observations) : Prop where
  single : (newRows before after).length ≤ 1
  together : ∀ update, sessionUpdateFromEvent event = some update →
    ((newRows before after).length = 1 ↔ after.applied = before.applied ++ [update])

def Numbered (tables : Observations) : Prop :=
  ∀ row ∈ tables.runtimeEvents, row.rowId ≤ tables.rowIds.events

/-- What is known of the tables in the middle of a call: how many rows of the event they
hold and which updates have been applied since. -/
structure Progress (before after : Observations) (rows : Nat) (applied : List TrafficSessionUpdate) : Prop where
  rows : (newRows before after).length = rows
  applied : after.applied = before.applied ++ applied
  later : before.rowIds.events ≤ after.rowIds.events

namespace Progress
variable {before tables : Observations} {rows : Nat} {applied : List TrafficSessionUpdate}

theorem start (numbered : Numbered before) : Progress before before 0 [] := by
  refine ⟨?_,(List.append_nil _).symm,Nat.le_refl _⟩
  have none : newRows before before = [] := by
    rw [newRows,List.filter_eq_nil_iff]
    intro row member
    have := numbered row member
    simpa using this
  rw [none,List.length_nil]

theorem insertEventRow (known : Progress before tables rows applied) (event : IngressEvent) :
    Progress before (tables.insertEventRow event) (rows + 1) applied := by
  have later := known.later
  refine ⟨?_,known.applied,?_⟩
  · have fresh : before.rowIds.events < tables.rowIds.events + 1 := by omega
    have count := known.rows
    unfold newRows at count ⊢
    simp only [Observations.insertEventRow,List.filter_append,List.length_append,count]
    simp [fresh]
  · change _ ≤ tables.rowIds.events + 1
    omega

theorem upsertSession (known : Progress before tables rows applied) (update : TrafficSessionUpdate) :
    Progress before (tables.upsertSession update) rows (applied ++ [update]) := by
  refine ⟨known.rows,?_,known.later⟩
  change tables.applied ++ [update] = _
  rw [known.applied,List.append_assoc]

theorem within (known : Progress before tables rows applied) {left : Observations} (within : Within left tables) :
    ∃ kept ≤ rows, Progress before left kept applied :=
  ⟨(newRows before left).length,known.rows ▸ (within.events.filter _).length_le,rfl,
    within.applied.trans known.applied,within.rowIds ▸ known.later⟩

theorem once_of_none (known : Progress before tables rows applied) {event : IngressEvent}
    (silent : sessionUpdateFromEvent event = none) (single : rows ≤ 1) : PersistedOnce event before tables :=
  ⟨known.rows ▸ single,fun update made => by simp [silent] at made⟩

theorem once_iff (known : Progress before tables rows applied) {event : IngressEvent} {update : TrafficSessionUpdate}
    (made : sessionUpdateFromEvent event = some update) :
    PersistedOnce event before tables ↔ rows ≤ 1 ∧ (rows = 1 ↔ applied = [update]) := by
  constructor
  · intro once
    have together := once.together update made
    rw [known.rows,known.applied,List.append_cancel_left_eq] at together
    exact ⟨known.rows ▸ once.single,together⟩
  · rintro ⟨single,together⟩
    refine ⟨known.rows ▸ single,fun other same => ?_⟩
    cases Option.some.inj (made.symm.trans same)
    rw [known.rows,known.applied,List.append_cancel_left_eq]
    exact together

end Progress

def full (answer : Option StoreError) : Bool := answer.any (·.isDatabaseFull)

section Condition
variable (policy : PersistencePolicy) (answers : Answers) (event : IngressEvent) (tables : Observations)

/-- The tables after the forced maintenance, when the event's row had been inserted. -/
def forcedAfterRow : Outcome := maintain policy true answers.forced (tables.insertEventRow event)

def RetryWhole : Prop := answers.retry.row = none → answers.retry.session = none

/-- Once its row is in, the session statement of an event succeeds; or the database is
full there, the forced maintenance deletes the row again, and a retry that inserts the
row also updates the session. -/
def Paired : Prop := sessionUpdateFromEvent event ≠ none →
  (answers.first.row = none → answers.first.session = none ∨
    full answers.first.session = true ∧ newRows tables (forcedAfterRow policy answers event tables).2 = [] ∧
      ((forcedAfterRow policy answers event tables).1 = .ok () → RetryWhole answers)) ∧
  (full answers.first.row = true → (maintain policy true answers.forced tables).1 = .ok () → RetryWhole answers)

variable {event}

theorem insertEvent_refused (attempt : Attempt) {error : StoreError} (refused : attempt.row = some error) :
    insertEvent attempt event tables = (.error error,tables) := by
  simp [insertEvent,statement,Outcome.andThen,refused]

theorem insertEvent_silent (attempt : Attempt) (silent : sessionUpdateFromEvent event = none)
    (inserted : attempt.row = none) : insertEvent attempt event tables = (.ok (),tables.insertEventRow event) := by
  simp [insertEvent,statement,Outcome.andThen,silent,inserted]

theorem insertEvent_update (attempt : Attempt) {update : TrafficSessionUpdate}
    (made : sessionUpdateFromEvent event = some update) (inserted : attempt.row = none) :
    insertEvent attempt event tables = statement attempt.session (tables.insertEventRow event)
      ((tables.insertEventRow event).upsertSession update) := by
  simp [insertEvent,statement,Outcome.andThen,made,inserted]

theorem newRows_nil_iff {before after : Observations} {rows : Nat} {applied : List TrafficSessionUpdate}
    (known : Progress before after rows applied) : newRows before after = [] ↔ rows = 0 := by
  rw [← known.rows,List.length_eq_zero_iff]

/-- A retry persists the event once exactly if the first row is gone and the retry does
not stop between its statements. -/
theorem retry_iff {before middle : Observations} {kept : Nat} (known : Progress before middle kept [])
    {update : TrafficSessionUpdate} (made : sessionUpdateFromEvent event = some update) :
    PersistedOnce event before (insertEvent answers.retry event middle).2 ↔ kept = 0 ∧ RetryWhole answers := by
  cases row : answers.retry.row with
  | some error =>
    rw [insertEvent_refused middle answers.retry row,known.once_iff made]
    simp [RetryWhole,row]
    omega
  | none =>
    rw [insertEvent_update middle answers.retry made row]
    have inserted := known.insertEventRow event
    cases session : answers.retry.session with
    | some error =>
      change PersistedOnce event before (middle.insertEventRow event) ↔ _
      rw [inserted.once_iff made]
      simp [RetryWhole,row,session]
    | none =>
      change PersistedOnce event before ((middle.insertEventRow event).upsertSession update) ↔ _
      rw [(inserted.upsertSession update).once_iff made]
      simp [RetryWhole,row,session]

/-- The forced maintenance and the retry, after a first attempt that left `rows` rows. -/
theorem forced_iff {before middle : Observations} {rows : Nat} (known : Progress before middle rows [])
    {update : TrafficSessionUpdate} (made : sessionUpdateFromEvent event = some update) :
    PersistedOnce event before
        ((maintain policy true answers.forced middle).andThen (insertEvent answers.retry event)).2 ↔
      newRows before (maintain policy true answers.forced middle).2 = [] ∧
        ((maintain policy true answers.forced middle).1 = .ok () → RetryWhole answers) := by
  obtain ⟨kept,_,left⟩ := known.within (maintain_within policy true answers.forced middle)
  rw [newRows_nil_iff left]
  unfold Outcome.andThen
  cases (maintain policy true answers.forced middle).1 with
  | error error =>
    rw [left.once_iff made]
    simp
    omega
  | ok => simpa using retry_iff answers left made

theorem writeObservation_event :
    writeObservation policy answers (.event event) tables =
      match (insertEvent answers.first event tables).1 with
      | .error error =>
        if error.isDatabaseFull then
          (maintain policy true answers.forced (insertEvent answers.first event tables).2).andThen
            (insertEvent answers.retry event)
        else insertEvent answers.first event tables
      | .ok () => insertEvent answers.first event tables := rfl

variable {tables}

theorem silent_once (numbered : Numbered tables) (silent : sessionUpdateFromEvent event = none) :
    PersistedOnce event tables (writeObservation policy answers (.event event) tables).2 := by
  have start := Progress.start numbered
  rw [writeObservation_event]
  cases row : answers.first.row with
  | none =>
    rw [insertEvent_silent tables answers.first silent row]
    exact (start.insertEventRow event).once_of_none silent (by omega)
  | some error =>
    rw [insertEvent_refused tables answers.first row]
    dsimp only
    split
    · obtain ⟨kept,few,left⟩ := start.within (maintain_within policy true answers.forced tables)
      unfold Outcome.andThen
      cases (maintain policy true answers.forced tables).1 with
      | error error => exact left.once_of_none silent (by omega)
      | ok =>
        cases retried : answers.retry.row with
        | some error =>
          dsimp only
          rw [insertEvent_refused _ answers.retry retried]
          exact left.once_of_none silent (by omega)
        | none =>
          dsimp only
          rw [insertEvent_silent _ answers.retry silent retried]
          exact (left.insertEventRow event).once_of_none silent (by omega)
    · exact start.once_of_none silent (by omega)

theorem written_once_iff (numbered : Numbered tables) :
    PersistedOnce event tables (writeObservation policy answers (.event event) tables).2 ↔
      Paired policy answers event tables := by
  cases made : sessionUpdateFromEvent event with
  | none =>
    have vacuous : Paired policy answers event tables := fun some => absurd made some
    exact iff_of_true (silent_once policy answers numbered made) vacuous
  | some update =>
    have start := Progress.start numbered
    have inserted := start.insertEventRow event
    simp only [Paired,made,ne_eq,reduceCtorEq,not_false_eq_true,true_implies]
    rw [writeObservation_event]
    cases row : answers.first.row with
    | some error =>
      rw [insertEvent_refused tables answers.first row]
      cases isFull : error.isDatabaseFull with
      | true =>
        obtain ⟨kept,few,left⟩ := start.within (maintain_within policy true answers.forced tables)
        have gone := (newRows_nil_iff left).mpr (Nat.le_zero.mp few)
        simp only [isFull,if_true]
        rw [forced_iff policy answers start made]
        simp [gone,full,isFull]
      | false =>
        simp only [isFull,Bool.false_eq_true,if_false]
        rw [start.once_iff made]
        simp [full,isFull]
    | none =>
      rw [insertEvent_update tables answers.first made row]
      cases session : answers.first.session with
      | none =>
        change PersistedOnce event tables ((tables.insertEventRow event).upsertSession update) ↔ _
        rw [(inserted.upsertSession update).once_iff made]
        simp [full]
      | some error =>
        simp only [statement]
        cases isFull : error.isDatabaseFull with
        | true =>
          simp only [if_true]
          rw [forced_iff policy answers inserted made]
          simp [full,isFull,forcedAfterRow]
        | false =>
          simp only [Bool.false_eq_true,if_false]
          rw [inserted.once_iff made]
          simp [full,isFull]

end Condition

/-- What every write and every pruning keeps. -/
structure Stable (invariant : Observations → Prop) : Prop where
  event : ∀ tables event, invariant tables → invariant (tables.insertEventRow event)
  session : ∀ tables update, invariant tables → invariant (tables.upsertSession update)
  decision : ∀ tables observedAtUnixMs context decision, invariant tables →
    invariant (tables.insertSelectionDecision observedAtUnixMs context decision)
  shadow : ∀ tables decisionId sessionId observedAtUnixMs, invariant tables →
    invariant (tables.insertMatrixShadow decisionId sessionId observedAtUnixMs)
  pruned : ∀ tables left, Within left tables → invariant tables → invariant left

namespace Stable
variable {invariant : Observations → Prop}

theorem statement (answer : Option StoreError) {tables done : Observations} (before : invariant tables)
    (after : invariant done) : invariant (Persistence.statement answer tables done).2 := by
  cases answer with
  | some error => exact before
  | none => exact after

theorem andThen {outcome : Outcome} {next : Observations → Outcome} (first : invariant outcome.2)
    (second : ∀ tables, invariant tables → invariant (next tables).2) : invariant (outcome.andThen next).2 := by
  unfold Outcome.andThen
  cases outcome.1 with
  | error error => exact first
  | ok => exact second outcome.2 first

variable (stable : Stable invariant) (policy : PersistencePolicy)
include stable

theorem insertEvent (attempt : Attempt) (event : IngressEvent) (tables : Observations) (holds : invariant tables) :
    invariant (Persistence.insertEvent attempt event tables).2 := by
  refine andThen (statement attempt.row holds (stable.event tables event holds)) fun tables holds => ?_
  cases sessionUpdateFromEvent event with
  | none => exact holds
  | some update => exact statement attempt.session holds (stable.session tables update holds)

theorem persistData (attempt : Attempt) (observation : RuntimeObservation) (tables : Observations)
    (holds : invariant tables) : invariant (Persistence.persistData attempt observation tables).2 := by
  cases observation with
  | event event => exact stable.insertEvent attempt event tables holds
  | selectionDecision => exact statement attempt.row holds (stable.decision _ _ _ _ holds)
  | matrixShadow => exact statement attempt.row holds (stable.shadow _ _ _ _ holds)
  | flush => exact holds

theorem writeObservation (answers : Answers) (observation : RuntimeObservation) (tables : Observations)
    (holds : invariant tables) : invariant (Persistence.writeObservation policy answers observation tables).2 := by
  have first := stable.persistData answers.first observation tables holds
  have forced := stable.pruned _ _ (maintain_within policy true answers.forced _) first
  unfold Persistence.writeObservation
  dsimp only
  split
  · split
    · exact andThen forced (stable.persistData answers.retry observation)
    · exact first
  · exact first

theorem maintained (upkeep : Upkeep) (count : Nat) (tables : Observations) (holds : invariant tables) :
    invariant (maintained policy upkeep count tables).2.tables := by
  rw [maintained_tables]
  exact stable.pruned _ _ (maintain_within policy false upkeep tables) holds

theorem persist (answers : Answers) (observation : RuntimeObservation) (worker : Worker)
    (holds : invariant worker.tables) : invariant (persist policy answers observation worker).2.tables := by
  have written := stable.writeObservation policy answers observation worker.tables holds
  unfold Persistence.persist
  dsimp only
  split
  · exact stable.maintained policy answers.routine _ worker.tables holds
  · split
    · exact written
    · split
      · exact stable.maintained policy answers.routine _ _ written
      · exact written

theorem work {worker next : Worker} {step : WorkerStep} (holds : invariant worker.tables)
    (worked : work policy worker step = some next) : invariant next.tables := by
  cases step with
  | persist answers observation =>
    cases Option.some.inj worked
    exact stable.persist policy answers observation worker holds
  | runMaintenance upkeep =>
    cases Option.some.inj worked
    exact stable.maintained policy upkeep _ worker.tables holds
  | respawn =>
    cases Option.some.inj worked
    exact holds

end Stable

theorem numbered_stable : Stable Numbered := by
  constructor
  · intro tables event numbered row member
    change row.rowId ≤ tables.rowIds.events + 1
    rcases List.mem_append.mp member with old | new
    · exact Nat.le_succ_of_le (numbered row old)
    · cases List.mem_singleton.mp new
      exact Nat.le_refl _
  · intro tables update numbered
    exact numbered
  · intro tables _ _ _ numbered
    exact numbered
  · intro tables _ _ _ numbered
    exact numbered
  · intro tables left within numbered row member
    rw [within.rowIds]
    exact numbered row (within.events.subset member)

def Worker.Numbered (worker : Worker) : Prop := Persistence.Numbered worker.tables

theorem start_numbered : Worker.start.Numbered := fun row member => by
  simp [Worker.start,Observations.empty] at member

section Runs
variable (policy : PersistencePolicy)

/-- The event of the step is persisted once, up to the maintenance that ends the call. -/
def Persisted (worker : Worker) (step : WorkerStep) (next : Worker) : Prop :=
  match step with
  | .persist answers (.event event) =>
    let written := (writeObservation policy answers (.event event) worker.tables).2
    PersistedOnce event worker.tables written ∧ Within next.tables written
  | _ => True

def PairedStep (worker : Worker) (step : WorkerStep) (_ : Worker) : Prop :=
  match step with
  | .persist answers (.event event) => Paired policy answers event worker.tables
  | _ => True

theorem persist_within (answers : Answers) (observation : RuntimeObservation) (worker : Worker)
    (data : observation ≠ .flush) : Within (persist policy answers observation worker).2.tables
      (writeObservation policy answers observation worker.tables).2 := by
  unfold persist
  rw [if_neg data]
  dsimp only
  split
  · exact .refl _
  · split
    · rw [maintained_tables]
      exact maintain_within policy false answers.routine _
    · exact .refl _

theorem persisted_iff {worker next : Worker} {step : WorkerStep} (numbered : Numbered worker.tables)
    (worked : work policy worker step = some next) :
    Persisted policy worker step next ↔ PairedStep policy worker step next := by
  cases step with
  | persist answers observation =>
    cases observation with
    | event event =>
      cases Option.some.inj worked
      have within := persist_within policy answers (.event event) worker (by simp)
      exact (and_iff_left within).trans (written_once_iff policy answers numbered)
    | selectionDecision | matrixShadow | flush => exact Iff.rfl
  | runMaintenance | respawn => exact Iff.rfl

/-- In every run of the worker, each event is persisted once exactly if its two
statements stay together. -/
theorem events_persist_once_iff (run : List WorkerStep) :
    Machine.Along (work policy) (Persisted policy) .start run ↔
      Machine.Along (work policy) (PairedStep policy) .start run := by
  have start : Worker.Numbered .start := start_numbered
  constructor
  · refine Machine.along_of_invariant (fun worker step next numbered worked persisted => ?_) start
    exact ⟨numbered_stable.work policy numbered worked,(persisted_iff policy numbered worked).mp persisted⟩
  · refine Machine.along_of_invariant (fun worker step next numbered worked paired => ?_) start
    exact ⟨numbered_stable.work policy numbered worked,(persisted_iff policy numbered worked).mpr paired⟩

end Runs

def defaultPolicy : PersistencePolicy := ⟨.fromSecs (24 * 60 * 60),64 * 1024 * 1024⟩

def smallDatabase : PageMetrics := ⟨4096,64,0⟩

def quietUpkeep : Upkeep := ⟨1000,none,fun _ => .ok smallDatabase,fun _ => none,none⟩

/-- SQLite takes the row of an event and is busy at its session. -/
def busySession : Answers := ⟨⟨none,some (.database (some "5"))⟩,quietUpkeep,⟨none,none⟩,quietUpkeep⟩

def acceptedEvent : IngressEvent := ⟨1,1000,.tcpAccept,intoFields [("sessionId","1")]⟩

theorem busySession_splits :
    ¬ Machine.Along (work defaultPolicy) (Persisted defaultPolicy) .start [.persist busySession (.event acceptedEvent)] := by
  intro along
  have once := ((along _ rfl).1).1
  have paired := (written_once_iff defaultPolicy busySession start_numbered).mp once
  have made : sessionUpdateFromEvent acceptedEvent ≠ none := by decide +kernel
  have together := (paired made).1 rfl
  simp [busySession,full,StoreError.isDatabaseFull] at together

end Dynet.Persistence
