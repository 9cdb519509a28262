import Dynet.Persistence.Sink

/-! The id counters of the runtime over the retained database: they are kept in memory
and read back from the rows that are left at a restart. -/
namespace Dynet.Persistence
open Dynet.Runtime Dynet.State Dynet.Lib Dynet.Lib.Text Observations

def observationQueueCapacity : Nat := 16384

inductive IdKind where
  | event | session | decision
  deriving DecidableEq, Repr

theorem IdKind.forall_iff {property : IdKind → Prop} :
    (∀ kind ∈ [IdKind.event,.session,.decision], property kind) ↔ ∀ kind, property kind :=
  ⟨fun all kind => all kind (by cases kind <;> simp),fun all kind _ => all kind⟩

structure RuntimeIdWatermarks where
  eventId : Nat
  sessionId : Nat
  decisionId : Nat
  deriving DecidableEq, Repr

namespace Observations

def watched (tables : Observations) : IdKind → List Int
  | .event => tables.runtimeEvents.map (·.eventId)
  | .session => tables.trafficSessions.toList.filterMap (·.2.sessionId.toI64) ++
      tables.selectionDecisions.map (·.sessionId) ++ tables.matrixShadowDecisions.map (·.sessionId)
  | .decision => tables.trafficSessions.toList.filterMap (fun entry => entry.2.decisionId.bind (·.toI64)) ++
      tables.selectionDecisions.map (·.decisionId) ++ tables.matrixShadowDecisions.map (·.decisionId)

/-- `coalesce(max(..), 0)` -/
def highest (ids : List Int) : Nat := i64ToU64 (ids.max?.getD 0)

def loadIdWatermarks (tables : Observations) : RuntimeIdWatermarks :=
  ⟨highest (tables.watched .event),highest (tables.watched .session),highest (tables.watched .decision)⟩

def named (tables : Observations) : IdKind → List Nat
  | .event => []
  | .session => tables.runtimeEvents.filterMap fun row => row.fields["sessionId"]?.bind (parseUnsigned (2^64))
  | .decision => tables.runtimeEvents.filterMap fun row => row.fields["decisionId"]?.bind (parseUnsigned (2^64))

def carried (tables : Observations) (kind : IdKind) : List Nat :=
  (tables.watched kind).map i64ToU64 ++ tables.named kind

end Observations

theorem le_highest_iff (ids : List Int) (id : Nat) :
    id ≤ highest ids ↔ id = 0 ∨ ∃ other ∈ ids, id ≤ i64ToU64 other := by
  unfold highest
  cases top : ids.max? with
  | none =>
    have none := List.max?_eq_none_iff.mp top
    simp [none,i64ToU64]
  | some highest =>
    obtain ⟨member,above⟩ := List.max?_eq_some_iff.mp top
    rw [Option.getD_some]
    constructor
    · intro below
      exact .inr ⟨highest,member,below⟩
    · rintro (rfl | ⟨other,member,below⟩)
      · exact Nat.zero_le _
      · exact below.trans (Int.toNat_le_toNat (above other member))

/-- A process over its database. `inFlight` are observations not sent yet, `queue` is the
channel of the sink. `restarts` keeps the databases that restarts have found, for the
results about them. -/
structure Service where
  events : EventStore
  nextDecisionId : Nat
  inFlight : List RuntimeObservation
  queue : List RuntimeObservation
  worker : Worker
  restarts : List Observations

inductive Action where
  | takeSessionId
  | record (kind : IngressEventKind) (fields : List (String × String)) (now : Nat)
  | select (now : Nat) (context : SelectionContext) (decision : SelectionDecision) (shadowed : Bool)
  | send (index : Nat)
  | persist (answers : Answers)
  | runMaintenance (upkeep : Upkeep)
  | restart (upkeep : Upkeep)

namespace Service

def start : Service := ⟨.withWatermarks 0 0,0,[],[],.start,[]⟩

/-- `from_store_seed`, as far as the counters go. -/
def fromStore (tables : Observations) (restarts : List Observations) : Service :=
  let marks := tables.loadIdWatermarks
  ⟨.withWatermarks marks.eventId marks.sessionId,marks.decisionId,[],[],⟨tables,0⟩,tables::restarts⟩

def counter (service : Service) : IdKind → Nat
  | .event => service.events.nextEventId
  | .session => service.events.nextSessionId
  | .decision => service.nextDecisionId

def next (service : Service) (kind : IdKind) : Nat := (service.counter kind + 1) % 2^64

/-- The decision of a selection under its allocated id, with its shadow before it. -/
def selected (service : Service) (now : Nat) (context : SelectionContext) (decision : SelectionDecision)
    (shadowed : Bool) : List RuntimeObservation :=
  let id := service.next .decision
  (if shadowed then [.matrixShadow id context.sessionId now] else []) ++
    [.selectionDecision now context { decision with decisionId := id }]

-- `try_send`: a full queue drops the observation.
def trySend (service : Service) (observation : RuntimeObservation) : Service :=
  if service.queue.length < observationQueueCapacity then
    { service with queue := service.queue ++ [observation] }
  else service

variable (policy : PersistencePolicy)

/-- Threads record and select in any order: what they observe is sent later, in any order.
A restart loses what is in flight or queued and opens the database with one maintenance. -/
def step (service : Service) : Action → Option Service
  | .takeSessionId => some { service with events := service.events.takeSessionId.2 }
  | .record kind fields now =>
    let (event,events) := service.events.beginRecord kind fields now
    some { service with events := events.enqueue event, inFlight := service.inFlight ++ [.event event] }
  | .select now context decision shadowed =>
    some { service with
      nextDecisionId := service.next .decision
      inFlight := service.inFlight ++ service.selected now context decision shadowed }
  | .send index => do
    let observation ← service.inFlight[index]?
    return { service with inFlight := service.inFlight.eraseIdx index }.trySend observation
  | .persist answers =>
    match service.queue with
    | [] => none
    | observation::rest =>
      some { service with
        queue := rest
        worker := (Persistence.persist policy answers observation service.worker).2 }
  | .runMaintenance upkeep => do
    let worker ← work policy service.worker (.runMaintenance upkeep)
    return { service with worker := worker }
  | .restart upkeep =>
    let opened := maintain policy false upkeep service.worker.tables
    if opened.1.isOk then some (.fromStore opened.2 service.restarts) else none

/-- No id that can be allocated next was carried by a row when some restart found it. -/
def Fresh (service : Service) : Prop :=
  ∀ kind, ∀ tables ∈ service.restarts, ∀ id ∈ tables.carried kind, id < service.next kind

def Small (service : Service) : Prop := ∀ kind, service.counter kind < 2^63

/-- At a restart every id that an event row names, and every id that a row carried at an
earlier restart, is at most an id of its kind in a column of some row that is left. -/
def Covered (service : Service) (action : Action) (_ : Service) : Prop :=
  match action with
  | .restart upkeep =>
    let tables := (maintain policy false upkeep service.worker.tables).2
    ∀ kind, ∀ id ∈ tables.named kind ++ service.restarts.flatMap (·.carried kind),
      id = 0 ∨ ∃ left ∈ tables.watched kind, id ≤ i64ToU64 left
  | _ => True

instance (service : Service) : Decidable service.Fresh := decidable_of_iff _ IdKind.forall_iff

instance (service : Service) : Decidable service.Small := decidable_of_iff _ IdKind.forall_iff

instance (service t : Service) : (action : Action) → Decidable (Covered policy service action t)
  | .restart _ => decidable_of_iff _ IdKind.forall_iff
  | .takeSessionId | .record .. | .select .. | .send _ | .persist _ | .runMaintenance _ => .isTrue trivial

theorem next_eq {service : Service} (small : service.Small) (kind : IdKind) :
    service.next kind = service.counter kind + 1 := by
  have := small kind
  exact Nat.mod_eq_of_lt (by omega)

/-- Only a restart replaces the counters. Any other step hands out at most one id of a
kind. -/
theorem step_counters {service t : Service} {action : Action} (taken : step policy service action = some t)
    (running : ∀ upkeep, action ≠ .restart upkeep) : t.restarts = service.restarts ∧
      ∀ kind, t.counter kind = service.counter kind ∨ t.counter kind = service.next kind := by
  cases action with
  | takeSessionId =>
    cases Option.some.inj taken
    refine ⟨rfl,fun kind => ?_⟩
    cases kind with
    | session => exact .inr rfl
    | event | decision => exact .inl rfl
  | record kind fields now =>
    cases Option.some.inj taken
    refine ⟨rfl,fun kind => ?_⟩
    cases kind with
    | event => exact .inr rfl
    | session | decision => exact .inl rfl
  | select now context decision shadowed =>
    cases Option.some.inj taken
    refine ⟨rfl,fun kind => ?_⟩
    cases kind with
    | decision => exact .inr rfl
    | event | session => exact .inl rfl
  | send index =>
    obtain ⟨observation,_,sent⟩ := Option.bind_eq_some_iff.mp taken
    cases Option.some.inj sent
    unfold trySend
    split
    · exact ⟨rfl,fun kind => .inl (by cases kind <;> rfl)⟩
    · exact ⟨rfl,fun kind => .inl (by cases kind <;> rfl)⟩
  | persist answers =>
    unfold step at taken
    cases queued : service.queue with
    | nil => simp [queued] at taken
    | cons observation rest =>
      simp only [queued,Option.some.injEq] at taken
      subst t
      exact ⟨rfl,fun kind => .inl (by cases kind <;> rfl)⟩
  | runMaintenance upkeep =>
    cases Option.some.inj taken
    exact ⟨rfl,fun kind => .inl (by cases kind <;> rfl)⟩
  | restart upkeep => exact absurd rfl (running upkeep)

theorem fromStore_counter (tables : Observations) (restarts : List Observations) (kind : IdKind) :
    (fromStore tables restarts).counter kind = highest (tables.watched kind) := by
  cases kind <;> rfl

/-- What a restarted process hands out is new exactly if the columns left cover what the
event rows name and what earlier restarts have found. -/
theorem fromStore_fresh_iff (tables : Observations) (restarts : List Observations)
    (small : (fromStore tables restarts).Small) : (fromStore tables restarts).Fresh ↔
      ∀ kind, ∀ id ∈ tables.named kind ++ restarts.flatMap (·.carried kind),
        id = 0 ∨ ∃ left ∈ tables.watched kind, id ≤ i64ToU64 left := by
  have next (kind : IdKind) : (fromStore tables restarts).next kind = highest (tables.watched kind) + 1 := by
    rw [next_eq small kind,fromStore_counter]
  simp only [Fresh,next,Nat.lt_succ_iff]
  change (∀ kind, ∀ found ∈ tables::restarts, _) ↔ _
  refine forall_congr' fun kind => ?_
  simp only [le_highest_iff]
  constructor
  · intro fresh id member
    rcases List.mem_append.mp member with named | earlier
    · exact fresh tables List.mem_cons_self id (List.mem_append_right _ named)
    · obtain ⟨found,old,carried⟩ := List.mem_flatMap.mp earlier
      exact fresh found (List.mem_cons_of_mem _ old) id carried
  · intro covered found member id carried
    rcases List.mem_cons.mp member with rfl | old
    · rcases List.mem_append.mp carried with column | named
      · obtain ⟨left,member,rfl⟩ := List.mem_map.mp column
        exact .inr ⟨left,member,Nat.le_refl _⟩
      · exact covered id (List.mem_append_left _ named)
    · exact covered id (List.mem_append_right _ (List.mem_flatMap.mpr ⟨found,old,carried⟩))

theorem step_fresh_iff {service t : Service} {action : Action} (fresh : service.Fresh) (small : service.Small)
    (taken : step policy service action = some t) (below : t.Small) : t.Fresh ↔ Covered policy service action t := by
  by_cases running : ∀ upkeep, action ≠ .restart upkeep
  · obtain ⟨restarts,counters⟩ := step_counters policy taken running
    have covered : Covered policy service action t := by
      cases action with
      | restart upkeep => exact absurd rfl (running upkeep)
      | _ => trivial
    refine iff_of_true (fun kind tables member id carried => ?_) covered
    have before := fresh kind tables (restarts ▸ member) id carried
    rw [next_eq small] at before
    rw [next_eq below]
    rcases counters kind with same | allocated
    · omega
    · rw [next_eq small] at allocated
      omega
  · push Not at running
    obtain ⟨upkeep,rfl⟩ := running
    unfold step at taken
    dsimp only at taken
    split at taken
    · cases Option.some.inj taken
      exact fromStore_fresh_iff _ _ below
    · cases taken

structure Sound (service : Service) : Prop where
  fresh : service.Fresh
  small : service.Small

theorem start_sound : start.Sound := by
  refine ⟨fun kind tables member => by simp [start] at member,fun kind => ?_⟩
  cases kind <;> decide

/-- With ids below `2^63`, a run never hands out an id again that a row carried when a
restart found it, exactly if every restart is covered. -/
theorem ids_fresh_iff (actions : List Action)
    (small : Machine.Along (step policy) (fun _ _ t => t.Small) .start actions) :
    Machine.Along (step policy) (fun _ _ t => t.Fresh) .start actions ↔
      Machine.Along (step policy) (Covered policy) .start actions := by
  constructor
  · intro fresh
    refine Machine.along_of_invariant (fun s action t sound taken guarded => ?_) start_sound
      (Machine.along_and small fresh)
    exact ⟨⟨guarded.2,guarded.1⟩,(step_fresh_iff policy sound.fresh sound.small taken guarded.1).mp guarded.2⟩
  · intro covered
    refine Machine.along_of_invariant (fun s action t sound taken guarded => ?_) start_sound
      (Machine.along_and small covered)
    have fresh := (step_fresh_iff policy sound.fresh sound.small taken guarded.1).mpr guarded.2
    exact ⟨⟨fresh,guarded.1⟩,fresh⟩

def quietAnswers : Answers := ⟨⟨none,none⟩,quietUpkeep,⟨none,none⟩,quietUpkeep⟩

/-- An accepted flow is recorded, the process restarts and takes the next session id. -/
def acceptedFlow : List Action :=
  [.takeSessionId,.record .tcpAccept [("sessionId","1")] 1000,.send 0,.persist quietAnswers,
    .restart quietUpkeep,.takeSessionId]

theorem acceptedFlow_fresh : Machine.Along (step defaultPolicy) (fun _ _ t => t.Fresh) .start acceptedFlow :=
  (ids_fresh_iff defaultPolicy acceptedFlow (by decide +kernel)).mpr (by decide +kernel)

/-- A UDP association takes a session id and records its start before anything is
selected. The process restarts after the event has been written. -/
def unselectedStart : List Action :=
  [.takeSessionId,.record .udpSessionStart [("sessionId","1"),("inbound","socks5")] 1000,.send 0,
    .persist quietAnswers,.restart quietUpkeep]

theorem unselectedStart_reuses :
    Machine.Along (step defaultPolicy) (fun _ _ t => t.Small) .start unselectedStart ∧
      ¬ Machine.Along (step defaultPolicy) (fun _ _ t => t.Fresh) .start unselectedStart := by
  decide +kernel

end Service

end Dynet.Persistence
