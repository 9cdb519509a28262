import Dynet.Ingress.UdpTable
import Dynet.Lib.Maps

/-! Which association a table entry, a completion and a received datagram belong to.
A completion names a peer, so it is about the association that sent it only as long
as the peer has opened no newer one. Read by peer and session identifier, a state is
three relations: what the table holds, what runs, and what has ended without its
completion having been processed. -/
namespace Dynet.Ingress.UdpRelay
open Dynet.Runtime Dynet.Lib Dynet.Lib.Machine

namespace State

/-- One of the peer's associations has this identifier and is in this phase. -/
def In (s : State) (phase : TaskPhase) (peer : SocketAddr) (sessionId : Nat) : Prop :=
  ∃ task ∈ s.tasks, task.sessionId = sessionId ∧ task.peer = peer ∧ task.phase = phase

/-- The association has ended and the loop has yet to process its completion. -/
def Unprocessed (s : State) (peer : SocketAddr) (sessionId : Nat) : Prop :=
  s.In .ended peer sessionId ∨ ⟨peer,sessionId⟩ ∈ s.completions

/-- The peer has an association that has ended without its completion processed. -/
def Outstanding (s : State) (peer : SocketAddr) : Prop :=
  (∃ task ∈ s.tasks, task.peer = peer ∧ task.phase = .ended) ∨ ∃ message ∈ s.completions, message.peer = peer

instance (s : State) (peer : SocketAddr) : Decidable (s.Outstanding peer) := by
  unfold Outstanding
  infer_instance

theorem Unprocessed.outstanding {s : State} {peer : SocketAddr} {sessionId : Nat}
    (unprocessed : s.Unprocessed peer sessionId) : s.Outstanding peer := by
  rcases unprocessed with ⟨task,member,_,same,ended⟩ | queued
  · exact .inl ⟨task,member,same,ended⟩
  · exact .inr ⟨_,queued,rfl⟩

end State

/-- Processing a completion takes no other association's entry away. -/
def RemovesOwnEntry (s : State) (event : Event) (t : State) : Prop :=
  event = .processCompletion → ∀ message ∈ s.completions.head?, ∀ (peer : SocketAddr) (sessionId : Nat),
    s.sessions[peer]? = some sessionId → sessionId ≠ message.sender → t.sessions[peer]? = some sessionId

/-- A datagram received while fewer than `max_sessions` associations run is accepted
unless its selection fails, its association runs for as long as the datagram waits,
and the wait ends with the datagram in that association's channel. -/
structure HandsOver (maxSessions : Nat) (s : State) (event : Event) (t : State) : Prop where
  accepted : ∀ (peer : SocketAddr) (payload : List UInt8) (selected : Bool), event = .receive peer payload selected → s.live < maxSessions →
    (s.sessions[peer]?.isSome ∨ selected = true) → ∃ sessionId, t.loop = .sending ⟨peer,sessionId,payload,true⟩
  waits : ∀ pending, t.loop = .sending pending → pending.room = true →
    t.In .running pending.peer pending.sessionId
  handed : ∀ pending, s.loop = .sending pending → pending.room = true → t.loop = .sending pending ∨
    ∃ task ∈ t.tasks, task.sessionId = pending.sessionId ∧ task.peer = pending.peer ∧
      task.phase = .running ∧ task.downstream.getLast? = some pending.payload

/-- The peer of a datagram has no association whose completion is outstanding, a
datagram that needs a new association does not meet a table filled by ended ones, and
no association ends while the loop waits to hand it a datagram. -/
def Separated (maxSessions : Nat) (s : State) : Event → Prop
  | .receive peer _ selected =>
    (s.sessions[peer]?.isSome ∨ selected = true ∧ s.sessions.size < maxSessions → ¬ s.Outstanding peer) ∧
    (s.sessions[peer]?.isNone ∧ selected = true ∧ maxSessions ≤ s.sessions.size → maxSessions ≤ s.live)
  | .finish sessionId => match s.loop with
    | .sending pending => pending.room = true → pending.sessionId ≠ sessionId
    | _ => True
  | _ => True

instance (maxSessions : Nat) (s : State) (event : Event) : Decidable (Separated maxSessions s event) := by
  cases event <;> unfold Separated <;> try infer_instance
  cases s.loop <;> infer_instance

/-- What a separated run keeps: entries and running associations are the same
pairs, and an ended association blocks its peer's entry until it is processed. -/
structure Tracked (s : State) : Prop extends WellFormed s where
  entry : ∀ (peer : SocketAddr) (sessionId : Nat), s.sessions[peer]? = some sessionId →
    s.In .running peer sessionId ∨ s.Unprocessed peer sessionId
  running : s.loop ≠ .draining → ∀ peer sessionId, s.In .running peer sessionId →
    s.sessions[peer]? = some sessionId
  emptied : s.loop = .draining → s.sessions = ∅
  stale : ∀ (peer : SocketAddr) (sessionId other : Nat), s.Unprocessed peer sessionId → s.sessions[peer]? = some other →
    other = sessionId
  pending : ∀ pending, s.loop = .sending pending →
    s.sessions[pending.peer]? = some pending.sessionId ∧
      (pending.room = true → s.In .running pending.peer pending.sessionId)

theorem Tracked.initial (nextSessionId : Nat) : Tracked (State.initial nextSessionId) where
  toWellFormed := WellFormed.initial nextSessionId
  entry := by simp [State.initial]
  running := by simp [State.initial,State.In]
  emptied := by simp [State.initial]
  stale := by simp [State.initial]
  pending := by simp [State.initial]

namespace State.In

theorem running {s : State} {peer : SocketAddr} {sessionId : Nat} (runs : s.In .running peer sessionId) :
    s.Running sessionId := by
  obtain ⟨task,member,same,_,running⟩ := runs
  exact ⟨task,member,same,running⟩

theorem phase_eq {s : State} (wellFormed : WellFormed s) {phase : TaskPhase} {peer : SocketAddr}
    {task : Association} (member : task ∈ s.tasks) (inside : s.In phase peer task.sessionId) :
    task.peer = peer ∧ task.phase = phase := by
  obtain ⟨other,present,same,where_,which⟩ := inside
  rw [wellFormed.unique present member same] at where_ which
  exact ⟨where_,which⟩

/-- A change of one task moves that task alone. -/
theorem update_iff {s : State} (wellFormed : WellFormed s) {task : Association} (member : task ∈ s.tasks)
    (change : Association → Association)
    (keeps : ∀ task, (change task).sessionId = task.sessionId ∧ (change task).peer = task.peer)
    (phase : TaskPhase) (peer : SocketAddr) (sessionId : Nat) :
    (s.update task.sessionId change).In phase peer sessionId ↔
      (sessionId ≠ task.sessionId ∧ s.In phase peer sessionId) ∨
        (sessionId = task.sessionId ∧ peer = task.peer ∧ phase = (change task).phase) := by
  constructor
  · intro ⟨_,changed,same⟩
    obtain ⟨old,present,rfl⟩ := mem_update.mp changed
    split_ifs at same with chosen
    · rw [wellFormed.unique present member chosen,(keeps task).1,(keeps task).2] at same
      obtain ⟨same,peer,phase⟩ := same
      exact .inr ⟨same.symm,peer.symm,phase.symm⟩
    · obtain ⟨same,peer,phase⟩ := same
      rw [same] at chosen
      exact .inl ⟨chosen,old,present,same,peer,phase⟩
  · intro either
    rcases either with ⟨different,old,present,same,peer,phase⟩ | ⟨rfl,rfl,rfl⟩
    · refine ⟨old,mem_update.mpr ⟨old,present,?_⟩,same,peer,phase⟩
      rw [if_neg (by rwa [same])]
    · refine ⟨change task,mem_update.mpr ⟨task,member,?_⟩,(keeps task).1,(keeps task).2,rfl⟩
      rw [if_pos rfl]

/-- What waits in an association's channel has no part in where it is. -/
theorem update_downstream {s : State} (wellFormed : WellFormed s) {task : Association}
    (member : task ∈ s.tasks) (downstream : Association → List (List UInt8))
    (phase : TaskPhase) (peer : SocketAddr) (sessionId : Nat) :
    (s.update task.sessionId fun task => { task with downstream := downstream task }).In phase peer sessionId ↔
      s.In phase peer sessionId := by
  rw [update_iff wellFormed member (fun task => { task with downstream := downstream task })
    (fun _ => ⟨rfl,rfl⟩)]
  constructor
  · intro either
    rcases either with ⟨_,inside⟩ | ⟨rfl,rfl,rfl⟩
    · exact inside
    · exact ⟨task,member,rfl,rfl,rfl⟩
  · intro inside
    by_cases same : sessionId = task.sessionId
    · subst same
      obtain ⟨peer,phase⟩ := phase_eq wellFormed member inside
      exact .inr ⟨rfl,peer.symm,phase.symm⟩
    · exact .inl ⟨same,inside⟩

theorem not_unprocessed {s : State} (wellFormed : WellFormed s) {peer other : SocketAddr}
    {sessionId : Nat} (runs : s.In .running peer sessionId) : ¬ s.Unprocessed other sessionId := by
  obtain ⟨task,member,rfl,_,running⟩ := runs
  intro unprocessed
  rcases unprocessed with ended | queued
  · have gone := (phase_eq wellFormed member ended).2
    rw [running] at gone
    cases gone
  · have completed := wellFormed.announced _ queued task member rfl
    rw [running] at completed
    cases completed

end State.In

section Effects
variable {s : State}

theorem in_finished_iff (wellFormed : WellFormed s) {task : Association} (member : task ∈ s.tasks)
    (peer : SocketAddr) (sessionId : Nat) :
    (s.update task.sessionId fun task => { task with downstream := [], phase := .ended }).In .running
      peer sessionId ↔ s.In .running peer sessionId ∧ sessionId ≠ task.sessionId := by
  rw [State.In.update_iff wellFormed member (fun task => { task with downstream := [], phase := .ended })
    (fun _ => ⟨rfl,rfl⟩)]
  simp [and_comm]

theorem unprocessed_finished_iff (wellFormed : WellFormed s) {task : Association}
    (member : task ∈ s.tasks) (running : task.phase = .running) (peer : SocketAddr) (sessionId : Nat) :
    (s.update task.sessionId fun task => { task with downstream := [], phase := .ended }).Unprocessed
      peer sessionId ↔ s.Unprocessed peer sessionId ∨ peer = task.peer ∧ sessionId = task.sessionId := by
  have runs : s.In .running task.peer task.sessionId := ⟨task,member,rfl,rfl,running⟩
  have apart (unprocessed : s.Unprocessed peer sessionId) : sessionId ≠ task.sessionId := by
    intro same
    rw [same] at unprocessed
    exact runs.not_unprocessed wellFormed unprocessed
  unfold State.Unprocessed
  rw [State.In.update_iff wellFormed member (fun task => { task with downstream := [], phase := .ended })
    (fun _ => ⟨rfl,rfl⟩)]
  constructor
  · intro either
    rcases either with (⟨_,ended⟩ | ⟨same,peer,_⟩) | queued
    · exact .inl (.inl ended)
    · exact .inr ⟨peer,same⟩
    · exact .inl (.inr queued)
  · intro either
    rcases either with (ended | queued) | ⟨peer,same⟩
    · exact .inl (.inl ⟨apart (.inl ended),ended⟩)
    · exact .inr queued
    · exact .inl (.inr ⟨same,peer,rfl⟩)

theorem in_completed_iff (wellFormed : WellFormed s) {task : Association} (member : task ∈ s.tasks)
    (ended : task.phase = .ended) (peer : SocketAddr) (sessionId : Nat) :
    (s.update task.sessionId fun task => { task with phase := .completed }).In .running peer sessionId ↔
      s.In .running peer sessionId := by
  rw [State.In.update_iff wellFormed member (fun task => { task with phase := .completed })
    (fun _ => ⟨rfl,rfl⟩)]
  simp only [reduceCtorEq,and_false,or_false,and_iff_right_iff_imp]
  intro inside same
  subst same
  have running := (State.In.phase_eq wellFormed member inside).2
  rw [ended] at running
  cases running

theorem unprocessed_completed_iff (wellFormed : WellFormed s) {task : Association}
    (member : task ∈ s.tasks) (ended : task.phase = .ended) (peer : SocketAddr) (sessionId : Nat) :
    State.Unprocessed { s.update task.sessionId fun task => { task with phase := .completed } with
      completions := s.completions ++ [⟨task.peer,task.sessionId⟩] } peer sessionId ↔
      s.Unprocessed peer sessionId := by
  have moved := State.In.update_iff wellFormed member (fun task => { task with phase := .completed })
    (fun _ => ⟨rfl,rfl⟩) .ended peer sessionId
  constructor
  · intro either
    rcases either with inside | queued
    · rcases moved.mp inside with ⟨_,still⟩ | ⟨_,_,impossible⟩
      · exact .inl still
      · cases impossible
    · rcases List.mem_append.mp queued with old | new
      · exact .inr old
      · cases List.mem_singleton.mp new
        exact .inl ⟨task,member,rfl,rfl,ended⟩
  · intro either
    rcases either with inside | queued
    · by_cases same : sessionId = task.sessionId
      · subst same
        obtain ⟨rfl,_⟩ := State.In.phase_eq wellFormed member inside
        exact .inr (List.mem_append_right _ (List.mem_singleton_self _))
      · exact .inl (moved.mpr (.inl ⟨same,inside⟩))
    · exact .inr (List.mem_append_left _ queued)

theorem in_joined_iff (wellFormed : WellFormed s) {task : Association} (member : task ∈ s.tasks)
    (completed : task.phase = .completed) {phase : TaskPhase} (before : phase ≠ .completed)
    (peer : SocketAddr) (sessionId : Nat) :
    State.In { s with tasks := s.tasks.filter fun other => other.sessionId ≠ task.sessionId } phase peer
      sessionId ↔ s.In phase peer sessionId := by
  constructor
  · intro ⟨other,kept,same⟩
    exact ⟨other,List.mem_of_mem_filter kept,same⟩
  · intro ⟨other,present,same,where_,which⟩
    refine ⟨other,List.mem_filter.mpr ⟨present,?_⟩,same,where_,which⟩
    rw [decide_eq_true_eq]
    intro equal
    rw [wellFormed.unique present member equal,completed] at which
    exact before which.symm

theorem in_opened_iff (peer : SocketAddr) (loop : LoopPhase)
    (sessions : Std.ExtTreeMap SocketAddr Nat) (phase : TaskPhase) (other : SocketAddr) (sessionId : Nat) :
    State.In ⟨sessions,s.tasks ++ [⟨s.nextSessionId,peer,[],.running⟩],s.completions,
      s.nextSessionId + 1,loop⟩ phase other sessionId ↔
      s.In phase other sessionId ∨ other = peer ∧ sessionId = s.nextSessionId ∧ phase = .running := by
  simp only [State.In,List.mem_append,List.mem_singleton,or_and_right,exists_or,exists_eq_left]
  constructor
  · intro either
    rcases either with old | ⟨same,where_,which⟩
    · exact .inl old
    · exact .inr ⟨where_.symm,same.symm,which.symm⟩
  · intro either
    rcases either with old | ⟨rfl,rfl,rfl⟩
    · exact .inl old
    · exact .inr ⟨rfl,rfl,rfl⟩

end Effects

namespace Tracked
variable {s t : State}

theorem transfer (tracked : Tracked s) (wellFormed : WellFormed t) (sessions : t.sessions = s.sessions)
    (runs : ∀ peer sessionId, t.In .running peer sessionId ↔ s.In .running peer sessionId)
    (unprocessed : ∀ peer sessionId, t.Unprocessed peer sessionId ↔ s.Unprocessed peer sessionId)
    (drained : s.loop = .draining ↔ t.loop = .draining)
    (pending : ∀ pending, t.loop = .sending pending →
      s.sessions[pending.peer]? = some pending.sessionId ∧
        (pending.room = true → s.In .running pending.peer pending.sessionId)) : Tracked t := by
  refine ⟨wellFormed,?_,?_,?_,?_,?_⟩
  · intro peer sessionId entry
    rw [runs,unprocessed]
    rw [sessions] at entry
    exact tracked.entry peer sessionId entry
  · intro loop peer sessionId inside
    rw [sessions]
    exact tracked.running (fun draining => loop (drained.mp draining)) peer sessionId
      ((runs peer sessionId).mp inside)
  · intro draining
    rw [sessions]
    exact tracked.emptied (drained.mpr draining)
  · intro peer sessionId other gone entry
    rw [sessions] at entry
    exact tracked.stale peer sessionId other ((unprocessed peer sessionId).mp gone) entry
  · intro waiting sending
    rw [sessions,runs]
    exact pending waiting sending

theorem erase (tracked : Tracked s) (wellFormed : WellFormed t) (peer : SocketAddr)
    (sessions : t.sessions = s.sessions.erase peer) (active : s.loop ≠ .draining)
    (selecting : t.loop = .selecting) (idle : ∀ sessionId, ¬ s.In .running peer sessionId)
    (runs : ∀ other sessionId, t.In .running other sessionId ↔ s.In .running other sessionId)
    (fewer : ∀ other sessionId, t.Unprocessed other sessionId → s.Unprocessed other sessionId)
    (kept : ∀ other sessionId, other ≠ peer → s.Unprocessed other sessionId →
      t.Unprocessed other sessionId) : Tracked t := by
  have lookup (other : SocketAddr) :
      t.sessions[other]? = if peer = other then none else s.sessions[other]? := by
    rw [sessions]
    exact Maps.erase_lookup s.sessions peer other
  refine ⟨wellFormed,?_,?_,?_,?_,?_⟩
  · intro other sessionId entry
    rw [lookup] at entry
    split_ifs at entry with same
    rcases tracked.entry other sessionId entry with inside | gone
    · exact .inl ((runs other sessionId).mpr inside)
    · exact .inr (kept other sessionId (Ne.symm same) gone)
  · intro _ other sessionId inside
    have before := (runs other sessionId).mp inside
    rw [lookup,if_neg]
    · exact tracked.running active other sessionId before
    · intro same
      subst same
      exact idle sessionId before
  · intro draining
    rw [selecting] at draining
    cases draining
  · intro other sessionId second gone entry
    rw [lookup] at entry
    split_ifs at entry
    exact tracked.stale other sessionId second (fewer other sessionId gone) entry
  · intro waiting sending
    rw [selecting] at sending
    cases sending

theorem open_new (tracked : Tracked s) (peer : SocketAddr) (payload : List UInt8) (room : Bool)
    (selecting : s.loop = .selecting) (absent : s.sessions[peer]? = none)
    (free : ∀ sessionId, ¬ s.Unprocessed peer sessionId)
    (wellFormed : WellFormed ⟨s.sessions.insert peer s.nextSessionId,
      s.tasks ++ [⟨s.nextSessionId,peer,[],.running⟩],s.completions,s.nextSessionId + 1,
      .sending ⟨peer,s.nextSessionId,payload,room⟩⟩) :
    Tracked ⟨s.sessions.insert peer s.nextSessionId,s.tasks ++ [⟨s.nextSessionId,peer,[],.running⟩],
      s.completions,s.nextSessionId + 1,.sending ⟨peer,s.nextSessionId,payload,room⟩⟩ := by
  have active : s.loop ≠ .draining := by
    rw [selecting]
    nofun
  have lookup (other : SocketAddr) := Maps.insert_lookup s.sessions peer other s.nextSessionId
  refine ⟨wellFormed,?_,?_,nofun,?_,?_⟩
  · intro other sessionId entry
    rw [lookup] at entry
    split_ifs at entry with same
    · cases entry
      exact .inl ((in_opened_iff _ _ _ _ _ _).mpr (.inr ⟨same.symm,rfl,rfl⟩))
    · rcases tracked.entry other sessionId entry with inside | ended | queued
      · exact .inl ((in_opened_iff _ _ _ _ _ _).mpr (.inl inside))
      · exact .inr (.inl ((in_opened_iff _ _ _ _ _ _).mpr (.inl ended)))
      · exact .inr (.inr queued)
  · intro _ other sessionId inside
    rw [lookup]
    rcases (in_opened_iff _ _ _ _ _ _).mp inside with before | ⟨rfl,rfl,_⟩
    · have entry := tracked.running active other sessionId before
      rw [if_neg]
      · exact entry
      · intro same
        rw [← same,absent] at entry
        cases entry
    · rw [if_pos rfl]
  · intro other sessionId second gone entry
    have before : s.Unprocessed other sessionId := by
      rcases gone with inside | queued
      · rcases (in_opened_iff _ _ _ _ _ _).mp inside with ended | ⟨_,_,impossible⟩
        · exact .inl ended
        · cases impossible
      · exact .inr queued
    rw [lookup,if_neg] at entry
    · exact tracked.stale other sessionId second before entry
    · intro same
      subst same
      exact free sessionId before
  · intro waiting sending
    cases sending
    refine ⟨?_,fun _ => (in_opened_iff _ _ _ _ _ _).mpr (.inr ⟨rfl,rfl,rfl⟩)⟩
    rw [lookup,if_pos rfl]

theorem finish {maxSessions : Nat} (tracked : Tracked s) {task : Association} (member : task ∈ s.tasks)
    (running : task.phase = .running) (separated : Separated maxSessions s (.finish task.sessionId))
    (wellFormed : WellFormed (s.update task.sessionId fun task => { task with downstream := [], phase := .ended })) :
    Tracked (s.update task.sessionId fun task => { task with downstream := [], phase := .ended }) := by
  have runs := in_finished_iff tracked.toWellFormed member
  have unprocessed := unprocessed_finished_iff tracked.toWellFormed member running
  have inside : s.In .running task.peer task.sessionId := ⟨task,member,rfl,rfl,running⟩
  refine ⟨wellFormed,?_,?_,tracked.emptied,?_,?_⟩
  · intro peer sessionId entry
    rw [runs,unprocessed]
    rcases tracked.entry peer sessionId entry with before | before
    · by_cases same : sessionId = task.sessionId
      · subst same
        obtain ⟨where_,_⟩ := State.In.phase_eq tracked.toWellFormed member before
        exact .inr (.inr ⟨where_.symm,rfl⟩)
      · exact .inl ⟨before,same⟩
    · exact .inr (.inl before)
  · intro active peer sessionId after
    exact tracked.running active peer sessionId ((runs peer sessionId).mp after).1
  · intro peer sessionId other gone entry
    rcases (unprocessed peer sessionId).mp gone with before | ⟨rfl,rfl⟩
    · exact tracked.stale peer sessionId other before entry
    · have before : s.sessions[task.peer]? = some other := entry
      by_cases draining : s.loop = .draining
      · rw [tracked.emptied draining] at before
        simp at before
      · rw [tracked.running draining task.peer task.sessionId inside] at before
        exact (Option.some.inj before).symm
  · intro pending sending
    obtain ⟨entry,waits⟩ := tracked.pending pending sending
    refine ⟨entry,fun room => (runs _ _).mpr ⟨waits room,?_⟩⟩
    have waiting : s.loop = .sending pending := sending
    simp only [Separated,waiting] at separated
    exact separated room

theorem process (tracked : Tracked s) {message : Completion} {rest : List Completion}
    (selecting : s.loop = .selecting) (queued : s.completions = message::rest)
    (wellFormed : WellFormed { s with sessions := s.sessions.erase message.peer, completions := rest }) :
    Tracked { s with sessions := s.sessions.erase message.peer, completions := rest } := by
  have own : s.Unprocessed message.peer message.sender := by
    right
    rw [queued]
    exact List.mem_cons_self
  have active : s.loop ≠ .draining := by
    rw [selecting]
    nofun
  refine tracked.erase wellFormed message.peer rfl active selecting ?_ (fun _ _ => Iff.rfl) ?_ ?_
  · intro sessionId runs
    have current := tracked.running active message.peer sessionId runs
    have same := tracked.stale message.peer message.sender sessionId own current
    subst same
    exact runs.not_unprocessed tracked.toWellFormed own
  · intro other sessionId gone
    apply gone.imp id
    intro later
    rw [queued]
    exact List.mem_cons_of_mem message later
  · intro other sessionId different gone
    apply gone.imp id
    intro before
    rw [queued] at before
    rcases List.mem_cons.mp before with same | later
    · exact absurd (congrArg Completion.peer same) different
    · exact later

theorem step {maxSessions : Nat} {event : Event} (tracked : Tracked s) (taken : Step maxSessions s event t)
    (separated : Separated maxSessions s event) : Tracked t := by
  have wellFormed := tracked.toWellFormed.step taken
  cases taken with
  | known peer payload selected sessionId selecting entry =>
    have free := separated.1 (.inl (by rw [entry]; rfl))
    have runs := (tracked.entry peer sessionId entry).resolve_right (fun gone => free gone.outstanding)
    refine tracked.transfer wellFormed rfl (fun _ _ => Iff.rfl) (fun _ _ => Iff.rfl) ?_ ?_
    · simp [selecting]
    · intro pending sending
      cases sending
      exact ⟨entry,fun _ => runs⟩
  | refused =>
    exact tracked.transfer wellFormed rfl (fun _ _ => Iff.rfl) (fun _ _ => Iff.rfl) Iff.rfl
      tracked.pending
  | opened peer payload selecting absent capacity =>
    have free := separated.1 (.inr ⟨rfl,capacity⟩)
    exact tracked.open_new peer payload _ selecting absent (fun _ gone => free gone.outstanding) wellFormed
  | receiveFails =>
    refine ⟨wellFormed,?_,?_,nofun,?_,nofun⟩
    · simp
    · simp [State.In]
    · simp
  | handedOver pending task sending member same =>
    have unmoved := State.In.update_downstream tracked.toWellFormed member
      (fun task => task.downstream ++ [pending.payload])
    rw [same] at unmoved
    refine tracked.transfer wellFormed rfl (unmoved .running) ?_ (by simp [sending]) nofun
    intro peer sessionId
    exact or_congr (unmoved .ended peer sessionId) Iff.rfl
  | handOverFailed pending sending gone =>
    obtain ⟨entry,_⟩ := tracked.pending pending sending
    have active : s.loop ≠ .draining := by
      rw [sending]
      nofun
    refine tracked.erase wellFormed pending.peer rfl active rfl ?_ (fun _ _ => Iff.rfl)
      (fun _ _ unprocessed => unprocessed) (fun _ _ _ unprocessed => unprocessed)
    intro sessionId runs
    have current := tracked.running active pending.peer sessionId runs
    rw [entry] at current
    cases current
    exact gone runs.running
  | consumed task member =>
    have unmoved := State.In.update_downstream tracked.toWellFormed member (fun task => task.downstream.tail)
    refine tracked.transfer wellFormed rfl (unmoved .running) ?_ Iff.rfl tracked.pending
    intro peer sessionId
    exact or_congr (unmoved .ended peer sessionId) Iff.rfl
  | finished task member running => exact tracked.finish member running separated wellFormed
  | completed task member ended =>
    exact tracked.transfer wellFormed rfl (in_completed_iff tracked.toWellFormed member ended)
      (unprocessed_completed_iff tracked.toWellFormed member ended) Iff.rfl tracked.pending
  | processed message rest selecting queued => exact tracked.process selecting queued wellFormed
  | joined task member completed =>
    have unmoved (phase : TaskPhase) (before : phase ≠ .completed) :=
      in_joined_iff tracked.toWellFormed member completed before
    refine tracked.transfer wellFormed rfl (unmoved .running nofun) ?_ Iff.rfl tracked.pending
    intro peer sessionId
    exact or_congr (unmoved .ended nofun peer sessionId) Iff.rfl
  | shutDown =>
    refine ⟨wellFormed,?_,?_,fun _ => rfl,?_,nofun⟩
    · simp
    · intro active
      exact absurd rfl active
    · simp

theorem removesOwnEntry {maxSessions : Nat} {event : Event} (tracked : Tracked s)
    (taken : Step maxSessions s event t) : RemovesOwnEntry s event t := by
  intro processing message head peer sessionId entry other
  cases taken with
  | processed first rest selecting queued =>
    rw [queued] at head
    cases head
    have own : s.Unprocessed message.peer message.sender := by
      right
      rw [queued]
      exact List.mem_cons_self
    change (s.sessions.erase message.peer)[peer]? = some sessionId
    rw [Maps.erase_lookup,if_neg]
    · exact entry
    · intro same
      subst same
      exact other (tracked.stale message.peer message.sender sessionId own entry)
  | _ => cases processing

theorem accepted {maxSessions : Nat} {peer : SocketAddr} {payload : List UInt8} {selected : Bool}
    (taken : Step maxSessions s (.receive peer payload selected) t)
    (separated : Separated maxSessions s (.receive peer payload selected)) (room : s.live < maxSessions)
    (chosen : s.sessions[peer]?.isSome ∨ selected = true) :
    ∃ sessionId, t.loop = .sending ⟨peer,sessionId,payload,true⟩ := by
  have room := decide_eq_true room
  cases taken with
  | known _ _ _ sessionId =>
    refine ⟨sessionId,?_⟩
    rw [room]
  | refused _ _ _ selecting absent reason =>
    have selected : selected = true := by simpa [absent] using chosen
    have full : maxSessions ≤ s.sessions.size := by simpa [selected] using reason
    have busy := separated.2 ⟨by rw [absent]; rfl,selected,full⟩
    have room := of_decide_eq_true room
    omega
  | opened =>
    refine ⟨s.nextSessionId,?_⟩
    rw [room]

theorem handed {maxSessions : Nat} {event : Event} (tracked : Tracked s) (taken : Step maxSessions s event t)
    {pending : Pending} (sending : s.loop = .sending pending) (room : pending.room = true) :
    t.loop = .sending pending ∨ ∃ task ∈ t.tasks, task.sessionId = pending.sessionId ∧
      task.peer = pending.peer ∧ task.phase = .running ∧ task.downstream.getLast? = some pending.payload := by
  have runs := (tracked.pending pending sending).2 room
  cases taken with
  | handedOver other task waiting member same running space =>
    rw [sending] at waiting
    cases waiting
    rw [← same] at runs
    obtain ⟨where_,_⟩ := State.In.phase_eq tracked.toWellFormed member runs
    refine .inr ⟨{ task with downstream := task.downstream ++ [pending.payload] },?_,same,where_,running,?_⟩
    · refine mem_update.mpr ⟨task,member,?_⟩
      rw [if_pos same]
    · exact List.getLast?_concat
  | handOverFailed other waiting gone =>
    rw [sending] at waiting
    cases waiting
    exact absurd runs.running gone
  | consumed | finished | completed => exact .inl sending
  | joined task member completed joining =>
    rw [sending] at joining
    rcases joining with impossible | impossible <;> cases impossible
  | known _ _ _ _ selecting | refused _ _ _ selecting | opened _ _ selecting | receiveFails selecting
  | processed _ _ selecting | shutDown selecting =>
    rw [sending] at selecting
    cases selecting

theorem handsOver {maxSessions : Nat} {event : Event} (tracked : Tracked s)
    (taken : Step maxSessions s event t) (separated : Separated maxSessions s event) :
    HandsOver maxSessions s event t where
  accepted := by
    intro peer payload selected receiving
    subst receiving
    exact accepted taken separated
  waits := by
    intro pending sending
    exact ((tracked.step taken separated).pending pending sending).2
  handed := by
    intro pending sending
    exact handed tracked taken sending

end Tracked

/-- In a run whose steps are separated, completions take only their own sender's
entry away and every datagram owed to an association reaches one that runs. -/
theorem table_exact_of_separated (maxSessions nextSessionId : Nat) (events : List Event)
    (separated : Along (step maxSessions) (fun s event _ => Separated maxSessions s event)
      (State.initial nextSessionId) events) :
    Along (step maxSessions) (fun s event t => RemovesOwnEntry s event t ∧ HandsOver maxSessions s event t)
      (State.initial nextSessionId) events := by
  refine along_of_invariant ?_ (Tracked.initial nextSessionId) separated
  intro s event t tracked taken separated
  have taken := Step.of_step taken
  exact ⟨tracked.step taken separated,tracked.removesOwnEntry taken,tracked.handsOver taken separated⟩

section Runs

def clientA : SocketAddr := .v4 0x0a000002 40000

/-- One peer, twice: its second association opens after the first one's completion
has been processed. -/
def reopening : List Event :=
  [.receive clientA [1] true,.handOver,.consume 0,.finish 0,.complete 0,.processCompletion,.join 0,
    .receive clientA [2] true,.handOver]

theorem table_exact_reopening :
    Along (step defaultUdpMaxSessions)
      (fun s event t => RemovesOwnEntry s event t ∧ HandsOver defaultUdpMaxSessions s event t)
      (State.initial 0) reopening ∧
    (run (step defaultUdpMaxSessions) (State.initial 0) reopening).isSome :=
  ⟨table_exact_of_separated defaultUdpMaxSessions 0 reopening (by decide +kernel),by decide +kernel⟩

/-- The peer sends while its association's end is still unprocessed. -/
def crossing : List Event :=
  [.receive clientA [1] true,.handOver,.finish 0,.receive clientA [2] true]

/-- The send to the ended association fails, and the next datagram opens a second
association while the first one's completion is in the channel. -/
def reopenedEarly : List Event :=
  crossing ++ [.handOverFails,.receive clientA [3] true,.handOver,.complete 0]

theorem table_crossing_exchanges_entries :
    (¬ ∀ events, Along (step defaultUdpMaxSessions) RemovesOwnEntry (State.initial 0) events) ∧
    ¬ ∀ events, Along (step defaultUdpMaxSessions) (HandsOver defaultUdpMaxSessions) (State.initial 0) events := by
  constructor
  · intro always
    obtain ⟨s,reached⟩ : ∃ s, run (step defaultUdpMaxSessions) (State.initial 0) reopenedEarly = some s :=
      Option.isSome_iff_exists.mp (by decide +kernel)
    have observed : (run (step defaultUdpMaxSessions) (State.initial 0) reopenedEarly).map
        (fun s => (s.loop,s.completions,s.sessions[clientA]?)) =
          some (.selecting,[⟨clientA,0⟩],some 1) := by decide +kernel
    rw [reached] at observed
    injection observed with observed
    injection observed with selecting observed
    injection observed with queued entry
    have taken : step defaultUdpMaxSessions s .processCompletion =
        some { s with sessions := s.sessions.erase clientA, completions := [] } := by
      simp [step,selecting,queued]
    have kept := (always (reopenedEarly ++ [.processCompletion])).step_after reached taken rfl
      ⟨clientA,0⟩ (by rw [queued]; rfl) clientA 1 entry (by decide)
    simp at kept
  · intro always
    obtain ⟨s,reached⟩ : ∃ s, run (step defaultUdpMaxSessions) (State.initial 0) crossing = some s :=
      Option.isSome_iff_exists.mp (by decide +kernel)
    have observed : (run (step defaultUdpMaxSessions) (State.initial 0) crossing).map
        (fun s => (s.loop,s.tasks)) =
          some (.sending ⟨clientA,0,[2],true⟩,[⟨0,clientA,[],.ended⟩]) := by decide +kernel
    rw [reached] at observed
    injection observed with observed
    injection observed with sending tasks
    have gone : ¬ s.Running 0 := by simp [State.Running,tasks]
    have taken : step defaultUdpMaxSessions s .handOverFails =
        some { s with sessions := s.sessions.erase clientA, loop := .selecting } := by
      simp [step,sending,gone]
    have handed := ((always (crossing ++ [.handOverFails])).step_after reached taken).handed
      ⟨clientA,0,[2],true⟩ sending rfl
    simp [tasks] at handed

end Runs

end Dynet.Ingress.UdpRelay
