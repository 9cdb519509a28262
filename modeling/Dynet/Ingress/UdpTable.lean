import Dynet.Lib.Machine
import Dynet.Ingress.Config
import Std.Data.ExtTreeMap
import Mathlib.Data.List.Nodup

/-! The UDP relay's association table. The receive loop, the association tasks and
the two kinds of bounded channels between them are one state, and every point at
which the loop or a task can be suspended is an event. A task owns the receiving
end of its datagram channel exactly while it runs its egress, announces its end by
its peer address alone, and is joined by the loop.

A session's identifier stands for the association, its task and the sender that the
table holds. Events that a source step records are left out. -/
namespace Dynet.Ingress.UdpRelay
open Dynet.Runtime Dynet.Lib Dynet.Lib.Machine

def udpChannelDepth : Nat := 64

inductive TaskPhase where
  /-- inside `handle_udp` -/
  | running
  /-- `handle_udp` has returned and `complete_tx.send` is pending -/
  | ended
  /-- the completion is in the channel -/
  | completed
  deriving DecidableEq, Repr

structure Association where
  sessionId : Nat
  peer : SocketAddr
  downstream : List (List UInt8)
  phase : TaskPhase
  deriving DecidableEq, Repr

/-- The message is `peer`; `sender` is who sent it and is read by no step. -/
structure Completion where
  peer : SocketAddr
  sender : Nat
  deriving DecidableEq, Repr

/-- A datagram the loop waits to hand over. `room` says whether fewer than
`max_sessions` associations were running when it was received and is read by no step. -/
structure Pending where
  peer : SocketAddr
  sessionId : Nat
  payload : List UInt8
  room : Bool
  deriving DecidableEq, Repr

inductive LoopPhase where
  | selecting
  | sending (pending : Pending)
  | draining
  | failed
  deriving DecidableEq, Repr

structure State where
  sessions : Std.ExtTreeMap SocketAddr Nat
  tasks : List Association
  completions : List Completion
  nextSessionId : Nat
  loop : LoopPhase

inductive Event where
  | receive (peer : SocketAddr) (payload : List UInt8) (selected : Bool)
  | receiveFails
  | handOver
  | handOverFails
  | consume (sessionId : Nat)
  | finish (sessionId : Nat)
  | complete (sessionId : Nat)
  | processCompletion
  | join (sessionId : Nat)
  | shutdown
  deriving DecidableEq, Repr

namespace State

def initial (nextSessionId : Nat) : State := ⟨∅,[],[],nextSessionId,.selecting⟩

def task (s : State) (sessionId : Nat) : Option Association :=
  s.tasks.find? fun task => task.sessionId = sessionId

def update (s : State) (sessionId : Nat) (change : Association → Association) : State :=
  { s with tasks := s.tasks.map fun task => if task.sessionId = sessionId then change task else task }

def live (s : State) : Nat := s.tasks.countP fun task => task.phase = .running

def Running (s : State) (sessionId : Nat) : Prop :=
  ∃ task ∈ s.tasks, task.sessionId = sessionId ∧ task.phase = .running

instance (s : State) (sessionId : Nat) : Decidable (s.Running sessionId) :=
  inferInstanceAs (Decidable (∃ task ∈ s.tasks, _))

-- The identifier is taken before the capacity and selection checks fail.
def receive (maxSessions : Nat) (s : State) (peer : SocketAddr) (payload : List UInt8)
    (selected : Bool) : State :=
  let room : Bool := s.live < maxSessions
  match s.sessions[peer]? with
  | some sessionId => { s with loop := .sending ⟨peer,sessionId,payload,room⟩ }
  | none =>
    let sessionId := s.nextSessionId
    let s := { s with nextSessionId := sessionId + 1 }
    if s.sessions.size ≥ maxSessions then s
    else if !selected then s
    else { s with
      sessions := s.sessions.insert peer sessionId
      tasks := s.tasks ++ [⟨sessionId,peer,[],.running⟩]
      loop := .sending ⟨peer,sessionId,payload,room⟩ }

end State

def step (maxSessions : Nat) (s : State) : Event → Option State
  | .receive peer payload selected =>
    if s.loop = .selecting then some (s.receive maxSessions peer payload selected) else none
  -- An error of the socket returns from `run_udp`, which aborts the tasks and
  -- drops both ends of the completion channel.
  | .receiveFails =>
    if s.loop = .selecting then some { s with sessions := ∅, tasks := [], completions := [], loop := .failed }
    else none
  | .handOver => match s.loop with
    | .sending pending => match s.task pending.sessionId with
      | some task =>
        if task.phase = .running ∧ task.downstream.length < udpChannelDepth then
          some { s.update pending.sessionId fun task =>
            { task with downstream := task.downstream ++ [pending.payload] } with loop := .selecting }
        else none
      | none => none
    | _ => none
  | .handOverFails => match s.loop with
    | .sending pending =>
      if s.Running pending.sessionId then none
      else some { s with sessions := s.sessions.erase pending.peer, loop := .selecting }
    | _ => none
  | .consume sessionId => match s.task sessionId with
    | some task =>
      if task.phase = .running ∧ task.downstream ≠ [] then
        some (s.update sessionId fun task => { task with downstream := task.downstream.tail })
      else none
    | none => none
  | .finish sessionId => match s.task sessionId with
    | some task =>
      if task.phase = .running then
        some (s.update sessionId fun task => { task with downstream := [], phase := .ended })
      else none
    | none => none
  | .complete sessionId => match s.task sessionId with
    | some task =>
      if task.phase = .ended ∧ s.completions.length < udpChannelDepth then
        some { s.update sessionId fun task => { task with phase := .completed } with
          completions := s.completions ++ [⟨task.peer,sessionId⟩] }
      else none
    | none => none
  | .processCompletion =>
    if s.loop = .selecting then match s.completions with
      | [] => none
      | message::rest =>
        some { s with sessions := s.sessions.erase message.peer, completions := rest }
    else none
  | .join sessionId => match s.task sessionId with
    | some task =>
      if task.phase = .completed ∧ (s.loop = .selecting ∨ s.loop = .draining) then
        some { s with tasks := s.tasks.filter fun task => task.sessionId ≠ sessionId }
      else none
    | none => none
  -- The table and the loop's own `complete_tx` are dropped, `complete_rx` is not.
  | .shutdown =>
    if s.loop = .selecting then some { s with sessions := ∅, loop := .draining } else none


/-- What an enabled event does, one rule for each way through the source. -/
inductive Step (maxSessions : Nat) (s : State) : Event → State → Prop
  | known (peer : SocketAddr) (payload : List UInt8) (selected : Bool) (sessionId : Nat)
      (selecting : s.loop = .selecting) (entry : s.sessions[peer]? = some sessionId) :
      Step maxSessions s (.receive peer payload selected)
        { s with loop := .sending ⟨peer,sessionId,payload,s.live < maxSessions⟩ }
  | refused (peer : SocketAddr) (payload : List UInt8) (selected : Bool)
      (selecting : s.loop = .selecting) (absent : s.sessions[peer]? = none)
      (reason : maxSessions ≤ s.sessions.size ∨ selected = false) :
      Step maxSessions s (.receive peer payload selected) { s with nextSessionId := s.nextSessionId + 1 }
  | opened (peer : SocketAddr) (payload : List UInt8)
      (selecting : s.loop = .selecting) (absent : s.sessions[peer]? = none)
      (capacity : s.sessions.size < maxSessions) :
      Step maxSessions s (.receive peer payload true)
        { sessions := s.sessions.insert peer s.nextSessionId
          tasks := s.tasks ++ [⟨s.nextSessionId,peer,[],.running⟩]
          completions := s.completions
          nextSessionId := s.nextSessionId + 1
          loop := .sending ⟨peer,s.nextSessionId,payload,s.live < maxSessions⟩ }
  | receiveFails (selecting : s.loop = .selecting) :
      Step maxSessions s .receiveFails
        { s with sessions := ∅, tasks := [], completions := [], loop := .failed }
  | handedOver (pending : Pending) (task : Association) (sending : s.loop = .sending pending)
      (member : task ∈ s.tasks) (same : task.sessionId = pending.sessionId)
      (running : task.phase = .running) (space : task.downstream.length < udpChannelDepth) :
      Step maxSessions s .handOver { s.update pending.sessionId fun task =>
        { task with downstream := task.downstream ++ [pending.payload] } with loop := .selecting }
  | handOverFailed (pending : Pending) (sending : s.loop = .sending pending)
      (gone : ¬ s.Running pending.sessionId) :
      Step maxSessions s .handOverFails
        { s with sessions := s.sessions.erase pending.peer, loop := .selecting }
  | consumed (task : Association) (member : task ∈ s.tasks) (running : task.phase = .running)
      (queued : task.downstream ≠ []) :
      Step maxSessions s (.consume task.sessionId)
        (s.update task.sessionId fun task => { task with downstream := task.downstream.tail })
  | finished (task : Association) (member : task ∈ s.tasks) (running : task.phase = .running) :
      Step maxSessions s (.finish task.sessionId)
        (s.update task.sessionId fun task => { task with downstream := [], phase := .ended })
  | completed (task : Association) (member : task ∈ s.tasks) (ended : task.phase = .ended)
      (space : s.completions.length < udpChannelDepth) :
      Step maxSessions s (.complete task.sessionId)
        { s.update task.sessionId fun task => { task with phase := .completed } with
          completions := s.completions ++ [⟨task.peer,task.sessionId⟩] }
  | processed (message : Completion) (rest : List Completion) (selecting : s.loop = .selecting)
      (queued : s.completions = message::rest) :
      Step maxSessions s .processCompletion
        { s with sessions := s.sessions.erase message.peer, completions := rest }
  | joined (task : Association) (member : task ∈ s.tasks) (completed : task.phase = .completed)
      (joining : s.loop = .selecting ∨ s.loop = .draining) :
      Step maxSessions s (.join task.sessionId)
        { s with tasks := s.tasks.filter fun other => other.sessionId ≠ task.sessionId }
  | shutDown (selecting : s.loop = .selecting) :
      Step maxSessions s .shutdown { s with sessions := ∅, loop := .draining }

theorem task_some {s : State} {sessionId : Nat} {task : Association}
    (found : s.task sessionId = some task) : task ∈ s.tasks ∧ task.sessionId = sessionId := by
  refine ⟨List.mem_of_find?_eq_some found,?_⟩
  simpa using List.find?_some found

theorem task_step {s t : State} {sessionId : Nat} {allowed : Association → Prop} [DecidablePred allowed]
    {next : Association → State}
    (taken : (match s.task sessionId with
      | some task => if allowed task then some (next task) else none
      | none => none) = some t) :
    ∃ task ∈ s.tasks, task.sessionId = sessionId ∧ allowed task ∧ t = next task := by
  split at taken
  next task found =>
    simp only [Option.ite_none_right_eq_some,Option.some.injEq] at taken
    obtain ⟨holds,same⟩ := taken
    obtain ⟨member,named⟩ := task_some found
    exact ⟨task,member,named,holds,same.symm⟩
  next => cases taken

theorem Step.of_receive {maxSessions : Nat} {s : State} (peer : SocketAddr) (payload : List UInt8)
    (selected : Bool) (selecting : s.loop = .selecting) :
    Step maxSessions s (.receive peer payload selected) (s.receive maxSessions peer payload selected) := by
  unfold State.receive
  split
  next sessionId entry => exact .known peer payload selected sessionId selecting entry
  next absent =>
    dsimp only
    split_ifs with full refused
    · exact .refused peer payload selected selecting absent (.inl full)
    · exact .refused peer payload selected selecting absent (.inr (by simpa using refused))
    · have chosen : selected = true := by simpa using refused
      subst chosen
      exact .opened peer payload selecting absent (Nat.lt_of_not_ge full)

theorem Step.of_step {maxSessions : Nat} {s t : State} {event : Event}
    (taken : step maxSessions s event = some t) : Step maxSessions s event t := by
  cases event with
  | receive peer payload selected =>
    simp only [step,Option.ite_none_right_eq_some,Option.some.injEq] at taken
    obtain ⟨selecting,rfl⟩ := taken
    exact .of_receive peer payload selected selecting
  | receiveFails =>
    simp only [step,Option.ite_none_right_eq_some,Option.some.injEq] at taken
    obtain ⟨selecting,rfl⟩ := taken
    exact .receiveFails selecting
  | handOver =>
    simp only [step] at taken
    split at taken
    next pending sending =>
      obtain ⟨task,member,same,⟨running,space⟩,rfl⟩ := task_step taken
      exact .handedOver pending task sending member same running space
    next => cases taken
  | handOverFails =>
    simp only [step] at taken
    split at taken
    next pending sending =>
      simp only [Option.ite_none_left_eq_some,Option.some.injEq] at taken
      obtain ⟨gone,rfl⟩ := taken
      exact .handOverFailed pending sending gone
    next => cases taken
  | consume sessionId =>
    obtain ⟨task,member,rfl,⟨running,queued⟩,rfl⟩ := task_step taken
    exact .consumed task member running queued
  | finish sessionId =>
    obtain ⟨task,member,rfl,running,rfl⟩ := task_step taken
    exact .finished task member running
  | complete sessionId =>
    obtain ⟨task,member,rfl,⟨ended,space⟩,rfl⟩ := task_step taken
    exact .completed task member ended space
  | processCompletion =>
    simp only [step] at taken
    split at taken
    next selecting =>
      split at taken
      next => cases taken
      next message rest queued =>
        cases taken
        exact .processed message rest selecting queued
    next => cases taken
  | join sessionId =>
    obtain ⟨task,member,rfl,⟨completed,joining⟩,rfl⟩ := task_step taken
    exact .joined task member completed joining
  | shutdown =>
    simp only [step,Option.ite_none_right_eq_some,Option.some.injEq] at taken
    obtain ⟨selecting,rfl⟩ := taken
    exact .shutDown selecting

/-- What holds of tasks and completions in every run. -/
structure WellFormed (s : State) : Prop where
  distinct : (s.tasks.map (·.sessionId)).Nodup
  fresh : ∀ task ∈ s.tasks, task.sessionId < s.nextSessionId
  sent : ∀ message ∈ s.completions, message.sender < s.nextSessionId
  announced : ∀ message ∈ s.completions, ∀ task ∈ s.tasks,
    task.sessionId = message.sender → task.phase = .completed
  bounded : s.completions.length ≤ udpChannelDepth

theorem mem_update {s : State} {sessionId : Nat} {change : Association → Association} {task : Association} :
    task ∈ (s.update sessionId change).tasks ↔
      ∃ old ∈ s.tasks, (if old.sessionId = sessionId then change old else old) = task :=
  List.mem_map

theorem WellFormed.unique {s : State} (wellFormed : WellFormed s) {first second : Association}
    (left : first ∈ s.tasks) (right : second ∈ s.tasks) (same : first.sessionId = second.sessionId) :
    first = second :=
  List.inj_on_of_nodup_map wellFormed.distinct left right same

theorem WellFormed.update {s : State} (wellFormed : WellFormed s) (sessionId : Nat)
    (change : Association → Association) (keeps : ∀ task, (change task).sessionId = task.sessionId)
    (stays : ∀ task ∈ s.tasks, task.sessionId = sessionId → task.phase = .completed →
      (change task).phase = .completed) :
    WellFormed (s.update sessionId change) := by
  have identity (task : Association) :
      (if task.sessionId = sessionId then change task else task).sessionId = task.sessionId := by
    split_ifs
    · exact keeps task
    · rfl
  refine ⟨?_,?_,wellFormed.sent,?_,wellFormed.bounded⟩
  · have same : (s.update sessionId change).tasks.map (·.sessionId) = s.tasks.map (·.sessionId) := by
      simp only [State.update,List.map_map]
      exact List.map_congr_left fun task _ => identity task
    rw [same]
    exact wellFormed.distinct
  · intro task member
    obtain ⟨old,present,rfl⟩ := mem_update.mp member
    rw [identity]
    exact wellFormed.fresh old present
  · intro message queued task member same
    obtain ⟨old,present,rfl⟩ := mem_update.mp member
    rw [identity] at same
    have completed := wellFormed.announced message queued old present same
    split_ifs with chosen
    · exact stays old present chosen completed
    · exact completed

theorem WellFormed.initial (nextSessionId : Nat) : WellFormed (State.initial nextSessionId) := by
  constructor <;> simp [State.initial]

theorem WellFormed.open_new {s : State} (wellFormed : WellFormed s) (peer : SocketAddr)
    (sessions : Std.ExtTreeMap SocketAddr Nat) (loop : LoopPhase) :
    WellFormed { s with
      sessions
      nextSessionId := s.nextSessionId + 1
      tasks := s.tasks ++ [⟨s.nextSessionId,peer,[],.running⟩]
      loop } := by
  refine ⟨?_,?_,?_,?_,wellFormed.bounded⟩
  · rw [List.map_append,List.map_singleton,← List.concat_eq_append,List.nodup_concat]
    refine ⟨?_,wellFormed.distinct⟩
    intro used
    obtain ⟨task,member,same⟩ := List.mem_map.mp used
    exact absurd same (Nat.ne_of_lt (wellFormed.fresh task member))
  · intro task member
    rcases List.mem_append.mp member with old | new
    · exact Nat.lt_succ_of_lt (wellFormed.fresh task old)
    · rw [List.mem_singleton.mp new]
      exact Nat.lt_succ_self _
  · intro message queued
    exact Nat.lt_succ_of_lt (wellFormed.sent message queued)
  · intro message queued task member same
    rcases List.mem_append.mp member with old | new
    · exact wellFormed.announced message queued task old same
    · rw [List.mem_singleton.mp new] at same
      exact absurd same.symm (Nat.ne_of_lt (wellFormed.sent message queued))

theorem WellFormed.complete {s : State} (wellFormed : WellFormed s) {task : Association}
    (member : task ∈ s.tasks) (space : s.completions.length < udpChannelDepth) :
    WellFormed { s.update task.sessionId fun task => { task with phase := .completed } with
      completions := s.completions ++ [⟨task.peer,task.sessionId⟩] } := by
  have updated := wellFormed.update task.sessionId (fun task => { task with phase := .completed })
    (fun _ => rfl) (fun _ _ _ _ => rfl)
  refine ⟨updated.distinct,updated.fresh,?_,?_,?_⟩
  · intro message queued
    rcases List.mem_append.mp queued with old | new
    · exact wellFormed.sent message old
    · rw [List.mem_singleton.mp new]
      exact wellFormed.fresh task member
  · intro message queued other present same
    rcases List.mem_append.mp queued with old | new
    · exact updated.announced message old other present same
    · rw [List.mem_singleton.mp new] at same
      obtain ⟨before,_,rfl⟩ := mem_update.mp present
      split_ifs with chosen
      · rfl
      · rw [if_neg chosen] at same
        exact absurd same chosen
  · rw [List.length_append,List.length_singleton]
    exact space

theorem WellFormed.step {maxSessions : Nat} {s t : State} {event : Event} (wellFormed : WellFormed s)
    (taken : Step maxSessions s event t) : WellFormed t := by
  cases taken with
  | known => exact { wellFormed with }
  | refused =>
    exact { wellFormed with
      fresh := fun task member => Nat.lt_succ_of_lt (wellFormed.fresh task member)
      sent := fun message queued => Nat.lt_succ_of_lt (wellFormed.sent message queued) }
  | opened peer payload => exact wellFormed.open_new peer _ _
  | receiveFails => constructor <;> simp
  | handedOver pending task sending member same running space =>
    have updated := wellFormed.update pending.sessionId
      (fun task => { task with downstream := task.downstream ++ [pending.payload] })
      (fun _ => rfl) (fun _ _ _ completed => completed)
    exact { updated with }
  | handOverFailed => exact { wellFormed with }
  | consumed task =>
    exact wellFormed.update task.sessionId _ (fun _ => rfl) (fun _ _ _ completed => completed)
  | finished task member running =>
    refine wellFormed.update task.sessionId _ (fun _ => rfl) ?_
    intro other present same completed
    rw [wellFormed.unique present member same,running] at completed
    cases completed
  | completed task member ended space => exact wellFormed.complete member space
  | processed message rest selecting queued =>
    have rest_subset (later : Completion) (member : later ∈ rest) : later ∈ s.completions := by
      rw [queued]
      exact List.mem_cons_of_mem message member
    refine ⟨wellFormed.distinct,wellFormed.fresh,?_,?_,?_⟩
    · intro later member
      exact wellFormed.sent later (rest_subset later member)
    · intro later member
      exact wellFormed.announced later (rest_subset later member)
    · have bounded := wellFormed.bounded
      rw [queued,List.length_cons] at bounded
      exact Nat.le_of_succ_le bounded
  | joined task =>
    refine ⟨?_,?_,wellFormed.sent,?_,wellFormed.bounded⟩
    · exact wellFormed.distinct.sublist (List.Sublist.map _ List.filter_sublist)
    · intro other member
      exact wellFormed.fresh other (List.mem_of_mem_filter member)
    · intro message queued other member
      exact wellFormed.announced message queued other (List.mem_of_mem_filter member)
  | shutDown => exact { wellFormed with }

theorem WellFormed.reached {maxSessions nextSessionId : Nat} {s : State}
    (reaches : Reaches (UdpRelay.step maxSessions) (State.initial nextSessionId) s) : WellFormed s := by
  apply reaches.invariant (fun _ _ _ wellFormed taken => WellFormed.step wellFormed (Step.of_step taken))
  exact WellFormed.initial nextSessionId

end Dynet.Ingress.UdpRelay
