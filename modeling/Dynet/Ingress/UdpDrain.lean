import Mathlib.Algebra.GroupWithZero.Nat
import Dynet.Ingress.UdpTable
import Dynet.Lib.Maps

/-! The drain phase of the UDP relay. After shutdown the loop only joins tasks: the
completion channel keeps its receiver and nobody reads from it, so every completion
that is still to be sent needs a free slot. -/
namespace Dynet.Ingress.UdpRelay
open Dynet.Runtime Dynet.Lib Dynet.Lib.Machine

namespace State

def unsent (s : State) : Nat := s.tasks.countP fun task => task.phase ≠ .completed

end State

/-- Slots of the completion channel that the drain phase fills in the end. -/
def demand (s : State) : Nat := s.completions.length + s.unsent

def remaining : TaskPhase → Nat
  | .running => 3
  | .ended => 2
  | .completed => 1

/-- Steps that the tasks can take at most before all of them are joined. -/
def weight (s : State) : Nat :=
  (s.tasks.map fun task => task.downstream.length + remaining task.phase).sum

theorem WellFormed.split {s : State} (wellFormed : WellFormed s) {task : Association}
    (member : task ∈ s.tasks) :
    ∃ before after, s.tasks = before ++ task::after ∧
      (∀ change, (s.update task.sessionId change).tasks = before ++ change task::after) ∧
      s.tasks.filter (fun other => other.sessionId ≠ task.sessionId) = before ++ after := by
  obtain ⟨before,after,split⟩ := List.append_of_mem member
  have distinct := wellFormed.distinct
  rw [split,List.map_append,List.map_cons,List.nodup_middle,List.nodup_cons,← List.map_append] at distinct
  have apart (other : Association) (present : other ∈ before ++ after) :
      other.sessionId ≠ task.sessionId := by
    intro same
    exact distinct.1 (same ▸ List.mem_map_of_mem present)
  refine ⟨before,after,split,?_,?_⟩
  · intro change
    have unchanged (part : List Association) (inside : part ⊆ before ++ after) :
        part.map (fun other => if other.sessionId = task.sessionId then change other else other) = part := by
      conv_rhs => rw [← List.map_id part]
      apply List.map_congr_left
      intro other present
      exact if_neg (apart other (inside present))
    simp only [State.update,split,List.map_append,List.map_cons,if_true]
    rw [unchanged before (List.subset_append_left before after),
      unchanged after (List.subset_append_right before after)]
  · rw [split,List.filter_append,List.filter_cons_of_neg (by simp),← List.filter_append]
    apply List.filter_eq_self.mpr
    intro other present
    exact decide_eq_true (apart other present)

/-- In the drain phase a step stays in it, keeps the demand and lowers the weight. -/
theorem drain_step {maxSessions : Nat} {s t : State} {event : Event} (wellFormed : WellFormed s)
    (draining : s.loop = .draining) (taken : Step maxSessions s event t) :
    t.loop = .draining ∧ demand t = demand s ∧ weight t < weight s := by
  cases taken with
  | known _ _ _ _ selecting | refused _ _ _ selecting | opened _ _ selecting | receiveFails selecting
  | processed _ _ selecting | shutDown selecting =>
    rw [draining] at selecting
    cases selecting
  | handedOver pending task sending | handOverFailed pending sending =>
    rw [draining] at sending
    cases sending
  | consumed task member running queued =>
    obtain ⟨before,after,split,updated,_⟩ := wellFormed.split member
    have shorter := List.length_pos_iff.mpr queued
    refine ⟨draining,?_,?_⟩
    · simp only [demand,State.unsent,updated,split,List.countP_append,List.countP_cons]
      rfl
    · simp only [weight,updated,split,List.map_append,List.map_cons,List.sum_append,List.sum_cons,
        List.length_tail]
      omega
  | finished task member running =>
    obtain ⟨before,after,split,updated,_⟩ := wellFormed.split member
    refine ⟨draining,?_,?_⟩
    · simp only [demand,State.unsent,updated,split,List.countP_append,List.countP_cons,running]
      rfl
    · simp only [weight,updated,split,List.map_append,List.map_cons,List.sum_append,List.sum_cons,
        List.length_nil,running,remaining]
      omega
  | completed task member ended space =>
    obtain ⟨before,after,split,updated,_⟩ := wellFormed.split member
    refine ⟨draining,?_,?_⟩
    · simp only [demand,State.unsent,updated,split,List.countP_append,List.countP_cons,ended,
        List.length_append,List.length_singleton]
      simp only [ne_eq,decide_not,not_true_eq_false,decide_false,Bool.false_eq_true,if_false,if_true,
        reduceCtorEq,not_false_eq_true,decide_true]
      omega
    · simp only [weight,updated,split,List.map_append,List.map_cons,List.sum_append,List.sum_cons,
        ended,remaining]
      omega
  | joined task member completed joining =>
    obtain ⟨before,after,split,_,filtered⟩ := wellFormed.split member
    refine ⟨draining,?_,?_⟩
    · simp only [demand,State.unsent,filtered]
      simp only [split,List.countP_append,List.countP_cons,completed]
      simp
    · simp only [weight,filtered]
      simp only [split,List.map_append,List.map_cons,List.sum_append,List.sum_cons,completed,remaining]
      omega

theorem task_of_mem {s : State} (wellFormed : WellFormed s) {task : Association}
    (member : task ∈ s.tasks) : s.task task.sessionId = some task :=
  (Maps.find_key_iff Association.sessionId s.tasks task.sessionId task wellFormed.distinct).mpr ⟨member,rfl⟩

/-- As long as the channel has room for what is to come, some task can go on. -/
theorem enabled_of_demand {maxSessions : Nat} {s : State} (wellFormed : WellFormed s)
    (draining : s.loop = .draining) (room : demand s ≤ udpChannelDepth) (left : s.tasks ≠ []) :
    Enabled (step maxSessions) s := by
  obtain ⟨task,member⟩ := List.exists_mem_of_ne_nil s.tasks left
  have found := task_of_mem wellFormed member
  cases phase : task.phase with
  | running =>
    refine ⟨.finish task.sessionId,?_⟩
    simp [step,found,phase]
  | ended =>
    have waiting : 0 < s.unsent := by
      apply List.countP_pos_iff.mpr
      refine ⟨task,member,?_⟩
      rw [phase]
      rfl
    have space : s.completions.length < udpChannelDepth := by
      unfold demand at room
      omega
    refine ⟨.complete task.sessionId,?_⟩
    simp [step,found,phase,space]
  | completed =>
    refine ⟨.join task.sessionId,?_⟩
    simp [step,found,phase,draining]

/-- What the drain phase keeps. -/
structure Draining (slots : Nat) (s : State) : Prop extends WellFormed s where
  phase : s.loop = .draining
  demanded : demand s = slots

theorem Draining.step {maxSessions slots : Nat} {s t : State} {event : Event} (draining : Draining slots s)
    (taken : UdpRelay.step maxSessions s event = some t) : Draining slots t ∧ weight t < weight s := by
  have taken := Step.of_step taken
  obtain ⟨phase,kept,lower⟩ := drain_step draining.toWellFormed draining.phase taken
  refine ⟨⟨draining.toWellFormed.step taken,phase,?_⟩,lower⟩
  rw [kept]
  exact draining.demanded

theorem Draining.of_shutdown {maxSessions nextSessionId : Nat} {s t : State}
    (reached : Reaches (UdpRelay.step maxSessions) (State.initial nextSessionId) s)
    (taken : UdpRelay.step maxSessions s .shutdown = some t) : Draining (demand s) t := by
  have wellFormed := WellFormed.reached reached
  cases Step.of_step taken with
  | shutDown => exact ⟨{ wellFormed with },rfl,rfl⟩

theorem Draining.enabled {maxSessions slots : Nat} {s u : State} (draining : Draining slots s)
    (room : slots ≤ udpChannelDepth) (reaches : Reaches (UdpRelay.step maxSessions) s u)
    (left : u.tasks ≠ []) : Enabled (UdpRelay.step maxSessions) u := by
  have later : Draining slots u :=
    reaches.invariant (fun _ _ _ before taken => (Draining.step before taken).1) draining
  apply enabled_of_demand later.toWellFormed later.phase _ left
  rw [later.demanded]
  exact room

/-- Without them it can stall: the steps run out, and by then a task is left. -/
theorem Draining.stalls {slots : Nat} {s : State} (maxSessions : Nat) (draining : Draining slots s)
    (short : udpChannelDepth < slots) : ∃ u, Reaches (UdpRelay.step maxSessions) s u ∧ u.tasks ≠ [] ∧
      ¬ Enabled (UdpRelay.step maxSessions) u := by
  obtain ⟨u,reaches,halted⟩ := reaches_halted (UdpRelay.step maxSessions) weight
    (fun _ _ _ before taken => Draining.step before taken) s draining
  have later : Draining slots u :=
    reaches.invariant (fun _ _ _ before taken => (Draining.step before taken).1) draining
  refine ⟨u,reaches,?_,halted⟩
  intro joined
  have demanded := later.demanded
  have bounded := later.bounded
  simp only [demand,State.unsent,joined,List.countP_nil] at demanded
  omega

/-- Shutdown cannot stall exactly when the completions still in the channel and
those still to be sent fit into it together. -/
theorem shutdown_never_stalls_iff (maxSessions nextSessionId : Nat) (s t : State)
    (reached : Reaches (step maxSessions) (State.initial nextSessionId) s)
    (taken : step maxSessions s .shutdown = some t) :
    (∀ u, Reaches (step maxSessions) t u → u.tasks ≠ [] → Enabled (step maxSessions) u) ↔
      s.completions.length + s.unsent ≤ udpChannelDepth := by
  have draining := Draining.of_shutdown reached taken
  constructor
  · intro always
    apply Nat.le_of_not_lt
    intro short
    obtain ⟨u,reaches,left,halted⟩ := draining.stalls maxSessions short
    exact halted (always u reaches left)
  · intro room u reaches left
    exact draining.enabled room reaches left

def arrivals (count : Nat) : List Event :=
  (List.range count).flatMap fun i => [.receive (.v4 (.ofNat 32 i) 40000) [] true,.handOver]

theorem shutdown_never_stalls_sixtyFour :
    ∃ s t, run (step defaultUdpMaxSessions) (State.initial 0) (arrivals 64) = some s ∧
      step defaultUdpMaxSessions s .shutdown = some t ∧
      ∀ u, Reaches (step defaultUdpMaxSessions) t u → u.tasks ≠ [] → Enabled (step defaultUdpMaxSessions) u := by
  obtain ⟨s,reached⟩ : ∃ s, run (step defaultUdpMaxSessions) (State.initial 0) (arrivals 64) = some s :=
    Option.isSome_iff_exists.mp (by decide +kernel)
  have observed : (run (step defaultUdpMaxSessions) (State.initial 0) (arrivals 64)).map
      (fun s => (s.loop,s.completions,s.unsent)) = some (.selecting,[],64) := by decide +kernel
  rw [reached] at observed
  injection observed with observed
  injection observed with selecting observed
  injection observed with queued unsent
  have taken : step defaultUdpMaxSessions s .shutdown = some { s with sessions := ∅, loop := .draining } := by
    simp [step,selecting]
  refine ⟨s,_,reached,taken,?_⟩
  apply (shutdown_never_stalls_iff defaultUdpMaxSessions 0 s _ ⟨arrivals 64,reached⟩ taken).mpr
  rw [queued,unsent]
  decide

/-- Sixty-five running associations are within the default limit. -/
theorem shutdown_stalls_sixtyFive :
    ¬ ∀ s t u, Reaches (step defaultUdpMaxSessions) (State.initial 0) s →
      step defaultUdpMaxSessions s .shutdown = some t → Reaches (step defaultUdpMaxSessions) t u →
      u.tasks ≠ [] → Enabled (step defaultUdpMaxSessions) u := by
  intro always
  obtain ⟨s,reached⟩ : ∃ s, run (step defaultUdpMaxSessions) (State.initial 0) (arrivals 65) = some s :=
    Option.isSome_iff_exists.mp (by decide +kernel)
  have observed : (run (step defaultUdpMaxSessions) (State.initial 0) (arrivals 65)).map
      (fun s => (s.loop,demand s)) = some (.selecting,65) := by decide +kernel
  rw [reached] at observed
  injection observed with observed
  injection observed with selecting demanded
  have taken : step defaultUdpMaxSessions s .shutdown = some { s with sessions := ∅, loop := .draining } := by
    simp [step,selecting]
  have draining := Draining.of_shutdown ⟨arrivals 65,reached⟩ taken
  rw [demanded] at draining
  obtain ⟨u,reaches,left,halted⟩ := draining.stalls defaultUdpMaxSessions (by decide)
  exact halted (always s _ u ⟨arrivals 65,reached⟩ taken reaches left)

end Dynet.Ingress.UdpRelay
