import Dynet.Cli.RuntimeReload
import Dynet.Lib.Machine

/-! Reloads by concurrent callers, one effect at a time. Callers wait for the lock on
the current configuration; its holder reads the file, plans, and performs the effects
of `apply_candidate` in the source's order, and between any two of them the runtime
may answer a selection. A caller can be dropped where the source awaits: at the lock
and at either write to the store. -/
namespace Dynet.Cli
open Dynet.Runtime Dynet.State Dynet.Ingress Dynet.Persistence.Bootstrap Dynet.Lib Dynet.Lib.Machine

/-- What the holder of the lock carries once its plan is to apply the candidate. -/
structure Job where
  trigger : ConfigReloadTrigger
  candidate : Config
  changed : List String

/-- The holder's place in the source: the next effect is named after the dash. -/
inductive Phase where
  /-- nobody holds the lock -/
  | idle
  /-- the lock is held - `Config::from_config_path` and the plan -/
  | locked (trigger : ConfigReloadTrigger)
  /-- the plan is to apply - `prepare_reconfigure` -/
  | planned (job : Job)
  /-- `egress.install` -/
  | prepared (job : Job) (prepared : RuntimeReconfigure)
  /-- `store.replace_bootstrap` -/
  | installed (job : Job) (prepared : RuntimeReconfigure)
  /-- the store refused - `egress.remove` -/
  | unstored (job : Job) (prepared : RuntimeReconfigure)
  /-- `commit_reconfigure` -/
  | stored (job : Job) (prepared : RuntimeReconfigure)
  /-- the commit was refused - `egress.remove` -/
  | refused (job : Job) (prepared : RuntimeReconfigure)
  /-- `store.replace_bootstrap` of the previous seed -/
  | restoring (job : Job)
  /-- the TUN settings -/
  | committed (job : Job) (prepared : RuntimeReconfigure)
  /-- the current configuration -/
  | captured (job : Job) (prepared : RuntimeReconfigure)
  /-- `audit.record_applied` -/
  | swapped (job : Job) (prepared : RuntimeReconfigure)
  /-- `audit.record_failed` -/
  | failing (job : Job)

/-- The holder has committed and ends in `Applied`. -/
def Phase.pastCommit : Phase → Bool
  | .committed _ _ | .captured _ _ | .swapped _ _ => true
  | _ => false

def Phase.isIdle : Phase → Bool
  | .idle => true
  | _ => false

def Phase.job : Phase → Option Job
  | .idle | .locked _ => none
  | .planned job | .prepared job _ | .installed job _ | .unstored job _ | .stored job _ | .refused job _
  | .restoring job | .committed job _ | .captured job _ | .swapped job _ | .failing job => some job

theorem Phase.eq_idle {phase : Phase} (idle : phase.isIdle = true) : phase = .idle := by
  cases phase with
  | idle => rfl
  | _ => cases idle

structure Machine (Medium : Type) where
  shared : RuntimeReload Medium
  waiting : List ConfigReloadTrigger
  phase : Phase
  results : List ReloadResult

inductive ReloadEvent where
  | call (trigger : ConfigReloadTrigger)
  | abandon (index : Nat)
  | acquire
  | read (file : Except String Config) (now : Nat)
  /-- The holder's next effect; `fault` is the database's and `now` the clock's part in it. -/
  | proceed (fault : Option String) (now : Nat)
  /-- The holder is dropped while it awaits the store, which may have `written` already. -/
  | cancel (written : Bool)
  | select (context : SelectionContext)

namespace Machine
variable {Medium : Type} (compile : EgressNodeConfig → Except String Medium) (fingerprint : Config → String)
  (choose : SelectionContext → GroupCandidateSet → Option NodeId)

def initial (shared : RuntimeReload Medium) : Machine Medium := ⟨shared,[],.idle,[]⟩

def generation (s : Machine Medium) : Nat := s.shared.runtime.generation

def finish (s : Machine Medium) (audit : RuntimeConfigAudit) (result : ReloadResult) : Machine Medium :=
  { s with shared := { s.shared with audit := audit }, phase := .idle, results := s.results ++ [result] }

def readFile (s : Machine Medium) (trigger : ConfigReloadTrigger) (file : Except String Config) (now : Nat) :
    Machine Medium :=
  match file with
  | .error _ => s.finish (s.shared.audit.recordInvalid now trigger) (.invalid s.generation)
  | .ok candidate =>
    let plan := s.shared.current.planReload candidate
    match plan.disposition with
    | .noop => s.finish (s.shared.audit.recordNoop now trigger (fingerprint candidate)) (.noop s.generation)
    | .restartRequired =>
      s.finish (s.shared.audit.recordRestartRequired now trigger (fingerprint candidate) plan.changedFields
        plan.restartRequiredFields) (.restartRequired s.generation plan.restartRequiredFields)
    | .apply => { s with phase := .planned ⟨trigger,candidate,plan.changedFields⟩ }

def proceed (fault : Option String) (now : Nat) (s : Machine Medium) : Option (Machine Medium) :=
  match s.phase with
  | .idle | .locked _ => none
  | .planned job =>
    some { s with phase := .prepared job (s.shared.runtime.prepareReconfigure job.candidate.forwarding.seed) }
  | .prepared job prepared =>
    match s.shared.egress.install compile prepared.routing.generation job.candidate.forwarding.executionNodes with
    | .error _ => some { s with phase := .failing job }
    | .ok egress => some { s with shared := { s.shared with egress }, phase := .installed job prepared }
  | .installed job prepared =>
    match replaceBootstrap fault job.candidate.forwarding.seed s.shared.store with
    | (.error _,store) => some { s with shared := { s.shared with store }, phase := .unstored job prepared }
    | (.ok _,store) => some { s with shared := { s.shared with store }, phase := .stored job prepared }
  | .unstored job prepared =>
    let egress := s.shared.egress.remove prepared.routing.generation
    some { s with shared := { s.shared with egress }, phase := .failing job }
  | .stored job prepared =>
    match s.shared.runtime.commitReconfigure prepared with
    | .error _ => some { s with phase := .refused job prepared }
    | .ok (_,runtime) => some { s with shared := { s.shared with runtime }, phase := .committed job prepared }
  | .refused job prepared =>
    let egress := s.shared.egress.remove prepared.routing.generation
    some { s with shared := { s.shared with egress }, phase := .restoring job }
  | .restoring job =>
    let store := (replaceBootstrap fault s.shared.current.forwarding.seed s.shared.store).2
    some { s with shared := { s.shared with store }, phase := .failing job }
  | .committed job prepared =>
    let tun := job.candidate.capture.tun
    some { s with shared := { s.shared with tun }, phase := .captured job prepared }
  | .captured job prepared =>
    some { s with shared := { s.shared with current := job.candidate }, phase := .swapped job prepared }
  | .swapped job prepared =>
    some (s.finish (s.shared.audit.recordApplied now job.trigger prepared.routing.generation
      (fingerprint job.candidate) job.changed) (.applied prepared.routing.generation job.changed))
  | .failing job => some (s.finish (s.shared.audit.recordFailed now job.trigger) (.failed s.generation))

def dropped (s : Machine Medium) (written : Bool) (seed : RuntimeSeed) : Machine Medium :=
  let store := if written then (replaceBootstrap none seed s.shared.store).2 else s.shared.store
  { s with shared := { s.shared with store }, phase := .idle }

def step (s : Machine Medium) : ReloadEvent → Option (Machine Medium)
  | .call trigger => some { s with waiting := s.waiting ++ [trigger] }
  | .abandon index => if index < s.waiting.length then some { s with waiting := s.waiting.eraseIdx index } else none
  | .acquire => match s.phase, s.waiting with
    | .idle, trigger::rest => some { s with waiting := rest, phase := .locked trigger }
    | _, _ => none
  | .read file now => match s.phase with
    | .locked trigger => some (s.readFile fingerprint trigger file now)
    | _ => none
  | .proceed fault now => s.proceed compile fingerprint fault now
  | .cancel written => match s.phase with
    | .installed job _ => some (s.dropped written job.candidate.forwarding.seed)
    | .restoring _ => some (s.dropped written s.shared.current.forwarding.seed)
    | _ => none
  | .select context => match s.shared.runtime.select choose context with
    | .ok (_,runtime) => some { s with shared := { s.shared with runtime } }
    | .error _ => none

/-- The configuration that is served: the current one, and from the commit until the current
one is replaced the candidate. -/
def serving (s : Machine Medium) : Config := match s.phase with
  | .committed job _ | .captured job _ => job.candidate
  | _ => s.shared.current

/-- The routing and the graph of its generation come from the configuration. -/
def OneSource (config : Config) (routing : RuntimeRouting) (egress : ReloadableEgress Medium) : Prop :=
  ∃ graph : GraphEgress Medium, routing = .fromSeed routing.generation config.forwarding.seed ∧
    GraphEgress.tryFrom compile config.forwarding.executionNodes = .ok graph ∧
    egress.inner[routing.generation]? = some graph

/-- What the holder of the lock can rely on at each of its places. -/
def Carried (s : Machine Medium) : Prop :=
  match s.phase with
  | .prepared job prepared => prepared = s.shared.runtime.prepareReconfigure job.candidate.forwarding.seed
  | .installed job prepared | .stored job prepared =>
    prepared = s.shared.runtime.prepareReconfigure job.candidate.forwarding.seed ∧
      ∃ graph, GraphEgress.tryFrom compile job.candidate.forwarding.executionNodes = .ok graph ∧
        s.shared.egress.inner[s.generation + 1]? = some graph
  | .unstored _ prepared | .refused _ prepared => prepared.routing.generation = s.generation + 1
  | .committed _ prepared | .captured _ prepared | .swapped _ prepared =>
    prepared.routing.generation = s.generation
  | _ => True

/-- The invariant of the reload machine; `start` is the generation it began with. -/
structure Sound (start : Nat) (s : Machine Medium) : Prop where
  source : OneSource compile s.serving s.shared.runtime.routing s.shared.egress
  bounded : s.shared.egress.Bounded (s.generation + 1)
  counted : s.generation = start + s.results.countP (·.isApplied) + s.phase.pastCommit.toNat
  audited : s.phase.pastCommit = false → s.shared.audit.status.generation = s.generation
  carried : Carried compile s

/-- Generations only grow, and the graph of a generation is never exchanged. -/
structure Follows (s t : Machine Medium) : Prop where
  grown : s.generation ≤ t.generation
  stable : ∀ generation, generation ≤ s.generation →
    t.shared.egress.inner[generation]? = s.shared.egress.inner[generation]? ∨
      t.shared.egress.inner[generation]? = none

variable {compile fingerprint choose} {start : Nat} {s t u : Machine Medium}

theorem serving_current (before : s.phase.pastCommit = false) : s.serving = s.shared.current := by
  unfold serving
  split
  next phase => simp [phase,Phase.pastCommit] at before
  next phase => simp [phase,Phase.pastCommit] at before
  next => rfl

theorem Follows.of_same (generation : t.generation = s.generation) (egress : t.shared.egress = s.shared.egress) :
    Follows s t where
  grown := Nat.le_of_eq generation.symm
  stable := by
    intro older _
    rw [egress]
    exact .inl rfl

theorem Follows.trans (first : Follows s t) (second : Follows t u) : Follows s u where
  grown := Nat.le_trans first.grown second.grown
  stable := by
    intro generation older
    rcases second.stable generation (Nat.le_trans older first.grown) with same | gone
    · rw [same]
      exact first.stable generation older
    · exact .inr gone

theorem Follows.remove (egress : t.shared.egress = s.shared.egress.remove (s.generation + 1))
    (generation : t.generation = s.generation) : Follows s t where
  grown := Nat.le_of_eq generation.symm
  stable := by
    intro older le
    rw [egress]
    left
    change (s.shared.egress.inner.erase (s.generation + 1))[older]? = _
    rw [Maps.erase_lookup,if_neg (by omega)]

theorem OneSource.remove {config : Config} {routing : RuntimeRouting} {egress : ReloadableEgress Medium}
    (source : OneSource compile config routing egress) :
    OneSource compile config routing (egress.remove (routing.generation + 1)) := by
  obtain ⟨graph,built,compiled,found⟩ := source
  refine ⟨graph,built,compiled,?_⟩
  change (egress.inner.erase (routing.generation + 1))[routing.generation]? = _
  rw [Maps.erase_lookup,if_neg (by omega)]
  exact found

/-- A step that touches neither the routing nor the graphs nor the audit. -/
theorem Sound.move (sound : Sound compile start s) (runtime : t.shared.runtime.routing = s.shared.runtime.routing)
    (egress : t.shared.egress = s.shared.egress) (audit : t.shared.audit = s.shared.audit)
    (results : t.results = s.results) (past : t.phase.pastCommit = s.phase.pastCommit)
    (serving : t.serving = s.serving) (carried : Carried compile t) : Sound compile start t ∧ Follows s t := by
  have generation : t.generation = s.generation := congrArg RuntimeRouting.generation runtime
  refine ⟨⟨?_,?_,?_,?_,carried⟩,.of_same generation egress⟩
  · rw [runtime,egress,serving]
    exact sound.source
  · rw [generation,egress]
    exact sound.bounded
  · rw [generation,results,past]
    exact sound.counted
  · rw [generation,audit,past]
    exact sound.audited

/-- The end of a reload: it counts as applied exactly when it had committed. -/
theorem Sound.finish (sound : Sound compile start s) (audit : RuntimeConfigAudit) (result : ReloadResult)
    (audited : audit.status.generation = s.generation) (applied : result.isApplied = s.phase.pastCommit)
    (settled : s.serving = s.shared.current) :
    Sound compile start (s.finish audit result) ∧ Follows s (s.finish audit result) := by
  have source := sound.source
  rw [settled] at source
  refine ⟨⟨source,sound.bounded,?_,fun _ => audited,trivial⟩,.of_same rfl rfl⟩
  change s.generation = start + (s.results ++ [result]).countP (·.isApplied) + 0
  rw [List.countP_append,List.countP_singleton,applied]
  have counted := sound.counted
  cases past : s.phase.pastCommit with
  | true =>
    rw [past] at counted
    simpa [Nat.add_assoc] using counted
  | false =>
    rw [past] at counted
    simpa using counted

theorem Sound.readFile (sound : Sound compile start s) {trigger : ConfigReloadTrigger}
    (locked : s.phase = .locked trigger) (file : Except String Config) (now : Nat) :
    Sound compile start (s.readFile fingerprint trigger file now) ∧
      Follows s (s.readFile fingerprint trigger file now) := by
  have past : s.phase.pastCommit = false := by
    rw [locked]
    rfl
  have audited := sound.audited past
  unfold Machine.readFile
  split
  next => exact sound.finish _ _ audited past.symm (serving_current past)
  next candidate =>
    dsimp only
    split
    next => exact sound.finish _ _ audited past.symm (serving_current past)
    next => exact sound.finish _ _ audited past.symm (serving_current past)
    next => exact sound.move rfl rfl rfl rfl past.symm (serving_current past).symm trivial

theorem Sound.install (sound : Sound compile start s) {job : Job} {prepared : RuntimeReconfigure}
    (phase : s.phase = .prepared job prepared)
    (same : prepared = s.shared.runtime.prepareReconfigure job.candidate.forwarding.seed)
    {graph : GraphEgress Medium}
    (compiled : GraphEgress.tryFrom compile job.candidate.forwarding.executionNodes = .ok graph)
    (placed : t = { s with
      shared := { s.shared with egress := s.shared.egress.insertGraph (s.generation + 1) graph }
      phase := .installed job prepared }) :
    Sound compile start t ∧ Follows s t := by
  subst placed
  obtain ⟨current,built,source,found⟩ := sound.source
  have past : s.phase.pastCommit = false := by
    rw [phase]
    rfl
  have counted := sound.counted
  rw [past] at counted
  refine ⟨⟨?_,sound.bounded.insertGraph graph,counted,fun _ => sound.audited past,?_⟩,?_⟩
  · rw [serving_current past] at built source
    refine ⟨current,built,source,?_⟩
    exact (sound.bounded.lookup_previous graph).trans found
  · exact ⟨same,graph,compiled,sound.bounded.lookup_newest graph⟩
  · refine ⟨Nat.le_refl _,?_⟩
    intro generation older
    exact sound.bounded.lookup_other graph generation (by omega)

theorem Sound.commit (sound : Sound compile start s) {job : Job} {prepared : RuntimeReconfigure}
    {runtime : RuntimeState} {generation : Nat} (phase : s.phase = .stored job prepared)
    (committed : s.shared.runtime.commitReconfigure prepared = .ok (generation,runtime))
    (placed : t = { s with shared := { s.shared with runtime }, phase := .committed job prepared }) :
    Sound compile start t ∧ Follows s t := by
  subst placed
  have carried := sound.carried
  rw [Carried,phase] at carried
  obtain ⟨same,graph,compiled,found⟩ := carried
  obtain ⟨_,_,rfl⟩ := (RuntimeState.commitReconfigure_ok_iff _ _ _ _).mp committed
  subst same
  have counted := sound.counted
  rw [phase] at counted
  refine ⟨⟨?_,?_,?_,nofun,rfl⟩,⟨Nat.le_succ _,fun _ _ => .inl rfl⟩⟩
  · exact ⟨graph,rfl,compiled,found⟩
  · exact sound.bounded.mono (Nat.le_succ _)
  · change s.generation + 1 = _
    rw [counted]
    rfl

theorem Sound.takeBack (sound : Sound compile start s) {prepared : RuntimeReconfigure} {phase : Phase}
    (before : s.phase.pastCommit = false) (after : phase.pastCommit = false)
    (next : prepared.routing.generation = s.generation + 1)
    (placed : t = { s with
      shared := { s.shared with egress := s.shared.egress.remove prepared.routing.generation }
      phase := phase })
    (carried : Carried compile t) : Sound compile start t ∧ Follows s t := by
  subst placed
  rw [next] at carried ⊢
  have counted := sound.counted
  rw [before] at counted
  have source := sound.source.remove
  rw [serving_current before] at source
  refine ⟨⟨?_,sound.bounded.remove _,?_,fun _ => sound.audited before,carried⟩,.remove rfl rfl⟩
  · rw [serving_current after]
    exact source
  rw [after]
  exact counted

theorem Sound.proceed (sound : Sound compile start s) {fault : Option String} {now : Nat}
    (taken : s.proceed compile fingerprint fault now = some t) : Sound compile start t ∧ Follows s t := by
  have carried := sound.carried
  unfold Machine.proceed at taken
  cases phase : s.phase with
  | idle | locked =>
    simp only [phase] at taken
    cases taken
  | planned job =>
    simp only [phase,Option.some.injEq] at taken
    subst taken
    exact sound.move rfl rfl rfl rfl (by rw [phase]; rfl) (by simp [serving,phase]) rfl
  | prepared job prepared =>
    simp only [Carried,phase] at carried
    simp only [phase] at taken
    cases compiled : GraphEgress.tryFrom compile job.candidate.forwarding.executionNodes with
    | error error =>
      rw [RuntimeReload.install_error compiled] at taken
      cases taken
      exact sound.move rfl rfl rfl rfl (by rw [phase]; rfl) (by simp [serving,phase]) trivial
    | ok graph =>
      rw [RuntimeReload.install_ok compiled] at taken
      cases taken
      refine sound.install phase carried compiled ?_
      rw [carried]
      rfl
  | installed job prepared =>
    simp only [Carried,phase] at carried
    simp only [phase] at taken
    split at taken
    next =>
      cases taken
      refine sound.move rfl rfl rfl rfl (by rw [phase]; rfl) (by simp [serving,phase]) ?_
      change prepared.routing.generation = _
      rw [carried.1]
      rfl
    next =>
      cases taken
      exact sound.move rfl rfl rfl rfl (by rw [phase]; rfl) (by simp [serving,phase]) carried
  | unstored job prepared | refused job prepared =>
    simp only [Carried,phase] at carried
    simp only [phase,Option.some.injEq] at taken
    exact sound.takeBack (by rw [phase]; rfl) rfl carried taken.symm (by rw [← taken]; trivial)
  | stored job prepared =>
    simp only [Carried,phase] at carried
    simp only [phase] at taken
    split at taken
    next error refused =>
      cases taken
      refine sound.move rfl rfl rfl rfl (by rw [phase]; rfl) (by simp [serving,phase]) ?_
      change prepared.routing.generation = _
      rw [carried.1]
      rfl
    next generation runtime committed =>
      cases taken
      exact sound.commit phase committed rfl
  | restoring job =>
    simp only [phase,Option.some.injEq] at taken
    subst taken
    exact sound.move rfl rfl rfl rfl (by rw [phase]; rfl) (by simp [serving,phase]) trivial
  | committed job prepared | captured job prepared =>
    simp only [Carried,phase] at carried
    simp only [phase,Option.some.injEq] at taken
    subst taken
    exact sound.move rfl rfl rfl rfl (by rw [phase]; rfl) (by simp [serving,phase]) carried
  | swapped job prepared =>
    simp only [Carried,phase] at carried
    simp only [phase,Option.some.injEq] at taken
    subst taken
    exact sound.finish _ _ carried (by rw [phase]; rfl) (by simp [serving,phase])
  | failing job =>
    simp only [phase,Option.some.injEq] at taken
    subst taken
    exact sound.finish _ _ (sound.audited (by rw [phase]; rfl)) (by rw [phase]; rfl) (by simp [serving,phase])

theorem Sound.step (sound : Sound compile start s) {event : ReloadEvent}
    (taken : s.step compile fingerprint choose event = some t) : Sound compile start t ∧ Follows s t := by
  cases event with
  | call trigger =>
    cases taken
    exact sound.move rfl rfl rfl rfl rfl rfl sound.carried
  | abandon index =>
    simp only [Machine.step,Option.ite_none_right_eq_some,Option.some.injEq] at taken
    obtain ⟨_,rfl⟩ := taken
    exact sound.move rfl rfl rfl rfl rfl rfl sound.carried
  | acquire =>
    simp only [Machine.step] at taken
    split at taken
    next trigger rest phase waiting =>
      cases taken
      exact sound.move rfl rfl rfl rfl (by rw [phase]; rfl) (by simp [serving,phase]) trivial
    next => cases taken
  | read file now =>
    simp only [Machine.step] at taken
    split at taken
    next trigger phase =>
      cases taken
      exact sound.readFile phase file now
    next => cases taken
  | proceed fault now => exact sound.proceed taken
  | cancel written =>
    simp only [Machine.step] at taken
    split at taken
    next job _ phase =>
      cases taken
      exact sound.move rfl rfl rfl rfl (by rw [phase]; rfl) (by simp [serving,phase,dropped]) trivial
    next job phase =>
      cases taken
      exact sound.move rfl rfl rfl rfl (by rw [phase]; rfl) (by simp [serving,phase,dropped]) trivial
    next => cases taken
  | select context =>
    simp only [Machine.step] at taken
    split at taken
    next decision runtime selected =>
      cases taken
      obtain ⟨_,_,_,_,_,_,_,_,_,rfl⟩ := (RuntimeState.select_ok_iff _ _ _ _ _).mp selected
      exact sound.move rfl rfl rfl rfl rfl rfl sound.carried
    next => cases taken

theorem Sound.initial {now : Nat} {config : Config} {path : Option String} {runtime : RuntimeState}
    {store : Tables} {shared : RuntimeReload Medium}
    (built : runtime.routing = .fromSeed runtime.generation config.forwarding.seed)
    (opened : RuntimeReload.new compile fingerprint now config path runtime store = .ok shared) :
    Sound compile runtime.generation (Machine.initial shared) := by
  simp only [RuntimeReload.new,ReloadableEgress.new,Checks.bind_ok_iff,pure,Except.pure,Except.ok.injEq] at opened
  obtain ⟨_,⟨graph,compiled,rfl⟩,rfl⟩ := opened
  refine ⟨?_,⟨?_,?_⟩,rfl,fun _ => rfl,trivial⟩
  · exact ⟨graph,built,compiled,Std.ExtTreeMap.getElem?_insert_self⟩
  · have small := Std.ExtTreeMap.size_insert_le (t := (∅ : Std.ExtTreeMap Nat (GraphEgress Medium)))
      (k := runtime.generation) (v := graph)
    rw [Std.ExtTreeMap.size_empty] at small
    exact Nat.le_trans small (by decide)
  · intro generation member
    rcases Std.ExtTreeMap.mem_insert.mp member with same | old
    · rw [← Std.LawfulEqCmp.eq_of_compare same]
      exact Nat.le_succ _
    · exact absurd old Std.ExtTreeMap.not_mem_empty

theorem Sound.reaches (sound : Sound compile start s)
    (reached : Reaches (Machine.step compile fingerprint choose) s t) :
    Sound compile start t ∧ Follows s t := by
  have keeps (before : Machine Medium) (event : ReloadEvent) (after : Machine Medium)
      (kept : Sound compile start before ∧ Follows s before)
      (taken : Machine.step compile fingerprint choose before event = some after) :
      Sound compile start after ∧ Follows s after := by
    obtain ⟨sound,moved⟩ := kept.1.step taken
    exact ⟨sound,kept.2.trans moved⟩
  exact reached.invariant keeps ⟨sound,.of_same rfl rfl⟩

theorem decision_generation {runtime after : RuntimeState} {context : SelectionContext}
    {decision : SelectionDecision} (selected : runtime.select choose context = .ok (decision,after)) :
    decision.configGeneration = runtime.generation := by
  obtain ⟨_,_,_,_,_,_,_,_,rfl,_⟩ := (RuntimeState.select_ok_iff _ _ _ _ _).mp selected
  rfl

/-- A machine holds its current configuration and the candidate of the lock's holder. -/
def Holds (s : Machine Medium) (config : Config) : Prop :=
  config = s.shared.current ∨ ∃ job ∈ s.phase.job, config = job.candidate

theorem serving_held (s : Machine Medium) : s.Holds s.serving := by
  unfold serving
  split
  next job prepared phase => exact .inr ⟨job,by rw [phase]; rfl,rfl⟩
  next job prepared phase => exact .inr ⟨job,by rw [phase]; rfl,rfl⟩
  next => exact .inl rfl

/-- A step within a job brings no configuration in. -/
theorem Holds.keep {config : Config} (held : t.Holds config) (current : t.shared.current = s.shared.current)
    (job : t.phase.job = s.phase.job) : s.Holds config := by
  unfold Holds at held ⊢
  rwa [current,job] at held

/-- Nor does a step that gives the lock up. -/
theorem Holds.settle {config : Config} (held : t.Holds config) (current : t.shared.current = s.shared.current)
    (free : t.phase.job = none) : s.Holds config := by
  obtain same | ⟨job,own,-⟩ := held
  · exact .inl (same.trans current)
  · rw [free] at own
    cases own

theorem proceed_holds {fault : Option String} {now : Nat} {config : Config}
    (taken : s.proceed compile fingerprint fault now = some t) (held : t.Holds config) : s.Holds config := by
  unfold Machine.proceed at taken
  cases phase : s.phase with
  | idle | locked =>
    simp only [phase] at taken
    cases taken
  | planned job | restoring job =>
    simp only [phase] at taken
    cases taken
    exact held.keep rfl (by rw [phase]; rfl)
  | failing job | swapped job prepared =>
    simp only [phase] at taken
    cases taken
    exact held.settle rfl rfl
  | prepared job prepared | installed job prepared | stored job prepared =>
    simp only [phase] at taken
    split at taken
    next =>
      cases taken
      exact held.keep rfl (by rw [phase]; rfl)
    next =>
      cases taken
      exact held.keep rfl (by rw [phase]; rfl)
  | unstored job prepared | refused job prepared | committed job prepared =>
    simp only [phase] at taken
    cases taken
    exact held.keep rfl (by rw [phase]; rfl)
  | captured job prepared =>
    simp only [phase] at taken
    cases taken
    -- The candidate becomes the current one.
    refine .inr ⟨job,by rw [phase]; rfl,?_⟩
    obtain same | ⟨other,own,same⟩ := held
    · exact same
    · cases own
      exact same

/-- A configuration comes into the machine from a file that the lock's holder has read. -/
theorem step_holds {event : ReloadEvent} {config : Config} (taken : s.step compile fingerprint choose event = some t)
    (held : t.Holds config) : s.Holds config ∨ ∃ now, event = .read (.ok config) now := by
  cases event with
  | call trigger =>
    cases taken
    exact .inl held
  | abandon index =>
    simp only [Machine.step,Option.ite_none_right_eq_some,Option.some.injEq] at taken
    obtain ⟨_,rfl⟩ := taken
    exact .inl held
  | acquire =>
    simp only [Machine.step] at taken
    split at taken
    next =>
      cases taken
      exact .inl (held.settle rfl rfl)
    next => cases taken
  | read file now =>
    simp only [Machine.step] at taken
    split at taken
    next trigger phase =>
      cases taken
      unfold readFile at held
      split at held
      next => exact .inl (held.settle rfl rfl)
      next candidate =>
        dsimp only at held
        split at held
        next => exact .inl (held.settle rfl rfl)
        next => exact .inl (held.settle rfl rfl)
        next =>
          obtain current | ⟨job,own,rfl⟩ := held
          · exact .inl (.inl current)
          · cases own
            exact .inr ⟨now,rfl⟩
    next => cases taken
  | proceed fault now => exact .inl (proceed_holds taken held)
  | cancel written =>
    simp only [Machine.step] at taken
    split at taken
    next =>
      cases taken
      exact .inl (held.settle rfl rfl)
    next =>
      cases taken
      exact .inl (held.settle rfl rfl)
    next => cases taken
  | select context =>
    simp only [Machine.step] at taken
    split at taken
    next =>
      cases taken
      exact .inl held
    next => cases taken

theorem run_holds {events : List ReloadEvent} {config : Config} (ran : run (step compile fingerprint choose) s events = some t)
    (held : t.Holds config) : s.Holds config ∨ ∃ now, .read (.ok config) now ∈ events := by
  induction events generalizing s with
  | nil =>
    cases ran
    exact .inl held
  | cons event events ih =>
    obtain ⟨next,taken,ran⟩ := (run_cons_iff _ _ _ _).mp ran
    obtain before | ⟨now,later⟩ := ih ran
    · obtain earlier | ⟨now,rfl⟩ := step_holds taken before
      · exact .inl earlier
      · exact .inr ⟨now,List.mem_cons_self⟩
    · exact .inr ⟨now,List.mem_cons_of_mem _ later⟩

/-- Over every run of concurrent reloads: routing and graph of the current generation come
from the configuration that is served, which is the one the runtime was started with or one
that a reload has read; decisions taken now are executed on that graph or not at all,
generations count the applied reloads, the audit agrees between reloads, and one generation
is left at most once. -/
theorem reload_invariant (now : Nat) (config : Config) (path : Option String) (runtime : RuntimeState)
    (store : Tables) (shared : RuntimeReload Medium)
    (built : runtime.routing = .fromSeed runtime.generation config.forwarding.seed)
    (opened : RuntimeReload.new compile fingerprint now config path runtime store = .ok shared)
    (events : List ReloadEvent) (s : Machine Medium)
    (ran : run (step compile fingerprint choose) (initial shared) events = some s) :
    (∃ graph : GraphEgress Medium,
      s.shared.runtime.routing = .fromSeed s.generation s.serving.forwarding.seed ∧
      GraphEgress.tryFrom compile s.serving.forwarding.executionNodes = .ok graph ∧
      s.shared.egress.graphFor s.generation = .ok graph ∧
      ∀ t, Reaches (step compile fingerprint choose) s t → ∀ context decision after,
        s.shared.runtime.select choose context = .ok (decision,after) →
        ∀ executed, t.shared.egress.graphFor decision.configGeneration = .ok executed → executed = graph) ∧
    (s.serving = config ∨ ∃ read, .read (.ok s.serving) read ∈ events) ∧
    s.generation = runtime.generation + s.results.countP (·.isApplied) + s.phase.pastCommit.toNat ∧
    (s.phase = .idle → s.serving = s.shared.current ∧ s.shared.audit.status.generation = s.generation) ∧
    ∀ others generation, (committing s.shared.runtime others).countP (·.previousGeneration = generation) ≤ 1 := by
  obtain ⟨sound,_⟩ := (Sound.initial built opened).reaches ⟨events,ran⟩
  refine ⟨?_,?_,sound.counted,?_,committing_once s.shared.runtime⟩
  · obtain ⟨graph,routed,compiled,found⟩ := sound.source
    refine ⟨graph,routed,compiled,(Checks.need_ok_iff _ _ _).mpr found,?_⟩
    intro t later context decision after selected executed resolved
    rw [decision_generation selected] at resolved
    have present : t.shared.egress.inner[s.generation]? = some executed :=
      (Checks.need_ok_iff _ _ _).mp resolved
    rcases (sound.reaches later).2.stable s.generation (Nat.le_refl _) with same | gone
    · have current : s.shared.egress.inner[s.generation]? = some graph := found
      rw [same,current] at present
      exact (Option.some.inj present).symm
    · rw [gone] at present
      cases present
  · obtain held | read := run_holds ran s.serving_held
    · refine .inl ?_
      simp only [RuntimeReload.new,Checks.bind_ok_iff,pure,Except.pure,Except.ok.injEq] at opened
      obtain ⟨_,_,rfl⟩ := opened
      simpa [Holds,initial,Phase.job] using held
    · exact .inr read
  · intro idle
    have before : s.phase.pastCommit = false := by
      rw [idle]
      rfl
    exact ⟨serving_current before,sound.audited before⟩

/-- A caller that is alone runs exactly the reload of the source. -/
theorem reload_runs (inputs : ReloadInputs) (alone : inputs.others = []) (shared : RuntimeReload Medium) :
    Reaches (step compile fingerprint choose) (initial shared)
      ⟨(shared.reload compile fingerprint inputs).2,[],.idle,[(shared.reload compile fingerprint inputs).1]⟩ := by
  have locked : Reaches (step compile fingerprint choose) (initial shared) ⟨shared,[],.locked inputs.trigger,[]⟩ :=
    ⟨[.call inputs.trigger,.acquire],rfl⟩
  refine locked.trans ?_
  unfold RuntimeReload.reload
  rw [alone]
  cases file : inputs.file with
  | error error => exact ⟨[.read (.error error) inputs.now],rfl⟩
  | ok candidate =>
    dsimp only
    cases plan : (shared.current.planReload candidate).disposition with
    | noop | restartRequired =>
      refine ⟨[.read (.ok candidate) inputs.now],?_⟩
      simp only [run,step,readFile,plan]
      rfl
    | apply =>
      let job : Job := ⟨inputs.trigger,candidate,(shared.current.planReload candidate).changedFields⟩
      let prepared := shared.runtime.prepareReconfigure candidate.forwarding.seed
      have planned : Reaches (step compile fingerprint choose) ⟨shared,[],.locked inputs.trigger,[]⟩
          ⟨shared,[],.prepared job prepared,[]⟩ := by
        refine ⟨[.read (.ok candidate) inputs.now,.proceed none inputs.now],?_⟩
        simp only [run,step,readFile,plan]
        rfl
      refine planned.trans ?_
      simp only [RuntimeReload.applyCandidate,alone]
      cases compiled : GraphEgress.tryFrom compile candidate.forwarding.executionNodes with
      | error error =>
        refine ⟨[.proceed none inputs.now,.proceed none inputs.now],?_⟩
        simp only [run,step,proceed,job,RuntimeReload.install_error compiled,Option.bind_some]
        rfl
      | ok graph =>
        let installed := { shared with egress := shared.egress.insertGraph prepared.routing.generation graph }
        have placed : Reaches (step compile fingerprint choose) ⟨shared,[],.prepared job prepared,[]⟩
            ⟨installed,[],.installed job prepared,[]⟩ := by
          refine ⟨[.proceed none inputs.now],?_⟩
          simp only [run,step,proceed,job,RuntimeReload.install_ok compiled,Option.bind_some]
          rfl
        refine placed.trans ?_
        rw [RuntimeReload.install_ok compiled]
        cases replaced : replaceBootstrap inputs.storeFault candidate.forwarding.seed shared.store with
        | mk outcome written =>
          cases outcome with
          | error error =>
            refine ⟨[.proceed inputs.storeFault inputs.now,.proceed none inputs.now,.proceed none inputs.now],?_⟩
            simp only [run,step,proceed,job,installed,replaced,Option.bind_some]
            rfl
          | ok done =>
            have committed : (commitOthers shared.runtime []).commitReconfigure prepared =
                .ok (prepared.routing.generation,{ shared.runtime with routing := prepared.routing }) :=
              (RuntimeState.commitReconfigure_ok_iff _ _ _ _).mpr ⟨rfl,rfl,rfl⟩
            rw [committed]
            have published : shared.runtime.commitReconfigure prepared =
                .ok (prepared.routing.generation,{ shared.runtime with routing := prepared.routing }) := committed
            refine ⟨.proceed inputs.storeFault inputs.now::List.replicate 4 (.proceed none inputs.now),?_⟩
            simp only [run,step,proceed,job,installed,replaced,published,List.replicate,Option.bind_some]
            rfl

/-- Two callers; the first one's reload is applied, the second one's finds nothing to do. -/
def twoCallers : List ReloadEvent :=
  [.call .sighup,.call .manual,.acquire,.read (.ok (RuntimeReload.timeoutConfig 3000)) 5] ++
    List.replicate 7 (.proceed none 6) ++ [.acquire,.read (.ok (RuntimeReload.timeoutConfig 3000)) 7]

theorem reload_invariant_two_callers :
    ∃ (shared : RuntimeReload Unit) (s : Machine Unit),
      run (step RuntimeReload.directOnly (fun _ => "") (fun _ _ => none)) (initial shared) twoCallers = some s ∧
      s.phase = .idle ∧ s.generation = 1 + s.results.countP (·.isApplied) ∧ s.generation = 2 ∧
      s.shared.audit.status.generation = s.generation ∧
      s.shared.runtime.routing = .fromSeed s.generation s.shared.current.forwarding.seed := by
  have computed : (RuntimeReload.new RuntimeReload.directOnly (fun _ => "") 0 .default none
      (.fromSeed Config.default.forwarding.seed) (.ofSeed Config.default.forwarding.seed)).toOption.map
      (fun shared => (run (step RuntimeReload.directOnly (fun _ => "") (fun _ _ => none)) (initial shared)
        twoCallers).map fun s => (s.generation,s.phase.isIdle)) = some (some (2,true)) := by decide +kernel
  obtain ⟨shared,opened,ran⟩ := Checks.ok_of_toOption_map computed
  obtain ⟨s,reached,observed⟩ := Option.map_eq_some_iff.mp ran
  injection observed with two settled
  have idle := Phase.eq_idle settled
  have invariant := reload_invariant 0 .default none (.fromSeed Config.default.forwarding.seed)
    (.ofSeed Config.default.forwarding.seed) shared rfl opened twoCallers s reached
  obtain ⟨⟨graph,routed,-⟩,-,counted,settles,-⟩ := invariant
  obtain ⟨current,audited⟩ := settles idle
  rw [idle] at counted
  rw [current] at routed
  exact ⟨shared,s,reached,idle,counted,two,audited,routed⟩

end Machine

end Dynet.Cli
