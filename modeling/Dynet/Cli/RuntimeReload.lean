import Dynet.State.Config
import Dynet.Ingress.ReloadableEgress
import Dynet.Runtime.ConfigAudit
import Dynet.Runtime.Routing
import Dynet.Persistence.Bootstrap

/-! One reload, from taking the lock to its result. What the reload cannot decide
itself is in `ReloadInputs`: the file it reads, the clock, faults of the database, and
what other holders of the runtime commit meanwhile. The configuration's fingerprint
and the compiler of egress nodes are arguments. -/
namespace Dynet.Cli
open Dynet.Runtime Dynet.Runtime.Validation Dynet.State Dynet.Ingress Dynet.Persistence.Bootstrap Dynet.Lib

inductive ReloadResult where
  | applied (generation : Nat) (changedFields : List String)
  | noop (generation : Nat)
  | restartRequired (generation : Nat) (fields : List String)
  | invalid (generation : Nat)
  | failed (generation : Nat)
  deriving DecidableEq, Repr

namespace ReloadResult

def isApplied : ReloadResult → Bool
  | .applied _ _ => true
  | _ => false

def generation : ReloadResult → Nat
  | .applied generation _ | .noop generation | .restartRequired generation _ | .invalid generation
  | .failed generation => generation

end ReloadResult

structure RuntimeReload (Medium : Type) where
  current : Config
  configPath : Option String
  runtime : RuntimeState
  store : Tables
  egress : ReloadableEgress Medium
  tun : TunCaptureConfig
  audit : RuntimeConfigAudit

/-- A reconfiguration that another holder of the runtime prepared at some generation. -/
structure OtherReload where
  previousGeneration : Nat
  seed : RuntimeSeed
  deriving DecidableEq, Repr

def OtherReload.prepared (other : OtherReload) : RuntimeReconfigure :=
  ⟨other.previousGeneration,.fromSeed (other.previousGeneration + 1) other.seed⟩

structure ReloadInputs where
  trigger : ConfigReloadTrigger
  /-- `Config::from_config_path` -/
  file : Except String Config
  now : Nat
  /-- What other holders of the runtime commit before this reload does. -/
  others : List OtherReload
  storeFault : Option String
  restoreFault : Option String

def configSource : Option String → String
  | none => "dynet.toml (default) + inherited environment"
  | some path => s!"{path} + inherited environment"

/-- Commits by other holders of the runtime; a refused one changes nothing. -/
def commitOthers (runtime : RuntimeState) (others : List OtherReload) : RuntimeState :=
  others.foldl (fun runtime other => match runtime.commitReconfigure other.prepared with
    | .ok (_,next) => next
    | .error _ => runtime) runtime

/-- Those of a sequence of reconfigurations that commit, in order. -/
def committing (runtime : RuntimeState) : List OtherReload → List OtherReload
  | [] => []
  | other::rest => match runtime.commitReconfigure other.prepared with
    | .ok (_,next) => other::committing next rest
    | .error _ => committing runtime rest

theorem committing_not_older {runtime : RuntimeState} {generation : Nat} (others : List OtherReload)
    (passed : generation < runtime.generation) :
    (committing runtime others).countP (·.previousGeneration = generation) = 0 := by
  induction others generalizing runtime with
  | nil => rfl
  | cons other rest ih =>
    unfold committing
    split
    next current next committed =>
      obtain ⟨same,_,rfl⟩ := (RuntimeState.commitReconfigure_ok_iff _ _ _ _).mp committed
      have prepared : runtime.generation = other.previousGeneration := same
      have newer : ¬ other.previousGeneration = generation := by omega
      have later : generation < RuntimeState.generation { runtime with routing := other.prepared.routing } := by
        change generation < other.previousGeneration + 1
        omega
      rw [List.countP_cons_of_neg (by simpa using newer)]
      exact ih later
    next => exact ih passed

theorem committing_once (runtime : RuntimeState) (others : List OtherReload) (generation : Nat) :
    (committing runtime others).countP (·.previousGeneration = generation) ≤ 1 := by
  induction others generalizing runtime with
  | nil => exact Nat.zero_le 1
  | cons other rest ih =>
    unfold committing
    split
    next current next committed =>
      obtain ⟨_,_,rfl⟩ := (RuntimeState.commitReconfigure_ok_iff _ _ _ _).mp committed
      rw [List.countP_cons]
      split_ifs with same
      · have passed : generation < RuntimeState.generation { runtime with routing := other.prepared.routing } := by
          change generation < other.previousGeneration + 1
          have equal : other.previousGeneration = generation := by simpa using same
          omega
        rw [committing_not_older rest passed]
      · exact ih _
    next => exact ih runtime

namespace RuntimeReload
variable {Medium : Type} (compile : EgressNodeConfig → Except String Medium) (fingerprint : Config → String)

def new (now : Nat) (config : Config) (configPath : Option String) (runtime : RuntimeState)
    (store : Tables) : Except String (RuntimeReload Medium) := do
  let egress ← ReloadableEgress.new compile runtime.generation config.forwarding.executionNodes
  return {
    current := config
    configPath, runtime, store, egress
    tun := config.capture.tun
    audit := .new now runtime.generation (fingerprint config) (configSource configPath) }

def failed (s : RuntimeReload Medium) (now : Nat) (trigger : ConfigReloadTrigger) :
    ReloadResult × RuntimeReload Medium :=
  (.failed s.runtime.generation,{ s with audit := s.audit.recordFailed now trigger })

def applyCandidate (inputs : ReloadInputs) (candidate : Config) (changed : List String)
    (s : RuntimeReload Medium) : ReloadResult × RuntimeReload Medium :=
  let prepared := s.runtime.prepareReconfigure candidate.forwarding.seed
  let generation := prepared.routing.generation
  let s := { s with runtime := commitOthers s.runtime inputs.others }
  match s.egress.install compile generation candidate.forwarding.executionNodes with
  | .error _ => s.failed inputs.now inputs.trigger
  | .ok egress =>
    let s := { s with egress }
    let previousSeed := s.current.forwarding.seed
    match replaceBootstrap inputs.storeFault candidate.forwarding.seed s.store with
    | (.error _,store) => { s with store, egress := s.egress.remove generation }.failed inputs.now inputs.trigger
    | (.ok _,store) =>
      let s := { s with store }
      match s.runtime.commitReconfigure prepared with
      | .error _ =>
        let s := { s with egress := s.egress.remove generation }
        let restored := replaceBootstrap inputs.restoreFault previousSeed s.store
        { s with store := restored.2 }.failed inputs.now inputs.trigger
      | .ok (_,runtime) =>
        (.applied generation changed,{ s with
          runtime
          tun := candidate.capture.tun
          current := candidate
          audit := s.audit.recordApplied inputs.now inputs.trigger generation (fingerprint candidate) changed })

def reload (inputs : ReloadInputs) (s : RuntimeReload Medium) : ReloadResult × RuntimeReload Medium :=
  let during := { s with runtime := commitOthers s.runtime inputs.others }
  match inputs.file with
  | .error _ =>
    (.invalid during.runtime.generation,
      { during with audit := s.audit.recordInvalid inputs.now inputs.trigger })
  | .ok candidate =>
    let plan := s.current.planReload candidate
    match plan.disposition with
    | .noop =>
      (.noop during.runtime.generation,
        { during with audit := s.audit.recordNoop inputs.now inputs.trigger (fingerprint candidate) })
    | .restartRequired =>
      (.restartRequired during.runtime.generation plan.restartRequiredFields,
        { during with
          audit := s.audit.recordRestartRequired inputs.now inputs.trigger (fingerprint candidate)
            plan.changedFields plan.restartRequiredFields })
    | .apply => s.applyCandidate compile fingerprint inputs candidate plan.changedFields

section Atomicity
variable {compile fingerprint}

/-- The store takes the seed: no database fault, valid, and no key written twice. -/
def StoreAccepts (fault : Option String) (seed : RuntimeSeed) : Prop :=
  fault = none ∧ SeedAccepted seed ∧ KeysDistinct seed

theorem replaceBootstrap_of_accepts {fault : Option String} {seed : RuntimeSeed} (store : Tables)
    (accepts : StoreAccepts fault seed) : replaceBootstrap fault seed store = (.ok (),.ofSeed seed) := by
  rcases replaceBootstrap_cases fault seed store with ⟨_,_,_,replaced⟩ | ⟨refused,_⟩
  · exact replaced
  · exact absurd accepts refused

theorem replaceBootstrap_of_refuses {fault : Option String} {seed : RuntimeSeed} (store : Tables)
    (refuses : ¬ StoreAccepts fault seed) :
    ∃ error, replaceBootstrap fault seed store = (.error error,store) := by
  rcases replaceBootstrap_cases fault seed store with ⟨clean,accepted,distinct,_⟩ | ⟨_,unchanged⟩
  · exact absurd ⟨clean,accepted,distinct⟩ refuses
  · exact unchanged

theorem commitOthers_generation (runtime : RuntimeState) (others : List OtherReload) :
    runtime.generation ≤ (commitOthers runtime others).generation := by
  induction others generalizing runtime with
  | nil => exact Nat.le_refl _
  | cons other rest ih =>
    refine Nat.le_trans ?_ (ih _)
    dsimp only
    split
    next generation after committed =>
      obtain ⟨unmoved,_,rfl⟩ := (RuntimeState.commitReconfigure_ok_iff _ _ _ _).mp committed
      rw [unmoved]
      exact Nat.le_succ _
    next => exact Nat.le_refl _

/-- Routing, bootstrap, graphs and capture settings are as before, up to what others
committed to the runtime meanwhile. -/
structure Unchanged (inputs : ReloadInputs) (s t : RuntimeReload Medium) : Prop where
  runtime : t.runtime = commitOthers s.runtime inputs.others
  store : t.store = s.store
  egress : t.egress = s.egress
  tun : t.tun = s.tun
  current : t.current = s.current

/-- Writing the previous seed back over the candidate's rows gives the old tables. -/
def Restores (inputs : ReloadInputs) (candidate : Config) (s : RuntimeReload Medium) : Prop :=
  (StoreAccepts inputs.restoreFault s.current.forwarding.seed ∧
    .ofSeed s.current.forwarding.seed = s.store) ∨
  (¬ StoreAccepts inputs.restoreFault s.current.forwarding.seed ∧
    .ofSeed candidate.forwarding.seed = s.store)

theorem restores_iff (inputs : ReloadInputs) (candidate : Config) (s : RuntimeReload Medium) :
    (replaceBootstrap inputs.restoreFault s.current.forwarding.seed
      (.ofSeed candidate.forwarding.seed)).2 = s.store ↔ Restores inputs candidate s := by
  unfold Restores
  by_cases accepts : StoreAccepts inputs.restoreFault s.current.forwarding.seed
  · rw [replaceBootstrap_of_accepts _ accepts]
    simp [accepts]
  · obtain ⟨error,unchanged⟩ := replaceBootstrap_of_refuses (.ofSeed candidate.forwarding.seed) accepts
    rw [unchanged]
    simp [accepts]

theorem install_error {egress : ReloadableEgress Medium} {generation : Nat}
    {configs : Std.ExtTreeMap String EgressNodeConfig} {error : String}
    (broken : GraphEgress.tryFrom compile configs = .error error) :
    egress.install compile generation configs = .error error := by
  rw [ReloadableEgress.install,broken]
  rfl

theorem install_ok {egress : ReloadableEgress Medium} {generation : Nat}
    {configs : Std.ExtTreeMap String EgressNodeConfig} {graph : GraphEgress Medium}
    (compiled : GraphEgress.tryFrom compile configs = .ok graph) :
    egress.install compile generation configs = .ok (egress.insertGraph generation graph) := by
  rw [ReloadableEgress.install,compiled]
  rfl

theorem applyCandidate_bounded (inputs : ReloadInputs) (candidate : Config) (changed : List String)
    (s : RuntimeReload Medium) (bounded : s.egress.Bounded s.runtime.generation) :
    (s.applyCandidate compile fingerprint inputs candidate changed).2.egress.Bounded
      (s.applyCandidate compile fingerprint inputs candidate changed).2.runtime.generation := by
  have later := commitOthers_generation s.runtime inputs.others
  cases compiled : GraphEgress.tryFrom compile candidate.forwarding.executionNodes with
  | error error =>
    simp only [applyCandidate,install_error compiled]
    exact bounded.mono later
  | ok graph =>
    have installed : (s.egress.insertGraph (s.runtime.generation + 1) graph).Bounded (s.runtime.generation + 1) :=
      (bounded.mono (Nat.le_succ _)).insertGraph graph
    simp only [applyCandidate,install_ok compiled]
    split
    next => exact installed.remove_newest.mono later
    next =>
      split
      next => exact installed.remove_newest.mono later
      next after committed =>
        obtain ⟨_,_,rfl⟩ := (RuntimeState.commitReconfigure_ok_iff _ _ _ _).mp committed
        exact installed

theorem reload_bounded (inputs : ReloadInputs) (s : RuntimeReload Medium)
    (bounded : s.egress.Bounded s.runtime.generation) :
    (s.reload compile fingerprint inputs).2.egress.Bounded
      (s.reload compile fingerprint inputs).2.runtime.generation := by
  have later := commitOthers_generation s.runtime inputs.others
  unfold reload
  split
  next => exact bounded.mono later
  next candidate _ =>
    dsimp only
    split
    next => exact bounded.mono later
    next => exact bounded.mono later
    next => exact applyCandidate_bounded inputs candidate _ s bounded

theorem applyCandidate_unchanged_iff (inputs : ReloadInputs) (candidate : Config) (changed : List String)
    (s : RuntimeReload Medium) (bounded : s.egress.Bounded s.runtime.generation)
    (notApplied : (s.applyCandidate compile fingerprint inputs candidate changed).1.isApplied = false) :
    Unchanged inputs s (s.applyCandidate compile fingerprint inputs candidate changed).2 ↔
      ∀ graph, GraphEgress.tryFrom compile candidate.forwarding.executionNodes = .ok graph →
        s.egress.inner.size < retainedGenerations ∧
          (StoreAccepts inputs.storeFault candidate.forwarding.seed → Restores inputs candidate s) := by
  cases compiled : GraphEgress.tryFrom compile candidate.forwarding.executionNodes with
  | error error =>
    simp only [applyCandidate,install_error compiled]
    simp only [reduceCtorEq,false_implies,implies_true,iff_true]
    exact ⟨rfl,rfl,rfl,rfl,rfl⟩
  | ok graph =>
    have restored := bounded.restored_iff graph
    have only : (∀ other, (Except.ok graph : Except String (GraphEgress Medium)) = .ok other →
          s.egress.inner.size < retainedGenerations ∧
            (StoreAccepts inputs.storeFault candidate.forwarding.seed → Restores inputs candidate s)) ↔
        s.egress.inner.size < retainedGenerations ∧
          (StoreAccepts inputs.storeFault candidate.forwarding.seed → Restores inputs candidate s) :=
      ⟨fun all => all graph rfl,fun holds _ _ => holds⟩
    rw [only]
    simp only [applyCandidate,install_ok compiled] at notApplied ⊢
    by_cases accepts : StoreAccepts inputs.storeFault candidate.forwarding.seed
    · simp only [replaceBootstrap_of_accepts _ accepts] at notApplied ⊢
      cases committed : (commitOthers s.runtime inputs.others).commitReconfigure
          (s.runtime.prepareReconfigure candidate.forwarding.seed) with
      | ok next =>
        simp only [committed] at notApplied
        cases notApplied
      | error error =>
        simp only
        rw [← restored,← restores_iff]
        constructor
        · intro unchanged
          exact ⟨unchanged.egress,fun _ => unchanged.store⟩
        · intro ⟨egress,store⟩
          exact ⟨rfl,store accepts,egress,rfl,rfl⟩
    · obtain ⟨error,kept⟩ := replaceBootstrap_of_refuses s.store accepts
      simp only [kept]
      rw [← restored]
      constructor
      · intro unchanged
        exact ⟨unchanged.egress,fun impossible => absurd impossible accepts⟩
      · intro ⟨egress,_⟩
        exact ⟨rfl,rfl,egress,rfl,rfl⟩

/-- A reload without effect leaves everything as it was exactly when it either never
installed a graph or there was room for one more, and its writes to the store did not
happen or were undone. -/
theorem failed_reload_unchanged_iff (inputs : ReloadInputs) (s : RuntimeReload Medium)
    (bounded : s.egress.Bounded s.runtime.generation)
    (notApplied : (s.reload compile fingerprint inputs).1.isApplied = false) :
    Unchanged inputs s (s.reload compile fingerprint inputs).2 ↔
      ∀ candidate, inputs.file = .ok candidate → (s.current.planReload candidate).disposition = .apply →
        ∀ graph, GraphEgress.tryFrom compile candidate.forwarding.executionNodes = .ok graph →
        s.egress.inner.size < retainedGenerations ∧
          (StoreAccepts inputs.storeFault candidate.forwarding.seed → Restores inputs candidate s) := by
  cases file : inputs.file with
  | error error =>
    simp only [reload,file,reduceCtorEq,false_implies,implies_true,iff_true]
    exact ⟨rfl,rfl,rfl,rfl,rfl⟩
  | ok candidate =>
    simp only [Except.ok.injEq,forall_eq']
    cases plan : (s.current.planReload candidate).disposition with
    | noop | restartRequired =>
      simp only [reload,file,plan,reduceCtorEq,false_implies,iff_true]
      exact ⟨rfl,rfl,rfl,rfl,rfl⟩
    | apply =>
      simp only [reload,file,plan,true_implies] at notApplied ⊢
      exact applyCandidate_unchanged_iff inputs candidate _ s bounded notApplied

end Atomicity

section Runs

/-- The default configuration with another idle timeout of captured TCP flows. -/
def timeoutConfig (millis : Nat) : Config :=
  { Config.default with
    capture := ⟨{ TunCaptureConfig.default with tcpIdleTimeout := .fromMillis millis },⟨none,[],[]⟩⟩ }

/-- Loads, but has no enabled DNS upstream and fails the seed's validation. -/
def mutedConfig : Config :=
  { Config.default with
    forwarding := ⟨{ RuntimeSeed.singleNode "direct" with
      dnsUpstreams := [⟨⟨"cloudflare"⟩,.v4 0x01010101 53,.udp,false,0⟩] },
      ForwardingConfig.default.executionNodes⟩ }

def reloadOf (config : Config) : ReloadInputs := ⟨.manual,.ok config,0,[],none,none⟩

def directOnly : EgressNodeConfig → Except String Unit
  | .direct => .ok ()
  | _ => .error "not a direct node"

def started : RuntimeReload Unit where
  current := .default
  configPath := none
  runtime := .fromSeed Config.default.forwarding.seed
  store := .ofSeed Config.default.forwarding.seed
  egress := ⟨(∅ : Std.ExtTreeMap Nat (GraphEgress Unit)).insert 1
    ((∅ : GraphEgress Unit).insert "default-node" ())⟩
  tun := .default
  audit := .new 0 1 "" (configSource none)

/-- The state after so many applied reloads. -/
def afterReloads : Nat → RuntimeReload Unit
  | 0 => started
  | count+1 => ((afterReloads count).reload directOnly (fun _ => "") (reloadOf (timeoutConfig (3000 + count)))).2

theorem afterReloads_bounded (count : Nat) :
    (afterReloads count).egress.Bounded (afterReloads count).runtime.generation := by
  induction count with
  | zero =>
    refine ⟨by decide +kernel,?_⟩
    intro generation member
    have keys : started.egress.generations = [1] := by decide +kernel
    have listed : generation ∈ started.egress.generations := Std.ExtTreeMap.mem_keys.mpr member
    rw [keys,List.mem_singleton] at listed
    exact Nat.le_of_eq listed
  | succ count ih => exact reload_bounded _ _ ih

theorem failed_reload_unchanged_first :
    Unchanged (reloadOf mutedConfig) started
      (started.reload directOnly (fun _ => "") (reloadOf mutedConfig)).2 := by
  apply (failed_reload_unchanged_iff (reloadOf mutedConfig) started (afterReloads_bounded 0)
    (by decide +kernel)).mpr
  intro candidate same _ graph _
  cases same
  refine ⟨by decide +kernel,?_⟩
  intro ⟨_,accepted,_⟩
  have rejected : validateSeed mutedConfig.forwarding.seed ≠ .ok () := by decide +kernel
  exact absurd ((validateSeed_ok_iff _).mpr accepted) rejected

/-- With eight generations retained, the refused candidate costs generation 1 its graph. -/
theorem failed_reload_loses_oldest :
    ¬ ∀ (inputs : ReloadInputs) (s : RuntimeReload Unit), s.egress.Bounded s.runtime.generation →
      (s.reload directOnly (fun _ => "") inputs).1.isApplied = false →
      Unchanged inputs s (s.reload directOnly (fun _ => "") inputs).2 := by
  intro always
  have unchanged := always (reloadOf mutedConfig) (afterReloads 7) (afterReloads_bounded 7)
    (by decide +kernel)
  have before : (afterReloads 7).egress.generations = [1,2,3,4,5,6,7,8] := by decide +kernel
  have after : ((afterReloads 7).reload directOnly (fun _ => "") (reloadOf mutedConfig)).2.egress.generations =
      [2,3,4,5,6,7,8] := by decide +kernel
  rw [unchanged.egress,before] at after
  cases after

end Runs

end RuntimeReload

end Dynet.Cli
