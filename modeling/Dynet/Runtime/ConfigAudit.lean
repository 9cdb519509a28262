import Dynet.Runtime.Model

/-! The audit of configuration reloads: a status that always names the applied
generation and a bounded log of attempts. The clock is an argument. -/
namespace Dynet.Runtime

def reloadAuditLimit : Nat := 128

inductive ConfigReloadTrigger where
  | sighup | manual
  deriving DecidableEq, Repr

inductive ConfigReloadOutcome where
  | applied | noop | restartRequired | invalid | failed
  deriving DecidableEq, Repr

structure RuntimeConfigStatus where
  generation : Nat
  fingerprint : String
  source : String
  startedAtUnixMs : Nat
  appliedAtUnixMs : Nat
  lastReloadAtUnixMs : Option Nat
  lastReloadOutcome : Option ConfigReloadOutcome
  deriving DecidableEq, Repr

structure ConfigReloadAudit where
  id : Nat
  observedAtUnixMs : Nat
  trigger : ConfigReloadTrigger
  outcome : ConfigReloadOutcome
  generationBefore : Nat
  generationAfter : Nat
  candidateFingerprint : Option String
  changedFields : List String
  restartRequiredFields : List String
  message : Option String
  deriving DecidableEq, Repr

structure RuntimeConfigAudit where
  nextId : Nat
  status : RuntimeConfigStatus
  audits : List ConfigReloadAudit
  deriving DecidableEq, Repr

namespace RuntimeConfigAudit

def new (now generation : Nat) (fingerprint source : String) : RuntimeConfigAudit :=
  ⟨0,⟨generation,fingerprint,source,now,now,none,none⟩,[]⟩

def push (audit : RuntimeConfigAudit) (entry : ConfigReloadAudit) : RuntimeConfigAudit :=
  let kept := if audit.audits.length = reloadAuditLimit then audit.audits.tail else audit.audits
  { audit with nextId := audit.nextId + 1, audits := kept ++ [{ entry with id := audit.nextId + 1 }] }

def recordApplied (audit : RuntimeConfigAudit) (now : Nat) (trigger : ConfigReloadTrigger)
    (generation : Nat) (fingerprint : String) (changedFields : List String) : RuntimeConfigAudit :=
  let status := { audit.status with
    generation := generation
    fingerprint := fingerprint
    appliedAtUnixMs := now
    lastReloadAtUnixMs := some now
    lastReloadOutcome := some .applied }
  { audit with status := status }.push
    ⟨0,now,trigger,.applied,audit.status.generation,generation,some fingerprint,changedFields,[],none⟩

def recordUnchanged (audit : RuntimeConfigAudit) (now : Nat) (trigger : ConfigReloadTrigger)
    (outcome : ConfigReloadOutcome) (fingerprint : Option String)
    (changedFields restartRequiredFields : List String) (message : Option String) : RuntimeConfigAudit :=
  let status := { audit.status with lastReloadAtUnixMs := some now, lastReloadOutcome := some outcome }
  { audit with status := status }.push
    ⟨0,now,trigger,outcome,status.generation,status.generation,fingerprint,changedFields,
      restartRequiredFields,message⟩

def recordNoop (audit : RuntimeConfigAudit) (now : Nat) (trigger : ConfigReloadTrigger)
    (fingerprint : String) : RuntimeConfigAudit :=
  audit.recordUnchanged now trigger .noop (some fingerprint) [] [] none

def recordRestartRequired (audit : RuntimeConfigAudit) (now : Nat) (trigger : ConfigReloadTrigger)
    (fingerprint : String) (changedFields restartRequiredFields : List String) : RuntimeConfigAudit :=
  audit.recordUnchanged now trigger .restartRequired (some fingerprint) changedFields restartRequiredFields
    (some "configuration changes require a process restart")

def recordInvalid (audit : RuntimeConfigAudit) (now : Nat) (trigger : ConfigReloadTrigger) :
    RuntimeConfigAudit :=
  audit.recordUnchanged now trigger .invalid none [] []
    (some "configuration parsing or validation failed")

def recordFailed (audit : RuntimeConfigAudit) (now : Nat) (trigger : ConfigReloadTrigger) :
    RuntimeConfigAudit :=
  audit.recordUnchanged now trigger .failed none [] [] (some "runtime configuration commit failed")

@[simp] theorem recordApplied_generation (audit : RuntimeConfigAudit) (now : Nat)
    (trigger : ConfigReloadTrigger) (generation : Nat) (fingerprint : String) (changed : List String) :
    (audit.recordApplied now trigger generation fingerprint changed).status.generation = generation := rfl

@[simp] theorem recordUnchanged_generation (audit : RuntimeConfigAudit) (now : Nat)
    (trigger : ConfigReloadTrigger) (outcome : ConfigReloadOutcome) (fingerprint : Option String)
    (changed restart : List String) (message : Option String) :
    (audit.recordUnchanged now trigger outcome fingerprint changed restart message).status.generation =
      audit.status.generation := rfl

end RuntimeConfigAudit

end Dynet.Runtime
