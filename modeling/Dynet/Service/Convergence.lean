import Dynet.Service.Controller

/-! What an apply or a cleanup of the service leaves wherever it stops, and where one after it
ends in which nothing fails. -/
namespace Dynet.Service
open Dynet.Lib Dynet.Lib.Script Dynet.Lib.Text Dynet.Lib.Checks

variable (controller : ServiceController) (faults : ServiceFaults) (backend : Backend) (artifact : ServiceArtifact)

section Statements

structure Governs : Prop where
  resolved : resolveManager controller = .ok backend
  given : artifactOf controller backend = .ok artifact

/-- What is at the artifact's path is missing or dynet's. -/
def Owned (host : ServiceHost) : Prop :=
  ∃ state, classify controller.digest none artifact host.entry = .ok state ∧ state.isHardFailure = false

/-- The file is the artifact, systemd holds what it says, and the service is enabled and
runs. -/
structure Installed (host : ServiceHost) : Prop where
  file : ∃ mode, host.entry = .file artifact.content mode
  enabled : host.enabled = true
  active : host.active = true
  loaded : backend = .systemd → host.loaded.definition = some artifact.content

/-- The service is neither on disk nor held by systemd, not enabled and does not run. -/
structure Removed (host : ServiceHost) : Prop where
  file : host.entry = .absent
  enabled : host.enabled = false
  active : host.active = false
  loaded : backend = .systemd → host.loaded = .nothing

/-- After an apply in which steps failed, one in which none does ends installed. -/
def ApplyConverges (host : ServiceHost) : Prop :=
  let left := ((serviceApply controller faults).exec host).2
  ∃ report after, (serviceApply controller noFaults).exec left = (.ok report,after) ∧ Installed backend artifact after

/-- After a cleanup in which steps failed, one in which none does ends removed. -/
def CleanupConverges (host : ServiceHost) : Prop :=
  let left := ((serviceCleanup controller faults).exec host).2
  ∃ changed after, (serviceCleanup controller noFaults).exec left = (.ok changed,after) ∧ Removed backend after

def InPlace (host : ServiceHost) : Prop := classify controller.digest none artifact host.entry = .ok .ready

/-- systemd holds another definition of an enabled service. -/
def Outdated (host : ServiceHost) : Prop :=
  backend = .systemd ∧ host.enabled = true ∧ ∃ definition, host.loaded.definition = some definition ∧ definition ≠ artifact.content

/-- The checks and queries before the write pass, and the write does not fail. -/
def Writes (host : ServiceHost) : Prop :=
  requireDoctorReady controller faults backend = .ok () ∧
    (∃ status, serviceStatus controller faults backend artifact host = .ok status) ∧
    (∃ state, classify controller.digest (faults.look 2) artifact host.entry = .ok state) ∧ faults.write = none

/-- systemd holds another definition of an enabled service, and the file was in place, or
was put there and systemd not told of it. -/
def ApplyLost (host : ServiceHost) : Prop :=
  Outdated backend artifact host ∧ (InPlace controller artifact host ∨
    Writes controller faults backend artifact host ∧ faults.change .daemonReload ≠ none)

/-- The service outlives its file. -/
def Lingers (host : ServiceHost) : Prop := host.entry = .absent ∧ ¬ Removed backend host

def stoppedBy (tools : ServiceTools) (host : ServiceHost) : ServiceHost :=
  if host.active then (tools.perform backend .stop host).2 else host

def disabledBy (tools : ServiceTools) (host : ServiceHost) : ServiceHost :=
  if host.enabled then (tools.perform backend .disable host).2 else host

/-- The steps of a cleanup up to the removal of the file do not fail. -/
def Removes (host : ServiceHost) : Prop :=
  (∃ state, classify controller.digest (faults.look 0) artifact host.entry = .ok state) ∧
    (∃ status, managerStatus controller faults backend artifact 1 host = .ok status) ∧
    (host.active = true → faults.change .stop = none) ∧
    (∃ status, managerStatus controller faults backend artifact 2 (stoppedBy backend controller.tools host) = .ok status) ∧
    (host.enabled = true → faults.change .disable = none) ∧
    (∃ state, classify controller.digest (faults.look 3) artifact host.entry = .ok state) ∧ faults.remove = none

/-- The service outlived its file before, or the file is removed while systemd holds the
service, stopped and disabled, and systemd is not told of it. -/
def CleanupLost (host : ServiceHost) : Prop :=
  Lingers backend host ∨ backend = .systemd ∧ host.entry ≠ .absent ∧
    (disabledBy backend controller.tools (stoppedBy backend controller.tools host)).loaded ≠ .nothing ∧
    Removes controller faults backend artifact host ∧ faults.change .daemonReload ≠ none

end Statements

section Steps
variable {controller : ServiceController} {faults : ServiceFaults} {backend : Backend} {artifact : ServiceArtifact}
  {host : ServiceHost}

theorem Owned.cases (owned : Owned controller artifact host) : host.entry = .absent ∨
    ∃ content mode, host.entry = .file content mode ∧
      (classify controller.digest none artifact host.entry = .ok .ready ∨
        classify controller.digest none artifact host.entry = .ok .managedUpdate) := by
  obtain ⟨state,found,soft⟩ := owned
  cases entry : host.entry with
  | absent => exact .inl rfl
  | unreadable error =>
    rw [entry] at found
    cases found
  | other =>
    rw [entry] at found
    cases found
    cases soft
  | file content mode =>
    rw [entry] at found
    refine .inr ⟨content,mode,rfl,?_⟩
    cases state with
    | ready => exact .inl found
    | managedUpdate => exact .inr found
    | missing => cases classify_missing_iff.mp found
    | drifted => cases soft
    | foreign => cases soft
    | invalid => cases soft

theorem classify_seen {digest : String → String} {fault : Option LookFault} {entry : Entry} {state : ResourceState}
    (found : classify digest fault artifact entry = .ok state) : classify digest none artifact entry = .ok state := by
  cases fault with
  | none => exact found
  | some fault =>
    cases fault with
    | metadata error => cases found
    | content error =>
      cases entry with
      | file content mode => cases found
      | absent => exact found
      | other => exact found
      | unreadable error => cases found

theorem managerCommand_leads {change : ServiceChange} {P : ServiceHost → Prop}
    (performed : (controller.tools.perform backend change host).1.success = true ∧ P (controller.tools.perform backend change host).2) :
    Leads (· = host) (managerCommand controller faults backend artifact change)
      (fun _ after => P after ∧ faults.change change = none) (fun after => after = host ∧ faults.change change ≠ none) := by
  refine .step ?_
  rintro _ rfl
  cases failing : faults.change change with
  | some fault =>
    cases fault with
    | notStarted error => exact ⟨rfl,by simp⟩
    | failed stderr =>
      refine ⟨rfl,by simp⟩
  | none =>
    simp only [requireOutput,ok_bind,ensure_of _ _ performed.1]
    exact ⟨performed.2,trivial⟩

/-- What holds where nothing needs to be done and is brought about where something does. -/
theorem unlessAlready_leads {already : Bool} {change : ServiceChange} {P : ServiceHost → Prop} (holds : already = true → P host)
    (performed : already = false →
      (controller.tools.perform backend change host).1.success = true ∧ P (controller.tools.perform backend change host).2)
    (done : String) : Leads (· = host) (unlessAlready controller faults already backend artifact change done)
      (fun _ after => P after ∧ (already = false → faults.change change = none))
      (fun after => after = host ∧ already = false ∧ faults.change change ≠ none) := by
  cases already with
  | true =>
    refine .pure ?_
    rintro _ rfl
    exact ⟨holds rfl,fun other => by cases other⟩
  | false =>
    refine .bind ((managerCommand_leads (performed rfl)).mono (fun _ => id) (fun _ _ => id) ?_) fun _ => .pure fun _ ends => ?_
    · exact fun after failed => ⟨failed.1,rfl,failed.2⟩
    · exact ⟨ends.1,fun _ => ends.2⟩

/-- What the manager is seen to say is so; of a service without a file it is not asked. -/
theorem managerStatus_seen (lawful : controller.tools.Lawful backend) {round : Nat} {enabled active : Bool} {pid : Option Nat}
    (owned : Owned controller artifact host)
    (seen : managerStatus controller faults backend artifact round host = .ok (enabled,active,pid)) :
    if host.entry = .absent then enabled = false ∧ active = false else enabled = host.enabled ∧ active = host.active := by
  obtain ⟨state,looked,rest⟩ := (bind_ok_iff _ _ _).mp seen
  have found := classify_seen looked
  rcases owned.cases with absent | ⟨content,mode,entry,kind⟩
  · rw [if_pos absent]
    rw [absent] at found
    cases found
    cases rest
    exact ⟨rfl,rfl⟩
  · rw [if_neg (by simp [entry])]
    have soft : ¬(state = .missing ∨ state.isHardFailure = true) := by
      rcases kind with kind | kind
      all_goals
        rw [kind] at found
        cases found
        decide
    rw [if_neg soft] at rest
    obtain ⟨first,asked,rest⟩ := (bind_ok_iff _ _ _).mp rest
    obtain ⟨second,askedAgain,rest⟩ := (bind_ok_iff _ _ _).mp rest
    obtain ⟨third,-,rest⟩ := (bind_ok_iff _ _ _).mp rest
    cases rest
    obtain ⟨output,answered,rfl⟩ := (map_ok_iff _ _ _).mp asked
    obtain ⟨outputAgain,answeredAgain,rfl⟩ := (map_ok_iff _ _ _).mp askedAgain
    constructor
    · unfold queried at answered
      split at answered
      · cases answered
      · cases answered
        exact lawful.enabledShown host content mode entry
    · unfold queried at answeredAgain
      split at answeredAgain
      · cases answeredAgain
      · cases answeredAgain
        exact lawful.activeShown host content mode entry

theorem managerStatus_known (looks : ∀ round, faults.look round = none) (asks : ∀ round query, faults.query round query = none)
    (owned : Owned controller artifact host) (round : Nat) :
    ∃ status, managerStatus controller faults backend artifact round host = .ok status := by
  obtain ⟨state,found,soft⟩ := owned
  unfold managerStatus
  rw [looks,found,ok_bind]
  have answered (query : ServiceQuery) : queried controller faults backend round query host =
      .ok (controller.tools.answer backend query host) := by rw [queried,asks]
  have pid (active : Bool) : ∃ pid, (if active then shownPid controller faults backend round host else .ok none) = .ok pid := by
    cases active
    · exact ⟨none,rfl⟩
    · cases backend
      · exact ⟨_,by simp only [if_true,shownPid,answered,Except.map]; rfl⟩
      · exact ⟨_,by simp only [if_true,shownPid,answered]; rfl⟩
  split
  · exact ⟨_,rfl⟩
  · obtain ⟨shown,known⟩ := pid (controller.tools.answer backend .isActive host).success
    refine ⟨((controller.tools.answer backend .isEnabled host).success,
      (controller.tools.answer backend .isActive host).success,shown),?_⟩
    simp only [answered,Except.map,ok_bind]
    rw [known]
    rfl

theorem serviceStatus_known (looks : ∀ round, faults.look round = none) (asks : ∀ round query, faults.query round query = none)
    (owned : Owned controller artifact host) : ∃ status, serviceStatus controller faults backend artifact host = .ok status := by
  obtain ⟨⟨enabled,active,pid⟩,known⟩ := @managerStatus_known controller faults backend _ _ looks asks owned 1
  obtain ⟨state,found,soft⟩ := owned
  unfold serviceStatus
  rw [looks,found]
  exact ⟨_,by rw [ok_bind,known]; rfl⟩

theorem serviceStatus_seen (lawful : controller.tools.Lawful backend) (owned : Owned controller artifact host)
    {status : ServiceStatus} (seen : serviceStatus controller faults backend artifact host = .ok status) :
    if host.entry = .absent then status.enabled = false ∧ status.active = false
    else status.enabled = host.enabled ∧ status.active = host.active := by
  obtain ⟨state,-,rest⟩ := (bind_ok_iff _ _ _).mp seen
  obtain ⟨⟨enabled,active,pid⟩,known,rest⟩ := (bind_ok_iff _ _ _).mp rest
  cases rest
  exact managerStatus_seen lawful owned known

theorem reloadManagerDefinition_leads (lawful : controller.tools.Lawful backend) (host : ServiceHost) :
    Leads (· = host) (reloadManagerDefinition controller faults backend artifact)
      (fun _ after => after = host.rescanned backend ∧ (backend = .systemd → faults.change .daemonReload = none))
      (fun after => after = host ∧ backend = .systemd ∧ faults.change .daemonReload ≠ none) := by
  cases backend with
  | systemd =>
    refine (managerCommand_leads (lawful.reloads rfl host)).mono (fun _ => id) (fun _ _ ends => ⟨ends.1,fun _ => ends.2⟩) ?_
    exact fun after stopped => ⟨stopped.1,rfl,stopped.2⟩
  | procd =>
    refine .pure ?_
    rintro _ rfl
    exact ⟨rfl,fun other => by cases other⟩

structure Fresh (backend : Backend) (artifact : ServiceArtifact) (host : ServiceHost) : Prop where
  file : ∃ mode, host.entry = .file artifact.content mode ∧ mode &&& 0x1ff = artifact.mode
  loaded : backend = .systemd → ∀ definition, host.loaded.definition = some definition → definition = artifact.content

theorem refreshed_definition {loaded : Loaded} {content definition : String} {mode : Nat}
    (held : (loaded.refreshed (.file content mode)).definition = some definition) : definition = content := by
  cases loaded with
  | nothing => cases held
  | idle old => exact (Option.some.inj held).symm
  | running old => exact (Option.some.inj held).symm

theorem rescanned_fresh (file : ∃ mode, host.entry = .file artifact.content mode ∧ mode &&& 0x1ff = artifact.mode) :
    Fresh backend artifact (host.rescanned backend) := by
  obtain ⟨mode,entry,masked⟩ := file
  cases backend with
  | systemd =>
    refine ⟨⟨mode,entry,masked⟩,fun _ definition held => ?_⟩
    rw [ServiceHost.rescanned,entry] at held
    exact @refreshed_definition _ _ _ mode held
  | procd => exact ⟨⟨mode,entry,masked⟩,fun other => by cases other⟩

theorem Fresh.current (fresh : Fresh backend artifact host) : ¬ Outdated backend artifact host := by
  rintro ⟨systemd,-,definition,held,other⟩
  exact other (fresh.loaded systemd definition held)

theorem refreshed_active (loaded : Loaded) (entry : Entry) : (loaded.refreshed entry).active = loaded.active := by
  cases loaded with
  | nothing => rfl
  | idle definition =>
    cases entry with
    | file content mode => rfl
    | absent => rfl
    | unreadable error => rfl
    | other => rfl
  | running definition =>
    cases entry with
    | file content mode => rfl
    | absent => rfl
    | unreadable error => rfl
    | other => rfl

theorem rescanned_same (host : ServiceHost) (backend : Backend) : (host.rescanned backend).entry = host.entry ∧
    (host.rescanned backend).enabled = host.enabled ∧ (host.rescanned backend).active = host.active := by
  cases backend with
  | systemd => exact ⟨rfl,rfl,refreshed_active host.loaded host.entry⟩
  | procd => exact ⟨rfl,rfl,rfl⟩

theorem InPlace.owned (there : InPlace controller artifact host) : Owned controller artifact host := ⟨_,there,rfl⟩

theorem Fresh.inPlace (fresh : Fresh backend artifact host) : InPlace controller artifact host := classify_ready_iff.mpr fresh.file

/-- The file is written where its directory has been looked at. -/
theorem doctor_carrier (given : artifactOf controller backend = .ok artifact)
    (ready : requireDoctorReady controller faults backend = .ok ()) : controller.surroundings.isDir artifact.carrier = true := by
  have carried : (carrierCheck controller backend).state = .ready := by
    by_contra other
    have failures := (ensure_ok_iff _ _).mp ready
    refine List.filter_eq_nil_iff.mp failures (carrierCheck controller backend) ?_ (by simpa using other)
    exact List.mem_append_right _ (List.mem_singleton_self _)
  cases backend with
  | systemd =>
    obtain ⟨content,-,rfl⟩ := (map_ok_iff _ _ _).mp given
    by_contra other
    simp [carrierCheck,directoryCheck,other] at carried
  | procd =>
    obtain ⟨content,-,rfl⟩ := (map_ok_iff _ _ _).mp given
    by_contra other
    simp only [carrierCheck,directoryCheck,Bool.not_eq_true] at carried other
    rw [other] at carried
    split at carried
    · cases carried
    · cases carried

end Steps

section Applying

/-- How an apply leaves the host wherever it stops. -/
def ApplyLeft (host after : ServiceHost) : Prop := Owned controller artifact after ∧
  (Outdated backend artifact after ∧ InPlace controller artifact after ↔ ApplyLost controller faults backend artifact host)

/-- The file is in place: it was, or systemd has read it since. -/
def Prepared (host after : ServiceHost) : Prop := after.active = host.active ∧
  (after = host ∧ InPlace controller artifact host ∨ Fresh backend artifact after ∧ ¬ ApplyLost controller faults backend artifact host)

def Quiet : Prop := faults = noFaults ∧ requireDoctorReady controller noFaults backend = .ok ()

variable {controller : ServiceController} {faults : ServiceFaults} {backend : Backend} {artifact : ServiceArtifact}
  {host start : ServiceHost}

theorem applyLeft_unchanged (owned : Owned controller artifact host)
    (unwritten : Writes controller faults backend artifact host → InPlace controller artifact host) :
    ApplyLeft controller faults backend artifact host host := by
  refine ⟨owned,fun both => ⟨both.1,.inl both.2⟩,?_⟩
  rintro ⟨outdated,there | ⟨written,-⟩⟩
  · exact ⟨outdated,there⟩
  · exact ⟨outdated,unwritten written⟩

theorem Fresh.left (fresh : Fresh backend artifact start) (kept : ¬ ApplyLost controller faults backend artifact host) :
    ApplyLeft controller faults backend artifact host start :=
  ⟨fresh.inPlace.owned,fun both => absurd both.1 fresh.current,fun lost => absurd lost kept⟩

theorem Prepared.left (prepared : Prepared controller faults backend artifact host start) :
    ApplyLeft controller faults backend artifact host start := by
  obtain ⟨-,⟨rfl,there⟩ | ⟨fresh,kept⟩⟩ := prepared
  · exact applyLeft_unchanged there.owned fun _ => there
  · exact fresh.left kept

theorem Prepared.file (prepared : Prepared controller faults backend artifact host start) :
    ∃ mode, start.entry = .file artifact.content mode ∧ mode &&& 0x1ff = artifact.mode := by
  obtain ⟨-,⟨rfl,there⟩ | ⟨fresh,-⟩⟩ := prepared
  · exact classify_ready_iff.mp there
  · exact fresh.file

theorem started_outdated {definition : String} (started : backend = .systemd → definition = host.loaded.definition.getD artifact.content) :
    Outdated backend artifact { host with loaded := .running definition } ↔ Outdated backend artifact host := by
  constructor
  · rintro ⟨systemd,enabled,_,⟨rfl⟩,other⟩
    have taken := started systemd
    cases held : host.loaded.definition with
    | none =>
      rw [held] at taken
      exact absurd taken other
    | some loaded =>
      rw [held] at taken
      cases taken
      exact ⟨systemd,enabled,loaded,held,other⟩
  · rintro ⟨systemd,enabled,loaded,held,other⟩
    refine ⟨systemd,enabled,definition,rfl,?_⟩
    rw [started systemd,held]
    exact other

/-- Where the service runs at last, it runs what its file says, unless systemd held something
else with the file in place before the apply. -/
theorem Prepared.started (prepared : Prepared controller faults backend artifact host start) (enabled : start.enabled = true)
    {definition : String} (started : backend = .systemd → definition = start.loaded.definition.getD artifact.content) :
    ApplyLeft controller faults backend artifact host { start with loaded := .running definition } ∧
      (Installed backend artifact { start with loaded := .running definition } ↔
        ¬(Outdated backend artifact host ∧ InPlace controller artifact host)) := by
  obtain ⟨mode,entry,-⟩ := prepared.file
  have installed : Installed backend artifact { start with loaded := .running definition } ↔
      (backend = .systemd → definition = artifact.content) :=
    ⟨fun installed systemd => Option.some.inj (installed.loaded systemd),
      fun same => ⟨⟨mode,entry⟩,enabled,rfl,fun systemd => congrArg some (same systemd)⟩⟩
  obtain ⟨-,⟨rfl,there⟩ | ⟨fresh,kept⟩⟩ := prepared
  · have outdated := started_outdated started
    have here : InPlace controller artifact { start with loaded := .running definition } := there
    refine ⟨⟨here.owned,fun both => ⟨outdated.mp both.1,.inl there⟩,fun lost => ⟨outdated.mpr lost.1,here⟩⟩,?_⟩
    rw [installed]
    constructor
    · rintro same ⟨held,-⟩
      obtain ⟨systemd,-,_,⟨rfl⟩,other⟩ := outdated.mpr held
      exact other (same systemd)
    · intro current systemd
      by_contra other
      exact current ⟨outdated.mp ⟨systemd,enabled,definition,rfl,other⟩,there⟩
  · have same : backend = .systemd → definition = artifact.content := by
      intro systemd
      rw [started systemd]
      cases held : start.loaded.definition with
      | none => rfl
      | some loaded => exact fresh.loaded systemd loaded held
    have still : Fresh backend artifact { start with loaded := .running definition } := by
      refine ⟨fresh.file,?_⟩
      rintro systemd _ ⟨rfl⟩
      exact same systemd
    refine ⟨still.left kept,?_⟩
    rw [installed]
    exact ⟨fun _ both => kept ⟨both.1,.inl both.2⟩,fun _ => same⟩

theorem installArtifact_leads (lawful : controller.tools.Lawful backend) (governs : Governs controller backend artifact)
    (owned : Owned controller artifact host) (ready : requireDoctorReady controller faults backend = .ok ())
    {status : ServiceStatus} (asked : serviceStatus controller faults backend artifact host = .ok status)
    {state : ResourceState} (looked : classify controller.digest (faults.look 2) artifact host.entry = .ok state) :
    Leads (· = host) (installArtifact controller faults backend artifact state)
      (fun _ after => Prepared controller faults backend artifact host after ∧ after.enabled = host.enabled)
      (fun after => ApplyLeft controller faults backend artifact host after ∧ ¬ Quiet controller faults backend) := by
  have found := classify_seen looked
  unfold installArtifact
  split
  · have elsewhere : ¬ InPlace controller artifact host := by
      intro there
      rw [there] at found
      cases found
      simp_all
    let written : ServiceHost := { host with entry := .file artifact.content artifact.mode }
    have file : ∃ mode, written.entry = .file artifact.content mode ∧ mode &&& 0x1ff = artifact.mode :=
      ⟨_,rfl,artifactFor_masked governs.given⟩
    refine .bind (Q := fun _ after => after = written ∧ faults.write = none) (.step ?_) fun _ => .given fun unfailing => ?_
    · rintro _ rfl
      simp only [doctor_carrier governs.given ready,Bool.true_eq_false,if_false]
      cases failing : faults.write with
      | none => exact ⟨rfl,rfl⟩
      | some fault =>
        refine ⟨applyLeft_unchanged owned fun writes => ?_,fun quiet => ?_⟩
        · cases failing.symm.trans writes.2.2.2
        · cases failing.symm.trans (congrArg ServiceFaults.write quiet.1)
    · have writes : Writes controller faults backend artifact host := ⟨ready,⟨_,asked⟩,⟨_,looked⟩,unfailing⟩
      refine .bind ((reloadManagerDefinition_leads lawful written).mono (fun _ => id) (fun _ _ => id) ?_) fun _ => .pure ?_
      · rintro _ ⟨rfl,systemd,failing⟩
        have here : InPlace controller artifact written := classify_ready_iff.mpr file
        refine ⟨⟨here.owned,fun both => ⟨both.1,.inr ⟨writes,failing⟩⟩,fun lost => ⟨lost.1,here⟩⟩,fun quiet => ?_⟩
        exact failing (by rw [quiet.1]; rfl)
      · rintro _ ⟨rfl,told⟩
        have same := rescanned_same written backend
        refine ⟨⟨same.2.2,.inr ⟨rescanned_fresh file,?_⟩⟩,same.2.1⟩
        rintro ⟨outdated,there | ⟨-,failing⟩⟩
        · exact elsewhere there
        · exact failing (told outdated.1)
  · have there : InPlace controller artifact host := by
      obtain ⟨known,seen,soft⟩ := owned
      cases seen.symm.trans found
      cases state with
      | ready => exact found
      | missing => simp_all
      | managedUpdate => simp_all
      | drifted => cases soft
      | foreign => cases soft
      | invalid => cases soft
    refine .pure ?_
    rintro _ rfl
    exact ⟨⟨rfl,.inl ⟨rfl,there⟩⟩,rfl⟩

theorem enabling_leads (lawful : controller.tools.Lawful backend) (prepared : Prepared controller faults backend artifact host start)
    (same : start.enabled = host.enabled) {enabled : Bool}
    (known : if host.entry = .absent then enabled = false else enabled = host.enabled) (done : String) :
    Leads (· = start) (unlessAlready controller faults enabled backend artifact .enable done)
      (fun _ after => Prepared controller faults backend artifact host after ∧ after.enabled = true)
      (fun after => ApplyLeft controller faults backend artifact host after ∧ ¬ Quiet controller faults backend) := by
  have leads := @unlessAlready_leads controller faults backend artifact start enabled .enable
    (fun after => Prepared controller faults backend artifact host after ∧ after.enabled = true) ?_ ?_ done
  · refine leads.mono (fun _ => id) (fun _ _ => And.left) ?_
    rintro _ ⟨rfl,-,failing⟩
    exact ⟨prepared.left,fun quiet => failing (by rw [quiet.1]; rfl)⟩
  · intro already
    refine ⟨prepared,?_⟩
    split at known
    · cases known.symm.trans already
    · rw [same,← known,already]
  · intro missing
    obtain ⟨mode,entry,masked⟩ := prepared.file
    obtain ⟨succeeds,enables⟩ := lawful.enables start _ mode entry
    refine ⟨succeeds,?_⟩
    rw [enables]
    obtain ⟨file,loaded⟩ := @rescanned_fresh backend _ start ⟨mode,entry,masked⟩
    refine ⟨⟨(rescanned_same start backend).2.2.trans prepared.1,.inr ⟨⟨file,loaded⟩,?_⟩⟩,rfl⟩
    obtain ⟨-,⟨rfl,-⟩ | ⟨-,kept⟩⟩ := prepared
    · rw [if_neg (by simp [entry]),missing] at known
      exact fun lost => absurd lost.1.2.1 (by simp [← known])
    · exact kept

theorem starting_leads (lawful : controller.tools.Lawful backend) (prepared : Prepared controller faults backend artifact host start)
    (enabled : start.enabled = true) {active : Bool}
    (known : if host.entry = .absent then active = false else active = host.active) (done : String) :
    Leads (· = start) (unlessAlready controller faults active backend artifact .start done)
      (fun _ after => ApplyLeft controller faults backend artifact host after ∧
        (Installed backend artifact after ↔ ¬(Outdated backend artifact host ∧ InPlace controller artifact host)))
      (fun after => ApplyLeft controller faults backend artifact host after ∧ ¬ Quiet controller faults backend) := by
  have leads := @unlessAlready_leads controller faults backend artifact start active .start
    (fun after => ApplyLeft controller faults backend artifact host after ∧
      (Installed backend artifact after ↔ ¬(Outdated backend artifact host ∧ InPlace controller artifact host))) ?_ ?_ done
  · refine leads.mono (fun _ => id) (fun _ _ => And.left) ?_
    rintro _ ⟨rfl,-,failing⟩
    exact ⟨prepared.left,fun quiet => failing (by rw [quiet.1]; rfl)⟩
  · intro already
    have running : start.active = true := by
      split at known
      · cases known.symm.trans already
      · rw [prepared.1,← known,already]
    obtain ⟨definition,held⟩ : ∃ definition, start.loaded = .running definition := by
      unfold ServiceHost.active at running
      cases held : start.loaded with
      | running definition => exact ⟨definition,rfl⟩
      | nothing => rw [held] at running; cases running
      | idle definition => rw [held] at running; cases running
    have taken : backend = .systemd → definition = start.loaded.definition.getD artifact.content := fun _ => by rw [held]; rfl
    have ends := prepared.started enabled taken
    rw [← held] at ends
    exact ends
  · intro _
    obtain ⟨mode,entry,-⟩ := prepared.file
    obtain ⟨succeeds,definition,starts,taken⟩ := lawful.starts start _ mode entry
    rw [starts]
    exact ⟨succeeds,prepared.started enabled taken⟩

theorem serviceApply_leads (lawful : controller.tools.Lawful backend) (governs : Governs controller backend artifact)
    (owned : Owned controller artifact host) : Leads (· = host) (serviceApply controller faults)
      (fun _ after => ApplyLeft controller faults backend artifact host after ∧ requireDoctorReady controller faults backend = .ok () ∧
        (Installed backend artifact after ↔ ¬(Outdated backend artifact host ∧ InPlace controller artifact host)))
      (fun after => ApplyLeft controller faults backend artifact host after ∧ ¬ Quiet controller faults backend) := by
  unfold serviceApply
  refine .trying (fun given resolved => ?_) fun message stopped => ?_
  case refine_2 => cases governs.resolved.symm.trans stopped
  cases governs.resolved.symm.trans resolved
  refine .trying (fun _ passed => ?_) fun message stopped => ⟨applyLeft_unchanged owned fun writes => ?_,fun quiet => ?_⟩
  case refine_2 => cases stopped.symm.trans writes.1
  case refine_3 =>
    obtain ⟨rfl,ready⟩ := quiet
    cases stopped.symm.trans ready
  refine .trying (fun made given => ?_) fun message stopped => ?_
  case refine_2 => cases governs.given.symm.trans stopped
  cases governs.given.symm.trans given
  refine .trying (fun status asked => ?_) fun message stopped => ⟨applyLeft_unchanged owned fun writes => ?_,fun quiet => ?_⟩
  case refine_2 =>
    obtain ⟨-,⟨status,asked⟩,-⟩ := writes
    cases stopped.symm.trans asked
  case refine_3 =>
    obtain ⟨rfl,-⟩ := quiet
    obtain ⟨status,asked⟩ := @serviceStatus_known _ noFaults _ _ _ (fun _ => rfl) (fun _ _ => rfl) owned
    cases stopped.symm.trans asked
  refine .trying (fun state looked => ?_) fun message stopped => ⟨applyLeft_unchanged owned fun writes => ?_,fun quiet => ?_⟩
  case refine_2 =>
    obtain ⟨-,-,⟨state,looked⟩,-⟩ := writes
    cases stopped.symm.trans looked
  case refine_3 =>
    obtain ⟨rfl,-⟩ := quiet
    obtain ⟨state,looked,-⟩ := owned
    cases stopped.symm.trans looked
  have soft : state.isHardFailure = false := by
    obtain ⟨known,seen,soft⟩ := owned
    cases seen.symm.trans (classify_seen looked)
    exact soft
  refine .bind (.check fun _ _ hard => absurd soft hard) fun _ => .given fun _ => ?_
  have seen := serviceStatus_seen lawful owned asked
  refine .bind (installArtifact_leads lawful governs owned passed asked looked) fun _ => ?_
  refine .known fun prepared ⟨ready,same⟩ => ?_
  refine .bind (enabling_leads lawful ready same (by split at seen <;> simp_all) _) fun _ => ?_
  refine .known fun enabled ⟨ready,on⟩ => ?_
  refine .bind (starting_leads lawful ready on (by split at seen <;> simp_all) _) fun _ => .pure fun _ ends => ⟨ends.1,passed,ends.2⟩

end Applying

section Cleaning

/-- How a cleanup leaves the host wherever it stops. -/
def CleanupLeft (host after : ServiceHost) : Prop := Owned controller artifact after ∧
  (Lingers backend after ↔ CleanupLost controller faults backend artifact host)

variable {controller : ServiceController} {faults : ServiceFaults} {backend : Backend} {artifact : ServiceArtifact}
  {host start : ServiceHost}

/-- Before the file is removed nothing is lost. -/
theorem cleanupLeft_present (owned : Owned controller artifact start) (present : start.entry ≠ .absent)
    (still : start.entry = host.entry) (kept : ¬ Removes controller faults backend artifact host) :
    CleanupLeft controller faults backend artifact host start := by
  refine ⟨owned,fun lingers => absurd lingers.1 present,?_⟩
  rintro (⟨absent,-⟩ | ⟨-,-,-,removes,-⟩)
  · exact absurd (still.trans absent) present
  · exact absurd removes kept

theorem Owned.same (owned : Owned controller artifact host) (still : start.entry = host.entry) : Owned controller artifact start := by
  unfold Owned
  rw [still]
  exact owned

theorem owned_absent (absent : host.entry = .absent) : Owned controller artifact host := by
  refine ⟨.missing,?_,rfl⟩
  rw [absent]
  rfl

theorem removeArtifact_leads (lawful : controller.tools.Lawful backend) (owned : Owned controller artifact host)
    (present : host.entry ≠ .absent) (still : start.entry = host.entry) (disabled : start.enabled = false) (stopped : start.active = false)
    (held : start.loaded = (disabledBy backend controller.tools (stoppedBy backend controller.tools host)).loaded)
    (removes : (∃ state, classify controller.digest (faults.look 3) artifact host.entry = .ok state) → faults.remove = none →
      Removes controller faults backend artifact host) :
    Leads (· = start) (removeArtifact controller faults backend artifact)
      (fun _ after => CleanupLeft controller faults backend artifact host after ∧ Removed backend after)
      (fun after => CleanupLeft controller faults backend artifact host after ∧ faults ≠ noFaults) := by
  have here := owned.same still
  have there : start.entry ≠ .absent := by rwa [still]
  unfold removeArtifact
  refine .trying (fun state looked => ?_) fun message failed => ⟨cleanupLeft_present here there still fun done => ?_,?_⟩
  case refine_2 =>
    obtain ⟨-,-,-,-,-,⟨state,looked⟩,-⟩ := done
    rw [still,looked] at failed
    cases failed
  case refine_3 =>
    rintro rfl
    obtain ⟨state,seen,-⟩ := here
    cases failed.symm.trans seen
  have seen := classify_seen looked
  rw [if_neg fun missing => there (classify_missing_iff.mp (missing ▸ seen))]
  rw [if_neg (by
    obtain ⟨known,found,soft⟩ := here
    cases found.symm.trans seen
    simp [soft])]
  rw [still] at looked
  refine .bind (Q := fun _ after => after = { start with entry := .absent } ∧ faults.remove = none) (.step ?_) fun _ =>
    .given fun unfailing => ?_
  · rintro _ rfl
    cases failing : faults.remove with
    | none => exact ⟨rfl,rfl⟩
    | some error =>
      refine ⟨cleanupLeft_present here there still fun done => ?_,?_⟩
      · cases failing.symm.trans done.2.2.2.2.2.2
      · rintro rfl
        cases failing
  · have removed := removes ⟨_,looked⟩ unfailing
    refine .bind ((reloadManagerDefinition_leads lawful _).mono (fun _ => id) (fun _ _ => id) ?_) fun _ => .pure ?_
    · rintro _ ⟨rfl,systemd,failing⟩
      refine ⟨⟨owned_absent rfl,fun lingers => .inr ⟨systemd,present,fun dropped => ?_,removed,failing⟩,?_⟩,?_⟩
      · exact lingers.2 ⟨rfl,disabled,stopped,fun _ => held.trans dropped⟩
      · rintro (⟨absent,-⟩ | ⟨-,-,holds,-⟩)
        · exact absurd absent present
        · exact ⟨rfl,fun removed => holds (held.symm.trans (removed.loaded systemd))⟩
      · rintro rfl
        exact failing rfl
    · rintro _ ⟨rfl,told⟩
      have gone : Removed backend (ServiceHost.rescanned { start with entry := .absent } backend) := by
        obtain ⟨entry,enabled,active⟩ := rescanned_same { start with entry := .absent } backend
        refine ⟨entry,enabled.trans disabled,active.trans stopped,?_⟩
        rintro rfl
        unfold ServiceHost.active at stopped
        cases loaded : start.loaded with
        | running definition =>
          rw [loaded] at stopped
          cases stopped
        | nothing => simp [ServiceHost.rescanned,Loaded.refreshed]
        | idle definition => simp [ServiceHost.rescanned,Loaded.refreshed]
      refine ⟨⟨owned_absent gone.file,fun lingers => absurd gone lingers.2,?_⟩,gone⟩
      rintro (⟨absent,-⟩ | ⟨systemd,-,-,-,failing⟩)
      · exact absurd absent present
      · exact absurd (told systemd) failing

theorem stoppedBy_spec (lawful : controller.tools.Lawful backend) (owned : Owned controller artifact host)
    (present : host.entry ≠ .absent) : (stoppedBy backend controller.tools host).entry = host.entry ∧
      (stoppedBy backend controller.tools host).enabled = host.enabled ∧
      (stoppedBy backend controller.tools host).active = false := by
  obtain absent | ⟨content,mode,entry,-⟩ := owned.cases
  · exact absurd absent present
  · obtain ⟨-,loaded,stops,inactive⟩ := lawful.stops host content mode entry
    unfold stoppedBy
    split
    · rw [stops]
      exact ⟨rfl,rfl,inactive⟩
    · exact ⟨rfl,rfl,by simp_all⟩

theorem disabledBy_spec (lawful : controller.tools.Lawful backend) (owned : Owned controller artifact host)
    (present : host.entry ≠ .absent) : (disabledBy backend controller.tools host).entry = host.entry ∧
      (disabledBy backend controller.tools host).enabled = false ∧
      (disabledBy backend controller.tools host).active = host.active := by
  obtain absent | ⟨content,mode,entry,-⟩ := owned.cases
  · exact absurd absent present
  · obtain ⟨-,loaded,disables,same⟩ := lawful.disables host content mode entry
    unfold disabledBy
    split
    · rw [disables]
      exact ⟨rfl,rfl,same⟩
    · exact ⟨rfl,by simp_all,rfl⟩

theorem cleanupLeft_absent (absent : host.entry = .absent) : CleanupLeft controller faults backend artifact host host := by
  refine ⟨owned_absent absent,.inl,?_⟩
  rintro (lingers | ⟨-,present,-⟩)
  · exact lingers
  · exact absurd absent present

theorem managerStatus_noFaults {round : Nat} {message : String} (owned : Owned controller artifact host)
    (failed : managerStatus controller faults backend artifact round host = .error message) : faults ≠ noFaults := by
  rintro rfl
  obtain ⟨status,known⟩ := @managerStatus_known _ noFaults _ _ _ (fun _ => rfl) (fun _ _ => rfl) owned round
  cases failed.symm.trans known

theorem removeArtifact_absent (absent : host.entry = .absent) : Leads (· = host) (removeArtifact controller faults backend artifact)
    (fun _ after => after = host) (fun after => after = host ∧ faults ≠ noFaults) := by
  unfold removeArtifact
  refine .trying (fun state looked => ?_) fun message failed => ⟨rfl,?_⟩
  · have seen := classify_seen looked
    rw [absent] at seen
    cases seen
    exact .pure fun _ => id
  · rintro rfl
    rw [absent] at failed
    cases failed

theorem stopping_leads (lawful : controller.tools.Lawful backend) (owned : Owned controller artifact host)
    (present : host.entry ≠ .absent) (done : String) :
    Leads (· = host) (unlessAlready controller faults (!host.active) backend artifact .stop done)
      (fun _ after => after = stoppedBy backend controller.tools host ∧ ((!host.active) = false → faults.change .stop = none))
      (fun after => after = host ∧ (!host.active) = false ∧ faults.change .stop ≠ none) := by
  refine unlessAlready_leads (fun inactive => ?_) (fun active => ?_) done
  · exact (if_neg (by simpa using inactive)).symm
  · obtain absent | ⟨content,mode,entry,-⟩ := owned.cases
    · exact absurd absent present
    · exact ⟨(lawful.stops host content mode entry).1,(if_pos (by simpa using active)).symm⟩

theorem disabling_leads (lawful : controller.tools.Lawful backend) (owned : Owned controller artifact host)
    (present : host.entry ≠ .absent) (done : String) :
    Leads (· = host) (unlessAlready controller faults (!host.enabled) backend artifact .disable done)
      (fun _ after => after = disabledBy backend controller.tools host ∧ ((!host.enabled) = false → faults.change .disable = none))
      (fun after => after = host ∧ (!host.enabled) = false ∧ faults.change .disable ≠ none) := by
  refine unlessAlready_leads (fun disabled => ?_) (fun enabled => ?_) done
  · exact (if_neg (by simpa using disabled)).symm
  · obtain absent | ⟨content,mode,entry,-⟩ := owned.cases
    · exact absurd absent present
    · exact ⟨(lawful.disables host content mode entry).1,(if_pos (by simpa using enabled)).symm⟩

theorem serviceCleanup_leads (lawful : controller.tools.Lawful backend) (governs : Governs controller backend artifact)
    (owned : Owned controller artifact host) : Leads (· = host) (serviceCleanup controller faults)
      (fun _ after => CleanupLeft controller faults backend artifact host after ∧ (Removed backend after ↔ ¬ Lingers backend host))
      (fun after => CleanupLeft controller faults backend artifact host after ∧ faults ≠ noFaults) := by
  unfold serviceCleanup
  refine .trying (fun given resolved => ?_) fun message failed => ?_
  case refine_2 => cases governs.resolved.symm.trans failed
  cases governs.resolved.symm.trans resolved
  refine .trying (fun made given => ?_) fun message failed => ?_
  case refine_2 => cases governs.given.symm.trans failed
  cases governs.given.symm.trans given
  have unchanged (kept : ¬ Removes controller faults backend artifact host) : CleanupLeft controller faults backend artifact host host := by
    by_cases absent : host.entry = .absent
    · exact cleanupLeft_absent absent
    · exact cleanupLeft_present owned absent rfl kept
  refine .trying (fun state looked => ?_) fun message failed => ⟨unchanged fun removes => ?_,?_⟩
  case refine_2 =>
    obtain ⟨⟨state,looked⟩,-⟩ := removes
    cases failed.symm.trans looked
  case refine_3 =>
    rintro rfl
    obtain ⟨state,looked,-⟩ := owned
    cases failed.symm.trans looked
  have soft : state.isHardFailure = false := by
    obtain ⟨known,seen,soft⟩ := owned
    cases seen.symm.trans (classify_seen looked)
    exact soft
  refine .bind (.check fun _ _ hard => absurd soft hard) fun _ => .given fun _ => ?_
  refine .trying (fun ⟨_,active,pid⟩ asked => ?_) fun message failed =>
    ⟨unchanged fun removes => ?_,managerStatus_noFaults owned failed⟩
  case refine_2 =>
    obtain ⟨-,⟨status,asked⟩,-⟩ := removes
    cases failed.symm.trans asked
  have shown := managerStatus_seen lawful owned asked
  by_cases absent : host.entry = .absent
  · -- nothing is asked of the manager without the file
    rw [if_pos absent] at shown
    obtain ⟨-,rfl⟩ := shown
    have nothing (change : ServiceChange) (done : String) :
        Leads (· = host) (unlessAlready controller faults true backend artifact change done) (fun _ => (· = host))
          (fun after => CleanupLeft controller faults backend artifact host after ∧ faults ≠ noFaults) :=
      .pure fun _ => id
    refine .bind (nothing .stop _) fun _ => ?_
    refine .trying (fun ⟨enabled,_,_⟩ asked => ?_) fun message failed => ⟨cleanupLeft_absent absent,managerStatus_noFaults owned failed⟩
    have shown := managerStatus_seen lawful owned asked
    rw [if_pos absent] at shown
    obtain ⟨rfl,-⟩ := shown
    refine .bind (nothing .disable _) fun _ => ?_
    refine .bind ((removeArtifact_absent absent).mono (fun _ => id) (fun _ _ => id) ?_) fun _ => .pure ?_
    · rintro _ ⟨rfl,failing⟩
      exact ⟨cleanupLeft_absent absent,failing⟩
    · rintro _ rfl
      refine ⟨cleanupLeft_absent absent,fun removed lingers => lingers.2 removed,fun gone => ?_⟩
      by_contra other
      exact gone ⟨absent,other⟩
  · rw [if_neg absent] at shown
    obtain ⟨-,rfl⟩ := shown
    have kept {start : ServiceHost} {change : ServiceChange} {already : Bool} (still : start.entry = host.entry)
        (needed : already = false → Removes controller faults backend artifact host → faults.change change = none) :
        ∀ after, after = start ∧ already = false ∧ faults.change change ≠ none →
          CleanupLeft controller faults backend artifact host after ∧ faults ≠ noFaults := by
      rintro _ ⟨rfl,due,failing⟩
      refine ⟨cleanupLeft_present (owned.same still) (by rwa [still]) still fun removes => failing (needed due removes),?_⟩
      rintro rfl
      exact failing rfl
    let stopped := stoppedBy backend controller.tools host
    obtain ⟨still,same,inactive⟩ : stopped.entry = host.entry ∧ stopped.enabled = host.enabled ∧ stopped.active = false :=
      stoppedBy_spec lawful owned absent
    have here : Owned controller artifact stopped := owned.same still
    have there : stopped.entry ≠ .absent := by rwa [still]
    refine .bind ((stopping_leads lawful owned absent _).mono (fun _ => id) (fun _ _ => id) (kept rfl ?_)) fun _ =>
      .given fun stoppable => ?_
    · exact fun due removes => removes.2.2.1 (by simpa using due)
    refine .trying (fun ⟨enabled,_,_⟩ askedAgain => ?_) fun message failed =>
      ⟨cleanupLeft_present here there still fun removes => ?_,managerStatus_noFaults here failed⟩
    case refine_2 =>
      obtain ⟨-,-,-,⟨status,known⟩,-⟩ := removes
      cases failed.symm.trans known
    have shown := managerStatus_seen lawful here askedAgain
    rw [if_neg there] at shown
    obtain ⟨rfl,-⟩ := shown
    obtain ⟨stillThere,disabled,quiet⟩ := disabledBy_spec lawful here there
    refine .bind ((disabling_leads lawful here there _).mono (fun _ => id) (fun _ _ => id) (kept still ?_)) fun _ =>
      .given fun disablable => ?_
    · exact fun due removes => removes.2.2.2.2.1 (by rw [← same]; simpa using due)
    refine .bind (removeArtifact_leads lawful owned absent (stillThere.trans still) disabled (quiet.trans inactive) rfl ?_) fun _ => .pure ?_
    · intro seen removable
      refine ⟨⟨_,looked⟩,⟨_,asked⟩,fun active => stoppable (by simpa using active),⟨_,askedAgain⟩,fun enabled => ?_,seen,removable⟩
      exact disablable (by rw [← same] at enabled; simpa using enabled)
    · rintro after ⟨left,removed⟩
      exact ⟨left,fun _ lingers => absent lingers.1,fun _ => removed⟩

end Cleaning

section Converging
variable {controller : ServiceController} {faults : ServiceFaults} {backend : Backend} {artifact : ServiceArtifact}
  {host : ServiceHost}

theorem serviceApply_refuses (governs : Governs controller backend artifact) (other : ¬ Owned controller artifact host) :
    Leads (· = host) (serviceApply controller faults) (fun _ _ => False) (· = host) := by
  unfold serviceApply
  refine .trying (fun given resolved => ?_) fun _ _ => rfl
  cases governs.resolved.symm.trans resolved
  refine .trying (fun _ _ => ?_) fun _ _ => rfl
  refine .trying (fun made given => ?_) fun _ _ => rfl
  cases governs.given.symm.trans given
  refine .trying (fun _ _ => ?_) fun _ _ => rfl
  refine .trying (fun state looked => ?_) fun _ _ => rfl
  refine .bind (.check fun _ same _ => same) fun _ => .given fun soft => ?_
  exact absurd ⟨state,classify_seen looked,soft⟩ other

theorem serviceCleanup_refuses (governs : Governs controller backend artifact) (other : ¬ Owned controller artifact host) :
    Leads (· = host) (serviceCleanup controller faults) (fun _ _ => False) (· = host) := by
  unfold serviceCleanup
  refine .trying (fun given resolved => ?_) fun _ _ => rfl
  cases governs.resolved.symm.trans resolved
  refine .trying (fun made given => ?_) fun _ _ => rfl
  cases governs.given.symm.trans given
  refine .trying (fun state looked => ?_) fun _ _ => rfl
  refine .bind (.check fun _ same _ => same) fun _ => .given fun soft => ?_
  exact absurd ⟨state,classify_seen looked,soft⟩ other

theorem apply_converges_iff (lawful : controller.tools.Lawful backend) (governs : Governs controller backend artifact)
    (faults : ServiceFaults) (host : ServiceHost) : ApplyConverges controller faults backend artifact host ↔
      requireDoctorReady controller noFaults backend = .ok () ∧ Owned controller artifact host ∧
        ¬ ApplyLost controller faults backend artifact host := by
  unfold ApplyConverges
  refine Leads.settles ?_
  by_cases owned : Owned controller artifact host
  · obtain ⟨still,lost⟩ : ApplyLeft controller faults backend artifact host ((serviceApply controller faults).exec host).2 :=
      ((serviceApply_leads lawful governs owned).mono (fun _ => id) (fun _ _ => And.left) fun _ => And.left).left rfl
    refine (serviceApply_leads lawful governs still).mono (fun _ => id) ?_ ?_
    · rintro _ after ⟨-,ready,installed⟩
      rw [installed,lost]
      exact ⟨fun kept => ⟨ready,owned,kept⟩,fun holds => holds.2.2⟩
    · rintro after ⟨-,stopped⟩ ⟨ready,-⟩
      exact stopped ⟨rfl,ready⟩
  · have same : ((serviceApply controller faults).exec host).2 = host :=
      ((serviceApply_refuses governs owned).mono (fun _ => id) (fun _ _ => False.elim) fun _ => id).left rfl
    rw [same]
    exact (serviceApply_refuses governs owned).mono (fun _ => id) (fun _ _ => False.elim) fun _ _ holds => owned holds.2.1

theorem cleanup_converges_iff (lawful : controller.tools.Lawful backend) (governs : Governs controller backend artifact)
    (faults : ServiceFaults) (host : ServiceHost) : CleanupConverges controller faults backend host ↔
      Owned controller artifact host ∧ ¬ CleanupLost controller faults backend artifact host := by
  unfold CleanupConverges
  refine Leads.settles ?_
  by_cases owned : Owned controller artifact host
  · obtain ⟨still,lost⟩ : CleanupLeft controller faults backend artifact host ((serviceCleanup controller faults).exec host).2 :=
      ((serviceCleanup_leads lawful governs owned).mono (fun _ => id) (fun _ _ => And.left) fun _ => And.left).left rfl
    refine (serviceCleanup_leads lawful governs still).mono (fun _ => id) ?_ ?_
    · rintro _ after ⟨-,removed⟩
      rw [removed,lost]
      exact ⟨fun kept => ⟨owned,kept⟩,And.right⟩
    · rintro after ⟨-,stopped⟩
      exact absurd rfl stopped
  · have same : ((serviceCleanup controller faults).exec host).2 = host :=
      ((serviceCleanup_refuses governs owned).mono (fun _ => id) (fun _ _ => False.elim) fun _ => id).left rfl
    rw [same]
    exact (serviceCleanup_refuses governs owned).mono (fun _ => id) (fun _ _ => False.elim) fun _ _ holds => owned holds.1

/-- A retry makes good what a failed apply or cleanup has left, if what is at the artifact's
path is dynet's and the word of a changed file has not been kept from systemd. -/
theorem service_converges_iff (lawful : controller.tools.Lawful backend) (governs : Governs controller backend artifact)
    (faults : ServiceFaults) (host : ServiceHost) :
    (ApplyConverges controller faults backend artifact host ↔
      requireDoctorReady controller noFaults backend = .ok () ∧ Owned controller artifact host ∧
        ¬ ApplyLost controller faults backend artifact host) ∧
    (CleanupConverges controller faults backend host ↔
      Owned controller artifact host ∧ ¬ CleanupLost controller faults backend artifact host) :=
  ⟨apply_converges_iff lawful governs faults host,cleanup_converges_iff lawful governs faults host⟩

end Converging

section Sample

def sampleTools : ServiceTools where
  identity flag _ := ⟨true,if flag = "-u" then "998" else "996",""⟩
  answer _ query host := match query with
    | .isEnabled => ⟨host.enabled,if host.enabled then "enabled" else "disabled",""⟩
    | .isActive => ⟨host.active,if host.active then "active" else "inactive",""⟩
    | .mainPid => ⟨true,if host.active then "4242" else "0",""⟩
  perform backend change host := (⟨true,"",""⟩,match change with
    | .daemonReload => host.rescanned backend
    | .enable => { host.rescanned backend with enabled := true }
    | .start => { host with loaded := .running (host.loaded.definition.getD (match host.entry with
        | .file content _ => content
        | _ => "")) }
    | .stop => { host with loaded := host.loaded.stopped }
    | .disable => { host.rescanned backend with enabled := false })
  procdPid _ := none

theorem sampleTools_lawful (backend : Backend) : sampleTools.Lawful backend where
  enabledShown _ _ _ _ := rfl
  activeShown _ _ _ _ := rfl
  reloads _ _ := ⟨rfl,rfl⟩
  enables _ _ _ _ := ⟨rfl,rfl⟩
  starts host content mode entry := by
    refine ⟨rfl,_,rfl,fun _ => ?_⟩
    rw [entry]
  stops host _ _ _ := by
    refine ⟨rfl,_,rfl,?_⟩
    cases host.loaded with
    | nothing => rfl
    | idle definition => rfl
    | running definition => rfl
  disables host _ _ _ := by
    have same := rescanned_same host backend
    refine ⟨rfl,_,?_,same.2.2⟩
    rw [← same.1]
    rfl

def sampleController : ServiceController where
  spec := ⟨some .systemd,"dynet","/usr/bin/dynet","/etc/dynet/dynet.toml","/var/lib/dynet/runtime.db",none⟩
  paths := ⟨"/etc/systemd/system","/run/systemd/system","/etc/init.d","/sbin/procd"⟩
  surroundings := ⟨fun _ => true,fun _ => true⟩
  tools := sampleTools
  digest payload := if startsWith payload "[Unit]" then "5feceb66" else "6b86b273"
  pid := 7

def sampleUnit : ServiceArtifact where
  id := "service.systemd.unit"
  carrier := "/etc/systemd/system"
  fileName := "dynet.service"
  content := ((unitContent sampleController.digest sampleController.spec).toOption).getD ""
  mode := 0x1a4

theorem sampleUnit_governs : Governs sampleController .systemd sampleUnit := by
  refine ⟨rfl,?_⟩
  have made : (unitContent sampleController.digest sampleController.spec).isOk = true := by decide +kernel
  unfold artifactOf artifactFor sampleUnit
  cases given : unitContent sampleController.digest sampleController.spec with
  | ok content => rfl
  | error message =>
    rw [given] at made
    cases made

/-- Nothing is there, and the new unit cannot be renamed into place. -/
theorem emptyHost_converges : ApplyConverges sampleController { noFaults with write := some (.rename,"read-only file system") } .systemd
    sampleUnit ⟨.absent,false,.nothing⟩ := by
  refine (service_converges_iff (sampleTools_lawful .systemd) sampleUnit_governs _ _).1.mpr ⟨by decide +kernel,?_,?_⟩
  · exact owned_absent rfl
  · rintro ⟨⟨-,on,-⟩,-⟩
    cases on

def olderUnit : String := managedContent sampleController.digest "[Service]\nExecStart=/usr/bin/dynet\n"

theorem olderUnit_other : olderUnit ≠ sampleUnit.content := by
  obtain ⟨content,given,made⟩ := (map_ok_iff _ _ _).mp sampleUnit_governs.given
  obtain ⟨rest,shape⟩ := unitContent_shape _ given
  rw [← made,shape,olderUnit,managedContent_unmarked _ (by decide +kernel)]
  have front : "[Unit]".toList <+: (join '\n' ("[Unit]"::rest)).toList := prefix_join '\n' "[Unit]" rest
  have plain : startsWith (join '\n' ("[Unit]"::rest)) "#!" = false := by
    rw [startsWith,decide_eq_false_iff_not]
    intro marked
    exact absurd (List.prefix_of_prefix_length_le marked front (by decide)) (by decide)
  rw [managedContent_unmarked _ plain]
  intro same
  have lists := congrArg String.toList same
  simp only [String.toList_append,List.append_assoc,List.append_cancel_left_eq] at lists
  have digests : sampleController.digest (join '\n' ("[Unit]"::rest)) = "5feceb66" := if_pos (by simpa [startsWith] using front)
  rw [digests,show sampleController.digest "[Service]\nExecStart=/usr/bin/dynet\n" = "6b86b273" by decide +kernel] at lists
  exact absurd (List.append_inj_left lists (by decide)) (by decide)

def updatedHost : ServiceHost := ⟨.file olderUnit 0x1a4,true,.running olderUnit⟩

def reloadFault : ServiceChange → Option Fault
  | .daemonReload => some (.failed "Failed to reload daemon: Connection timed out")
  | _ => none

def reloadFails : ServiceFaults := { noFaults with change := reloadFault }

theorem updatedHost_classified : classify sampleController.digest none sampleUnit updatedHost.entry = .ok .managedUpdate := by
  have older : ownership sampleController.digest olderUnit = .managedUpdate := by decide +kernel
  simp [classify,updatedHost,olderUnit_other,older]

/-- The retry finds the new unit in place and systemd keeps the old one. -/
theorem updatedHost_outdated : sampleTools.Lawful .systemd ∧ Governs sampleController .systemd sampleUnit ∧
    ¬ ApplyConverges sampleController reloadFails .systemd sampleUnit updatedHost := by
  refine ⟨sampleTools_lawful .systemd,sampleUnit_governs,fun converges => ?_⟩
  have kept := ((apply_converges_iff (sampleTools_lawful .systemd) sampleUnit_governs _ _).mp converges).2.2
  refine kept ⟨⟨rfl,rfl,olderUnit,rfl,olderUnit_other⟩,.inr ⟨⟨by decide +kernel,?_,?_,rfl⟩,by simp [reloadFails,reloadFault]⟩⟩
  · exact serviceStatus_known (fun _ => rfl) (fun _ _ => rfl) ⟨_,updatedHost_classified,rfl⟩
  · exact ⟨_,updatedHost_classified⟩

end Sample

end Dynet.Service
