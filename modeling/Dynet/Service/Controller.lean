import Dynet.Lib.Script
import Dynet.Service.Artifact

/-! The service controller: its checks, what it asks of systemd or procd, and the apply and
the cleanup of its artifact. -/
namespace Dynet.Service
open Dynet.Lib Dynet.Lib.Text Dynet.Lib.Words Dynet.Lib.Checks

structure CommandOutput where
  success : Bool
  stdout : String
  stderr : String
  deriving DecidableEq, Repr

/-- How a command can fail on its own account. -/
inductive Fault where
  | notStarted (error : String)
  | failed (stderr : String)
  deriving DecidableEq, Repr

def Fault.output : Fault → Except String CommandOutput
  | .notStarted error => .error error
  | .failed stderr => .ok ⟨false,"",stderr⟩

def systemdUnit : String := "dynet.service"

/-- What the manager holds for the service in memory. -/
inductive Loaded where
  | nothing
  | idle (definition : String)
  | running (definition : String)
  deriving DecidableEq, Repr

namespace Loaded

def active : Loaded → Bool
  | running _ => true
  | _ => false

def definition : Loaded → Option String
  | nothing => none
  | idle definition | running definition => some definition

/-- Definitions are read anew from the file; one without a file is dropped unless it runs. -/
def refreshed (entry : Entry) : Loaded → Loaded
  | nothing => nothing
  | idle definition => match entry with
    | .file content _ => idle content
    | .absent => nothing
    | _ => idle definition
  | running definition => match entry with
    | .file content _ => running content
    | _ => running definition

def stopped : Loaded → Loaded
  | running definition => idle definition
  | other => other

end Loaded

structure ServiceHost where
  entry : Entry
  enabled : Bool
  loaded : Loaded
  deriving DecidableEq, Repr

namespace ServiceHost

def active (host : ServiceHost) : Bool := host.loaded.active

/-- The manager reads its definitions anew; procd keeps none but the script itself. -/
def rescanned (host : ServiceHost) : Backend → ServiceHost
  | .systemd => { host with loaded := host.loaded.refreshed host.entry }
  | .procd => host

end ServiceHost

inductive ServiceQuery where
  | isEnabled | isActive | mainPid
  deriving DecidableEq, Repr

inductive ServiceChange where
  | daemonReload | enable | start | stop | disable
  deriving DecidableEq, Repr

def ServiceQuery.command (backend : Backend) (artifact : ServiceArtifact) (query : ServiceQuery) : String × List String :=
  match backend,query with
  | .systemd,.isEnabled => ("systemctl",["is-enabled",systemdUnit])
  | .systemd,.isActive => ("systemctl",["is-active",systemdUnit])
  | .systemd,.mainPid => ("systemctl",["show","--property","MainPID","--value",systemdUnit])
  | .procd,.isEnabled => (artifact.path,["enabled"])
  | .procd,.isActive => (artifact.path,["running"])
  | .procd,.mainPid => ("ubus",["call","service","list","\x7b\"name\":\"dynet\"\x7d"])

def ServiceChange.action : ServiceChange → String
  | .daemonReload => "daemon-reload"
  | .enable => "enable"
  | .start => "start"
  | .stop => "stop"
  | .disable => "disable"

def ServiceChange.command (backend : Backend) (artifact : ServiceArtifact) (change : ServiceChange) : String × List String :=
  match backend,change with
  | .systemd,.daemonReload => ("systemctl",["daemon-reload"])
  | .systemd,change => ("systemctl",[change.action,systemdUnit])
  | .procd,change => (artifact.path,[change.action])

structure ServiceTools where
  identity : String → String → CommandOutput
  answer : Backend → ServiceQuery → ServiceHost → CommandOutput
  perform : Backend → ServiceChange → ServiceHost → CommandOutput × ServiceHost
  procdPid : CommandOutput → Option Nat

/-- What is documented of the manager while the file is there. systemd reads its
definitions anew on `daemon-reload` and `enable`, starts what it holds, and reads the file
for a service that it holds nothing for. It may unload a service that is stopped or
disabled. -/
structure ServiceTools.Lawful (tools : ServiceTools) (backend : Backend) : Prop where
  enabledShown : ∀ (host : ServiceHost) content mode, host.entry = .file content mode →
    (tools.answer backend .isEnabled host).success = host.enabled
  activeShown : ∀ (host : ServiceHost) content mode, host.entry = .file content mode →
    (tools.answer backend .isActive host).success = host.active
  reloads : backend = .systemd → ∀ host : ServiceHost, (tools.perform backend .daemonReload host).1.success = true ∧
    (tools.perform backend .daemonReload host).2 = host.rescanned backend
  enables : ∀ (host : ServiceHost) content mode, host.entry = .file content mode →
    (tools.perform backend .enable host).1.success = true ∧
      (tools.perform backend .enable host).2 = { host.rescanned backend with enabled := true }
  starts : ∀ (host : ServiceHost) content mode, host.entry = .file content mode →
    (tools.perform backend .start host).1.success = true ∧ ∃ definition,
      (tools.perform backend .start host).2 = { host with loaded := .running definition } ∧
        (backend = .systemd → definition = host.loaded.definition.getD content)
  stops : ∀ (host : ServiceHost) content mode, host.entry = .file content mode →
    (tools.perform backend .stop host).1.success = true ∧ ∃ loaded,
      (tools.perform backend .stop host).2 = { host with loaded := loaded } ∧ loaded.active = false
  disables : ∀ (host : ServiceHost) content mode, host.entry = .file content mode →
    (tools.perform backend .disable host).1.success = true ∧ ∃ loaded,
      (tools.perform backend .disable host).2 = { host with enabled := false, loaded := loaded } ∧
        loaded.active = host.active

/-- The step at which the atomic write of the artifact can fail. -/
inductive WriteStage where
  | create | fill | sync | setMode | rename
  deriving DecidableEq, Repr

/-- Which steps fail: the commands of `id`, by the time they are asked; the queries of the
manager, which answer by how they exit and fail only by not running; looking at the
artifact; its write and its removal; and the changes. -/
structure ServiceFaults where
  identity : Nat → String → Option Fault
  query : Nat → ServiceQuery → Option String
  look : Nat → Option LookFault
  change : ServiceChange → Option Fault
  write : Option (WriteStage × String)
  remove : Option String

def noFaults : ServiceFaults :=
  ⟨fun _ _ => none,fun _ _ => none,fun _ => none,fun _ => none,none,none⟩

structure Surroundings where
  isFile : String → Bool
  isDir : String → Bool

/-- `Path::parent`, of a path without `.` in it. -/
def parentOf (path : String) : Option String :=
  let body := path.toList.rdropWhile (· = '/')
  let front := body.rdropWhile (· ≠ '/')
  let trimmed := front.rdropWhile (· = '/')
  if body = [] then none else some (if trimmed = [] ∧ front ≠ [] then "/" else String.ofList trimmed)

structure ServiceController where
  spec : ServiceSpec
  paths : ServicePaths
  surroundings : Surroundings
  tools : ServiceTools
  digest : String → String
  pid : Nat

structure ServiceCheck where
  id : String
  state : ResourceState
  detail : String
  deriving DecidableEq, Repr

section Checks

def pathCheck (surroundings : Surroundings) (id path : String) : ServiceCheck :=
  ⟨id,if isAbsolute path && surroundings.isFile path then .ready else .invalid,path⟩

def parentCheck (surroundings : Surroundings) (id path : String) : ServiceCheck :=
  let parent := parentOf path
  ⟨id,if isAbsolute path && parent.any surroundings.isDir then .ready else .invalid,parent.getD path⟩

def directoryCheck (surroundings : Surroundings) (id path : String) : ServiceCheck :=
  ⟨id,if surroundings.isDir path then .ready else .invalid,path⟩

def validUserName (user : String) : Bool :=
  user != "" && !startsWith user "-" &&
    user.toList.all fun c => c.isAlphanum || c == '_' || c == '-' || c == '.'

/-- What `u32::from_str` says of a text that is no such number. -/
def parseError (text : String) : String :=
  let digits := match text.toList with
    | '+'::rest => rest
    | rest => rest
  if text = "" then "cannot parse integer from empty string"
  else if digits ≠ [] ∧ digits.all (·.isDigit) then "number too large to fit in target type"
  else "invalid digit found in string"

/-- `run_required`, of what a command has put out. -/
def requireOutput (command : String × List String) (output : Except String CommandOutput) : Except String CommandOutput := do
  let output ← output
  let (program,args) := command
  let joined := join ' ' args
  let detail := if output.stderr = "" then output.stdout else output.stderr
  ensure (output.success = true) s!"{program} {joined} failed: {detail}"
  pure output

def runIdentity (controller : ServiceController) (faults : ServiceFaults) (round : Nat) (flag : String) :
    Except String CommandOutput :=
  let user := controller.spec.user
  requireOutput ("id",[flag,user]) (match faults.identity round flag with
    | some fault => fault.output
    | none => .ok (controller.tools.identity flag user))

def resolveIdentity (controller : ServiceController) (faults : ServiceFaults) (round : Nat) : Except String (Nat × Nat) := do
  let user := controller.spec.user
  ensure (validUserName user = true) ("service user must contain only ASCII letters, digits, underscore, hyphen, or dot and " ++
    "must not start with a hyphen")
  let shown ← runIdentity controller faults round "-u"
  let wrong := parseError shown.stdout
  let uid ← need (parseUnsigned (2 ^ 32) shown.stdout) s!"invalid uid for service user {user}: {wrong}"
  ensure (uid ≠ 0) "service user must not resolve to uid 0"
  let shown ← runIdentity controller faults round "-g"
  let wrong := parseError shown.stdout
  let gid ← need (parseUnsigned (2 ^ 32) shown.stdout) s!"invalid gid for service user {user}: {wrong}"
  pure (uid,gid)

def identityCheck (controller : ServiceController) (faults : ServiceFaults) (round : Nat) : ServiceCheck :=
  match resolveIdentity controller faults round with
  | .ok (uid,gid) =>
    let user := controller.spec.user
    if uid ≠ 0 then ⟨"service.identity",.ready,s!"{user} uid={uid} gid={gid}"⟩
    else ⟨"service.identity",.invalid,"service user must not resolve to uid 0"⟩
  | .error error => ⟨"service.identity",.invalid,error⟩

def carrierCheck (controller : ServiceController) : Backend → ServiceCheck
  | .systemd => directoryCheck controller.surroundings "service.systemd.carrier" controller.paths.systemdSystemDir
  | .procd =>
    let check := directoryCheck controller.surroundings "service.procd.carrier" controller.paths.procdInitDir
    let binary := controller.paths.procdBinary
    if controller.surroundings.isFile binary then check else { check with state := .invalid, detail := s!"{binary} is missing" }

/-- The checks of `doctor`, once the manager is known. -/
def doctor (controller : ServiceController) (faults : ServiceFaults) (round : Nat) (backend : Backend) : List ServiceCheck :=
  let spec := controller.spec
  [pathCheck controller.surroundings "service.executable" spec.executable,
    pathCheck controller.surroundings "service.config" spec.config,
    parentCheck controller.surroundings "service.runtime-database.parent" spec.runtimeDatabase,
    identityCheck controller faults round] ++
  (spec.environmentFile.map (pathCheck controller.surroundings "service.environment-file")).toList ++
  [carrierCheck controller backend]

def requireDoctorReady (controller : ServiceController) (faults : ServiceFaults) (backend : Backend) : Except String Unit :=
  let failures := (doctor controller faults 0 backend).filter (·.state ≠ .ready)
  ensure (failures = []) ("dynet service doctor failed: " ++ String.intercalate "; " (failures.map fun check =>
    check.id ++ "=" ++ check.state.label ++ " (" ++ check.detail ++ ")"))

end Checks

section Manager
variable (controller : ServiceController) (faults : ServiceFaults)

/-- `ServiceController::manager`. -/
def resolveManager : Except String Backend :=
  match controller.spec.manager with
  | some backend => .ok backend
  | none =>
    if controller.surroundings.isDir controller.paths.systemdRuntimeDir then .ok .systemd
    else if controller.surroundings.isFile controller.paths.procdBinary then .ok .procd
    else .error "dynet service could not detect systemd or procd"

def artifactOf (backend : Backend) : Except String ServiceArtifact :=
  artifactFor controller.digest controller.spec controller.paths backend

variable (backend : Backend) (artifact : ServiceArtifact)

def queried (round : Nat) (query : ServiceQuery) (host : ServiceHost) : Except String CommandOutput :=
  match faults.query round query with
  | some error => .error error
  | none => .ok (controller.tools.answer backend query host)

def shownPid (round : Nat) (host : ServiceHost) : Except String (Option Nat) :=
  match backend with
  | .systemd => (queried controller faults backend round .mainPid host).map fun output =>
      (parseUnsigned (2 ^ 32) output.stdout).filter (· ≠ 0)
  | .procd => match queried controller faults backend round .mainPid host with
    | .ok output => .ok (if output.success then controller.tools.procdPid output else none)
    | .error _ => .ok none

/-- `manager_status`: whether the service is enabled and active, and its pid. -/
def managerStatus (round : Nat) (host : ServiceHost) : Except String (Bool × Bool × Option Nat) := do
  let state ← classify controller.digest (faults.look round) artifact host.entry
  if state = .missing ∨ state.isHardFailure then pure (false,false,none)
  else
    let enabled ← (queried controller faults backend round .isEnabled host).map CommandOutput.success
    let active ← (queried controller faults backend round .isActive host).map CommandOutput.success
    let pid ← (if active then shownPid controller faults backend round host else .ok none : Except String (Option Nat))
    pure (enabled,active,pid)

structure ServiceStatus where
  checks : List ServiceCheck
  enabled : Bool
  active : Bool
  mainPid : Option Nat
  deriving DecidableEq, Repr

/-- `ServiceController::status`. -/
def serviceStatus (host : ServiceHost) : Except String ServiceStatus := do
  let checks := doctor controller faults 1 backend
  let state ← classify controller.digest (faults.look 0) artifact host.entry
  let (enabled,active,mainPid) ← managerStatus controller faults backend artifact 1 host
  pure ⟨checks ++ [⟨artifact.id,state,artifact.path⟩],enabled,active,mainPid⟩

/-- `manager_command`, and the reload of systemd's definitions. -/
def managerCommand (change : ServiceChange) : Script ServiceHost Unit := .step fun host =>
  let (output,after) := match faults.change change with
    | some fault => (fault.output,host)
    | none => (.ok (controller.tools.perform backend change host).1,(controller.tools.perform backend change host).2)
  ((requireOutput (change.command backend artifact) output).map fun _ => (),after)

def reloadManagerDefinition : Script ServiceHost Unit :=
  match backend with
  | .systemd => managerCommand controller faults .systemd artifact .daemonReload
  | .procd => pure ()

def ServiceArtifact.temporary (artifact : ServiceArtifact) (pid : Nat) : String :=
  let carrier := artifact.carrier
  let fileName := artifact.fileName
  s!"{carrier}/.{fileName}.dynet-{pid}"

def WriteStage.message (stage : WriteStage) (temporary path error : String) : String :=
  match stage with
  | .create => s!"failed creating {temporary}: {error}"
  | .fill => s!"failed writing {temporary}: {error}"
  | .sync => s!"failed syncing {temporary}: {error}"
  | .setMode => s!"failed setting mode on {temporary}: {error}"
  | .rename => s!"failed replacing {path} with {temporary}: {error}"

/-- The file is written aside and renamed, so that a write that fails leaves the old one. -/
def atomicWrite : Script ServiceHost Unit := .step fun host =>
  let carrier := artifact.carrier
  if controller.surroundings.isDir carrier = false then (.error s!"service carrier {carrier} is missing",host)
  else
    match faults.write with
    | some (stage,error) => (.error (stage.message (artifact.temporary controller.pid) artifact.path error),host)
    | none => (.ok (),{ host with entry := .file artifact.content artifact.mode })

end Manager

section Apply
variable (controller : ServiceController) (faults : ServiceFaults)

structure ServiceApplyReport where
  backend : Backend
  changed : List String
  restartRequired : Bool
  started : Bool
  deriving DecidableEq, Repr

/-- The artifact is written and the manager told of it, if it is not there as desired. -/
def installArtifact (backend : Backend) (artifact : ServiceArtifact) (state : ResourceState) : Script ServiceHost (List String) :=
  if state = .missing ∨ state = .managedUpdate then do
    atomicWrite controller faults artifact
    reloadManagerDefinition controller faults backend artifact
    pure ["wrote " ++ artifact.path]
  else pure []

/-- A command for the manager, unless what it brings about is so already. -/
def unlessAlready (already : Bool) (backend : Backend) (artifact : ServiceArtifact) (change : ServiceChange) (done : String) :
    Script ServiceHost (List String) :=
  if already then pure []
  else do
    managerCommand controller faults backend artifact change
    pure [done]

/-- `ServiceController::apply`. -/
def serviceApply : Script ServiceHost ServiceApplyReport := do
  let backend ← .tries fun _ => resolveManager controller
  .tries fun _ => requireDoctorReady controller faults backend
  let artifact ← .tries fun _ => artifactOf controller backend
  let before ← .tries (serviceStatus controller faults backend artifact)
  let state ← .tries fun host => classify controller.digest (faults.look 2) artifact host.entry
  Script.check (state.isHardFailure = false) (artifact.path ++ " is " ++ state.label ++ "; refusing to overwrite")
  let wrote ← installArtifact controller faults backend artifact state
  let enabled ← unlessAlready controller faults before.enabled backend artifact .enable "enabled dynet"
  let started ← unlessAlready controller faults before.active backend artifact .start "started dynet"
  pure ⟨backend,wrote ++ enabled ++ started,decide (wrote ≠ []) && before.active,!before.active⟩

/-- `remove_owned`, and the manager told of it. -/
def removeArtifact (backend : Backend) (artifact : ServiceArtifact) : Script ServiceHost (List String) := do
  let path := artifact.path
  let state ← .tries fun host => classify controller.digest (faults.look 3) artifact host.entry
  if state = .missing then pure []
  else if state.isHardFailure then throw (path ++ " is " ++ state.label ++ "; refusing to remove")
  else
    .step fun host => match faults.remove with
      | some error => (.error s!"failed removing {path}: {error}",host)
      | none => (.ok (),{ host with entry := .absent })
    reloadManagerDefinition controller faults backend artifact
    pure ["removed " ++ path]

/-- `ServiceController::cleanup`: what has changed. -/
def serviceCleanup : Script ServiceHost (List String) := do
  let backend ← .tries fun _ => resolveManager controller
  let artifact ← .tries fun _ => artifactOf controller backend
  let state ← .tries fun host => classify controller.digest (faults.look 0) artifact host.entry
  Script.check (state.isHardFailure = false) (artifact.path ++ " is " ++ state.label ++ "; refusing cleanup")
  let (_,active,_) ← .tries (managerStatus controller faults backend artifact 1)
  let stopped ← unlessAlready controller faults (!active) backend artifact .stop "stopped dynet"
  let (enabled,_,_) ← .tries (managerStatus controller faults backend artifact 2)
  let disabled ← unlessAlready controller faults (!enabled) backend artifact .disable "disabled dynet"
  let removed ← removeArtifact controller faults backend artifact
  pure (stopped ++ disabled ++ removed)

end Apply

end Dynet.Service
