import Dynet.Lib.Checks
import Dynet.Lib.Words
import Dynet.Runtime.Model

/-! The one file that service control owns: what it holds for either manager, and how a file
found in its place is classified. -/
namespace Dynet.Service
open Dynet.Lib Dynet.Lib.Text Dynet.Lib.Words Dynet.Lib.Checks

inductive ResourceState where
  | ready | missing | managedUpdate | drifted | foreign | invalid
  deriving DecidableEq, Repr

namespace ResourceState

def label : ResourceState → String
  | .ready => "ready"
  | .missing => "missing"
  | .managedUpdate => "managed-update"
  | .drifted => "drifted"
  | .foreign => "foreign"
  | .invalid => "invalid"

def isHardFailure (state : ResourceState) : Bool := state == .drifted || state == .foreign || state == .invalid

end ResourceState

/-- The manager in use, once `auto` is resolved. -/
inductive Backend where
  | systemd | procd
  deriving DecidableEq, Repr

structure ServiceSpec where
  -- nothing stands for `auto`
  manager : Option Backend
  user : String
  executable : String
  config : String
  runtimeDatabase : String
  environmentFile : Option String
  deriving DecidableEq, Repr

structure ServicePaths where
  systemdSystemDir : String
  systemdRuntimeDir : String
  procdInitDir : String
  procdBinary : String
  deriving DecidableEq, Repr

/-- The file of a manager, and the directory that carries it. -/
structure ServiceArtifact where
  id : String
  carrier : String
  fileName : String
  content : String
  mode : Nat
  deriving DecidableEq, Repr

def ServiceArtifact.path (artifact : ServiceArtifact) : String := artifact.carrier ++ "/" ++ artifact.fileName

def ownerMarker : String := "# dynet-owned: service-control"
def hashPrefix : String := "# dynet-content-sha256:"

section Content

def isAbsolute (path : String) : Bool := startsWith path "/"

variable (digest : String → String)

/-- The payload with its owner and its digest, behind the shebang if it has one. -/
def managedContent (payload : String) : String :=
  let marks := ownerMarker ++ "\n" ++ hashPrefix ++ digest payload ++ "\n"
  match Dynet.Runtime.splitOnce '\n' payload.toList with
  | some (line,body) =>
    if startsWith (String.ofList line) "#!" then String.ofList line ++ "\n" ++ marks ++ String.ofList body else marks ++ payload
  | none => marks ++ payload

theorem managedContent_unmarked {payload : String} (plain : startsWith payload "#!" = false) :
    managedContent digest payload = ownerMarker ++ "\n" ++ hashPrefix ++ digest payload ++ "\n" ++ payload := by
  unfold managedContent
  split
  case h_2 => rfl
  case h_1 line body cut =>
    refine if_neg fun marked => ?_
    rw [startsWith,decide_eq_true_eq] at marked
    rw [startsWith,decide_eq_false_iff_not,Dynet.Runtime.splitOnce_shape cut] at plain
    rw [@String.toList_ofList line] at marked
    exact plain (marked.trans (List.prefix_append line _))

def pathArg (path : String) : Except String String := do
  ensure (isAbsolute path) s!"service path {path} must be absolute"
  ensure (path.toList.any Dynet.Runtime.isWhitespace = false) s!"service path {path} must not contain whitespace"
  pure path

/-- A quote in a shell word: it is closed, escaped and opened again. -/
def shellQuote : List Char := ['\'','\\','\'','\'']

def shellArg (path : String) : Except String String := do
  ensure (isAbsolute path) s!"service path {path} must be absolute"
  pure (String.ofList (['\''] ++ path.toList.flatMap (fun c => if c = '\'' then shellQuote else [c]) ++ ['\'']))

def cleanupCommands (before executable config : String) : List String :=
  ["router-hooks","hooks","dns-mapping"].map fun part => before ++ executable ++ " " ++ part ++ " cleanup --config " ++ config

def unitContent (spec : ServiceSpec) : Except String String := do
  let executable ← pathArg spec.executable
  let config ← pathArg spec.config
  let environment ← (match spec.environmentFile with
    | some path => (pathArg path).map fun path => ["EnvironmentFile=" ++ path]
    | none => pure [] : Except String (List String))
  pure (managedContent digest (join '\n' (
    ["[Unit]","Description=dynet full-takeover runtime","After=network-online.target","Wants=network-online.target","",
      "[Service]","Type=simple","User=" ++ spec.user] ++ environment ++ cleanupCommands "ExecStartPre=+" executable config ++
    ["ExecStartPre=+" ++ executable ++ " apply --auto","ExecStart=" ++ executable ++ " run --config " ++ config,
      "ExecReload=/bin/kill -HUP $MAINPID"] ++ cleanupCommands "ExecStopPost=+" executable config ++
    ["Restart=on-failure","RestartSec=1s","KillSignal=SIGTERM","TimeoutStopSec=10s","LimitNOFILE=4096",
      "AmbientCapabilities=CAP_NET_ADMIN","CapabilityBoundingSet=CAP_NET_ADMIN","NoNewPrivileges=true","",
      "[Install]","WantedBy=multi-user.target",""])))

theorem unitContent_shape {spec : ServiceSpec} {content : String} (given : unitContent digest spec = .ok content) :
    ∃ rest, content = managedContent digest (join '\n' ("[Unit]"::rest)) := by
  obtain ⟨executable,-,given⟩ := (bind_ok_iff _ _ _).mp given
  obtain ⟨config,-,given⟩ := (bind_ok_iff _ _ _).mp given
  obtain ⟨environment,-,given⟩ := (bind_ok_iff _ _ _).mp given
  exact ⟨_,(Except.ok.inj given).symm⟩

def initContent (spec : ServiceSpec) : Except String String := do
  let executable ← shellArg spec.executable
  let config ← shellArg spec.config
  let environment ← (match spec.environmentFile with
    | some path => (shellArg path).map fun path => ["    while IFS= read -r entry; do",
        "        case \"$entry\" in ''|'#'*) continue ;; esac","        procd_append_param env \"$entry\"","    done < " ++ path]
    | none => pure [] : Except String (List String))
  pure (managedContent digest (join '\n' (
    ["#!/bin/sh /etc/rc.common","","USE_PROCD=1","START=95","STOP=10","","start_service() \x7b","procd_open_instance",
      "procd_set_param command " ++ executable ++ " service supervise --config " ++ config,"procd_set_param respawn 3600 5 5",
      "procd_set_param stdout 1","procd_set_param stderr 1","procd_set_param limits nofile='4096 4096'"] ++ environment ++
    ["procd_close_instance","\x7d","","reload_service() \x7b","procd_send_signal dynet '*' HUP","\x7d","","stop_service() \x7b"] ++
    cleanupCommands "" executable config ++ ["\x7d",""])))

/-- `ServiceController::artifact`. -/
def artifactFor (spec : ServiceSpec) (paths : ServicePaths) : Backend → Except String ServiceArtifact
  | .systemd => (unitContent digest spec).map fun content =>
      ⟨"service.systemd.unit",paths.systemdSystemDir,"dynet.service",content,0x1a4⟩
  | .procd => (initContent digest spec).map fun content => ⟨"service.procd.init",paths.procdInitDir,"dynet",content,0x1ed⟩

end Content

section Classify

inductive Entry where
  | absent
  | file (content : String) (mode : Nat)
  | unreadable (error : String)
  | other
  deriving DecidableEq, Repr

/-- How looking at a path can fail: at its metadata or at what it holds. -/
inductive LookFault where
  | metadata (error : String)
  | content (error : String)
  deriving DecidableEq, Repr

/-- The state of a file that is not the desired one, by its first lines. -/
def ownership (digest : String → String) (actual : String) : ResourceState :=
  let shebang := (lines actual).head?.filter (startsWith · "#!")
  let marks := if shebang.isSome then (lines actual).drop 1 else lines actual
  if marks.head? ≠ some ownerMarker then .foreign
  else
    match marks.drop 1 with
    | [] => .drifted
    | hashLine::rest =>
      if startsWith hashLine hashPrefix then
        let body := join '\n' rest ++ "\n"
        let payload := match shebang with
          | some line => line ++ "\n" ++ body
          | none => body
        if digest payload ≠ String.ofList (hashLine.toList.drop hashPrefix.length) then .drifted else .managedUpdate
      else .drifted

def classify (digest : String → String) (fault : Option LookFault) (artifact : ServiceArtifact) (entry : Entry) :
    Except String ResourceState :=
  let path := artifact.path
  match fault,entry with
  | some (.metadata error),_ => .error s!"failed reading metadata for {path}: {error}"
  | _,.absent => .ok .missing
  | _,.other => .ok .invalid
  | _,.unreadable error => .error s!"failed reading {path}: {error}"
  | some (.content error),.file _ _ => .error s!"failed reading {path}: {error}"
  | none,.file actual mode =>
    if actual = artifact.content then .ok (if mode &&& 0x1ff = artifact.mode then .ready else .managedUpdate)
    else .ok (ownership digest actual)

variable {digest : String → String} {artifact : ServiceArtifact}

theorem ownership_cases (digest : String → String) (actual : String) :
    ownership digest actual = .foreign ∨ ownership digest actual = .drifted ∨ ownership digest actual = .managedUpdate := by
  unfold ownership
  dsimp only
  repeat' split
  all_goals simp

theorem classify_ready_iff {entry : Entry} : classify digest none artifact entry = .ok .ready ↔
    ∃ mode, entry = .file artifact.content mode ∧ mode &&& 0x1ff = artifact.mode := by
  constructor
  · intro ready
    cases entry with
    | file actual mode =>
      by_cases same : actual = artifact.content
      · refine ⟨mode,by rw [same],?_⟩
        by_contra other
        simp [classify,same,other] at ready
      · rcases ownership_cases digest actual with state | state | state
        all_goals simp [classify,same,state] at ready
    | absent => cases ready
    | unreadable error => cases ready
    | other => cases ready
  · rintro ⟨mode,rfl,masked⟩
    simp [classify,masked]

theorem classify_missing_iff {entry : Entry} : classify digest none artifact entry = .ok .missing ↔ entry = .absent := by
  constructor
  · intro missing
    cases entry with
    | file actual mode =>
      rcases ownership_cases digest actual with state | state | state
      all_goals
        simp only [classify,state] at missing
        repeat' split at missing
        all_goals cases missing
    | absent => rfl
    | unreadable error => cases missing
    | other => cases missing
  · rintro rfl
    rfl

theorem artifactFor_masked {spec : ServiceSpec} {paths : ServicePaths} {backend : Backend}
    (given : artifactFor digest spec paths backend = .ok artifact) : artifact.mode &&& 0x1ff = artifact.mode := by
  cases backend
  all_goals
    obtain ⟨content,-,rfl⟩ := (map_ok_iff _ _ _).mp given
    simp

end Classify

end Dynet.Service
