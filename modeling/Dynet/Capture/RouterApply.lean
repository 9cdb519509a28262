import Dynet.Capture.HookHost

/-! Applying the router hook, and taking back what it has added when a command fails. -/
namespace Dynet.Capture
open Dynet.Lib Dynet.Lib.Checks Dynet.Lib.Text

/-- A check as the apply reads it. -/
structure TakeoverCheck where
  id : String
  path : Option String
  state : CheckState
  deriving DecidableEq, Repr

def CheckState.label : CheckState → String
  | .ready => "ready"
  | .missingAutoCreatable => "missing-auto-creatable"
  | .missingHardFail => "missing-hard-fail"
  | .invalidHardFail => "invalid-hard-fail"

namespace TakeoverCheck

def isHardFailure (check : TakeoverCheck) : Bool :=
  check.state == .missingHardFail || check.state == .invalidHardFail

def summary (check : TakeoverCheck) : String :=
  let path := match check.path with
    | some path => " (" ++ path ++ ")"
    | none => ""
  check.id ++ "=" ++ check.state.label ++ path

end TakeoverCheck

/-- What the read-only checks of host and runtime skeleton have found. -/
structure TakeoverStatus where
  doctor : List TakeoverCheck
  runtime : List TakeoverCheck
  deriving DecidableEq, Repr

def summaries (checks : List TakeoverCheck) : String := String.intercalate "; " (checks.map TakeoverCheck.summary)

def failureSummary (checks : List TakeoverCheck) : String :=
  let failures := checks.filter TakeoverCheck.isHardFailure
  if failures = [] then "dynet takeover has no hard failures" else "dynet takeover hard fail: " ++ summaries failures

def rejectHookCollisions (checks : List TakeoverCheck) : Except String Unit :=
  let collisions := checks.filter (·.state == .invalidHardFail)
  ensure (collisions = [])
    ("dynet hooks found foreign or drifted artifacts and refuse to overwrite them: " ++ summaries collisions)

def requireRuntime (runtime : List TakeoverCheck) : Except String Unit :=
  match runtime.find? (·.state != .ready) with
  | some check => .error ("dynet router hook apply requires ready runtime skeleton: " ++ check.summary)
  | none => .ok ()

/-- The artifacts of the families in use, in the order in which they are added. -/
def familyArtifacts (family : IpVersion) : List Artifact := [.route family,.rule family]

def RouterHookOptions.artifacts (options : RouterHookOptions) : List Artifact :=
  familyArtifacts .v4 ++ if options.ipv6Enabled then familyArtifacts .v6 else []

def Artifact.checkId : Artifact → String
  | .route .v4 => "route.table.ipv4.default"
  | .route .v6 => "route.table.ipv6.default"
  | .rule .v4 => "route.rule.ipv4.mark"
  | .rule .v6 => "route.rule.ipv6.mark"

def created : Artifact → String
  | .route family => "created " ++ family.label ++ " route table " ++ routeTable ++ " default dev " ++ tunInterface
  | .rule family => "created " ++ family.label ++ " fwmark " ++ markWithMask ++ " policy rule pref " ++ rulePriority

def createdChain : String := "created owned nft router ingress hook inet dynet dynet_router_ingress priority -151"

def installedRules : String :=
  "installed source-scoped dual-stack router capture rules preserving marks outside " ++ markMaskHex

section Apply
variable {ω : Type} (tools : Tools ω) (faults : Faults)

structure Progress (ω : Type) where
  host : Host ω
  actions : List String

def andThen (first : Except String Unit × Progress ω) (next : Progress ω → Except String Unit × Progress ω) :
    Except String Unit × Progress ω :=
  match first with
  | (.ok (),progress) => next progress
  | (.error error,progress) => (.error error,progress)

/-- One half of `ensure_family_hooks`. -/
def ensureArtifact (artifact : Artifact) (progress : Progress ω) : Except String Unit × Progress ω :=
  if artifactStatus tools (faults.ask (.listArtifact artifact)) artifact progress.host = .ready then (.ok (),progress)
  else
    match runRequired tools (faults.change (.add artifact)) (.add artifact) progress.host with
    | (.ok (),host) => (.ok (),⟨host,progress.actions ++ [created artifact]⟩)
    | (.error error,host) => (.error error,{ progress with host := host })

def ensureFamilyHooks (family : IpVersion) (progress : Progress ω) : Except String Unit × Progress ω :=
  andThen (ensureArtifact tools faults (.route family) progress) (ensureArtifact tools faults (.rule family))

def addRules : Nat → List (List String) → Host ω → Except String Unit × Host ω
  | _, [], host => (.ok (),host)
  | position, rule::rest, host =>
    match runRequired tools (faults.rule position) (.addRule rule) host with
    | (.ok (),host) => addRules (position + 1) rest host
    | (.error error,host) => (.error error,host)

def ensureRouterChain (options : RouterHookOptions) (progress : Progress ω) : Except String Unit × Progress ω :=
  if chainStatus tools (faults.ask .listChain) options progress.host = .ready then (.ok (),progress)
  else
    match runRequired tools (faults.change .addChain) .addChain progress.host with
    | (.error error,host) => (.error error,{ progress with host := host })
    | (.ok (),host) =>
      let actions := progress.actions ++ [createdChain]
      match addRules tools faults 0 (routerRules options) host with
      | (.ok (),host) => (.ok (),⟨host,actions ++ [installedRules]⟩)
      | (.error error,host) => (.error error,⟨host,actions⟩)

def attempt (options : RouterHookOptions) (host : Host ω) : Except String Unit × Progress ω :=
  andThen
    (andThen (ensureFamilyHooks tools faults .v4 ⟨host,[]⟩)
      (if options.ipv6Enabled then ensureFamilyHooks tools faults .v6 else fun progress => (.ok (),progress)))
    (ensureRouterChain tools faults options)

/-- The command that takes back an action, read off its text. -/
def undoing (action : String) : Option Change :=
  if startsWith action "created owned nft router ingress hook" then some .deleteChain
  else if startsWith action "created IPv6 fwmark" then some (.delete (.rule .v6))
  else if startsWith action "created IPv6 route table" then some (.delete (.route .v6))
  else if startsWith action "created IPv4 fwmark" then some (.delete (.rule .v4))
  else if startsWith action "created IPv4 route table" then some (.delete (.route .v4))
  else none

/-- The rollback of the actions, given with the last one first. -/
def rollbackRouterApply : List String → Host ω → Except String Unit × Host ω
  | [], host => (.ok (),host)
  | action::rest, host =>
    match undoing action with
    | none => rollbackRouterApply rest host
    | some change =>
      match runRequired tools (faults.undo change) change host with
      | (.ok (),host) => rollbackRouterApply rest host
      | (.error error,host) => (.error error,host)

inductive ApplyError where
  | refused (message : String)
  | rolledBack (error : String)
  | rollbackFailed (error rollback : String)
  deriving DecidableEq, Repr

def ApplyError.message : ApplyError → String
  | .refused message => message
  | .rolledBack error => "router hook apply failed and rolled back newly owned artifacts: " ++ error
  | .rollbackFailed error rollback => "router hook apply failed: " ++ error ++ "; rollback also failed: " ++ rollback

/-- `router_hooks_status_with`: the artifacts in use and the chain. -/
def routerHooksStatus (asked : Query → Option Fault) (options : RouterHookOptions) (host : Host ω) : List TakeoverCheck :=
  options.artifacts.map (fun artifact =>
    ⟨artifact.checkId,none,artifactStatus tools (asked (.listArtifact artifact)) artifact host⟩) ++
  [⟨"nft.chain.router-ingress",none,chainStatus tools (asked .listChain) options host⟩]

def permit (asked : Query → Option Fault) (status : TakeoverStatus) (options : RouterHookOptions) (host : Host ω) :
    Except String Unit := do
  options.validate
  ensure (status.doctor.any TakeoverCheck.isHardFailure = false) (failureSummary status.doctor)
  requireRuntime status.runtime
  let interface := interfaceStatus tools (asked (.linkShow options.scope.interface)) options host
  ensure (interface = .ready) ("dynet router hook apply requires its caller-selected interface: " ++
    TakeoverCheck.summary ⟨"router-ingress.interface",none,interface⟩)
  rejectHookCollisions (routerHooksStatus tools asked options host)

def routerHooksApply (status : TakeoverStatus) (options : RouterHookOptions) (host : Host ω) :
    Except ApplyError (List String) × Host ω :=
  match permit tools faults.check status options host with
  | .error message => (.error (.refused message),host)
  | .ok () =>
    match attempt tools faults options host with
    | (.ok (),progress) => (.ok progress.actions,progress.host)
    | (.error error,progress) =>
      match rollbackRouterApply tools faults progress.actions.reverse progress.host with
      | (.ok (),host) => (.error (.rolledBack error),host)
      | (.error rollback,host) => (.error (.rollbackFailed error rollback),host)

/-- An apply that reports an error, and no failed rollback, leaves the host as it was. -/
def Atomic (status : TakeoverStatus) (options : RouterHookOptions) (host : Host ω) : Prop :=
  ∀ error after, routerHooksApply tools faults status options host = (.error error,after) →
    (∀ fault rollback, error ≠ .rollbackFailed fault rollback) → after = host

/-- The checks let the apply through and tell the truth. -/
def Permitted (status : TakeoverStatus) (options : RouterHookOptions) (host : Host ω) : Prop :=
  permit tools (fun _ => none) status options host = .ok ()

/-- The chain is there, its listing fails, and no listing fails before it of a route or
rule that is there. -/
def UnseenChain (asked : Query → Option Fault) (options : RouterHookOptions) (host : Host ω) : Prop :=
  host.chain ≠ none ∧ asked .listChain ≠ none ∧
    ∀ artifact ∈ options.artifacts, host.listing artifact ≠ "" → asked (.listArtifact artifact) = none

end Apply

section Facts

theorem undoing_created (artifact : Artifact) : undoing (created artifact) = some (.delete artifact) := by
  rcases artifact with family | family
  all_goals cases family <;> decide +kernel

theorem undoing_createdChain : undoing createdChain = some .deleteChain := by decide +kernel

theorem artifactOwned_some {artifact : Artifact} {text : String} (owned : artifactOwned artifact text = true) : text ≠ "" := by
  rintro rfl
  cases artifact <;> cases owned

theorem routerRules_ne_nil (options : RouterHookOptions) : routerRules options ≠ [] := by
  simp [routerRules,guardRules]

theorem artifacts_nodup (options : RouterHookOptions) : options.artifacts.Nodup := by
  unfold RouterHookOptions.artifacts
  split <;> decide

end Facts

section Undo
variable {ω : Type} {tools : Tools ω} {faults : Faults} {options : RouterHookOptions}

theorem ask_fault (tools : Tools ω) {fault : Option Fault} (failing : fault ≠ none) (query : Query) (host : Host ω) :
    (∃ error, ask tools fault query host = .error error) ∨ ∃ stderr, ask tools fault query host = .ok ⟨false,"",stderr⟩ := by
  obtain ⟨fault,rfl⟩ := Option.ne_none_iff_exists'.mp failing
  cases fault with
  | notStarted error => exact .inl ⟨error,rfl⟩
  | failed stderr => exact .inr ⟨stderr,rfl⟩

theorem runRequired_fault (tools : Tools ω) {fault : Option Fault} (failing : fault ≠ none) (change : Change) (host : Host ω) :
    ∃ error, runRequired tools fault change host = (.error error,host) := by
  obtain ⟨fault,rfl⟩ := Option.ne_none_iff_exists'.mp failing
  cases fault <;> exact ⟨_,rfl⟩

theorem runRequired_done {change : Change} {host : Host ω} (success : (tools.perform change host).1.success = true) :
    runRequired tools none change host = (.ok (),(tools.perform change host).2) := by
  simp [runRequired,run,success]

theorem runRequired_refused {change : Change} {host : Host ω} (refused : (tools.perform change host).1.success = false) :
    ∃ error, runRequired tools none change host = (.error error,(tools.perform change host).2) := by
  simp [runRequired,run,refused]

theorem artifactStatus_present (lawful : tools.Lawful) {artifact : Artifact} {host : Host ω}
    (present : host.listing artifact ≠ "") : artifactStatus tools none artifact host =
      if artifactOwned artifact (host.listing artifact) then .ready else .invalidHardFail := by
  obtain ⟨success,stdout⟩ := lawful.listed artifact host present
  simp [artifactStatus,ask,ownedCommandCheck,success,stdout,present]

theorem artifactStatus_absent (lawful : tools.Lawful) {artifact : Artifact} {host : Host ω}
    (absent : host.listing artifact = "") : artifactStatus tools none artifact host = .missingAutoCreatable := by
  rcases lawful.unlisted artifact host absent with failed | empty
  · simp [artifactStatus,ask,ownedCommandCheck,failed]
  · by_cases success : (tools.answer (.listArtifact artifact) host).success = true
    · simp [artifactStatus,ask,ownedCommandCheck,success,empty]
    · simp [artifactStatus,ask,ownedCommandCheck,success]

theorem artifactStatus_fault {fault : Option Fault} (failing : fault ≠ none) (artifact : Artifact) (host : Host ω) :
    artifactStatus tools fault artifact host ≠ .ready := by
  rcases ask_fault tools failing (.listArtifact artifact) host with ⟨error,shown⟩ | ⟨stderr,shown⟩
  · simp [artifactStatus,shown,ownedCommandCheck]
  · simp [artifactStatus,shown,ownedCommandCheck]

theorem chainStatus_present (lawful : tools.Lawful) {host : Host ω} {text : String} (present : host.chain = some text) :
    chainStatus tools none options host = if routerChainIsExpected text (some options) then .ready else .invalidHardFail := by
  obtain ⟨success,stdout⟩ := lawful.chainListed host text present
  simp [chainStatus,ask,routerChainStatus,chainState,success,stdout]

theorem chainStatus_fault {fault : Option Fault} (failing : fault ≠ none) (host : Host ω) :
    chainStatus tools fault options host ≠ .ready := by
  rcases ask_fault tools failing .listChain host with ⟨error,shown⟩ | ⟨stderr,shown⟩
  · simp [chainStatus,shown,routerChainStatus,chainState]
  · simp [chainStatus,shown,routerChainStatus,chainState]

def installed (tools : Tools ω) (added : List Artifact) (host : Host ω) : Host ω :=
  { host with listing := fun artifact => if artifact ∈ added then tools.entry artifact else host.listing artifact }

theorem installed_append (added : List Artifact) (artifact : Artifact) (host : Host ω) :
    (installed tools added host).put artifact (tools.entry artifact) = installed tools (added ++ [artifact]) host := by
  simp only [installed,Host.put]
  congr 1
  funext other
  by_cases same : other = artifact
  · simp [same]
  · simp [same]

theorem installed_cons {artifact : Artifact} {added : List Artifact} {host : Host ω} (fresh : artifact ∉ added)
    (absent : host.listing artifact = "") (chain : Option String) :
    ((installed tools (artifact::added) host).withChain chain).put artifact "" = (installed tools added host).withChain chain := by
  simp only [installed,Host.put,Host.withChain]
  congr 1
  funext other
  by_cases same : other = artifact
  · simp [same,fresh,absent]
  · simp [same]

/-- The rollback of added artifacts takes all of them back, whatever the chain is, or
fails; it fails only if one of its commands does. -/
theorem rollback_added (lawful : tools.Lawful) {added : List Artifact} {host : Host ω} (distinct : added.Nodup)
    (absent : ∀ artifact ∈ added, host.listing artifact = "") (chain : Option String) :
    (∀ after, rollbackRouterApply tools faults (added.map created) ((installed tools added host).withChain chain) =
      (.ok (),after) → after = host.withChain chain) ∧
    ((∀ change, faults.undo change = none) →
      (rollbackRouterApply tools faults (added.map created) ((installed tools added host).withChain chain)).1 = .ok ()) := by
  induction added with
  | nil => simp [rollbackRouterApply,installed]
  | cons artifact added ih =>
    obtain ⟨fresh,distinct⟩ := List.nodup_cons.mp distinct
    obtain ⟨here,absent⟩ := List.forall_mem_cons.mp absent
    obtain ⟨restores,succeeds⟩ := ih distinct absent
    have listed : ((installed tools (artifact::added) host).withChain chain).listing artifact = tools.entry artifact := by
      simp [installed]
    obtain ⟨success,after⟩ := lawful.deleted artifact _ listed
    rw [installed_cons fresh here] at after
    have done := runRequired_done success
    rw [after] at done
    simp only [List.map_cons,rollbackRouterApply,undoing_created]
    cases failing : faults.undo (.delete artifact) with
    | none =>
      simp only [done]
      exact ⟨restores,succeeds⟩
    | some fault =>
      obtain ⟨error,failed⟩ := runRequired_fault tools (Option.some_ne_none fault) (.delete artifact)
        ((installed tools (artifact::added) host).withChain chain)
      simp only [failed]
      refine ⟨fun after => by simp,fun quiet => ?_⟩
      rw [quiet] at failing
      cases failing

theorem installed_reverse (added : List Artifact) (host : Host ω) :
    installed tools added.reverse host = installed tools added host := by
  simp [installed]

end Undo

section Steps
variable {ω : Type} {tools : Tools ω} {faults : Faults} {options : RouterHookOptions} {start : Host ω}

/-- How far the apply has come: the artifacts it has added to the host where it started. -/
structure Added (tools : Tools ω) (start : Host ω) (added : List Artifact) (progress : Progress ω) : Prop where
  actions : progress.actions = added.map created
  host : progress.host = installed tools added start
  distinct : added.Nodup
  absent : ∀ artifact ∈ added, start.listing artifact = ""

/-- An artifact is absent or already as dynet adds it. -/
def Settled (start : Host ω) (artifact : Artifact) : Prop :=
  start.listing artifact = "" ∨ artifactOwned artifact (start.listing artifact) = true

/-- A listing that fails hides nothing. -/
def Seen (asked : Query → Option Fault) (start : Host ω) (artifact : Artifact) : Prop :=
  start.listing artifact ≠ "" → asked (.listArtifact artifact) = none

/-- Nothing stops the step for an artifact: the command that its listing asks for does not
fail. -/
def Passes (faults : Faults) (host : Host ω) (artifact : Artifact) : Prop :=
  if host.listing artifact = "" then faults.change (.add artifact) = none else faults.ask (.listArtifact artifact) = none

theorem ensureArtifact_passed (lawful : tools.Lawful) {artifact : Artifact} {progress : Progress ω}
    (settled : Settled progress.host artifact) (passes : Passes faults progress.host artifact) :
    ensureArtifact tools faults artifact progress = (.ok (),if progress.host.listing artifact = "" then
      ⟨progress.host.put artifact (tools.entry artifact),progress.actions ++ [created artifact]⟩ else progress) := by
  unfold ensureArtifact
  by_cases absent : progress.host.listing artifact = ""
  · have missing : artifactStatus tools (faults.ask (.listArtifact artifact)) artifact progress.host ≠ .ready := by
      cases asked : faults.ask (.listArtifact artifact) with
      | none => simp [artifactStatus_absent lawful absent]
      | some fault => exact artifactStatus_fault (Option.some_ne_none fault) artifact progress.host
    obtain ⟨success,after⟩ := lawful.added artifact progress.host absent
    rw [Passes,if_pos absent] at passes
    rw [if_neg missing,if_pos absent,passes,runRequired_done success,after]
  · rw [Passes,if_neg absent] at passes
    rw [passes,artifactStatus_present lawful absent,settled.resolve_left absent,if_neg absent,if_pos rfl]
    rfl

theorem ensureArtifact_stopped (lawful : tools.Lawful) {artifact : Artifact} {progress : Progress ω}
    (settled : Settled progress.host artifact) (stops : ¬ Passes faults progress.host artifact) :
    ∃ error, ensureArtifact tools faults artifact progress = (.error error,progress) := by
  have missing : artifactStatus tools (faults.ask (.listArtifact artifact)) artifact progress.host ≠ .ready := by
    cases asked : faults.ask (.listArtifact artifact) with
    | none =>
      have absent : progress.host.listing artifact = "" := by
        by_contra present
        exact stops (by rwa [Passes,if_neg present])
      simp [artifactStatus_absent lawful absent]
    | some fault => exact artifactStatus_fault (Option.some_ne_none fault) artifact progress.host
  have refused : ∃ error, runRequired tools (faults.change (.add artifact)) (.add artifact) progress.host =
      (.error error,progress.host) := by
    cases change : faults.change (.add artifact) with
    | some fault => exact runRequired_fault tools (Option.some_ne_none fault) (.add artifact) progress.host
    | none =>
      have present : progress.host.listing artifact ≠ "" := fun absent => stops (by rwa [Passes,if_pos absent])
      obtain ⟨refused,after⟩ := lawful.exists_already artifact progress.host (settled.resolve_left present)
      obtain ⟨error,failed⟩ := runRequired_refused refused
      exact ⟨error,by rw [failed,after]⟩
  obtain ⟨error,failed⟩ := refused
  exact ⟨error,by rw [ensureArtifact,if_neg missing,failed]⟩

/-- A step adds its artifact or nothing; it gets through only if its listing hides nothing,
and then it fails only if its change does. -/
theorem ensureArtifact_spec (lawful : tools.Lawful) {artifact : Artifact} (settled : Settled start artifact)
    {added : List Artifact} {progress : Progress ω} (fresh : artifact ∉ added) (before : Added tools start added progress) :
    (∃ later, (∀ other ∈ later, other ∈ added ∨ other = artifact) ∧
      Added tools start later (ensureArtifact tools faults artifact progress).2) ∧
    ((ensureArtifact tools faults artifact progress).1 = .ok () → Seen faults.ask start artifact) ∧
    ((∀ change, faults.change change = none) → Seen faults.ask start artifact →
      (ensureArtifact tools faults artifact progress).1 = .ok ()) := by
  have listing : progress.host.listing artifact = start.listing artifact := by
    rw [before.host]
    simp [installed,fresh]
  have settledHere : Settled progress.host artifact := by rwa [Settled,listing]
  by_cases passes : Passes faults progress.host artifact
  · rw [ensureArtifact_passed lawful settledHere passes]
    rw [Passes,listing] at passes
    by_cases absent : start.listing artifact = ""
    · simp only [listing,absent,if_true]
      refine ⟨⟨added ++ [artifact],by simp,?_⟩,fun _ present => absurd absent present,fun _ _ => trivial⟩
      refine ⟨by simp [before.actions],by rw [before.host,installed_append],?_,?_⟩
      · rw [← List.concat_eq_append]
        exact before.distinct.concat fresh
      · rw [List.forall_mem_append]
        exact ⟨before.absent,by simpa using absent⟩
    · rw [if_neg absent] at passes
      simp only [listing,absent,if_false]
      exact ⟨⟨added,fun _ => .inl,before⟩,fun _ _ => passes,fun _ _ => trivial⟩
  · obtain ⟨error,stopped⟩ := ensureArtifact_stopped lawful settledHere passes
    rw [stopped]
    refine ⟨⟨added,fun _ => .inl,before⟩,fun ok => (by cases ok),fun calm seen => absurd ?_ passes⟩
    rw [Passes,listing]
    split
    · exact calm _
    · exact seen ‹_›

def ensureAll (tools : Tools ω) (faults : Faults) : List Artifact → Progress ω → Except String Unit × Progress ω
  | [], progress => (.ok (),progress)
  | artifact::rest, progress => andThen (ensureArtifact tools faults artifact progress) (ensureAll tools faults rest)

theorem ensureAll_append (left right : List Artifact) (progress : Progress ω) : ensureAll tools faults (left ++ right) progress =
    andThen (ensureAll tools faults left progress) (ensureAll tools faults right) := by
  induction left generalizing progress with
  | nil => rfl
  | cons artifact left ih =>
    simp only [List.cons_append,ensureAll,andThen]
    split
    · exact ih _
    · rfl

theorem ensureFamilyHooks_eq (family : IpVersion) :
    ensureFamilyHooks tools faults family = ensureAll tools faults (familyArtifacts family) := by
  funext progress
  simp only [ensureFamilyHooks,familyArtifacts,ensureAll,andThen]
  split
  · split <;> simp_all
  · rfl

theorem attempt_eq (host : Host ω) : attempt tools faults options host =
    andThen (ensureAll tools faults options.artifacts ⟨host,[]⟩) (ensureRouterChain tools faults options) := by
  unfold attempt RouterHookOptions.artifacts
  rw [ensureAll_append,ensureFamilyHooks_eq,ensureFamilyHooks_eq]
  split <;> rfl

theorem ensureAll_spec (lawful : tools.Lawful) {artifacts : List Artifact} (distinct : artifacts.Nodup)
    (settled : ∀ artifact ∈ artifacts, Settled start artifact) {added : List Artifact} {progress : Progress ω}
    (fresh : ∀ artifact ∈ artifacts, artifact ∉ added) (before : Added tools start added progress) :
    (∃ later, Added tools start later (ensureAll tools faults artifacts progress).2) ∧
    ((ensureAll tools faults artifacts progress).1 = .ok () → ∀ artifact ∈ artifacts, Seen faults.ask start artifact) ∧
    ((∀ change, faults.change change = none) → (∀ artifact ∈ artifacts, Seen faults.ask start artifact) →
      (ensureAll tools faults artifacts progress).1 = .ok ()) := by
  induction artifacts generalizing added progress with
  | nil => exact ⟨⟨added,before⟩,by simp,fun _ _ => rfl⟩
  | cons artifact rest ih =>
    obtain ⟨first,distinct⟩ := List.nodup_cons.mp distinct
    obtain ⟨here,settled⟩ := List.forall_mem_cons.mp settled
    obtain ⟨freshHere,fresh⟩ := List.forall_mem_cons.mp fresh
    obtain ⟨⟨later,grown,after⟩,seen,through⟩ :=
      @ensureArtifact_spec _ tools faults start lawful artifact here added progress freshHere before
    have freshLater : ∀ other ∈ rest, other ∉ later := by
      intro other member inside
      rcases grown other inside with old | rfl
      · exact fresh other member old
      · exact first member
    obtain ⟨more,restSeen,restThrough⟩ := ih distinct settled freshLater after
    rw [ensureAll]
    rcases step : ensureArtifact tools faults artifact progress with ⟨result,next⟩
    rw [step] at after seen through more restSeen restThrough
    cases result with
    | error error =>
      refine ⟨⟨later,after⟩,fun ok => (by cases ok),fun quiet hides => ?_⟩
      cases through quiet (hides artifact List.mem_cons_self)
    | ok done =>
      refine ⟨more,fun ok => ?_,fun quiet hides => ?_⟩
      · exact List.forall_mem_cons.mpr ⟨seen rfl,restSeen ok⟩
      · exact restThrough quiet fun other member => hides other (List.mem_cons_of_mem _ member)

theorem addRules_keeps (lawful : tools.Lawful) (rules : List (List String)) (position : Nat) {host : Host ω} {text : String}
    (present : host.chain = some text) : ∃ longer, (addRules tools faults position rules host).2 = host.withChain (some longer) := by
  have same : host = host.withChain (some text) := by rw [← present,Host.withChain_self]
  induction rules generalizing position host text with
  | nil => exact ⟨text,same⟩
  | cons rule rules ih =>
    rw [addRules]
    have step : ∃ result longer, runRequired tools (faults.rule position) (.addRule rule) host =
        (result,host.withChain (some longer)) := by
      cases failing : faults.rule position with
      | some fault =>
        obtain ⟨error,failed⟩ := runRequired_fault tools (Option.some_ne_none fault) (.addRule rule) host
        exact ⟨.error error,text,by rw [failed,← same]⟩
      | none =>
        obtain ⟨longer,after⟩ := lawful.ruleAdded rule host text present
        by_cases success : (tools.perform (.addRule rule) host).1.success = true
        · exact ⟨.ok (),longer,by rw [runRequired_done success,after]⟩
        · rw [Bool.not_eq_true] at success
          obtain ⟨error,refused⟩ := runRequired_refused success
          exact ⟨.error error,longer,by rw [refused,after]⟩
    obtain ⟨result,longer,ran⟩ := step
    rw [ran]
    cases result with
    | error error => exact ⟨longer,rfl⟩
    | ok done =>
      obtain ⟨last,rest⟩ := ih (position + 1) (Host.withChain_chain host (some longer)) rfl
      exact ⟨last,rest⟩

/-- What a failed attempt leaves: the chain is untouched, or it is to be deleted; then it
was not there before, or its listing had failed. -/
theorem attempt_failed (lawful : tools.Lawful) (settled : ∀ artifact ∈ options.artifacts, Settled start artifact)
    (expected : ∀ text, start.chain = some text → routerChainIsExpected text (some options) = true)
    {error : String} {progress : Progress ω} (failed : attempt tools faults options start = (.error error,progress)) :
    ∃ added, added.Nodup ∧ (∀ artifact ∈ added, start.listing artifact = "") ∧
      ((progress.actions = added.map created ∧ progress.host = installed tools added start) ∨
      ((start.chain = none ∨ UnseenChain faults.ask options start) ∧
        progress.actions = added.map created ++ [createdChain] ∧
          ∃ text, progress.host = (installed tools added start).withChain (some text))) := by
  have begin : Added tools start [] ⟨start,[]⟩ := ⟨rfl,by simp [installed],by simp,by simp⟩
  obtain ⟨⟨added,after⟩,seen,_⟩ := @ensureAll_spec _ tools faults start lawful _ (artifacts_nodup options) settled _ _
    (fun _ _ => List.not_mem_nil) begin
  refine ⟨added,after.distinct,after.absent,?_⟩
  rw [attempt_eq] at failed
  rcases steps : ensureAll tools faults options.artifacts ⟨start,[]⟩ with ⟨result,next⟩
  rw [steps] at failed after seen
  cases result with
  | error stopped =>
    cases failed
    exact .inl ⟨after.actions,after.host⟩
  | ok done =>
    simp only [andThen,ensureRouterChain] at failed
    have chain : next.host.chain = start.chain := by rw [after.host]; rfl
    by_cases ready : chainStatus tools (faults.ask .listChain) options next.host = .ready
    · rw [if_pos ready] at failed
      cases failed
    · rw [if_neg ready] at failed
      cases change : faults.change .addChain with
      | some fault =>
        obtain ⟨stopped,refused⟩ := runRequired_fault tools (Option.some_ne_none fault) .addChain next.host
        rw [change,refused] at failed
        cases failed
        exact .inl ⟨after.actions,after.host⟩
      | none =>
        have opened : (start.chain = none ∨ UnseenChain faults.ask options start) ∧
            ∃ text, runRequired tools none .addChain next.host = (.ok (),next.host.withChain (some text)) := by
          cases present : start.chain with
          | none =>
            obtain ⟨success,text,made⟩ := lawful.chainAdded next.host (chain.trans present)
            exact ⟨.inl rfl,text,by rw [runRequired_done success,made]⟩
          | some text =>
            have here := chain.trans present
            obtain ⟨success,made⟩ := lawful.chainKept next.host text here
            refine ⟨.inr ⟨by simp [present],?_,seen rfl⟩,text,?_⟩
            · intro quiet
              rw [quiet,chainStatus_present lawful here,expected text present] at ready
              exact ready rfl
            · rw [runRequired_done success,made,← here,Host.withChain_self]
        obtain ⟨cause,text,made⟩ := opened
        obtain ⟨longer,kept⟩ := @addRules_keeps _ tools faults lawful (routerRules options) 0 _ _
          (Host.withChain_chain next.host (some text))
        rw [change,made] at failed
        dsimp only at failed
        rcases rules : addRules tools faults 0 (routerRules options) (next.host.withChain (some text)) with ⟨result,last⟩
        rw [rules] at failed kept
        cases result with
        | ok done => cases failed
        | error stopped =>
          cases failed
          dsimp only at kept
          refine .inr ⟨cause,congrArg (· ++ [createdChain]) after.actions,longer,?_⟩
          rw [kept,Host.withChain_withChain,← after.host]

/-- A rollback that does not fail restores everything but, at worst, the chain. -/
theorem rollback_restores (lawful : tools.Lawful) (settled : ∀ artifact ∈ options.artifacts, Settled start artifact)
    (expected : ∀ text, start.chain = some text → routerChainIsExpected text (some options) = true)
    {error : String} {progress : Progress ω} (failed : attempt tools faults options start = (.error error,progress))
    {after : Host ω} (undone : rollbackRouterApply tools faults progress.actions.reverse progress.host = (.ok (),after)) :
    after = start ∨ (UnseenChain faults.ask options start ∧ after = start.withChain none) := by
  obtain ⟨added,distinct,absent,left⟩ := attempt_failed lawful settled expected failed
  have back (chain : Option String) := @rollback_added _ tools faults lawful _ _ (List.nodup_reverse.mpr distinct)
    (fun artifact member => absent artifact (List.mem_reverse.mp member)) chain
  simp only [installed_reverse,List.map_reverse] at back
  rcases left with ⟨actions,host⟩ | ⟨cause,actions,text,host⟩
  · rw [actions,host] at undone
    exact .inl ((back start.chain).1 after undone)
  · rw [actions,host,List.reverse_concat,rollbackRouterApply,undoing_createdChain] at undone
    obtain ⟨success,removed⟩ := lawful.chainDeleted ((installed tools added start).withChain (some text)) text rfl
    cases failing : faults.undo .deleteChain with
    | some fault =>
      obtain ⟨stopped,refused⟩ := runRequired_fault tools (Option.some_ne_none fault) .deleteChain
        ((installed tools added start).withChain (some text))
      simp only [failing,refused] at undone
      cases undone
    | none =>
      simp only [failing,runRequired_done success,removed,Host.withChain_withChain] at undone
      have restored := (back none).1 after undone
      rcases cause with none | unseen
      · left
        rw [restored,← none,Host.withChain_self]
      · exact .inr ⟨unseen,restored⟩

theorem Permitted.settles (lawful : tools.Lawful) {status : TakeoverStatus} (permitted : Permitted tools status options start) :
    (∀ artifact ∈ options.artifacts, Settled start artifact) ∧
      ∀ text, start.chain = some text → routerChainIsExpected text (some options) = true := by
  simp only [Permitted,permit,then_ok_iff,rejectHookCollisions,ensure_ok_iff,List.filter_eq_nil_iff,routerHooksStatus,
    List.forall_mem_append,List.forall_mem_map] at permitted
  obtain ⟨_,_,_,_,artifacts,chain⟩ := permitted
  constructor
  · intro artifact member
    by_cases absent : start.listing artifact = ""
    · exact .inl absent
    · refine .inr ?_
      have fine := artifacts artifact member
      rw [artifactStatus_present lawful absent] at fine
      by_contra foreign
      simp [foreign] at fine
  · intro text present
    have fine := chain _ List.mem_cons_self
    rw [chainStatus_present lawful present] at fine
    by_contra foreign
    simp [foreign] at fine

/-- Every rule fails; nothing else does but the given listings. -/
def failingRules (asked : Query → Option Fault) : Faults :=
  ⟨fun _ => none,asked,fun _ => none,fun _ => some (.failed "Error: Could not process rule: Cannot allocate memory"),fun _ => none⟩

theorem addRules_failing (tools : Tools ω) (asked : Query → Option Fault) {rules : List (List String)} (some : rules ≠ []) (host : Host ω) :
    ∃ error, addRules tools (failingRules asked) 0 rules host = (.error error,host) := by
  obtain ⟨rule,rest,rfl⟩ := List.exists_cons_of_ne_nil some
  obtain ⟨error,failed⟩ := runRequired_fault tools (Option.some_ne_none
    (Fault.failed "Error: Could not process rule: Cannot allocate memory")) (.addRule rule) host
  exact ⟨error,by simp only [addRules,failingRules,failed]⟩

/-- A chain whose listing fails is taken for a new one: it is deleted when a rule fails. -/
theorem unseen_loses_chain (lawful : tools.Lawful) {status : TakeoverStatus}
    (permitted : Permitted tools status options start) {asked : Query → Option Fault}
    (unseen : UnseenChain asked options start) :
    ∃ error, routerHooksApply tools (failingRules asked) status options start =
      (.error (.rolledBack error),start.withChain none) := by
  obtain ⟨present,failing,seen⟩ := unseen
  obtain ⟨text,present⟩ := Option.ne_none_iff_exists'.mp present
  have begin : Added tools start [] ⟨start,[]⟩ := ⟨rfl,by simp [installed],by simp,by simp⟩
  obtain ⟨⟨added,after⟩,_,through⟩ := @ensureAll_spec _ tools (failingRules asked) start lawful _ (artifacts_nodup options)
    (permitted.settles lawful).1 _ _ (fun _ _ => List.not_mem_nil) begin
  have through := through (fun _ => rfl) seen
  rcases steps : ensureAll tools (failingRules asked) options.artifacts ⟨start,[]⟩ with ⟨result,next⟩
  rw [steps] at after through
  dsimp only at after through
  subst through
  have here : next.host.chain = some text := by rw [after.host]; exact present
  obtain ⟨success,kept⟩ := lawful.chainKept next.host text here
  obtain ⟨error,failed⟩ := addRules_failing tools asked (routerRules_ne_nil options) next.host
  have attempted : attempt tools (failingRules asked) options start =
      (.error error,⟨next.host,next.actions ++ [createdChain]⟩) := by
    rw [attempt_eq,steps]
    simp only [andThen,ensureRouterChain]
    have hidden : ¬ chainStatus tools ((failingRules asked).ask .listChain) options next.host = .ready :=
      chainStatus_fault failing next.host
    rw [if_neg hidden]
    have made : runRequired tools ((failingRules asked).change .addChain) .addChain next.host = (.ok (),next.host) := by
      rw [show (failingRules asked).change .addChain = none from rfl,runRequired_done success,kept]
    simp only [made,failed]
  obtain ⟨removed,gone⟩ := lawful.chainDeleted next.host text here
  have deleted : runRequired tools ((failingRules asked).undo .deleteChain) .deleteChain next.host =
      (.ok (),next.host.withChain none) := by
    rw [show (failingRules asked).undo .deleteChain = none from rfl,runRequired_done removed,gone]
  obtain ⟨restores,succeeds⟩ := @rollback_added _ tools (failingRules asked) lawful _ _ (List.nodup_reverse.mpr after.distinct)
    (fun artifact member => after.absent artifact (List.mem_reverse.mp member)) none
  rw [installed_reverse,List.map_reverse,← after.actions,← after.host] at restores succeeds
  have undone : rollbackRouterApply tools (failingRules asked) (next.actions ++ [createdChain]).reverse next.host =
      (.ok (),start.withChain none) := by
    rw [List.reverse_concat,rollbackRouterApply,undoing_createdChain]
    simp only [deleted]
    have quiet := succeeds fun _ => rfl
    rcases back : rollbackRouterApply tools (failingRules asked) next.actions.reverse (next.host.withChain none) with ⟨result,last⟩
    rw [back] at quiet restores
    dsimp only at quiet
    subst quiet
    rw [restores last rfl]
  have checked : permit tools (failingRules asked).check status options start = .ok () := permitted
  refine ⟨error,?_⟩
  simp only [routerHooksApply,checked,attempted,undone]

/-- An apply that fails, and whose rollback does not, restores everything but, at worst, the
chain. -/
theorem apply_restores (lawful : tools.Lawful) {status : TakeoverStatus} (permitted : Permitted tools status options start)
    {error : ApplyError} {after : Host ω} (applied : routerHooksApply tools faults status options start = (.error error,after))
    (kept : ∀ fault rollback, error ≠ .rollbackFailed fault rollback) :
    after = start ∨ (UnseenChain faults.ask options start ∧ after = start.withChain none) := by
  obtain ⟨settled,expected⟩ := permitted.settles lawful
  unfold routerHooksApply at applied
  split at applied
  · cases applied
    exact .inl rfl
  · split at applied
    · cases applied
    · rename_i stopped progress failed
      split at applied
      · rename_i undone
        cases applied
        exact rollback_restores lawful settled expected failed undone
      · cases applied
        exact absurd rfl (kept _ _)

theorem apply_keeps_artifacts (lawful : tools.Lawful) {status : TakeoverStatus} (permitted : Permitted tools status options start)
    {error : ApplyError} {after : Host ω} (applied : routerHooksApply tools faults status options start = (.error error,after))
    (kept : ∀ fault rollback, error ≠ .rollbackFailed fault rollback) : after.listing = start.listing := by
  rcases apply_restores lawful permitted applied kept with rfl | ⟨_,rfl⟩
  · rfl
  · rfl

/-- The apply is atomic under every failure of its commands exactly if no failing listing
hides the chain. -/
theorem apply_atomic_iff (lawful : tools.Lawful) (status : TakeoverStatus) (options : RouterHookOptions) (start : Host ω)
    (permitted : Permitted tools status options start) (asked : Query → Option Fault) :
    (∀ faults : Faults, faults.ask = asked → Atomic tools faults status options start) ↔ ¬ UnseenChain asked options start := by
  constructor
  · intro atomic unseen
    obtain ⟨error,applied⟩ := unseen_loses_chain lawful permitted unseen
    have same := atomic (failingRules asked) rfl _ _ applied (fun _ _ => by simp)
    exact unseen.1 (congrArg Host.chain same).symm
  · rintro seen faults rfl error after applied kept
    exact (apply_restores lawful permitted applied kept).resolve_right fun lost => seen lost.1

end Steps

section Sample

def sampleEntry : Artifact → String
  | .route _ => "default dev dynet0 scope link"
  | .rule _ => "10000:\tfrom all fwmark 0x40000000/0x40000000 lookup 51880"

def sampleAnswer : Query → Host Unit → CommandOutput
  | .linkShow _, _ => ⟨true,"3: eth1: <UP>",""⟩
  | .listArtifact (.route family), host =>
    let text := host.listing (.route family)
    if text = "" then ⟨false,"","Error: FIB table does not exist. Dump terminated"⟩ else ⟨true,text,""⟩
  | .listArtifact (.rule family), host => ⟨true,host.listing (.rule family),""⟩
  | .listChain, host => match host.chain with
    | none => ⟨false,"","Error: No such file or directory"⟩
    | some text => ⟨true,text,""⟩

def samplePerform : Change → Host Unit → CommandOutput × Host Unit
  | .add artifact, host =>
    if host.listing artifact = "" then (⟨true,"",""⟩,host.put artifact (sampleEntry artifact))
    else (⟨false,"","RTNETLINK answers: File exists"⟩,host)
  | .delete artifact, host =>
    if host.listing artifact = sampleEntry artifact then (⟨true,"",""⟩,host.put artifact "")
    else (⟨false,"","RTNETLINK answers: No such process"⟩,host)
  | .addChain, host => match host.chain with
    | none => (⟨true,"",""⟩,host.withChain (some (listChain Router.head [])))
    | some _ => (⟨true,"",""⟩,host)
  | .addRule rule, host => match host.chain with
    | none => (⟨false,"","Error: No such file or directory"⟩,host)
    | some text => (⟨true,"",""⟩,host.withChain (some (text ++ "\n" ++ listedRule rule)))
  | .deleteChain, host => match host.chain with
    | none => (⟨false,"","Error: No such file or directory"⟩,host)
    | some _ => (⟨true,"",""⟩,host.withChain none)

def sampleTools : Tools Unit := ⟨sampleAnswer,samplePerform,sampleEntry⟩

theorem sampleTools_lawful : sampleTools.Lawful where
  listed artifact host present := by
    cases artifact
    · simp [sampleTools,sampleAnswer,present]
    · simp [sampleTools,sampleAnswer]
  unlisted artifact host absent := by
    cases artifact
    · simp [sampleTools,sampleAnswer,absent]
    · simp [sampleTools,sampleAnswer,absent]
  chainListed host text present := by simp [sampleTools,sampleAnswer,present]
  chainUnlisted host absent := by simp [sampleTools,sampleAnswer,absent]
  added artifact host absent := by simp [sampleTools,samplePerform,absent]
  exists_already artifact host owned := by simp [sampleTools,samplePerform,artifactOwned_some owned]
  deleted artifact host listed := by
    have entry : host.listing artifact = sampleEntry artifact := listed
    simp [sampleTools,samplePerform,entry]
  chainAdded host absent := by
    refine ⟨by simp [sampleTools,samplePerform,absent],listChain Router.head [],?_⟩
    simp [sampleTools,samplePerform,absent]
  chainKept host text present := by simp [sampleTools,samplePerform,present]
  ruleAdded rule host text present := ⟨text ++ "\n" ++ listedRule rule,by simp [sampleTools,samplePerform,present]⟩
  chainDeleted host text present := by simp [sampleTools,samplePerform,present]

def sampleOptions : RouterHookOptions := ⟨⟨"eth1",["192.168.20.12/32"],[]⟩,false⟩

def appliedHost : Host Unit :=
  ⟨fun artifact => if artifact ∈ sampleOptions.artifacts then sampleEntry artifact else "",
    some (routerListing sampleOptions),()⟩

theorem appliedHost_permitted : Permitted sampleTools ⟨[],[]⟩ sampleOptions appliedHost := by
  have valid : sampleOptions.validate = .ok () := by decide +kernel
  have artifacts : ∀ artifact ∈ sampleOptions.artifacts,
      artifactStatus sampleTools none artifact appliedHost ≠ .invalidHardFail := by decide +kernel
  have expected : routerChainIsExpected (routerListing sampleOptions) (some sampleOptions) = true :=
    (router_ready_iff (validate_plainUse valid) (validate_plainUse valid)).mpr (by decide +kernel)
  have chain : chainStatus sampleTools none sampleOptions appliedHost = .ready := by
    rw [chainStatus_present sampleTools_lawful (show appliedHost.chain = some (routerListing sampleOptions) from rfl),if_pos expected]
  simp only [Permitted,permit,then_ok_iff,rejectHookCollisions,ensure_ok_iff,List.filter_eq_nil_iff,routerHooksStatus,
    List.forall_mem_append,List.forall_mem_map]
  refine ⟨valid,rfl,rfl,rfl,fun artifact member => by simpa using artifacts artifact member,?_⟩
  simp [chain]

theorem appliedHost_atomic_iff : (∀ faults : Faults, faults.ask = (fun _ => none) →
      Atomic sampleTools faults ⟨[],[]⟩ sampleOptions appliedHost) ↔
    ¬ UnseenChain (fun _ => none) sampleOptions appliedHost :=
  apply_atomic_iff sampleTools_lawful ⟨[],[]⟩ sampleOptions appliedHost appliedHost_permitted (fun _ => none)

/-- The listing of the chain cannot be started. -/
def busyListing : Query → Option Fault
  | .listChain => some (.notStarted "failed running nft: Resource temporarily unavailable (os error 11)")
  | _ => none

theorem busyListing_loses_chain : sampleTools.Lawful ∧ Permitted sampleTools ⟨[],[]⟩ sampleOptions appliedHost ∧
    ¬ Atomic sampleTools (failingRules busyListing) ⟨[],[]⟩ sampleOptions appliedHost := by
  have unseen : UnseenChain busyListing sampleOptions appliedHost :=
    ⟨by simp [appliedHost],by simp [busyListing],fun _ _ _ => rfl⟩
  refine ⟨sampleTools_lawful,appliedHost_permitted,fun atomic => ?_⟩
  obtain ⟨error,applied⟩ := unseen_loses_chain sampleTools_lawful appliedHost_permitted unseen
  have same := atomic _ _ applied (fun _ _ => by simp)
  exact unseen.1 (congrArg Host.chain same).symm

end Sample

end Dynet.Capture
