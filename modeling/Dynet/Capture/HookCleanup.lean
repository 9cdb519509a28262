import Dynet.Capture.OutputApply
import Dynet.Lib.Script

/-! Taking the hooks back: the output chain and the router chain stand on the same routes and
rules, and the cleanup of one hook leaves these to the other. -/
namespace Dynet.Capture
open Dynet.Lib Dynet.Lib.Checks Dynet.Lib.Text Dynet.Lib.Words
open Script (Leads)

section Host
variable {ω : Type}

/-- The rule of former versions, as its listing prints it, stands beside the rest. -/
structure Legacy (ω : Type) where
  rule : String
  rest : ω

abbrev HookHost (ω : Type) := OutputHost (Legacy ω)

def Host.legacy (host : HookHost ω) : String := host.rest.rest.rule

def Host.withLegacy (host : HookHost ω) (rule : String) : HookHost ω :=
  { host with rest := { host.rest with rest := { host.rest.rest with rule := rule } } }

/-- Whether dynet takes what `ip` lists for its former rule. -/
def legacyOwned (stdout : String) : Bool :=
  (lines stdout).length == 1 && contains stdout "fwmark 0x51880" &&
    (contains stdout "lookup dynet" || contains stdout "lookup 51880")

/-- The programs with their commands for a cleanup. -/
structure CleanupTools (ω : Type) extends OutputTools (Legacy ω) where
  deleteOutputChain : HookHost ω → CommandOutput × HookHost ω
  listLegacy : HookHost ω → CommandOutput
  deleteLegacy : HookHost ω → CommandOutput × HookHost ω

/-- What is documented of them besides: a deletion takes away what it names or, if it is
refused, nothing. -/
structure CleanupTools.Lawful (tools : CleanupTools ω) : Prop extends toOutputLawful : tools.toOutputTools.Lawful where
  ownedDeleted : ∀ artifact (host : HookHost ω), artifactOwned artifact (host.listing artifact) = true →
    (tools.perform (.delete artifact) host).2 =
      if (tools.perform (.delete artifact) host).1.success then host.put artifact "" else host
  outputDeleted : ∀ (host : HookHost ω) chain, host.rest.output = some chain →
    (tools.deleteOutputChain host).1.success = true ∧ (tools.deleteOutputChain host).2 = host.withOutput none
  legacyListed : ∀ host : HookHost ω, host.legacy ≠ "" →
    (tools.listLegacy host).success = true ∧ (tools.listLegacy host).stdout = host.legacy
  legacyUnlisted : ∀ host : HookHost ω, host.legacy = "" →
    (tools.listLegacy host).success = false ∨ (tools.listLegacy host).stdout = ""
  legacyDeleted : ∀ host : HookHost ω, legacyOwned host.legacy = true →
    (tools.deleteLegacy host).2 = if (tools.deleteLegacy host).1.success then host.withLegacy "" else host

/-- Which commands of an apply or a cleanup fail. -/
structure CleanupFaults extends OutputFaults where
  checkLegacy : Option Fault
  askLegacy : Option Fault
  deleteOutput : Option Fault
  deleteLegacy : Option Fault

variable (tools : CleanupTools ω) (faults : CleanupFaults)

/-- `run_required` for a command that the host's parts beside the families are for. -/
def requireDelete (fault : Option Fault) (program : String) (args : List String)
    (perform : HookHost ω → CommandOutput × HookHost ω) : Script (HookHost ω) Unit := .step fun host =>
  let (output,after) := match fault with
    | some fault => (fault.output,host)
    | none => (.ok (perform host).1,(perform host).2)
  match output with
  | .error error => (.error error,after)
  | .ok output =>
    if output.success then (.ok (),after)
    else
      let joined := join ' ' args
      let stderr := output.stderr
      (.error s!"{program} {joined} failed: {stderr}",after)

/-- `router_chain_status` for any options. -/
def routerStatus (fault : Option Fault) (host : HookHost ω) : CheckState :=
  routerChainStatus (ask tools.toTools fault .listChain host) none

def legacyRuleStatus (fault : Option Fault) (host : HookHost ω) : CheckState :=
  let output := match fault with
    | some fault => fault.output
    | none => .ok (tools.listLegacy host)
  ownedCommandCheck output legacyOwned

def deletedArtifact : Artifact → String
  | .route family => "deleted " ++ family.label ++ " route table " ++ routeTable ++ " default dev " ++ tunInterface
  | .rule family => "deleted " ++ family.label ++ " fwmark " ++ markWithMask ++ " policy rule pref " ++ rulePriority

/-- The deletions have one form: nothing is done unless the status is ready. -/
def deleteReady (status : HookHost ω → CheckState) (delete : Script (HookHost ω) Unit) (action : String) :
    Script (HookHost ω) (List String) := do
  let state ← .reads status
  if state ≠ .ready then pure []
  else
    delete
    pure [action]

/-- `delete_family_rule` and `delete_family_route`. -/
def deleteArtifact (artifact : Artifact) : Script (HookHost ω) (List String) :=
  deleteReady (artifactStatus tools.toTools (faults.ask (.listArtifact artifact)) artifact)
    (.step (runRequired tools.toTools (faults.change (.delete artifact)) (.delete artifact))) (deletedArtifact artifact)

def deleteFamilyHooks (family : IpVersion) : Script (HookHost ω) (List String) := do
  let rule ← deleteArtifact tools faults (.rule family)
  let route ← deleteArtifact tools faults (.route family)
  pure (rule ++ route)

def deleteOutputChain : Script (HookHost ω) (List String) :=
  deleteReady (outputChainStatus tools.toOutputTools faults.askOutput none)
    (requireDelete faults.deleteOutput "nft" ["delete","chain",nftFamily,nftTable,Output.chain] tools.deleteOutputChain)
    "deleted owned nft output hook inet dynet dynet_output"

def deleteRouterChain : Script (HookHost ω) (List String) :=
  deleteReady (routerStatus tools (faults.ask .listChain))
    (.step (runRequired tools.toTools (faults.change .deleteChain) .deleteChain))
    "deleted owned nft router ingress hook inet dynet dynet_router_ingress"

def deleteLegacyRule : Script (HookHost ω) (List String) :=
  deleteReady (legacyRuleStatus tools faults.askLegacy)
    (requireDelete faults.deleteLegacy "ip" ["rule","del","pref","51880","fwmark","0x51880","lookup",routeTable]
      tools.deleteLegacy)
    "deleted legacy fwmark 0x51880 policy rule pref 51880"

/-- The routes and rules of both families go unless the other hook is ready. -/
def deleteShared (other : HookHost ω → CheckState) : Script (HookHost ω) (List String) := do
  let shared ← .reads other
  if shared ≠ .ready then
    let v6 ← deleteFamilyHooks tools faults .v6
    let v4 ← deleteFamilyHooks tools faults .v4
    pure (v6 ++ v4)
  else pure []

/-- The two cleanups: the checks, the hook's own chain, what the hooks share, and the former
rule. -/
def cleanupHook (checks : HookHost ω → List TakeoverCheck) (deleteChain : Script (HookHost ω) (List String))
    (other : HookHost ω → CheckState) : Script (HookHost ω) (List String) := do
  Script.tries fun host => rejectHookCollisions (checks host)
  let chain ← deleteChain
  let families ← deleteShared tools faults other
  let legacy ← deleteLegacyRule tools faults
  pure (chain ++ families ++ legacy)

def outputCheck (host : HookHost ω) : TakeoverCheck :=
  ⟨"nft.chain.output",none,outputChainStatus tools.toOutputTools faults.checkOutput none host⟩

def routerCheck (host : HookHost ω) : TakeoverCheck :=
  ⟨"nft.chain.router-ingress",none,routerStatus tools (faults.check .listChain) host⟩

/-- What `reject_cleanup_collisions` looks at. -/
def cleanupChecks (host : HookHost ω) : List TakeoverCheck :=
  (familyArtifacts .v4 ++ familyArtifacts .v6).map (fun artifact =>
    ⟨artifact.checkId,none,artifactStatus tools.toTools (faults.check (.listArtifact artifact)) artifact host⟩) ++
  [outputCheck tools faults host,routerCheck tools faults host,
    ⟨"route.rule.mark.legacy",none,legacyRuleStatus tools faults.checkLegacy host⟩]

/-- `hooks_cleanup_with_runner`. -/
def hooksCleanup : Script (HookHost ω) (List String) :=
  cleanupHook tools faults (cleanupChecks tools faults) (deleteOutputChain tools faults)
    (routerStatus tools (faults.ask .listChain))

/-- `router_hooks_cleanup_with`. -/
def routerHooksCleanup : Script (HookHost ω) (List String) :=
  cleanupHook tools faults (fun host => [routerCheck tools faults host,outputCheck tools faults host])
    (deleteRouterChain tools faults) (outputChainStatus tools.toOutputTools faults.askOutput none)

end Host

end Dynet.Capture
