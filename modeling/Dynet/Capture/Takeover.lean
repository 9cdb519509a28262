import Dynet.Lib.Script
import Dynet.Capture.RouterApply

/-! The takeover of a host: the fragments, the interface and the nft table that its apply
makes, and the cleanup that takes them away. -/
namespace Dynet.Capture
open Dynet.Lib Dynet.Lib.Text Dynet.Lib.Words

def fragmentOwnerMarker : String := "# dynet-owned: full-takeover"
def tableOwnerMarker : String := "dynet-owned: runtime-skeleton:v1"
def nftChains : List String := ["dynet_bypass","dynet_dns","dynet_tcp","dynet_udp"]

def nftChainOwnerMarker : String → String
  | "dynet_bypass" => "dynet-owned: runtime-bypass:v1"
  | "dynet_dns" => "dynet-owned: runtime-dns:v1"
  | "dynet_tcp" => "dynet-owned: runtime-tcp:v1"
  | "dynet_udp" => "dynet-owned: runtime-udp:v1"
  | _ => "dynet-owned: runtime-unknown:v1"

def nftChainId : String → String
  | "dynet_bypass" => "nft.chain.bypass"
  | "dynet_dns" => "nft.chain.dns"
  | "dynet_tcp" => "nft.chain.tcp"
  | "dynet_udp" => "nft.chain.udp"
  | _ => "nft.chain.unknown"

inductive Fragment where
  | sysctl | rtTables
  deriving DecidableEq, Repr

def Fragment.content : Fragment → String
  | .sysctl => join '\n' [fragmentOwnerMarker,
      "# Installed by dynet apply --auto. Loaded by sysctl tooling, not by writing global sysctl files.",
      "net.ipv4.ip_forward = 1","net.ipv4.conf.all.rp_filter = 0","net.ipv4.conf.default.rp_filter = 0",
      "net.ipv4.conf.dynet0.rp_filter = 0",""]
  | .rtTables => join '\n' [fragmentOwnerMarker,"51880 dynet",""]

/-- What is at a path; of anything else, why it cannot be read as text. -/
inductive Node where
  | absent
  | directory
  | file (content : String)
  | other (error : String)
  deriving DecidableEq, Repr

structure Interface where
  up : Bool
  addresses : List String
  deriving DecidableEq, Repr

/-- The table inet dynet with its comment, and its chains with theirs. -/
structure NftTable where
  comment : String
  chains : List (String × String)
  deriving DecidableEq, Repr

structure TakeoverPaths where
  carrier : Fragment → String
  fragment : Fragment → String
  tunDevice : String

inductive TakeoverQuery where
  | tuntapShow | tunUp | tunExists | listTable
  | listChain (chain : String)
  deriving DecidableEq, Repr

inductive TakeoverChange where
  | tuntapAdd | linkUp | linkDelete | loadSysctl | addTable | deleteTable
  | addChain (chain : String)
  deriving DecidableEq, Repr

def TakeoverQuery.command : TakeoverQuery → String × List String
  | .tuntapShow => ("ip",["tuntap","show"])
  | .tunUp => ("ip",["-br","link","show","dev",tunInterface,"up"])
  | .tunExists => ("ip",["link","show","dev",tunInterface])
  | .listTable => ("nft",["list","table",nftFamily,nftTable])
  | .listChain chain => ("nft",["list","chain",nftFamily,nftTable,chain])

def TakeoverChange.command (paths : TakeoverPaths) : TakeoverChange → String × List String
  | .tuntapAdd => ("ip",["tuntap","add","dev",tunInterface,"mode","tun"])
  | .linkUp => ("ip",["link","set","dev",tunInterface,"up"])
  | .linkDelete => ("ip",["link","delete","dev",tunInterface])
  | .loadSysctl => ("sysctl",["-p",paths.fragment .sysctl])
  | .addTable => ("nft",["add","table",nftFamily,nftTable,"\x7b","comment",quoted tableOwnerMarker ++ ";","\x7d"])
  | .deleteTable => ("nft",["delete","table",nftFamily,nftTable])
  | .addChain chain => ("nft",["add","chain",nftFamily,nftTable,chain,"\x7b","comment",
      quoted (nftChainOwnerMarker chain) ++ ";","\x7d"])

section Host
variable {ω : Type}

/-- The host: the directories of the fragments and the fragments, the device and the
commands it has, dynet0, the table, the routes and rules of dynet, and the rest. -/
structure TakeoverHost (ω : Type) where
  carrier : Fragment → Node
  fragment : Fragment → Node
  tunDevice : Bool
  commands : List String
  interface : Option Interface
  table : Option NftTable
  listing : Artifact → String
  rest : ω

namespace TakeoverHost

def withInterface (host : TakeoverHost ω) (interface : Option Interface) : TakeoverHost ω := { host with interface := interface }
def withTable (host : TakeoverHost ω) (table : Option NftTable) : TakeoverHost ω := { host with table := table }
def withRest (host : TakeoverHost ω) (rest : ω) : TakeoverHost ω := { host with rest := rest }
def putCarrier (host : TakeoverHost ω) (fragment : Fragment) (node : Node) : TakeoverHost ω :=
  { host with carrier := Function.update host.carrier fragment node }
def putFragment (host : TakeoverHost ω) (fragment : Fragment) (node : Node) : TakeoverHost ω :=
  { host with fragment := Function.update host.fragment fragment node }

end TakeoverHost

structure TakeoverTools (ω : Type) where
  answer : TakeoverQuery → TakeoverHost ω → CommandOutput
  perform : TakeoverChange → TakeoverHost ω → CommandOutput × TakeoverHost ω

/-- The documented behaviour of the commands for dynet0 and the table. -/
structure TakeoverTools.Lawful (tools : TakeoverTools ω) : Prop where
  upListed : ∀ (host : TakeoverHost ω) interface, host.interface = some interface → interface.up = true →
    (tools.answer .tunUp host).success = true ∧ (tools.answer .tunUp host).stdout ≠ ""
  upUnlisted : ∀ host : TakeoverHost ω, (∀ interface, host.interface = some interface → interface.up = false) →
    (tools.answer .tunUp host).success = false ∨ (tools.answer .tunUp host).stdout = ""
  unlinked : ∀ host : TakeoverHost ω, host.interface = none → (tools.answer .tunExists host).success = false
  tableListed : ∀ (host : TakeoverHost ω) table, host.table = some table →
    (tools.answer .listTable host).success = true ∧ contains (tools.answer .listTable host).stdout table.comment = true
  tableUnlisted : ∀ host : TakeoverHost ω, host.table = none → (tools.answer .listTable host).success = false
  chainUnlisted : ∀ chain (host : TakeoverHost ω), host.table = none → (tools.answer (.listChain chain) host).success = false
  tuntapAdded : ∀ host : TakeoverHost ω, host.interface = none → (tools.perform .tuntapAdd host).1.success = true ∧
    ∃ interface, interface.up = false ∧ (tools.perform .tuntapAdd host).2 = host.withInterface (some interface)
  raised : ∀ (host : TakeoverHost ω) interface, host.interface = some interface →
    (tools.perform .linkUp host).1.success = true ∧
      ∃ later, later.up = true ∧ (tools.perform .linkUp host).2 = host.withInterface (some later)
  unlinking : ∀ (host : TakeoverHost ω) interface, host.interface = some interface →
    (tools.perform .linkDelete host).1.success = true ∧ (tools.perform .linkDelete host).2 = host.withInterface none
  loaded : ∀ host : TakeoverHost ω, ∃ rest, (tools.perform .loadSysctl host).2 = host.withRest rest
  tableAdded : ∀ host : TakeoverHost ω, host.table = none → (tools.perform .addTable host).1.success = true ∧
    (tools.perform .addTable host).2 = host.withTable (some ⟨tableOwnerMarker,[]⟩)
  chainAdded : ∀ chain (host : TakeoverHost ω) table, host.table = some table →
    ∃ chains, (tools.perform (.addChain chain) host).2 = host.withTable (some ⟨table.comment,chains⟩)
  tableDeleted : ∀ (host : TakeoverHost ω) table, host.table = some table →
    (tools.perform .deleteTable host).1.success = true ∧ (tools.perform .deleteTable host).2 = host.withTable none

/-- A write that fails, and the text it has left in the file if it got that far. -/
structure WriteFault where
  error : String
  left : Option String
  deriving DecidableEq, Repr

/-- Which steps fail: the queries (asked before the first change, then once or twice where
they are needed), the changes, and the steps on the file system. -/
structure TakeoverFaults where
  ask : Nat → TakeoverQuery → Option Fault
  change : TakeoverChange → Option Fault
  create : Fragment → Option String
  read : Fragment → Option String
  write : Fragment → Option WriteFault
  remove : Fragment → Option String

def noFaults : TakeoverFaults :=
  ⟨fun _ _ => none,fun _ => none,fun _ => none,fun _ => none,fun _ => none,fun _ => none⟩

variable (tools : TakeoverTools ω) (faults : TakeoverFaults) (paths : TakeoverPaths)

def answered (fault : Option Fault) (query : TakeoverQuery) (host : TakeoverHost ω) : Except String CommandOutput :=
  match fault with
  | some fault => fault.output
  | none => .ok (tools.answer query host)

/-- `run_required`. -/
def require (change : TakeoverChange) : Script (TakeoverHost ω) Unit := .step fun host =>
  let (output,after) := match faults.change change with
    | some fault => (fault.output,host)
    | none => (.ok (tools.perform change host).1,(tools.perform change host).2)
  match output with
  | .error error => (.error error,after)
  | .ok output =>
    if output.success then (.ok (),after)
    else
      let (program,args) := change.command paths
      let joined := join ' ' args
      let stderr := output.stderr
      (.error s!"{program} {joined} failed: {stderr}",after)

section Checks

def directoryAutoCheck (id path : String) (node : Node) : TakeoverCheck :=
  ⟨id,some path,match node with
    | .directory => .ready
    | .absent => .missingAutoCreatable
    | _ => .invalidHardFail⟩

def fragmentCheck (id path : String) (node : Node) : TakeoverCheck :=
  ⟨id,some path,match node with
    | .file _ => .ready
    | .absent => .missingAutoCreatable
    | _ => .invalidHardFail⟩

def deviceCheck (id path : String) (found : Bool) : TakeoverCheck := ⟨id,some path,if found then .ready else .missingHardFail⟩

def commandCheck (id command : String) (commands : List String) : TakeoverCheck :=
  ⟨id,none,if command ∈ commands then .ready else .missingHardFail⟩

def tuntapCapabilityCheck (output : Except String CommandOutput) : TakeoverCheck :=
  ⟨"ip.tuntap-capability",none,match output with
    | .ok output => if output.success then .ready else .missingHardFail
    | .error _ => .missingHardFail⟩

/-- `doctor_with_runner`. -/
def doctor (fault : Option Fault) (host : TakeoverHost ω) : List TakeoverCheck :=
  [directoryAutoCheck "sysctl.d" (paths.carrier .sysctl) (host.carrier .sysctl),
    fragmentCheck "sysctl.fragment" (paths.fragment .sysctl) (host.fragment .sysctl),
    directoryAutoCheck "rt_tables.d" (paths.carrier .rtTables) (host.carrier .rtTables),
    fragmentCheck "rt_tables.fragment" (paths.fragment .rtTables) (host.fragment .rtTables),
    deviceCheck "tun.device" paths.tunDevice host.tunDevice,
    commandCheck "ip.command" "ip" host.commands,
    commandCheck "nft.command" "nft" host.commands,
    commandCheck "sysctl.command" "sysctl" host.commands,
    tuntapCapabilityCheck (answered tools fault .tuntapShow host)]

def tunStatus (output : Except String CommandOutput) : CheckState :=
  match output with
  | .ok output => if output.success && output.stdout != "" then .ready else .missingAutoCreatable
  | .error _ => .missingHardFail

/-- The state of a command that succeeds if what it asks for is there. -/
def runtimeCommandCheck (output : Except String CommandOutput) : CheckState :=
  match output with
  | .ok output => if output.success then .ready else .missingAutoCreatable
  | .error _ => .missingHardFail

def ownedNftCheck (output : Except String CommandOutput) (ownerMarker : String) : CheckState :=
  match output with
  | .ok output => if output.success && contains output.stdout ownerMarker then .ready
      else if output.success then .invalidHardFail else .missingAutoCreatable
  | .error _ => .missingHardFail

/-- The state that the `round`-th asking finds. -/
def tunState (round : Nat) (host : TakeoverHost ω) : CheckState := tunStatus (answered tools (faults.ask round .tunUp) .tunUp host)
def tunExistsState (round : Nat) (host : TakeoverHost ω) : CheckState :=
  runtimeCommandCheck (answered tools (faults.ask round .tunExists) .tunExists host)
def tableState (round : Nat) (host : TakeoverHost ω) : CheckState :=
  ownedNftCheck (answered tools (faults.ask round .listTable) .listTable host) tableOwnerMarker
def chainStateOf (round : Nat) (chain : String) (host : TakeoverHost ω) : CheckState :=
  ownedNftCheck (answered tools (faults.ask round (.listChain chain)) (.listChain chain) host) (nftChainOwnerMarker chain)

/-- The runtime checks of `status_with_runner`. -/
def runtimeChecks (host : TakeoverHost ω) : List TakeoverCheck :=
  [⟨"tun.interface",none,tunState tools faults 0 host⟩,⟨"nft.table",none,tableState tools faults 0 host⟩] ++
    nftChains.map fun chain => ⟨nftChainId chain,none,chainStateOf tools faults 0 chain host⟩

end Checks

section Steps

def ensureDirectory (fragment : Fragment) : Script (TakeoverHost ω) (List String) := .step fun host =>
  let path := paths.carrier fragment
  match host.carrier fragment with
  | .directory => (.ok [],host)
  | .absent => match faults.create fragment with
    | some error => (.error s!"failed creating {path}: {error}",host)
    | none => (.ok [path],host.putCarrier fragment .directory)
  | _ => (.error s!"{path} exists but is not a directory; refusing to overwrite",host)

/-- `fs::read_to_string` of what is there. -/
def readText (fault : Option String) : Node → Except String String
  | .file content => match fault with
    | some error => .error error
    | none => .ok content
  | .other error => .error error
  | .directory => .error "Is a directory (os error 21)"
  | .absent => .error "No such file or directory (os error 2)"

def writeFragment (fragment : Fragment) : Script (TakeoverHost ω) (List String) := .step fun host =>
  let path := paths.fragment fragment
  match faults.write fragment with
  | none => (.ok [path],host.putFragment fragment (.file fragment.content))
  | some fault =>
    let error := fault.error
    (.error s!"failed writing {path}: {error}",match fault.left with
      | none => host
      | some text => host.putFragment fragment (.file text))

def ensureFragment (fragment : Fragment) : Script (TakeoverHost ω) (List String) := do
  let path := paths.fragment fragment
  let node ← .reads fun host => host.fragment fragment
  if node = .absent then writeFragment faults paths fragment
  else
    match readText (faults.read fragment) node with
    | .error error => throw s!"failed reading {path}: {error}"
    | .ok existing =>
      if contains existing fragmentOwnerMarker = false then
        throw s!"{path} exists but is not dynet-owned; refusing to overwrite"
      else if existing = fragment.content then pure []
      else writeFragment faults paths fragment

def removeOwnedFragment (fragment : Fragment) : Script (TakeoverHost ω) (List String) := do
  let path := paths.fragment fragment
  let node ← .reads fun host => host.fragment fragment
  if node = .absent then pure []
  else
    match readText (faults.read fragment) node with
    | .error error => throw s!"failed reading {path}: {error}"
    | .ok content =>
      if contains content fragmentOwnerMarker then
        .step fun host => match faults.remove fragment with
          | some error => (.error s!"failed removing {path}: {error}",host)
          | none => (.ok [path],host.putFragment fragment .absent)
      else throw s!"{path} exists but is not dynet-owned; refusing to remove"

def ensureTun : Script (TakeoverHost ω) (List String) := do
  let state ← .reads (tunState tools faults 1)
  if state = .ready then pure []
  else
    let present ← .reads (tunExistsState tools faults 1)
    let created ← if present = .ready then pure [] else do
      require tools faults paths .tuntapAdd
      pure ["created TUN interface dynet0"]
    require tools faults paths .linkUp
    pure (created ++ ["set dynet0 up"])

def ensureSysctlLoaded : Script (TakeoverHost ω) (List String) := do
  require tools faults paths .loadSysctl
  pure ["loaded dynet sysctl fragment " ++ paths.fragment .sysctl]

def ensureNftTable : Script (TakeoverHost ω) (List String) := do
  let state ← .reads (tableState tools faults 1)
  if state = .ready then pure []
  else
    let again ← .reads (tableState tools faults 2)
    Script.check (again ≠ .invalidHardFail) "inet dynet exists without the dynet runtime owner marker"
    require tools faults paths .addTable
    pure ["created nft table inet dynet"]

def ensureNftChain (chain : String) : Script (TakeoverHost ω) (List String) := do
  let state ← .reads (chainStateOf tools faults 1 chain)
  if state = .ready then pure []
  else
    let again ← .reads (chainStateOf tools faults 2 chain)
    Script.check (again ≠ .invalidHardFail) ("inet dynet " ++ chain ++ " exists without its dynet owner marker")
    require tools faults paths (.addChain chain)
    pure ["created nft chain inet dynet " ++ chain]

/-- The loop of `ensure_nft_chains`. -/
def ensureNftChains : List String → Script (TakeoverHost ω) (List String)
  | [] => pure []
  | chain::rest => do
    let first ← ensureNftChain tools faults paths chain
    let later ← ensureNftChains rest
    pure (first ++ later)

def deleteTun : Script (TakeoverHost ω) (List String) := do
  let state ← .reads (tunState tools faults 0)
  if state ≠ .ready then pure []
  else
    require tools faults paths .linkDelete
    pure ["deleted TUN interface dynet0"]

def deleteNftTable : Script (TakeoverHost ω) (List String) := do
  let state ← .reads (tableState tools faults 0)
  if state ≠ .ready then
    let again ← .reads (tableState tools faults 1)
    Script.check (again ≠ .invalidHardFail) "inet dynet exists without the dynet runtime owner marker; refusing cleanup"
    pure []
  else
    require tools faults paths .deleteTable
    pure ["deleted nft table inet dynet"]

end Steps

/-- The checks of `apply_with_runner`. -/
def checkTakeover (auto : Bool) : Script (TakeoverHost ω) Unit := do
  let before ← .reads (doctor tools paths (faults.ask 0 .tuntapShow))
  Script.check (before.any TakeoverCheck.isHardFailure = false) (failureSummary before)
  Script.check (auto = true ∨ before.any (·.state == .missingAutoCreatable) = false)
    "dynet takeover requires --auto to create isolated fragments"
  let collisions ← .reads fun host => (runtimeChecks tools faults host).filter (·.state == .invalidHardFail)
  Script.check (collisions = [])
    ("dynet runtime skeleton found foreign or drifted artifacts and refuses to overwrite them: " ++ summaries collisions)

def ensureFragments : Script (TakeoverHost ω) (List String) := do
  let sysctlDir ← ensureDirectory faults paths .sysctl
  let rtTablesDir ← ensureDirectory faults paths .rtTables
  let sysctl ← ensureFragment faults paths .sysctl
  let rtTables ← ensureFragment faults paths .rtTables
  pure (sysctlDir ++ rtTablesDir ++ sysctl ++ rtTables)

def ensureSkeleton : Script (TakeoverHost ω) (List String) := do
  let loaded ← ensureSysctlLoaded tools faults paths
  let table ← ensureNftTable tools faults paths
  let chains ← ensureNftChains tools faults paths nftChains
  pure (loaded ++ table ++ chains)

/-- `apply_with_runner`: the created paths and the runtime actions. -/
def takeoverApply (auto : Bool) : Script (TakeoverHost ω) (List String × List String) := do
  checkTakeover tools faults paths auto
  if auto = false then pure ([],[])
  else
    let created ← ensureFragments faults paths
    let tun ← ensureTun tools faults paths
    let skeleton ← ensureSkeleton tools faults paths
    pure (created,tun ++ skeleton)

/-- `cleanup_with_runner`: the removed paths and the runtime actions. -/
def takeoverCleanup : Script (TakeoverHost ω) (List String × List String) := do
  let table ← deleteNftTable tools faults paths
  let tun ← deleteTun tools faults paths
  let sysctl ← removeOwnedFragment faults paths .sysctl
  let rtTables ← removeOwnedFragment faults paths .rtTables
  pure (sysctl ++ rtTables,table ++ tun)

/-- Nothing of dynet's is on the host but, at worst, fragments. -/
structure Free (host : TakeoverHost ω) : Prop where
  interface : host.interface = none
  table : host.table = none
  listing : ∀ artifact, host.listing artifact = ""

/-- After the apply, however it ended, a cleanup without failures leaves nothing. -/
def CleansUp (auto : Bool) (host : TakeoverHost ω) : Prop :=
  let left := ((takeoverApply tools faults paths auto).exec host).2
  Free ((takeoverCleanup tools noFaults paths).exec left).2

/-- The directory of a fragment is there or can be made. -/
def CarrierPasses (host : TakeoverHost ω) (fragment : Fragment) : Prop :=
  host.carrier fragment = .directory ∨ host.carrier fragment = .absent ∧ faults.create fragment = none

/-- The fragment is dynet's and up to date, or it can be written. -/
def FragmentPasses (host : TakeoverHost ω) (fragment : Fragment) : Prop :=
  match host.fragment fragment with
  | .absent => faults.write fragment = none
  | .file existing => faults.read fragment = none ∧ contains existing fragmentOwnerMarker = true ∧
      (existing = fragment.content ∨ faults.write fragment = none)
  | _ => False

/-- The apply gets as far as making dynet0, and the command that brings it up fails. -/
def Stranded (auto : Bool) (host : TakeoverHost ω) : Prop :=
  auto = true ∧ (doctor tools paths (faults.ask 0 .tuntapShow) host).any TakeoverCheck.isHardFailure = false ∧
    (∀ fragment, CarrierPasses faults host fragment) ∧ (∀ fragment, FragmentPasses faults host fragment) ∧
    faults.change .tuntapAdd = none ∧ faults.change .linkUp ≠ none

end Host

end Dynet.Capture
