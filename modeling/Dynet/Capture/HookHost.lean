import Dynet.Capture.RouterIngress
import Mathlib.Logic.Function.Basic

/-! The host that the router hook is applied to: the routes, rules and the nft chain that
dynet may add to it, and the commands that list and change them. -/
namespace Dynet.Capture
open Dynet.Lib Dynet.Lib.Text Dynet.Lib.Words

/-- What dynet adds for an address family: a route in its table and a policy rule. -/
inductive Artifact where
  | route (family : IpVersion)
  | rule (family : IpVersion)
  deriving DecidableEq, Repr

/-- Commands that only read. -/
inductive Query where
  | linkShow (interface : String)
  | listArtifact (artifact : Artifact)
  | listChain
  deriving DecidableEq, Repr

inductive Change where
  | add (artifact : Artifact)
  | delete (artifact : Artifact)
  | addChain
  | addRule (rule : List String)
  | deleteChain
  deriving DecidableEq, Repr

def IpVersion.flag : IpVersion → String
  | .v4 => "-4"
  | .v6 => "-6"

def IpVersion.label : IpVersion → String
  | .v4 => "IPv4"
  | .v6 => "IPv6"

def markWithMask : String := "0x40000000/0x40000000"
def rulePriority : String := "10000"
def tunInterface : String := "dynet0"
def routeTable : String := "51880"

def Query.command : Query → String × List String
  | .linkShow interface => ("ip",["link","show","dev",interface])
  | .listArtifact (.route family) => ("ip",[family.flag,"route","show","table",routeTable])
  | .listArtifact (.rule family) => ("ip",[family.flag,"rule","show","pref",rulePriority])
  | .listChain => ("nft",["list","chain",nftFamily,nftTable,Router.chain])

def Change.command : Change → String × List String
  | .add (.route family) => ("ip",[family.flag,"route","add","default","dev",tunInterface,"table",routeTable])
  | .add (.rule family) =>
    ("ip",[family.flag,"rule","add","pref",rulePriority,"fwmark",markWithMask,"lookup",routeTable])
  | .delete (.route family) => ("ip",[family.flag,"route","del","default","dev",tunInterface,"table",routeTable])
  | .delete (.rule family) =>
    ("ip",[family.flag,"rule","del","pref",rulePriority,"fwmark",markWithMask,"lookup",routeTable])
  | .addChain => ("nft",["add","chain",nftFamily,nftTable,Router.chain,"\x7b","type","filter","hook","prerouting",
      "priority","-151;","policy","accept;","comment",quoted Router.ownerMarker ++ ";","\x7d"])
  | .addRule rule => ("nft",nftRule Router.chain rule)
  | .deleteChain => ("nft",["delete","chain",nftFamily,nftTable,Router.chain])

section Host
variable {ω : Type}

/-- The host, as the queries show it: what each artifact's listing prints (nothing if it
is absent), the text of the router chain, and the rest, which no command of the hook
touches. -/
structure Host (ω : Type) where
  listing : Artifact → String
  chain : Option String
  rest : ω

namespace Host

def put (host : Host ω) (artifact : Artifact) (text : String) : Host ω :=
  { host with listing := Function.update host.listing artifact text }

def withChain (host : Host ω) (chain : Option String) : Host ω := { host with chain := chain }

@[simp] theorem withChain_listing (host : Host ω) (chain : Option String) : (host.withChain chain).listing = host.listing := rfl
@[simp] theorem withChain_chain (host : Host ω) (chain : Option String) : (host.withChain chain).chain = chain := rfl
@[simp] theorem put_chain (host : Host ω) (artifact : Artifact) (text : String) : (host.put artifact text).chain = host.chain := rfl
@[simp] theorem withChain_withChain (host : Host ω) (first second : Option String) :
    (host.withChain first).withChain second = host.withChain second := rfl
@[simp] theorem withChain_self (host : Host ω) : host.withChain host.chain = host := rfl

end Host

/-- Whether dynet takes what `ip` lists for its own. -/
def artifactOwned : Artifact → String → Bool
  | .route _, stdout => match lines stdout with
    | [line] => startsWith line "default dev dynet0"
    | _ => false
  | .rule _, stdout => (lines stdout).length == 1 && contains stdout ("fwmark " ++ markWithMask) &&
      (contains stdout "lookup dynet" || contains stdout "lookup 51880")

/-- The programs `ip` and `nft`: what they answer and what they do when they run. `entry`
is how the listing shows an artifact that dynet has added. -/
structure Tools (ω : Type) where
  answer : Query → Host ω → CommandOutput
  perform : Change → Host ω → CommandOutput × Host ω
  entry : Artifact → String

/-- The documented behaviour of the programs: a listing shows what is there, `add` refuses
what is there already, `delete` takes back what `add` has added, and `nft add chain`, in
contrast to `nft create chain`, accepts a chain that exists. -/
structure Tools.Lawful (tools : Tools ω) : Prop where
  listed : ∀ artifact (host : Host ω), host.listing artifact ≠ "" →
    (tools.answer (.listArtifact artifact) host).success = true ∧
      (tools.answer (.listArtifact artifact) host).stdout = host.listing artifact
  unlisted : ∀ artifact (host : Host ω), host.listing artifact = "" →
    (tools.answer (.listArtifact artifact) host).success = false ∨ (tools.answer (.listArtifact artifact) host).stdout = ""
  chainListed : ∀ (host : Host ω) text, host.chain = some text →
    (tools.answer .listChain host).success = true ∧ (tools.answer .listChain host).stdout = text
  chainUnlisted : ∀ (host : Host ω), host.chain = none → (tools.answer .listChain host).success = false
  added : ∀ artifact (host : Host ω), host.listing artifact = "" →
    (tools.perform (.add artifact) host).1.success = true ∧
      (tools.perform (.add artifact) host).2 = host.put artifact (tools.entry artifact)
  -- What is taken for dynet's has the destination, or the preference, mark and table, that
  -- `add` asks for, and the kernel refuses a second one like it. Attributes that dynet never
  -- sets, such as a metric, would make it another one; no listed entry is taken to have them.
  exists_already : ∀ artifact (host : Host ω), artifactOwned artifact (host.listing artifact) = true →
    (tools.perform (.add artifact) host).1.success = false ∧ (tools.perform (.add artifact) host).2 = host
  deleted : ∀ artifact (host : Host ω), host.listing artifact = tools.entry artifact →
    (tools.perform (.delete artifact) host).1.success = true ∧ (tools.perform (.delete artifact) host).2 = host.put artifact ""
  chainAdded : ∀ (host : Host ω), host.chain = none → (tools.perform .addChain host).1.success = true ∧
    ∃ text, (tools.perform .addChain host).2 = host.withChain (some text)
  chainKept : ∀ (host : Host ω) text, host.chain = some text →
    (tools.perform .addChain host).1.success = true ∧ (tools.perform .addChain host).2 = host
  ruleAdded : ∀ rule (host : Host ω) text, host.chain = some text →
    ∃ longer, (tools.perform (.addRule rule) host).2 = host.withChain (some longer)
  chainDeleted : ∀ (host : Host ω) text, host.chain = some text →
    (tools.perform .deleteChain host).1.success = true ∧ (tools.perform .deleteChain host).2 = host.withChain none

/-- How a command can fail on its own account. -/
inductive Fault where
  | notStarted (error : String)
  | failed (stderr : String)
  deriving DecidableEq, Repr

def Fault.output : Fault → Except String CommandOutput
  | .notStarted error => .error error
  | .failed stderr => .ok ⟨false,"",stderr⟩

/-- Which commands of an apply fail: the checks before it, the listings of its steps, its
changes, the rules by their position, and the commands of the rollback. -/
structure Faults where
  check : Query → Option Fault
  ask : Query → Option Fault
  change : Change → Option Fault
  rule : Nat → Option Fault
  undo : Change → Option Fault

def ask (tools : Tools ω) (fault : Option Fault) (query : Query) (host : Host ω) : Except String CommandOutput :=
  match fault with
  | some fault => fault.output
  | none => .ok (tools.answer query host)

/-- `SystemRunner::run` for a command that changes the host; a failing one does not. -/
def run (tools : Tools ω) (fault : Option Fault) (change : Change) (host : Host ω) :
    Except String CommandOutput × Host ω :=
  match fault with
  | some fault => (fault.output,host)
  | none =>
    let (output,after) := tools.perform change host
    (.ok output,after)

def runRequired (tools : Tools ω) (fault : Option Fault) (change : Change) (host : Host ω) :
    Except String Unit × Host ω :=
  let (output,after) := run tools fault change host
  match output with
  | .error error => (.error error,after)
  | .ok output =>
    if output.success then (.ok (),after)
    else
      let (program,args) := change.command
      let joined := join ' ' args
      let stderr := output.stderr
      (.error s!"{program} {joined} failed: {stderr}",after)

def ownedCommandCheck (output : Except String CommandOutput) (isOwned : String → Bool) : CheckState :=
  match output with
  | .ok output =>
    if output.success && output.stdout == "" then .missingAutoCreatable
    else if output.success && isOwned output.stdout then .ready
    else if !output.success then .missingAutoCreatable
    else .invalidHardFail
  | .error _ => .invalidHardFail

def artifactStatus (tools : Tools ω) (fault : Option Fault) (artifact : Artifact) (host : Host ω) : CheckState :=
  ownedCommandCheck (ask tools fault (.listArtifact artifact) host) (artifactOwned artifact)

def chainStatus (tools : Tools ω) (fault : Option Fault) (options : RouterHookOptions) (host : Host ω) : CheckState :=
  routerChainStatus (ask tools fault .listChain host) (some options)

def interfaceStatus (tools : Tools ω) (fault : Option Fault) (options : RouterHookOptions) (host : Host ω) : CheckState :=
  match ask tools fault (.linkShow options.scope.interface) host with
  | .ok output => if output.success then .ready else .missingHardFail
  | .error _ => .missingHardFail

end Host

end Dynet.Capture
