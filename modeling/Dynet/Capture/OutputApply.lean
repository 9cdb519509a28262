import Dynet.Capture.OutputHook
import Dynet.Capture.RouterApply

/-! Applying the output hook: an apply that takes nothing back when a command fails, and
one after it. -/
namespace Dynet.Capture
open Dynet.Lib Dynet.Lib.Checks Dynet.Lib.Text Dynet.Lib.Words

def HookOptions.artifacts (options : HookOptions) : List Artifact :=
  familyArtifacts .v4 ++ if options.ipv6Enabled then familyArtifacts .v6 else []

section Host
variable {ω : Type}

/-- The output chain stands beside what the family commands touch. -/
structure Beside (ω : Type) where
  output : Option OutputChain
  rest : ω

abbrev OutputHost (ω : Type) := Host (Beside ω)

def Host.withOutput (host : OutputHost ω) (output : Option OutputChain) : OutputHost ω :=
  { host with rest := { host.rest with output := output } }

@[simp] theorem Host.withOutput_listing (host : OutputHost ω) (output : Option OutputChain) :
    (host.withOutput output).listing = host.listing := rfl
@[simp] theorem Host.withOutput_output (host : OutputHost ω) (output : Option OutputChain) :
    (host.withOutput output).rest.output = output := rfl
@[simp] theorem Host.withOutput_withOutput (host : OutputHost ω) (first second : Option OutputChain) :
    (host.withOutput first).withOutput second = host.withOutput second := rfl
@[simp] theorem Host.withOutput_self (host : OutputHost ω) : host.withOutput host.rest.output = host := rfl

/-- The programs with their commands for the output chain; `shown` is how a rule is
listed. -/
structure OutputTools (ω : Type) extends Tools (Beside ω) where
  listOutput : OutputHost ω → CommandOutput
  addOutputChain : OutputHost ω → CommandOutput × OutputHost ω
  addOutputRule : List String → OutputHost ω → CommandOutput × OutputHost ω
  shown : List String → List String

/-- What is documented of them besides: dynet's entries are listed the way dynet knows
them, a rule is listed as it was given (zero may be written out), a new chain is empty and
a rule is added at its end. -/
structure OutputTools.Lawful (tools : OutputTools ω) : Prop extends tools.toTools.Lawful where
  recognised : ∀ artifact, artifactOwned artifact (tools.entry artifact) = true
  outputListed : ∀ (host : OutputHost ω) chain, host.rest.output = some chain →
    (tools.listOutput host).success = true ∧ (tools.listOutput host).stdout = chain.text
  outputUnlisted : ∀ host : OutputHost ω, host.rest.output = none →
    (tools.listOutput host).success = false ∨ (tools.listOutput host).stdout = ""
  outputAdded : ∀ host : OutputHost ω, host.rest.output = none → (tools.addOutputChain host).1.success = true ∧
    ∃ priority ∈ Output.priorities, (tools.addOutputChain host).2 = host.withOutput (some ⟨Output.head priority,[]⟩)
  outputKept : ∀ (host : OutputHost ω) chain, host.rest.output = some chain →
    (tools.addOutputChain host).1.success = true ∧ (tools.addOutputChain host).2 = host
  outputRuleAdded : ∀ rule (host : OutputHost ω) chain, host.rest.output = some chain →
    (tools.addOutputRule rule host).1.success = true ∧
      (tools.addOutputRule rule host).2 = host.withOutput (some (chain.extended [tools.shown rule]))
  spelled : ∀ rule, tools.shown rule = rule ∨
    rule = guardRule ∧ tools.shown rule = ["meta","mark","&",markMaskHex,"!=","0x00000000","return"]

/-- Which commands of an apply fail: those for the families and the rules, by position, and
those for the chain. -/
structure OutputFaults extends Faults where
  checkOutput : Option Fault
  askOutput : Option Fault
  addOutput : Option Fault

def quiet : OutputFaults := ⟨⟨fun _ => none,fun _ => none,fun _ => none,fun _ => none,fun _ => none⟩,none,none,none⟩

variable (tools : OutputTools ω) (faults : OutputFaults)

/-- `run_required` for a command on the output chain. -/
def requireOutput (fault : Option Fault) (args : List String) (perform : OutputHost ω → CommandOutput × OutputHost ω)
    (host : OutputHost ω) : Except String Unit × OutputHost ω :=
  let (output,after) := match fault with
    | some fault => (fault.output,host)
    | none => (.ok (perform host).1,(perform host).2)
  match output with
  | .error error => (.error error,after)
  | .ok output =>
    if output.success then (.ok (),after)
    else
      let joined := join ' ' args
      let stderr := output.stderr
      (.error s!"nft {joined} failed: {stderr}",after)

def outputChainStatus (fault : Option Fault) (options : Option HookOptions) (host : OutputHost ω) : CheckState :=
  let output := match fault with
    | some fault => fault.output
    | none => .ok (tools.listOutput host)
  ownedCommandCheck output (outputIsOwned · options)

def addOutputRules : Nat → List (List String) → OutputHost ω → Except String Unit × OutputHost ω
  | _, [], host => (.ok (),host)
  | position, rule::rest, host =>
    match requireOutput (faults.rule position) (nftRule Output.chain rule) (tools.addOutputRule rule) host with
    | (.ok (),host) => addOutputRules (position + 1) rest host
    | (.error error,host) => (.error error,host)

def createdOutput : String := "created owned nft output hook inet dynet dynet_output priority -150"

def installedOutputRules : String :=
  "installed dual-stack-safe output capture rules preserving marks outside " ++ markMaskHex

def ensureOutputChain (options : HookOptions) (progress : Progress (Beside ω)) :
    Except String Unit × Progress (Beside ω) :=
  if outputChainStatus tools faults.askOutput (some options) progress.host = .ready then (.ok (),progress)
  else
    match requireOutput faults.addOutput Output.addChainArgs tools.addOutputChain progress.host with
    | (.error error,host) => (.error error,{ progress with host := host })
    | (.ok (),host) =>
      let actions := progress.actions ++ [createdOutput]
      match addOutputRules tools faults 0 (outputRules options) host with
      | (.ok (),host) => (.ok (),⟨host,actions ++ [installedOutputRules]⟩)
      | (.error error,host) => (.error error,⟨host,actions⟩)

/-- The steps of the apply, up to the first command that fails. -/
def attemptHooks (options : HookOptions) (host : OutputHost ω) : Except String Unit × Progress (Beside ω) :=
  andThen
    (andThen (ensureFamilyHooks tools.toTools faults.toFaults .v4 ⟨host,[]⟩)
      (if options.ipv6Enabled then ensureFamilyHooks tools.toTools faults.toFaults .v6 else fun progress => (.ok (),progress)))
    (ensureOutputChain tools faults options)

/-- `hooks_status_with`: the artifacts in use and the chain. -/
def hooksStatus (asked : Query → Option Fault) (askOutput : Option Fault) (options : HookOptions) (host : OutputHost ω) :
    List TakeoverCheck :=
  options.artifacts.map (fun artifact =>
    ⟨artifact.checkId,none,artifactStatus tools.toTools (asked (.listArtifact artifact)) artifact host⟩) ++
  [⟨"nft.chain.output",none,outputChainStatus tools askOutput (some options) host⟩]

def requireSkeleton (runtime : List TakeoverCheck) : Except String Unit :=
  match runtime.find? (·.state != .ready) with
  | some check => .error ("dynet hook apply requires ready runtime skeleton: " ++ check.summary)
  | none => .ok ()

def permitHooks (status : TakeoverStatus) (options : HookOptions) (host : OutputHost ω) : Except String Unit := do
  ensure (options.serviceUid ≠ 0) "dynet hooks refuse uid 0 as the service bypass identity"
  ensure (status.doctor.any TakeoverCheck.isHardFailure = false) (failureSummary status.doctor)
  requireSkeleton status.runtime
  rejectHookCollisions (hooksStatus tools faults.check faults.checkOutput options host)

/-- `hooks_apply_options_with`: an apply that fails stays where it is. -/
def hooksApply (status : TakeoverStatus) (options : HookOptions) (host : OutputHost ω) :
    Except String (List String) × OutputHost ω :=
  match permitHooks tools faults status options host with
  | .error message => (.error message,host)
  | .ok () =>
    match attemptHooks tools faults options host with
    | (.ok (),progress) => (.ok progress.actions,progress.host)
    | (.error error,progress) => (.error error,progress.host)

/-- After an apply in which commands failed, one in which none does succeeds, and every
hook is ready. -/
def Recovers (observed status : TakeoverStatus) (options : HookOptions) (host : OutputHost ω) : Prop :=
  let left := (hooksApply tools faults observed options host).2
  let (result,after) := hooksApply tools quiet status options left
  (∃ actions, result = .ok actions) ∧ ∀ check ∈ hooksStatus tools quiet.check none options after, check.state = .ready

/-- The apply gets to the rules of a chain that was not there, and the command for one of
them fails. -/
def Torn (observed : TakeoverStatus) (options : HookOptions) (host : OutputHost ω) : Prop :=
  host.rest.output = none ∧ permitHooks tools faults observed options host = .ok () ∧
    (∀ artifact ∈ options.artifacts, Passes faults.toFaults host artifact) ∧
    faults.addOutput = none ∧ ∃ position < (outputRules options).length, faults.rule position ≠ none

end Host

section Shown
variable {ω : Type} {tools : OutputTools ω} {options : HookOptions}

theorem shown_plain (lawful : tools.Lawful) {rule : List String} (other : rule ≠ guardRule) : tools.shown rule = rule :=
  (lawful.spelled rule).resolve_right fun guard => other guard.1

theorem shown_listed (lawful : tools.Lawful) {rule : List String} (member : rule ∈ outputRules options) :
    listedWords (tools.shown rule) = tools.shown rule := by
  rcases lawful.spelled rule with plain | ⟨-,zeros⟩
  · rw [plain,listedWords_free (outputRules_free rule member)]
  · rw [zeros]
    decide

theorem complete_owned (lawful : tools.Lawful) {priority : String} (known : priority ∈ Output.priorities) :
    outputIsOwned (OutputChain.text ⟨Output.head priority,(outputRules options).map tools.shown⟩) (some options) = true := by
  have framed {part : String} (plain : '\n' ∉ part.toList ∧ '\t' ∉ part.toList ∧ part ≠ "")
      (shown : ∃ line ∈ Output.head priority ++ chainFoot, contains line part = true) :
      contains (OutputChain.text ⟨Output.head priority,(outputRules options).map tools.shown⟩) part = true :=
    (listing_contains_iff plain.1 plain.2.1 plain.2.2).mpr (.inl shown)
  have ruled {rule : List String} {part : String} (plain : '\n' ∉ part.toList ∧ '\t' ∉ part.toList ∧ part ≠ "")
      (member : rule ∈ outputRules options) (spelled : phrase (tools.shown rule) = part) :
      contains (OutputChain.text ⟨Output.head priority,(outputRules options).map tools.shown⟩) part = true := by
    refine (listing_contains_iff plain.1 plain.2.1 plain.2.2).mpr (.inr ⟨_,List.mem_map_of_mem member,?_⟩)
    rw [shown_listed lawful member,spelled,contains_iff]
  have plain := @outputParts_plain options
  rw [outputIsOwned_iff]
  simp only [outputParts,List.forall_mem_cons,List.not_mem_nil,IsEmpty.forall_iff,implies_true,and_true] at plain ⊢
  obtain ⟨marker,uid,family,⟨guard,zeros⟩,⟨named,numbered⟩,tcp,udp⟩ := plain
  refine ⟨?_,?_,?_,?_,?_,?_,?_⟩
  · refine ⟨_,List.mem_cons_self,framed marker ?_⟩
    simp only [Output.priorities,List.mem_cons,List.not_mem_nil,or_false] at known
    rcases known with rfl | rfl
    · decide +kernel
    · decide +kernel
  · exact ⟨_,List.mem_cons_self,@ruled ["meta","skuid",uidText options,"return"] _ uid (by simp [outputRules])
      (by rw [shown_plain lawful (by simp [guardRule])])⟩
  · refine ⟨_,List.mem_cons_self,?_⟩
    cases enabled : options.ipv6Enabled
    all_goals rw [enabled] at family
    · exact @ruled ["meta","nfproto","ipv6","return"] _ family (by simp [outputRules,enabled])
        (by rw [shown_plain lawful (by decide)]; decide +kernel)
    · exact @ruled ["ip6","daddr","::1","return"] _ family (by simp [outputRules,enabled])
        (by rw [shown_plain lawful (by decide)]; decide +kernel)
  · rcases lawful.spelled guardRule with same | ⟨-,written⟩
    · exact ⟨_,List.mem_cons_self,@ruled guardRule _ guard (by simp [outputRules]) (by rw [same]; decide +kernel)⟩
    · exact ⟨_,List.mem_cons_of_mem _ List.mem_cons_self,
        @ruled guardRule _ zeros (by simp [outputRules]) (by rw [written]; decide +kernel)⟩
  · simp only [Output.priorities,List.mem_cons,List.not_mem_nil,or_false] at known
    rcases known with rfl | rfl
    · exact ⟨_,List.mem_cons_self,framed named (by decide +kernel)⟩
    · exact ⟨_,List.mem_cons_of_mem _ List.mem_cons_self,framed numbered (by decide +kernel)⟩
  · exact ⟨_,List.mem_cons_self,@ruled (captureRule "tcp") _ tcp (by simp [outputRules])
      (by rw [shown_plain lawful (by decide)]; decide +kernel)⟩
  · exact ⟨_,List.mem_cons_self,@ruled (captureRule "udp") _ udp (by simp [outputRules])
      (by rw [shown_plain lawful (by decide)]; decide +kernel)⟩

theorem frontRules_silent (lawful : tools.Lawful) {rule : List String} (member : rule ∈ frontRules options) :
    contains (phrase (tools.shown rule)) "meta l4proto udp meta mark set meta mark | 0x40000000" = false := by
  rcases frontRules_cases member with rfl | rfl | fixed
  · rw [shown_plain lawful (by simp [guardRule]),← Bool.not_eq_true,contains_iff]
    intro inside
    exact uidPhrase_free (by decide) (by decide) (inside.subset (show '|' ∈ _ by decide))
  · rcases lawful.spelled guardRule with same | ⟨-,written⟩
    · rw [same]
      decide +kernel
    · rw [written]
      decide +kernel
  · have silent : ∀ rule ∈ fixedRules, rule ≠ guardRule ∧
        contains (phrase rule) "meta l4proto udp meta mark set meta mark | 0x40000000" = false := by decide +kernel
    obtain ⟨other,silent⟩ := silent rule fixed
    rw [shown_plain lawful other,silent]

theorem partial_unowned (lawful : tools.Lawful) {priority : String} (known : priority ∈ Output.priorities) {position : Nat}
    (short : position < (outputRules options).length) :
    outputIsOwned (OutputChain.text ⟨Output.head priority,((outputRules options).take position).map tools.shown⟩)
      (some options) = false := by
  have framed : ∀ priority ∈ Output.priorities, ∀ line ∈ Output.head priority ++ chainFoot,
      contains line "meta l4proto udp meta mark set meta mark | 0x40000000" = false := by decide +kernel
  have expected : ["meta l4proto udp meta mark set meta mark | 0x40000000"] ∈ outputParts options := by simp [outputParts]
  rw [← Bool.not_eq_true,outputIsOwned_iff]
  intro owned
  obtain ⟨part,spelling,found⟩ := owned _ expected
  rw [List.mem_singleton.mp spelling] at found
  rcases (listing_contains_iff (by decide) (by decide) (by decide)).mp found with ⟨line,member,found⟩ | ⟨rule,member,found⟩
  · rw [framed priority known line member] at found
    cases found
  · obtain ⟨rule,taken,rfl⟩ := List.mem_map.mp member
    rw [shown_listed lawful (List.mem_of_mem_take taken),frontRules_silent lawful (front_of_take short rule taken)] at found
    cases found

end Shown

section Steps
variable {ω : Type} {tools : OutputTools ω} {faults : OutputFaults} {options : HookOptions}

theorem requireOutput_fault {fault : Option Fault} (failing : fault ≠ none) (args : List String)
    (perform : OutputHost ω → CommandOutput × OutputHost ω) (host : OutputHost ω) :
    ∃ error, requireOutput fault args perform host = (.error error,host) := by
  obtain ⟨fault,rfl⟩ := Option.ne_none_iff_exists'.mp failing
  cases fault <;> exact ⟨_,rfl⟩

theorem requireOutput_done (args : List String) {perform : OutputHost ω → CommandOutput × OutputHost ω} {host : OutputHost ω}
    (success : (perform host).1.success = true) : requireOutput none args perform host = (.ok (),(perform host).2) := by
  simp [requireOutput,success]

theorem outputChainStatus_present (lawful : tools.Lawful) {host : OutputHost ω} {chain : OutputChain}
    (present : host.rest.output = some chain) : outputChainStatus tools none (some options) host =
      if outputIsOwned chain.text (some options) then .ready else .invalidHardFail := by
  obtain ⟨success,stdout⟩ := lawful.outputListed host chain present
  have filled : chain.text ≠ "" := by
    intro empty
    have foot : contains chain.text "\x7d" = true :=
      (listing_contains_iff (by decide) (by decide) (by decide)).mpr (.inl ⟨"\x7d",by simp [chainFoot],by decide⟩)
    rw [empty] at foot
    exact absurd foot (by decide)
  simp [outputChainStatus,ownedCommandCheck,success,stdout,filled]

theorem outputChainStatus_absent (lawful : tools.Lawful) {host : OutputHost ω} (absent : host.rest.output = none) :
    outputChainStatus tools none (some options) host = .missingAutoCreatable := by
  rcases lawful.outputUnlisted host absent with failed | empty
  · simp [outputChainStatus,ownedCommandCheck,failed]
  · by_cases success : (tools.listOutput host).success = true
    · simp [outputChainStatus,ownedCommandCheck,success,empty]
    · simp [outputChainStatus,ownedCommandCheck,success]

theorem outputChainStatus_fault {fault : Option Fault} (failing : fault ≠ none) (host : OutputHost ω) :
    outputChainStatus tools fault (some options) host ≠ .ready := by
  obtain ⟨fault,rfl⟩ := Option.ne_none_iff_exists'.mp failing
  cases fault <;> simp [outputChainStatus,Fault.output,ownedCommandCheck]

/-- Rules are added up to the first whose command fails. -/
theorem addOutputRules_spec (lawful : tools.Lawful) (rules : List (List String)) (position : Nat) {host : OutputHost ω}
    {chain : OutputChain} (present : host.rest.output = some chain) : ∃ count result,
      addOutputRules tools faults position rules host =
        (result,host.withOutput (some (chain.extended ((rules.take count).map tools.shown)))) ∧
      ((result = .ok () ∧ count = rules.length ∧ ∀ later < rules.length, faults.rule (position + later) = none) ∨
        ((∃ error, result = .error error) ∧ count < rules.length ∧ faults.rule (position + count) ≠ none)) := by
  have same : host = host.withOutput (some chain) := by rw [← present,Host.withOutput_self]
  induction rules generalizing position host chain with
  | nil => exact ⟨0,.ok (),by simpa [addOutputRules] using same,.inl (by simp)⟩
  | cons rule rules ih =>
    rw [addOutputRules]
    cases failing : faults.rule position with
    | some fault =>
      obtain ⟨error,failed⟩ := requireOutput_fault (Option.some_ne_none fault) (nftRule Output.chain rule)
        (tools.addOutputRule rule) host
      rw [failed]
      exact ⟨0,.error error,by simpa using same,.inr ⟨⟨error,rfl⟩,by simp,by simp [failing]⟩⟩
    | none =>
      obtain ⟨success,after⟩ := lawful.outputRuleAdded rule host chain present
      rw [requireOutput_done _ success,after]
      obtain ⟨count,result,ran,outcome⟩ := ih (position + 1)
        (Host.withOutput_output host (some (chain.extended [tools.shown rule]))) rfl
      refine ⟨count + 1,result,?_,?_⟩
      · simpa [OutputChain.extended_extended] using ran
      · rcases outcome with ⟨done,whole,calm⟩ | ⟨stopped,short,fault⟩
        · refine .inl ⟨done,by simpa using whole,fun later bound => ?_⟩
          cases later with
          | zero => exact failing
          | succ later =>
            rw [show position + (later + 1) = position + 1 + later by omega]
            exact calm later (by simpa using bound)
        · refine .inr ⟨stopped,by simpa using short,?_⟩
          rwa [show position + (count + 1) = position + 1 + count by omega]

/-- Routes and rules are absent or dynet's, and so is the chain. -/
structure Resumable (options : HookOptions) (host : OutputHost ω) : Prop where
  settled : ∀ artifact ∈ options.artifacts, Settled host artifact
  chain : ∀ chain, host.rest.output = some chain → outputIsOwned chain.text (some options) = true

/-- What the steps for the artifacts leave: nothing else has changed. -/
structure Grown (tools : OutputTools ω) (before after : OutputHost ω) : Prop where
  output : after.rest = before.rest
  listing : ∀ artifact, after.listing artifact = before.listing artifact ∨
    before.listing artifact = "" ∧ after.listing artifact = tools.entry artifact

theorem ensureAll_grown (lawful : tools.Lawful) {artifacts : List Artifact} (distinct : artifacts.Nodup)
    {progress : Progress (Beside ω)} (settled : ∀ artifact ∈ artifacts, Settled progress.host artifact) :
    Grown tools progress.host (ensureAll tools.toTools faults.toFaults artifacts progress).2.host ∧
    ((ensureAll tools.toTools faults.toFaults artifacts progress).1 = .ok () ↔
      ∀ artifact ∈ artifacts, Passes faults.toFaults progress.host artifact) ∧
    ((ensureAll tools.toTools faults.toFaults artifacts progress).1 = .ok () → ∀ artifact ∈ artifacts,
      artifactOwned artifact ((ensureAll tools.toTools faults.toFaults artifacts progress).2.host.listing artifact) = true) := by
  induction artifacts generalizing progress with
  | nil => exact ⟨⟨rfl,fun _ => .inl rfl⟩,by simp [ensureAll],by simp⟩
  | cons artifact rest ih =>
    obtain ⟨first,distinct⟩ := List.nodup_cons.mp distinct
    obtain ⟨here,settled⟩ := List.forall_mem_cons.mp settled
    rw [ensureAll]
    by_cases passes : Passes faults.toFaults progress.host artifact
    · rw [ensureArtifact_passed lawful.toLawful here passes]
      simp only [andThen]
      generalize step : (if progress.host.listing artifact = "" then
        (⟨progress.host.put artifact (tools.entry artifact),progress.actions ++ [created artifact]⟩ : Progress (Beside ω))
        else progress) = next
      have kept : next.host.rest = progress.host.rest := by
        subst step
        split <;> rfl
      have others : ∀ other, other ≠ artifact → next.host.listing other = progress.host.listing other := by
        intro other different
        subst step
        split
        · exact Function.update_of_ne different _ _
        · rfl
      have mine : artifactOwned artifact (next.host.listing artifact) = true ∧
          (next.host.listing artifact = progress.host.listing artifact ∨
            progress.host.listing artifact = "" ∧ next.host.listing artifact = tools.entry artifact) := by
        subst step
        split
        · rename_i absent
          have entry : (progress.host.put artifact (tools.entry artifact)).listing artifact = tools.entry artifact :=
            Function.update_self ..
          exact ⟨by rw [entry]; exact lawful.recognised artifact,.inr ⟨absent,entry⟩⟩
        · rename_i present
          exact ⟨here.resolve_left present,.inl rfl⟩
      have apart : ∀ other ∈ rest, next.host.listing other = progress.host.listing other := by
        intro other member
        refine others other ?_
        rintro rfl
        exact first member
      obtain ⟨grown,through,owned⟩ := @ih distinct next fun other member => by
        rw [Settled,apart other member]
        exact settled other member
      have held : next.host.listing artifact ≠ "" := artifactOwned_some mine.1
      have passing : (∀ other ∈ rest, Passes faults.toFaults next.host other) ↔
          ∀ other ∈ artifact::rest, Passes faults.toFaults progress.host other := by
        rw [List.forall_mem_cons,and_iff_right passes]
        refine forall₂_congr fun other member => ?_
        rw [Passes,Passes,apart other member]
      refine ⟨⟨grown.output.trans kept,fun other => ?_⟩,through.trans passing,fun ok other member => ?_⟩
      · by_cases same : other = artifact
        · subst same
          rcases grown.listing other with later | ⟨absent,-⟩
          · rw [later]
            exact mine.2
          · exact absurd absent held
        · rw [← others other same]
          exact grown.listing other
      · rcases List.mem_cons.mp member with rfl | member
        · rcases grown.listing other with later | ⟨absent,-⟩
          · rw [later]
            exact mine.1
          · exact absurd absent held
        · exact owned ok other member
    · obtain ⟨error,stopped⟩ := ensureArtifact_stopped lawful.toLawful here passes
      rw [stopped]
      refine ⟨⟨rfl,fun _ => .inl rfl⟩,⟨fun ok => ?_,fun all => absurd (all artifact List.mem_cons_self) passes⟩,fun ok => ?_⟩
      all_goals cases ok

theorem hookArtifacts_nodup (options : HookOptions) : options.artifacts.Nodup := by
  unfold HookOptions.artifacts
  split <;> decide

theorem attemptHooks_eq (host : OutputHost ω) : attemptHooks tools faults options host =
    andThen (ensureAll tools.toTools faults.toFaults options.artifacts ⟨host,[]⟩) (ensureOutputChain tools faults options) := by
  unfold attemptHooks HookOptions.artifacts
  rw [ensureAll_append,ensureFamilyHooks_eq,ensureFamilyHooks_eq]
  split <;> rfl

def halfway (tools : OutputTools ω) (options : HookOptions) (priority : String) (count : Nat) : OutputChain :=
  ⟨Output.head priority,((outputRules options).take count).map tools.shown⟩

/-- The step for the chain leaves it as expected, or as it was, or cut off after some of
its rules; then it was not there, and the command for the next rule failed. -/
theorem ensureOutputChain_cases (lawful : tools.Lawful) {progress : Progress (Beside ω)}
    (expected : ∀ chain, progress.host.rest.output = some chain → outputIsOwned chain.text (some options) = true) :
    ∃ result output actions,
      ensureOutputChain tools faults options progress = (result,⟨progress.host.withOutput output,actions⟩) ∧
      (((∃ chain, output = some chain ∧ outputIsOwned chain.text (some options) = true) ∧
          (progress.host.rest.output = none → result = .ok () ∧
            ∀ position < (outputRules options).length, faults.rule position = none)) ∨
        ((∃ error, result = .error error) ∧ output = none ∧ faults.addOutput ≠ none) ∨
        ((∃ error, result = .error error) ∧ progress.host.rest.output = none ∧ faults.addOutput = none ∧
          ∃ priority ∈ Output.priorities, ∃ count < (outputRules options).length,
            output = some (halfway tools options priority count) ∧ faults.rule count ≠ none)) := by
  unfold ensureOutputChain
  cases present : progress.host.rest.output with
  | some chain =>
    have owned := expected chain present
    have same : progress = ⟨progress.host.withOutput (some chain),progress.actions⟩ := by
      rw [← present,Host.withOutput_self]
    by_cases ready : outputChainStatus tools faults.askOutput (some options) progress.host = .ready
    · rw [if_pos ready]
      exact ⟨.ok (),some chain,progress.actions,congrArg _ same,.inl ⟨⟨chain,rfl,owned⟩,by simp⟩⟩
    · rw [if_neg ready]
      cases adding : faults.addOutput with
      | some fault =>
        obtain ⟨error,failed⟩ := requireOutput_fault (Option.some_ne_none fault) Output.addChainArgs tools.addOutputChain
          progress.host
        rw [failed]
        exact ⟨.error error,some chain,progress.actions,congrArg _ same,.inl ⟨⟨chain,rfl,owned⟩,by simp⟩⟩
      | none =>
        obtain ⟨success,kept⟩ := lawful.outputKept progress.host chain present
        obtain ⟨count,result,ran,-⟩ := @addOutputRules_spec _ tools faults lawful (outputRules options) 0 _ _ present
        rw [requireOutput_done _ success,kept]
        simp only [ran]
        cases result <;>
          exact ⟨_,_,_,rfl,.inl ⟨⟨_,rfl,extended_owned chain _ owned⟩,by simp⟩⟩
  | none =>
    have ready : outputChainStatus tools faults.askOutput (some options) progress.host ≠ .ready := by
      cases asked : faults.askOutput with
      | none => simp [outputChainStatus_absent lawful present]
      | some fault => exact outputChainStatus_fault (Option.some_ne_none fault) progress.host
    rw [if_neg ready]
    cases adding : faults.addOutput with
    | some fault =>
      obtain ⟨error,failed⟩ := requireOutput_fault (Option.some_ne_none fault) Output.addChainArgs tools.addOutputChain
        progress.host
      rw [failed]
      refine ⟨.error error,none,progress.actions,?_,.inr (.inl ⟨⟨error,rfl⟩,rfl,by simp⟩)⟩
      rw [← present,Host.withOutput_self]
    | none =>
      obtain ⟨success,priority,known,made⟩ := lawful.outputAdded progress.host present
      rw [requireOutput_done _ success,made]
      obtain ⟨count,result,ran,outcome⟩ := @addOutputRules_spec _ tools faults lawful (outputRules options) 0 _ _
        (Host.withOutput_output progress.host (some ⟨Output.head priority,[]⟩))
      simp only [ran,Host.withOutput_withOutput,OutputChain.extended,List.nil_append]
      rcases outcome with ⟨rfl,whole,calm⟩ | ⟨⟨error,rfl⟩,short,fault⟩
      · refine ⟨_,_,_,rfl,.inl ⟨⟨_,rfl,?_⟩,fun _ => ⟨rfl,by simpa using calm⟩⟩⟩
        rw [whole,List.take_length]
        exact complete_owned lawful known
      · rw [Nat.zero_add] at fault
        exact ⟨_,_,_,rfl,.inr (.inr ⟨⟨error,rfl⟩,trivial,trivial,priority,known,count,short,rfl,fault⟩)⟩

end Steps

section Runs
variable {ω : Type} {tools : OutputTools ω} {faults : OutputFaults} {options : HookOptions} {observed status : TakeoverStatus}
  {host : OutputHost ω}

theorem permitHooks_iff (lawful : tools.Lawful) : permitHooks tools quiet status options host = .ok () ↔
    (options.serviceUid ≠ 0 ∧ status.doctor.any TakeoverCheck.isHardFailure = false ∧ requireSkeleton status.runtime = .ok ()) ∧
      Resumable options host := by
  simp only [permitHooks,then_ok_iff,rejectHookCollisions,ensure_ok_iff,List.filter_eq_nil_iff,hooksStatus,
    List.forall_mem_append,List.forall_mem_map,List.forall_mem_singleton,and_assoc]
  refine and_congr_right fun _ => and_congr_right fun _ => and_congr_right fun _ => ?_
  have artifact (artifact : Artifact) : ¬(artifactStatus tools.toTools none artifact host == .invalidHardFail) = true ↔
      Settled host artifact := by
    by_cases absent : host.listing artifact = ""
    · simp [artifactStatus_absent lawful.toLawful absent,Settled,absent]
    · rw [artifactStatus_present lawful.toLawful absent]
      split <;> simp_all [Settled]
  have chain : ¬(outputChainStatus tools none (some options) host == .invalidHardFail) = true ↔
      ∀ chain, host.rest.output = some chain → outputIsOwned chain.text (some options) = true := by
    cases present : host.rest.output with
    | none => simp [outputChainStatus_absent lawful present]
    | some chain =>
      rw [outputChainStatus_present lawful present]
      split <;> simp_all
  constructor
  · rintro ⟨artifacts,output⟩
    exact ⟨fun other member => (artifact other).mp (artifacts other member),chain.mp output⟩
  · rintro ⟨settled,expected⟩
    exact ⟨fun other member => (artifact other).mpr (settled other member),chain.mpr expected⟩

theorem Grown.resumable {before after : OutputHost ω} (lawful : tools.Lawful) (grown : Grown tools before after)
    (resumable : Resumable options before) : Resumable options after where
  settled artifact member := by
    rcases grown.listing artifact with same | ⟨-,entry⟩
    · rw [Settled,same]
      exact resumable.settled artifact member
    · rw [Settled,entry]
      exact .inr (lawful.recognised artifact)
  chain chain present := by
    rw [grown.output] at present
    exact resumable.chain chain present

/-- An attempt leaves a host that a later one can take up, unless it is torn. -/
theorem attempt_resumable (lawful : tools.Lawful) (resumable : Resumable options host)
    (whole : ¬ Torn tools faults observed options host) (permitted : permitHooks tools faults observed options host = .ok ()) :
    Resumable options (attemptHooks tools faults options host).2.host := by
  obtain ⟨grown,through,-⟩ := @ensureAll_grown _ tools faults lawful _ (hookArtifacts_nodup options) ⟨host,[]⟩ resumable.settled
  rw [attemptHooks_eq]
  rcases steps : ensureAll tools.toTools faults.toFaults options.artifacts ⟨host,[]⟩ with ⟨result,next⟩
  rw [steps] at grown through
  have resumableNext : Resumable options next.host := grown.resumable lawful resumable
  cases result with
  | error error => exact resumableNext
  | ok done =>
    obtain ⟨result,output,actions,ran,outcome⟩ := @ensureOutputChain_cases _ tools faults options lawful next resumableNext.chain
    simp only [andThen,ran]
    refine ⟨resumableNext.settled,fun chain present => ?_⟩
    rw [Host.withOutput_output] at present
    rcases outcome with ⟨⟨other,shape,owned⟩,-⟩ | ⟨-,none,-⟩ | ⟨-,absent,adding,priority,-,count,short,-,fault⟩
    · rw [shape] at present
      cases present
      exact owned
    · rw [none] at present
      cases present
    · rw [grown.output] at absent
      exact absurd ⟨absent,permitted,through.mp rfl,adding,count,short,fault⟩ whole

/-- A torn attempt leaves a chain that every later check refuses. -/
theorem attempt_torn (lawful : tools.Lawful) (resumable : Resumable options host)
    (torn : Torn tools faults observed options host) :
    ¬ Resumable options (attemptHooks tools faults options host).2.host := by
  obtain ⟨absent,-,passes,adding,position,bound,fault⟩ := torn
  obtain ⟨grown,through,-⟩ := @ensureAll_grown _ tools faults lawful _ (hookArtifacts_nodup options) ⟨host,[]⟩ resumable.settled
  rw [attemptHooks_eq]
  rcases steps : ensureAll tools.toTools faults.toFaults options.artifacts ⟨host,[]⟩ with ⟨result,next⟩
  rw [steps] at grown through
  have done : result = .ok () := through.mpr passes
  subst done
  have absentNext : next.host.rest.output = none := by rw [grown.output]; exact absent
  obtain ⟨result,output,actions,ran,outcome⟩ := @ensureOutputChain_cases _ tools faults options lawful next
    (grown.resumable lawful resumable).chain
  simp only [andThen,ran]
  intro after
  rcases outcome with ⟨-,calm⟩ | ⟨-,-,failed⟩ | ⟨-,-,-,priority,known,count,short,shape,-⟩
  · exact fault ((calm absentNext).2 position bound)
  · exact failed adding
  · have owned := after.chain (halfway tools options priority count) (by rw [Host.withOutput_output,shape])
    rw [halfway,OutputChain.text] at owned
    have unowned := @partial_unowned _ tools options lawful priority known count short
    rw [OutputChain.text] at unowned
    rw [unowned] at owned
    cases owned

theorem quiet_ready (lawful : tools.Lawful) (permitted : permitHooks tools quiet status options host = .ok ()) :
    ∃ actions after, hooksApply tools quiet status options host = (.ok actions,after) ∧
      ∀ check ∈ hooksStatus tools quiet.check none options after, check.state = .ready := by
  have resumable := ((permitHooks_iff lawful).mp permitted).2
  obtain ⟨grown,through,owned⟩ := @ensureAll_grown _ tools quiet lawful _ (hookArtifacts_nodup options) ⟨host,[]⟩ resumable.settled
  have done := through.mpr fun artifact _ => by
    rw [Passes]
    split <;> rfl
  rw [hooksApply,permitted]
  simp only [attemptHooks_eq]
  rcases steps : ensureAll tools.toTools quiet.toFaults options.artifacts ⟨host,[]⟩ with ⟨result,next⟩
  rw [steps] at grown done owned
  dsimp only at grown done owned
  subst done
  have resumableNext : Resumable options next.host := grown.resumable lawful resumable
  have chained : ∃ output actions, ensureOutputChain tools quiet options next =
      (.ok (),⟨next.host.withOutput (some output),actions⟩) ∧ outputIsOwned output.text (some options) = true := by
    cases present : next.host.rest.output with
    | some chain =>
      have expected := resumableNext.chain chain present
      have ready : outputChainStatus tools none (some options) next.host = .ready := by
        rw [outputChainStatus_present lawful present,if_pos expected]
      refine ⟨chain,next.actions,?_,expected⟩
      rw [ensureOutputChain,show quiet.askOutput = none from rfl,if_pos ready,← present,Host.withOutput_self]
    | none =>
      obtain ⟨result,output,actions,ran,outcome⟩ := @ensureOutputChain_cases _ tools quiet options lawful next resumableNext.chain
      rcases outcome with ⟨⟨chain,rfl,expected⟩,calm⟩ | ⟨-,-,failed⟩ | ⟨-,-,-,priority,-,count,-,-,failed⟩
      · obtain ⟨rfl,-⟩ := calm present
        exact ⟨chain,actions,ran,expected⟩
      · exact absurd rfl failed
      · exact absurd rfl failed
  obtain ⟨output,actions,ran,expected⟩ := chained
  simp only [andThen,ran]
  refine ⟨actions,_,rfl,?_⟩
  simp only [hooksStatus,List.forall_mem_append,List.forall_mem_map,List.forall_mem_singleton]
  constructor
  · intro artifact member
    have mine := owned rfl artifact member
    have status := @artifactStatus_present _ tools.toTools lawful.toLawful artifact (next.host.withOutput (some output))
      (artifactOwned_some mine)
    rw [Host.withOutput_listing,mine,if_pos rfl] at status
    exact status
  · rw [outputChainStatus_present lawful (Host.withOutput_output next.host (some output)),if_pos expected]

theorem hooksApply_left (tools : OutputTools ω) (faults : OutputFaults) (observed : TakeoverStatus) (options : HookOptions)
    (host : OutputHost ω) : (hooksApply tools faults observed options host).2 =
      if permitHooks tools faults observed options host = .ok () then (attemptHooks tools faults options host).2.host else host := by
  rw [hooksApply]
  cases permitHooks tools faults observed options host with
  | error error => simp
  | ok done =>
    rcases attemptHooks tools faults options host with ⟨_ | _,progress⟩
    all_goals simp

theorem Torn.unrecovered (lawful : tools.Lawful) (permitted : permitHooks tools quiet status options host = .ok ())
    (torn : Torn tools faults observed options host) : ¬ Recovers tools faults observed status options host := by
  rintro ⟨⟨actions,finished⟩,-⟩
  rw [hooksApply_left,if_pos torn.2.1] at finished
  split at finished
  · cases finished
  · rename_i again
    exact attempt_torn lawful ((permitHooks_iff lawful).mp permitted).2 torn ((permitHooks_iff lawful).mp again).2

/-- Whatever fails, a later apply without failures recovers, exactly if the one that
failed was not cut off among the rules of a new chain. -/
theorem hooks_recover_iff (lawful : tools.Lawful) (faults : OutputFaults) (observed status : TakeoverStatus)
    (options : HookOptions) (host : OutputHost ω) (permitted : permitHooks tools quiet status options host = .ok ()) :
    Recovers tools faults observed status options host ↔ ¬ Torn tools faults observed options host := by
  obtain ⟨standing,resumable⟩ := (permitHooks_iff lawful).mp permitted
  constructor
  · exact fun recovers torn => torn.unrecovered lawful permitted recovers
  · intro whole
    have taken : permitHooks tools quiet status options (hooksApply tools faults observed options host).2 = .ok () := by
      refine (permitHooks_iff lawful).mpr ⟨standing,?_⟩
      rw [hooksApply_left]
      split
      · rename_i permitted
        exact attempt_resumable lawful resumable whole permitted
      · exact resumable
    obtain ⟨actions,after,applied,ready⟩ := quiet_ready lawful taken
    rw [Recovers,applied]
    exact ⟨⟨actions,rfl⟩,ready⟩

end Runs

section Sample

/-- A host with nothing of dynet's on it but the runtime skeleton. -/
def bareHost : OutputHost Unit := ⟨fun _ => "",none,⟨none,()⟩⟩

def outputSampleTools : OutputTools Unit where
  answer
    | .linkShow _, _ => ⟨true,"3: eth1: <UP>",""⟩
    | .listArtifact artifact, host => ⟨host.listing artifact != "",host.listing artifact,""⟩
    | .listChain, host => ⟨host.chain.isSome,host.chain.getD "",""⟩
  perform
    | .add artifact, host =>
      if host.listing artifact = "" then (⟨true,"",""⟩,host.put artifact (sampleEntry artifact))
      else (⟨false,"","RTNETLINK answers: File exists"⟩,host)
    | .delete artifact, host => (⟨true,"",""⟩,host.put artifact "")
    | .addChain, host => (⟨true,"",""⟩,host.withChain (some (host.chain.getD "")))
    | .addRule rule, host => (⟨true,"",""⟩,host.withChain (host.chain.map (· ++ listedRule rule)))
    | .deleteChain, host => (⟨true,"",""⟩,host.withChain none)
  entry := sampleEntry
  listOutput host := ⟨host.rest.output.isSome,(host.rest.output.map OutputChain.text).getD "",""⟩
  addOutputChain host := (⟨true,"",""⟩,host.withOutput (some (host.rest.output.getD ⟨Output.head "mangle",[]⟩)))
  addOutputRule rule host := (⟨true,"",""⟩,host.withOutput (host.rest.output.map (·.extended [rule])))
  shown := id

theorem outputSampleTools_lawful : outputSampleTools.Lawful where
  listed artifact host present := by simp [outputSampleTools,present]
  unlisted artifact host absent := by simp [outputSampleTools,absent]
  chainListed host text present := by simp [outputSampleTools,present]
  chainUnlisted host absent := by simp [outputSampleTools,absent]
  added artifact host absent := by simp [outputSampleTools,absent]
  exists_already artifact host owned := by simp [outputSampleTools,artifactOwned_some owned]
  deleted artifact host listed := by simp [outputSampleTools]
  chainAdded host absent := ⟨rfl,"",by simp [outputSampleTools,absent]⟩
  chainKept host text present := by
    refine ⟨rfl,?_⟩
    simp only [outputSampleTools,present,Option.getD_some]
    rw [← present,Host.withChain_self]
  ruleAdded rule host text present := ⟨text ++ listedRule rule,by simp [outputSampleTools,present]⟩
  chainDeleted host text present := by simp [outputSampleTools]
  recognised artifact := by
    rcases artifact with family | family
    all_goals cases family <;> decide +kernel
  outputListed host chain present := by simp [outputSampleTools,present]
  outputUnlisted host absent := by simp [outputSampleTools,absent]
  outputAdded host absent := ⟨rfl,"mangle",by decide,by simp [outputSampleTools,absent]⟩
  outputKept host chain present := by
    refine ⟨rfl,?_⟩
    simp only [outputSampleTools,present,Option.getD_some]
    rw [← present,Host.withOutput_self]
  outputRuleAdded rule host chain present := by simp [outputSampleTools,present]
  spelled rule := .inl rfl

def hookUser : HookOptions := ⟨1000,false⟩

theorem bareHost_permitted : permitHooks outputSampleTools quiet ⟨[],[]⟩ hookUser bareHost = .ok () :=
  (permitHooks_iff outputSampleTools_lawful).mpr ⟨⟨by decide,rfl,rfl⟩,⟨fun _ _ => .inl rfl,fun _ present => by cases present⟩⟩

/-- The route of a new host cannot be added. -/
theorem bareHost_recovers : Recovers outputSampleTools
    { quiet with change := fun _ => some (.failed "RTNETLINK answers: Network is down") } ⟨[],[]⟩ ⟨[],[]⟩ hookUser bareHost :=
  (hooks_recover_iff outputSampleTools_lawful _ ⟨[],[]⟩ ⟨[],[]⟩ hookUser bareHost bareHost_permitted).mpr
    fun torn => absurd (torn.2.2.1 (.route .v4) (by decide)) (by simp [Passes,bareHost])

/-- The commands for the rules after the second one fail. -/
def fullTable : OutputFaults :=
  { quiet with rule := fun position => if position < 2 then none else some (.failed "Error: Could not process rule: No buffer space") }

/-- Cut off after two rules, the chain is refused by every later apply. -/
theorem bareHost_torn : outputSampleTools.Lawful ∧ permitHooks outputSampleTools quiet ⟨[],[]⟩ hookUser bareHost = .ok () ∧
    ¬ Recovers outputSampleTools fullTable ⟨[],[]⟩ ⟨[],[]⟩ hookUser bareHost := by
  refine ⟨outputSampleTools_lawful,bareHost_permitted,Torn.unrecovered outputSampleTools_lawful bareHost_permitted ?_⟩
  refine ⟨rfl,bareHost_permitted,fun artifact _ => ?_,rfl,2,by decide,by simp [fullTable]⟩
  simp [Passes,bareHost,fullTable,quiet]

end Sample

end Dynet.Capture
