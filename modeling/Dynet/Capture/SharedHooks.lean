import Dynet.Capture.HookCleanup

/-! Two hooks over whole runs of applies and cleanups: a chain of dynet's that stands has its
routes and rules, what is not dynet's stays, and after both cleanups nothing of dynet's is
left. -/
namespace Dynet.Capture
open Dynet.Lib Dynet.Lib.Checks Dynet.Lib.Text
open Script (Leads)

section States
variable {ω : Type}

def OutputStands (host : HookHost ω) : Prop := ∃ chain, host.rest.output = some chain ∧ outputIsOwned chain.text none = true

def RouterStands (host : HookHost ω) : Prop := ∃ text, host.chain = some text ∧ routerChainIsExpected text none = true

/-- One of dynet's chains stands. -/
def Marked (host : HookHost ω) : Prop := OutputStands host ∨ RouterStands host

inductive Hook where
  | output
  | router
  deriving DecidableEq, Repr

/-- The chain of the hook stands. -/
def Hook.Stands : Hook → HookHost ω → Prop
  | .output => OutputStands
  | .router => RouterStands

theorem Hook.marked {hook : Hook} {host : HookHost ω} (stands : hook.Stands host) : Marked host := by
  cases hook with
  | output => exact .inl stands
  | router => exact .inr stands

/-- The route and the rule of a family are dynet's. -/
def Anchored (family : IpVersion) (host : HookHost ω) : Prop :=
  ∀ artifact ∈ familyArtifacts family, artifactOwned artifact (host.listing artifact) = true

/-- What is on the host and not dynet's. -/
structure Spares (start after : HookHost ω) : Prop where
  rest : after.rest.rest.rest = start.rest.rest.rest
  listing : ∀ artifact, start.listing artifact ≠ "" → artifactOwned artifact (start.listing artifact) = false →
    after.listing artifact = start.listing artifact
  output : start.rest.output ≠ none → ¬ OutputStands start → after.rest.output = start.rest.output
  chain : start.chain ≠ none → ¬ RouterStands start → after.chain = start.chain
  legacy : start.legacy ≠ "" → legacyOwned start.legacy = false → after.legacy = start.legacy

namespace Spares
variable {start middle after : HookHost ω}

theorem refl (host : HookHost ω) : Spares host host := ⟨rfl,fun _ _ _ => rfl,fun _ _ => rfl,fun _ _ => rfl,fun _ _ => rfl⟩

theorem trans (first : Spares start middle) (second : Spares middle after) : Spares start after where
  rest := second.rest.trans first.rest
  listing artifact present foreign := by
    have same := first.listing artifact present foreign
    rw [second.listing artifact (by rwa [same]) (by rwa [same]),same]
  output present foreign := by
    have same := first.output present foreign
    have still : ¬ OutputStands middle := by rwa [OutputStands,same]
    rw [second.output (by rwa [same]) still,same]
  chain present foreign := by
    have same := first.chain present foreign
    have still : ¬ RouterStands middle := by rwa [RouterStands,same]
    rw [second.chain (by rwa [same]) still,same]
  legacy present foreign := by
    have same := first.legacy present foreign
    rw [second.legacy (by rwa [same]) (by rwa [same]),same]

end Spares

/-- Nothing of dynet's is on the host. -/
structure Bare (host : HookHost ω) : Prop where
  unmarked : ¬ Marked host
  listing : ∀ artifact, artifactOwned artifact (host.listing artifact) = false
  legacy : legacyOwned host.legacy = false

end States

section Deletions
variable {ω : Type} {tools : CleanupTools ω} {faults : CleanupFaults} {P : HookHost ω → Prop}

theorem artifactOwned_empty (artifact : Artifact) : artifactOwned artifact "" = false := by
  cases artifact <;> rfl

theorem legacyOwned_empty : legacyOwned "" = false := rfl

theorem artifactStatus_ready_iff (lawful : tools.Lawful) (fault : Option Fault) (artifact : Artifact) (host : HookHost ω) :
    artifactStatus tools.toTools fault artifact host = .ready ↔
      fault = none ∧ artifactOwned artifact (host.listing artifact) = true := by
  cases fault with
  | some fault => simpa using artifactStatus_fault (Option.some_ne_none fault) artifact host
  | none =>
    by_cases absent : host.listing artifact = ""
    · simp [artifactStatus_absent lawful.toLawful absent,absent,artifactOwned_empty]
    · simp [artifactStatus_present lawful.toLawful absent]

theorem outputStatus_ready_iff (lawful : tools.Lawful) (fault : Option Fault) (host : HookHost ω) :
    outputChainStatus tools.toOutputTools fault none host = .ready ↔ fault = none ∧ OutputStands host := by
  cases fault with
  | some fault => cases fault <;> simp [outputChainStatus,Fault.output,ownedCommandCheck]
  | none =>
    cases present : host.rest.output with
    | none =>
      rcases lawful.outputUnlisted host present with failed | empty
      · simp [outputChainStatus,ownedCommandCheck,failed,OutputStands,present]
      · by_cases success : (tools.listOutput host).success = true
        · simp [outputChainStatus,ownedCommandCheck,success,empty,OutputStands,present]
        · simp [outputChainStatus,ownedCommandCheck,success,OutputStands,present]
    | some chain =>
      obtain ⟨success,stdout⟩ := lawful.outputListed host chain present
      by_cases empty : chain.text = ""
      · have unmarked : outputIsOwned "" none = false := by decide
        simp [outputChainStatus,ownedCommandCheck,success,stdout,empty,OutputStands,present,unmarked]
      · simp [outputChainStatus,ownedCommandCheck,success,stdout,empty,OutputStands,present]

theorem routerStatus_ready_iff (lawful : tools.Lawful) (fault : Option Fault) (host : HookHost ω) :
    routerStatus tools fault host = .ready ↔ fault = none ∧ RouterStands host := by
  cases fault with
  | some fault => cases fault <;> simp [routerStatus,ask,Fault.output,routerChainStatus,chainState]
  | none =>
    cases present : host.chain with
    | none => simp [routerStatus,ask,routerChainStatus,chainState,lawful.chainUnlisted host present,RouterStands,present]
    | some text =>
      obtain ⟨success,stdout⟩ := lawful.chainListed host text present
      simp [routerStatus,ask,routerChainStatus,chainState,success,stdout,RouterStands,present]

theorem legacyStatus_ready_iff (lawful : tools.Lawful) (fault : Option Fault) (host : HookHost ω) :
    legacyRuleStatus tools fault host = .ready ↔ fault = none ∧ legacyOwned host.legacy = true := by
  cases fault with
  | some fault => cases fault <;> simp [legacyRuleStatus,Fault.output,ownedCommandCheck]
  | none =>
    by_cases absent : host.legacy = ""
    · rcases lawful.legacyUnlisted host absent with failed | empty
      · simp [legacyRuleStatus,ownedCommandCheck,failed,absent,legacyOwned_empty]
      · by_cases success : (tools.listLegacy host).success = true
        · simp [legacyRuleStatus,ownedCommandCheck,success,empty,absent,legacyOwned_empty]
        · simp [legacyRuleStatus,ownedCommandCheck,success,absent,legacyOwned_empty]
    · obtain ⟨success,stdout⟩ := lawful.legacyListed host absent
      simp [legacyRuleStatus,ownedCommandCheck,success,stdout,absent]

/-- A deletion keeps what it keeps when it takes away something of dynet's, and unless its
listing fails that is gone afterwards; it stops only for a reason. -/
theorem deleteReady_leads {status : HookHost ω → CheckState} {delete : Script (HookHost ω) Unit} {action : String}
    {stands : HookHost ω → Prop} {drop : HookHost ω → HookHost ω} {fault : Option Fault} {fails : Prop}
    (ready : ∀ host, status host = .ready ↔ fault = none ∧ stands host)
    (deletes : ∀ host, stands host → delete.exec host = (.ok (),drop host) ∨
      fails ∧ ∃ error, delete.exec host = (.error error,host))
    (gone : ∀ host, ¬ stands (drop host)) (kept : ∀ host, P host → stands host → P (drop host)) :
    Leads P (deleteReady status delete action) (fun _ after => P after ∧ (fault = none → ¬ stands after))
      fun after => P after ∧ fails := by
  refine .known fun host holds => .reading ?_
  split
  · rename_i missed
    refine .pure ?_
    rintro _ rfl
    exact ⟨holds,fun told standing => missed ((ready _).mpr ⟨told,standing⟩)⟩
  · rename_i found
    have standing := ((ready host).mp (not_not.mp found)).2
    rintro _ rfl
    rw [Script.exec_bind]
    rcases deletes _ standing with done | ⟨reason,error,failed⟩
    · rw [done]
      exact .inl ⟨_,_,rfl,kept _ holds standing,fun _ => gone _⟩
    · rw [failed]
      exact .inr ⟨_,_,rfl,holds,reason⟩

theorem runRequired_deletes {change : Change} (fault : Option Fault) {host after : HookHost ω}
    (performs : (tools.perform change host).2 = if (tools.perform change host).1.success then after else host) :
    runRequired tools.toTools fault change host = (.ok (),after) ∨
      (fault = none → (tools.perform change host).1.success = false) ∧
        ∃ error, runRequired tools.toTools fault change host = (.error error,host) := by
  cases fault with
  | some fault => exact .inr ⟨fun calm => (by cases calm),runRequired_fault tools.toTools
    (Option.some_ne_none fault) change host⟩
  | none =>
    by_cases success : (tools.perform change host).1.success = true
    · rw [if_pos success] at performs
      exact .inl (by rw [runRequired_done success,performs])
    · rw [if_neg success] at performs
      rw [Bool.not_eq_true] at success
      obtain ⟨error,refused⟩ := runRequired_refused success
      exact .inr ⟨fun _ => success,error,by rw [refused,performs]⟩

theorem requireDelete_deletes (fault : Option Fault) (program : String) (args : List String)
    {perform : HookHost ω → CommandOutput × HookHost ω} {host after : HookHost ω}
    (performs : (perform host).2 = if (perform host).1.success then after else host) :
    (requireDelete fault program args perform).exec host = (.ok (),after) ∨
      (fault = none → (perform host).1.success = false) ∧
        ∃ error, (requireDelete fault program args perform).exec host = (.error error,host) := by
  rw [requireDelete,Script.exec_step]
  cases fault with
  | some fault => cases fault <;> exact .inr ⟨fun calm => (by cases calm),_,rfl⟩
  | none =>
    by_cases success : (perform host).1.success = true
    · rw [if_pos success] at performs
      simp [success,performs]
    · rw [if_neg success] at performs
      rw [Bool.not_eq_true] at success
      simp [success,performs]

theorem deleteArtifact_leads (lawful : tools.Lawful) (artifact : Artifact)
    (kept : ∀ host, P host → artifactOwned artifact (host.listing artifact) = true → P (host.put artifact "")) :
    Leads P (deleteArtifact tools faults artifact) (fun _ after => P after ∧
      (faults.ask (.listArtifact artifact) = none → ¬ artifactOwned artifact (after.listing artifact) = true)) P :=
  (@deleteReady_leads _ P _ _ _ _ _ _ True (artifactStatus_ready_iff lawful _ artifact)
    (fun host owned => (runRequired_deletes _ (lawful.ownedDeleted artifact host owned)).imp_right fun failed =>
      ⟨trivial,failed.2⟩)
    (fun host => by simp [Host.put,artifactOwned_empty]) kept).mono (fun _ => id) (fun _ _ => id) fun _ => And.left

theorem deleteOutputChain_leads (lawful : tools.Lawful)
    (kept : ∀ host, P host → OutputStands host → P (host.withOutput none)) :
    Leads P (deleteOutputChain tools faults)
      (fun _ after => P after ∧ (faults.askOutput = none → ¬ OutputStands after))
      fun after => P after ∧ faults.deleteOutput ≠ none := by
  refine deleteReady_leads (outputStatus_ready_iff lawful _) ?_ (fun host => by simp [OutputStands]) kept
  rintro host ⟨chain,present,-⟩
  obtain ⟨success,after⟩ := lawful.outputDeleted host chain present
  refine (requireDelete_deletes _ _ _ (by rw [success,after]; rfl)).imp_right fun failed => ⟨fun calm => ?_,failed.2⟩
  rw [failed.1 calm] at success
  cases success

theorem deleteRouterChain_leads (lawful : tools.Lawful)
    (kept : ∀ host, P host → RouterStands host → P (host.withChain none)) :
    Leads P (deleteRouterChain tools faults)
      (fun _ after => P after ∧ (faults.ask .listChain = none → ¬ RouterStands after))
      fun after => P after ∧ faults.change .deleteChain ≠ none := by
  refine deleteReady_leads (routerStatus_ready_iff lawful _) ?_ (fun host => by simp [RouterStands]) kept
  rintro host ⟨text,present,-⟩
  obtain ⟨success,after⟩ := lawful.chainDeleted host text present
  refine (runRequired_deletes _ (by rw [success,after]; rfl)).imp_right fun failed => ⟨fun calm => ?_,failed.2⟩
  rw [failed.1 calm] at success
  cases success

theorem deleteLegacyRule_leads (lawful : tools.Lawful)
    (kept : ∀ host, P host → legacyOwned host.legacy = true → P (host.withLegacy "")) :
    Leads P (deleteLegacyRule tools faults)
      (fun _ after => P after ∧ (faults.askLegacy = none → ¬ legacyOwned after.legacy = true)) P :=
  (@deleteReady_leads _ P _ _ _ _ _ _ True (legacyStatus_ready_iff lawful _)
    (fun host owned => (requireDelete_deletes _ _ _ (lawful.legacyDeleted host owned)).imp_right fun failed =>
      ⟨trivial,failed.2⟩)
    (fun host => by simp [Host.legacy,Host.withLegacy,legacyOwned_empty]) kept).mono (fun _ => id) (fun _ _ => id)
    fun _ => And.left

end Deletions

section Cleanups
variable {ω : Type} {tools : CleanupTools ω} {faults : CleanupFaults} {start host after : HookHost ω}

theorem Spares.put {artifact : Artifact} (owned : artifactOwned artifact (host.listing artifact) = true) (text : String) :
    Spares host (host.put artifact text) where
  rest := rfl
  listing other _ foreign := by
    refine Function.update_of_ne ?_ _ _
    rintro rfl
    rw [owned] at foreign
    cases foreign
  output _ _ := rfl
  chain _ _ := rfl
  legacy _ _ := rfl

theorem Spares.withOutput (stands : OutputStands host) : Spares host (host.withOutput none) :=
  ⟨rfl,fun _ _ _ => rfl,fun _ foreign => absurd stands foreign,fun _ _ => rfl,fun _ _ => rfl⟩

theorem Spares.withChain (stands : RouterStands host) : Spares host (host.withChain none) :=
  ⟨rfl,fun _ _ _ => rfl,fun _ _ => rfl,fun _ foreign => absurd stands foreign,fun _ _ => rfl⟩

theorem Spares.withLegacy (owned : legacyOwned host.legacy = true) : Spares host (host.withLegacy "") :=
  ⟨rfl,fun _ _ _ => rfl,fun _ _ => rfl,fun _ _ => rfl,fun _ foreign => by rw [owned] at foreign; cases foreign⟩

/-- A cleanup takes away routes and rules only where no chain of dynet's is left. -/
structure Kept (start after : HookHost ω) : Prop where
  spares : Spares start after
  stands : ∀ hook : Hook, hook.Stands after → hook.Stands start
  listing : Marked after → after.listing = start.listing

theorem Kept.anchored {family : IpVersion} (kept : Kept start after) (marked : Marked after)
    (anchored : Anchored family start) : Anchored family after := by
  intro artifact member
  rw [kept.listing marked]
  exact anchored artifact member

/-- One of the two hooks: whether its chain stands, the host without it. -/
structure Side (ω : Type) where
  stands : HookHost ω → Prop
  drop : HookHost ω → HookHost ω

/-- Dropping one chain leaves the rest, and the other chain is the only other one. -/
structure Side.Beside (own other : Side ω) : Prop where
  parts : ∀ host, Marked host ↔ own.stands host ∨ other.stands host
  spares : ∀ host, own.stands host → Spares host (own.drop host)
  listing : ∀ host, (own.drop host).listing = host.listing
  stands : ∀ (host : HookHost ω) (hook : Hook), hook.Stands (own.drop host) → hook.Stands host
  others : ∀ host, other.stands (own.drop host) ↔ other.stands host
  put : ∀ host artifact text, (own.stands (host.put artifact text) ↔ own.stands host) ∧
    (other.stands (host.put artifact text) ↔ other.stands host)
  legacy : ∀ host text, (own.stands (host.withLegacy text) ↔ own.stands host) ∧
    (other.stands (host.withLegacy text) ↔ other.stands host)

def outputSide : Side ω := ⟨OutputStands,fun host => host.withOutput none⟩

def routerSide : Side ω := ⟨RouterStands,fun host => host.withChain none⟩

theorem outputSide_stands (host : HookHost ω) (hook : Hook) (stands : hook.Stands (outputSide.drop host)) :
    hook.Stands host := by
  cases hook with
  | output =>
    obtain ⟨chain,present,-⟩ := stands
    cases present
  | router => exact stands

theorem routerSide_stands (host : HookHost ω) (hook : Hook) (stands : hook.Stands (routerSide.drop host)) :
    hook.Stands host := by
  cases hook with
  | output => exact stands
  | router =>
    obtain ⟨text,present,-⟩ := stands
    cases present

theorem outputSide_beside : (outputSide : Side ω).Beside routerSide :=
  ⟨fun _ => Iff.rfl,fun _ => .withOutput,fun _ => rfl,outputSide_stands,fun _ => Iff.rfl,
    fun _ _ _ => ⟨Iff.rfl,Iff.rfl⟩,fun _ _ => ⟨Iff.rfl,Iff.rfl⟩⟩

theorem routerSide_beside : (routerSide : Side ω).Beside outputSide :=
  ⟨fun _ => or_comm,fun _ => .withChain,fun _ => rfl,routerSide_stands,fun _ => Iff.rfl,
    fun _ _ _ => ⟨Iff.rfl,Iff.rfl⟩,fun _ _ => ⟨Iff.rfl,Iff.rfl⟩⟩

/-- No listing of the steps fails. -/
structure Candid (faults : CleanupFaults) : Prop where
  query : ∀ query, faults.ask query = none
  output : faults.askOutput = none
  legacy : faults.askLegacy = none

/-- No chain of dynet's is left, and none of the removed routes and rules. -/
structure Stripped (start : HookHost ω) (removed : List Artifact) (host : HookHost ω) : Prop where
  spares : Spares start host
  unmarked : ¬ Marked host
  gone : ∀ artifact ∈ removed, artifactOwned artifact (host.listing artifact) = false

theorem Stripped.kept {removed : List Artifact} (stripped : Stripped start removed host) : Kept start host :=
  ⟨stripped.spares,fun _ stands => absurd (Hook.marked stands) stripped.unmarked,fun marked => absurd marked stripped.unmarked⟩

theorem deleteArtifact_strips (lawful : tools.Lawful) (candid : Candid faults) (artifact : Artifact)
    (removed : List Artifact) :
    Leads (Stripped start removed) (deleteArtifact tools faults artifact) (fun _ => Stripped start (artifact::removed))
      (Kept start) := by
  refine (@deleteArtifact_leads _ tools faults (Stripped start removed) lawful artifact ?_).mono (fun _ => id) ?_
    (fun _ => Stripped.kept)
  · intro host stripped owned
    refine ⟨stripped.spares.trans (.put owned ""),stripped.unmarked,fun other member => ?_⟩
    by_cases same : other = artifact
    · simp [Host.put,same,artifactOwned_empty]
    · have still : (host.put artifact "").listing other = host.listing other := Function.update_of_ne same _ _
      rw [still]
      exact stripped.gone other member
  · rintro _ after ⟨stripped,gone⟩
    refine ⟨stripped.spares,stripped.unmarked,List.forall_mem_cons.mpr ⟨?_,stripped.gone⟩⟩
    exact Bool.not_eq_true _ ▸ gone (candid.query _)

theorem deleteFamilyHooks_strips (lawful : tools.Lawful) (candid : Candid faults) (family : IpVersion)
    (removed : List Artifact) :
    Leads (Stripped start removed) (deleteFamilyHooks tools faults family)
      (fun _ => Stripped start ([.route family,.rule family] ++ removed)) (Kept start) :=
  .bind (deleteArtifact_strips lawful candid (.rule family) removed) fun _ =>
    .bind (deleteArtifact_strips lawful candid (.route family) _) fun _ => .pure fun _ => id

/-- What a cleanup that reports no error leaves. -/
structure Tidy (own other : Side ω) (start after : HookHost ω) : Prop where
  kept : Kept start after
  dropped : ¬ own.stands after
  others : other.stands after ↔ other.stands start
  listing : ¬ other.stands after → ∀ artifact, artifactOwned artifact (after.listing artifact) = false
  legacy : legacyOwned after.legacy = false

theorem cleanupHook_leads (lawful : tools.Lawful) (candid : Candid faults) {own other : Side ω} (beside : own.Beside other)
    {checks : HookHost ω → List TakeoverCheck} {deleteChain : Script (HookHost ω) (List String)}
    {otherStatus : HookHost ω → CheckState} (status : ∀ host, otherStatus host = .ready ↔ other.stands host)
    (deletes : ∀ P : HookHost ω → Prop, (∀ host, P host → own.stands host → P (own.drop host)) →
      Leads P deleteChain (fun _ after => P after ∧ ¬ own.stands after) P) (start : HookHost ω) :
    Leads (· = start) (cleanupHook tools faults checks deleteChain otherStatus) (fun _ => Tidy own other start)
      (Kept start) := by
  let Early (host : HookHost ω) : Prop := Kept start host ∧ host.listing = start.listing ∧
    (other.stands host ↔ other.stands start)
  have refused : Kept start start := ⟨.refl start,fun _ => id,fun _ => rfl⟩
  have dropped (host : HookHost ω) (early : Early host) (stands : own.stands host) : Early (own.drop host) := by
    obtain ⟨kept,listing,others⟩ := early
    have same := (beside.listing host).trans listing
    exact ⟨⟨kept.spares.trans (beside.spares host stands),fun hook after => kept.stands hook (beside.stands host hook after),
      fun _ => same⟩,same,(beside.others host).trans others⟩
  refine .trying (fun _ _ => ?_) fun _ _ => refused
  refine .bind ((deletes Early dropped).mono ?_ (fun _ _ => id) fun _ early => early.1) fun _ => ?_
  · rintro _ rfl
    exact ⟨refused,rfl,Iff.rfl⟩
  refine .known fun host ⟨⟨kept,listing,others⟩,gone⟩ => ?_
  let Late (after : HookHost ω) : Prop := Kept start after ∧ ¬ own.stands after ∧
    (other.stands after ↔ other.stands start) ∧
    (¬ other.stands after → ∀ artifact, artifactOwned artifact (after.listing artifact) = false)
  refine .bind (Q := fun _ => Late) (.reading ?_) fun _ => ?_
  · by_cases shared : other.stands host
    · rw [if_neg (not_not.mpr ((status host).mpr shared))]
      refine .pure ?_
      rintro _ rfl
      exact ⟨kept,gone,others,fun alone => absurd shared alone⟩
    · rw [if_pos (fun ready => shared ((status host).mp ready))]
      have stripped : Stripped start [] host :=
        ⟨kept.spares,fun marked => ((beside.parts host).mp marked).elim gone shared,fun _ member => by cases member⟩
      have all (artifact : Artifact) :
          artifact ∈ [.route .v4,.rule .v4] ++ ([.route .v6,.rule .v6] ++ ([] : List Artifact)) := by
        rcases artifact with family | family
        all_goals cases family <;> simp
      have strips : Leads (Stripped start []) (deleteFamilyHooks tools faults .v6 >>= fun v6 =>
          deleteFamilyHooks tools faults .v4 >>= fun v4 => pure (v6 ++ v4))
          (fun _ => Stripped start ([.route .v4,.rule .v4] ++ ([.route .v6,.rule .v6] ++ []))) (Kept start) :=
        .bind (deleteFamilyHooks_strips lawful candid .v6 []) fun _ =>
          .bind (deleteFamilyHooks_strips lawful candid .v4 _) fun _ => .pure fun _ => id
      refine strips.mono ?_ ?_ (fun _ => id)
      · rintro _ rfl
        exact stripped
      · rintro _ after done
        have alone : ¬ other.stands after := fun stands => done.unmarked ((beside.parts after).mpr (.inr stands))
        refine ⟨done.kept,fun stands => done.unmarked ((beside.parts after).mpr (.inl stands)),?_,
          fun _ artifact => done.gone _ (all artifact)⟩
        exact ⟨fun stands => absurd stands alone,fun stands => absurd (others.mpr stands) shared⟩
  refine .bind ((@deleteLegacyRule_leads _ tools faults Late lawful ?_).mono (fun _ => id)
    (fun _ _ => id) fun _ late => late.1)
    fun _ => .pure ?_
  · rintro before ⟨kept,gone,others,bare⟩ owned
    have same := beside.legacy before ""
    have stands (hook : Hook) (after : hook.Stands (before.withLegacy "")) : hook.Stands start := by
      refine kept.stands hook ?_
      cases hook with
      | output => exact after
      | router => exact after
    refine ⟨⟨kept.spares.trans (.withLegacy owned),stands,kept.listing⟩,mt same.1.mp gone,same.2.trans others,?_⟩
    rw [same.2]
    exact bare
  · rintro after ⟨⟨kept,gone,others,bare⟩,former⟩
    exact ⟨kept,gone,others,bare,Bool.not_eq_true _ ▸ former candid.legacy⟩

theorem hooksCleanup_leads (lawful : tools.Lawful) (candid : Candid faults) (start : HookHost ω) :
    Leads (· = start) (hooksCleanup tools faults) (fun _ => Tidy outputSide routerSide start) (Kept start) := by
  refine cleanupHook_leads lawful candid outputSide_beside (fun host => ?_) (fun P dropped => ?_) start
  · rw [routerStatus_ready_iff lawful,and_iff_right (candid.query _)]
    exact Iff.rfl
  · exact (deleteOutputChain_leads lawful dropped).mono (fun _ => id) (fun _ _ ended => ⟨ended.1,ended.2 candid.output⟩)
      fun _ => And.left

theorem routerHooksCleanup_leads (lawful : tools.Lawful) (candid : Candid faults) (start : HookHost ω) :
    Leads (· = start) (routerHooksCleanup tools faults) (fun _ => Tidy routerSide outputSide start) (Kept start) := by
  refine cleanupHook_leads lawful candid routerSide_beside (fun host => ?_) (fun P dropped => ?_) start
  · rw [outputStatus_ready_iff lawful,and_iff_right candid.output]
    exact Iff.rfl
  · exact (deleteRouterChain_leads lawful dropped).mono (fun _ => id) (fun _ _ ended => ⟨ended.1,ended.2 (candid.query _)⟩)
      fun _ => And.left

end Cleanups

section Applies
variable {ω : Type} {tools : CleanupTools ω} {faults : CleanupFaults} {start after : HookHost ω} {artifacts : List Artifact}

/-- The apply of a hook adds its chain only where the routes and rules in use are dynet's. -/
structure Raised (hook : Hook) (artifacts : List Artifact) (start after : HookHost ω) : Prop where
  spares : Spares start after
  listing : ∀ artifact, artifactOwned artifact (start.listing artifact) = true →
    artifactOwned artifact (after.listing artifact) = true
  stands : ∀ other : Hook, other.Stands after → other.Stands start ∨
    other = hook ∧ ∀ artifact ∈ artifacts, artifactOwned artifact (after.listing artifact) = true

theorem Raised.refl (hook : Hook) (artifacts : List Artifact) (host : HookHost ω) : Raised hook artifacts host host :=
  ⟨.refl host,fun _ => id,fun _ stands => .inl stands⟩

theorem Raised.anchored {hook : Hook} {family : IpVersion} (raised : Raised hook artifacts start after)
    (anchored : Anchored family start) : Anchored family after :=
  fun artifact member => raised.listing artifact (anchored artifact member)

/-- No listing fails, neither of the checks nor of the steps. -/
structure Truthful (faults : CleanupFaults) : Prop extends Candid faults where
  check : ∀ query, faults.check query = none
  checkOutput : faults.checkOutput = none

/-- The host with routes and rules added where there were none, and its chains changed only
under a condition. -/
theorem installed_raised (tools : CleanupTools ω) {hook : Hook} {added : List Artifact}
    (absent : ∀ artifact ∈ added, start.listing artifact = "")
    {output : Option OutputChain} {chain : Option String}
    (outputs : output = start.rest.output ∨ (hook = .output ∧ start.rest.output = none) ∧
      ∀ artifact ∈ artifacts, artifactOwned artifact ((installed tools.toTools added start).listing artifact) = true)
    (chains : chain = start.chain ∨ (hook = .router ∧ start.chain = none) ∧
      ∀ artifact ∈ artifacts, artifactOwned artifact ((installed tools.toTools added start).listing artifact) = true) :
    Raised hook artifacts start (((installed tools.toTools added start).withChain chain).withOutput output) where
  spares := by
    refine ⟨rfl,fun artifact present _ => if_neg fun member => present (absent artifact member),fun present _ => ?_,
      fun present _ => ?_,fun _ _ => rfl⟩
    · exact outputs.resolve_right fun changed => present changed.1.2
    · exact chains.resolve_right fun changed => present changed.1.2
  listing artifact owned := by
    have kept : (installed tools.toTools added start).listing artifact = start.listing artifact :=
      if_neg fun member => artifactOwned_some owned (absent artifact member)
    exact (congrArg (artifactOwned artifact) kept).trans owned
  stands other standing := by
    cases other with
    | output =>
      obtain ⟨found,present,owned⟩ := standing
      exact outputs.imp (fun same => ⟨found,same.symm.trans present,owned⟩) fun ⟨⟨own,_⟩,owns⟩ => ⟨own.symm,owns⟩
    | router =>
      obtain ⟨text,present,owned⟩ := standing
      exact chains.imp (fun same => ⟨text,same.symm.trans present,owned⟩) fun ⟨⟨own,_⟩,owns⟩ => ⟨own.symm,owns⟩

theorem ensureAll_installs (lawful : tools.Lawful) (distinct : artifacts.Nodup)
    (settled : ∀ artifact ∈ artifacts, Settled start artifact) :
    ∃ added, (∀ artifact ∈ added, start.listing artifact = "") ∧
      (ensureAll tools.toTools faults.toFaults artifacts ⟨start,[]⟩).2.host = installed tools.toTools added start ∧
      ((ensureAll tools.toTools faults.toFaults artifacts ⟨start,[]⟩).1 = .ok () →
        ∀ artifact ∈ artifacts, artifactOwned artifact ((installed tools.toTools added start).listing artifact) =
          true) := by
  have begin : Added tools.toTools start [] ⟨start,[]⟩ := ⟨rfl,by simp [installed],by simp,by simp⟩
  obtain ⟨⟨added,made⟩,-⟩ := @ensureAll_spec _ tools.toTools faults.toFaults start lawful.toLawful _ distinct settled _ _
    (fun _ _ => List.not_mem_nil) begin
  obtain ⟨-,-,owned⟩ := @ensureAll_grown _ tools.toOutputTools faults.toOutputFaults lawful.toOutputLawful _ distinct
    ⟨start,[]⟩ settled
  rw [made.host] at owned
  exact ⟨added,made.absent,made.host,owned⟩

theorem ensureOutputChain_left (lawful : tools.Lawful) (truthful : Truthful faults) {options : HookOptions}
    {progress : Progress (Beside (Legacy ω))}
    (expected : ∀ chain, progress.host.rest.output = some chain → outputIsOwned chain.text (some options) = true) :
    ∃ output, (ensureOutputChain tools.toOutputTools faults.toOutputFaults options progress).2.host =
        progress.host.withOutput output ∧
      (output = progress.host.rest.output ∨ progress.host.rest.output = none) := by
  cases present : progress.host.rest.output with
  | none =>
    obtain ⟨result,output,actions,ran,-⟩ := @ensureOutputChain_cases _ tools.toOutputTools faults.toOutputFaults options
      lawful.toOutputLawful progress expected
    exact ⟨output,by rw [ran],.inr rfl⟩
  | some chain =>
    have ready : outputChainStatus tools.toOutputTools faults.askOutput (some options) progress.host = .ready := by
      rw [truthful.output,outputChainStatus_present lawful.toOutputLawful present,if_pos (expected chain present)]
    rw [ensureOutputChain,if_pos ready]
    exact ⟨some chain,by rw [← present]; rfl,.inl rfl⟩

theorem ensureRouterChain_left (lawful : tools.Lawful) (truthful : Truthful faults) {options : RouterHookOptions}
    {progress : Progress (Beside (Legacy ω))}
    (expected : ∀ text, progress.host.chain = some text → routerChainIsExpected text (some options) = true) :
    ∃ chain, (ensureRouterChain tools.toTools faults.toFaults options progress).2.host = progress.host.withChain chain ∧
      (chain = progress.host.chain ∨ progress.host.chain = none) := by
  unfold ensureRouterChain
  rw [truthful.query .listChain]
  split
  · exact ⟨progress.host.chain,rfl,.inl rfl⟩
  · rename_i missing
    have absent : progress.host.chain = none := by
      cases present : progress.host.chain with
      | none => rfl
      | some text =>
        rw [chainStatus_present lawful.toLawful present,if_pos (expected text present)] at missing
        exact absurd rfl missing
    cases faults.change .addChain with
    | some fault =>
      obtain ⟨error,failed⟩ := runRequired_fault tools.toTools (Option.some_ne_none fault) .addChain progress.host
      rw [failed]
      exact ⟨progress.host.chain,rfl,.inl rfl⟩
    | none =>
      obtain ⟨success,text,made⟩ := lawful.chainAdded progress.host absent
      obtain ⟨longer,grown⟩ := @addRules_keeps _ tools.toTools faults.toFaults lawful.toLawful (routerRules options) 0 _ _
        (Host.withChain_chain progress.host (some text))
      rw [runRequired_done success,made]
      rcases added : addRules tools.toTools faults.toFaults 0 (routerRules options) (progress.host.withChain (some text))
        with ⟨_ | _,last⟩
      all_goals
        rw [added] at grown
        simp only [added]
        exact ⟨some longer,grown,.inr absent⟩

/-- The steps of either apply, the last one being for its chain. -/
theorem steps_raised (lawful : tools.Lawful) {hook : Hook} (distinct : artifacts.Nodup)
    (settled : ∀ artifact ∈ artifacts, Settled start artifact)
    {last : Progress (Beside (Legacy ω)) → Except String Unit × Progress (Beside (Legacy ω))}
    (lasts : ∀ next, next.host.rest.output = start.rest.output → next.host.chain = start.chain → ∃ output chain,
      (last next).2.host = (next.host.withChain chain).withOutput output ∧
        (output = start.rest.output ∨ hook = .output ∧ start.rest.output = none) ∧
        (chain = start.chain ∨ hook = .router ∧ start.chain = none)) :
    Raised hook artifacts start (andThen (ensureAll tools.toTools faults.toFaults artifacts ⟨start,[]⟩) last).2.host := by
  obtain ⟨added,absent,host,owned⟩ := @ensureAll_installs _ tools faults start _ lawful distinct settled
  rcases steps : ensureAll tools.toTools faults.toFaults artifacts ⟨start,[]⟩ with ⟨result,next⟩
  rw [steps] at host owned
  change next.host = _ at host
  cases result with
  | error error =>
    change Raised _ _ start next.host
    rw [host]
    exact installed_raised tools absent (.inl rfl) (.inl rfl)
  | ok done =>
    obtain ⟨output,chain,left,outputs,chains⟩ := lasts next (by rw [host]; rfl) (by rw [host]; rfl)
    change Raised _ _ start (last next).2.host
    rw [left,host]
    exact installed_raised tools absent (outputs.imp_right fun changed => ⟨changed,owned rfl⟩)
      (chains.imp_right fun changed => ⟨changed,owned rfl⟩)

theorem hooksApply_raised (lawful : tools.Lawful) (truthful : Truthful faults) (status : TakeoverStatus)
    (options : HookOptions)
    (start : HookHost ω) : Raised .output options.artifacts start
      (hooksApply tools.toOutputTools faults.toOutputFaults status options start).2 := by
  have honest : permitHooks tools.toOutputTools faults.toOutputFaults status options start =
      permitHooks tools.toOutputTools quiet status options start := by
    have checks : faults.check = quiet.check := funext truthful.check
    simp only [permitHooks,checks,truthful.checkOutput]
    rfl
  unfold hooksApply
  split
  · exact .refl _ _ start
  · rename_i permitted
    rw [honest,permitHooks_iff lawful.toOutputLawful] at permitted
    obtain ⟨-,settled,expected⟩ := permitted
    have left : Raised .output options.artifacts start
      (attemptHooks tools.toOutputTools faults.toOutputFaults options start).2.host := by
      rw [attemptHooks_eq]
      refine steps_raised lawful (hookArtifacts_nodup options) settled fun next output chain => ?_
      obtain ⟨later,last,changes⟩ := @ensureOutputChain_left _ tools faults lawful truthful options next (by rwa [output])
      rw [output] at changes
      exact ⟨later,next.host.chain,last,changes.imp_right fun none => ⟨rfl,none⟩,.inl chain⟩
    rcases attempted : attemptHooks tools.toOutputTools faults.toOutputFaults options start with ⟨_ | _,progress⟩
    all_goals
      rw [attempted] at left
      exact left

/-- A rollback that stops has taken back some of what was added. -/
theorem rollback_left (lawful : tools.Lawful) {added : List Artifact} (distinct : added.Nodup)
    (absent : ∀ artifact ∈ added, start.listing artifact = "") (chain : Option String) : ∃ left, left ⊆ added ∧
      (rollbackRouterApply tools.toTools faults.toFaults (added.map created)
        ((installed tools.toTools added start).withChain chain)).2 =
        (installed tools.toTools left start).withChain chain := by
  induction added with
  | nil => exact ⟨[],List.Subset.refl _,rfl⟩
  | cons artifact added ih =>
    obtain ⟨fresh,distinct⟩ := List.nodup_cons.mp distinct
    obtain ⟨here,absent⟩ := List.forall_mem_cons.mp absent
    obtain ⟨left,inside,after⟩ := ih distinct absent
    have listed : ((installed tools.toTools (artifact::added) start).withChain chain).listing artifact =
      tools.entry artifact := by
      simp [installed]
    obtain ⟨success,taken⟩ := lawful.deleted artifact _ listed
    rw [installed_cons fresh here] at taken
    simp only [List.map_cons,rollbackRouterApply,undoing_created]
    cases faults.undo (.delete artifact) with
    | none =>
      simp only [runRequired_done success,taken]
      exact ⟨left,List.subset_cons_of_subset _ inside,after⟩
    | some fault =>
      obtain ⟨error,failed⟩ := runRequired_fault tools.toTools (Option.some_ne_none fault) (.delete artifact)
        ((installed tools.toTools (artifact::added) start).withChain chain)
      simp only [failed]
      exact ⟨artifact::added,List.Subset.refl _,rfl⟩

theorem routerHooksApply_raised (lawful : tools.Lawful) (truthful : Truthful faults) (status : TakeoverStatus)
    (options : RouterHookOptions) (start : HookHost ω) : Raised .router options.artifacts start
      (routerHooksApply tools.toTools faults.toFaults status options start).2 := by
  unfold routerHooksApply
  split
  · exact .refl _ _ start
  · rename_i permitted
    rw [show faults.check = fun _ => none from funext truthful.check] at permitted
    obtain ⟨settled,expected⟩ := Permitted.settles lawful.toLawful permitted
    have left : Raised .router options.artifacts start (attempt tools.toTools faults.toFaults options start).2.host := by
      rw [attempt_eq]
      refine steps_raised lawful (artifacts_nodup options) settled fun next output chain => ?_
      obtain ⟨later,last,changes⟩ := @ensureRouterChain_left _ tools faults lawful truthful options next (by rwa [chain])
      rw [chain] at changes
      exact ⟨next.host.rest.output,later,last,.inl output,changes.imp_right fun none => ⟨rfl,none⟩⟩
    split
    · rename_i attempted
      rwa [attempted] at left
    · rename_i error progress failed
      rw [failed] at left
      suffices undone : Raised .router options.artifacts start
          (rollbackRouterApply tools.toTools faults.toFaults progress.actions.reverse progress.host).2 by
        rcases rolled : rollbackRouterApply tools.toTools faults.toFaults progress.actions.reverse progress.host with
          ⟨_ | _,after⟩
        all_goals
          rw [rolled] at undone
          exact undone
      obtain ⟨added,distinct,absent,reached⟩ := attempt_failed lawful.toLawful settled expected failed
      have back (chain : Option String) := @rollback_left _ tools faults start lawful _ (List.nodup_reverse.mpr distinct)
        (fun artifact member => absent artifact (List.mem_reverse.mp member)) chain
      simp only [installed_reverse,List.map_reverse,List.subset_def,List.mem_reverse] at back
      rcases reached with ⟨actions,host⟩ | ⟨cause,actions,text,host⟩
      · obtain ⟨remaining,inside,rolled⟩ := back start.chain
        rw [actions,host]
        refine rolled ▸ installed_raised tools (fun artifact member => absent artifact (inside member)) (.inl rfl)
          (.inl rfl)
      · have absentChain : start.chain = none := cause.resolve_right fun unseen => unseen.2.1 (truthful.query _)
        rw [actions,List.reverse_concat,rollbackRouterApply,undoing_createdChain]
        cases failing : faults.undo .deleteChain with
        | some fault =>
          obtain ⟨error,stopped⟩ := runRequired_fault tools.toTools (Option.some_ne_none fault) .deleteChain progress.host
          simp only [failing,stopped]
          exact left
        | none =>
          obtain ⟨success,removed⟩ := lawful.chainDeleted progress.host text (by rw [host]; rfl)
          obtain ⟨remaining,inside,rolled⟩ := back none
          rw [host,Host.withChain_withChain] at removed
          rw [host] at success ⊢
          simp only [failing,runRequired_done success,removed,rolled]
          exact installed_raised tools (fun artifact member => absent artifact (inside member)) (.inl rfl)
            (.inl absentChain.symm)

end Applies

section Runs
variable {ω : Type} {tools : CleanupTools ω} {start : HookHost ω}

/-- What is done to the host, and which commands of it fail. -/
inductive HookOperation where
  | applyHooks (faults : CleanupFaults) (status : TakeoverStatus) (options : HookOptions)
  | applyRouter (faults : CleanupFaults) (status : TakeoverStatus) (options : RouterHookOptions)
  | cleanupHooks (faults : CleanupFaults)
  | cleanupRouter (faults : CleanupFaults)

namespace HookOperation

def faults : HookOperation → CleanupFaults
  | .applyHooks faults _ _ => faults
  | .applyRouter faults _ _ => faults
  | .cleanupHooks faults => faults
  | .cleanupRouter faults => faults

/-- An apply of the hook is for the family too. -/
def For (hook : Hook) (family : IpVersion) : HookOperation → Prop
  | .applyHooks _ _ options => hook = .output → ∀ artifact ∈ familyArtifacts family, artifact ∈ options.artifacts
  | .applyRouter _ _ options => hook = .router → ∀ artifact ∈ familyArtifacts family, artifact ∈ options.artifacts
  | _ => True

/-- The host after the operation, whether it reports an error or not. -/
def perform (tools : CleanupTools ω) (host : HookHost ω) : HookOperation → HookHost ω
  | .applyHooks faults status options => (hooksApply tools.toOutputTools faults.toOutputFaults status options host).2
  | .applyRouter faults status options => (routerHooksApply tools.toTools faults.toFaults status options host).2
  | .cleanupHooks faults => ((hooksCleanup tools faults).exec host).2
  | .cleanupRouter faults => ((routerHooksCleanup tools faults).exec host).2

/-- One operation spares what is not dynet's. A chain that stands behind it stood in front of
it or has been put up for its families, and then these are anchored; those that were anchored
under it still are. -/
theorem perform_sound (lawful : tools.Lawful) (operation : HookOperation) (truthful : Truthful operation.faults)
    {hook : Hook} {family : IpVersion} :
    Spares start (operation.perform tools start) ∧ (hook.Stands (operation.perform tools start) →
      (hook.Stands start ∨ (operation.For hook family → Anchored family (operation.perform tools start))) ∧
      (Anchored family start → Anchored family (operation.perform tools start))) := by
  cases operation with
  | applyHooks faults status options =>
    have raised := hooksApply_raised lawful truthful status options start
    refine ⟨raised.spares,fun stands => ⟨(raised.stands hook stands).imp_right ?_,raised.anchored⟩⟩
    rintro ⟨rfl,owned⟩ used artifact member
    exact owned artifact (used rfl artifact member)
  | applyRouter faults status options =>
    have raised := routerHooksApply_raised lawful truthful status options start
    refine ⟨raised.spares,fun stands => ⟨(raised.stands hook stands).imp_right ?_,raised.anchored⟩⟩
    rintro ⟨rfl,owned⟩ used artifact member
    exact owned artifact (used rfl artifact member)
  | cleanupHooks faults =>
    have kept : Kept start ((hooksCleanup tools faults).exec start).2 :=
      ((hooksCleanup_leads lawful truthful.toCandid start).mono (fun _ => id) (fun _ _ => Tidy.kept) (fun _ => id)).left rfl
    exact ⟨kept.spares,fun stands => ⟨.inl (kept.stands hook stands),kept.anchored (Hook.marked stands)⟩⟩
  | cleanupRouter faults =>
    have kept : Kept start ((routerHooksCleanup tools faults).exec start).2 :=
      ((routerHooksCleanup_leads lawful truthful.toCandid start).mono (fun _ => id) (fun _ _ => Tidy.kept)
      (fun _ => id)).left rfl
    exact ⟨kept.spares,fun stands => ⟨.inl (kept.stands hook stands),kept.anchored (Hook.marked stands)⟩⟩

theorem for_v4 (operation : HookOperation) (hook : Hook) : operation.For hook .v4 := by
  cases operation with
  | applyHooks faults status options => exact fun _ artifact member => List.mem_append_left _ member
  | applyRouter faults status options => exact fun _ artifact member => List.mem_append_left _ member
  | cleanupHooks faults => trivial
  | cleanupRouter faults => trivial

end HookOperation

/-- The host after a run of operations, any of which may fail in the middle. -/
def hostAfter (tools : CleanupTools ω) (start : HookHost ω) (operations : List HookOperation) : HookHost ω :=
  operations.foldl (HookOperation.perform tools) start

/-- The chain of the hook that stands at the end was put up for the family; `before` says so
of the one that stands at the start. -/
def PutUp (tools : CleanupTools ω) (hook : Hook) (family : IpVersion) (before : Prop) (host : HookHost ω) :
    List HookOperation → Prop
  | [] => before
  | operation::rest => PutUp tools hook family
    (hook.Stands host ∧ before ∨ ¬ hook.Stands host ∧ operation.For hook family) (operation.perform tools host) rest

theorem putUp_always {hook : Hook} {family : IpVersion} {before : Prop} (held : before) (host : HookHost ω)
    {operations : List HookOperation} (used : ∀ operation ∈ operations, operation.For hook family) :
    PutUp tools hook family before host operations := by
  induction operations generalizing before host with
  | nil => exact held
  | cons operation rest ih =>
    obtain ⟨uses,used⟩ := List.forall_mem_cons.mp used
    refine ih ?_ _ used
    by_cases stands : hook.Stands host
    · exact .inl ⟨stands,held⟩
    · exact .inr ⟨stands,uses⟩

theorem run_anchored (lawful : tools.Lawful) {hook : Hook} {family : IpVersion} {before : Prop}
    (anchored : before → hook.Stands start → Anchored family start) (operations : List HookOperation)
    (truthful : ∀ operation ∈ operations, Truthful operation.faults) :
    Spares start (hostAfter tools start operations) ∧
      (PutUp tools hook family before start operations → hook.Stands (hostAfter tools start operations) →
        Anchored family (hostAfter tools start operations)) := by
  induction operations generalizing start before with
  | nil => exact ⟨.refl start,anchored⟩
  | cons operation rest ih =>
    obtain ⟨honest,truthful⟩ := List.forall_mem_cons.mp truthful
    obtain ⟨spares,stands⟩ := @HookOperation.perform_sound ω tools start lawful operation honest hook family
    refine (ih ?_ truthful).imp_left spares.trans
    intro put standing
    obtain ⟨raised,still⟩ := stands standing
    rcases put with ⟨stood,held⟩ | ⟨absent,uses⟩
    · exact still (anchored held stood)
    · exact raised.resolve_left absent uses

/-- Over every run in which the listings tell the truth and any other command may fail, what
is not dynet's stays as it was, and a chain of dynet's keeps the route and the rule of each
family that it was put up for as long as it stands: those of IPv4 always. -/
theorem shared_hooks_anchored (lawful : tools.Lawful) (hook : Hook) (family : IpVersion)
    (anchored : hook.Stands start → Anchored family start) (operations : List HookOperation)
    (truthful : ∀ operation ∈ operations, Truthful operation.faults) :
    Spares start (hostAfter tools start operations) ∧
      (family = .v4 ∨ PutUp tools hook family True start operations → hook.Stands (hostAfter tools start operations) →
        Anchored family (hostAfter tools start operations)) := by
  refine (run_anchored lawful (fun _ => anchored) operations truthful).imp_right fun ends put => ends (put.elim ?_ id)
  rintro rfl
  exact putUp_always trivial start fun operation _ => operation.for_v4 hook

theorem Tidy.bare {own other : Side ω} {middle after : HookHost ω} (beside : own.Beside other)
    (first : Tidy own other start middle)
    (second : Tidy other own middle after) : Bare after where
  unmarked marked := ((beside.parts after).mp marked).elim
    (fun stands => first.dropped (second.others.mp stands)) second.dropped
  listing := second.listing fun stands => first.dropped (second.others.mp stands)
  legacy := second.legacy

/-- After both cleanups, in either order, nothing of dynet's is left, and nothing else is
gone. -/
theorem cleanups_leave_bare (lawful : tools.Lawful) {first second : CleanupFaults} (candid : Candid first)
    (again : Candid second)
    (start : HookHost ω) {actions more : List String} {middle after : HookHost ω}
    (ran : (hooksCleanup tools first).exec start = (.ok actions,middle) ∧
        (routerHooksCleanup tools second).exec middle = (.ok more,after) ∨
      (routerHooksCleanup tools first).exec start = (.ok actions,middle) ∧
        (hooksCleanup tools second).exec middle = (.ok more,after)) : Bare after ∧ Spares start after := by
  have ended {script : Script (HookHost ω) (List String)} {before final : HookHost ω} {result : List String}
    {own other : Side ω}
      (leads : Leads (· = before) script (fun _ => Tidy own other before) (Kept before))
      (ran : script.exec before = (.ok result,final)) : Tidy own other before final := by
    rcases leads before rfl with ⟨_,_,same,tidy⟩ | ⟨_,_,same,-⟩
    · cases ran.symm.trans same
      exact tidy
    · cases ran.symm.trans same
  rcases ran with ⟨one,two⟩ | ⟨one,two⟩
  · have tidy := ended (hooksCleanup_leads lawful candid start) one
    have last := ended (routerHooksCleanup_leads lawful again middle) two
    exact ⟨tidy.bare outputSide_beside last,tidy.kept.spares.trans last.kept.spares⟩
  · have tidy := ended (routerHooksCleanup_leads lawful candid start) one
    have last := ended (hooksCleanup_leads lawful again middle) two
    exact ⟨tidy.bare routerSide_beside last,tidy.kept.spares.trans last.kept.spares⟩

end Runs

section Listings
variable {ω : Type} {tools : CleanupTools ω} {faults : CleanupFaults} {start host : HookHost ω}

/-- No command fails. -/
def calm : CleanupFaults := ⟨quiet,none,none,none,none⟩

/-- A cleanup leaves the routes and rules if the other hook's status is ready, whatever
fails. -/
theorem cleanupHook_keeps (lawful : tools.Lawful) {own other : Side ω} (beside : own.Beside other)
    {checks : HookHost ω → List TakeoverCheck} {deleteChain : Script (HookHost ω) (List String)}
    {otherStatus : HookHost ω → CheckState} (status : ∀ host, other.stands host → otherStatus host = .ready)
    (deletes : ∀ P : HookHost ω → Prop, (∀ host, P host → own.stands host → P (own.drop host)) →
      Leads P deleteChain (fun _ => P) P) (stands : other.stands start) :
    (((cleanupHook tools faults checks deleteChain otherStatus).exec start).2).listing = start.listing := by
  let Held (host : HookHost ω) : Prop := host.listing = start.listing ∧ other.stands host
  suffices held : Leads Held (cleanupHook tools faults checks deleteChain otherStatus) (fun _ => Held) Held from
    (held.left ⟨rfl,stands⟩).1
  refine .known fun host holds => .trying (fun _ _ => ?_) fun _ _ => holds
  refine .bind ((deletes Held fun host ⟨same,stands⟩ _ => ?_).mono ?_ (fun _ _ => id) fun _ => id) fun _ => ?_
  · exact ⟨(beside.listing host).trans same,(beside.others host).mpr stands⟩
  · rintro _ rfl
    exact holds
  refine .bind (Q := fun _ => Held) (.known fun host ⟨same,stands⟩ => .reading ?_) fun _ => ?_
  · rw [if_neg (not_not.mpr (status host stands))]
    refine .pure ?_
    rintro _ rfl
    exact ⟨same,stands⟩
  · refine .bind ((@deleteLegacyRule_leads _ tools faults Held lawful ?_).mono (fun _ => id)
    (fun _ _ => And.left) fun _ => id)
      fun _ => .pure fun _ => id
    exact fun host ⟨same,stands⟩ _ => ⟨same,(beside.legacy host "").2.mpr stands⟩

/-- Routes and rules are absent or as dynet adds them, and some of them are gone. -/
structure Emptied (tools : CleanupTools ω) (removed : List Artifact) (host : HookHost ω) : Prop where
  entries : ∀ artifact, host.listing artifact = "" ∨ host.listing artifact = tools.entry artifact
  gone : ∀ artifact ∈ removed, host.listing artifact = ""

theorem deleteArtifact_empties (lawful : tools.Lawful) (artifact : Artifact) (removed : List Artifact)
    (told : faults.ask (.listArtifact artifact) = none) (done : faults.change (.delete artifact) = none) :
    Leads (Emptied tools removed) (deleteArtifact tools faults artifact) (fun _ => Emptied tools (artifact::removed))
      fun _ => False := by
  refine .known fun host ⟨entries,gone⟩ => .reading ?_
  rcases entries artifact with absent | entry
  · rw [told,artifactStatus_absent lawful.toLawful absent,if_pos (by simp)]
    refine .pure ?_
    rintro _ rfl
    exact ⟨entries,List.forall_mem_cons.mpr ⟨absent,gone⟩⟩
  · have owned : artifactOwned artifact (host.listing artifact) = true := by
      rw [entry]
      exact lawful.recognised artifact
    obtain ⟨success,after⟩ := lawful.deleted artifact host entry
    rw [told,artifactStatus_present lawful.toLawful (artifactOwned_some owned),if_pos owned,if_neg (by simp)]
    rintro _ rfl
    rw [Script.exec_bind,Script.exec_step,done,runRequired_done success,after]
    refine .inl ⟨_,_,rfl,fun other => ?_,fun other member => ?_⟩
    · by_cases same : other = artifact
      · simp [Host.put,same]
      · simpa [Host.put,same] using entries other
    · by_cases same : other = artifact
      · simp [Host.put,same]
      · simpa [Host.put,same] using gone other ((List.mem_cons.mp member).resolve_left same)

theorem deleteFamilyHooks_empties (lawful : tools.Lawful) (family : IpVersion) (removed : List Artifact)
    (told : ∀ artifact, faults.ask (.listArtifact artifact) = none)
    (done : ∀ artifact, faults.change (.delete artifact) = none) :
    Leads (Emptied tools removed) (deleteFamilyHooks tools faults family)
      (fun _ => Emptied tools ([.route family,.rule family] ++ removed)) fun _ => False :=
  .bind (deleteArtifact_empties lawful (.rule family) removed (told _) (done _)) fun _ =>
    .bind (deleteArtifact_empties lawful (.route family) _ (told _) (done _)) fun _ => .pure fun _ => id

/-- A cleanup in which nothing fails but the listing of the other hook's chain takes every
route and rule. -/
theorem cleanupHook_empties (lawful : tools.Lawful) {own : Side ω} (drops : ∀ host, (own.drop host).listing = host.listing)
    {checks : HookHost ω → List TakeoverCheck} {deleteChain : Script (HookHost ω) (List String)}
    {otherStatus : HookHost ω → CheckState} (status : ∀ host, otherStatus host ≠ .ready)
    (deletes : ∀ P : HookHost ω → Prop, (∀ host, P host → own.stands host → P (own.drop host)) →
      Leads P deleteChain (fun _ => P) fun _ => False)
    (told : ∀ artifact, faults.ask (.listArtifact artifact) = none)
    (done : ∀ artifact, faults.change (.delete artifact) = none)
    (clear : rejectHookCollisions (checks start) = .ok ())
    (entries : ∀ artifact, start.listing artifact = "" ∨ start.listing artifact = tools.entry artifact) :
    (((cleanupHook tools faults checks deleteChain otherStatus).exec start).2).listing = fun _ => "" := by
  let Empty (host : HookHost ω) : Prop := host.listing = fun _ => ""
  suffices empties : Leads (· = start) (cleanupHook tools faults checks deleteChain otherStatus) (fun _ => Empty) Empty from
    empties.left rfl
  refine .trying (fun _ _ => ?_) fun message refused => ?_
  · refine .bind ((deletes (Emptied tools []) ?_).mono ?_ (fun _ _ => id) fun _ => False.elim) fun _ => ?_
    · rintro host ⟨entries,gone⟩ -
      exact ⟨by rwa [drops],by rwa [drops]⟩
    · rintro _ rfl
      exact ⟨entries,fun _ member => by cases member⟩
    refine .bind (Q := fun _ => Empty) (.known fun host emptied => .reading ?_) fun _ => ?_
    · rw [if_pos (status host)]
      have empties : Leads (Emptied tools []) (deleteFamilyHooks tools faults .v6 >>= fun v6 =>
          deleteFamilyHooks tools faults .v4 >>= fun v4 => pure (v6 ++ v4))
          (fun _ => Emptied tools ([.route .v4,.rule .v4] ++ ([.route .v6,.rule .v6] ++ []))) (fun _ => False) :=
        .bind (deleteFamilyHooks_empties lawful .v6 [] told done) fun _ =>
          .bind (deleteFamilyHooks_empties lawful .v4 _ told done) fun _ => .pure fun _ => id
      refine empties.mono ?_ (fun _ after ended => ?_) fun _ => False.elim
      · rintro _ rfl
        exact emptied
      · funext artifact
        refine ended.gone artifact ?_
        rcases artifact with family | family
        all_goals cases family <;> simp
    · refine .bind ((@deleteLegacyRule_leads _ tools faults Empty lawful ?_).mono (fun _ => id)
      (fun _ _ => And.left) fun _ => id)
        fun _ => .pure fun _ => id
      exact fun host empty _ => empty
  · rw [clear] at refused
    cases refused

/-- No command fails but the listing of the router chain by the steps. -/
def routerUnheard (asked : Option Fault) : CleanupFaults :=
  { calm with ask := fun query => if query = .listChain then asked else none }

/-- No command fails but the listing of the output chain by the steps. -/
def outputUnheard (asked : Option Fault) : CleanupFaults := { calm with askOutput := asked }

theorem hooksCleanup_empties (lawful : tools.Lawful) (host : HookHost ω)
    (entries : ∀ artifact, host.listing artifact = "" ∨ host.listing artifact = tools.entry artifact) {asked : Option Fault}
    (failing : asked ≠ none) (clear : rejectHookCollisions (cleanupChecks tools calm host) = .ok ()) :
    ((hooksCleanup tools (routerUnheard asked)).exec host).2.listing = fun _ => "" := by
  refine cleanupHook_empties lawful outputSide_beside.listing (fun host ready => ?_) (fun P dropped => ?_)
    (fun _ => by simp [routerUnheard])
    (fun _ => rfl) clear entries
  · exact failing (((routerStatus_ready_iff lawful _ host).mp ready).1.symm.trans (by simp [routerUnheard])).symm
  · exact (deleteOutputChain_leads lawful dropped).mono (fun _ => id) (fun _ _ => And.left)
      fun _ failed => failed.2 rfl

theorem routerHooksCleanup_empties (lawful : tools.Lawful) (host : HookHost ω)
    (entries : ∀ artifact, host.listing artifact = "" ∨ host.listing artifact = tools.entry artifact) {asked : Option Fault}
    (failing : asked ≠ none)
    (clear : rejectHookCollisions [routerCheck tools calm host,outputCheck tools calm host] = .ok ()) :
    ((routerHooksCleanup tools (outputUnheard asked)).exec host).2.listing = fun _ => "" := by
  refine cleanupHook_empties lawful routerSide_beside.listing (fun host ready => ?_) (fun P dropped => ?_)
    (fun _ => rfl)
    (fun _ => rfl) clear entries
  · exact failing ((outputStatus_ready_iff lawful _ host).mp ready).1
  · exact (deleteRouterChain_leads lawful dropped).mono (fun _ => id) (fun _ _ => And.left)
      fun _ failed => failed.2 rfl

/-- A cleanup of one hook leaves the routes and rules under the other one, whatever else
fails, exactly if the second listing of the other chain does not fail; when only that listing
fails, it takes every route and rule. -/
theorem cleanup_keeps_shared_iff (lawful : tools.Lawful) (host : HookHost ω)
    (present : ∃ artifact, host.listing artifact ≠ "")
    (entries : ∀ artifact, host.listing artifact = "" ∨ host.listing artifact = tools.entry artifact)
    (asked : Option Fault) :
    (RouterStands host → rejectHookCollisions (cleanupChecks tools calm host) = .ok () →
      ((∀ faults : CleanupFaults, faults.ask .listChain = asked →
        ((hooksCleanup tools faults).exec host).2.listing = host.listing) ↔ asked = none) ∧
      (asked ≠ none → ((hooksCleanup tools (routerUnheard asked)).exec host).2.listing = fun _ => "")) ∧
    (OutputStands host → rejectHookCollisions [routerCheck tools calm host,outputCheck tools calm host] = .ok () →
      ((∀ faults : CleanupFaults, faults.askOutput = asked →
        ((routerHooksCleanup tools faults).exec host).2.listing = host.listing) ↔ asked = none) ∧
      (asked ≠ none → ((routerHooksCleanup tools (outputUnheard asked)).exec host).2.listing = fun _ => "")) := by
  obtain ⟨artifact,filled⟩ := present
  constructor
  · intro stands clear
    have empty (failing : asked ≠ none) := hooksCleanup_empties lawful host entries failing clear
    refine ⟨⟨fun keeps => ?_,?_⟩,empty⟩
    · by_contra failing
      have gone := empty failing
      rw [keeps _ (by simp [routerUnheard])] at gone
      exact filled (congrFun gone artifact)
    · rintro rfl faults told
      refine cleanupHook_keeps lawful outputSide_beside
        (fun host stands => (routerStatus_ready_iff lawful _ host).mpr ⟨told,stands⟩)
        (fun P dropped => ?_) stands
      exact (deleteOutputChain_leads lawful dropped).mono (fun _ => id) (fun _ _ => And.left) fun _ => And.left
  · intro stands clear
    have empty (failing : asked ≠ none) := routerHooksCleanup_empties lawful host entries failing clear
    refine ⟨⟨fun keeps => ?_,?_⟩,empty⟩
    · by_contra failing
      have gone := empty failing
      rw [keeps _ rfl] at gone
      exact filled (congrFun gone artifact)
    · rintro rfl faults told
      refine cleanupHook_keeps lawful routerSide_beside
        (fun host stands => (outputStatus_ready_iff lawful _ host).mpr ⟨told,stands⟩)
        (fun P dropped => ?_) stands
      exact (deleteRouterChain_leads lawful dropped).mono (fun _ => id) (fun _ _ => And.left) fun _ => And.left

end Listings

section Sample

def cleanupSampleTools : CleanupTools Unit where
  answer
    | .linkShow _, _ => ⟨true,"3: eth1: <UP>",""⟩
    | .listArtifact artifact, host => ⟨host.listing artifact != "",host.listing artifact,""⟩
    | .listChain, host => ⟨host.chain.isSome,host.chain.getD "",""⟩
  perform
    | .add artifact, host =>
      if host.listing artifact = "" then (⟨true,"",""⟩,host.put artifact (sampleEntry artifact))
      else (⟨false,"","RTNETLINK answers: File exists"⟩,host)
    | .delete artifact, host => (⟨true,"",""⟩,host.put artifact "")
    | .addChain, host => (⟨true,"",""⟩,host.withChain (some (host.chain.getD (listChain Router.head []))))
    | .addRule rule, host => (⟨true,"",""⟩,host.withChain (host.chain.map (· ++ "\n" ++ listedRule rule)))
    | .deleteChain, host => (⟨true,"",""⟩,host.withChain none)
  entry := sampleEntry
  listOutput host := ⟨host.rest.output.isSome,(host.rest.output.map OutputChain.text).getD "",""⟩
  addOutputChain host := (⟨true,"",""⟩,host.withOutput (some (host.rest.output.getD ⟨Output.head "mangle",[]⟩)))
  addOutputRule rule host := (⟨true,"",""⟩,host.withOutput (host.rest.output.map (·.extended [rule])))
  shown := id
  deleteOutputChain host := (⟨true,"",""⟩,host.withOutput none)
  listLegacy host := ⟨host.legacy != "",host.legacy,""⟩
  deleteLegacy host := (⟨true,"",""⟩,host.withLegacy "")

theorem cleanupSampleTools_lawful : cleanupSampleTools.Lawful where
  listed artifact host present := by simp [cleanupSampleTools,present]
  unlisted artifact host absent := by simp [cleanupSampleTools,absent]
  chainListed host text present := by simp [cleanupSampleTools,present]
  chainUnlisted host absent := by simp [cleanupSampleTools,absent]
  added artifact host absent := by simp [cleanupSampleTools,absent]
  exists_already artifact host owned := by simp [cleanupSampleTools,artifactOwned_some owned]
  deleted artifact host listed := by simp [cleanupSampleTools]
  chainAdded host absent := ⟨rfl,listChain Router.head [],by simp [cleanupSampleTools,absent]⟩
  chainKept host text present := by
    refine ⟨rfl,?_⟩
    simp only [cleanupSampleTools,present,Option.getD_some]
    rw [← present,Host.withChain_self]
  ruleAdded rule host text present := ⟨text ++ "\n" ++ listedRule rule,by simp [cleanupSampleTools,present]⟩
  chainDeleted host text present := by simp [cleanupSampleTools]
  recognised artifact := by
    rcases artifact with family | family
    all_goals cases family <;> decide +kernel
  outputListed host chain present := by simp [cleanupSampleTools,present]
  outputUnlisted host absent := by simp [cleanupSampleTools,absent]
  outputAdded host absent := ⟨rfl,"mangle",by decide,by simp [cleanupSampleTools,absent]⟩
  outputKept host chain present := by
    refine ⟨rfl,?_⟩
    simp only [cleanupSampleTools,present,Option.getD_some]
    rw [← present,Host.withOutput_self]
  outputRuleAdded rule host chain present := by simp [cleanupSampleTools,present]
  spelled rule := .inl rfl
  ownedDeleted artifact host owned := by simp [cleanupSampleTools]
  outputDeleted host chain present := by simp [cleanupSampleTools]
  legacyListed host present := by simp [cleanupSampleTools,present]
  legacyUnlisted host absent := by simp [cleanupSampleTools,absent]
  legacyDeleted host owned := by simp [cleanupSampleTools]

theorem calm_truthful : Truthful calm := ⟨⟨fun _ => rfl,rfl,rfl⟩,fun _ => rfl,rfl⟩

def cleanHost : HookHost Unit := ⟨fun _ => "",none,⟨none,⟨"",()⟩⟩⟩

/-- The second command for a rule fails. -/
def secondRule (position : Nat) : Option Fault :=
  if position = 1 then some (.failed "Error: Could not process rule") else none

def hookUserV6 : HookOptions := ⟨1000,true⟩

/-- The output hook is applied for both families, and the router hook for one, whose second
rule fails. -/
def sampleOperations : List HookOperation :=
  [.applyHooks calm ⟨[],[]⟩ hookUserV6,.applyRouter { calm with rule := secondRule } ⟨[],[]⟩ sampleOptions]

theorem outputStands_of_head {host : HookHost Unit} (headed : host.rest.output.map OutputChain.head = some (Output.head "mangle")) :
    Hook.output.Stands host := by
  obtain ⟨chain,present,head⟩ := Option.map_eq_some_iff.mp headed
  have marked : contains chain.text Output.ownerMarker = true := by
    refine (listing_contains_iff (by decide) (by decide) (by decide)).mpr (.inl ?_)
    rw [head]
    decide
  exact ⟨chain,present,by rw [outputIsOwned,marked]; rfl⟩

theorem sampleOperations_headed : (hostAfter cleanupSampleTools cleanHost sampleOperations).rest.output.map OutputChain.head =
    some (Output.head "mangle") := by decide +kernel

theorem sampleOperations_anchored : Spares cleanHost (hostAfter cleanupSampleTools cleanHost sampleOperations) ∧
    Anchored .v4 (hostAfter cleanupSampleTools cleanHost sampleOperations) ∧
    Anchored .v6 (hostAfter cleanupSampleTools cleanHost sampleOperations) := by
  have truthful : ∀ operation ∈ sampleOperations, Truthful operation.faults := by
    simp only [sampleOperations,List.forall_mem_cons,HookOperation.faults,List.not_mem_nil,IsEmpty.forall_iff,
      implies_true,and_true]
    exact ⟨calm_truthful,⟨fun _ => rfl,rfl,rfl⟩,fun _ => rfl,rfl⟩
  have used : ∀ operation ∈ sampleOperations, operation.For .output .v6 := by
    simp only [sampleOperations,List.forall_mem_cons,HookOperation.For,List.not_mem_nil,IsEmpty.forall_iff,
      implies_true,and_true]
    decide
  have absent : ¬ Hook.output.Stands cleanHost := by
    rintro ⟨chain,present,-⟩
    cases present
  have sound (family : IpVersion) := @shared_hooks_anchored _ _ cleanHost cleanupSampleTools_lawful .output family
    (fun stands => absurd stands absent) sampleOperations truthful
  obtain ⟨spares,first⟩ := sound .v4
  obtain ⟨-,second⟩ := sound .v6
  have stands := @outputStands_of_head (hostAfter cleanupSampleTools cleanHost sampleOperations) sampleOperations_headed
  have put := @putUp_always _ cleanupSampleTools .output .v6 True trivial cleanHost sampleOperations used
  exact ⟨spares,first (.inl rfl) stands,second (.inr put) stands⟩

/-- Both hooks are in place, and the former rule. -/
def sharedHost : HookHost Unit where
  listing artifact := if artifact ∈ familyArtifacts .v4 then sampleEntry artifact else ""
  chain := some Router.ownerMarker
  rest := ⟨some ⟨[Output.ownerMarker],[]⟩,"51880:\tfrom all fwmark 0x51880 lookup 51880",()⟩

def halfCleaned : HookHost Unit := ((hooksCleanup cleanupSampleTools calm).exec sharedHost).2

theorem sharedHost_cleaned : ((hooksCleanup cleanupSampleTools calm).exec sharedHost).1 =
      .ok ["deleted owned nft output hook inet dynet dynet_output","deleted legacy fwmark 0x51880 policy rule pref 51880"] ∧
    ((routerHooksCleanup cleanupSampleTools calm).exec halfCleaned).1 =
      .ok ["deleted owned nft router ingress hook inet dynet dynet_router_ingress",
        "deleted IPv4 fwmark 0x40000000/0x40000000 policy rule pref 10000",
          "deleted IPv4 route table 51880 default dev dynet0"] := by
  decide +kernel

def bothCleaned : HookHost Unit := ((routerHooksCleanup cleanupSampleTools calm).exec halfCleaned).2

theorem sharedHost_bare : Bare bothCleaned ∧ Spares sharedHost bothCleaned :=
  @cleanups_leave_bare _ cleanupSampleTools cleanupSampleTools_lawful calm calm calm_truthful.toCandid calm_truthful.toCandid
    sharedHost _ _ halfCleaned bothCleaned
      (.inl ⟨Prod.ext sharedHost_cleaned.1 (by rw [halfCleaned]),Prod.ext sharedHost_cleaned.2 (by rw [bothCleaned])⟩)

theorem sharedHost_kept : (∀ faults : CleanupFaults, faults.ask .listChain = none →
      ((hooksCleanup cleanupSampleTools faults).exec sharedHost).2.listing = sharedHost.listing) ∧
    ((hooksCleanup cleanupSampleTools (routerUnheard (some (.failed "netlink: No buffer space available")))).exec
      sharedHost).2.listing = fun _ => "" := by
  have entries (artifact : Artifact) : sharedHost.listing artifact = "" ∨
      sharedHost.listing artifact = cleanupSampleTools.entry artifact := by
    unfold sharedHost
    dsimp only
    split
    · exact .inr rfl
    · exact .inl rfl
  have keeps (asked : Option Fault) := (cleanup_keeps_shared_iff cleanupSampleTools_lawful sharedHost
    ⟨.route .v4,by decide⟩ entries asked).1 ⟨_,rfl,by decide +kernel⟩ (by decide +kernel)
  exact ⟨(keeps none).1.mpr rfl,(keeps (some _)).2 (Option.some_ne_none _)⟩

end Sample

end Dynet.Capture
