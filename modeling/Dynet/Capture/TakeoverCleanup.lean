import Dynet.Capture.Takeover

/-! What an apply of the takeover leaves wherever it stops, and what the cleanup after it
takes away. -/
namespace Dynet.Capture
open Dynet.Lib Dynet.Lib.Script Dynet.Lib.Text

variable {ω : Type} {tools : TakeoverTools ω} {faults : TakeoverFaults} {paths : TakeoverPaths}

section Steps

/-- Only the directories and fragments differ. -/
structure Alike (before after : TakeoverHost ω) : Prop where
  interface : after.interface = before.interface
  table : after.table = before.table
  listing : after.listing = before.listing

theorem Alike.free {before after : TakeoverHost ω} (alike : Alike before after) (free : Free before) : Free after :=
  ⟨alike.interface.trans free.interface,alike.table.trans free.table,fun artifact => by
    rw [alike.listing]
    exact free.listing artifact⟩

theorem ensureDirectory_leads (start : TakeoverHost ω) (fragment : Fragment) :
    Leads (· = start) (ensureDirectory faults paths fragment)
      (fun _ after => CarrierPasses faults start fragment ∧ ∃ node, after = start.putCarrier fragment node)
      (fun after => ¬ CarrierPasses faults start fragment ∧ after = start) := by
  refine .step ?_
  rintro host rfl
  cases node : host.carrier fragment with
  | directory =>
    refine ⟨.inl node,.directory,?_⟩
    rw [TakeoverHost.putCarrier,← node,Function.update_eq_self]
  | absent =>
    cases creating : faults.create fragment with
    | some error => exact ⟨by simp [CarrierPasses,node,creating],rfl⟩
    | none => exact ⟨.inr ⟨node,creating⟩,.directory,rfl⟩
  | file content => exact ⟨by simp [CarrierPasses,node],rfl⟩
  | other error => exact ⟨by simp [CarrierPasses,node],rfl⟩

theorem writeFragment_leads (start : TakeoverHost ω) (fragment : Fragment) :
    Leads (· = start) (writeFragment faults paths fragment)
      (fun _ after => faults.write fragment = none ∧ ∃ node, after = start.putFragment fragment node)
      (fun after => faults.write fragment ≠ none ∧ ∃ node, after = start.putFragment fragment node) := by
  refine .step ?_
  rintro host rfl
  cases writing : faults.write fragment with
  | none => exact ⟨rfl,_,rfl⟩
  | some fault =>
    refine ⟨by simp,?_⟩
    cases fault.left with
    | none => exact ⟨host.fragment fragment,by rw [TakeoverHost.putFragment,Function.update_eq_self]⟩
    | some text => exact ⟨_,rfl⟩

theorem ensureFragment_leads (start : TakeoverHost ω) (fragment : Fragment) :
    Leads (· = start) (ensureFragment faults paths fragment)
      (fun _ after => FragmentPasses faults start fragment ∧ ∃ node, after = start.putFragment fragment node)
      (fun after => ¬ FragmentPasses faults start fragment ∧ ∃ node, after = start.putFragment fragment node) := by
  have same : start = start.putFragment fragment (start.fragment fragment) := by
    rw [TakeoverHost.putFragment,Function.update_eq_self]
  have written (passes : FragmentPasses faults start fragment ↔ faults.write fragment = none) :
      Leads (· = start) (writeFragment faults paths fragment)
        (fun _ after => FragmentPasses faults start fragment ∧ ∃ node, after = start.putFragment fragment node)
        (fun after => ¬ FragmentPasses faults start fragment ∧ ∃ node, after = start.putFragment fragment node) := by
    rw [passes]
    exact writeFragment_leads start fragment
  have stopped {message : String} (stops : ¬ FragmentPasses faults start fragment) :
      Leads (· = start) (throw message : Script (TakeoverHost ω) (List String))
        (fun _ after => FragmentPasses faults start fragment ∧ ∃ node, after = start.putFragment fragment node)
        (fun after => ¬ FragmentPasses faults start fragment ∧ ∃ node, after = start.putFragment fragment node) :=
    .throw fun host here => ⟨stops,_,here.trans same⟩
  refine .reading ?_
  cases node : start.fragment fragment with
  | absent =>
    rw [if_pos rfl]
    exact written (by simp [FragmentPasses,node])
  | directory => exact stopped (by simp [FragmentPasses,node])
  | other error => exact stopped (by simp [FragmentPasses,node])
  | file existing =>
    simp only [reduceCtorEq,if_false,readText]
    cases reading : faults.read fragment with
    | some error => exact stopped (by simp [FragmentPasses,node,reading])
    | none =>
      dsimp only
      by_cases owned : contains existing fragmentOwnerMarker = true
      · rw [if_neg (by simp [owned])]
        by_cases current : existing = fragment.content
        · rw [if_pos current]
          have passes : FragmentPasses faults start fragment := by
            rw [FragmentPasses,node]
            exact ⟨reading,owned,.inl current⟩
          exact .pure fun host here => ⟨passes,_,here.trans same⟩
        · rw [if_neg current]
          exact written (by simp [FragmentPasses,node,reading,owned,current])
      · rw [Bool.not_eq_true] at owned
        rw [if_pos owned]
        exact stopped (by simp [FragmentPasses,node,owned])

/-- The host while the fragments are made: those directories and fragments that are still to
come are as they were. -/
structure Making (start : TakeoverHost ω) (carriers fragments : List Fragment) (host : TakeoverHost ω) : Prop where
  alike : Alike start host
  carrier : ∀ fragment ∈ carriers, host.carrier fragment = start.carrier fragment
  fragment : ∀ fragment ∈ fragments, host.fragment fragment = start.fragment fragment

theorem making_directory (start : TakeoverHost ω) (fragment : Fragment) {carriers fragments : List Fragment}
    (fresh : fragment ∉ carriers) : Leads (Making start (fragment::carriers) fragments) (ensureDirectory faults paths fragment)
      (fun _ after => Making start carriers fragments after ∧ CarrierPasses faults start fragment)
      (fun after => Alike start after ∧ ¬ CarrierPasses faults start fragment) := by
  refine .known fun host making => ?_
  have same : CarrierPasses faults host fragment ↔ CarrierPasses faults start fragment := by
    rw [CarrierPasses,CarrierPasses,making.carrier fragment List.mem_cons_self]
  refine (ensureDirectory_leads host fragment).mono (fun _ => id) ?_ ?_
  · rintro _ after ⟨passes,node,rfl⟩
    refine ⟨⟨⟨making.alike.interface,making.alike.table,making.alike.listing⟩,fun other member => ?_,making.fragment⟩,same.mp passes⟩
    have apart : other ≠ fragment := by
      rintro rfl
      exact fresh member
    exact (Function.update_of_ne apart _ _).trans (making.carrier other (List.mem_cons_of_mem _ member))
  · rintro after ⟨stops,rfl⟩
    exact ⟨making.alike,fun passes => stops (same.mpr passes)⟩

theorem making_fragment (start : TakeoverHost ω) (fragment : Fragment) {fragments : List Fragment} (fresh : fragment ∉ fragments) :
    Leads (Making start [] (fragment::fragments)) (ensureFragment faults paths fragment)
      (fun _ after => Making start [] fragments after ∧ FragmentPasses faults start fragment)
      (fun after => Alike start after ∧ ¬ FragmentPasses faults start fragment) := by
  refine .known fun host making => ?_
  have same : FragmentPasses faults host fragment ↔ FragmentPasses faults start fragment := by
    rw [FragmentPasses,FragmentPasses,making.fragment fragment List.mem_cons_self]
  refine (ensureFragment_leads host fragment).mono (fun _ => id) ?_ ?_
  · rintro _ after ⟨passes,node,rfl⟩
    refine ⟨⟨⟨making.alike.interface,making.alike.table,making.alike.listing⟩,by simp,fun other member => ?_⟩,same.mp passes⟩
    have apart : other ≠ fragment := by
      rintro rfl
      exact fresh member
    exact (Function.update_of_ne apart _ _).trans (making.fragment other (List.mem_cons_of_mem _ member))
  · rintro after ⟨stops,node,rfl⟩
    exact ⟨⟨making.alike.interface,making.alike.table,making.alike.listing⟩,fun passes => stops (same.mpr passes)⟩

/-- Nothing stands in the way of the directories and the fragments. -/
def FragmentsPass (faults : TakeoverFaults) (start : TakeoverHost ω) : Prop :=
  (∀ fragment, CarrierPasses faults start fragment) ∧ ∀ fragment, FragmentPasses faults start fragment

theorem ensureFragments_leads (start : TakeoverHost ω) : Leads (· = start) (ensureFragments faults paths)
    (fun _ after => Alike start after ∧ FragmentsPass faults start)
    (fun after => Alike start after ∧ ¬ FragmentsPass faults start) := by
  have begins : ∀ host, host = start → Making start [.sysctl,.rtTables] [.sysctl,.rtTables] host := by
    rintro host rfl
    exact ⟨⟨rfl,rfl,rfl⟩,fun _ _ => rfl,fun _ _ => rfl⟩
  refine .bind ((making_directory start .sysctl (by decide)).mono begins (fun _ _ => id) ?_) fun _ => ?_
  · exact fun after stopped => ⟨stopped.1,fun passes => stopped.2 (passes.1 .sysctl)⟩
  refine .given fun sysctlDir => ?_
  refine .bind ((making_directory start .rtTables (by decide)).mono (fun _ => id) (fun _ _ => id) ?_) fun _ => .given fun rtTablesDir => ?_
  · exact fun after stopped => ⟨stopped.1,fun passes => stopped.2 (passes.1 .rtTables)⟩
  refine .bind ((making_fragment start .sysctl (by decide)).mono (fun _ => id) (fun _ _ => id) ?_) fun _ => .given fun sysctl => ?_
  · exact fun after stopped => ⟨stopped.1,fun passes => stopped.2 (passes.2 .sysctl)⟩
  refine .bind ((making_fragment start .rtTables (by decide)).mono (fun _ => id) (fun _ _ => id) ?_) fun _ => .given fun rtTables => ?_
  · exact fun after stopped => ⟨stopped.1,fun passes => stopped.2 (passes.2 .rtTables)⟩
  refine .pure fun after making => ⟨making.alike,?_,?_⟩
  · intro fragment
    cases fragment
    · exact sysctlDir
    · exact rtTablesDir
  · intro fragment
    cases fragment
    · exact sysctl
    · exact rtTables

theorem require_leads {change : TakeoverChange} {P Q E : TakeoverHost ω → Prop}
    (fails : faults.change change ≠ none → ∀ host, P host → E host)
    (succeeds : faults.change change = none → ∀ host, P host → (tools.perform change host).1.success = true →
      Q (tools.perform change host).2)
    (refuses : faults.change change = none → ∀ host, P host → (tools.perform change host).1.success = false →
      E (tools.perform change host).2) : Leads P (require tools faults paths change) (fun _ => Q) E := by
  refine .step fun host holds => ?_
  cases failing : faults.change change with
  | some fault =>
    have stopped := fails (by simp [failing]) host holds
    cases fault <;> exact stopped
  | none =>
    by_cases success : (tools.perform change host).1.success = true
    · simp only [success,if_true]
      exact succeeds failing host holds success
    · simp only [success]
      exact refuses failing host holds (by simpa using success)

theorem answered_fault (tools : TakeoverTools ω) (fault : Fault) (query : TakeoverQuery) (host : TakeoverHost ω) :
    (∃ error, answered tools (some fault) query host = .error error) ∨
      ∃ stderr, answered tools (some fault) query host = .ok ⟨false,"",stderr⟩ := by
  cases fault with
  | notStarted error => exact .inl ⟨error,rfl⟩
  | failed stderr => exact .inr ⟨stderr,rfl⟩

theorem tunState_absent (lawful : tools.Lawful) (round : Nat) {host : TakeoverHost ω}
    (down : ∀ interface, host.interface = some interface → interface.up = false) : tunState tools faults round host ≠ .ready := by
  unfold tunState
  cases faults.ask round .tunUp with
  | some fault =>
    rcases answered_fault tools fault .tunUp host with ⟨error,shown⟩ | ⟨stderr,shown⟩
    · simp [shown,tunStatus]
    · simp [shown,tunStatus]
  | none =>
    rcases lawful.upUnlisted host down with failed | empty
    · simp [answered,tunStatus,failed]
    · simp [answered,tunStatus,empty]

theorem tunExistsState_absent (lawful : tools.Lawful) (round : Nat) {host : TakeoverHost ω} (absent : host.interface = none) :
    tunExistsState tools faults round host ≠ .ready := by
  unfold tunExistsState
  cases faults.ask round .tunExists with
  | some fault =>
    rcases answered_fault tools fault .tunExists host with ⟨error,shown⟩ | ⟨stderr,shown⟩
    · simp [shown,runtimeCommandCheck]
    · simp [shown,runtimeCommandCheck]
  | none => simp [answered,runtimeCommandCheck,lawful.unlinked host absent]

theorem ownedNftCheck_absent {fault : Option Fault} {query : TakeoverQuery} {host : TakeoverHost ω}
    (unlisted : (tools.answer query host).success = false) (ownerMarker : String) :
    ownedNftCheck (answered tools fault query host) ownerMarker ≠ .ready ∧
      ownedNftCheck (answered tools fault query host) ownerMarker ≠ .invalidHardFail := by
  cases fault with
  | some fault =>
    rcases answered_fault tools fault query host with ⟨error,shown⟩ | ⟨stderr,shown⟩
    · simp [shown,ownedNftCheck]
    · simp [shown,ownedNftCheck]
  | none => simp [answered,ownedNftCheck,unlisted]

theorem tableState_absent (lawful : tools.Lawful) (round : Nat) {host : TakeoverHost ω} (absent : host.table = none) :
    tableState tools faults round host ≠ .ready ∧ tableState tools faults round host ≠ .invalidHardFail :=
  ownedNftCheck_absent (lawful.tableUnlisted host absent) tableOwnerMarker

theorem runtimeChecks_absent (lawful : tools.Lawful) {host : TakeoverHost ω} (absent : host.table = none) :
    (runtimeChecks tools faults host).filter (·.state == .invalidHardFail) = [] := by
  have interface : tunState tools faults 0 host ≠ .invalidHardFail := by
    unfold tunState tunStatus
    split
    · split <;> simp
    · simp
  have chain (chain : String) : chainStateOf tools faults 0 chain host ≠ .invalidHardFail :=
    (ownedNftCheck_absent (lawful.chainUnlisted chain host absent) (nftChainOwnerMarker chain)).2
  rw [List.filter_eq_nil_iff,runtimeChecks]
  simp only [List.forall_mem_append,List.forall_mem_cons,List.forall_mem_map,List.not_mem_nil,IsEmpty.forall_iff,implies_true,
    and_true,beq_iff_eq]
  exact ⟨⟨interface,(tableState_absent lawful 0 absent).2⟩,fun name _ => chain name⟩

/-- What the apply is to leave: dynet0 is up and the table is dynet's, if they are there,
and there is nothing else. -/
structure Sound (host : TakeoverHost ω) : Prop where
  interface : ∀ interface, host.interface = some interface → interface.up = true
  table : ∀ table, host.table = some table → table.comment = tableOwnerMarker
  listing : ∀ artifact, host.listing artifact = ""

theorem Free.sound {host : TakeoverHost ω} (free : Free host) : Sound host :=
  ⟨by simp [free.interface],by simp [free.table],free.listing⟩

def Tableless (host : TakeoverHost ω) : Prop := Sound host ∧ host.table = none

def Tabled (host : TakeoverHost ω) : Prop := Sound host ∧ ∃ table, host.table = some table

/-- dynet0 is there but down, and no table is. -/
structure Dangling (host : TakeoverHost ω) : Prop where
  interface : ∃ interface, host.interface = some interface ∧ interface.up = false
  table : host.table = none

theorem ensureTun_leads (lawful : tools.Lawful) : Leads Free (ensureTun tools faults paths)
    (fun _ after => Tableless after ∧ ¬(faults.change .tuntapAdd = none ∧ faults.change .linkUp ≠ none))
    (fun after => Sound after ∧ ¬(faults.change .tuntapAdd = none ∧ faults.change .linkUp ≠ none) ∨
      Dangling after ∧ faults.change .tuntapAdd = none ∧ faults.change .linkUp ≠ none) := by
  refine .known fun host free => .reading ?_
  rw [if_neg (tunState_absent lawful 1 (by simp [free.interface]))]
  refine .reading ?_
  rw [if_neg (tunExistsState_absent lawful 1 free.interface)]
  have added := lawful.tuntapAdded host free.interface
  let down : TakeoverHost ω → Prop := fun after => ∃ interface, interface.up = false ∧ after = host.withInterface (some interface)
  have made : Leads (· = host) (require tools faults paths .tuntapAdd)
      (fun _ after => down after ∧ faults.change .tuntapAdd = none) (fun after => Free after ∧ faults.change .tuntapAdd ≠ none) := by
    refine require_leads ?_ ?_ ?_
    · rintro failing _ rfl
      exact ⟨free,failing⟩
    · rintro calm _ rfl -
      exact ⟨added.2,calm⟩
    · rintro - _ rfl refused
      rw [added.1] at refused
      cases refused
  refine .bind (made.mono (fun _ => id) (fun _ _ => id) ?_) fun _ => .given fun calm => ?_
  · exact fun after stopped => .inl ⟨stopped.1.sound,fun stranded => stopped.2 stranded.1⟩
  have raised : Leads down (require tools faults paths .linkUp)
      (fun _ after => Tableless after ∧ faults.change .linkUp = none) (fun after => Dangling after ∧ faults.change .linkUp ≠ none) := by
    refine require_leads ?_ ?_ ?_
    · rintro failing _ ⟨interface,isDown,rfl⟩
      exact ⟨⟨⟨interface,rfl,isDown⟩,free.table⟩,failing⟩
    · rintro calm _ ⟨interface,-,rfl⟩ -
      obtain ⟨-,later,isUp,after⟩ := lawful.raised (host.withInterface (some interface)) interface rfl
      rw [after]
      refine ⟨⟨⟨?_,?_,free.listing⟩,free.table⟩,calm⟩
      · rintro _ ⟨⟩
        exact isUp
      · intro table present
        exact absurd (present.symm.trans free.table) (by simp)
    · rintro - _ ⟨interface,-,rfl⟩ refused
      rw [(lawful.raised _ interface rfl).1] at refused
      cases refused
  refine .bind (.pure fun _ => id) fun _ => .bind (raised.mono (fun _ => id) (fun _ _ => id) ?_) fun _ => .pure ?_
  · exact fun after stopped => .inr ⟨stopped.1,calm,stopped.2⟩
  · exact fun after done => ⟨done.1,fun stranded => stranded.2 done.2⟩

theorem ensureSysctlLoaded_leads (lawful : tools.Lawful) :
    Leads Tableless (ensureSysctlLoaded tools faults paths) (fun _ => Tableless) Sound := by
  have kept (host : TakeoverHost ω) (bare : Tableless host) : Tableless (tools.perform .loadSysctl host).2 := by
    obtain ⟨rest,after⟩ := lawful.loaded host
    rw [after]
    exact ⟨⟨bare.1.interface,bare.1.table,bare.1.listing⟩,bare.2⟩
  exact .bind (require_leads (fun _ _ => And.left) (fun _ host bare _ => kept host bare) (fun _ host bare _ => (kept host bare).1))
    fun _ => .pure fun _ => id

theorem ensureNftTable_leads (lawful : tools.Lawful) :
    Leads Tableless (ensureNftTable tools faults paths) (fun _ => Tabled) Sound := by
  refine .known fun host bare => .reading ?_
  rw [if_neg (tableState_absent lawful 1 bare.2).1]
  refine .reading (.bind (.check ?_) fun _ => .given fun _ => .bind (require_leads ?_ ?_ ?_) fun _ => .pure fun _ => id)
  · rintro _ rfl -
    exact bare.1
  · rintro - _ rfl
    exact bare.1
  · rintro - _ rfl -
    rw [(lawful.tableAdded _ bare.2).2]
    refine ⟨⟨bare.1.interface,?_,bare.1.listing⟩,_,rfl⟩
    rintro _ ⟨⟩
    rfl
  · rintro - _ rfl refused
    rw [(lawful.tableAdded _ bare.2).1] at refused
    cases refused

theorem ensureNftChain_leads (lawful : tools.Lawful) (chain : String) :
    Leads Tabled (ensureNftChain tools faults paths chain) (fun _ => Tabled) Sound := by
  have kept (host : TakeoverHost ω) (tabled : Tabled host) : Tabled (tools.perform (.addChain chain) host).2 := by
    obtain ⟨sound,table,present⟩ := tabled
    obtain ⟨chains,after⟩ := lawful.chainAdded chain host table present
    rw [after]
    refine ⟨⟨sound.interface,?_,sound.listing⟩,_,rfl⟩
    rintro _ ⟨⟩
    exact sound.table table present
  refine .known fun host tabled => .reading ?_
  split
  · rintro _ rfl
    exact .inl ⟨[],_,rfl,tabled⟩
  · refine .reading (.bind (.check ?_) fun _ => .given fun _ => .bind (require_leads ?_ ?_ ?_) fun _ => .pure fun _ => id)
    · rintro _ rfl -
      exact tabled.1
    · rintro - _ rfl
      exact tabled.1
    · rintro - _ rfl -
      exact kept _ tabled
    · rintro - _ rfl -
      exact (kept _ tabled).1

theorem ensureNftChains_leads (lawful : tools.Lawful) (chains : List String) :
    Leads Tabled (ensureNftChains tools faults paths chains) (fun _ => Tabled) Sound := by
  induction chains with
  | nil => exact .pure fun _ => id
  | cons chain rest ih => exact .bind (ensureNftChain_leads lawful chain) fun _ => .bind ih fun _ => .pure fun _ => id

theorem ensureSkeleton_leads (lawful : tools.Lawful) :
    Leads Tableless (ensureSkeleton tools faults paths) (fun _ => Sound) Sound := by
  refine .bind (ensureSysctlLoaded_leads lawful) fun _ => .bind (ensureNftTable_leads lawful) fun _ => ?_
  exact .bind (ensureNftChains_leads lawful nftChains) fun _ => .pure fun _ => And.left

/-- Whether the doctor finds nothing that the apply cannot mend. -/
def Healthy (tools : TakeoverTools ω) (faults : TakeoverFaults) (paths : TakeoverPaths) (host : TakeoverHost ω) : Prop :=
  (doctor tools paths (faults.ask 0 .tuntapShow) host).any TakeoverCheck.isHardFailure = false

theorem checkTakeover_leads (lawful : tools.Lawful) {start : TakeoverHost ω} (free : Free start) :
    Leads (· = start) (checkTakeover tools faults paths true)
      (fun _ after => after = start ∧ Healthy tools faults paths start)
      (fun after => after = start ∧ ¬ Healthy tools faults paths start) := by
  refine .reading (.bind (.check ?_) fun _ => .given fun healthy => .bind (.check ?_) fun _ => .given fun _ => .reading ?_)
  · exact fun after here sick => ⟨here,sick⟩
  · exact fun after _ refused => absurd (.inl rfl) refused
  · rw [runtimeChecks_absent lawful free.table]
    refine (Leads.check ?_).mono (fun _ => id) (fun _ _ passed => ⟨passed.1,healthy⟩) fun _ => id
    exact fun after _ refused => absurd rfl refused

/-- Wherever the apply ends, all that it has made is recognised as dynet's, unless it is
stranded; then dynet0 is left down. -/
theorem takeoverApply_leads (lawful : tools.Lawful) (auto : Bool) {start : TakeoverHost ω} (free : Free start) :
    Leads (· = start) (takeoverApply tools faults paths auto)
      (fun _ after => Sound after ∧ ¬ Stranded tools faults paths auto start)
      (fun after => Sound after ∧ ¬ Stranded tools faults paths auto start ∨
        Dangling after ∧ Stranded tools faults paths auto start) := by
  cases auto with
  | false =>
    have calm : ¬ Stranded tools faults paths false start := by simp [Stranded]
    have checks : Leads (· = start) (checkTakeover tools faults paths false) (fun _ after => after = start) (· = start) := by
      refine .reading (.bind (.check fun _ here _ => here) fun _ => .given fun _ => ?_)
      refine .bind (.check fun _ here _ => here) fun _ => .given fun _ => .reading ?_
      exact (Leads.check fun _ here _ => here).mono (fun _ => id) (fun _ _ => And.left) fun _ => id
    refine .bind (checks.mono (fun _ => id) (fun _ _ => id) ?_) fun _ => .pure ?_
    · rintro _ rfl
      exact .inl ⟨free.sound,calm⟩
    · rintro _ rfl
      exact ⟨free.sound,calm⟩
  | true =>
    have stranded_iff : Stranded tools faults paths true start ↔ Healthy tools faults paths start ∧
        FragmentsPass faults start ∧ faults.change .tuntapAdd = none ∧ faults.change .linkUp ≠ none := by
      simp [Stranded,Healthy,FragmentsPass,and_assoc]
    refine .bind ((checkTakeover_leads lawful free).mono (fun _ => id) (fun _ _ => id) ?_) fun _ => .given fun healthy => ?_
    · rintro _ ⟨rfl,sick⟩
      exact .inl ⟨free.sound,fun stranded => sick (stranded_iff.mp stranded).1⟩
    refine .bind ((ensureFragments_leads start).mono (fun _ => id) (fun _ _ => id) ?_) fun _ => .given fun passes => ?_
    · rintro after ⟨alike,stops⟩
      exact .inl ⟨(alike.free free).sound,fun stranded => stops (stranded_iff.mp stranded).2.1⟩
    have raising : faults.change .tuntapAdd = none ∧ faults.change .linkUp ≠ none ↔ Stranded tools faults paths true start := by
      rw [stranded_iff]
      exact ⟨fun raised => ⟨healthy,passes,raised⟩,fun stranded => stranded.2.2⟩
    refine .bind ((ensureTun_leads lawful).mono (fun after alike => alike.free free) (fun _ _ => id) ?_) fun _ => .given fun calm => ?_
    · rw [raising]
      exact fun _ => id
    rw [raising] at calm
    refine .bind ((ensureSkeleton_leads lawful).mono (fun _ => id) (fun _ _ => id) ?_) fun _ => .pure ?_
    · exact fun after sound => .inl ⟨sound,calm⟩
    · exact fun after sound => ⟨sound,calm⟩

theorem removeOwnedFragment_leads {P : TakeoverHost ω → Prop} (fragment : Fragment)
    (kept : ∀ host node, P host → P (host.putFragment fragment node)) :
    Leads P (removeOwnedFragment faults paths fragment) (fun _ => P) P := by
  refine .known fun host holds => .reading ?_
  have stays {message : String} : Leads (· = host) (throw message : Script (TakeoverHost ω) (List String)) (fun _ => P) P := by
    refine .throw ?_
    rintro _ rfl
    exact holds
  split
  · refine .pure ?_
    rintro _ rfl
    exact holds
  · split
    · exact stays
    · split
      · refine .step ?_
        rintro _ rfl
        cases faults.remove fragment with
        | some error => exact holds
        | none => exact kept _ _ holds
      · exact stays

theorem deleteNftTable_leads (lawful : tools.Lawful) :
    Leads Sound (deleteNftTable tools noFaults paths) (fun _ => Tableless) fun _ => False := by
  refine .known fun host sound => .reading ?_
  cases present : host.table with
  | none =>
    rw [if_pos (tableState_absent lawful 0 present).1]
    refine .reading (.bind (.check ?_) fun _ => .given fun _ => .pure ?_)
    · rintro _ rfl refused
      exact refused (tableState_absent lawful 1 present).2
    · rintro _ rfl
      exact ⟨sound,present⟩
  | some table =>
    have ready : tableState tools noFaults 0 host = .ready := by
      obtain ⟨success,marked⟩ := lawful.tableListed host table present
      rw [sound.table table present] at marked
      simp [tableState,noFaults,answered,ownedNftCheck,success,marked]
    rw [if_neg (by simp [ready])]
    obtain ⟨success,after⟩ := lawful.tableDeleted host table present
    refine .bind (require_leads ?_ ?_ ?_) fun _ => .pure fun _ => id
    · exact fun failing => absurd rfl failing
    · rintro - _ rfl -
      rw [after]
      exact ⟨⟨sound.interface,by simp [TakeoverHost.withTable],sound.listing⟩,rfl⟩
    · rintro - _ rfl refused
      rw [success] at refused
      cases refused

theorem deleteTun_leads (lawful : tools.Lawful) : Leads Tableless (deleteTun tools noFaults paths) (fun _ => Free) fun _ => False := by
  refine .known fun host bare => .reading ?_
  cases present : host.interface with
  | none =>
    rw [if_pos (tunState_absent lawful 0 (by simp [present]))]
    refine .pure ?_
    rintro _ rfl
    exact ⟨present,bare.2,bare.1.listing⟩
  | some interface =>
    have ready : tunState tools noFaults 0 host = .ready := by
      obtain ⟨success,shown⟩ := lawful.upListed host interface present (bare.1.interface interface present)
      simp [tunState,noFaults,answered,tunStatus,success,shown]
    rw [if_neg (by simp [ready])]
    obtain ⟨success,after⟩ := lawful.unlinking host interface present
    refine .bind (require_leads ?_ ?_ ?_) fun _ => .pure fun _ => id
    · exact fun failing => absurd rfl failing
    · rintro - _ rfl -
      rw [after]
      exact ⟨rfl,bare.2,bare.1.listing⟩
    · rintro - _ rfl refused
      rw [success] at refused
      cases refused

theorem cleanup_frees (lawful : tools.Lawful) : Leads Sound (takeoverCleanup tools noFaults paths) (fun _ => Free) Free := by
  have kept (fragment : Fragment) (host : TakeoverHost ω) (node : Node) (free : Free host) : Free (host.putFragment fragment node) :=
    ⟨free.interface,free.table,free.listing⟩
  refine .bind ((deleteNftTable_leads lawful).mono (fun _ => id) (fun _ _ => id) fun _ => False.elim) fun _ => ?_
  refine .bind ((deleteTun_leads lawful).mono (fun _ => id) (fun _ _ => id) fun _ => False.elim) fun _ => ?_
  exact .bind (removeOwnedFragment_leads .sysctl (kept .sysctl)) fun _ =>
    .bind (removeOwnedFragment_leads .rtTables (kept .rtTables)) fun _ => .pure fun _ => id

/-- An interface that is down stays through every cleanup. -/
theorem cleanup_keeps_dangling (lawful : tools.Lawful) :
    Leads Dangling (takeoverCleanup tools noFaults paths) (fun _ => Dangling) Dangling := by
  have kept (fragment : Fragment) (host : TakeoverHost ω) (node : Node) (dangling : Dangling host) :
      Dangling (host.putFragment fragment node) := ⟨dangling.interface,dangling.table⟩
  have fragments := @removeOwnedFragment_leads _ noFaults paths Dangling .sysctl (kept .sysctl)
  refine .bind (Q := fun _ => Dangling) ?_ fun _ => .bind (Q := fun _ => Dangling) ?_ fun _ =>
    .bind fragments fun _ => .bind (removeOwnedFragment_leads .rtTables (kept .rtTables)) fun _ => .pure fun _ => id
  · refine .known fun host dangling => .reading ?_
    rw [if_pos (tableState_absent lawful 0 dangling.table).1]
    refine .reading (.bind (.check ?_) fun _ => .given fun _ => .pure ?_)
    · rintro _ rfl -
      exact dangling
    · rintro _ rfl
      exact dangling
  · refine .known fun host dangling => .reading ?_
    obtain ⟨interface,present,down⟩ := dangling.interface
    have unlisted : ∀ other, host.interface = some other → other.up = false := by
      intro other found
      rw [present] at found
      cases found
      exact down
    rw [if_pos (tunState_absent lawful 0 unlisted)]
    refine .pure ?_
    rintro _ rfl
    exact dangling

theorem stranded_left (lawful : tools.Lawful) {auto : Bool} {host : TakeoverHost ω} (free : Free host)
    (stranded : Stranded tools faults paths auto host) : ¬ CleansUp tools faults paths auto host := by
  have left : Dangling ((takeoverApply tools faults paths auto).exec host).2 := by
    rcases takeoverApply_leads lawful auto free host rfl with ⟨value,after,ran,-,calm⟩ | ⟨message,after,ran,⟨-,calm⟩ | ⟨dangling,-⟩⟩
    · exact absurd stranded calm
    · exact absurd stranded calm
    · rw [ran]
      exact dangling
  intro clean
  obtain ⟨interface,present,-⟩ := ((cleanup_keeps_dangling lawful).left left).interface
  exact absurd (present.symm.trans clean.interface) (by simp)

end Steps

/-- Wherever the apply stops, the cleanup takes away all that it has made, exactly if the
apply was not stopped between making dynet0 and bringing it up. -/
theorem cleanup_complete_iff (lawful : tools.Lawful) (faults : TakeoverFaults) (paths : TakeoverPaths) (auto : Bool)
    (host : TakeoverHost ω) (free : Free host) :
    CleansUp tools faults paths auto host ↔ ¬ Stranded tools faults paths auto host := by
  constructor
  · exact fun clean stranded => stranded_left lawful free stranded clean
  · intro calm
    have sound : Sound ((takeoverApply tools faults paths auto).exec host).2 := by
      rcases takeoverApply_leads lawful auto free host rfl with ⟨value,after,ran,sound,-⟩ | ⟨message,after,ran,⟨sound,-⟩ | ⟨-,stranded⟩⟩
      · rwa [ran]
      · rwa [ran]
      · exact absurd stranded calm
    exact (cleanup_frees lawful).left sound

section Sample

def sampleTakeoverTools : TakeoverTools Unit where
  answer
    | .tuntapShow, _ => ⟨true,"",""⟩
    | .tunUp, host => ⟨true,if host.interface.any Interface.up then "dynet0 UNKNOWN <POINTOPOINT,NOARP,UP>" else "",""⟩
    | .tunExists, host => ⟨host.interface.isSome,"",""⟩
    | .listTable, host => ⟨host.table.isSome,(host.table.map NftTable.comment).getD "",""⟩
    | .listChain chain, host =>
      let found := (host.table.map NftTable.chains).getD [] |>.lookup chain
      ⟨found.isSome,found.getD "",""⟩
  perform
    | .tuntapAdd, host => (⟨true,"",""⟩,host.withInterface (some ⟨false,[]⟩))
    | .linkUp, host => (⟨host.interface.isSome,"",""⟩,host.withInterface (host.interface.map fun interface => ⟨true,interface.addresses⟩))
    | .linkDelete, host => (⟨true,"",""⟩,host.withInterface none)
    | .loadSysctl, host => (⟨true,"",""⟩,host)
    | .addTable, host => (⟨true,"",""⟩,host.withTable (some ⟨tableOwnerMarker,[]⟩))
    | .deleteTable, host => (⟨true,"",""⟩,host.withTable none)
    | .addChain chain, host => (⟨true,"",""⟩,host.withTable (host.table.map fun table =>
        ⟨table.comment,table.chains ++ [(chain,nftChainOwnerMarker chain)]⟩))

theorem sampleTakeoverTools_lawful : sampleTakeoverTools.Lawful where
  upListed host interface present up := by simp [sampleTakeoverTools,present,up]
  upUnlisted host down := by
    refine .inr ?_
    cases present : host.interface with
    | none => simp [sampleTakeoverTools,present]
    | some interface => simp [sampleTakeoverTools,present,down interface present]
  unlinked host absent := by simp [sampleTakeoverTools,absent]
  tableListed host table present := by simp [sampleTakeoverTools,present,contains]
  tableUnlisted host absent := by simp [sampleTakeoverTools,absent]
  chainUnlisted chain host absent := by simp [sampleTakeoverTools,absent]
  tuntapAdded host absent := ⟨rfl,_,rfl,rfl⟩
  raised host interface present :=
    ⟨by simp [sampleTakeoverTools,present],⟨true,interface.addresses⟩,rfl,by simp [sampleTakeoverTools,present]⟩
  unlinking host interface present := ⟨rfl,rfl⟩
  loaded host := ⟨host.rest,rfl⟩
  tableAdded host absent := ⟨rfl,rfl⟩
  chainAdded chain host table present := ⟨table.chains ++ [(chain,nftChainOwnerMarker chain)],by simp [sampleTakeoverTools,present]⟩
  tableDeleted host table present := ⟨rfl,rfl⟩

def samplePaths : TakeoverPaths where
  carrier
    | .sysctl => "/etc/sysctl.d"
    | .rtTables => "/etc/iproute2/rt_tables.d"
  fragment
    | .sysctl => "/etc/sysctl.d/90-dynet.conf"
    | .rtTables => "/etc/iproute2/rt_tables.d/dynet.conf"
  tunDevice := "/dev/net/tun"

def freshHost : TakeoverHost Unit :=
  ⟨fun _ => .directory,fun _ => .absent,true,["ip","nft","sysctl"],none,none,fun _ => "",()⟩

theorem freshHost_free : Free freshHost := ⟨rfl,rfl,fun _ => rfl⟩

/-- The command that makes the nft table fails. -/
theorem freshHost_cleaned : CleansUp sampleTakeoverTools
    { noFaults with change := fun change => if change = .addTable then some (.failed "Error: Operation not supported") else none }
    samplePaths true freshHost :=
  (cleanup_complete_iff sampleTakeoverTools_lawful _ samplePaths true freshHost freshHost_free).mpr
    fun stranded => stranded.2.2.2.2.2 (by simp)

def linkUpFails : TakeoverFaults :=
  { noFaults with change := fun change => if change = .linkUp then some (.failed "RTNETLINK answers: Operation not permitted") else none }

theorem freshHost_left_over : sampleTakeoverTools.Lawful ∧ Free freshHost ∧
    ¬ CleansUp sampleTakeoverTools linkUpFails samplePaths true freshHost := by
  refine ⟨sampleTakeoverTools_lawful,freshHost_free,stranded_left sampleTakeoverTools_lawful freshHost_free ?_⟩
  refine ⟨rfl,by decide +kernel,fun _ => .inl rfl,fun _ => rfl,rfl,by simp [linkUpFails]⟩

end Sample

end Dynet.Capture
