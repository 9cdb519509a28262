import Dynet.Lib.Checked
import Dynet.Persistence.Observations

/-! The byte budget of a store: how it is split when the store is opened, when it is
initialized and when it is maintained. A sum or product that does not fit is no result. -/
namespace Dynet.Persistence
open Dynet.Lib Dynet.Lib.Checked Dynet.State

def minPersistenceBytes : Nat := 4 * 1024 * 1024

def validate (policy : PersistencePolicy) : Except String Unit :=
  if policy.retention = 0 then .error "retention must be greater than zero"
  else if policy.maxBytes.toNat < minPersistenceBytes then
    .error s!"max_bytes must be at least {minPersistenceBytes}"
  else .ok ()

/-- What `open_with_policy` computes for the pragmas of the connection. -/
structure OpenLimits where
  walBudget : Nat
  databaseBudget : Nat
  walAutocheckpointPages : Nat
  maxPageCount : Nat
  deriving DecidableEq, Repr

-- The multiplication by seven is the plain one.
def openLimits (policy : PersistencePolicy) : Option OpenLimits := do
  let walBudget := policy.maxBytes.toNat / 8
  let scaled ← Checked.u64 (policy.maxBytes.toNat * 7)
  let databaseBudget := scaled / 8
  return ⟨walBudget,databaseBudget,max (walBudget / 4096 / 2) 1,max (databaseBudget / 4096) 1⟩

/-- A division by zero panics. -/
def checkedDiv (a b : Nat) : Option Nat := if b = 0 then none else some (a / b)

/-- The end of `initialize`: the page limit, with the counts before and behind a vacuum and
with the limit that SQLite has applied. -/
def initializePages (policy : PersistencePolicy) (before after : PageMetrics) (applied : Int) : Option (Except String Nat) :=
  let budget := Observations.databaseBudget policy
  let metrics := if before.allocatedBytes > budget then after else before
  if metrics.allocatedBytes > budget then
    some (.error (s!"max_bytes={policy.maxBytes.toNat} leaves {budget} bytes for the database, " ++
      s!"but its schema and retained state require {metrics.allocatedBytes} bytes"))
  else do
    let pages ← checkedDiv budget metrics.pageSize
    let maxPageCount := max pages 1
    if applied.toNat > maxPageCount then
      return .error s!"unable to lower SQLite max_page_count to {maxPageCount}"
    else return .ok maxPageCount

/-- What one maintenance computes before it reads a table. -/
structure Marks where
  cutoff : Int
  budget : Nat
  highWater : Nat
  lowWater : Nat
  deriving DecidableEq, Repr

def maintenanceMarks (policy : PersistencePolicy) (now : Nat) : Option Marks := do
  let cutoff ← Checked.i64 (Observations.cutoff policy now)
  let budget ← Checked.u64 (Observations.databaseBudget policy)
  let highWater ← Checked.u64 (saturatingMul budget 85 / 100)
  let lowWater ← Checked.u64 (saturatingMul budget 65 / 100)
  return ⟨cutoff,budget,highWater,lowWater⟩

/-- SQLite documents page sizes from 512 to 65536 bytes; a vacuum keeps the size. -/
def DocumentedPages (metrics : PageMetrics) : Prop := 512 ≤ metrics.pageSize ∧ metrics.pageSize ≤ 65536

/-- The budget arithmetic of a policy holds together. -/
structure BudgetSound (policy : PersistencePolicy) : Prop where
  opens : ∃ limits, openLimits policy = some limits ∧ limits.databaseBudget = Observations.databaseBudget policy ∧
    limits.walBudget + limits.databaseBudget ≤ policy.maxBytes.toNat ∧ 1 ≤ limits.maxPageCount
  initializes : ∀ before after applied, DocumentedPages before → after.pageSize = before.pageSize →
    ∃ result, initializePages policy before after applied = some result ∧ ∀ pages, result = .ok pages → 1 ≤ pages
  maintains : ∀ now, (maintenanceMarks policy now).isSome
  monotone : ∀ smaller : PersistencePolicy, smaller.maxBytes ≤ policy.maxBytes →
    (∃ few many, openLimits smaller = some few ∧ openLimits policy = some many ∧ few.maxPageCount ≤ many.maxPageCount) ∧
    ∀ before after applied few many, after.pageSize = before.pageSize →
      initializePages smaller before after applied = some (.ok few) →
      initializePages policy before after applied = some (.ok many) → few ≤ many

section Arithmetic
variable {policy : PersistencePolicy}

theorem openLimits_eq (fits : policy.maxBytes.toNat * 7 < 2^64) : openLimits policy =
    some ⟨policy.maxBytes.toNat / 8,policy.maxBytes.toNat * 7 / 8,max (policy.maxBytes.toNat / 8 / 4096 / 2) 1,
      max (policy.maxBytes.toNat * 7 / 8 / 4096) 1⟩ := by
  rw [openLimits,Checked.u64_fits fits]
  rfl

theorem openLimits_overflow (past : ¬policy.maxBytes.toNat * 7 < 2^64) : openLimits policy = none := by
  rw [openLimits,Checked.u64,if_neg past]
  rfl

theorem databaseBudget_eq (fits : policy.maxBytes.toNat * 7 < 2^64) :
    Observations.databaseBudget policy = policy.maxBytes.toNat * 7 / 8 := by
  rw [Observations.databaseBudget,saturatingMul,Nat.min_eq_left (by omega)]

theorem databaseBudget_mono {smaller larger : PersistencePolicy} (less : smaller.maxBytes ≤ larger.maxBytes) :
    Observations.databaseBudget smaller ≤ Observations.databaseBudget larger := by
  have bytes := UInt64.le_iff_toNat_le.mp less
  rw [Observations.databaseBudget,Observations.databaseBudget,saturatingMul,saturatingMul]
  omega

theorem cutoff_fits (policy : PersistencePolicy) (now : Nat) :
    -2^63 ≤ Observations.cutoff policy now ∧ Observations.cutoff policy now < 2^63 := by
  have first := Checked.clampI64_range now
  have second := Checked.clampI64_range policy.retention.asMillis
  rw [Observations.cutoff,u64ToI64,u64ToI64]
  omega

/-- Every value of the maintenance fits, whatever the policy. -/
theorem maintenanceMarks_eq (policy : PersistencePolicy) (now : Nat) : maintenanceMarks policy now =
    some ⟨Observations.cutoff policy now,Observations.databaseBudget policy,
      saturatingMul (Observations.databaseBudget policy) 85 / 100,saturatingMul (Observations.databaseBudget policy) 65 / 100⟩ := by
  obtain ⟨low,high⟩ := cutoff_fits policy now
  have saturated (a b : Nat) : saturatingMul a b < 2^64 := by
    rw [saturatingMul]
    omega
  have budget : Observations.databaseBudget policy < 2^64 :=
    Nat.lt_of_le_of_lt (Nat.div_le_self _ _) (saturated _ _)
  have mark (n : Nat) : saturatingMul (Observations.databaseBudget policy) n / 100 < 2^64 :=
    Nat.lt_of_le_of_lt (Nat.div_le_self _ _) (saturated _ _)
  simp only [maintenanceMarks,Checked.i64_fits low high,Checked.u64_fits budget,Checked.u64_fits (mark 85),
    Checked.u64_fits (mark 65),Option.bind_eq_bind,Option.bind_some]
  rfl

-- Pruning compares with these marks.
theorem pruneForSize_marks {now : Nat} {marks : Marks} (computed : maintenanceMarks policy now = some marks) (force : Bool)
    (upkeep : Upkeep) (tables : Observations) : Observations.pruneForSize policy force upkeep tables =
      match upkeep.metrics 0 with
      | .error error => (.error error,tables)
      | .ok metrics =>
        if !force && metrics.allocatedBytes < marks.highWater then (.ok (),tables)
        else Observations.pruneRounds marks.lowWater force upkeep 0 tables := by
  rw [maintenanceMarks_eq] at computed
  cases computed
  rfl

theorem initializePages_done (policy : PersistencePolicy) {before after : PageMetrics} (applied : Int)
    (first : 0 < before.pageSize) (second : 0 < after.pageSize) : ∃ result, initializePages policy before after applied = some result := by
  have size : (if before.allocatedBytes > Observations.databaseBudget policy then after else before).pageSize ≠ 0 := by
    split <;> omega
  rw [initializePages]
  dsimp only
  generalize (if before.allocatedBytes > Observations.databaseBudget policy then after else before) = metrics at *
  split
  · exact ⟨_,rfl⟩
  · rw [checkedDiv,if_neg size,Option.bind_eq_bind,Option.bind_some]
    split <;> exact ⟨_,rfl⟩

theorem initializePages_ok {before after : PageMetrics} {applied : Int} {pages : Nat} (same : after.pageSize = before.pageSize)
    (limited : initializePages policy before after applied = some (.ok pages)) :
    pages = max (Observations.databaseBudget policy / before.pageSize) 1 := by
  have size : (if before.allocatedBytes > Observations.databaseBudget policy then after else before).pageSize = before.pageSize := by
    split
    · exact same
    · rfl
  rw [initializePages] at limited
  dsimp only at limited
  generalize (if before.allocatedBytes > Observations.databaseBudget policy then after else before) = metrics at *
  split at limited
  · cases limited
  · rw [size,checkedDiv] at limited
    split at limited
    · cases limited
    · rw [Option.bind_eq_bind,Option.bind_some] at limited
      split at limited
      · cases limited
      · cases limited
        rfl

/-- The plain multiplication is the only step that can overflow, and below its bound everything
that is computed with the budget agrees. -/
theorem budgetSound_iff (policy : PersistencePolicy) : BudgetSound policy ↔ policy.maxBytes.toNat ≤ (2^64 - 1) / 7 := by
  constructor
  · rintro ⟨⟨limits,opened,-⟩,-,-,-⟩
    by_contra past
    rw [openLimits_overflow (by omega)] at opened
    cases opened
  · intro small
    have fits : policy.maxBytes.toNat * 7 < 2^64 := by omega
    refine ⟨⟨_,openLimits_eq fits,?_,?_,Nat.le_max_right _ _⟩,?_,?_,?_⟩
    · exact (databaseBudget_eq fits).symm
    · dsimp only
      omega
    · intro before after applied documented same
      have positive : 0 < before.pageSize := Nat.lt_of_lt_of_le (by decide) documented.1
      obtain ⟨result,done⟩ := initializePages_done policy applied positive (same ▸ positive)
      refine ⟨result,done,?_⟩
      rintro pages rfl
      rw [initializePages_ok same done]
      exact Nat.le_max_right _ _
    · intro now
      rw [maintenanceMarks_eq]
      rfl
    · intro smaller less
      have bytes := UInt64.le_iff_toNat_le.mp less
      refine ⟨⟨_,_,openLimits_eq (by omega),openLimits_eq fits,?_⟩,fun before after applied few many same first second => ?_⟩
      · dsimp only
        omega
      · rw [initializePages_ok same first,initializePages_ok same second]
        have pages := Nat.div_le_div_right (c := before.pageSize) (databaseBudget_mono less)
        omega

/-- The least budget that overflows is accepted and cannot be opened. -/
theorem least_overflow : validate ⟨.fromSecs 86400,2635249153387078803⟩ = .ok () ∧
    openLimits ⟨.fromSecs 86400,2635249153387078803⟩ = none ∧ ¬BudgetSound ⟨.fromSecs 86400,2635249153387078803⟩ := by
  have overflows : openLimits ⟨.fromSecs 86400,2635249153387078803⟩ = none := openLimits_overflow (by decide)
  refine ⟨by decide,overflows,fun sound => ?_⟩
  obtain ⟨limits,opened,-⟩ := sound.opens
  rw [overflows] at opened
  cases opened

end Arithmetic

end Dynet.Persistence
