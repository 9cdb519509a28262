import Mathlib.Data.List.Nodup
import Mathlib.Data.List.Forall2

/-! Fail-fast checks in `Except`: sequencing, guards, checks over a list and
insertion of keys that must stay distinct. Each rule turns an accepting run into
the plain condition it tested. -/
namespace Dynet.Lib.Checks

variable {α β ε κ : Type}

theorem ok_bind (value : α) (next : α → Except ε β) : (Except.ok value >>= next) = next value := rfl

theorem error_bind (fault : ε) (next : α → Except ε β) :
    ((Except.error fault : Except ε α) >>= next) = .error fault := rfl

theorem bind_ok_iff (first : Except ε α) (next : α → Except ε β) (result : β) :
    (first >>= next) = .ok result ↔ ∃ value, first = .ok value ∧ next value = .ok result := by
  cases first with
  | error e => simp [bind,Except.bind]
  | ok value => simp [bind,Except.bind]

theorem bind_error_iff (first : Except ε α) (next : α → Except ε β) (fault : ε) :
    (first >>= next) = .error fault ↔ first = .error fault ∨ ∃ value, first = .ok value ∧ next value = .error fault := by
  cases first <;> simp [bind,Except.bind]

theorem map_ok_iff (f : α → β) (first : Except ε α) (result : β) :
    (f <$> first) = .ok result ↔ ∃ value, first = .ok value ∧ f value = result := by
  cases first with
  | error e => simp [Functor.map,Except.map]
  | ok value => simp [Functor.map,Except.map]

theorem then_ok_iff (check : Except ε Unit) (next : Unit → Except ε β) (result : β) :
    (check >>= next) = .ok result ↔ check = .ok () ∧ next () = .ok result := by
  rw [bind_ok_iff]
  exact ⟨fun ⟨_,fine,rest⟩ => ⟨fine,rest⟩,fun ⟨fine,rest⟩ => ⟨(),fine,rest⟩⟩

/-- A guard: the error is raised exactly when the condition fails. -/
def ensure (condition : Prop) [Decidable condition] (fault : ε) : Except ε Unit :=
  if condition then .ok () else .error fault

@[simp] theorem ensure_ok_iff (condition : Prop) [Decidable condition] (fault : ε) :
    ensure condition fault = .ok () ↔ condition := by
  unfold ensure
  split <;> simp_all

theorem ensure_of (condition : Prop) [Decidable condition] (fault : ε) (holds : condition) :
    ensure condition fault = .ok () := if_pos holds

theorem ensure_of_not (condition : Prop) [Decidable condition] (fault : ε) (fails : ¬ condition) :
    ensure condition fault = .error fault := if_neg fails

/-- A lookup that must succeed. -/
def need (found : Option α) (fault : ε) : Except ε α :=
  match found with
  | some value => .ok value
  | none => .error fault

@[simp] theorem need_ok_iff (found : Option α) (fault : ε) (value : α) :
    need found fault = .ok value ↔ found = some value := by
  cases found <;> simp [need]

theorem need_error_iff (found : Option α) (fault other : ε) :
    need found fault = .error other ↔ found = none ∧ fault = other := by
  cases found <;> simp [need]

theorem mapError_error_iff {ε' : Type} (convert : ε → ε') (first : Except ε α) (fault : ε') :
    first.mapError convert = .error fault ↔ ∃ cause, first = .error cause ∧ convert cause = fault := by
  cases first <;> simp [Except.mapError]

@[simp] theorem mapError_ok_iff {ε' : Type} (convert : ε → ε') (first : Except ε α) (value : α) :
    first.mapError convert = .ok value ↔ first = .ok value := by
  cases first <;> simp [Except.mapError]

theorem ok_of_toOption_map {first : Except ε α} {part : α → β} {result : β}
    (computed : first.toOption.map part = some result) : ∃ value, first = .ok value ∧ part value = result := by
  cases first with
  | error e => simp [Except.toOption] at computed
  | ok value => exact ⟨value,rfl,by simpa [Except.toOption] using computed⟩

/-- Run one check on every item of a list, in order. -/
def each (check : α → Except ε Unit) : List α → Except ε Unit
  | [] => .ok ()
  | x::xs => do check x; each check xs

theorem each_ok_iff (check : α → Except ε Unit) (xs : List α) :
    each check xs = .ok () ↔ ∀ x ∈ xs, check x = .ok () := by
  induction xs with
  | nil => simp [each]
  | cons x xs ih => simp [each,then_ok_iff,ih]

theorem nodup_map_cons {key : α → κ} {x : α} {xs : List α} (apart : ∀ y ∈ xs, key y ≠ key x)
    (distinct : (xs.map key).Nodup) : ((x::xs).map key).Nodup := by
  rw [List.map_cons,List.nodup_cons]
  refine ⟨?_,distinct⟩
  intro repeated
  obtain ⟨y,member,same⟩ := List.mem_map.mp repeated
  exact apart y member same

/-- Insert the keys of the items into a set of seen keys. Each item is checked
on its own before its key is looked up. -/
def insertAll [DecidableEq κ] (key : α → κ) (check : α → Except ε Unit) (duplicate : α → ε) :
    List κ → List α → Except ε (List κ)
  | seen, [] => .ok seen
  | seen, x::xs => do
    check x
    ensure (key x ∉ seen) (duplicate x)
    insertAll key check duplicate (key x::seen) xs

theorem insertAll_ok_iff [DecidableEq κ] (key : α → κ) (check : α → Except ε Unit)
    (duplicate : α → ε) (seen : List κ) (xs : List α) (result : List κ) :
    insertAll key check duplicate seen xs = .ok result ↔
      (∀ x ∈ xs, check x = .ok ()) ∧ (xs.map key).Nodup ∧ (∀ x ∈ xs, key x ∉ seen) ∧
        result = (xs.map key).reverse ++ seen := by
  induction xs generalizing seen with
  | nil => simp [insertAll,eq_comm]
  | cons x xs ih =>
    simp only [insertAll,then_ok_iff,ensure_ok_iff,ih,List.map_cons,List.nodup_cons,
      List.mem_map,not_exists,not_and,List.reverse_cons,List.append_assoc,List.singleton_append]
    constructor
    · rintro ⟨fine,fresh,checks,distinct,outside,rfl⟩
      have apart : ∀ y ∈ xs, key y ≠ key x ∧ key y ∉ seen := by
        intro y member
        simpa using outside y member
      exact ⟨List.forall_mem_cons.mpr ⟨fine,checks⟩,⟨fun y member => (apart y member).1,distinct⟩,
        List.forall_mem_cons.mpr ⟨fresh,fun y member => (apart y member).2⟩,rfl⟩
    · rintro ⟨checks,⟨different,distinct⟩,outside,rfl⟩
      obtain ⟨fine,checks⟩ := List.forall_mem_cons.mp checks
      obtain ⟨fresh,outside⟩ := List.forall_mem_cons.mp outside
      refine ⟨fine,fresh,checks,distinct,?_,rfl⟩
      intro y member
      simpa using ⟨different y member,outside y member⟩

/-- Append rows to a table whose keys must stay distinct. -/
def appendRows [DecidableEq κ] (key : α → κ) (duplicate : α → ε) : List α → List α → Except ε (List α)
  | table, [] => .ok table
  | table, row::rows => do
    ensure (key row ∉ table.map key) (duplicate row)
    appendRows key duplicate (table ++ [row]) rows

theorem appendRows_ok_iff [DecidableEq κ] (key : α → κ) (duplicate : α → ε) (table rows result : List α) :
    appendRows key duplicate table rows = .ok result ↔
      (rows.map key).Nodup ∧ (∀ row ∈ rows, key row ∉ table.map key) ∧ result = table ++ rows := by
  induction rows generalizing table with
  | nil => simp [appendRows,eq_comm]
  | cons row rows ih =>
    simp only [appendRows,then_ok_iff,ensure_ok_iff,ih,List.map_cons,List.nodup_cons,List.map_append,
      List.map_nil,List.mem_append,List.mem_singleton,not_or,List.forall_mem_cons,List.append_assoc,
      List.singleton_append]
    constructor
    · intro ⟨fresh,distinct,outside,same⟩
      refine ⟨⟨?_,distinct⟩,⟨fresh,fun other member => (outside other member).1⟩,same⟩
      intro repeated
      obtain ⟨other,member,equal⟩ := List.mem_map.mp repeated
      exact (outside other member).2 equal
    · intro ⟨⟨absent,distinct⟩,⟨fresh,outside⟩,same⟩
      refine ⟨fresh,distinct,?_,same⟩
      intro other member
      exact ⟨outside other member,fun equal => absent (equal ▸ List.mem_map_of_mem member)⟩

/-- A fallible map keeps the items' order: every result belongs to its item. -/
theorem mapM_forall₂ (load : α → Except ε β) (xs : List α) (ys : List β) :
    xs.mapM load = .ok ys ↔ List.Forall₂ (fun x y => load x = .ok y) xs ys := by
  induction xs generalizing ys with
  | nil => cases ys <;> simp [pure,Except.pure]
  | cons x xs ih =>
    rw [List.mapM_cons,bind_ok_iff]
    constructor
    · rintro ⟨y,head,rest⟩
      obtain ⟨tail,mapped,done⟩ := (bind_ok_iff _ _ _).mp rest
      cases done
      exact .cons head ((ih tail).mp mapped)
    · rintro (_ | ⟨head,tail⟩)
      exact ⟨_,head,(bind_ok_iff _ _ _).mpr ⟨_,(ih _).mpr tail,rfl⟩⟩

theorem mapM_ok {ρ : Type} (decode : ρ → Except ε β) (rows : List ρ) (decoded : ∀ row ∈ rows, ∃ value, decode row = .ok value) :
    rows.mapM decode = .ok (rows.filterMap fun row => (decode row).toOption) := by
  induction rows with
  | nil => rfl
  | cons row rows ih =>
    obtain ⟨⟨value,here⟩,later⟩ := List.forall_mem_cons.mp decoded
    rw [List.mapM_cons,here,ih later,List.filterMap_cons_some (by rw [here]; rfl)]
    rfl

/-- Rows are decoded in any order they are read in. -/
theorem mapM_perm {ρ : Type} {decode : ρ → Except ε β} {encode : α → ρ} {stored : α → β} {xs : List α}
    (decodes : ∀ x ∈ xs, decode (encode x) = .ok (stored x)) {rows : List ρ} (reordered : rows.Perm (xs.map encode)) :
    ∃ ys, rows.mapM decode = .ok ys ∧ ys.Perm (xs.map stored) := by
  refine ⟨_,mapM_ok decode rows fun row member => ?_,?_⟩
  · obtain ⟨x,listed,rfl⟩ := List.mem_map.mp (reordered.mem_iff.mp member)
    exact ⟨_,decodes x listed⟩
  · refine (reordered.filterMap _).trans (List.Perm.of_eq ?_)
    rw [List.filterMap_map,← List.filterMap_eq_map]
    refine List.filterMap_congr fun x listed => ?_
    rw [Function.comp_apply,decodes x listed]
    rfl

end Dynet.Lib.Checks
