import Mathlib.Data.List.Nodup
import Mathlib.Data.List.Infix
import Mathlib.Data.List.Perm.Subperm
import Mathlib.Logic.Relation
import Mathlib.Data.Set.Finite.Basic

/-! Walks along a partial successor function. A walk that ends is a `Path`: it is
unique, repeats nothing and visits exactly what its start reaches. -/
namespace Dynet.Lib.Walk

variable {α : Type*}

/-- The complete walk from a start: every element but the last has the next one
as its successor, and the last has none. -/
inductive Path (next : α → Option α) : α → List α → Prop
  | last {a : α} (stop : next a = none) : Path next a [a]
  | step {a b : α} {rest : List α} (edge : next a = some b) (tail : Path next b rest) :
      Path next a (a::rest)

variable {next : α → Option α}

namespace Path

theorem unique {a : α} {p q : List α} (first : Path next a p) (second : Path next a q) : p = q := by
  induction first generalizing q with
  | last stop =>
    cases second with
    | last _ => rfl
    | step edge _ => simp [stop] at edge
  | step edge _ ih =>
    cases second with
    | last stop => simp [stop] at edge
    | step other tail =>
      cases Option.some.inj (edge.symm.trans other)
      rw [ih tail]

theorem map {β : Type*} {after : β → Option β} (f : α → β) (carried : ∀ a, after (f a) = (next a).map f) {a : α} {p : List α}
    (path : Path next a p) : Path after (f a) (p.map f) := by
  induction path with
  | last stop => exact .last (by rw [carried,stop]; rfl)
  | step edge _ ih => exact .step (by rw [carried,edge]; rfl) ih

theorem ne_nil {a : α} {p : List α} (path : Path next a p) : p ≠ [] := by
  cases path <;> simp

theorem head_mem {a : α} {p : List α} (path : Path next a p) : a ∈ p := by
  cases path <;> simp

/-- From every visited element the rest of the walk is its own complete walk. -/
theorem suffix {a b : α} {p : List α} (path : Path next a p) (member : b ∈ p) :
    ∃ q, Path next b q ∧ q <:+ p := by
  induction path with
  | @last a stop =>
    cases List.mem_singleton.mp member
    exact ⟨[b],.last stop,List.suffix_refl _⟩
  | @step a c rest edge tail ih =>
    rcases List.mem_cons.mp member with rfl | inside
    · exact ⟨b::rest,.step edge tail,List.suffix_refl _⟩
    · obtain ⟨q,sub,shorter⟩ := ih inside
      exact ⟨q,sub,shorter.trans (List.suffix_cons a rest)⟩

/-- A complete walk repeats nothing: a second visit would start a shorter
complete walk from the same element. -/
theorem nodup {a : α} {p : List α} (path : Path next a p) : p.Nodup := by
  induction path with
  | last _ => simp
  | @step a b rest edge tail ih =>
    refine List.nodup_cons.mpr ⟨?_,ih⟩
    intro again
    obtain ⟨q,sub,shorter⟩ := tail.suffix again
    have same := unique (.step edge tail) sub
    have bound := shorter.length_le
    rw [← same,List.length_cons] at bound
    omega

theorem mem_of_edge {a b c : α} {p : List α} (path : Path next a p) (member : b ∈ p)
    (edge : next b = some c) : c ∈ p := by
  obtain ⟨q,sub,shorter⟩ := path.suffix member
  cases sub with
  | last stop => simp [stop] at edge
  | step other tail =>
    cases Option.some.inj (edge.symm.trans other)
    exact shorter.subset (List.mem_cons_of_mem _ tail.head_mem)

theorem mem_iff_reaches {a b : α} {p : List α} (path : Path next a p) :
    b ∈ p ↔ Relation.ReflTransGen (fun x y => next x = some y) a b := by
  constructor
  · intro member
    induction path with
    | last stop => cases List.mem_singleton.mp member; exact .refl
    | step edge tail ih =>
      rcases List.mem_cons.mp member with rfl | inside
      · exact .refl
      · exact .head edge (ih inside)
  · intro reached
    induction reached with
    | refl => exact path.head_mem
    | tail _ edge ih => exact path.mem_of_edge ih edge

theorem subset {a : α} {p : List α} {domain : List α} (path : Path next a p)
    (start : a ∈ domain) (closed : ∀ x ∈ domain, ∀ y, next x = some y → y ∈ domain) :
    p ⊆ domain := by
  induction path with
  | last _ => simpa using start
  | step edge _ ih =>
    exact List.cons_subset.mpr ⟨start,ih (closed _ start _ edge)⟩

theorem length_le {a : α} {p : List α} {domain : List α} (path : Path next a p)
    (start : a ∈ domain) (closed : ∀ x ∈ domain, ∀ y, next x = some y → y ∈ domain) :
    p.length ≤ domain.length :=
  (List.subperm_of_subset path.nodup (path.subset start closed)).length_le

/-- Two successor functions that agree up to a relation walk alike. -/
theorem transfer {β : Type*} {other : β → Option β} {related : α → β → Prop}
    (alike : ∀ a b, related a b → Option.Rel related (next a) (other b)) {a : α} {p : List α}
    (path : Path next a p) {b : β} (start : related a b) : ∃ q, Path other b q := by
  induction path generalizing b with
  | last stop =>
    have same := alike _ _ start
    rw [stop] at same
    cases ending : other b with
    | none => exact ⟨[b],.last ending⟩
    | some after => rw [ending] at same; cases same
  | step edge _ ih =>
    have same := alike _ _ start
    rw [edge] at same
    cases moving : other b with
    | none => rw [moving] at same; cases same
    | some after =>
      rw [moving] at same
      cases same with
      | some step =>
        obtain ⟨q,walk⟩ := ih step
        exact ⟨b::q,.step moving walk⟩

theorem exists_iff {β : Type*} {other : β → Option β} {related : α → β → Prop}
    (alike : ∀ a b, related a b → Option.Rel related (next a) (other b)) {a : α} {b : β}
    (start : related a b) : (∃ p, Path next a p) ↔ ∃ q, Path other b q := by
  constructor
  · intro ⟨_,path⟩
    exact path.transfer alike start
  · intro ⟨_,path⟩
    have back : ∀ y x, related x y → Option.Rel (fun y x => related x y) (other y) (next x) := by
      intro y x fits
      have same := alike x y fits
      generalize next x = first at same ⊢
      generalize other y = second at same ⊢
      cases same with
      | none => exact .none
      | some step => exact .some step
    exact path.transfer back start

theorem acyclic {a : α} {p : List α} (path : Path next a p) :
    ¬ Relation.TransGen (fun x y => next x = some y) a a := by
  intro cycle
  obtain ⟨b,edge,back⟩ := (Relation.TransGen.head'_iff).mp cycle
  cases path with
  | last stop => simp [stop] at edge
  | step move tail =>
    cases Option.some.inj (edge.symm.trans move)
    have again := tail.mem_iff_reaches.mpr back
    exact (List.nodup_cons.mp (Path.step move tail).nodup).1 again

end Path

/-- On a closed finite domain the walks are complete exactly when none returns. -/
theorem exists_path_iff_acyclic (domain : List α)
    (closed : ∀ x ∈ domain, ∀ y, next x = some y → y ∈ domain) :
    (∀ a ∈ domain, ∃ p, Path next a p) ↔
      ∀ a ∈ domain, ¬ Relation.TransGen (fun x y => next x = some y) a a := by
  constructor
  · intro complete a member
    obtain ⟨_,path⟩ := complete a member
    exact path.acyclic
  · intro acyclic
    let after (x y : {x // x ∈ domain}) : Prop :=
      Relation.TransGen (fun a b => next a = some b) y.val x.val
    have trans : IsTrans _ after := ⟨fun _ _ _ first second => Relation.TransGen.trans second first⟩
    have irrefl : Std.Irrefl after := ⟨fun x => acyclic x.val x.property⟩
    have finite : Finite {x // x ∈ domain} := List.finite_toSet domain
    have founded : WellFounded after := Finite.wellFounded_of_trans_of_irrefl after
    have complete (x : {x // x ∈ domain}) : ∃ p, Path next x.val p := by
      induction x using founded.induction with
      | _ x ih =>
        cases edge : next x.val with
        | none => exact ⟨[x.val],.last edge⟩
        | some y =>
          obtain ⟨p,path⟩ := ih ⟨y,closed x.val x.property y edge⟩ (.single edge)
          exact ⟨x.val::p,.step edge path⟩
    exact fun a member => complete ⟨a,member⟩

end Dynet.Lib.Walk
