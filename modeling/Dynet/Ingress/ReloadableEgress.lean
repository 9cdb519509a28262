import Dynet.Ingress.Config
import Dynet.Ingress.Fields
import Dynet.Lib.Maps
import Dynet.Lib.Checks

/-! The table of compiled egress graphs, one for each retained configuration
generation. Compiling one node's configuration (`EgressMedium::try_from`) is an
argument: every result here holds for every compiler. -/
namespace Dynet.Ingress
open Dynet.Runtime Dynet.Lib Dynet.Lib.Checks

def retainedGenerations : Nat := 8

/-- `GraphEgress`: the media of a configuration's nodes. -/
abbrev GraphEgress (Medium : Type) := Std.ExtTreeMap String Medium

section Compile
variable {Medium : Type} (compile : EgressNodeConfig → Except String Medium)

def GraphEgress.tryFrom (configs : Std.ExtTreeMap String EgressNodeConfig) :
    Except String (GraphEgress Medium) :=
  configs.toList.foldlM (fun nodes (id,config) => do return nodes.insert id (← compile config)) ∅

end Compile

structure ReloadableEgress (Medium : Type) where
  inner : Std.ExtTreeMap Nat (GraphEgress Medium)

namespace ReloadableEgress
variable {Medium : Type} (compile : EgressNodeConfig → Except String Medium)

def new (generation : Nat) (configs : Std.ExtTreeMap String EgressNodeConfig) :
    Except String (ReloadableEgress Medium) := do
  let graph ← GraphEgress.tryFrom compile configs
  return ⟨(∅ : Std.ExtTreeMap Nat (GraphEgress Medium)).insert generation graph⟩

-- The `while` loop of `install`: each round removes one key.
def evict : Nat → Std.ExtTreeMap Nat (GraphEgress Medium) → Std.ExtTreeMap Nat (GraphEgress Medium)
  | 0, generations => generations
  | rounds+1, generations =>
    if generations.size > retainedGenerations then match generations.keys.head? with
      | some oldest => evict rounds (generations.erase oldest)
      | none => generations
    else generations

def insertGraph (egress : ReloadableEgress Medium) (generation : Nat) (graph : GraphEgress Medium) :
    ReloadableEgress Medium :=
  let generations := egress.inner.insert generation graph
  ⟨evict generations.size generations⟩

def install (egress : ReloadableEgress Medium) (generation : Nat)
    (configs : Std.ExtTreeMap String EgressNodeConfig) : Except String (ReloadableEgress Medium) := do
  let graph ← GraphEgress.tryFrom compile configs
  return egress.insertGraph generation graph

def remove (egress : ReloadableEgress Medium) (generation : Nat) : ReloadableEgress Medium :=
  ⟨egress.inner.erase generation⟩

def generations (egress : ReloadableEgress Medium) : List Nat := egress.inner.keys

def graphFor (egress : ReloadableEgress Medium) (generation : Nat) :
    Except EgressError (GraphEgress Medium) :=
  need egress.inner[generation]?
    (.new "egress-generation" none s!"egress generation {generation} is no longer retained")

/-- At most the retained number of graphs, none newer than `newest`. -/
structure Bounded (egress : ReloadableEgress Medium) (newest : Nat) : Prop where
  retained : egress.inner.size ≤ retainedGenerations
  known : ∀ generation ∈ egress.inner, generation ≤ newest

theorem evict_of_le (rounds : Nat) (generations : Std.ExtTreeMap Nat (GraphEgress Medium))
    (fits : generations.size ≤ retainedGenerations) : evict rounds generations = generations := by
  cases rounds with
  | zero => rfl
  | succ rounds => rw [evict,if_neg (Nat.not_lt.mpr fits)]

/-- One graph too many costs exactly the oldest. -/
theorem evict_of_succ (generations : Std.ExtTreeMap Nat (GraphEgress Medium)) (oldest : Nat)
    (full : generations.size = retainedGenerations + 1) (least : generations.minKey? = some oldest) :
    evict generations.size generations = generations.erase oldest := by
  have member : generations.contains oldest := Std.ExtTreeMap.contains_minKey? least
  rw [full,evict,if_pos (by omega),Std.ExtTreeMap.head?_keys,least]
  apply evict_of_le
  rw [Std.ExtTreeMap.size_erase,if_pos member,full]
  omega

variable {egress : ReloadableEgress Medium} {newest : Nat}

/-- Installing the newest generation keeps every other graph, or all but the oldest,
which is neither the newest nor the one before it. -/
theorem Bounded.insertGraph_cases (bounded : egress.Bounded newest) (graph : GraphEgress Medium) :
    ((egress.inner.insert newest graph).size ≤ retainedGenerations ∧
      egress.insertGraph newest graph = ⟨egress.inner.insert newest graph⟩) ∨
    ∃ oldest ∈ egress.inner, oldest + 1 < newest ∧ egress.inner.size = retainedGenerations ∧
      newest ∉ egress.inner ∧
      egress.insertGraph newest graph = ⟨(egress.inner.insert newest graph).erase oldest⟩ := by
  by_cases fits : (egress.inner.insert newest graph).size ≤ retainedGenerations
  · refine .inl ⟨fits,?_⟩
    simp only [insertGraph,evict_of_le _ _ fits]
  · right
    have retained := bounded.retained
    have grown := Std.ExtTreeMap.size_insert (t := egress.inner) (k := newest) (v := graph)
    split at grown
    next => omega
    next absent =>
      have full : egress.inner.size = retainedGenerations := by omega
      have known : ∀ generation ∈ egress.inner.insert newest graph, generation ≤ newest := by
        intro generation member
        rcases Std.ExtTreeMap.mem_insert.mp member with same | old
        · exact Nat.le_of_eq (Std.LawfulEqCmp.eq_of_compare same).symm
        · exact bounded.known generation old
      obtain ⟨oldest,least⟩ : ∃ oldest, (egress.inner.insert newest graph).minKey? = some oldest :=
        Option.isSome_iff_exists.mp Std.ExtTreeMap.isSome_minKey?_insert
      obtain ⟨member,lowest⟩ := Std.ExtTreeMap.minKey?_eq_some_iff_mem_and_forall.mp least
      have spread := Maps.size_le_interval (egress.inner.insert newest graph) oldest newest (by
        intro generation present
        exact ⟨Nat.isLE_compare.mp (lowest generation present),known generation present⟩)
      have early : oldest + 1 < newest := by
        rw [grown,full] at spread
        simp only [retainedGenerations] at spread
        omega
      refine ⟨oldest,?_,early,full,?_,?_⟩
      · rcases Std.ExtTreeMap.mem_insert.mp member with same | old
        · have equal := Std.LawfulEqCmp.eq_of_compare same
          omega
        · exact old
      · exact fun present => absent (Std.ExtTreeMap.contains_iff_mem.mpr present)
      · simp only [insertGraph]
        rw [evict_of_succ _ oldest (by rw [grown,full]) least]

theorem Bounded.lookup_newest (bounded : egress.Bounded newest) (graph : GraphEgress Medium) :
    (egress.insertGraph newest graph).inner[newest]? = some graph := by
  rcases bounded.insertGraph_cases graph with ⟨_,same⟩ | ⟨oldest,_,early,_,_,same⟩
  · rw [same]
    exact Std.ExtTreeMap.getElem?_insert_self
  · rw [same,Maps.erase_lookup,if_neg (by omega)]
    exact Std.ExtTreeMap.getElem?_insert_self

theorem Bounded.lookup_other (bounded : egress.Bounded newest) (graph : GraphEgress Medium)
    (generation : Nat) (other : generation ≠ newest) :
    (egress.insertGraph newest graph).inner[generation]? = egress.inner[generation]? ∨
      (egress.insertGraph newest graph).inner[generation]? = none := by
  have kept := Maps.insert_lookup egress.inner newest generation graph
  rw [if_neg (Ne.symm other)] at kept
  rcases bounded.insertGraph_cases graph with ⟨_,same⟩ | ⟨oldest,_,_,_,_,same⟩
  · rw [same]
    exact .inl kept
  · rw [same,Maps.erase_lookup]
    split_ifs
    · exact .inr rfl
    · exact .inl kept

theorem Bounded.lookup_previous {generation : Nat} (bounded : egress.Bounded (generation + 1))
    (graph : GraphEgress Medium) :
    (egress.insertGraph (generation + 1) graph).inner[generation]? = egress.inner[generation]? := by
  have kept := Maps.insert_lookup egress.inner (generation + 1) generation graph
  rw [if_neg (by omega)] at kept
  rcases bounded.insertGraph_cases graph with ⟨_,same⟩ | ⟨oldest,_,early,_,_,same⟩
  · rw [same]
    exact kept
  · rw [same,Maps.erase_lookup,if_neg (by omega)]
    exact kept

theorem Bounded.insertGraph (bounded : egress.Bounded newest) (graph : GraphEgress Medium) :
    (egress.insertGraph newest graph).Bounded newest := by
  have known : ∀ generation ∈ egress.inner.insert newest graph, generation ≤ newest := by
    intro generation member
    rcases Std.ExtTreeMap.mem_insert.mp member with same | old
    · exact Nat.le_of_eq (Std.LawfulEqCmp.eq_of_compare same).symm
    · exact bounded.known generation old
  rcases bounded.insertGraph_cases graph with ⟨fits,same⟩ | ⟨oldest,member,_,full,absent,same⟩
  · rw [same]
    exact ⟨fits,known⟩
  · rw [same]
    refine ⟨?_,fun generation member => known generation (Std.ExtTreeMap.mem_of_mem_erase member)⟩
    have present : (egress.inner.insert newest graph).contains oldest :=
      Std.ExtTreeMap.contains_iff_mem.mpr (Std.ExtTreeMap.mem_insert.mpr (.inr member))
    have fresh : ¬ egress.inner.contains newest := fun found =>
      absent (Std.ExtTreeMap.contains_iff_mem.mp found)
    change ((egress.inner.insert newest graph).erase oldest).size ≤ retainedGenerations
    rw [Std.ExtTreeMap.size_erase,if_pos present,Std.ExtTreeMap.size_insert,if_neg fresh]
    omega

theorem Bounded.remove (bounded : egress.Bounded newest) (generation : Nat) :
    (egress.remove generation).Bounded newest where
  retained := Nat.le_trans Std.ExtTreeMap.size_erase_le bounded.retained
  known := fun other member => bounded.known other (Std.ExtTreeMap.mem_of_mem_erase member)

theorem Bounded.remove_newest (bounded : egress.Bounded (newest + 1)) :
    (egress.remove (newest + 1)).Bounded newest where
  retained := (bounded.remove (newest + 1)).retained
  known := by
    intro generation member
    have le := (bounded.remove (newest + 1)).known generation member
    have other : generation ≠ newest + 1 := by
      intro same
      subst same
      exact absurd Std.ReflCmp.compare_self (Std.ExtTreeMap.mem_erase.mp member).1
    omega

theorem Bounded.mono (bounded : egress.Bounded newest) {later : Nat} (le : newest ≤ later) :
    egress.Bounded later :=
  ⟨bounded.retained,fun generation member => Nat.le_trans (bounded.known generation member) le⟩

/-- Installing a new generation and taking it back restores the table exactly when
there was room for one more graph. -/
theorem Bounded.restored_iff (bounded : egress.Bounded newest) (graph : GraphEgress Medium) :
    (egress.insertGraph (newest + 1) graph).remove (newest + 1) = egress ↔
      egress.inner.size < retainedGenerations := by
  have fresh : newest + 1 ∉ egress.inner := by
    intro member
    have := bounded.known (newest + 1) member
    omega
  have absent : ¬ egress.inner.contains (newest + 1) := fun found =>
    fresh (Std.ExtTreeMap.contains_iff_mem.mp found)
  have grown : (egress.inner.insert (newest + 1) graph).size = egress.inner.size + 1 := by
    rw [Std.ExtTreeMap.size_insert,if_neg absent]
  have later : egress.Bounded (newest + 1) := bounded.mono (Nat.le_succ newest)
  rcases later.insertGraph_cases graph with ⟨fits,same⟩ | ⟨oldest,member,early,full,_,same⟩
  · have room : egress.inner.size < retainedGenerations := by omega
    refine ⟨fun _ => room,fun _ => ?_⟩
    rw [same]
    have restored : (egress.inner.insert (newest + 1) graph).erase (newest + 1) = egress.inner := by
      apply Std.ExtTreeMap.ext_getElem?
      intro generation
      rw [Maps.erase_lookup,Maps.insert_lookup]
      split_ifs with equal
      · subst equal
        exact (Std.ExtTreeMap.getElem?_eq_none fresh).symm
      · rfl
    exact congrArg ReloadableEgress.mk restored
  · refine ⟨fun restored => ?_,fun room => absurd full (Nat.ne_of_lt room)⟩
    rw [same] at restored
    have inner : ((egress.inner.insert (newest + 1) graph).erase oldest).erase (newest + 1) = egress.inner :=
      congrArg ReloadableEgress.inner restored
    rw [← inner] at member
    have gone := Std.ExtTreeMap.mem_of_mem_erase member
    rw [Std.ExtTreeMap.mem_erase] at gone
    exact absurd Std.ReflCmp.compare_self gone.1

end ReloadableEgress

end Dynet.Ingress
