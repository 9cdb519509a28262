import Std.Data.ExtTreeMap
import Mathlib.Data.List.Nodup
import Mathlib.Data.List.Perm.Subperm
import Mathlib.Algebra.BigOperators.Group.List.Basic
import Mathlib.Algebra.GroupWithZero.Nat

/-! Lookups in ordered maps that are filled from a list: one entry per key when
the keys are distinct, and one bucket per key when items are grouped. -/
namespace Dynet.Lib.Maps

variable {α κ β : Type} [Ord κ] [DecidableEq κ] [Std.TransOrd κ] [Std.LawfulEqOrd κ]

omit [Ord κ] [Std.TransOrd κ] [Std.LawfulEqOrd κ] in
theorem find_key_iff (key : α → κ) (xs : List α) (k : κ) (x : α) (distinct : (xs.map key).Nodup) :
    xs.find? (fun y => key y = k) = some x ↔ x ∈ xs ∧ key x = k := by
  constructor
  · intro found
    exact ⟨List.mem_of_find?_eq_some found,by simpa using List.find?_some found⟩
  · rintro ⟨member,rfl⟩
    cases found : xs.find? (fun y => key y = key x) with
    | none => simpa using List.find?_eq_none.mp found x member
    | some other =>
      have same : key other = key x := by simpa using List.find?_some found
      rw [List.inj_on_of_nodup_map distinct (List.mem_of_find?_eq_some found) member same]

omit [Ord κ] [Std.TransOrd κ] [Std.LawfulEqOrd κ] in
theorem find_perm {key : α → κ} {xs ys : List α} (reordered : ys.Perm xs) (distinct : (xs.map key).Nodup) (k : κ) :
    ys.find? (fun y => key y = k) = xs.find? fun x => key x = k := by
  refine Option.ext fun x => ?_
  rw [find_key_iff key ys k x ((reordered.map key).nodup_iff.mpr distinct),find_key_iff key xs k x distinct,reordered.mem_iff]

theorem insert_lookup (map : Std.ExtTreeMap κ β) (written k : κ) (value : β) :
    (map.insert written value)[k]? = if written = k then some value else map[k]? := by
  simp [Std.ExtTreeMap.getElem?_insert]

theorem erase_lookup (map : Std.ExtTreeMap κ β) (erased k : κ) :
    (map.erase erased)[k]? = if erased = k then none else map[k]? := by
  simp [Std.ExtTreeMap.getElem?_erase]

def fill (key : α → κ) (value : α → β) (xs : List α) (map : Std.ExtTreeMap κ β) : Std.ExtTreeMap κ β :=
  xs.foldl (fun map x => map.insert (key x) (value x)) map

theorem fill_lookup (key : α → κ) (value : α → β) (xs : List α) (map : Std.ExtTreeMap κ β) (k : κ)
    (distinct : (xs.map key).Nodup) :
    (fill key value xs map)[k]? = ((xs.find? fun x => key x = k).map value).or map[k]? := by
  induction xs generalizing map with
  | nil => simp [fill]
  | cons x xs ih =>
    obtain ⟨fresh,distinct⟩ := List.nodup_cons.mp distinct
    have rest := ih (map.insert (key x) (value x)) distinct
    change (fill key value xs (map.insert (key x) (value x)))[k]? = _
    rw [rest,Std.ExtTreeMap.getElem?_insert,List.find?_cons]
    by_cases same : key x = k
    · subst k
      have absent : xs.find? (fun y => key y = key x) = none := by
        rw [List.find?_eq_none]
        intro y member
        have different : key y ≠ key x := fun equal => fresh (equal ▸ List.mem_map_of_mem member)
        simpa using different
      simp [absent]
    · simp [same]

theorem fill_empty_lookup (key : α → κ) (value : α → β) (xs : List α) (k : κ)
    (distinct : (xs.map key).Nodup) :
    (fill key value xs ∅)[k]? = (xs.find? fun x => key x = k).map value := by
  rw [fill_lookup key value xs ∅ k distinct]
  simp

theorem fill_perm {key : α → κ} (value : α → β) {xs ys : List α} (reordered : ys.Perm xs) (distinct : (xs.map key).Nodup) :
    fill key value ys ∅ = fill key value xs ∅ := by
  refine Std.ExtTreeMap.ext_getElem? fun k => ?_
  rw [fill_empty_lookup key value ys k ((reordered.map key).nodup_iff.mpr distinct),fill_empty_lookup key value xs k distinct,
    find_perm reordered distinct]

omit [DecidableEq κ] in
theorem fill_empty_size (key : α → κ) (value : α → β) (xs : List α)
    (distinct : (xs.map key).Nodup) : (fill key value xs ∅).size = xs.length := by
  have general (map : Std.ExtTreeMap κ β) (outside : ∀ x ∈ xs, key x ∉ map) :
      (fill key value xs map).size = map.size + xs.length := by
    induction xs generalizing map with
    | nil => simp [fill]
    | cons x xs ih =>
      obtain ⟨fresh,rest⟩ := List.nodup_cons.mp distinct
      obtain ⟨first,outside⟩ := List.forall_mem_cons.mp outside
      have apart : ∀ y ∈ xs, key y ∉ map.insert (key x) (value x) := by
        intro y member
        rw [Std.ExtTreeMap.mem_insert,Std.LawfulEqCmp.compare_eq_iff_eq,not_or]
        exact ⟨fun equal => fresh (equal ▸ List.mem_map_of_mem member),outside y member⟩
      change (fill key value xs (map.insert (key x) (value x))).size = _
      have absent : ¬ map.contains (key x) = true := fun present => first (Std.ExtTreeMap.contains_iff_mem.mp present)
      rw [ih rest _ apart,Std.ExtTreeMap.size_insert,if_neg absent,List.length_cons]
      omega
  simpa using general ∅ (by simp)

def bucket (key : α → κ) (xs : List α) (map : Std.ExtTreeMap κ (List α)) : Std.ExtTreeMap κ (List α) :=
  xs.foldl (fun map x => map.alter (key x) fun present => some (present.getD [] ++ [x])) map

theorem bucket_lookup (key : α → κ) (xs : List α) (map : Std.ExtTreeMap κ (List α)) (k : κ) :
    (bucket key xs map)[k]? =
      if xs.any (fun x => key x = k) then some (map[k]?.getD [] ++ xs.filter fun x => key x = k)
      else map[k]? := by
  induction xs generalizing map with
  | nil => simp [bucket]
  | cons x xs ih =>
    change (bucket key xs (map.alter (key x) fun present => some (present.getD [] ++ [x])))[k]? = _
    rw [ih,Std.ExtTreeMap.getElem?_alter]
    by_cases same : key x = k
    · subst k
      by_cases more : xs.any (fun y => key y = key x)
      · simp [more]
      · have none : xs.filter (fun y => key y = key x) = [] := by
          simpa using more
        simp [none]
    · simp [same]

theorem bucket_empty_lookup (key : α → κ) (xs : List α) (k : κ) :
    (bucket key xs ∅)[k]? =
      if xs.any (fun x => key x = k) then some (xs.filter fun x => key x = k) else none := by
  rw [bucket_lookup]
  simp

/-- One accumulator per key, fed the items of that key in order. -/
def tally (key : α → κ) (record : β → α → β) (zero : β) (xs : List α) (map : Std.ExtTreeMap κ β) :
    Std.ExtTreeMap κ β :=
  xs.foldl (fun map x => map.alter (key x) fun present => some (record (present.getD zero) x)) map

theorem tally_lookup (key : α → κ) (record : β → α → β) (zero : β) (xs : List α)
    (map : Std.ExtTreeMap κ β) (k : κ) :
    (tally key record zero xs map)[k]? =
      if xs.any (fun x => key x = k) then
        some ((xs.filter fun x => key x = k).foldl record (map[k]?.getD zero))
      else map[k]? := by
  induction xs generalizing map with
  | nil => simp [tally]
  | cons x xs ih =>
    change (tally key record zero xs (map.alter (key x) fun present => some (record (present.getD zero) x)))[k]? = _
    rw [ih,Std.ExtTreeMap.getElem?_alter]
    by_cases same : key x = k
    · subst k
      by_cases more : xs.any (fun y => key y = key x)
      · simp [more]
      · have none : xs.filter (fun y => key y = key x) = [] := by
          simpa using more
        simp [none]
    · simp [same]

theorem tally_empty_lookup (key : α → κ) (record : β → α → β) (zero : β) (xs : List α) (k : κ) :
    (tally key record zero xs ∅)[k]? =
      if xs.any (fun x => key x = k) then some ((xs.filter fun x => key x = k).foldl record zero) else none := by
  rw [tally_lookup]
  simp

omit [Ord κ] [Std.TransOrd κ] [Std.LawfulEqOrd κ] in
theorem sum_single (keys : List κ) (k : κ) (n : Nat) (distinct : keys.Nodup) (member : k ∈ keys) :
    (keys.map fun other => if k = other then n else 0).sum = n := by
  induction keys with
  | nil => cases member
  | cons first keys ih =>
    obtain ⟨fresh,distinct⟩ := List.nodup_cons.mp distinct
    rw [List.map_cons,List.sum_cons]
    by_cases here : k = first
    · subst here
      have none : (keys.map fun other => if k = other then n else 0).sum = 0 := by
        refine List.sum_eq_zero fun value listed => ?_
        obtain ⟨other,present,rfl⟩ := List.mem_map.mp listed
        have apart : k ≠ other := fun same => fresh (same ▸ present)
        exact if_neg apart
      rw [none,if_pos rfl,Nat.add_zero]
    · rw [if_neg here,Nat.zero_add,ih distinct (List.mem_of_ne_of_mem here member)]

omit [Ord κ] [Std.TransOrd κ] [Std.LawfulEqOrd κ] in
/-- Distinct keys that cover the items split the sum of their weights. -/
theorem sum_fibers (key : α → κ) (weight : α → Nat) (keys : List κ) (xs : List α) (distinct : keys.Nodup)
    (covered : ∀ x ∈ xs, key x ∈ keys) :
    (keys.map fun k => ((xs.filter fun x => key x = k).map weight).sum).sum = (xs.map weight).sum := by
  induction xs with
  | nil => simp
  | cons x xs ih =>
    obtain ⟨first,covered⟩ := List.forall_mem_cons.mp covered
    have shares (k : κ) : (((x::xs).filter fun x => key x = k).map weight).sum =
        (if key x = k then weight x else 0) + ((xs.filter fun x => key x = k).map weight).sum := by
      by_cases same : key x = k <;> simp [same]
    simp only [shares,List.sum_map_add,sum_single keys (key x) (weight x) distinct first,ih covered,List.map_cons,List.sum_cons]

/-- A measure that agrees with the weights on every accumulator agrees with them on any
choice of keys. -/
theorem tally_sum (key : α → κ) (record : β → α → β) (zero : β) (xs : List α) (chosen : κ → Bool)
    (measure : β → Nat) (weight : α → Nat)
    (counted : ∀ k, chosen k → measure ((xs.filter fun x => key x = k).foldl record zero) =
      ((xs.filter fun x => key x = k).map weight).sum) :
    (((tally key record zero xs ∅).toList.filter fun entry => chosen entry.1).map fun entry => measure entry.2).sum =
      ((xs.filter fun x => chosen (key x)).map weight).sum := by
  let kept := (tally key record zero xs ∅).toList.filter fun entry => chosen entry.1
  let picked := xs.filter fun x => chosen (key x)
  have distinct : (kept.map Prod.fst).Nodup := by
    have keys : ((tally key record zero xs ∅).toList.map Prod.fst).Nodup := by
      rw [Std.ExtTreeMap.map_fst_toList_eq_keys]
      exact Std.ExtTreeMap.nodup_keys
    exact keys.sublist (List.filter_sublist.map Prod.fst)
  have covered : ∀ x ∈ picked, key x ∈ kept.map Prod.fst := by
    intro x member
    obtain ⟨listed,picks⟩ := List.mem_filter.mp member
    have found : (tally key record zero xs ∅)[key x]? = some ((xs.filter fun y => key y = key x).foldl record zero) := by
      rw [tally_empty_lookup,if_pos (List.any_eq_true.mpr ⟨x,listed,by simp⟩)]
    have entry := Std.ExtTreeMap.mem_toList_iff_getElem?_eq_some.mpr found
    exact List.mem_map.mpr ⟨_,List.mem_filter.mpr ⟨entry,picks⟩,rfl⟩
  have entries : kept.map (fun entry => measure entry.2) =
      (kept.map Prod.fst).map fun k => ((picked.filter fun x => key x = k).map weight).sum := by
    rw [List.map_map]
    refine List.map_congr_left fun entry member => ?_
    obtain ⟨listed,picks⟩ := List.mem_filter.mp member
    have found := Std.ExtTreeMap.mem_toList_iff_getElem?_eq_some.mp listed
    have same : picked.filter (fun x => key x = entry.1) = xs.filter fun x => key x = entry.1 := by
      rw [List.filter_filter]
      refine List.filter_congr fun x _ => ?_
      by_cases here : key x = entry.1
      · simp [here,picks]
      · simp [here]
    rw [tally_empty_lookup,Option.ite_none_right_eq_some,Option.some.injEq] at found
    rw [Function.comp_apply,same,← counted entry.1 picks,found.2]
  rw [entries,sum_fibers key weight _ picked distinct covered]

theorem tally_perm (key : α → κ) (record : β → α → β) (zero : β)
    (commutes : ∀ b x y, record (record b x) y = record (record b y) x) {xs ys : List α} (perm : xs.Perm ys) :
    tally key record zero xs ∅ = tally key record zero ys ∅ := by
  refine Std.ExtTreeMap.ext_getElem? fun k => ?_
  have : RightCommutative record := ⟨commutes⟩
  rw [tally_empty_lookup,tally_empty_lookup,perm.any_eq,(perm.filter _).foldl_eq]

theorem find_toList (map : Std.ExtTreeMap κ β) (k : κ) :
    map.toList.find? (fun entry => entry.1 = k) = map[k]?.map (k,·) := by
  have distinct : (map.toList.map Prod.fst).Nodup := by
    rw [Std.ExtTreeMap.map_fst_toList_eq_keys]
    exact Std.ExtTreeMap.nodup_keys
  refine Option.ext fun entry => ?_
  rw [find_key_iff Prod.fst _ k entry distinct,Option.map_eq_some_iff]
  constructor
  · rintro ⟨member,rfl⟩
    exact ⟨entry.2,Std.ExtTreeMap.mem_toList_iff_getElem?_eq_some.mp member,rfl⟩
  · rintro ⟨value,found,rfl⟩
    exact ⟨Std.ExtTreeMap.mem_toList_iff_getElem?_eq_some.mpr found,rfl⟩

/-- A map whose keys lie in an interval has at most as many entries as it. -/
theorem size_le_interval (map : Std.ExtTreeMap Nat β) (low high : Nat)
    (inside : ∀ k ∈ map, low ≤ k ∧ k ≤ high) : map.size ≤ high + 1 - low := by
  have covered : map.keys ⊆ List.range' low (high + 1 - low) := by
    intro k member
    obtain ⟨above,below⟩ := inside k (Std.ExtTreeMap.mem_keys.mp member)
    rw [List.mem_range'_1]
    omega
  have bound := (List.subperm_of_subset Std.ExtTreeMap.nodup_keys covered).length_le
  rwa [Std.ExtTreeMap.length_keys,List.length_range'] at bound

end Dynet.Lib.Maps
