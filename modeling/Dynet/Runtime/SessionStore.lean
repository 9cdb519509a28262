import Dynet.Runtime.ActiveSessions
import Mathlib.Data.List.Infix

/-! The session store over whole runs: what a recovery keeps, what each update replaces,
and how the sessions held relate to the updates since they came in. -/
namespace Dynet.Runtime
open Dynet.Lib

namespace TrafficSessionStore

def makeRoom (inner : Std.ExtTreeMap String TrafficSession) : Std.ExtTreeMap String TrafficSession :=
  if inner.size = trafficSessionLimit then
    match oldestSessionKey inner with
    | some oldest => inner.erase oldest
    | none => inner
  else inner

def fromSessions (sessions : List TrafficSession) : TrafficSessionStore :=
  ⟨(sessions.reverse.take trafficSessionLimit).reverse.foldl
    (fun inner session => (makeRoom inner).insert session.sessionKey session) ∅⟩

def applyUpdates (store : TrafficSessionStore) (updates : List TrafficSessionUpdate) : TrafficSessionStore :=
  updates.foldl applyUpdate store

/-- The key has been held since the recovery, or since the update that last brought it in. -/
inductive Since (start : TrafficSessionStore) (updates : List TrafficSessionUpdate) (key : String) :
    TrafficSession → List TrafficSessionUpdate → Prop
  | recovered (base : TrafficSession) (found : start.inner[key]? = some base)
      (kept : ∀ part, part <+: updates → key ∈ (start.applyUpdates part).inner) : Since start updates key base updates
  | inserted (before : List TrafficSessionUpdate) (update : TrafficSessionUpdate) (after : List TrafficSessionUpdate)
      (split : updates = before ++ update::after) (own : update.sessionKey = key)
      (absent : key ∉ (start.applyUpdates before).inner)
      (kept : ∀ part, part <+: after → key ∈ (start.applyUpdates (before ++ update::part)).inner) :
      Since start updates key (.new update) (update::after)

def folded (key : String) (base : TrafficSession) (updates : List TrafficSessionUpdate) : TrafficSession :=
  (updates.filter (·.sessionKey = key)).foldl TrafficSession.applyUpdate base

/-- What an update does to the session under its key, and to those under the other keys. -/
structure Replaces (store : TrafficSessionStore) (update : TrafficSessionUpdate) : Prop where
  own : (store.applyUpdate update).inner[update.sessionKey]? =
    some ((store.inner[update.sessionKey]?.getD (.new update)).applyUpdate update)
  present : update.sessionKey ∈ store.inner → ∀ k, k ≠ update.sessionKey →
    (store.applyUpdate update).inner[k]? = store.inner[k]?
  roomy : store.inner.size < trafficSessionLimit → ∀ k, k ≠ update.sessionKey →
    (store.applyUpdate update).inner[k]? = store.inner[k]?
  full : update.sessionKey ∉ store.inner → store.inner.size = trafficSessionLimit →
    ∃ oldest session, Oldest store.inner oldest session ∧ ∀ k, k ≠ update.sessionKey →
      (store.applyUpdate update).inner[k]? = if k = oldest then none else store.inner[k]?

/-- A folded session was last observed by the last update of its key. -/
theorem folded_observed {key : String} {updates : List TrafficSessionUpdate} {last : TrafficSessionUpdate}
    (ends : (updates.filter (·.sessionKey = key)).getLast? = some last) (base : TrafficSession) :
    (folded key base updates).lastObservedAtUnixMs = last.observedAtUnixMs := by
  obtain ⟨front,split⟩ := List.getLast?_eq_some_iff.mp ends
  rw [folded,split,List.foldl_append]
  rfl

variable (store : TrafficSessionStore) (update : TrafficSessionUpdate)

theorem applyUpdates_append (first second : List TrafficSessionUpdate) :
    store.applyUpdates (first ++ second) = (store.applyUpdates first).applyUpdates second :=
  List.foldl_append

theorem replaces : Replaces store update := by
  have others (k : String) (other : k ≠ update.sessionKey) : (store.applyUpdate update).inner[k]? =
      if evicted store.inner update.sessionKey = some k then none else store.inner[k]? := by
    rw [applyUpdate_lookup,if_neg other.symm]
  constructor
  · rw [applyUpdate_lookup,if_pos rfl]
  · intro present k other
    rw [others k other,Accounts.evicted_roomy (.inl present),if_neg (by simp)]
  · intro few k other
    rw [others k other,Accounts.evicted_roomy (.inr (Nat.ne_of_lt few)),if_neg (by simp)]
  · intro missing full
    obtain ⟨oldest,session,found,least⟩ := oldest_least (by rw [full]; decide : store.inner.size ≠ 0)
    have evicts : evicted store.inner update.sessionKey = some oldest := by
      rw [evicted,if_pos ⟨fun held => missing (Std.ExtTreeMap.contains_iff_mem.mp held),full⟩,found]
    refine ⟨oldest,session,least,fun k other => ?_⟩
    rw [others k other,evicts]
    exact if_congr (by rw [Option.some_inj,eq_comm]) rfl rfl

theorem size_evict (bounded : store.inner.size ≤ trafficSessionLimit) (missing : update.sessionKey ∉ store.inner) :
    (evict store.inner update.sessionKey).size < trafficSessionLimit := by
  have absent : ¬ store.inner.contains update.sessionKey := fun held =>
    missing (Std.ExtTreeMap.contains_iff_mem.mp held)
  by_cases full : store.inner.size = trafficSessionLimit
  · obtain ⟨oldest,_,found,stored,_⟩ := oldest_least (by rw [full]; decide : store.inner.size ≠ 0)
    have held : oldest ∈ store.inner := oldest_present found
    rw [evict,if_pos ⟨absent,full⟩,found]
    dsimp only
    rw [Std.ExtTreeMap.size_erase,if_pos (Std.ExtTreeMap.contains_iff_mem.mpr held),full]
    decide
  · rw [evict,if_neg (fun both => full both.2)]
    omega

theorem applyUpdate_bounded (bounded : store.inner.size ≤ trafficSessionLimit) :
    (store.applyUpdate update).inner.size ≤ trafficSessionLimit := by
  by_cases present : update.sessionKey ∈ store.inner
  · rw [Accounts.size_roomy (.inl present),if_pos present]
    exact bounded
  · have room := size_evict store update bounded present
    exact Nat.le_trans Std.ExtTreeMap.size_insert_le room

theorem applyUpdates_bounded (updates : List TrafficSessionUpdate) (bounded : store.inner.size ≤ trafficSessionLimit) :
    (store.applyUpdates updates).inner.size ≤ trafficSessionLimit := by
  induction updates generalizing store with
  | nil => exact bounded
  | cons update rest ih => exact ih _ (applyUpdate_bounded store update bounded)

/-- A session that is never evicted takes the updates of its key, and no others. -/
theorem kept_lookup {key : String} {base : TrafficSession} (updates : List TrafficSessionUpdate)
    (found : store.inner[key]? = some base)
    (kept : ∀ part, part <+: updates → key ∈ (store.applyUpdates part).inner) :
    (store.applyUpdates updates).inner[key]? = some (folded key base updates) := by
  induction updates generalizing store base with
  | nil => exact found
  | cons update rest ih =>
    have later : ∀ part, part <+: rest → key ∈ ((store.applyUpdate update).applyUpdates part).inner :=
      fun part front => kept (update::part) (List.cons_prefix_cons.mpr ⟨rfl,front⟩)
    have held := Std.ExtTreeMap.mem_iff_isSome_getElem?.mp (kept [update] (List.cons_prefix_cons.mpr ⟨rfl,List.nil_prefix⟩))
    have next := applyUpdate_lookup store update key
    change (store.applyUpdate update).inner[key]?.isSome at held
    by_cases own : update.sessionKey = key
    · rw [if_pos own,found,Option.getD_some] at next
      have here : folded key base (update::rest) = folded key (base.applyUpdate update) rest := by
        simp [folded,own]
      rw [here]
      exact ih _ next later
    · rw [if_neg own] at next
      have stays : evicted store.inner update.sessionKey ≠ some key := by
        intro gone
        rw [next,if_pos gone] at held
        cases held
      rw [if_neg stays,found] at next
      have here : folded key base (update::rest) = folded key base rest := by
        simp [folded,own]
      rw [here]
      exact ih _ next later

theorem since_lookup {start : TrafficSessionStore} {updates since : List TrafficSessionUpdate} {key : String}
    {base : TrafficSession} (held : Since start updates key base since) :
    (start.applyUpdates updates).inner[key]? = some (folded key base since) := by
  cases held with
  | recovered _ found kept => exact kept_lookup start updates found kept
  | inserted before update after split own absent kept =>
    have fresh := applyUpdate_lookup (start.applyUpdates before) update key
    have missing : (start.applyUpdates before).inner[key]? = none := Std.ExtTreeMap.getElem?_eq_none absent
    rw [if_pos own,missing,Option.getD_none] at fresh
    have here : folded key (.new update) (update::after) = folded key ((TrafficSession.new update).applyUpdate update) after := by
      simp [folded,own]
    rw [split,applyUpdates_append,here]
    refine kept_lookup _ after fresh fun part front => ?_
    have later := kept part front
    rwa [applyUpdates_append] at later

theorem since_exists (start : TrafficSessionStore) (updates : List TrafficSessionUpdate) (key : String)
    (held : key ∈ (start.applyUpdates updates).inner) : ∃ base since, Since start updates key base since := by
  induction updates using List.reverseRecOn with
  | nil =>
    obtain ⟨base,found⟩ := Option.isSome_iff_exists.mp (Std.ExtTreeMap.mem_iff_isSome_getElem?.mp held)
    refine ⟨base,[],.recovered base found fun part front => ?_⟩
    rw [List.prefix_nil.mp front]
    exact held
  | append_singleton updates update ih =>
    by_cases earlier : key ∈ (start.applyUpdates updates).inner
    · obtain ⟨base,since,kept⟩ := ih earlier
      cases kept with
      | recovered _ found kept =>
        refine ⟨base,_,.recovered base found fun part front => ?_⟩
        rcases List.prefix_concat_iff.mp front with whole | inside
        · rw [whole]
          exact held
        · exact kept part inside
      | inserted before first after split own absent kept =>
        refine ⟨_,_,.inserted before first (after ++ [update]) (by rw [split]; simp) own absent fun part front => ?_⟩
        rcases List.prefix_concat_iff.mp front with whole | inside
        · rw [split] at held
          rw [whole]
          simpa using held
        · exact kept part inside
    · have own : update.sessionKey = key := by
        by_contra other
        rw [applyUpdates_append,Std.ExtTreeMap.mem_iff_isSome_getElem?] at held
        change ((start.applyUpdates updates).applyUpdate update).inner[key]?.isSome at held
        rw [applyUpdate_lookup,if_neg other,Std.ExtTreeMap.getElem?_eq_none earlier,ite_self] at held
        cases held
      refine ⟨_,_,.inserted updates update [] rfl own earlier fun part front => ?_⟩
      rw [List.prefix_nil.mp front]
      exact held

theorem lookup_since (start : TrafficSessionStore) (updates : List TrafficSessionUpdate) (key : String)
    (session : TrafficSession) : (start.applyUpdates updates).inner[key]? = some session ↔
      ∃ base since, Since start updates key base since ∧ session = folded key base since := by
  constructor
  · intro found
    have held : key ∈ (start.applyUpdates updates).inner :=
      Std.ExtTreeMap.mem_iff_isSome_getElem?.mpr (by rw [found]; rfl)
    obtain ⟨base,since,kept⟩ := since_exists start updates key held
    exact ⟨base,since,kept,Option.some.inj (found.symm.trans (since_lookup kept))⟩
  · rintro ⟨base,since,kept,rfl⟩
    exact since_lookup kept

section Recovery

-- No recovered session is evicted, for never more than the limit are inserted.
theorem recover_fill (sessions : List TrafficSession) (inner : Std.ExtTreeMap String TrafficSession)
    (fits : inner.size + sessions.length ≤ trafficSessionLimit) :
    sessions.foldl (fun inner session => (makeRoom inner).insert session.sessionKey session) inner =
      Maps.fill (·.sessionKey) id sessions inner := by
  induction sessions generalizing inner with
  | nil => rfl
  | cons session rest ih =>
    rw [List.length_cons] at fits
    have roomy : makeRoom inner = inner := if_neg (by omega)
    have grown : (inner.insert session.sessionKey session).size ≤ inner.size + 1 := Std.ExtTreeMap.size_insert_le
    rw [List.foldl_cons,roomy,ih _ (by omega)]
    rfl

variable (recovered : List TrafficSession)

def lastListed : List TrafficSession := recovered.drop (recovered.length - trafficSessionLimit)

theorem lastListed_length : (lastListed recovered).length ≤ trafficSessionLimit := by
  rw [lastListed,List.length_drop]
  omega

theorem fromSessions_fill : (fromSessions recovered).inner = Maps.fill (·.sessionKey) id (lastListed recovered) ∅ := by
  have last : (recovered.reverse.take trafficSessionLimit).reverse = lastListed recovered := by
    rw [List.take_reverse,List.reverse_reverse,lastListed]
  have few : (∅ : Std.ExtTreeMap String TrafficSession).size + (lastListed recovered).length ≤ trafficSessionLimit := by
    rw [Std.ExtTreeMap.size_empty,Nat.zero_add]
    exact lastListed_length recovered
  rw [fromSessions,last]
  dsimp only
  rw [recover_fill (lastListed recovered) ∅ few]

variable (distinct : (recovered.map (·.sessionKey)).Nodup)
include distinct

theorem lastListed_distinct : ((lastListed recovered).map (·.sessionKey)).Nodup :=
  distinct.sublist ((List.drop_sublist _ _).map _)

theorem fromSessions_lookup (key : String) (session : TrafficSession) :
    (fromSessions recovered).inner[key]? = some session ↔ session ∈ lastListed recovered ∧ session.sessionKey = key := by
  have once := lastListed_distinct recovered distinct
  rw [fromSessions_fill,Maps.fill_empty_lookup _ _ _ _ once,Option.map_id,id_eq]
  exact Maps.find_key_iff (fun listed : TrafficSession => listed.sessionKey) (lastListed recovered) key session once

theorem fromSessions_size : (fromSessions recovered).inner.size = min recovered.length trafficSessionLimit := by
  rw [fromSessions_fill,Maps.fill_empty_size _ _ _ (lastListed_distinct recovered distinct),lastListed,List.length_drop]
  omega

/-- From a recovery that keeps the last sessions listed, through any updates: the store is
bounded, every session is the fold of the updates since its key came in and was last observed
by the last of them, and only an update of a missing key evicts, and then the oldest session. -/
theorem store_run (updates : List TrafficSessionUpdate) :
    (∀ key session, (fromSessions recovered).inner[key]? = some session ↔
      session ∈ recovered.drop (recovered.length - 1024) ∧ session.sessionKey = key) ∧
    ((fromSessions recovered).applyUpdates updates).inner.size ≤ 1024 ∧
    (∀ key session, ((fromSessions recovered).applyUpdates updates).inner[key]? = some session ↔
      ∃ base since, Since (fromSessions recovered) updates key base since ∧ session = folded key base since) ∧
    (∀ key base since last, (since.filter (·.sessionKey = key)).getLast? = some last →
      (folded key base since).lastObservedAtUnixMs = last.observedAtUnixMs) ∧
    ∀ update, Replaces ((fromSessions recovered).applyUpdates updates) update := by
  refine ⟨fromSessions_lookup recovered distinct,?_,lookup_since _ updates,
    fun key base since last ends => folded_observed ends base,fun update => replaces _ update⟩
  apply applyUpdates_bounded
  rw [fromSessions_size recovered distinct]
  exact Nat.min_le_right _ _

omit distinct
omit recovered

def opening (key : String) (time : Nat) : TrafficSessionUpdate :=
  ⟨key,1,none,none,"tun",time,none,none,none,none,none,none,none,none,none,none,none,none,none,none,none,none,none,
    none,none,none,none,none,none,none,false⟩

def crowdKey (n : Nat) : String := String.ofList (List.replicate n 'a')

/-- More sessions than the store holds, many of them observed at the same time. -/
def crowd : List TrafficSession := (List.range 1030).map fun n => .new (opening (crowdKey n) (n % 7))

theorem crowd_distinct : (crowd.map (·.sessionKey)).Nodup := by
  have keys : crowd.map (·.sessionKey) = (List.range 1030).map crowdKey := by
    rw [crowd,List.map_map]
    rfl
  rw [keys]
  refine List.nodup_range.map fun n m same => ?_
  simpa [crowdKey] using congrArg String.length same

/-- A flow with a new key comes into the full store. -/
theorem store_run_crowded : ∃ oldest session, Oldest (fromSessions crowd).inner oldest session ∧
    ∀ k, k ≠ "tun" → ((fromSessions crowd).applyUpdate (opening "tun" 3)).inner[k]? =
      if k = oldest then none else (fromSessions crowd).inner[k]? := by
  obtain ⟨listed,-,-,-,replaces⟩ := store_run crowd crowd_distinct []
  have full : (fromSessions crowd).inner.size = trafficSessionLimit := by
    rw [fromSessions_size crowd crowd_distinct,crowd,List.length_map,List.length_range]
    rfl
  have missing : "tun" ∉ (fromSessions crowd).inner := by
    intro held
    obtain ⟨session,found⟩ := Option.isSome_iff_exists.mp (Std.ExtTreeMap.mem_iff_isSome_getElem?.mp held)
    obtain ⟨member,named⟩ := (listed "tun" session).mp found
    obtain ⟨n,-,rfl⟩ := List.mem_map.mp (List.mem_of_mem_drop member)
    have chars : List.replicate n 'a' = ['t','u','n'] := String.ofList_injective named
    have first : 't' ∈ List.replicate n 'a' := by
      rw [chars]
      exact List.mem_cons_self
    exact absurd (List.eq_of_mem_replicate first) (by decide)
  exact (replaces (opening "tun" 3)).full missing full

end Recovery

end TrafficSessionStore

end Dynet.Runtime
