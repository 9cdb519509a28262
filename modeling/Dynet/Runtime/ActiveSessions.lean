import Dynet.Runtime.MatrixStats
import Dynet.Lib.Least
import Dynet.Lib.Machine

/-! Which sessions are live, kept beside the bounded session store. A ledger follows
the events of each session from its opening to its close; the counts that scoring
reads agree with it as long as the store evicts no live session. -/
namespace Dynet.Runtime
open Dynet.Lib Dynet.Lib.Machine

structure OpenSession where
  key : String
  groups : Option String
  nodes : Option String
  deriving DecidableEq, Repr

def OpenSession.pairs (session : OpenSession) : List (String × String) :=
  (pairLists session.groups session.nodes).getD []

/-- The sessions opened and not yet closed, and the keys of the closed ones. -/
structure Ledger where
  opened : List OpenSession
  closed : List String
  deriving DecidableEq, Repr

/-- A later event of a session repeats the selection lists of its opening or leaves
them out. -/
def TrafficSessionUpdate.Repeats (update : TrafficSessionUpdate) (session : OpenSession) : Prop :=
  (update.selectionGroups = none ∨ update.selectionGroups = session.groups) ∧
    (update.selectionNodes = none ∨ update.selectionNodes = session.nodes)

instance (update : TrafficSessionUpdate) (session : OpenSession) : Decidable (update.Repeats session) :=
  inferInstanceAs (Decidable (_ ∧ _))

namespace Ledger

-- A key is opened once and closed once; only a close carries an error, and an
-- opening lists each of its pairs once, as a selection trace does.
def apply (ledger : Ledger) (update : TrafficSessionUpdate) : Option Ledger :=
  if update.sessionKey ∈ ledger.closed then none
  else if update.closesSession then
    some ⟨ledger.opened.filter (·.key ≠ update.sessionKey),update.sessionKey::ledger.closed⟩
  else if update.error.isSome then none
  else match ledger.opened.find? (·.key = update.sessionKey) with
    | none =>
      let session : OpenSession := ⟨update.sessionKey,update.selectionGroups,update.selectionNodes⟩
      if session.pairs.Nodup then some { ledger with opened := ledger.opened ++ [session] } else none
    | some session => if update.Repeats session then some ledger else none

def record (ledger : Ledger) (event : IngressEvent) : Option Ledger :=
  match sessionUpdateFromEvent event with
  | none => some ledger
  | some update => ledger.apply update

end Ledger

/-- The store and the ledger of the events it was given. -/
structure Accounts where
  store : TrafficSessionStore
  ledger : Ledger

namespace Accounts

def start : Accounts := ⟨.empty,⟨[],[]⟩⟩

def step (accounts : Accounts) (event : IngressEvent) : Option Accounts :=
  (accounts.ledger.record event).map fun ledger => ⟨accounts.store.recordEvent event,ledger⟩

/-- Scoring counts, under every group and node, the sessions opened and not yet closed. -/
def Counted (accounts : Accounts) : Prop :=
  ∀ (fingerprintsByNode : Std.ExtTreeMap String String) (groupId nodeId : String),
    activeSessionCount (nodeStatsFromSessions accounts.store.snapshot fingerprintsByNode) groupId nodeId =
      accounts.ledger.opened.countP fun session => (groupId,nodeId) ∈ session.pairs

end Accounts

namespace TrafficSessionStore

def evicted (sessions : Std.ExtTreeMap String TrafficSession) (key : String) : Option String :=
  if ¬ sessions.contains key ∧ sessions.size = trafficSessionLimit then oldestSessionKey sessions else none

/-- Least by the time of the last observation, the key deciding between equal times. -/
def Oldest (inner : Std.ExtTreeMap String TrafficSession) (key : String) (session : TrafficSession) : Prop :=
  inner[key]? = some session ∧ ∀ other seen, inner[other]? = some seen → other ≠ key →
    session.lastObservedAtUnixMs < seen.lastObservedAtUnixMs ∨
      session.lastObservedAtUnixMs = seen.lastObservedAtUnixMs ∧ key < other

def observed (left right : String × TrafficSession) : Ordering :=
  (compare left.2.lastObservedAtUnixMs right.2.lastObservedAtUnixMs).then (compare left.1 right.1)

instance : Std.TransCmp observed :=
  inferInstanceAs (Std.TransCmp (compareLex
    (compareOn fun entry : String × TrafficSession => entry.2.lastObservedAtUnixMs)
    (compareOn fun entry : String × TrafficSession => entry.1)))

theorem observed_isLE {left right : String × TrafficSession} (below : (observed left right).isLE)
    (apart : right.1 ≠ left.1) : left.2.lastObservedAtUnixMs < right.2.lastObservedAtUnixMs ∨
      left.2.lastObservedAtUnixMs = right.2.lastObservedAtUnixMs ∧ left.1 < right.1 := by
  have strict : observed left right = .lt := by
    cases order : observed left right with
    | lt => rfl
    | eq =>
      rw [observed,Ordering.then_eq_eq] at order
      exact absurd (Std.LawfulEqCmp.compare_eq_iff_eq.mp order.2).symm apart
    | gt =>
      rw [order] at below
      cases below
  rw [observed,Ordering.then_eq_lt] at strict
  rcases strict with earlier | ⟨same,before⟩
  · exact .inl (Nat.compare_eq_lt.mp earlier)
  · exact .inr ⟨Nat.compare_eq_eq.mp same,compareOfLessAndEq_eq_lt.mp before⟩

theorem oldest_chosen {inner : Std.ExtTreeMap String TrafficSession} {oldest : String}
    (found : oldestSessionKey inner = some oldest) : ∃ session, Oldest inner oldest session := by
  obtain ⟨⟨key,session⟩,chosen,rfl⟩ := Option.map_eq_some_iff.mp found
  have least : ∀ entry ∈ inner.toList, (observed (key,session) entry).isLE := by
    refine (Least.picked_least observed ?_ ?_ inner.toList none _ chosen).2
    · exact fun _ => rfl
    · exact fun _ _ => rfl
  have listed : (key,session) ∈ inner.toList ∨ none = some (key,session) := by
    refine Least.picked_mem observed ?_ ?_ _ none _ chosen
    · exact fun _ => rfl
    · exact fun _ _ => rfl
  refine ⟨session,?_,fun other seen stored apart => ?_⟩
  · rcases listed with listed | impossible
    · exact Std.ExtTreeMap.mem_toList_iff_getElem?_eq_some.mp listed
    · cases impossible
  · exact observed_isLE (least (other,seen) (Std.ExtTreeMap.mem_toList_iff_getElem?_eq_some.mpr stored)) apart

theorem oldest_least {inner : Std.ExtTreeMap String TrafficSession} (filled : inner.size ≠ 0) :
    ∃ oldest session, oldestSessionKey inner = some oldest ∧ Oldest inner oldest session := by
  have any : inner.toList ≠ [] := by
    intro none
    rw [← Std.ExtTreeMap.length_toList,none] at filled
    exact filled rfl
  have some : ∃ oldest, oldestSessionKey inner = some oldest := by
    rw [← Option.isSome_iff_exists,oldestSessionKey,Option.isSome_map,Option.isSome_iff_exists]
    refine Least.picked_some observed ?_ ?_ inner.toList none (.inr any)
    · exact fun _ => rfl
    · exact fun _ _ => rfl
  obtain ⟨oldest,found⟩ := some
  obtain ⟨session,chosen⟩ := oldest_chosen found
  exact ⟨oldest,session,found,chosen⟩

theorem oldest_present {sessions : Std.ExtTreeMap String TrafficSession} {oldest : String}
    (found : oldestSessionKey sessions = some oldest) : oldest ∈ sessions := by
  obtain ⟨session,chosen,-⟩ := oldest_chosen found
  rw [Std.ExtTreeMap.mem_iff_isSome_getElem?,chosen]
  rfl

theorem oldest_unique {sessions : Std.ExtTreeMap String TrafficSession} {key : String} {session : TrafficSession}
    (found : sessions[key]? = some session)
    (later : ∀ other, ∀ seen : TrafficSession, sessions[other]? = some seen → other ≠ key →
      session.lastObservedAtUnixMs < seen.lastObservedAtUnixMs) : oldestSessionKey sessions = some key := by
  have filled : sessions.size ≠ 0 := by
    have listed := Std.ExtTreeMap.mem_toList_iff_getElem?_eq_some.mpr found
    rw [← Std.ExtTreeMap.length_toList]
    exact Nat.ne_of_gt (List.length_pos_of_mem listed)
  obtain ⟨oldest,first,chosen,stored,least⟩ := oldest_least filled
  rw [chosen]
  by_contra other
  have apart : key ≠ oldest := fun same => other (congrArg some same.symm)
  have after := later oldest first stored apart.symm
  rcases least key session found apart with before | ⟨same,-⟩
  · omega
  · omega

theorem evicted_ne {sessions : Std.ExtTreeMap String TrafficSession} {key oldest : String}
    (found : evicted sessions key = some oldest) : oldest ≠ key := by
  unfold evicted at found
  split at found
  · rename_i full
    rintro rfl
    exact full.1 (Std.ExtTreeMap.contains_iff_mem.mpr (oldest_present found))
  · cases found

theorem evict_lookup (sessions : Std.ExtTreeMap String TrafficSession) (key k : String) :
    (evict sessions key)[k]? = if evicted sessions key = some k then none else sessions[k]? := by
  unfold evict evicted
  split
  · cases oldestSessionKey sessions with
    | none => simp
    | some oldest => simp [Maps.erase_lookup]
  · simp

theorem applyUpdate_lookup (store : TrafficSessionStore) (update : TrafficSessionUpdate) (k : String) :
    (store.applyUpdate update).inner[k]? = if update.sessionKey = k
      then some ((store.inner[k]?.getD (.new update)).applyUpdate update)
      else if evicted store.inner update.sessionKey = some k then none else store.inner[k]? := by
  have kept : (evict store.inner update.sessionKey)[update.sessionKey]? = store.inner[update.sessionKey]? := by
    rw [evict_lookup,if_neg fun found => evicted_ne found rfl]
  rw [applyUpdate,Maps.insert_lookup,kept,evict_lookup]
  by_cases same : update.sessionKey = k
  · subst k
    simp
  · simp [same]

end TrafficSessionStore

/-- A stored session shows a live one: it is active, and its selection lists are
those of the opening as far as they name pairs. -/
structure TrafficSession.Shows (session : TrafficSession) (own : OpenSession) : Prop where
  error : session.error = none
  closed : session.closedAtUnixMs = none
  groups : session.selectionGroups = none ∨ session.selectionGroups = own.groups
  nodes : session.selectionNodes = none ∨ session.selectionNodes = own.nodes
  whole : own.pairs ≠ [] → session.selectionGroups = own.groups ∧ session.selectionNodes = own.nodes

section Shows
variable {session : TrafficSession} {own : OpenSession} {update : TrafficSessionUpdate}

theorem TrafficSession.Shows.active (shown : session.Shows own) : session.active = true := by
  simp [TrafficSession.active,shown.error,shown.closed]

theorem TrafficSession.Shows.pairs (shown : session.Shows own) :
    (selectionPairs session).getD [] = own.pairs := by
  by_cases none : own.pairs = []
  · rw [none,selectionPairs]
    rcases shown.groups with absent|groups
    · rw [absent]
      rfl
    · rcases shown.nodes with absent|nodes
      · rw [absent]
        cases session.selectionGroups <;> rfl
      · rw [groups,nodes]
        exact none
  · obtain ⟨groups,nodes⟩ := shown.whole none
    rw [selectionPairs,groups,nodes]
    rfl

theorem TrafficSession.Shows.applyUpdate (shown : session.Shows own) (repeats : update.Repeats own)
    (failed : update.error = none) (stays : update.closesSession = false) :
    (session.applyUpdate update).Shows own := by
  obtain ⟨groups,nodes⟩ := repeats
  constructor
  · simp [TrafficSession.applyUpdate,setIfSome,failed,shown.error]
  · simp [TrafficSession.applyUpdate,stays,shown.closed]
  · rcases groups with absent|groups
    · simpa [TrafficSession.applyUpdate,setIfSome,absent] using shown.groups
    · simp only [TrafficSession.applyUpdate,setIfSome]
      split
      · exact .inr groups
      · exact shown.groups
  · rcases nodes with absent|nodes
    · simpa [TrafficSession.applyUpdate,setIfSome,absent] using shown.nodes
    · simp only [TrafficSession.applyUpdate,setIfSome]
      split
      · exact .inr nodes
      · exact shown.nodes
  · intro some
    obtain ⟨ownGroups,ownNodes⟩ := shown.whole some
    constructor
    · rcases groups with absent|groups
      · simpa [TrafficSession.applyUpdate,setIfSome,absent] using ownGroups
      · simp [TrafficSession.applyUpdate,setIfSome,groups,ownGroups]
    · rcases nodes with absent|nodes
      · simpa [TrafficSession.applyUpdate,setIfSome,absent] using ownNodes
      · simp [TrafficSession.applyUpdate,setIfSome,nodes,ownNodes]

theorem new_shows (update : TrafficSessionUpdate) (none : own.pairs = []) :
    (TrafficSession.new update).Shows own :=
  ⟨rfl,rfl,.inl rfl,.inl rfl,fun some => absurd none some⟩

theorem opening_shows (failed : update.error = none) (stays : update.closesSession = false) :
    ((TrafficSession.new update).applyUpdate update).Shows
      ⟨update.sessionKey,update.selectionGroups,update.selectionNodes⟩ := by
  have adopted (value : Option String) : setIfSome none value = value := by
    cases value <;> rfl
  refine ⟨?_,?_,.inr (adopted _),.inr (adopted _),fun _ => ⟨adopted _,adopted _⟩⟩
  · exact (adopted _).trans failed
  · simp [TrafficSession.applyUpdate,stays,TrafficSession.new]

end Shows

theorem Ledger.apply_cases {ledger next : Ledger} {update : TrafficSessionUpdate}
    (applied : ledger.apply update = some next) : update.sessionKey ∉ ledger.closed ∧
      (update.closesSession = true ∧
          next = ⟨ledger.opened.filter (·.key ≠ update.sessionKey),update.sessionKey::ledger.closed⟩ ∨
        update.closesSession = false ∧ update.error = none ∧
          ((∀ own ∈ ledger.opened, own.key ≠ update.sessionKey) ∧
              (OpenSession.mk update.sessionKey update.selectionGroups update.selectionNodes).pairs.Nodup ∧
              next = { ledger with opened := ledger.opened ++
                [⟨update.sessionKey,update.selectionGroups,update.selectionNodes⟩] } ∨
            ∃ own ∈ ledger.opened, own.key = update.sessionKey ∧ update.Repeats own ∧ next = ledger)) := by
  unfold Ledger.apply at applied
  split at applied
  · cases applied
  · rename_i unclosed
    refine ⟨unclosed,?_⟩
    split at applied
    · rename_i closes
      exact .inl ⟨closes,(Option.some.inj applied).symm⟩
    · rename_i stays
      split at applied
      · cases applied
      · rename_i clean
        refine .inr ⟨by simpa using stays,by simpa using clean,?_⟩
        split at applied
        · rename_i missing
          simp only [List.find?_eq_none,decide_eq_true_eq] at missing
          dsimp only at applied
          split at applied
          · rename_i once
            exact .inl ⟨missing,once,(Option.some.inj applied).symm⟩
          · cases applied
        · rename_i own found
          split at applied
          · rename_i repeats
            exact .inr ⟨own,List.mem_of_find?_eq_some found,by simpa using List.find?_some found,repeats,
              (Option.some.inj applied).symm⟩
          · cases applied

namespace Accounts

/-- Whatever of the ledger's sessions the store holds, it shows as the ledger has it. -/
structure Matched (accounts : Accounts) : Prop where
  distinct : (accounts.ledger.opened.map (·.key)).Nodup
  unclosed : ∀ own ∈ accounts.ledger.opened, own.key ∉ accounts.ledger.closed
  once : ∀ own ∈ accounts.ledger.opened, own.pairs.Nodup
  live : ∀ own ∈ accounts.ledger.opened, ∀ session ∈ accounts.store.inner[own.key]?, session.Shows own
  ended : ∀ key, ∀ session ∈ accounts.store.inner[key]?, (∀ own ∈ accounts.ledger.opened, own.key ≠ key) →
    session.active = false ∧ key ∈ accounts.ledger.closed

/-- The store holds every live session that names a pair. -/
def Retained (accounts : Accounts) : Prop :=
  ∀ own ∈ accounts.ledger.opened, own.pairs ≠ [] → own.key ∈ accounts.store.inner

section Count
variable {accounts : Accounts}

/-- The keys under which the store holds an active session of a pair. -/
def storedKeys (accounts : Accounts) (pair : String × String) : List String :=
  (accounts.store.inner.toList.filter fun entry =>
    entry.2.active && decide (pair ∈ (selectionPairs entry.2).getD [])).map (·.1)

def liveKeys (accounts : Accounts) (pair : String × String) : List String :=
  (accounts.ledger.opened.filter fun own => pair ∈ own.pairs).map (·.key)

theorem mem_storedKeys (pair : String × String) (key : String) :
    key ∈ accounts.storedKeys pair ↔ ∃ session, accounts.store.inner[key]? = some session ∧
      session.active = true ∧ pair ∈ (selectionPairs session).getD [] := by
  simp only [storedKeys,List.mem_map,List.mem_filter,Bool.and_eq_true,decide_eq_true_eq,Prod.exists,
    Std.ExtTreeMap.mem_toList_iff_getElem?_eq_some]
  constructor
  · rintro ⟨_,session,⟨found,active,named⟩,rfl⟩
    exact ⟨session,found,active,named⟩
  · rintro ⟨session,found,active,named⟩
    exact ⟨key,session,⟨found,active,named⟩,rfl⟩

theorem mem_liveKeys (pair : String × String) (key : String) :
    key ∈ accounts.liveKeys pair ↔ ∃ own ∈ accounts.ledger.opened, pair ∈ own.pairs ∧ own.key = key := by
  simp [liveKeys,and_assoc]

theorem storedKeys_nodup (pair : String × String) : (accounts.storedKeys pair).Nodup := by
  have distinct : (accounts.store.inner.toList.map Prod.fst).Nodup := by
    rw [Std.ExtTreeMap.map_fst_toList_eq_keys]
    exact Std.ExtTreeMap.nodup_keys
  exact distinct.sublist (List.filter_sublist.map _)

namespace Matched
variable (matched : accounts.Matched)
include matched

theorem liveKeys_nodup (pair : String × String) : (accounts.liveKeys pair).Nodup :=
  matched.distinct.sublist (List.filter_sublist.map _)

theorem shown_of_active {key : String} {session : TrafficSession}
    (found : accounts.store.inner[key]? = some session) (active : session.active = true) :
    ∃ own ∈ accounts.ledger.opened, own.key = key ∧ session.Shows own := by
  by_contra none
  push Not at none
  have missing : ∀ own ∈ accounts.ledger.opened, own.key ≠ key := by
    rintro own member rfl
    exact none own member rfl (matched.live own member session found)
  have ended := (matched.ended key session found missing).1
  rw [active] at ended
  cases ended

theorem storedKeys_subset (pair : String × String) : accounts.storedKeys pair ⊆ accounts.liveKeys pair := by
  intro key stored
  obtain ⟨session,found,active,named⟩ := (mem_storedKeys pair key).mp stored
  obtain ⟨own,member,same,shown⟩ := matched.shown_of_active found active
  rw [shown.pairs] at named
  exact (mem_liveKeys pair key).mpr ⟨own,member,named,same⟩

theorem counted_iff_lengths : accounts.Counted ↔
    ∀ pair, (accounts.storedKeys pair).length = (accounts.liveKeys pair).length := by
  have once : ∀ session ∈ accounts.store.snapshot, session.active → ((selectionPairs session).getD []).Nodup := by
    intro session member active
    obtain ⟨⟨key,_⟩,listed,rfl⟩ := List.mem_map.mp member
    obtain ⟨own,opened,_,shown⟩ :=
      matched.shown_of_active (Std.ExtTreeMap.mem_toList_iff_getElem?_eq_some.mp listed) active
    rw [shown.pairs]
    exact matched.once own opened
  have stored (pair : String × String) : (accounts.storedKeys pair).length = accounts.store.snapshot.countP
      fun session => session.active && decide (pair ∈ (selectionPairs session).getD []) := by
    rw [storedKeys,List.length_map,← List.countP_eq_length_filter,TrafficSessionStore.snapshot,List.countP_map]
    rfl
  have live (pair : String × String) : (accounts.liveKeys pair).length =
      accounts.ledger.opened.countP fun own => pair ∈ own.pairs := by
    rw [liveKeys,List.length_map,← List.countP_eq_length_filter]
  constructor
  · rintro counted ⟨groupId,nodeId⟩
    rw [stored,live,← counted ∅ groupId nodeId,activeSessionCount_eq _ ∅ groupId nodeId once]
  · intro lengths fingerprintsByNode groupId nodeId
    rw [activeSessionCount_eq _ _ groupId nodeId once,← stored,← live]
    exact lengths (groupId,nodeId)

/-- The counts are right exactly when no live session with a pair has left the store. -/
theorem counted_iff : accounts.Counted ↔ accounts.Retained := by
  rw [matched.counted_iff_lengths]
  constructor
  · intro lengths own member some
    obtain ⟨pair,named⟩ := List.exists_mem_of_ne_nil _ some
    have same := (List.subperm_of_subset (storedKeys_nodup pair)
      (matched.storedKeys_subset pair)).perm_of_length_le (Nat.le_of_eq (lengths pair).symm)
    have stored : own.key ∈ accounts.storedKeys pair :=
      same.mem_iff.mpr ((mem_liveKeys pair own.key).mpr ⟨own,member,named,rfl⟩)
    obtain ⟨session,found,_⟩ := (mem_storedKeys pair own.key).mp stored
    exact Std.ExtTreeMap.mem_iff_isSome_getElem?.mpr (by rw [found]; rfl)
  · intro retained pair
    refine Nat.le_antisymm (List.subperm_of_subset (storedKeys_nodup pair)
      (matched.storedKeys_subset pair)).length_le ?_
    refine (List.subperm_of_subset (matched.liveKeys_nodup pair) ?_).length_le
    intro key live
    obtain ⟨own,member,named,rfl⟩ := (mem_liveKeys pair key).mp live
    obtain ⟨session,found⟩ := Option.isSome_iff_exists.mp
      (Std.ExtTreeMap.mem_iff_isSome_getElem?.mp (retained own member (List.ne_nil_of_mem named)))
    have shown := matched.live own member session found
    exact (mem_storedKeys pair own.key).mpr ⟨session,found,shown.active,by rwa [shown.pairs]⟩

end Matched

end Count

/-- Among the live sessions with a pair, the event evicts none from the store. -/
def KeepsLive (accounts : Accounts) (event : IngressEvent) (_ : Accounts) : Prop :=
  ∀ update ∈ sessionUpdateFromEvent event, ∀ own ∈ accounts.ledger.opened, own.pairs ≠ [] →
    TrafficSessionStore.evicted accounts.store.inner update.sessionKey ≠ some own.key

section Step
variable {accounts : Accounts} {update : TrafficSessionUpdate} {ledger : Ledger}
  (applied : accounts.ledger.apply update = some ledger)
include applied

theorem opened_before {own : OpenSession} (member : own ∈ ledger.opened) :
    own.key = update.sessionKey ∨ own ∈ accounts.ledger.opened := by
  obtain ⟨_,⟨_,rfl⟩|⟨_,_,⟨_,_,rfl⟩|⟨_,_,_,_,rfl⟩⟩⟩ := Ledger.apply_cases applied
  · exact .inr (List.mem_filter.mp member).1
  · rcases List.mem_append.mp member with earlier|new
    · exact .inr earlier
    · rw [List.mem_singleton.mp new]
      exact .inl rfl
  · exact .inr member

theorem opened_after {own : OpenSession} (member : own ∈ accounts.ledger.opened)
    (other : own.key ≠ update.sessionKey) : own ∈ ledger.opened := by
  obtain ⟨_,⟨_,rfl⟩|⟨_,_,⟨_,_,rfl⟩|⟨_,_,_,_,rfl⟩⟩⟩ := Ledger.apply_cases applied
  · exact List.mem_filter.mpr ⟨member,by simpa using other⟩
  · exact List.mem_append_left _ member
  · exact member

theorem apply_retained_iff (retained : accounts.Retained) :
    Retained ⟨accounts.store.applyUpdate update,ledger⟩ ↔ ∀ own ∈ accounts.ledger.opened, own.pairs ≠ [] →
      TrafficSessionStore.evicted accounts.store.inner update.sessionKey ≠ some own.key := by
  constructor
  · intro kept own member some evicted
    have other := TrafficSessionStore.evicted_ne evicted
    have present := Std.ExtTreeMap.mem_iff_isSome_getElem?.mp (kept own (opened_after applied member other) some)
    rw [TrafficSessionStore.applyUpdate_lookup,if_neg other.symm,if_pos evicted] at present
    cases present
  · intro keeps own member some
    refine Std.ExtTreeMap.mem_iff_isSome_getElem?.mpr ?_
    rw [TrafficSessionStore.applyUpdate_lookup]
    split
    · rfl
    · rename_i other
      rcases opened_before applied member with same|earlier
      · exact absurd same.symm other
      · rw [if_neg (keeps own earlier some)]
        exact Std.ExtTreeMap.mem_iff_isSome_getElem?.mp (retained own earlier some)

theorem apply_live (matched : accounts.Matched) (retained : accounts.Retained) {own : OpenSession}
    (member : own ∈ ledger.opened) (session : TrafficSession)
    (found : (accounts.store.applyUpdate update).inner[own.key]? = some session) : session.Shows own := by
  rw [TrafficSessionStore.applyUpdate_lookup] at found
  split at found
  · rename_i same
    cases Option.some.inj found
    obtain ⟨unclosed,⟨_,rfl⟩|⟨stays,clean,⟨missing,_,rfl⟩|⟨kept,listed,key,repeats,rfl⟩⟩⟩ :=
      Ledger.apply_cases applied
    · have other := (List.mem_filter.mp member).2
      simp [same] at other
    · rcases List.mem_append.mp member with earlier|new
      · exact absurd same.symm (missing own earlier)
      · rw [List.mem_singleton.mp new]
        -- A stored session that is not live was closed before, so the key is new.
        have absent : accounts.store.inner[update.sessionKey]? = none := by
          cases stored : accounts.store.inner[update.sessionKey]? with
          | none => rfl
          | some old => exact absurd (matched.ended _ old stored missing).2 unclosed
        rw [absent]
        exact opening_shows clean stays
    · obtain rfl : own = kept :=
        List.inj_on_of_nodup_map matched.distinct member listed (same.symm.trans key.symm)
      cases stored : accounts.store.inner[own.key]? with
      | none =>
        have unnamed : own.pairs = [] := by
          by_contra named
          have present := Std.ExtTreeMap.mem_iff_isSome_getElem?.mp (retained own listed named)
          rw [stored] at present
          cases present
        exact (new_shows update unnamed).applyUpdate repeats clean stays
      | some old => exact (matched.live own listed old stored).applyUpdate repeats clean stays
  · rename_i other
    split at found
    · cases found
    · rcases opened_before applied member with same|earlier
      · exact absurd same.symm other
      · exact matched.live own earlier session found

theorem apply_ended (matched : accounts.Matched) (key : String) (session : TrafficSession)
    (found : (accounts.store.applyUpdate update).inner[key]? = some session)
    (missing : ∀ own ∈ ledger.opened, own.key ≠ key) : session.active = false ∧ key ∈ ledger.closed := by
  rw [TrafficSessionStore.applyUpdate_lookup] at found
  split at found
  · rename_i same
    subst key
    cases Option.some.inj found
    obtain ⟨_,⟨closes,rfl⟩|⟨_,_,⟨_,_,rfl⟩|⟨kept,listed,key,_,rfl⟩⟩⟩ := Ledger.apply_cases applied
    · refine ⟨?_,List.mem_cons_self⟩
      simp [TrafficSession.active,TrafficSession.applyUpdate,closes]
    · exact absurd rfl (missing _ (List.mem_append_right _ List.mem_cons_self))
    · exact absurd key (missing kept listed)
  · rename_i other
    split at found
    · cases found
    · obtain ⟨inactive,closed⟩ := matched.ended key session found fun own member same =>
        missing own (opened_after applied member (same ▸ Ne.symm other)) same
      refine ⟨inactive,?_⟩
      obtain ⟨_,⟨_,rfl⟩|⟨_,_,⟨_,_,rfl⟩|⟨_,_,_,_,rfl⟩⟩⟩ := Ledger.apply_cases applied
      · exact List.mem_cons_of_mem _ closed
      · exact closed
      · exact closed

theorem apply_matched (matched : accounts.Matched) (retained : accounts.Retained) :
    Matched ⟨accounts.store.applyUpdate update,ledger⟩ := by
  have live := fun own (member : own ∈ ledger.opened) => apply_live applied matched retained member
  have ended := apply_ended applied matched
  obtain ⟨unclosed,⟨_,rfl⟩|⟨_,_,⟨missing,once,rfl⟩|⟨_,_,_,_,rfl⟩⟩⟩ := Ledger.apply_cases applied
  · refine ⟨matched.distinct.sublist (List.filter_sublist.map _),?_,?_,live,ended⟩
    · intro own member
      obtain ⟨earlier,other⟩ := List.mem_filter.mp member
      rw [List.mem_cons,not_or]
      exact ⟨by simpa using other,matched.unclosed own earlier⟩
    · exact fun own member => matched.once own (List.mem_filter.mp member).1
  · refine ⟨?_,?_,?_,live,ended⟩
    · dsimp only
      rw [List.map_append,List.nodup_append]
      refine ⟨matched.distinct,List.nodup_singleton _,?_⟩
      rintro _ member _ new rfl
      obtain ⟨own,earlier,same⟩ := List.mem_map.mp member
      exact missing own earlier (same.trans (List.mem_singleton.mp new))
    · intro own member
      rcases List.mem_append.mp member with earlier|new
      · exact matched.unclosed own earlier
      · rw [List.mem_singleton.mp new]
        exact unclosed
    · intro own member
      rcases List.mem_append.mp member with earlier|new
      · exact matched.once own earlier
      · rw [List.mem_singleton.mp new]
        exact once
  · exact ⟨matched.distinct,matched.unclosed,matched.once,live,ended⟩

end Step

theorem step_matched {accounts next : Accounts} {event : IngressEvent} (matched : accounts.Matched)
    (retained : accounts.Retained) (taken : step accounts event = some next) :
    next.Matched ∧ (next.Retained ↔ KeepsLive accounts event next) := by
  obtain ⟨ledger,recorded,rfl⟩ := Option.map_eq_some_iff.mp taken
  unfold Ledger.record at recorded
  unfold TrafficSessionStore.recordEvent KeepsLive
  cases made : sessionUpdateFromEvent event with
  | none =>
    rw [made] at recorded
    cases Option.some.inj recorded
    refine ⟨⟨matched.distinct,matched.unclosed,matched.once,matched.live,matched.ended⟩,?_⟩
    simp only [Option.mem_def,reduceCtorEq,false_implies,implies_true,iff_true]
    exact retained
  | some update =>
    rw [made] at recorded
    refine ⟨apply_matched recorded matched retained,?_⟩
    simpa using apply_retained_iff recorded retained

theorem start_matched : start.Matched := by
  constructor <;> simp [start,TrafficSessionStore.empty]

theorem start_retained : start.Retained := by
  simp [Retained,start]

/-- The counts of a run are right after every event exactly when no event of the run
evicts a live session with a pair. -/
theorem counted_along_iff {accounts : Accounts} {events : List IngressEvent} (matched : accounts.Matched)
    (retained : accounts.Retained) :
    Along step (fun _ _ next => next.Counted) accounts events ↔ Along step KeepsLive accounts events := by
  induction events generalizing accounts with
  | nil => exact Iff.rfl
  | cons event rest ih =>
    refine forall_congr' fun next => forall_congr' fun taken => ?_
    obtain ⟨after,kept⟩ := step_matched matched retained taken
    dsimp only
    rw [after.counted_iff,kept]
    exact and_congr_right fun keeps => ih after (kept.mpr keeps)

/-- For every sequence of session events: after each of them the counts are right if
and only if none of them evicts a live session with a pair. -/
theorem active_counts_follow (events : List IngressEvent) :
    Along step (fun _ _ next => next.Counted) start events ↔ Along step KeepsLive start events :=
  counted_along_iff start_matched start_retained

section Churn

/-- The accept or close of a flow that was selected through node `n` of group `g`. -/
def flowEvent (kind : IngressEventKind) (id now : Nat) : IngressEvent :=
  ⟨id,now,kind,intoFields [("sessionId",toString id),("inbound","tun"),("selectionGroups","g"),
    ("selectionNodes","n")]⟩

def flowKey (id : Nat) : String := sessionKey "tun" id none

theorem flowKey_inj {id other : Nat} (same : flowKey id = flowKey other) : id = other := by
  have texts := congrArg String.toList same
  simp only [flowKey,sessionKey,toString,String.toList_append,Option.map_none,Option.getD_none,
    List.append_assoc,List.append_cancel_left_eq,List.append_cancel_right_eq] at texts
  have digits : Nat.toDigits 10 id = Nat.toDigits 10 other := by
    simpa using texts
  rw [← Nat.ofDigitChars_ten_toDigits (n := id),digits,Nat.ofDigitChars_ten_toDigits]

theorem flowEvent_update (kind : IngressEventKind) (flow : kind = .tcpAccept ∨ kind = .tcpClose) (id now : Nat)
    (small : id < 2^64) : ∃ update, sessionUpdateFromEvent (flowEvent kind id now) = some update ∧
      update.sessionKey = flowKey id ∧ update.observedAtUnixMs = now ∧ update.closesSession = kind.closes ∧
      update.error = none ∧ update.selectionGroups = some "g" ∧ update.selectionNodes = some "n" := by
  have field (key : String) : (flowEvent kind id now).fields[key]? =
      if "selectionNodes" = key then some "n" else if "selectionGroups" = key then some "g"
      else if "inbound" = key then some "tun" else if "sessionId" = key then some (toString id) else none := by
    simp only [flowEvent,intoFields,List.foldl_cons,List.foldl_nil,Maps.insert_lookup]
    rfl
  have number : (flowEvent kind id now).number "sessionId" = some id := by
    rw [IngressEvent.number,field]
    simpa using (Text.parseUnsigned_toString (2^64) id).trans (if_pos small)
  have undecided : (flowEvent kind id now).number "decisionId" = none := by
    rw [IngressEvent.number,field]
    rfl
  rcases flow with rfl|rfl <;>
    exact ⟨_,by simp only [sessionUpdateFromEvent,number,undecided,field]; rfl,rfl,rfl,rfl,rfl,rfl,rfl⟩

theorem step_update {accounts : Accounts} {event : IngressEvent} {update : TrafficSessionUpdate}
    (made : sessionUpdateFromEvent event = some update) : step accounts event =
      (accounts.ledger.apply update).map fun ledger => ⟨accounts.store.applyUpdate update,ledger⟩ := by
  simp only [step,Ledger.record,TrafficSessionStore.recordEvent,made]

/-- The first session is live since time 0; `n` later ones came and went at time 1. -/
structure Churned (n : Nat) (accounts : Accounts) : Prop where
  size : accounts.store.inner.size = n + 1
  first : ∃ session, accounts.store.inner[flowKey 0]? = some session ∧ session.lastObservedAtUnixMs = 0
  later : ∀ key, ∀ session ∈ accounts.store.inner[key]?, key ≠ flowKey 0 → session.lastObservedAtUnixMs = 1
  known : ∀ key ∈ accounts.store.inner, ∃ id ≤ n, key = flowKey id
  opened : accounts.ledger.opened = [⟨flowKey 0,some "g",some "n"⟩]
  closed : ∀ key ∈ accounts.ledger.closed, ∃ id, 0 < id ∧ id ≤ n ∧ key = flowKey id

theorem flowPairs_nodup (key : String) : (OpenSession.mk key (some "g") (some "n")).pairs.Nodup := by
  change ((pairLists (some "g") (some "n")).getD []).Nodup
  decide

theorem flowPairs_ne_nil (key : String) : (OpenSession.mk key (some "g") (some "n")).pairs ≠ [] := by
  change (pairLists (some "g") (some "n")).getD [] ≠ []
  decide

theorem evicted_roomy {store : TrafficSessionStore} {key : String}
    (room : key ∈ store.inner ∨ store.inner.size ≠ trafficSessionLimit) :
    TrafficSessionStore.evicted store.inner key = none := by
  rw [TrafficSessionStore.evicted,if_neg]
  rintro ⟨missing,full⟩
  rcases room with present|roomy
  · exact missing (Std.ExtTreeMap.contains_iff_mem.mpr present)
  · exact roomy full

theorem size_roomy {store : TrafficSessionStore} {update : TrafficSessionUpdate}
    (room : update.sessionKey ∈ store.inner ∨ store.inner.size ≠ trafficSessionLimit) :
    (store.applyUpdate update).inner.size =
      if update.sessionKey ∈ store.inner then store.inner.size else store.inner.size + 1 := by
  have kept : TrafficSessionStore.evict store.inner update.sessionKey = store.inner := by
    refine Std.ExtTreeMap.ext_getElem? fun k => ?_
    rw [TrafficSessionStore.evict_lookup,evicted_roomy room,if_neg (by simp)]
  rw [TrafficSessionStore.applyUpdate,kept]
  exact Std.ExtTreeMap.size_insert

/-- While there is room, a flow event changes its own entry only. -/
theorem flow_lookup {store : TrafficSessionStore} {update : TrafficSessionUpdate}
    (room : update.sessionKey ∈ store.inner ∨ store.inner.size ≠ trafficSessionLimit) (key : String) :
    ∃ session : TrafficSession, session.lastObservedAtUnixMs = update.observedAtUnixMs ∧
      (store.applyUpdate update).inner[key]? = if update.sessionKey = key then some session else store.inner[key]? := by
  refine ⟨(store.inner[key]?.getD (.new update)).applyUpdate update,rfl,?_⟩
  rw [TrafficSessionStore.applyUpdate_lookup,evicted_roomy room,if_neg (by simp : ¬ none = some key)]

theorem apply_accept (ledger : Ledger) {update : TrafficSessionUpdate} (stays : update.closesSession = false)
    (clean : update.error = none) (groups : update.selectionGroups = some "g")
    (nodes : update.selectionNodes = some "n") (unclosed : update.sessionKey ∉ ledger.closed)
    (missing : ∀ own ∈ ledger.opened, own.key ≠ update.sessionKey) : ledger.apply update =
      some { ledger with opened := ledger.opened ++ [⟨update.sessionKey,some "g",some "n"⟩] } := by
  have absent : ledger.opened.find? (·.key = update.sessionKey) = none := by
    simpa [List.find?_eq_none] using missing
  simp [Ledger.apply,unclosed,stays,clean,absent,groups,nodes,flowPairs_nodup]

theorem churned_start : ∃ accounts, run step start [flowEvent .tcpAccept 0 0] = some accounts ∧
    Churned 0 accounts := by
  obtain ⟨update,made,key,now,stays,clean,groups,nodes⟩ :=
    flowEvent_update .tcpAccept (.inl rfl) 0 0 (by decide)
  have alone (k : String) : TrafficSessionStore.empty.inner[k]? = none := by
    simp [TrafficSessionStore.empty]
  have room : update.sessionKey ∈ TrafficSessionStore.empty.inner ∨
      TrafficSessionStore.empty.inner.size ≠ trafficSessionLimit := .inr (by decide)
  have found := flow_lookup room
  have size := size_roomy room
  rw [key] at found size
  have accepted := apply_accept ⟨[],[]⟩ stays clean groups nodes (by simp) (by simp)
  refine ⟨⟨TrafficSessionStore.empty.applyUpdate update,⟨[⟨flowKey 0,some "g",some "n"⟩],[]⟩⟩,?_,?_⟩
  · rw [run,step_update made]
    change ((Ledger.apply ⟨[],[]⟩ update).map _).bind _ = _
    rw [accepted,key]
    rfl
  · refine ⟨?_,?_,?_,?_,rfl,by simp⟩
    · rw [size,if_neg]
      · rfl
      · intro member
        have present := Std.ExtTreeMap.mem_iff_isSome_getElem?.mp member
        rw [alone] at present
        cases present
    · obtain ⟨session,seen,entry⟩ := found (flowKey 0)
      exact ⟨session,entry.trans (if_pos rfl),seen.trans now⟩
    · intro k session stored other
      obtain ⟨_,_,entry⟩ := found k
      rw [Option.mem_def,entry,if_neg other.symm,alone] at stored
      cases stored
    · intro k member
      have present := Std.ExtTreeMap.mem_iff_isSome_getElem?.mp member
      obtain ⟨_,_,entry⟩ := found k
      rw [entry] at present
      split at present
      · rename_i same
        exact ⟨0,Nat.le_refl 0,same.symm⟩
      · rw [alone] at present
        cases present

theorem churned_step {n : Nat} {accounts : Accounts} (churned : Churned n accounts) (few : n < 1023) :
    ∃ next, run step accounts [flowEvent .tcpAccept (n+1) 1,flowEvent .tcpClose (n+1) 1] = some next ∧
      Churned (n+1) next := by
  have small : n + 1 < 2^64 := by omega
  obtain ⟨opening,opens,openKey,openNow,stays,clean,groups,nodes⟩ :=
    flowEvent_update .tcpAccept (.inl rfl) (n+1) 1 small
  obtain ⟨closing,closes,closeKey,closeNow,ends,_,_,_⟩ :=
    flowEvent_update .tcpClose (.inr rfl) (n+1) 1 small
  have other : flowKey (n+1) ≠ flowKey 0 := fun same => absurd (flowKey_inj same) (Nat.succ_ne_zero n)
  have fresh : flowKey (n+1) ∉ accounts.store.inner := by
    intro member
    obtain ⟨id,bound,same⟩ := churned.known _ member
    have := flowKey_inj same
    omega
  have unclosed : flowKey (n+1) ∉ accounts.ledger.closed := by
    intro member
    obtain ⟨id,_,bound,same⟩ := churned.closed _ member
    have := flowKey_inj same
    omega
  have roomy : accounts.store.inner.size ≠ trafficSessionLimit := by
    have := churned.size
    unfold trafficSessionLimit
    omega
  have accepted := apply_accept accounts.ledger stays clean groups nodes
    (by rw [openKey]; exact unclosed) (by rw [churned.opened,openKey]; simpa using other.symm)
  rw [openKey,churned.opened] at accepted
  have closed : Ledger.apply ⟨[⟨flowKey 0,some "g",some "n"⟩,⟨flowKey (n+1),some "g",some "n"⟩],accounts.ledger.closed⟩
      closing = some ⟨[⟨flowKey 0,some "g",some "n"⟩],flowKey (n+1)::accounts.ledger.closed⟩ := by
    simp [Ledger.apply,closeKey,unclosed,ends,IngressEventKind.closes,other.symm]
  -- The close finds the entry that the accept made, so neither evicts.
  have roomOpen : opening.sessionKey ∈ accounts.store.inner ∨
      accounts.store.inner.size ≠ trafficSessionLimit := .inr roomy
  have present : closing.sessionKey ∈ (accounts.store.applyUpdate opening).inner := by
    obtain ⟨_,_,entry⟩ := flow_lookup roomOpen (flowKey (n+1))
    rw [closeKey,Std.ExtTreeMap.mem_iff_isSome_getElem?,entry,if_pos openKey]
    rfl
  have found (k : String) : ∃ session : TrafficSession, session.lastObservedAtUnixMs = 1 ∧
      ((accounts.store.applyUpdate opening).applyUpdate closing).inner[k]? =
        if flowKey (n+1) = k then some session else accounts.store.inner[k]? := by
    obtain ⟨_,_,first⟩ := flow_lookup roomOpen k
    obtain ⟨session,seen,entry⟩ := flow_lookup (.inl present) k
    refine ⟨session,seen.trans closeNow,?_⟩
    rw [entry,first,closeKey,openKey]
    split <;> rfl
  refine ⟨⟨(accounts.store.applyUpdate opening).applyUpdate closing,
    ⟨[⟨flowKey 0,some "g",some "n"⟩],flowKey (n+1)::accounts.ledger.closed⟩⟩,?_,?_⟩
  · rw [run,step_update opens,accepted,Option.map_some,Option.bind_some,run,step_update closes]
    change ((Ledger.apply ⟨_ ++ _,_⟩ closing).map _).bind _ = _
    rw [List.singleton_append,closed]
    rfl
  · refine ⟨?_,?_,?_,?_,rfl,?_⟩
    · dsimp only
      rw [size_roomy (.inl present),if_pos present,size_roomy roomOpen,openKey,if_neg fresh,churned.size]
    · obtain ⟨session,old,seen⟩ := churned.first
      obtain ⟨_,_,entry⟩ := found (flowKey 0)
      exact ⟨session,entry.trans ((if_neg other).trans old),seen⟩
    · intro k session stored later
      obtain ⟨_,seen,entry⟩ := found k
      rw [Option.mem_def,entry] at stored
      split at stored
      · cases Option.some.inj stored
        exact seen
      · exact churned.later k session stored later
    · intro k member
      rw [Std.ExtTreeMap.mem_iff_isSome_getElem?] at member
      obtain ⟨_,_,entry⟩ := found k
      rw [entry] at member
      split at member
      · rename_i same
        exact ⟨n+1,Nat.le_refl _,same.symm⟩
      · obtain ⟨id,bound,same⟩ := churned.known k (Std.ExtTreeMap.mem_iff_isSome_getElem?.mpr member)
        exact ⟨id,by omega,same⟩
    · intro k member
      rcases List.mem_cons.mp member with rfl|earlier
      · exact ⟨n+1,by omega,Nat.le_refl _,rfl⟩
      · obtain ⟨id,pos,bound,same⟩ := churned.closed k earlier
        exact ⟨id,pos,by omega,same⟩

/-- One flow that stays open while `n` others come and go. -/
def churn : Nat → List IngressEvent
  | 0 => [flowEvent .tcpAccept 0 0]
  | n+1 => churn n ++ [flowEvent .tcpAccept (n+1) 1,flowEvent .tcpClose (n+1) 1]

theorem churn_run (n : Nat) (few : n ≤ 1023) :
    ∃ accounts, run step start (churn n) = some accounts ∧ Churned n accounts := by
  induction n with
  | zero => exact churned_start
  | succ n ih =>
    obtain ⟨accounts,reached,churned⟩ := ih (by omega)
    obtain ⟨next,moved,churned⟩ := churned_step churned (by omega)
    exact ⟨next,by rw [churn,run_append,reached]; exact moved,churned⟩

theorem churn_times (n : Nat) :
    (churn n).map (·.observedAtUnixMs) = 0 :: List.replicate (2 * n) 1 := by
  induction n with
  | zero => rfl
  | succ n ih =>
    rw [churn,List.map_append,ih,Nat.mul_succ,List.replicate_add]
    rfl

/-- The flow after 1023 closed ones takes the place of the one that is still open. -/
theorem churn_evicts :
    ((churn 1023 ++ [flowEvent .tcpAccept 1024 2]).map (·.observedAtUnixMs)).Pairwise (· ≤ ·) ∧
      ¬ Along step (fun _ _ next => next.Counted) start (churn 1023 ++ [flowEvent .tcpAccept 1024 2]) := by
  constructor
  · rw [List.map_append,churn_times]
    simp only [List.map_cons,List.map_nil,flowEvent,List.pairwise_append,List.pairwise_cons,
      List.pairwise_replicate,List.mem_cons,List.mem_replicate]
    grind
  obtain ⟨accounts,reached,churned⟩ := churn_run 1023 (Nat.le_refl _)
  obtain ⟨update,made,key,_,stays,clean,groups,nodes⟩ :=
    flowEvent_update .tcpAccept (.inl rfl) 1024 2 (by decide)
  obtain ⟨first,stored,oldest⟩ := churned.first
  have evicts : TrafficSessionStore.evicted accounts.store.inner update.sessionKey = some (flowKey 0) := by
    rw [TrafficSessionStore.evicted,if_pos]
    · refine TrafficSessionStore.oldest_unique stored fun other seen found apart => ?_
      rw [oldest,churned.later other seen found apart]
      exact Nat.one_pos
    · refine ⟨fun present => ?_,churned.size⟩
      obtain ⟨id,bound,same⟩ := churned.known _ (Std.ExtTreeMap.contains_iff_mem.mp present)
      have := flowKey_inj (key.symm.trans same)
      omega
  rw [counted_along_iff start_matched start_retained,along_append reached]
  rintro ⟨_,keeps⟩
  have accepted := apply_accept accounts.ledger stays clean groups nodes (by
      intro member
      obtain ⟨id,_,bound,same⟩ := churned.closed _ member
      have := flowKey_inj (key.symm.trans same)
      omega) (by
      rw [churned.opened,key]
      simpa using fun same => absurd (flowKey_inj same) (by decide))
  have taken : step accounts _ = some _ := (step_update made).trans (by rw [accepted]; rfl)
  exact (keeps _ taken).1 update made ⟨flowKey 0,some "g",some "n"⟩
    (by rw [churned.opened]; exact List.mem_cons_self) (flowPairs_ne_nil _) evicts

end Churn

end Accounts

end Dynet.Runtime
