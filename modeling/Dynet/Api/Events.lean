import Dynet.Runtime.Event
import Dynet.Lib.Machine
import Mathlib.Data.List.Nodup

/-! Polling the event queue by cursor while recorders run. A recorder takes an id
in one step and enters the queue in a later one; the poller passes the greatest id
it was answered. -/
namespace Dynet.Api
open Dynet.Runtime Dynet.Lib.Machine Dynet.Lib.Text

structure EventsQuery where
  afterId : Option Nat
  limit : Option Nat
  kind : Option String
  sessionId : Option Nat
  configGeneration : Option Nat

def fieldMatches (event : IngressEvent) (key : String) (expected : Option Nat) : Bool :=
  expected.all fun value => event.number key = some value

def effectiveLimit (requested : Option Nat) (maximum : Nat) : Nat :=
  min (max (requested.getD maximum) 1) maximum

def retainLatest {α : Type} (values : List α) (requested : Option Nat) (maximum : Nat) : List α :=
  let limit := effectiveLimit requested maximum
  if values.length > limit then values.drop (values.length - limit) else values

def listEvents (store : EventStore) (query : EventsQuery) : List IngressEvent :=
  let events := store.snapshot.filter fun event =>
    query.afterId.all (fun id => event.id > id) &&
      query.kind.all (fun kind => event.kind.asStr = kind) &&
      fieldMatches event "sessionId" query.sessionId &&
      fieldMatches event "configGeneration" query.configGeneration
  retainLatest events query.limit eventLimit

/-- An event queue with the `record` calls that have taken an id and not yet locked
the queue, and one poller with the answers it got. -/
structure Feed where
  store : EventStore
  recording : List IngressEvent
  answers : List (List IngressEvent)

inductive FeedStep where
  | allocate (kind : IngressEventKind) (fields : List (String × String)) (now : Nat)
  | insert (index : Nat)
  | poll (limit : Option Nat)

def FeedStep.isPoll : FeedStep → Bool
  | .poll _ => true
  | _ => false

namespace Feed

def start (eventId sessionId : Nat) : Feed := ⟨.withWatermarks eventId sessionId,[],[]⟩

/-- The greatest id returned so far. -/
def cursor (feed : Feed) : Option Nat := (feed.answers.flatten.map (·.id)).max?

def answer (feed : Feed) (limit : Option Nat) : List IngressEvent :=
  listEvents feed.store ⟨feed.cursor,limit,none,none,none⟩

def step (feed : Feed) : FeedStep → Option Feed
  | .allocate kind fields now =>
    let (event,store) := feed.store.beginRecord kind fields now
    some { feed with store := store, recording := feed.recording ++ [event] }
  | .insert index => feed.recording[index]?.map fun event =>
    { feed with store := feed.store.enqueue event, recording := feed.recording.eraseIdx index }
  | .poll limit => some { feed with answers := feed.answers ++ [feed.answer limit] }

def Increasing (events : List IngressEvent) : Prop := events.Pairwise (·.id < ·.id)

instance (events : List IngressEvent) : Decidable (Increasing events) :=
  inferInstanceAs (Decidable (events.Pairwise _))

/-- The step enters no event below the id of an event in the queue. -/
def InIdOrder (feed : Feed) (taken : FeedStep) (_ : Feed) : Prop :=
  match taken with
  | .insert index => ∀ event ∈ feed.recording[index]?, ∀ queued ∈ feed.store.snapshot, queued.id < event.id
  | _ => True

instance (feed next : Feed) : (taken : FeedStep) → Decidable (InIdOrder feed taken next)
  | .allocate .. | .poll _ => .isTrue trivial
  | .insert index => inferInstanceAs (Decidable (∀ event ∈ feed.recording[index]?,
      ∀ queued ∈ feed.store.snapshot, queued.id < event.id))

/-- An event enters the queue in the run `before ++ insert :: between` and is still
there at `due`, the state of the first poll after that. -/
structure Due (feed due : Feed) (steps : List FeedStep) (event : IngressEvent) (limit : Option Nat) : Prop where
  split : ∃ before index between after entering, steps = before ++ .insert index :: between ++ .poll limit :: after ∧
    (∀ taken ∈ between, taken.isPoll = false) ∧ run step feed before = some entering ∧
    entering.recording[index]? = some event ∧ run step entering (.insert index :: between) = some due
  queued : event ∈ due.store.snapshot

def newer (feed : Feed) (event : IngressEvent) : Nat :=
  feed.store.snapshot.countP fun queued => event.id < queued.id

/-- In how many answers the event is. -/
def timesReturned (feed : Feed) (event : IngressEvent) : Nat :=
  feed.answers.countP (event ∈ ·)

theorem effectiveLimit_pos (requested : Option Nat) : 0 < effectiveLimit requested eventLimit := by
  unfold effectiveLimit eventLimit
  omega

theorem retainLatest_eq {α : Type} (values : List α) (requested : Option Nat) (maximum : Nat) :
    retainLatest values requested maximum =
      values.drop (values.length - effectiveLimit requested maximum) := by
  unfold retainLatest
  dsimp only
  split
  · rfl
  · rw [Nat.sub_eq_zero_of_le (by omega),List.drop_zero]

theorem Increasing.newer_split {front back : List IngressEvent} {event : IngressEvent}
    (increasing : Increasing (front ++ event::back)) :
    (front ++ event::back).countP (fun queued => event.id < queued.id) = back.length ∧ event ∉ back := by
  obtain ⟨_,tail,before⟩ := List.pairwise_append.mp increasing
  have above := (List.pairwise_cons.mp tail).1
  have older : front.countP (fun queued => event.id < queued.id) = 0 := by
    rw [List.countP_eq_zero]
    intro queued member
    have below := before queued member event List.mem_cons_self
    simp only [decide_eq_true_eq]
    omega
  have counted : back.countP (fun queued => event.id < queued.id) = back.length := by
    rw [List.countP_eq_length]
    intro queued member
    simpa using above queued member
  constructor
  · simp [List.countP_append,older,counted]
  · intro member
    exact Nat.lt_irrefl _ (above event member)

/-- Of an increasing queue the last `k` events are those with fewer than `k` newer ones. -/
theorem Increasing.mem_drop_iff {events : List IngressEvent} (increasing : Increasing events)
    (event : IngressEvent) (k : Nat) :
    event ∈ events.drop (events.length - k) ↔
      event ∈ events ∧ events.countP (fun queued => event.id < queued.id) < k := by
  by_cases member : event ∈ events
  · obtain ⟨front,back,rfl⟩ := List.append_of_mem member
    obtain ⟨newer,absent⟩ := increasing.newer_split
    rw [newer]
    simp only [member,true_and,List.length_append,List.length_cons]
    constructor
    · intro kept
      by_contra few
      have later : (front ++ event::back).drop (front.length + (back.length + 1) - k) =
          back.drop (back.length - k) := by
        rw [show front.length + (back.length + 1) - k = (front ++ [event]).length + (back.length - k) by
          simp only [List.length_append,List.length_singleton]; omega]
        rw [show front ++ event::back = (front ++ [event]) ++ back by simp,List.drop_append]
        simp
      rw [later] at kept
      exact absent (List.mem_of_mem_drop kept)
    · intro few
      rw [List.drop_append_of_le_length (by omega)]
      exact List.mem_append_right _ List.mem_cons_self
  · simp only [member,false_and,iff_false]
    exact fun kept => member (List.mem_of_mem_drop kept)

section Cursor
variable {feed : Feed}

theorem cursor_covers {returned : IngressEvent} (member : returned ∈ feed.answers.flatten) :
    ∃ top, feed.cursor = some top ∧ returned.id ≤ top := by
  have listed : returned.id ∈ feed.answers.flatten.map (·.id) := List.mem_map_of_mem member
  cases greatest : feed.cursor with
  | none =>
    rw [List.max?_eq_none_iff.mp greatest] at listed
    cases listed
  | some top => exact ⟨top,rfl,(List.max?_eq_some_iff.mp greatest).2 _ listed⟩

theorem cursor_returned {top : Nat} (greatest : feed.cursor = some top) :
    ∃ returned ∈ feed.answers.flatten, returned.id = top :=
  List.mem_map.mp (List.max?_mem greatest)

theorem answer_iff (increasing : Increasing feed.store.snapshot) (event : IngressEvent) (limit : Option Nat) :
    event ∈ feed.answer limit ↔ event ∈ feed.store.snapshot ∧ (∀ top ∈ feed.cursor, top < event.id) ∧
      feed.newer event < effectiveLimit limit eventLimit := by
  have filtered : Increasing (feed.store.snapshot.filter fun queued => feed.cursor.all (queued.id > ·)) :=
    increasing.filter _
  have answered : feed.answer limit = (feed.store.snapshot.filter fun queued =>
      feed.cursor.all (queued.id > ·)).drop ((feed.store.snapshot.filter fun queued =>
        feed.cursor.all (queued.id > ·)).length - effectiveLimit limit eventLimit) := by
    rw [answer,listEvents]
    dsimp only
    rw [retainLatest_eq]
    simp [fieldMatches]
  rw [answered,filtered.mem_drop_iff,List.mem_filter]
  simp only [Option.all_eq_true,decide_eq_true_eq,and_assoc]
  refine and_congr_right fun _ => and_congr_right fun above => ?_
  have same : (feed.store.snapshot.filter fun queued => feed.cursor.all (queued.id > ·)).countP
      (fun queued => event.id < queued.id) = feed.newer event := by
    rw [List.countP_filter,newer]
    refine List.countP_congr fun queued _ => ?_
    simp only [Bool.and_eq_true,decide_eq_true_eq,Option.all_eq_true,and_iff_left_iff_imp]
    exact fun newer top member => Nat.lt_trans (above top member) newer
  rw [same]

end Cursor

/-- The queue is increasing and reaches at least as far as the answers. -/
structure Sound (feed : Feed) : Prop where
  increasing : Increasing feed.store.snapshot
  covered : ∀ returned ∈ feed.answers.flatten, ∃ queued ∈ feed.store.snapshot, returned.id ≤ queued.id

theorem start_sound (eventId sessionId : Nat) : Sound (start eventId sessionId) :=
  ⟨.nil,by simp [start]⟩

theorem enqueue_snapshot (store : EventStore) (event : IngressEvent) :
    ∃ kept, kept.Sublist store.snapshot ∧ (store.enqueue event).snapshot = kept ++ [event] := by
  refine ⟨if store.events.length = eventLimit then store.events.tail else store.events,?_,rfl⟩
  split
  · exact List.tail_sublist _
  · exact List.Sublist.refl _

theorem Sound.insert {feed : Feed} (sound : Sound feed) {event : IngressEvent}
    (recording : List IngressEvent) (above : ∀ queued ∈ feed.store.snapshot, queued.id < event.id) :
    Sound { feed with store := feed.store.enqueue event, recording := recording } := by
  obtain ⟨kept,sublist,entered⟩ := enqueue_snapshot feed.store event
  constructor
  · rw [Increasing,entered,List.pairwise_append]
    refine ⟨sound.increasing.sublist sublist,List.pairwise_singleton _ _,?_⟩
    intro queued member last same
    rw [List.mem_singleton.mp same]
    exact above queued (sublist.subset member)
  · intro returned member
    obtain ⟨queued,present,below⟩ := sound.covered returned member
    refine ⟨event,by rw [entered]; exact List.mem_append_right _ List.mem_cons_self,?_⟩
    have := above queued present
    omega

theorem Sound.poll {feed : Feed} (sound : Sound feed) (limit : Option Nat) :
    Sound { feed with answers := feed.answers ++ [feed.answer limit] } := by
  refine ⟨sound.increasing,?_⟩
  intro returned member
  rw [List.flatten_append,List.mem_append] at member
  rcases member with earlier|answered
  · exact sound.covered returned earlier
  · rw [List.flatten_singleton] at answered
    exact ⟨returned,((answer_iff sound.increasing returned limit).mp answered).1,Nat.le_refl _⟩

theorem step_sound {feed next : Feed} {taken : FeedStep} (sound : Sound feed)
    (moved : step feed taken = some next) (ordered : InIdOrder feed taken next) : Sound next := by
  cases taken with
  | allocate kind fields now =>
    cases Option.some.inj moved
    exact ⟨sound.increasing,sound.covered⟩
  | insert index =>
    obtain ⟨event,found,rfl⟩ := Option.map_eq_some_iff.mp moved
    exact sound.insert _ (ordered event found)
  | poll limit =>
    cases Option.some.inj moved
    exact sound.poll limit

/-- In a run that enters events in the order of their ids every state is sound. -/
theorem run_sound {feed final : Feed} {steps : List FeedStep} (sound : Sound feed)
    (ordered : Along step InIdOrder feed steps) (reached : run step feed steps = some final) : Sound final := by
  induction steps generalizing feed with
  | nil =>
    cases reached
    exact sound
  | cons taken rest ih =>
    obtain ⟨next,moved,reached⟩ := (run_cons_iff feed final taken rest).mp reached
    obtain ⟨allowed,ordered⟩ := ordered next moved
    exact ih (step_sound sound moved allowed) ordered reached

theorem answer_above {feed : Feed} {limit : Option Nat} {event : IngressEvent}
    (answered : event ∈ feed.answer limit) : ∀ top ∈ feed.cursor, top < event.id := by
  intro top greatest
  rw [answer,listEvents,retainLatest_eq] at answered
  have kept := (List.mem_filter.mp (List.mem_of_mem_drop answered)).2
  simp only [Bool.and_eq_true,Option.all_eq_true,decide_eq_true_eq] at kept
  exact kept.1.1.1 top greatest

/-- Once an answer has reached an id, later answers lie above it. -/
theorem run_answers_above (bound : Nat) {feed final : Feed} {steps : List FeedStep}
    (seen : ∃ returned ∈ feed.answers.flatten, bound ≤ returned.id)
    (reached : run step feed steps = some final) :
    ∃ later, final.answers = feed.answers ++ later ∧ ∀ returned ∈ later.flatten, bound < returned.id := by
  induction steps generalizing feed with
  | nil =>
    cases reached
    exact ⟨[],by simp,by simp⟩
  | cons taken rest ih =>
    obtain ⟨next,moved,reached⟩ := (run_cons_iff feed final taken rest).mp reached
    cases taken with
    | allocate kind fields now =>
      cases Option.some.inj moved
      obtain ⟨later,answers,above⟩ := ih (by exact seen) reached
      exact ⟨later,answers,above⟩
    | insert index =>
      obtain ⟨event,_,rfl⟩ := Option.map_eq_some_iff.mp moved
      obtain ⟨later,answers,above⟩ := ih (by exact seen) reached
      exact ⟨later,answers,above⟩
    | poll limit =>
      cases Option.some.inj moved
      obtain ⟨returned,member,atLeast⟩ := seen
      obtain ⟨later,answers,above⟩ := ih
        ⟨returned,by rw [List.flatten_append]; exact List.mem_append_left _ member,atLeast⟩ reached
      refine ⟨feed.answer limit :: later,by simpa using answers,?_⟩
      intro other present
      rw [List.flatten_cons,List.mem_append] at present
      rcases present with answered|rest
      · obtain ⟨top,greatest,covers⟩ := cursor_covers member
        have := answer_above answered top greatest
        omega
      · exact above other rest

theorem run_quiet {feed final : Feed} {steps : List FeedStep} (quiet : ∀ taken ∈ steps, taken.isPoll = false)
    (reached : run step feed steps = some final) : final.answers = feed.answers := by
  induction steps generalizing feed with
  | nil =>
    cases reached
    rfl
  | cons taken rest ih =>
    obtain ⟨next,moved,reached⟩ := (run_cons_iff feed final taken rest).mp reached
    obtain ⟨first,quiet⟩ := List.forall_mem_cons.mp quiet
    have kept := ih quiet reached
    cases taken with
    | allocate kind fields now =>
      cases Option.some.inj moved
      exact kept
    | insert index =>
      obtain ⟨event,_,rfl⟩ := Option.map_eq_some_iff.mp moved
      exact kept
    | poll limit => cases first

theorem run_length {feed final : Feed} {steps : List FeedStep}
    (bounded : feed.store.snapshot.length ≤ eventLimit) (reached : run step feed steps = some final) :
    final.store.snapshot.length ≤ eventLimit := by
  induction steps generalizing feed with
  | nil =>
    cases reached
    exact bounded
  | cons taken rest ih =>
    obtain ⟨next,moved,reached⟩ := (run_cons_iff feed final taken rest).mp reached
    refine ih ?_ reached
    cases taken with
    | allocate kind fields now =>
      cases Option.some.inj moved
      exact bounded
    | insert index =>
      obtain ⟨event,_,rfl⟩ := Option.map_eq_some_iff.mp moved
      simp only [EventStore.snapshot,EventStore.enqueue] at bounded ⊢
      split <;> simp only [List.length_append,List.length_tail,List.length_singleton] <;>
        unfold eventLimit at * <;> omega
    | poll limit =>
      cases Option.some.inj moved
      exact bounded

/-- An event that is still queued at the first poll after it entered lies above
everything answered before. -/
theorem Due.unanswered {feed due : Feed} {steps : List FeedStep} {event : IngressEvent} {limit : Option Nat}
    (sound : Sound feed) (ordered : Along step InIdOrder feed steps) (waits : Due feed due steps event limit) :
    Sound due ∧ ∀ returned ∈ due.answers.flatten, returned.id < event.id := by
  obtain ⟨before,index,between,after,entering,rfl,quiet,entered,found,reached⟩ := waits.split
  rw [List.append_assoc] at ordered
  obtain ⟨orderedBefore,ordered⟩ := (along_append entered).mp ordered
  obtain ⟨orderedBetween,_⟩ := (along_append reached).mp ordered
  have soundEntering := run_sound sound orderedBefore entered
  refine ⟨run_sound soundEntering orderedBetween reached,?_⟩
  obtain ⟨next,moved,rest⟩ := (run_cons_iff entering due _ between).mp reached
  have above := (orderedBetween next moved).1 event found
  obtain ⟨_,_,rfl⟩ := Option.map_eq_some_iff.mp moved
  rw [run_quiet quiet rest]
  intro returned member
  obtain ⟨queued,present,below⟩ := soundEntering.covered returned member
  have := above queued present
  omega

/-- The newest event of the queue is in every answer it is new to. -/
theorem Sound.answers_newest {feed : Feed} (sound : Sound feed) {event : IngressEvent}
    (queued : event ∈ feed.store.snapshot) (fresh : ∀ top ∈ feed.cursor, top < event.id) (limit : Option Nat) :
    ∃ newest ∈ feed.answer limit, event.id ≤ newest.id := by
  obtain ⟨front,newest,shape⟩ : ∃ front newest, feed.store.snapshot = front ++ [newest] :=
    ⟨_,_,(List.dropLast_append_getLast (List.ne_nil_of_mem queued)).symm⟩
  have atLeast : event.id ≤ newest.id := by
    rw [shape,List.mem_append,List.mem_singleton] at queued
    rcases queued with earlier|rfl
    · have increasing := sound.increasing
      rw [Increasing,shape,List.pairwise_append] at increasing
      exact Nat.le_of_lt (increasing.2.2 event earlier newest List.mem_cons_self)
    · exact Nat.le_refl _
  refine ⟨newest,(answer_iff sound.increasing newest limit).mpr ⟨?_,?_,?_⟩,atLeast⟩
  · rw [shape]
    exact List.mem_append_right _ List.mem_cons_self
  · intro top greatest
    have := fresh top greatest
    omega
  · have none : feed.newer newest = 0 := by
      have increasing := sound.increasing
      rw [shape] at increasing
      rw [newer,shape]
      exact increasing.newer_split.1
    rw [none]
    exact effectiveLimit_pos limit

theorem countP_answers_zero {answers : List (List IngressEvent)} {event : IngressEvent}
    (absent : event ∉ answers.flatten) : answers.countP (event ∈ ·) = 0 := by
  rw [List.countP_eq_zero]
  intro answer member answered
  exact absent (List.mem_flatten.mpr ⟨answer,member,by simpa using answered⟩)

/-- How often a run returns an event depends on its first poll alone. -/
theorem Due.timesReturned_eq {feed due final : Feed} {steps : List FeedStep} {event : IngressEvent}
    {limit : Option Nat} (sound : Sound feed) (ordered : Along step InIdOrder feed steps)
    (waits : Due feed due steps event limit) (reached : run step feed steps = some final) :
    final.timesReturned event = if due.newer event < effectiveLimit limit eventLimit then 1 else 0 := by
  obtain ⟨soundDue,above⟩ := waits.unanswered sound ordered
  obtain ⟨before,index,between,after,entering,rfl,quiet,entered,found,atDue⟩ := waits.split
  rw [List.append_assoc,run_append,entered,Option.bind_some,run_append,atDue,Option.bind_some] at reached
  obtain ⟨polled,moved,reached⟩ := (run_cons_iff due final _ after).mp reached
  cases Option.some.inj moved
  have fresh : ∀ top ∈ due.cursor, top < event.id := by
    intro top greatest
    obtain ⟨returned,member,rfl⟩ := cursor_returned greatest
    exact above returned member
  obtain ⟨newest,answered,atLeast⟩ := soundDue.answers_newest waits.queued fresh limit
  obtain ⟨later,answers,beyond⟩ := run_answers_above event.id
    ⟨newest,by simp [answered],atLeast⟩ reached
  have before : event ∉ due.answers.flatten := fun member => Nat.lt_irrefl _ (above event member)
  have after : event ∉ later.flatten := fun member => Nat.lt_irrefl _ (beyond event member)
  rw [timesReturned,answers,List.countP_append,List.countP_append,countP_answers_zero before,
    countP_answers_zero after,List.countP_singleton]
  simp only [decide_eq_true_eq,answer_iff soundDue.increasing,waits.queued,true_and,Nat.zero_add,Nat.add_zero]
  exact if_congr (and_iff_right fresh) rfl rfl

/-- What a poller that follows the cursor relies on, in one run: increasing ids in
every snapshot, and every event returned once if its first poll finds it queued. -/
def Complete (eventId sessionId : Nat) (steps : List FeedStep) : Prop :=
  (∀ before after feed, steps = before ++ after → run step (start eventId sessionId) before = some feed →
    Increasing feed.store.snapshot) ∧
  ∀ event due limit final, run step (start eventId sessionId) steps = some final →
    Due (start eventId sessionId) due steps event limit → final.timesReturned event = 1

/-- When events enter the queue in the order of their ids, every snapshot increases,
and an event still queued at its first poll is returned by that poll and no other,
unless the limit of that poll is used up by newer events. -/
theorem polls_return_latest (eventId sessionId : Nat) (steps : List FeedStep) (final : Feed)
    (reached : run step (start eventId sessionId) steps = some final)
    (ordered : Along step InIdOrder (start eventId sessionId) steps) :
    (∀ before after feed, steps = before ++ after → run step (start eventId sessionId) before = some feed →
      Increasing feed.store.snapshot) ∧
    ∀ event due limit, Due (start eventId sessionId) due steps event limit →
      final.timesReturned event = (if due.newer event < effectiveLimit limit eventLimit then 1 else 0) ∧
      (limit = none → final.timesReturned event = 1) := by
  have sound := start_sound eventId sessionId
  refine ⟨?_,?_⟩
  · rintro before after feed rfl at_
    exact (run_sound sound ((along_append at_).mp ordered).1 at_).increasing
  · intro event due limit waits
    have times := waits.timesReturned_eq sound ordered reached
    refine ⟨times,?_⟩
    rintro rfl
    obtain ⟨before,index,between,after,entering,_,_,entered,_,atDue⟩ := waits.split
    have bounded := run_length (run_length (by simp [start,EventStore.withWatermarks,EventStore.snapshot])
      entered) atDue
    have few : due.newer event < due.store.snapshot.length := by
      obtain ⟨front,back,shape⟩ := List.append_of_mem waits.queued
      have increasing := (waits.unanswered sound ordered).1.increasing
      rw [shape] at increasing
      rw [newer,shape,increasing.newer_split.1,List.length_append,List.length_cons]
      omega
    rw [times,if_pos]
    unfold effectiveLimit
    simp only [Option.getD_none]
    omega

def record (kind : IngressEventKind) : List FeedStep := [.allocate kind [] 0,.insert 0]

def pollTwice : List FeedStep :=
  record .tcpAccept ++ record .tcpClose ++ [.poll (some 1)] ++ record .dnsQuery ++ [.poll none]

theorem pollTwice_returns_latest :
    (∀ before after feed, pollTwice = before ++ after → run step (start 0 0) before = some feed →
      Increasing feed.store.snapshot) ∧
    ∀ event due limit, Due (start 0 0) due pollTwice event limit →
      ((run step (start 0 0) pollTwice).getD (start 0 0)).timesReturned event =
        (if due.newer event < effectiveLimit limit eventLimit then 1 else 0) ∧
      (limit = none → ((run step (start 0 0) pollTwice).getD (start 0 0)).timesReturned event = 1) :=
  polls_return_latest 0 0 pollTwice _ rfl (by decide)

/-- The first poll of `pollTwice` skips the older of two events; two recorders that
enter the queue against the order of their ids leave a snapshot that decreases. -/
theorem polls_incomplete : ¬ Complete 0 0 pollTwice ∧
    ¬ Complete 0 0 [.allocate .tcpAccept [] 0,.allocate .tcpAccept [] 0,.insert 1,.insert 0] := by
  constructor
  · rintro ⟨_,once⟩
    have skipped := once ⟨1,0,.tcpAccept,intoFields []⟩
      ⟨⟨2,0,[⟨1,0,.tcpAccept,intoFields []⟩,⟨2,0,.tcpClose,intoFields []⟩]⟩,[],[]⟩ (some 1) _ rfl
      ⟨⟨[.allocate .tcpAccept [] 0],0,record .tcpClose,record .dnsQuery ++ [.poll none],
        ⟨⟨1,0,[]⟩,[⟨1,0,.tcpAccept,intoFields []⟩],[]⟩,rfl,by decide,rfl,rfl,rfl⟩,List.mem_cons_self⟩
    revert skipped
    decide
  · rintro ⟨increasing,_⟩
    have swapped := increasing _ [] _ (List.append_nil _).symm rfl
    revert swapped
    decide

end Feed

end Dynet.Api
