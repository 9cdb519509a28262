import Dynet.Vless.SlideBuffer

/-! The storage under a slide buffer: a fixed array with two offsets, whose live bytes are
moved to the front now and then. An access outside of the array or a failed assertion is a
panic, which is `none`. -/
namespace Dynet.Vless

structure SlideStorage where
  data : Bytes
  start : Nat
  stop : Nat
  deriving DecidableEq, Repr

/-- A call that changes the buffer. `write` fills the front of the slice that `write_slice`
exposes and marks some of it as written. -/
inductive SlideCall where
  | extend (data : Bytes)
  | write (contents : Bytes) (n : Nat)
  | consume (n : Nat)
  | compact
  | maybeCompact (threshold : Nat)
  deriving DecidableEq, Repr

namespace SlideStorage

-- `allocate_vec` does not clear the memory: what the storage holds at first is arbitrary.
def new (fresh : Bytes) : SlideStorage := ⟨fresh,0,0⟩

def len (s : SlideStorage) : Nat := s.stop - s.start

def isEmpty (s : SlideStorage) : Bool := s.start ≥ s.stop

def remainingCapacity (s : SlideStorage) : Nat := s.data.length - s.stop

def asSlice (s : SlideStorage) : Bytes := (s.data.drop s.start).take (s.stop - s.start)

/-- `data[at..at + contents.len()].copy_from_slice(contents)`. -/
def store (data : Bytes) (place : Nat) (contents : Bytes) : Option Bytes :=
  if place + contents.length ≤ data.length then
    some (data.take place ++ contents ++ data.drop (place + contents.length))
  else none

def extendFromSlice (s : SlideStorage) (contents : Bytes) : Option SlideStorage :=
  if contents.length ≤ s.remainingCapacity then
    (store s.data s.stop contents).map fun data => ⟨data,s.start,s.stop + contents.length⟩
  else none

def advanceWrite (s : SlideStorage) (n : Nat) : Option SlideStorage :=
  if s.stop + n ≤ s.data.length then some ⟨s.data,s.start,s.stop + n⟩ else none

def consume (s : SlideStorage) (n : Nat) : Option SlideStorage :=
  if n ≤ s.len then
    if s.start + n ≥ s.stop then some ⟨s.data,0,0⟩ else some ⟨s.data,s.start + n,s.stop⟩
  else none

/-- `data.copy_within(start..stop, 0)`. -/
def copyToFront (data : Bytes) (start stop : Nat) : Option Bytes :=
  if start ≤ stop ∧ stop ≤ data.length then
    some ((data.drop start).take (stop - start) ++ data.drop (stop - start))
  else none

def compact (s : SlideStorage) : Option SlideStorage :=
  if s.start > 0 ∧ s.start < s.stop then
    (copyToFront s.data s.start s.stop).map fun data => ⟨data,0,s.stop - s.start⟩
  else if s.start ≥ s.stop then some ⟨s.data,0,0⟩
  else some s

def maybeCompact (s : SlideStorage) (threshold : Nat) : Option SlideStorage :=
  if s.start > threshold then s.compact else some s

def step (s : SlideStorage) : SlideCall → Option SlideStorage
  | .extend data => s.extendFromSlice data
  | .write contents n => do
    let data ← store s.data s.stop contents
    advanceWrite ⟨data,s.start,s.stop⟩ n
  | .consume n => s.consume n
  | .compact => s.compact
  | .maybeCompact threshold => s.maybeCompact threshold

def run (s : SlideStorage) : List SlideCall → Option SlideStorage
  | [] => some s
  | call::calls => (s.step call).bind fun t => t.run calls

/-- The amounts of a call stay within the remaining capacity and the length. -/
def Admits (s : SlideStorage) : SlideCall → Prop
  | .extend data => data.length ≤ s.remainingCapacity
  | .write contents n => contents.length ≤ s.remainingCapacity ∧ n ≤ contents.length
  | .consume n => n ≤ s.len
  | .compact => True
  | .maybeCompact _ => True

def AdmitsAll (s : SlideStorage) : List SlideCall → Prop
  | [] => True
  | call::calls => s.Admits call ∧ ∀ t, s.step call = some t → t.AdmitsAll calls

instance (s : SlideStorage) (call : SlideCall) : Decidable (s.Admits call) :=
  match call with
  | .extend data => inferInstanceAs (Decidable (data.length ≤ s.remainingCapacity))
  | .write contents n => inferInstanceAs (Decidable (contents.length ≤ s.remainingCapacity ∧ n ≤ contents.length))
  | .consume n => inferInstanceAs (Decidable (n ≤ s.len))
  | .compact => isTrue trivial
  | .maybeCompact _ => isTrue trivial

instance decidableAdmitsAll (s : SlideStorage) : (calls : List SlideCall) → Decidable (s.AdmitsAll calls)
  | [] => isTrue trivial
  | call::calls =>
    have _ := fun t : SlideStorage => decidableAdmitsAll t calls
    inferInstanceAs (Decidable (s.Admits call ∧ ∀ t ∈ s.step call, t.AdmitsAll calls))

structure Sound (s : SlideStorage) (capacity : Nat) : Prop where
  ordered : s.start ≤ s.stop
  inside : s.stop ≤ s.data.length
  fixed : s.data.length = capacity

end SlideStorage

/-! The queue that the buffer stands for. -/

namespace SlideCall

def appended : SlideCall → Bytes
  | .extend data => data
  | .write contents n => contents.take n
  | _ => []

def consumed : SlideCall → Nat
  | .consume n => n
  | _ => 0

def allAppended : List SlideCall → Bytes
  | [] => []
  | call::calls => call.appended ++ allAppended calls

def allConsumed : List SlideCall → Nat
  | [] => 0
  | call::calls => call.consumed + allConsumed calls

end SlideCall

namespace SlideStorage

section Offsets
variable {s : SlideStorage} {capacity : Nat} (sound : s.Sound capacity)
include sound

theorem Sound.len_eq : s.asSlice.length = s.len := by
  have inside := sound.inside
  rw [asSlice,len,List.length_take,List.length_drop]
  omega

theorem stored {contents : Bytes} (room : contents.length ≤ s.remainingCapacity) :
    ∃ data, store s.data s.stop contents = some data ∧ data.length = s.data.length ∧
      ∀ n ≤ contents.length, (data.drop s.start).take (s.stop + n - s.start) = s.asSlice ++ contents.take n := by
  have ordered := sound.ordered
  have inside := sound.inside
  rw [remainingCapacity] at room
  have fits : s.stop + contents.length ≤ s.data.length := by omega
  refine ⟨_,if_pos fits,?_,?_⟩
  · simp only [List.length_append,List.length_take,List.length_drop]
    omega
  · intro n part
    have front : s.start ≤ (s.data.take s.stop).length := by
      rw [List.length_take]
      omega
    have live : (s.data.take s.stop).drop s.start = s.asSlice := List.drop_take
    have size := sound.len_eq
    rw [List.append_assoc,List.drop_append_of_le_length front,live,len] at *
    have cut : s.stop + n - s.start = s.asSlice.length + n := by omega
    rw [cut,List.take_length_add_append,List.take_append_of_le_length part]

theorem extendFromSlice_spec {contents : Bytes} (room : contents.length ≤ s.remainingCapacity) :
    ∃ t, s.extendFromSlice contents = some t ∧ t.Sound capacity ∧ t.asSlice = s.asSlice ++ contents ∧ t.start = s.start := by
  obtain ⟨data,made,length,slice⟩ := stored sound room
  have inside := sound.inside
  have ordered := sound.ordered
  refine ⟨⟨data,s.start,s.stop + contents.length⟩,by rw [extendFromSlice,if_pos room,made]; rfl,
    ⟨?_,?_,length.trans sound.fixed⟩,?_,rfl⟩
  · exact Nat.le_trans ordered (Nat.le_add_right _ _)
  · rw [remainingCapacity] at room
    change s.stop + contents.length ≤ data.length
    omega
  · rw [asSlice,slice _ (Nat.le_refl _),List.take_length]

theorem write_spec {contents : Bytes} {n : Nat} (room : contents.length ≤ s.remainingCapacity) (part : n ≤ contents.length) :
    ∃ t, s.step (.write contents n) = some t ∧ t.Sound capacity ∧ t.asSlice = s.asSlice ++ contents.take n := by
  obtain ⟨data,made,length,slice⟩ := stored sound room
  have inside := sound.inside
  have ordered := sound.ordered
  rw [remainingCapacity] at room
  have fits : s.stop + n ≤ data.length := by omega
  refine ⟨⟨data,s.start,s.stop + n⟩,?_,⟨?_,fits,length.trans sound.fixed⟩,slice n part⟩
  · rw [step,made]
    exact if_pos fits
  · exact Nat.le_trans ordered (Nat.le_add_right _ _)

theorem consume_spec {n : Nat} (held : n ≤ s.len) :
    ∃ t, s.consume n = some t ∧ t.Sound capacity ∧ t.asSlice = s.asSlice.drop n ∧
      t.start = if n < s.len then s.start + n else 0 := by
  have inside := sound.inside
  have size := sound.len_eq
  rw [consume,if_pos held]
  rw [len] at held size
  split
  · rename_i all
    refine ⟨_,rfl,⟨Nat.le_refl _,Nat.zero_le _,sound.fixed⟩,?_,(if_neg (by rw [len]; omega)).symm⟩
    rw [List.drop_eq_nil_of_le (by omega)]
    rfl
  · rename_i some_left
    refine ⟨_,rfl,⟨by dsimp only; omega,inside,sound.fixed⟩,?_,(if_pos (by rw [len]; omega)).symm⟩
    rw [asSlice,asSlice,List.drop_take,List.drop_drop]
    congr 1
    dsimp only
    omega

theorem compact_spec :
    ∃ t, s.compact = some t ∧ t.Sound capacity ∧ t.asSlice = s.asSlice ∧ t.start = 0 := by
  have inside := sound.inside
  have ordered := sound.ordered
  have size := sound.len_eq
  rw [len] at size
  rw [compact]
  split
  · rename_i moved
    rw [copyToFront,if_pos ⟨ordered,inside⟩]
    refine ⟨_,rfl,⟨Nat.zero_le _,?_,?_⟩,?_,rfl⟩
    · simp only [List.length_append,List.length_take,List.length_drop]
      omega
    · rw [← sound.fixed]
      simp only [List.length_append,List.length_take,List.length_drop]
      omega
    · change (s.asSlice ++ s.data.drop (s.stop - s.start)).take (s.stop - s.start) = s.asSlice
      rw [← size,List.take_left]
  · split
    · rename_i empty
      refine ⟨_,rfl,⟨Nat.le_refl _,Nat.zero_le _,sound.fixed⟩,?_,rfl⟩
      have none : s.asSlice = [] := List.eq_nil_of_length_eq_zero (by omega)
      rw [none]
      rfl
    · exact ⟨_,rfl,sound,rfl,by omega⟩

theorem maybeCompact_spec (threshold : Nat) :
    ∃ t, s.maybeCompact threshold = some t ∧ t.Sound capacity ∧ t.asSlice = s.asSlice := by
  rw [maybeCompact]
  split
  · obtain ⟨t,made,kept,same,-⟩ := compact_spec sound
    exact ⟨t,made,kept,same⟩
  · exact ⟨s,rfl,sound,rfl⟩

/-- An admitted call does not panic, and does to the slice what it does to the queue. -/
theorem step_spec {call : SlideCall} (admitted : s.Admits call) :
    ∃ t, s.step call = some t ∧ t.Sound capacity ∧ t.asSlice = (s.asSlice ++ call.appended).drop call.consumed ∧
      call.consumed ≤ s.asSlice.length := by
  cases call with
  | extend data =>
    obtain ⟨t,made,kept,slice,-⟩ := extendFromSlice_spec sound admitted
    exact ⟨t,made,kept,slice,Nat.zero_le _⟩
  | write contents n =>
    obtain ⟨t,made,kept,slice⟩ := write_spec sound admitted.1 admitted.2
    exact ⟨t,made,kept,slice,Nat.zero_le _⟩
  | consume n =>
    obtain ⟨t,made,kept,slice,-⟩ := consume_spec sound admitted
    refine ⟨t,made,kept,?_,by rw [sound.len_eq]; exact admitted⟩
    change t.asSlice = (s.asSlice ++ []).drop n
    rw [slice,List.append_nil]
  | compact =>
    obtain ⟨t,made,kept,slice,-⟩ := compact_spec sound
    refine ⟨t,made,kept,?_,Nat.zero_le _⟩
    change t.asSlice = s.asSlice ++ []
    rw [slice,List.append_nil]
  | maybeCompact threshold =>
    obtain ⟨t,made,kept,slice⟩ := maybeCompact_spec sound threshold
    refine ⟨t,made,kept,?_,Nat.zero_le _⟩
    change t.asSlice = s.asSlice ++ []
    rw [slice,List.append_nil]

end Offsets

theorem run_spec {s : SlideStorage} {capacity : Nat} (sound : s.Sound capacity) {calls : List SlideCall}
    (admitted : s.AdmitsAll calls) :
    ∃ t, s.run calls = some t ∧ t.Sound capacity ∧
      SlideCall.allConsumed calls ≤ (s.asSlice ++ SlideCall.allAppended calls).length ∧
      t.asSlice = (s.asSlice ++ SlideCall.allAppended calls).drop (SlideCall.allConsumed calls) := by
  induction calls generalizing s with
  | nil => exact ⟨s,rfl,sound,Nat.zero_le _,by rw [SlideCall.allAppended,List.append_nil]; rfl⟩
  | cons call calls ih =>
    obtain ⟨first,later⟩ := admitted
    obtain ⟨t,made,kept,slice,held⟩ := step_spec sound first
    obtain ⟨u,reached,still,covered,rest⟩ := ih kept (later t made)
    have joined : t.asSlice ++ SlideCall.allAppended calls =
        (s.asSlice ++ SlideCall.allAppended (call::calls)).drop call.consumed := by
      rw [slice,SlideCall.allAppended,← List.append_assoc]
      exact (List.drop_append_of_le_length (by rw [List.length_append]; omega)).symm
    rw [joined] at covered rest
    refine ⟨u,by rw [run,made]; exact reached,still,?_,by rw [rest,List.drop_drop]; rfl⟩
    rw [List.length_drop] at covered
    rw [SlideCall.allConsumed]
    have size := @List.length_append _ s.asSlice (SlideCall.allAppended (call::calls))
    omega

/-- Every admitted sequence of calls leaves the offsets in order and the queue in the slice;
compaction changes nothing of it and leaves all of the free capacity behind it. -/
theorem slide_queue (fresh : Bytes) (calls : List SlideCall) (admitted : (new fresh).AdmitsAll calls) :
    ∃ t, (new fresh).run calls = some t ∧ t.start ≤ t.stop ∧ t.stop ≤ fresh.length ∧ t.data.length = fresh.length ∧
      SlideCall.allConsumed calls ≤ (SlideCall.allAppended calls).length ∧
      t.asSlice = (SlideCall.allAppended calls).drop (SlideCall.allConsumed calls) ∧
      (∃ u, t.compact = some u ∧ u.asSlice = t.asSlice ∧ u.remainingCapacity = fresh.length - t.len ∧ u.len = t.len) ∧
      ∀ threshold, ∃ u, t.maybeCompact threshold = some u ∧ u.asSlice = t.asSlice := by
  have sound : (new fresh).Sound fresh.length := ⟨Nat.le_refl _,Nat.zero_le _,rfl⟩
  have nothing : (new fresh).asSlice = [] := rfl
  obtain ⟨t,reached,kept,covered,slice⟩ := run_spec sound admitted
  rw [nothing,List.nil_append] at covered slice
  refine ⟨t,reached,kept.ordered,kept.fixed ▸ kept.inside,kept.fixed,covered,slice,?_,?_⟩
  · obtain ⟨u,made,still,same,front⟩ := compact_spec kept
    have length : u.len = t.len := by rw [← still.len_eq,← kept.len_eq,same]
    refine ⟨u,made,same,?_,length⟩
    rw [remainingCapacity,still.fixed,← length,len,front,Nat.sub_zero]
  · intro threshold
    obtain ⟨u,made,-,same⟩ := maybeCompact_spec kept threshold
    exact ⟨u,made,same⟩

/-- The byte left of the first chunk is moved to the front, and the next two are written into the
exposed slice. -/
theorem slide_queue_moved :
    ∃ t, (new (List.replicate 6 9)).run [.extend [1,2,3,4],.consume 3,.maybeCompact 2,.write [5,6,7] 2,.consume 1] = some t ∧
      t.asSlice = [5,6] := by
  obtain ⟨t,reached,-,-,-,-,slice,-⟩ := slide_queue (List.replicate 6 9)
    [.extend [1,2,3,4],.consume 3,.maybeCompact 2,.write [5,6,7] 2,.consume 1] (by decide)
  exact ⟨t,reached,slice⟩

/-- The fixed buffer that the paths above work on, seen through this storage. -/
structure Shows (s : SlideStorage) (buffer : SlideBuffer) : Prop where
  sound : s.Sound buffer.capacity
  start : buffer.start = s.start
  bytes : buffer.bytes = s.asSlice

section Shown
variable {s : SlideStorage} {buffer : SlideBuffer} (shows : s.Shows buffer)
include shows

theorem Shows.len_eq : buffer.len = s.len := by
  rw [SlideBuffer.len,shows.bytes,shows.sound.len_eq]

theorem Shows.remainingCapacity_eq : buffer.remainingCapacity = s.remainingCapacity := by
  have ordered := shows.sound.ordered
  have fixed := shows.sound.fixed
  rw [SlideBuffer.remainingCapacity,remainingCapacity,shows.len_eq,shows.start,fixed,len]
  omega

-- A write past the end is a panic of both.
theorem Shows.extendFromSlice (contents : Bytes) :
    (s.extendFromSlice contents = none ∧ buffer.extendFromSlice contents = .error .overrun) ∨
      ∃ t after, s.extendFromSlice contents = some t ∧ buffer.extendFromSlice contents = .ok after ∧ t.Shows after := by
  have same := shows.remainingCapacity_eq
  have fits := buffer.fits
  rw [SlideBuffer.remainingCapacity,SlideBuffer.len] at same
  by_cases room : contents.length ≤ s.remainingCapacity
  · obtain ⟨t,made,kept,slice,front⟩ := extendFromSlice_spec shows.sound room
    have inside : buffer.start + (buffer.bytes ++ contents).length ≤ buffer.capacity := by
      rw [List.length_append]
      omega
    refine .inr ⟨t,⟨buffer.capacity,buffer.start,buffer.bytes ++ contents,inside⟩,made,dif_pos inside,kept,?_,?_⟩
    · exact shows.start.trans front.symm
    · exact (congrArg (· ++ contents) shows.bytes).trans slice.symm
  · refine .inl ⟨if_neg room,(SlideBuffer.extendFromSlice_error_iff ..).2 ⟨rfl,?_⟩⟩
    rw [SlideBuffer.len]
    omega

theorem Shows.consume {n : Nat} (held : n ≤ s.len) : ∃ t, s.consume n = some t ∧ t.Shows (buffer.consume n) := by
  obtain ⟨t,made,kept,slice,front⟩ := consume_spec shows.sound held
  refine ⟨t,made,?_,?_,?_⟩
  · rw [SlideBuffer.consume_capacity]
    exact kept
  · rw [SlideBuffer.consume,front,← shows.len_eq,← shows.start]
    split <;> rfl
  · rw [SlideBuffer.consume_bytes,slice,shows.bytes]

theorem Shows.compact : ∃ t, s.compact = some t ∧ t.Shows buffer.compact := by
  obtain ⟨t,made,kept,same,front⟩ := compact_spec shows.sound
  exact ⟨t,made,kept,front.symm,shows.bytes.trans same.symm⟩

theorem Shows.maybeCompact (threshold : Nat) : ∃ t, s.maybeCompact threshold = some t ∧ t.Shows (buffer.maybeCompact threshold) := by
  rw [SlideStorage.maybeCompact,SlideBuffer.maybeCompact,shows.start]
  split
  · exact shows.compact
  · exact ⟨s,rfl,shows⟩

end Shown

end SlideStorage
end Dynet.Vless
