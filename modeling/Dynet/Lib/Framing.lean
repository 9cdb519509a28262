import Mathlib.Data.List.Basic

/-! Items cut off the front of a growing buffer. A cutter looks at the buffer and asks
for more, gives up, or cuts an item. Its answer is final: bytes that arrive later never
change an item or a failure. So the items do not depend on how the input arrived. -/
namespace Dynet.Lib.Framing

inductive Cut where
  | more
  | fail
  | item (length : Nat)
  deriving DecidableEq, Repr

structure Cutter (β : Type) where
  cut : List β → Cut
  progress : ∀ {buffer n}, cut buffer = .item n → 0 < n ∧ n ≤ buffer.length
  stable : ∀ {buffer} (later), cut buffer ≠ .more → cut (buffer ++ later) = cut buffer

structure Drained (β : Type) where
  items : List (List β)
  rest : List β
  failed : Bool
  deriving DecidableEq, Repr

section Drain
variable {β : Type} (cutter : Cutter β)

-- Every item takes a byte, so the bytes of the buffer bound the rounds.
def drainRounds : Nat → List β → Drained β
  | 0, buffer => ⟨[],buffer,false⟩
  | rounds+1, buffer => match cutter.cut buffer with
    | .more => ⟨[],buffer,false⟩
    | .fail => ⟨[],buffer,true⟩
    | .item n =>
      let later := drainRounds rounds (buffer.drop n)
      {later with items := buffer.take n::later.items}

def drain (buffer : List β) : Drained β := drainRounds cutter (buffer.length + 1) buffer

theorem drainRounds_enough (rounds extra : Nat) (buffer : List β) (enough : buffer.length < rounds) :
    drainRounds cutter (rounds + extra) buffer = drainRounds cutter rounds buffer := by
  induction rounds generalizing buffer with
  | zero => omega
  | succ rounds ih =>
    rw [Nat.succ_add,drainRounds,drainRounds]
    cases answer : cutter.cut buffer with
    | more => rfl
    | fail => rfl
    | item n =>
      obtain ⟨positive,inside⟩ := cutter.progress answer
      have shorter : (buffer.drop n).length < rounds := by
        rw [List.length_drop]
        omega
      simp only [ih _ shorter]

theorem drain_more {buffer : List β} (answer : cutter.cut buffer = .more) :
    drain cutter buffer = ⟨[],buffer,false⟩ := by
  rw [drain,drainRounds,answer]

theorem drain_fail {buffer : List β} (answer : cutter.cut buffer = .fail) :
    drain cutter buffer = ⟨[],buffer,true⟩ := by
  rw [drain,drainRounds,answer]

theorem drain_item {buffer : List β} {n : Nat} (answer : cutter.cut buffer = .item n) :
    drain cutter buffer =
      ⟨buffer.take n::(drain cutter (buffer.drop n)).items,(drain cutter (buffer.drop n)).rest,
        (drain cutter (buffer.drop n)).failed⟩ := by
  obtain ⟨positive,inside⟩ := cutter.progress answer
  have length : (buffer.drop n).length + 1 + (n - 1) = buffer.length := by
    rw [List.length_drop]
    omega
  have same := drainRounds_enough cutter ((buffer.drop n).length + 1) (n - 1) (buffer.drop n) (by omega)
  rw [length] at same
  rw [drain,drainRounds,answer]
  simp only [same]
  rfl

/-- Induction along the items of a buffer. -/
theorem drain_induction {motive : List β → Prop}
    (more : ∀ buffer, cutter.cut buffer = .more → motive buffer)
    (fail : ∀ buffer, cutter.cut buffer = .fail → motive buffer)
    (item : ∀ buffer n, cutter.cut buffer = .item n → motive (buffer.drop n) → motive buffer)
    (buffer : List β) : motive buffer := by
  cases answer : cutter.cut buffer with
  | more => exact more buffer answer
  | fail => exact fail buffer answer
  | item n =>
    obtain ⟨positive,inside⟩ := cutter.progress answer
    have : (buffer.drop n).length < buffer.length := by
      rw [List.length_drop]
      omega
    exact item buffer n answer (drain_induction more fail item (buffer.drop n))
termination_by buffer.length

theorem drain_flatten (buffer : List β) :
    (drain cutter buffer).items.flatten ++ (drain cutter buffer).rest = buffer := by
  induction buffer using drain_induction cutter with
  | more buffer answer => simp [drain_more cutter answer]
  | fail buffer answer => simp [drain_fail cutter answer]
  | item buffer n answer ih =>
    rw [drain_item cutter answer,List.flatten_cons,List.append_assoc,ih,List.take_append_drop]

theorem drain_rest (buffer : List β) :
    cutter.cut (drain cutter buffer).rest = if (drain cutter buffer).failed then .fail else .more := by
  induction buffer using drain_induction cutter with
  | more buffer answer => simp [drain_more cutter answer,answer]
  | fail buffer answer => simp [drain_fail cutter answer,answer]
  | item buffer n answer ih =>
    rw [drain_item cutter answer]
    exact ih

/-- Draining what has come and going on with what comes later is draining all of it. -/
theorem drain_append (buffer later : List β) :
    drain cutter (buffer ++ later) =
      {drain cutter ((drain cutter buffer).rest ++ later) with
        items := (drain cutter buffer).items ++ (drain cutter ((drain cutter buffer).rest ++ later)).items} := by
  induction buffer using drain_induction cutter with
  | more buffer answer => simp [drain_more cutter answer]
  | fail buffer answer => simp [drain_fail cutter answer]
  | item buffer n answer ih =>
    obtain ⟨_,inside⟩ := cutter.progress answer
    have extended : cutter.cut (buffer ++ later) = .item n := by
      rw [cutter.stable later (by rw [answer]; exact Cut.noConfusion),answer]
    rw [drain_item cutter extended,drain_item cutter answer,List.drop_append_of_le_length inside,
      List.take_append_of_le_length inside,ih]
    rfl

theorem drain_items_prefix (buffer later : List β) :
    (drain cutter buffer).items <+: (drain cutter (buffer ++ later)).items := by
  rw [drain_append]
  exact List.prefix_append _ _

theorem drain_items {items : List (List β)} (whole : ∀ item ∈ items, cutter.cut item = .item item.length)
    (rest : List β) :
    drain cutter (items.flatten ++ rest) = {drain cutter rest with items := items ++ (drain cutter rest).items} := by
  induction items with
  | nil => rfl
  | cons item items ih =>
    obtain ⟨first,later⟩ := List.forall_mem_cons.mp whole
    have answer : cutter.cut (item ++ (items.flatten ++ rest)) = .item item.length := by
      rw [cutter.stable _ (by rw [first]; exact Cut.noConfusion),first]
    rw [List.flatten_cons,List.append_assoc,drain_item cutter answer,List.drop_left,List.take_left,ih later]
    rfl

/-- A buffer in front of an item: it is a part of the item, or holds it whole. -/
theorem cut_front {item : List β} (whole : cutter.cut item = .item item.length) {buffer later more : List β}
    (stream : buffer ++ later = item ++ more) :
    (buffer.length < item.length ∧ cutter.cut buffer = .more) ∨
    ∃ rest, buffer = item ++ rest ∧ rest ++ later = more ∧ cutter.cut buffer = .item item.length := by
  have decided (extra : List β) : cutter.cut (item ++ extra) = .item item.length := by
    rw [cutter.stable extra (by rw [whole]; exact Cut.noConfusion),whole]
  rcases Nat.lt_or_ge buffer.length item.length with short | long
  · refine .inl ⟨short,?_⟩
    by_contra final
    have same := cutter.stable later final
    rw [stream,decided] at same
    have inside := (cutter.progress same.symm).2
    omega
  · obtain ⟨rest,rfl⟩ : item <+: buffer :=
      List.prefix_of_prefix_length_le (List.prefix_append item more) (stream ▸ List.prefix_append buffer later) long
    rw [List.append_assoc,List.append_cancel_left_eq] at stream
    exact .inr ⟨rest,rfl,stream,decided rest⟩

/-- The items of a stream, as far as it has come. -/
theorem drain_prefix (empty : cutter.cut [] = .more) {items : List (List β)}
    (whole : ∀ item ∈ items, cutter.cut item = .item item.length) {buffer later tail : List β}
    (stream : buffer ++ later = items.flatten ++ tail) (inside : tail = [] ∨ buffer.length < items.flatten.length) :
    ∃ done left part, items = done ++ left ∧ drain cutter buffer = ⟨done,part,false⟩ ∧ cutter.cut part = .more ∧
      part ++ later = left.flatten ++ tail := by
  induction items generalizing buffer with
  | nil =>
    obtain rfl := inside.resolve_right (by simp)
    obtain ⟨rfl,rfl⟩ := List.append_eq_nil_iff.mp stream
    exact ⟨[],[],[],rfl,drain_more cutter empty,empty,rfl⟩
  | cons item items ih =>
    obtain ⟨first,others⟩ := List.forall_mem_cons.mp whole
    rw [List.flatten_cons,List.append_assoc] at stream
    rcases cut_front cutter first stream with ⟨-,more⟩ | ⟨rest,rfl,ahead,cut⟩
    · refine ⟨[],item::items,buffer,rfl,drain_more cutter more,more,?_⟩
      rw [stream,List.flatten_cons,List.append_assoc]
    · have shorter : tail = [] ∨ rest.length < items.flatten.length := by
        refine inside.imp_right fun less => ?_
        rw [List.flatten_cons,List.length_append,List.length_append] at less
        omega
      obtain ⟨done,left,part,rfl,drained,more,tailed⟩ := ih others ahead shorter
      refine ⟨item::done,left,part,rfl,?_,more,tailed⟩
      rw [drain_item cutter cut,List.drop_left,List.take_left,drained]

/-- The items of a stream that arrives in chunks, each drained as it comes. -/
def feed (sofar : Drained β) (chunk : List β) : Drained β :=
  let next := drain cutter (sofar.rest ++ chunk)
  {next with items := sofar.items ++ next.items}

theorem feed_drain (buffer chunk : List β) : feed cutter (drain cutter buffer) chunk = drain cutter (buffer ++ chunk) :=
  (drain_append cutter buffer chunk).symm

end Drain

end Dynet.Lib.Framing
