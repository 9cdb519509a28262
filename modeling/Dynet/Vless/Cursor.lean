import Dynet.Lib.Slices
import Dynet.Vless.BufReader

/-! The reads of the cursor once more, as the accesses to the slice and the sums of `usize`
that they are made of, where one that goes wrong is a panic. -/
namespace Dynet.Vless.Cursor
open Dynet.Lib.Slices BufReader

abbrev CursorM := StateT BufReader (Guarded IoError)

section Reads
variable (target : Target)

def position : CursorM Nat := fun reader => pure (reader.pos,reader)

def remaining : CursorM Nat := fun reader => do
  let left ← minus reader.buf.length reader.pos
  return (left,reader)

def isConsumed : CursorM Bool := fun reader => pure (reader.pos == reader.buf.length,reader)

def readU8 : CursorM UInt8 := fun reader => do
  if reader.pos ≥ reader.buf.length then throw readPastEnd
  let value ← index reader.buf reader.pos
  let pos ← plus target reader.pos 1
  return (value,⟨reader.buf,pos⟩)

def readU16Be : CursorM Nat := fun reader => do
  let last ← plus target reader.pos 1
  if last ≥ reader.buf.length then throw readPastEnd
  let high ← index reader.buf reader.pos
  let low ← index reader.buf last
  let pos ← plus target reader.pos 2
  return (be16 high low,⟨reader.buf,pos⟩)

def readU24Be : CursorM Nat := fun reader => do
  let last ← plus target reader.pos 2
  if last ≥ reader.buf.length then throw readPastEnd
  let high ← index reader.buf reader.pos
  let middle ← plus target reader.pos 1
  let mid ← index reader.buf middle
  let low ← index reader.buf last
  let pos ← plus target reader.pos 3
  return (be24 high mid low,⟨reader.buf,pos⟩)

def readSlice (len : Nat) : CursorM Bytes := fun reader => do
  let stop ← plus target reader.pos len
  if stop > reader.buf.length then throw readPastEnd
  let slice ← range reader.buf reader.pos stop
  return (slice,⟨reader.buf,stop⟩)

def skip (amount : Nat) : CursorM Unit := fun reader => do
  let stop ← plus target reader.pos amount
  if stop > reader.buf.length then throw readPastEnd
  return ((),⟨reader.buf,stop⟩)

def run {α : Type} (read : CursorM α) (buf : Bytes) : Guarded IoError α := (·.1) <$> read (BufReader.new buf)

end Reads

/-! Inside of a slice none of them panics, and each does what the read of the model does. -/
section Agreement
variable {target : Target} {buf : Bytes} {α β : Type}

structure Inside (buf : Bytes) (reader : BufReader) : Prop where
  same : reader.buf = buf
  within : reader.pos ≤ buf.length

theorem inside_new (buf : Bytes) : Inside buf (BufReader.new buf) := ⟨rfl,Nat.zero_le _⟩

/-- From this reader on the read does not panic and does what the one of the model does; what
it returns is as `holds` says, and the cursor moves on by `least` bytes or more. -/
structure AgreesAt (reader : BufReader) (read : CursorM α) (model : ReadM α) (least : Nat) (holds : α → Prop) : Prop where
  same : read reader = done (model reader)
  ends : ∀ value after, model reader = .ok (value,after) →
    holds value ∧ Inside reader.buf after ∧ reader.pos + least ≤ after.pos

def Agrees (buf : Bytes) (read : CursorM α) (model : ReadM α) (least : Nat) (holds : α → Prop) : Prop :=
  ∀ reader, Inside buf reader → AgreesAt reader read model least holds

theorem AgreesAt.bind {reader : BufReader} {read : CursorM α} {model : ReadM α} {holds : α → Prop} {next : α → CursorM β}
    {modelNext : α → ReadM β} {later : β → Prop} {least more : Nat} (first : AgreesAt reader read model least holds)
    (second : ∀ value after, holds value → Inside reader.buf after → reader.pos + least ≤ after.pos →
      AgreesAt after (next value) (modelNext value) more later) :
    AgreesAt reader (read >>= next) (model >>= modelNext) (least + more) later := by
  have start : (read >>= next) reader = (read reader >>= fun pair => next pair.1 pair.2) := rfl
  have modelStart : (model >>= modelNext) reader = (model reader >>= fun pair => modelNext pair.1 pair.2) := rfl
  cases result : model reader with
  | error error =>
    rw [result] at modelStart
    refine ⟨by rw [start,modelStart,first.same,result]; rfl,fun _ _ reached => ?_⟩
    rw [modelStart] at reached
    cases reached
  | ok pair =>
    obtain ⟨held,inside,moved⟩ := first.ends pair.1 pair.2 result
    have tail := second pair.1 pair.2 held inside moved
    rw [result] at modelStart
    refine ⟨by rw [start,modelStart,first.same,result]; exact tail.same,fun value after reached => ?_⟩
    rw [modelStart] at reached
    obtain ⟨ends,inner,further⟩ := tail.ends value after reached
    rw [inside.same] at inner
    exact ⟨ends,inner,by omega⟩

theorem Agrees.bind {read : CursorM α} {model : ReadM α} {holds : α → Prop} {next : α → CursorM β}
    {modelNext : α → ReadM β} {later : β → Prop} {least m : Nat} (first : Agrees buf read model least holds)
    (second : ∀ value, holds value → Agrees buf (next value) (modelNext value) m later) :
    Agrees buf (read >>= next) (model >>= modelNext) (least + m) later := by
  intro reader inside
  refine (first reader inside).bind fun value after held still _ => second value held after ?_
  exact inside.same ▸ still

-- Where only the outcome matters, not how far the cursor has moved.
theorem AgreesAt.seq {reader : BufReader} {read : CursorM α} {model : ReadM α} {holds : α → Prop} {next : α → CursorM β}
    {modelNext : α → ReadM β} {later : β → Prop} {least : Nat} (first : AgreesAt reader read model least holds)
    (second : ∀ value after, holds value → Inside reader.buf after → reader.pos + least ≤ after.pos →
      AgreesAt after (next value) (modelNext value) 0 later) :
    AgreesAt reader (read >>= next) (model >>= modelNext) 0 later := by
  have joined := first.bind second
  refine ⟨joined.same,fun value after reached => ?_⟩
  obtain ⟨held,still,moved⟩ := joined.ends value after reached
  exact ⟨held,still,by omega⟩

theorem Agrees.seq {read : CursorM α} {model : ReadM α} {holds : α → Prop} {next : α → CursorM β}
    {modelNext : α → ReadM β} {later : β → Prop} {least : Nat} (first : Agrees buf read model least holds)
    (second : ∀ value, holds value → Agrees buf (next value) (modelNext value) 0 later) :
    Agrees buf (read >>= next) (model >>= modelNext) 0 later := by
  intro reader inside
  refine (first reader inside).seq fun value after held still _ => second value held after ?_
  exact inside.same ▸ still

theorem Agrees.ite {c : Prop} [Decidable c] {yes no : CursorM α} {modelYes modelNo : ReadM α} {least : Nat} {holds : α → Prop}
    (when : c → Agrees buf yes modelYes least holds) (otherwise : ¬c → Agrees buf no modelNo least holds) :
    Agrees buf (if c then yes else no) (if c then modelYes else modelNo) least holds := by
  split
  · rename_i yes
    exact when yes
  · rename_i no
    exact otherwise no

theorem AgreesAt.pure {reader : BufReader} (inside : Inside buf reader) (value : α) {holds : α → Prop} (held : holds value) :
    AgreesAt reader (pure value) (pure value) 0 holds := by
  refine ⟨rfl,fun _ _ same => ?_⟩
  cases same
  exact ⟨held,⟨rfl,inside.same ▸ inside.within⟩,Nat.le_refl _⟩

theorem AgreesAt.throw (reader : BufReader) (error : IoError) (least : Nat) (holds : α → Prop) :
    AgreesAt reader (throw error) (throw error) least holds := by
  refine ⟨rfl,fun _ _ impossible => ?_⟩
  cases impossible

theorem Agrees.pure (value : α) {holds : α → Prop} (held : holds value) :
    Agrees buf (pure value) (pure value) 0 holds := fun _ inside => AgreesAt.pure inside value held

theorem Agrees.throw (error : IoError) (least : Nat) (holds : α → Prop) :
    Agrees buf (throw error) (throw error) least holds := fun _ _ => AgreesAt.throw _ error least holds

theorem Agrees.refuse {c : Prop} [Decidable c] {error : IoError} {next : α → CursorM β} {modelNext : α → ReadM β}
    {no : CursorM β} {modelNo : ReadM β} {least : Nat} {holds : β → Prop} (otherwise : ¬c → Agrees buf no modelNo least holds) :
    Agrees buf (if c then MonadExcept.throw error >>= next else no) (if c then MonadExcept.throw error >>= modelNext else modelNo)
      least holds :=
  .ite (fun _ _ _ => ⟨rfl,fun _ _ impossible => nomatch impossible⟩) otherwise

theorem Agrees.lift {read : Guarded IoError α} {model : Except IoError α} (same : read = done model) :
    Agrees buf (StateT.lift read) (StateT.lift model) 0 (fun _ => True) := by
  intro reader inside
  subst same
  cases model with
  | error error => exact AgreesAt.throw reader error 0 _
  | ok value => exact AgreesAt.pure inside value trivial

theorem agrees_ended {read : CursorM α} {model : ReadM α} {least : Nat} {holds : α → Prop}
    (ended : ∀ pos ≤ buf.length, (read ⟨buf,pos⟩ = done (.error readPastEnd) ∧ model ⟨buf,pos⟩ = .error readPastEnd) ∨
      ∃ value after, read ⟨buf,pos⟩ = done (.ok (value,⟨buf,after⟩)) ∧ model ⟨buf,pos⟩ = .ok (value,⟨buf,after⟩) ∧
        holds value ∧ pos + least ≤ after ∧ after ≤ buf.length) : Agrees buf read model least holds := by
  rintro ⟨_,pos⟩ ⟨rfl,within⟩
  obtain ⟨raw,refused⟩ | ⟨value,after,raw,made,held,moved,fits⟩ := ended pos within
  · refine ⟨by rw [raw,refused],fun _ _ reached => ?_⟩
    rw [refused] at reached
    cases reached
  · refine ⟨by rw [raw,made],fun _ _ reached => ?_⟩
    rw [made] at reached
    cases reached
    exact ⟨held,⟨rfl,fits⟩,moved⟩

theorem readSlice_past {pos len : Nat} (past : pos + len > buf.length) :
    BufReader.readSlice len ⟨buf,pos⟩ = .error readPastEnd := by
  change (if pos + len > buf.length then (_ : ReadM Bytes) else _) _ = _
  rw [if_pos past]
  rfl

theorem readSlice_inside {pos len : Nat} (fits : pos + len ≤ buf.length) :
    BufReader.readSlice len ⟨buf,pos⟩ = .ok ((buf.drop pos).take len,⟨buf,pos + len⟩) := by
  change (if pos + len > buf.length then (_ : ReadM Bytes) else _) _ = _
  rw [if_neg (Nat.not_lt.2 fits)]
  rfl

theorem agrees_remaining : Agrees buf remaining BufReader.remaining 0 (· ≤ buf.length) := by
  rintro ⟨_,pos⟩ ⟨rfl,within⟩
  refine ⟨minus_bind within _,fun _ _ same => ?_⟩
  cases same
  exact ⟨Nat.sub_le _ _,⟨rfl,within⟩,Nat.le_refl _⟩

theorem agrees_position : Agrees buf position BufReader.position 0 (· ≤ buf.length) := by
  rintro ⟨_,pos⟩ ⟨rfl,within⟩
  refine ⟨rfl,fun _ _ same => ?_⟩
  cases same
  exact ⟨within,⟨rfl,within⟩,Nat.le_refl _⟩

theorem agrees_isConsumed : Agrees buf isConsumed BufReader.isConsumed 0 (fun _ => True) := by
  rintro ⟨_,pos⟩ ⟨rfl,within⟩
  refine ⟨rfl,fun _ _ same => ?_⟩
  cases same
  exact ⟨trivial,⟨rfl,within⟩,Nat.le_refl _⟩

theorem Agrees.run {read : CursorM α} {model : ReadM α} {least : Nat} {holds : α → Prop} (agrees : Agrees buf read model least holds) :
    Cursor.run read buf = done (BufReader.run model buf) := by
  rw [Cursor.run,BufReader.run,(agrees _ (inside_new buf)).same]
  cases model (BufReader.new buf) <;> rfl

variable (small : buf.length < 2 ^ (target.bits - 1))
include small

theorem agrees_readSlice {len : Nat} (short : len < 65536) :
    Agrees buf (readSlice target len) (BufReader.readSlice len) len (·.length = len) := by
  refine agrees_ended fun pos within => ?_
  have halves := target.halves
  rw [readSlice,plus_bind (by dsimp only; omega)]
  by_cases past : pos + len > buf.length
  · exact .inl ⟨by rw [if_pos past]; rfl,readSlice_past past⟩
  · refine .inr ⟨_,pos + len,?_,readSlice_inside (Nat.not_lt.1 past),?_,Nat.le_refl _,Nat.not_lt.1 past⟩
    · rw [if_neg past,range,if_pos ⟨Nat.le_add_right _ _,Nat.not_lt.1 past⟩,Nat.add_sub_cancel_left]
      rfl
    · rw [List.length_take,List.length_drop]
      omega

theorem agrees_skip {amount : Nat} (short : amount < 65536) :
    Agrees buf (skip target amount) (BufReader.skip amount) amount (fun _ => True) := by
  refine agrees_ended fun pos within => ?_
  have halves := target.halves
  rw [skip,plus_bind (by dsimp only; omega)]
  by_cases past : pos + amount > buf.length
  · refine .inl ⟨by rw [if_pos past]; rfl,?_⟩
    change (BufReader.readSlice amount ⟨buf,pos⟩ >>= _) = _
    rw [readSlice_past past]
    rfl
  · refine .inr ⟨(),pos + amount,by rw [if_neg past]; rfl,?_,trivial,Nat.le_refl _,Nat.not_lt.1 past⟩
    change (BufReader.readSlice amount ⟨buf,pos⟩ >>= _) = _
    rw [readSlice_inside (Nat.not_lt.1 past)]
    rfl

theorem agrees_readU8 : Agrees buf (readU8 target) BufReader.readU8 1 (fun _ => True) := by
  refine agrees_ended fun pos within => ?_
  have halves := target.halves
  rw [readU8]
  by_cases past : pos ≥ buf.length
  · refine .inl ⟨by rw [if_pos past]; rfl,?_⟩
    change (BufReader.readSlice 1 ⟨buf,pos⟩ >>= _) = _
    rw [readSlice_past (by omega)]
    rfl
  · have first : pos < buf.length := Nat.not_le.1 past
    refine .inr ⟨buf[pos],pos + 1,?_,?_,trivial,Nat.le_refl _,first⟩
    · rw [if_neg past]
      exact (index_bind (List.getElem?_eq_getElem first) _).trans (plus_bind (by dsimp only; omega) _)
    · change (BufReader.readSlice 1 ⟨buf,pos⟩ >>= _) = _
      rw [readSlice_inside first,List.drop_eq_getElem_cons first]
      rfl

theorem agrees_readU16Be : Agrees buf (readU16Be target) BufReader.readU16Be 2 (· < 65536) := by
  refine agrees_ended fun pos within => ?_
  have halves := target.halves
  rw [readU16Be,plus_bind (by dsimp only; omega)]
  by_cases past : pos + 1 ≥ buf.length
  · refine .inl ⟨by rw [if_pos past]; rfl,?_⟩
    change (BufReader.readSlice 2 ⟨buf,pos⟩ >>= _) = _
    rw [readSlice_past (by omega)]
    rfl
  · have second : pos + 1 < buf.length := Nat.not_le.1 past
    have first : pos < buf.length := by omega
    refine .inr ⟨be16 buf[pos] buf[pos + 1],pos + 2,?_,?_,?_,Nat.le_refl _,second⟩
    · rw [if_neg past]
      exact (index_bind (List.getElem?_eq_getElem first) _).trans
        ((index_bind (List.getElem?_eq_getElem second) _).trans (plus_bind (by dsimp only; omega) _))
    · change (BufReader.readSlice 2 ⟨buf,pos⟩ >>= _) = _
      rw [readSlice_inside second,List.drop_eq_getElem_cons first,List.drop_eq_getElem_cons second]
      rfl
    · have high := buf[pos].toNat_lt
      have low := buf[pos + 1].toNat_lt
      rw [be16]
      omega

theorem agrees_readU24Be : Agrees buf (readU24Be target) BufReader.readU24Be 3 (fun _ => True) := by
  refine agrees_ended fun pos within => ?_
  have halves := target.halves
  rw [readU24Be,plus_bind (by dsimp only; omega)]
  by_cases past : pos + 2 ≥ buf.length
  · refine .inl ⟨by rw [if_pos past]; rfl,?_⟩
    change (BufReader.readSlice 3 ⟨buf,pos⟩ >>= _) = _
    rw [readSlice_past (by omega)]
    rfl
  · have third : pos + 2 < buf.length := Nat.not_le.1 past
    have second : pos + 1 < buf.length := by omega
    have first : pos < buf.length := by omega
    refine .inr ⟨be24 buf[pos] buf[pos + 1] buf[pos + 2],pos + 3,?_,?_,trivial,Nat.le_refl _,third⟩
    · rw [if_neg past]
      exact (index_bind (List.getElem?_eq_getElem first) _).trans ((plus_bind (by dsimp only; omega) _).trans
        ((index_bind (List.getElem?_eq_getElem second) _).trans
          ((index_bind (List.getElem?_eq_getElem third) _).trans (plus_bind (by dsimp only; omega) _))))
    · change (BufReader.readSlice 3 ⟨buf,pos⟩ >>= _) = _
      rw [readSlice_inside third,List.drop_eq_getElem_cons first,List.drop_eq_getElem_cons second,
        List.drop_eq_getElem_cons third]
      rfl

end Agreement

end Dynet.Vless.Cursor
