import Dynet.Lib.StreamEnd
import Mathlib.Data.List.Basic

/-! A stream of an opening and chunks that is cut at any byte, and when its reader tells a
cut at a chunk boundary from one inside a chunk. A reader that takes every early end in
the header of a chunk for a clean one does so exactly outside those headers. -/
namespace Dynet.Lib.StreamReader
open Relay

/-- `greeting` is what the opening carries for the receiver; a chunk is its bytes and its payload. -/
structure Framed where
  opening : List UInt8
  greeting : List UInt8
  chunks : List (List UInt8 × List UInt8)

namespace Framed
variable (f : Framed)

def whole (k : Nat) : List UInt8 := f.opening ++ ((f.chunks.take k).map Prod.fst).flatten

def stream : List UInt8 := f.whole f.chunks.length

def boundary (k : Nat) : Nat := (f.whole k).length

def AtBoundary (cut : Nat) : Prop := ∃ k ≤ f.chunks.length, cut = f.boundary k

/-- The cut leaves some but not all of the first `header` bytes of a chunk. -/
def InsideHeader (header cut : Nat) : Prop := ∃ k < f.chunks.length, f.boundary k < cut ∧ cut < f.boundary k + header

def upTo (k : Nat) : List UInt8 := f.greeting ++ ((f.chunks.take k).map Prod.snd).flatten

def complete (cut : Nat) : Nat := (List.range f.chunks.length).countP fun k => f.boundary (k + 1) ≤ cut

def received (cut : Nat) : List UInt8 := if cut < f.opening.length then [] else f.upTo (f.complete cut)

/-- What is there of the chunk behind the first `k`. -/
def Part (k : Nat) (part : List UInt8) : Prop :=
  part = [] ∨ ∃ chunk, f.chunks[k]? = some chunk ∧ part <+: chunk.1 ∧ part.length < chunk.1.length

variable {f}

theorem whole_zero : f.whole 0 = f.opening := by simp [whole]

theorem whole_succ {k : Nat} {chunk : List UInt8 × List UInt8} (here : f.chunks[k]? = some chunk) :
    f.whole (k + 1) = f.whole k ++ chunk.1 := by
  rw [whole,whole,List.take_add_one,here]
  simp

theorem opening_le_boundary (f : Framed) (k : Nat) : f.opening.length ≤ f.boundary k := by
  rw [boundary,whole,List.length_append]
  exact Nat.le_add_right _ _

theorem opening_le_stream (f : Framed) : f.opening.length ≤ f.stream.length := opening_le_boundary f _

theorem opening_not_inside (f : Framed) (header : Nat) : ¬f.InsideHeader header f.opening.length := by
  rintro ⟨k,-,above,-⟩
  exact absurd above (Nat.not_lt.mpr (opening_le_boundary f k))

theorem boundary_succ {k : Nat} {chunk : List UInt8 × List UInt8} (here : f.chunks[k]? = some chunk) :
    f.boundary (k + 1) = f.boundary k + chunk.1.length := by
  rw [boundary,whole_succ here,List.length_append,boundary]

theorem boundary_zero : f.boundary 0 = f.opening.length := by rw [boundary,whole_zero]

theorem cut_cases (cut : Nat) (nonempty : f.opening.length ≤ cut) (within : cut ≤ f.stream.length) :
    ∃ k part, k ≤ f.chunks.length ∧ f.Part k part ∧ f.stream.take cut = f.whole k ++ part ∧
      cut = f.boundary k + part.length := by
  have upTo (k : Nat) (inside : k ≤ f.chunks.length) (before : cut ≤ f.boundary k) :
      ∃ j part, j ≤ f.chunks.length ∧ f.Part j part ∧ (f.whole k).take cut = f.whole j ++ part ∧
        cut = f.boundary j + part.length := by
    induction k with
    | zero =>
      rw [boundary_zero] at before
      refine ⟨0,[],by omega,.inl rfl,?_,by rw [boundary_zero]; simp; omega⟩
      rw [whole_zero,List.take_of_length_le (by omega),List.append_nil]
    | succ k ih =>
      obtain early | late := Nat.lt_or_ge (f.boundary k) cut
      · obtain ⟨chunk,here⟩ : ∃ chunk, f.chunks[k]? = some chunk := ⟨_,List.getElem?_eq_getElem (by omega)⟩
        rw [boundary_succ here] at before
        obtain full | short := Nat.eq_or_lt_of_le before
        · refine ⟨k + 1,[],inside,.inl rfl,?_,by rw [boundary_succ here,full]; simp⟩
          rw [List.append_nil,List.take_of_length_le]
          change f.boundary (k + 1) ≤ cut
          rw [boundary_succ here]
          omega
        · have bytes : (chunk.1.take (cut - f.boundary k)).length = cut - f.boundary k := by
            rw [List.length_take]
            omega
          refine ⟨k,chunk.1.take (cut - f.boundary k),by omega,.inr ⟨chunk,here,List.take_prefix _ _,by omega⟩,?_,by omega⟩
          rw [whole_succ here,List.take_append,List.take_of_length_le (by exact Nat.le_of_lt early)]
          rfl
      · obtain ⟨j,part,known,piece,same,located⟩ := ih (by omega) late
        refine ⟨j,part,known,piece,?_,located⟩
        obtain ⟨chunk,here⟩ : ∃ chunk, f.chunks[k]? = some chunk := ⟨_,List.getElem?_eq_getElem (by omega)⟩
        rw [whole_succ here,List.take_append_of_le_length late,same]
  exact upTo f.chunks.length (Nat.le_refl _) within

section Positive
variable (filled : ∀ chunk ∈ f.chunks, 0 < chunk.1.length)
include filled

theorem boundary_step {k : Nat} (inside : k < f.chunks.length) : f.boundary k < f.boundary (k + 1) := by
  have here := List.getElem?_eq_getElem inside
  have positive := filled _ (List.getElem_mem inside)
  rw [boundary_succ here]
  omega

theorem boundary_mono {j k : Nat} (order : j ≤ k) (inside : k ≤ f.chunks.length) : f.boundary j ≤ f.boundary k := by
  induction k, order using Nat.le_induction with
  | base => exact Nat.le_refl _
  | succ k _ ih => exact (ih (by omega)).trans (Nat.le_of_lt (boundary_step filled (by omega)))

theorem part_before {k : Nat} {part : List UInt8} (piece : f.Part k part) (inside : k < f.chunks.length) :
    f.boundary k + part.length < f.boundary (k + 1) := by
  obtain rfl | ⟨chunk,here,-,shorter⟩ := piece
  · simpa using boundary_step filled inside
  · rw [boundary_succ here]
    omega

section Located
variable {cut k : Nat} {part : List UInt8} (inside : k ≤ f.chunks.length) (piece : f.Part k part)
  (located : cut = f.boundary k + part.length)
include inside piece located

theorem complete_eq : f.complete cut = k := by
  have counts (i : Nat) (member : i ∈ List.range f.chunks.length) :
      (f.boundary (i + 1) ≤ cut) ↔ i < k := by
    have small := List.mem_range.mp member
    constructor
    · intro done
      by_contra later
      have next := part_before filled piece (by omega)
      have above := boundary_mono filled (j := k + 1) (k := i + 1) (by omega) (by omega)
      omega
    · intro earlier
      have below := boundary_mono filled (j := i + 1) (k := k) (by omega) inside
      omega
  have same : f.complete cut = (List.range f.chunks.length).countP fun i => decide (i < k) :=
    List.countP_congr fun i member => by simpa using counts i member
  rw [same]
  clear same counts piece located
  generalize f.chunks.length = n at inside
  induction n with
  | zero => simp; omega
  | succ n ih =>
    rw [List.range_succ,List.countP_append]
    obtain below | equal := Nat.lt_or_ge n k
    · have all : (List.range n).countP (fun i => decide (i < k)) = n := by
        rw [List.countP_eq_length.mpr fun i member => by have := List.mem_range.mp member; simp; omega,List.length_range]
      simp [all,below]
      omega
    · rw [ih equal]
      simp
      omega

theorem atBoundary_iff : f.AtBoundary cut ↔ part = [] := by
  constructor
  · rintro ⟨j,known,same⟩
    by_contra left
    have nonempty : 0 < part.length := List.length_pos_iff.mpr left
    obtain before | after := Nat.lt_or_ge k j
    · have next := part_before filled piece (by omega)
      have above := boundary_mono filled (j := k + 1) (k := j) before known
      omega
    · have below := boundary_mono filled after inside
      omega
  · rintro rfl
    exact ⟨k,inside,by simpa using located⟩

theorem insideHeader_iff {header : Nat} (headed : ∀ chunk ∈ f.chunks, header ≤ chunk.1.length) :
    f.InsideHeader header cut ↔ part ≠ [] ∧ part.length < header := by
  constructor
  · rintro ⟨j,small,above,below⟩
    have fits : header ≤ (f.chunks[j]).1.length := headed _ (List.getElem_mem small)
    have next := boundary_succ (List.getElem?_eq_getElem small)
    obtain rfl : j = k := by
      by_contra apart
      obtain before | after := Nat.lt_or_ge k j
      · have ends := part_before filled piece (by omega)
        have above := boundary_mono filled (j := k + 1) (k := j) before (by omega)
        omega
      · have earlier := boundary_mono filled (j := j + 1) (k := k) (by omega) inside
        omega
    exact ⟨fun none => by simp [none] at located; omega,by omega⟩
  · rintro ⟨nonempty,short⟩
    have length : 0 < part.length := List.length_pos_iff.mpr nonempty
    obtain rfl | ⟨chunk,here,-,-⟩ := piece
    · exact absurd rfl nonempty
    · exact ⟨k,(List.getElem?_eq_some_iff.mp here).1,by omega,by omega⟩

end Located

end Positive

end Framed

section Reader
variable {σ ε : Type} (start : σ → Reader σ (Except (Stop ε) (List UInt8)))

/-- However the bytes are split before the stream ends, the loop hands on `payload` and
returns as `stop` says. -/
def Ends (init : σ) (bytes payload : List UInt8) (stop : Stop ε) : Prop :=
  ∀ fragments : List (List UInt8), fragments.flatten = bytes →
    (run start (new start init) (fragments.map .read ++ [.eof])).delivered.flatten = payload ∧
      (run start (new start init) (fragments.map .read ++ [.eof])).outcome = some (.error stop)

/-- A stream cut here is reported faithfully: the complete chunks arrive, and the end is
clean exactly at a chunk boundary. -/
def Faithful (init : σ) (f : Framed) (cut : Nat) : Prop :=
  ∀ fragments : List (List UInt8), fragments.flatten = f.stream.take cut →
    let relay := run start (new start init) (fragments.map .read ++ [.eof])
    relay.delivered.flatten = f.received cut ∧
    (relay.outcome = some (.error .closed) ↔ f.AtBoundary cut) ∧
    (¬f.AtBoundary cut → ∃ e, relay.outcome = some (.error (.failed e)))

/-- What a reader does with the cuts of a stream whose chunks begin with `header` bytes. -/
structure Serves (init : σ) (f : Framed) (header : Nat) : Prop where
  opening : ∀ cut < f.opening.length, ∃ e, Ends start init (f.opening.take cut) [] (.failed e)
  chunk : ∀ k part, k ≤ f.chunks.length → f.Part k part →
    ∃ stop, Ends start init (f.whole k ++ part) (f.upTo k) stop ∧ (stop = .closed ↔ part.length < header)
  headed : ∀ chunk ∈ f.chunks, header ≤ chunk.1.length
  positive : 0 < header

variable {start}

theorem ends_of_breaks {init between : σ} {units : List (List UInt8)} {payloads : List (List UInt8)} {part : List UInt8}
    {stop : Stop ε} (reads : Reads start init units payloads between) (breaks : Breaks start between part stop) :
    Ends start init (units.flatten ++ part) payloads.flatten stop := by
  intro fragments whole
  obtain ⟨delivered,outcome⟩ := run_broken start reads breaks whole
  exact ⟨by rw [delivered],outcome⟩

theorem ends_of_chunk {init first : σ} {f : Framed} {greeting : Option (List UInt8)}
    (opens : Completes start init f.opening first greeting) (greets : greeting.toList.flatten = f.greeting)
    {k : Nat} {part : List UInt8} {state : σ} {stop : Stop ε} {payloads : List (List UInt8)}
    (reads : Reads start first ((f.chunks.take k).map Prod.fst) payloads state)
    (same : payloads.flatten = ((f.chunks.take k).map Prod.snd).flatten) (breaks : Breaks start state part stop) :
    Ends start init (f.whole k ++ part) (f.upTo k) stop := by
  have ends := ends_of_breaks (.cons opens reads) breaks
  rwa [List.flatten_cons,List.flatten_append,greets,same] at ends

theorem faithful_iff {init : σ} {f : Framed} {header cut : Nat} (serves : Serves start init f header)
    (within : cut ≤ f.stream.length) : Faithful start init f cut ↔ ¬f.InsideHeader header cut := by
  have filled : ∀ chunk ∈ f.chunks, 0 < chunk.1.length := fun chunk member =>
    serves.positive.trans_le (serves.headed chunk member)
  obtain early | late := Nat.lt_or_ge cut f.opening.length
  · obtain ⟨e,ends⟩ := serves.opening cut early
    have prefixed : f.stream.take cut = f.opening.take cut := by
      rw [Framed.stream,Framed.whole,List.take_append_of_le_length (by omega)]
    have past (k : Nat) (inside : k ≤ f.chunks.length) : f.opening.length ≤ f.boundary k := by
      rw [← Framed.boundary_zero]
      exact Framed.boundary_mono filled (Nat.zero_le k) inside
    have off : ¬f.AtBoundary cut := fun ⟨k,inside,same⟩ => by have := past k inside; omega
    have outside : ¬f.InsideHeader header cut := fun ⟨k,inside,above,_⟩ => by have := past k (by omega); omega
    refine iff_of_true (fun fragments whole => ?_) outside
    obtain ⟨delivered,outcome⟩ := ends fragments (whole.trans prefixed)
    refine ⟨by rw [delivered,Framed.received,if_pos early],?_,fun _ => ⟨e,outcome⟩⟩
    rw [outcome]
    simp [off]
  · obtain ⟨k,part,inside,piece,bytes,located⟩ := Framed.cut_cases cut late within
    obtain ⟨stop,ends,closes⟩ := serves.chunk k part inside piece
    have complete := Framed.complete_eq filled inside piece located
    rw [Framed.insideHeader_iff filled inside piece located serves.headed]
    constructor
    · rintro faithful ⟨nonempty,short⟩
      have whole : ([f.stream.take cut] : List (List UInt8)).flatten = f.stream.take cut := by simp
      obtain ⟨-,clean,-⟩ := faithful _ whole
      obtain ⟨-,outcome⟩ := ends _ (whole.trans bytes)
      rw [Framed.atBoundary_iff filled inside piece located] at clean
      exact nonempty (clean.mp (by rw [outcome,closes.mpr short]))
    · intro outside fragments whole
      obtain ⟨delivered,outcome⟩ := ends fragments (whole.trans bytes)
      have marks : stop = .closed ↔ part = [] := by
        rw [closes]
        constructor
        · intro short
          by_contra nonempty
          exact outside ⟨nonempty,short⟩
        · rintro rfl
          exact serves.positive
      refine ⟨by rw [delivered,Framed.received,if_neg (by omega),complete],?_,?_⟩
      · rw [outcome,Framed.atBoundary_iff filled inside piece located,← marks]
        simp
      · intro off
        rw [Framed.atBoundary_iff filled inside piece located,← marks] at off
        cases stop with
        | closed => exact absurd rfl off
        | failed e => exact ⟨e,outcome⟩

end Reader

end Dynet.Lib.StreamReader
