import Dynet.Dns.Chunked
import Dynet.Lib.Words

/-! A DNS-over-HTTPS response: the connection is read to its end, and the headers say whether
the body is chunked. -/
namespace Dynet.Dns.Https
open Dynet.Lib.Slices Dynet.Lib.Text Dynet.Lib.Utf8 Dynet.Runtime Chunked

section Position
variable {α : Type} [DecidableEq α]

/-- `windows(needle.len()).position(|window| window == needle)`. -/
def position (needle : List α) : List α → Option Nat
  | [] => none
  | x::rest => if needle <+: x::rest then some 0 else (position needle rest).map (· + 1)

theorem position_eq_some_iff {needle : List α} (filled : needle ≠ []) (xs : List α) (n : Nat) : position needle xs = some n ↔
    ∃ front rest, xs = front ++ (needle ++ rest) ∧ front.length = n ∧ ¬needle <:+: front ++ needle.dropLast := by
  have dropped : needle.dropLast.length + 1 = needle.length := by
    rw [List.length_dropLast]
    exact Nat.sub_add_cancel (List.length_pos_iff.mpr filled)
  have unfinished (front rest : List α) : front ++ needle.dropLast <+: front ++ (needle ++ rest) :=
    (List.prefix_append_right_inj front).mpr ((List.dropLast_prefix needle).trans (List.prefix_append _ _))
  induction xs generalizing n with
  | nil => simp [position,filled]
  | cons x xs ih =>
    rw [position]
    split
    · rename_i here
      constructor
      · intro same
        cases same
        obtain ⟨rest,whole⟩ := here
        exact ⟨[],rest,whole.symm,rfl,fun inside => Nat.not_le.mpr (dropped ▸ Nat.lt_succ_self _) inside.length_le⟩
      · rintro ⟨front,rest,split,rfl,first⟩
        cases front with
        | nil => rfl
        | cons y front =>
          rw [split] at here
          have early := List.prefix_of_prefix_length_le here (unfinished (y::front) rest) (by
            rw [List.length_append,List.length_cons]
            omega)
          exact absurd early.isInfix first
    · rename_i other
      rw [Option.map_eq_some_iff]
      constructor
      · rintro ⟨m,found,rfl⟩
        obtain ⟨front,rest,rfl,rfl,first⟩ := (ih m).mp found
        refine ⟨x::front,rest,rfl,rfl,fun inside => ?_⟩
        rcases List.infix_cons_iff.mp inside with early | later
        · exact other (early.trans (unfinished (x::front) rest))
        · exact first later
      · rintro ⟨front,rest,split,rfl,first⟩
        cases front with
        | nil => exact absurd ⟨rest,split.symm⟩ other
        | cons y front =>
          obtain ⟨rfl,later⟩ := List.cons.inj split
          exact ⟨front.length,(ih _).mpr ⟨front,rest,later,rfl,fun inside => first (List.infix_cons inside)⟩,rfl⟩

end Position

def httpHeaderLimit : Nat := 64 * 1024

def blankLine : Bytes := [13,10,13,10]

/-- The first piece of `split("\r\n")`. -/
def statusLine (headers : String) : String :=
  match position ['\r','\n'] headers.toList with
  | some n => String.ofList (headers.toList.take n)
  | none => headers

def hasChunkedTransferEncoding (headers : String) : Bool :=
  (Dynet.Lib.Words.lines headers).any fun line => match splitOnce ':' line.toList with
    | none => false
    | some (name,value) => asciiLowercase (String.ofList name) = "transfer-encoding" &&
      (split ',' (String.ofList value)).any fun part => asciiLowercase (trim isWhitespace part) = "chunked"

section Parser
variable (target : Target) (upstreamId : String) (response : Bytes)

def invalidResponse (rest : String) : DnsResolveError := ⟨s!"invalid DNS-over-HTTPS response{rest}"⟩

def parseHttpsDnsResponse (rounds : Nat) : Guarded DnsResolveError Bytes := do
  let headerEnd ← orElse (invalidResponse s!" from upstream {upstreamId}: missing HTTP headers") (position blankLine response)
  if headerEnd > httpHeaderLimit then throw (invalidResponse s!" from upstream {upstreamId}: headers too large")
  else
    let front ← range response 0 headerEnd
    match fromUtf8 front with
    | none => throw (invalidResponse s!" headers from upstream {upstreamId}: {utf8Error front}")
    | some headers =>
      if contains (statusLine headers) " 200 " then do
        let start ← plus target headerEnd 4
        let body ← range response start response.length
        if hasChunkedTransferEncoding headers then decodeChunkedBody target upstreamId body rounds else pure body
      else throw ⟨s!"DNS-over-HTTPS upstream {upstreamId} returned {debug (statusLine headers)}"⟩

end Parser

/-- The headers of a response that is taken, up to the first blank line. -/
structure Head where
  headers : String
  small : (asBytes headers).length ≤ httpHeaderLimit
  first : ¬blankLine <:+: asBytes headers ++ [13,10,13]
  taken : contains (statusLine headers) " 200 " = true

namespace Head

def bytes (head : Head) : Bytes := asBytes head.headers ++ blankLine

def chunked (head : Head) : Bool := hasChunkedTransferEncoding head.headers

/-- What stands for a body behind the headers. -/
def Carries (head : Head) (body whole : Bytes) : Prop :=
  if head.chunked then ∃ blocks, Blocks body blocks ∧ whole = blocks.flatMap Block.data else whole = body

end Head

theorem Head.position (head : Head) (body : Bytes) :
    position blankLine (head.bytes ++ body) = some (asBytes head.headers).length :=
  (position_eq_some_iff (by decide) _ _).mpr ⟨_,body,List.append_assoc _ _ _,rfl,head.first⟩

theorem Head.unique {head other : Head} {body rest : Bytes} (same : head.bytes ++ body = other.bytes ++ rest) :
    head = other ∧ body = rest := by
  have place := (same ▸ head.position body).symm.trans (other.position rest)
  simp only [Head.bytes,List.append_assoc] at same
  obtain ⟨bytes,later⟩ := List.append_inj same (Option.some.inj place)
  have text := Option.some.inj (((fromUtf8_eq_some_iff _ _).mpr rfl).symm.trans ((fromUtf8_eq_some_iff _ _).mpr bytes))
  cases head
  cases other
  cases text
  exact ⟨rfl,List.append_cancel_left later⟩

section Parser
variable {target : Target} {upstreamId : String} {response : Bytes}

/-- No response panics, and one is taken if and only if it is headers that are taken and what
they say about the body. -/
theorem parse_done (small : response.length < 2 ^ (target.bits - 1)) : ∃ result,
    (∀ extra, parseHttpsDnsResponse target upstreamId response (response.length + 1 + extra) = done result) ∧
    ∀ whole, result = .ok whole ↔ ∃ (head : Head) (body : Bytes), response = head.bytes ++ body ∧ head.Carries body whole := by
  have refused (e : DnsResolveError) (none : ∀ (head : Head) body, response ≠ head.bytes ++ body) (whole : Bytes) :
      .error e = (.ok whole : Except DnsResolveError Bytes) ↔
        ∃ (head : Head) (body : Bytes), response = head.bytes ++ body ∧ head.Carries body whole :=
    iff_of_false (fun impossible => by cases impossible) fun ⟨head,body,split,_⟩ => none head body split
  unfold parseHttpsDnsResponse
  cases found : position blankLine response with
  | none =>
    refine ⟨_,fun _ => rfl,refused _ fun head body split => ?_⟩
    rw [split,head.position] at found
    cases found
  | some n =>
    obtain ⟨front,body,split,sized,first⟩ := (position_eq_some_iff (by decide) _ _).mp found
    have placed (head : Head) (rest : Bytes) (same : response = head.bytes ++ rest) : asBytes head.headers = front ∧ rest = body := by
      have place := found.symm.trans (same ▸ head.position rest)
      rw [split,Head.bytes,List.append_assoc] at same
      obtain ⟨bytes,later⟩ := List.append_inj same (sized.trans (Option.some.inj place))
      exact ⟨bytes.symm,(List.append_cancel_left later).symm⟩
    simp only [orElse,pure_bind]
    split
    · rename_i large
      refine ⟨_,fun _ => rfl,refused _ fun head rest same => ?_⟩
      have small := head.small
      rw [(placed head rest same).1,sized] at small
      exact Nat.not_lt.mpr small large
    rename_i fits
    have halves := target.halves
    have length := congrArg List.length split
    have four : blankLine.length = 4 := rfl
    rw [List.length_append,List.length_append,four] at length
    have head_range (next : Bytes → Guarded DnsResolveError Bytes) : (range response 0 n >>= next) = next front := by
      rw [split]
      exact range_bind [] front (blankLine ++ body) next rfl (by simp [sized])
    have body_range (next : Bytes → Guarded DnsResolveError Bytes) : (range response (n + 4) response.length >>= next) = next body := by
      have shape : response = (front ++ blankLine) ++ (body ++ []) := by simp [split]
      have place : response.length = (front ++ blankLine).length + body.length := by simp [split]; omega
      rw [place,shape]
      exact range_bind _ body [] next (by simp [sized,four]) rfl
    simp only [head_range]
    cases decoded : fromUtf8 front with
    | none =>
      refine ⟨_,fun _ => rfl,refused _ fun head rest same => ?_⟩
      rw [← (placed head rest same).1,(fromUtf8_eq_some_iff _ _).mpr rfl] at decoded
      cases decoded
    | some headers =>
      have text := (fromUtf8_eq_some_iff _ _).mp decoded
      have named (head : Head) (rest : Bytes) (same : response = head.bytes ++ rest) : head.headers = headers ∧ rest = body := by
        obtain ⟨bytes,later⟩ := placed head rest same
        have again := (fromUtf8_eq_some_iff _ _).mpr bytes.symm
        exact ⟨Option.some.inj (again.symm.trans decoded),later⟩
      dsimp only
      split
      · rename_i taken
        have room : n + 4 < 2 ^ target.bits := by omega
        let head : Head := ⟨headers,by rw [← text,sized]; exact Nat.not_lt.mp fits,by rw [← text]; exact first,taken⟩
        have headed : response = head.bytes ++ body := by rw [split,text,Head.bytes,List.append_assoc]
        have meant (result : Except DnsResolveError Bytes) (carries : ∀ whole, result = .ok whole ↔ head.Carries body whole)
            (whole : Bytes) : result = .ok whole ↔
              ∃ (head : Head) (body : Bytes), response = head.bytes ++ body ∧ head.Carries body whole := by
          rw [carries]
          constructor
          · exact fun carried => ⟨head,body,headed,carried⟩
          · rintro ⟨other,rest,same,carried⟩
            obtain ⟨rfl,rfl⟩ := Head.unique (same.symm.trans headed)
            exact carried
        simp only [plus_bind room,body_range]
        split
        · rename_i chunked
          obtain ⟨result,reached,ends⟩ := @decodeLoop_done target upstreamId body (by omega) (body.length + 1) 0
            (Nat.zero_le _) (Nat.lt_succ_self _) []
          refine ⟨result,fun extra => reached _ (by omega),meant result fun whole => ?_⟩
          have chunked : head.chunked = true := chunked
          rw [ends,Head.Carries,if_pos chunked,List.drop_zero]
          rfl
        · rename_i plain
          refine ⟨.ok body,fun _ => rfl,meant _ fun whole => ?_⟩
          have plain : ¬head.chunked = true := plain
          rw [Head.Carries,if_neg plain,Except.ok.injEq,eq_comm]
      · rename_i status
        refine ⟨_,fun _ => rfl,refused _ fun head rest same => ?_⟩
        rw [← (named head rest same).1] at status
        exact status head.taken

end Parser

theorem parse_exact (target : Target) (upstreamId : String) (response : target.Slice) : ∃ result,
    (∀ extra, parseHttpsDnsResponse target upstreamId response.val (response.val.length + 1 + extra) = done result) ∧
    ∀ whole, result = .ok whole ↔ ∃ (head : Head) (body : Bytes), response.val = head.bytes ++ body ∧ head.Carries body whole :=
  parse_done response.property

section Blocks

theorem line_unique {line other rest later : Bytes} (unbroken : ¬crlf <:+: line) (also : ¬crlf <:+: other)
    (same : line ++ (crlf ++ rest) = other ++ (crlf ++ later)) : line = other ∧ rest = later := by
  have first := (crlfPosition_eq_some_iff _ _).mpr ⟨line,rest,same.symm,rfl,unbroken⟩
  have second := (crlfPosition_eq_some_iff _ _).mpr ⟨other,later,rfl,rfl,also⟩
  obtain ⟨front,behind⟩ := List.append_inj same (Option.some.inj (first.symm.trans second))
  exact ⟨front,List.append_cancel_left behind⟩

theorem size_unique {line : Bytes} {n m : Nat} (first : SizeLine line n) (second : SizeLine line m) : n = m := by
  have wide : n < 2 ^ (n + m + 32) ∧ m < 2 ^ (n + m + 32) :=
    ⟨Nat.lt_of_lt_of_le Nat.lt_two_pow_self (Nat.pow_le_pow_right (by decide) (by omega)),
      Nat.lt_of_lt_of_le Nat.lt_two_pow_self (Nat.pow_le_pow_right (by decide) (by omega))⟩
  have read (size : Nat) := chunkSize_ok_iff ⟨n + m + 32,by omega⟩ "" first.unbroken size
  exact Except.ok.inj (((read n).mpr ⟨wide.1,first⟩).symm.trans ((read m).mpr ⟨wide.2,second⟩))

/-- No two lists of blocks share a body. -/
theorem blocks_unique {blocks others : List Block} {last closing rest later : Bytes} (sized : ∀ block ∈ blocks, block.Sized)
    (also : ∀ block ∈ others, block.Sized) (ends : SizeLine last 0) (finishes : SizeLine closing 0)
    (same : blocks.flatMap Block.bytes ++ (last ++ (crlf ++ rest)) = others.flatMap Block.bytes ++ (closing ++ (crlf ++ later))) :
    blocks = others ∧ last = closing ∧ rest = later := by
  have unfinished {block : Block} (sized : block.Sized) {line : Bytes} (ends : SizeLine line 0) : block.line ≠ line := by
    intro same
    have zero := size_unique (same ▸ sized.line) ends
    exact sized.filled (List.eq_nil_of_length_eq_zero zero)
  induction blocks generalizing others with
  | nil =>
    cases others with
    | nil => exact ⟨rfl,line_unique ends.unbroken finishes.unbroken same⟩
    | cons other others =>
      simp only [List.flatMap_nil,List.nil_append,List.flatMap_cons,Block.bytes,List.append_assoc] at same
      have sized := (List.forall_mem_cons.mp also).1
      exact absurd (line_unique ends.unbroken sized.line.unbroken same).1.symm (unfinished sized ends)
  | cons block blocks ih =>
    obtain ⟨blockSized,sized⟩ := List.forall_mem_cons.mp sized
    cases others with
    | nil =>
      simp only [List.flatMap_nil,List.nil_append,List.flatMap_cons,Block.bytes,List.append_assoc] at same
      exact absurd (line_unique blockSized.line.unbroken finishes.unbroken same).1 (unfinished blockSized finishes)
    | cons other others =>
      obtain ⟨otherSized,also⟩ := List.forall_mem_cons.mp also
      simp only [List.flatMap_cons,Block.bytes,List.append_assoc] at same
      obtain ⟨lines,behind⟩ := line_unique blockSized.line.unbroken otherSized.line.unbroken same
      have lengths := size_unique blockSized.line (lines ▸ otherSized.line)
      obtain ⟨datas,tails⟩ := List.append_inj behind lengths
      obtain ⟨rfl,lasts⟩ := ih sized also (List.append_cancel_left tails)
      refine ⟨?_,lasts⟩
      cases block
      cases other
      cases lines
      cases datas
      rfl

/-- A chunked body with its data, and the place behind the line of its last size. -/
def CompleteAt (body whole : Bytes) (place : Nat) : Prop := ∃ (blocks : List Block) (last trailers : Bytes),
  (∀ block ∈ blocks, block.Sized) ∧ SizeLine last 0 ∧
    body = blocks.flatMap Block.bytes ++ (last ++ (crlf ++ trailers)) ∧ whole = blocks.flatMap Block.data ∧
    place = (blocks.flatMap Block.bytes ++ (last ++ crlf)).length

theorem blocks_completeAt {body : Bytes} {blocks : List Block} (listed : Blocks body blocks) :
    ∃ place, CompleteAt body (blocks.flatMap Block.data) place := by
  obtain ⟨sized,last,trailers,ends,split⟩ := listed
  exact ⟨_,blocks,last,trailers,sized,ends,split,rfl,rfl⟩

theorem CompleteAt.unique {body whole other : Bytes} {place elsewhere : Nat} (complete : CompleteAt body whole place)
    (also : CompleteAt body other elsewhere) : place = elsewhere := by
  obtain ⟨blocks,last,trailers,sized,ends,split,-,rfl⟩ := complete
  obtain ⟨others,closing,rest,same,finishes,parted,-,rfl⟩ := also
  obtain ⟨rfl,rfl,-⟩ := blocks_unique sized same ends finishes (split.symm.trans parted)
  rfl

/-- A chunked body that breaks off in front of that place has no blocks, and behind it the
same ones. -/
theorem CompleteAt.take_iff {body whole : Bytes} {place : Nat} (complete : CompleteAt body whole place) (n : Nat)
    (result : Bytes) : (∃ blocks, Blocks (body.take n) blocks ∧ result = blocks.flatMap Block.data) ↔
      place ≤ n ∧ result = whole := by
  obtain ⟨blocks,last,trailers,sized,ends,split,rfl,rfl⟩ := complete
  have shape (rest : Bytes) : blocks.flatMap Block.bytes ++ (last ++ (crlf ++ rest)) =
      blocks.flatMap Block.bytes ++ (last ++ crlf) ++ rest := by
    simp only [List.append_assoc]
  constructor
  · rintro ⟨others,⟨also,closing,rest,finishes,cut⟩,rfl⟩
    have whole := List.take_append_drop n body
    rw [cut,split,List.append_assoc,List.append_assoc,List.append_assoc] at whole
    obtain ⟨rfl,rfl,-⟩ := blocks_unique also sized finishes ends whole
    have front : (others.flatMap Block.bytes ++ (closing ++ crlf)).length ≤ (body.take n).length := by
      rw [cut,shape]
      exact (List.prefix_append _ rest).length_le
    exact ⟨Nat.le_trans front (List.length_take_le _ _),rfl⟩
  · rintro ⟨enough,rfl⟩
    refine ⟨blocks,⟨sized,last,trailers.take (n - (blocks.flatMap Block.bytes ++ (last ++ crlf)).length),ends,?_⟩,rfl⟩
    rw [split,shape,shape,List.take_append,List.take_of_length_le enough]

end Blocks

section Truncation

/-- Wherever a response that is taken breaks off, it is refused in front of the body; a plain
body is taken as far as it goes, and a chunked one only with all of its data. -/
theorem response_truncated (target : Target) (upstreamId : String) (head : Head) (payload whole : Bytes)
    (carries : head.Carries payload whole) (small : (head.bytes ++ payload).length < 2 ^ (target.bits - 1)) (n : Nat) :
    let seen := (head.bytes ++ payload).take n
    let parsed := fun result => ∀ extra, parseHttpsDnsResponse target upstreamId seen (seen.length + 1 + extra) = done result
    (n < head.bytes.length → ∃ e, parsed (.error e)) ∧
    (head.bytes.length ≤ n → head.chunked = false → parsed (.ok (whole.take (n - head.bytes.length)))) ∧
    (head.bytes.length ≤ n → head.chunked = true → ∃ place, CompleteAt payload whole place ∧
      if place ≤ n - head.bytes.length then parsed (.ok whole) else ∃ e, parsed (.error e)) := by
  intro seen parsed
  have short : seen.length < 2 ^ (target.bits - 1) := Nat.lt_of_le_of_lt (by simp [seen]) small
  obtain ⟨result,reached,taken⟩ := @parse_done target upstreamId _ short
  have refused (none : ∀ (other : Head) (body whole : Bytes), seen = other.bytes ++ body → ¬other.Carries body whole) :
      ∃ e, parsed (.error e) := by
    cases result with
    | error e => exact ⟨e,reached⟩
    | ok whole =>
      obtain ⟨other,body,split,carries⟩ := (taken whole).mp rfl
      exact absurd carries (none other body whole split)
  have accepted (body whole : Bytes) (split : seen = head.bytes ++ body) (carries : head.Carries body whole) :
      parsed (.ok whole) := by
    cases (taken whole).mpr ⟨head,body,split,carries⟩
    exact reached
  have cut (enough : head.bytes.length ≤ n) : seen = head.bytes ++ payload.take (n - head.bytes.length) := by
    simp only [seen]
    rw [List.take_append,List.take_of_length_le enough]
  refine ⟨fun early => refused fun other body whole split _ => ?_,fun enough plain => ?_,fun enough chunked => ?_⟩
  · have whole := List.take_append_drop n (head.bytes ++ payload)
    have shape : seen = (head.bytes ++ payload).take n := rfl
    rw [← shape,split,List.append_assoc] at whole
    obtain ⟨rfl,-⟩ := Head.unique whole
    have length := congrArg List.length split
    have most : seen.length ≤ n := List.length_take_le _ _
    rw [List.length_append] at length
    omega
  · have plain : ¬head.chunked = true := by simp [plain]
    rw [Head.Carries,if_neg plain] at carries
    refine accepted _ _ (cut enough) ?_
    rw [Head.Carries,if_neg plain,carries]
  · rw [Head.Carries,if_pos chunked] at carries
    obtain ⟨blocks,listed,rfl⟩ := carries
    obtain ⟨place,complete⟩ := blocks_completeAt listed
    have blocks_iff := complete.take_iff (n - head.bytes.length)
    refine ⟨place,complete,?_⟩
    split
    · rename_i reached
      refine accepted _ _ (cut enough) ?_
      rw [Head.Carries,if_pos chunked]
      exact (blocks_iff _).mpr ⟨reached,rfl⟩
    · rename_i broken
      refine refused fun other body whole split carries => ?_
      obtain ⟨rfl,rfl⟩ := Head.unique (split.symm.trans (cut enough))
      rw [Head.Carries,if_pos chunked] at carries
      exact broken ((blocks_iff _).mp carries).1

theorem sample_head : (asBytes "HTTP/1.1 200 OK").length ≤ httpHeaderLimit ∧
    ¬blankLine <:+: asBytes "HTTP/1.1 200 OK" ++ [13,10,13] ∧ contains (statusLine "HTTP/1.1 200 OK") " 200 " = true := by
  decide +kernel

def sampleHead : Head := ⟨"HTTP/1.1 200 OK",sample_head.1,sample_head.2.1,sample_head.2.2⟩

theorem chunked_head : (asBytes "HTTP/1.1 200 OK\r\nTransfer-Encoding: chunked").length ≤ httpHeaderLimit ∧
    ¬blankLine <:+: asBytes "HTTP/1.1 200 OK\r\nTransfer-Encoding: chunked" ++ [13,10,13] ∧
    contains (statusLine "HTTP/1.1 200 OK\r\nTransfer-Encoding: chunked") " 200 " = true := by
  decide +kernel

def chunkedHead : Head :=
  ⟨"HTTP/1.1 200 OK\r\nTransfer-Encoding: chunked",chunked_head.1,chunked_head.2.1,chunked_head.2.2⟩

theorem sampleHead_reads : sampleHead.bytes.length = 19 ∧ sampleHead.chunked = false := by decide +kernel
theorem chunkedHead_reads : chunkedHead.bytes.length = 47 ∧ chunkedHead.chunked = true := by decide +kernel

-- The size is written with a plus, and trailers follow the last one.
def chunkedBody : Bytes := asBytes "+2\r\nab\r\n0\r\n\r\n"

theorem chunkedBody_complete : CompleteAt chunkedBody (asBytes "ab") 11 := by
  have digit (c : Char) {n : Nat} (known : Lib.Radix.toDigit 16 c = some n) : Lib.Radix.Digits 16 [c] n := by
    refine ⟨List.cons_ne_nil _ _,fun other member => ?_,by simp [Lib.Radix.numeral,known]⟩
    rw [List.mem_singleton.mp member,known]
    rfl
  have two : SizeLine (asBytes "+2") 2 := ⟨⟨['+'],['2'],[],by decide,.inr rfl,digit '2' rfl,.inl rfl⟩,by decide⟩
  have zero : SizeLine (asBytes "0") 0 := ⟨⟨[],['0'],[],by decide,.inl rfl,digit '0' rfl,.inl rfl⟩,by decide⟩
  refine ⟨[⟨asBytes "+2",asBytes "ab"⟩],asBytes "0",crlf,?_,zero,by decide,by decide,by decide⟩
  intro block member
  cases List.mem_singleton.mp member
  exact ⟨by decide,two⟩

theorem chunkedHead_carries : chunkedHead.Carries chunkedBody (asBytes "ab") := by
  obtain ⟨blocks,last,trailers,sized,ends,split,data,-⟩ := chunkedBody_complete
  rw [Head.Carries,if_pos chunkedHead_reads.2]
  exact ⟨blocks,⟨sized,last,trailers,ends,split⟩,data⟩

theorem response_truncated_sample :
    (∀ extra, parseHttpsDnsResponse ⟨64,by decide⟩ "doh" ((sampleHead.bytes ++ [1,2,3,4]).take 21)
      (((sampleHead.bytes ++ [1,2,3,4]).take 21).length + 1 + extra) = done (.ok [1,2])) ∧
    (∀ extra, parseHttpsDnsResponse ⟨64,by decide⟩ "doh" ((chunkedHead.bytes ++ chunkedBody).take 58)
      (((chunkedHead.bytes ++ chunkedBody).take 58).length + 1 + extra) = done (.ok (asBytes "ab"))) ∧
    ∃ e, ∀ extra, parseHttpsDnsResponse ⟨64,by decide⟩ "doh" ((chunkedHead.bytes ++ chunkedBody).take 57)
      (((chunkedHead.bytes ++ chunkedBody).take 57).length + 1 + extra) = done (.error e) := by
  obtain ⟨length,plain⟩ := sampleHead_reads
  have carries : sampleHead.Carries [1,2,3,4] [1,2,3,4] := by
    rw [Head.Carries,if_neg (by rw [plain]; decide)]
  obtain ⟨chunkedLength,chunked⟩ := chunkedHead_reads
  have small : (chunkedHead.bytes ++ chunkedBody).length < 2 ^ (64 - 1) := by
    rw [List.length_append,chunkedLength]
    decide
  have cut (n : Nat) (enough : 47 ≤ n) :=
    (response_truncated ⟨64,by decide⟩ "doh" chunkedHead chunkedBody _ chunkedHead_carries small n).2.2
      (chunkedLength ▸ enough) chunked
  obtain ⟨place,complete,whole⟩ := cut 58 (by decide)
  obtain ⟨elsewhere,also,broken⟩ := cut 57 (by decide)
  rw [complete.unique chunkedBody_complete,chunkedLength,if_pos (by decide)] at whole
  rw [also.unique chunkedBody_complete,chunkedLength,if_neg (by decide)] at broken
  refine ⟨?_,whole,broken⟩
  have taken := (response_truncated ⟨64,by decide⟩ "doh" sampleHead [1,2,3,4] _ carries
    (by rw [List.length_append,length]; decide) 21).2.1 (by omega) plain
  rw [length] at taken
  exact taken

end Truncation

end Dynet.Dns.Https
