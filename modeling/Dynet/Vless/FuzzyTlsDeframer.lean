import Dynet.Vless.TlsDeframer

/-! The search for an inner TLS stream behind bytes of another protocol. Every prefix
that is handed on is known not to meet a handshake header, whatever comes next, so the
records that follow do not depend on where the stream was cut. -/
namespace Dynet.Vless
open Dynet.Lib.Framing

def minTlsHandshakePatternLen : Nat := 6

def isValidTlsHandshakePrefix : Bytes → Bool
  | [] => true
  | [recordType] => recordType == 0x16
  | [recordType,major] => recordType == 0x16 && major == 3
  | recordType::major::minor::_ => recordType == 0x16 && major == 3 && 1 ≤ minor && minor ≤ 3

-- `memmem::Finder` for the two bytes every handshake record starts with.
def findPair : Bytes → Option Nat
  | first::second::rest =>
    if first = 0x16 ∧ second = 3 then some 0 else (findPair (second::rest)).map (· + 1)
  | _ => none

def isHello : Bytes → Bool
  | _::_::minor::_::_::kind::_ => 1 ≤ minor && minor ≤ 3 && (kind == 1 || kind == 2)
  | _ => false

def searchFrom (data : Bytes) : Nat → Nat → Option Nat
  | 0, _ => none
  | rounds+1, pos => match findPair (data.drop pos) with
    | none => none
    | some offset =>
      let absolute := pos + offset
      if absolute + minTlsHandshakePatternLen > data.length then none
      else if isHello (data.drop absolute) then some absolute
      else searchFrom data rounds (absolute + 1)

def findTlsHandshakeStart (data : Bytes) : Option Nat :=
  if data.length < minTlsHandshakePatternLen then none else searchFrom data (data.length + 1) 0

-- The `for` loop over suffix lengths, from the given one down.
def suffixLenFrom (data : Bytes) : Nat → Nat
  | 0 => 0
  | n+1 => if isValidTlsHandshakePrefix (data.drop (data.length - (n+1))) then n+1 else suffixLenFrom data n

def findPotentialTlsSuffixLen (data : Bytes) : Nat := suffixLenFrom data (min data.length 5)

inductive DeframeResult where
  | tlsRecord (record : Bytes)
  | unknownPrefix (bytes : Bytes)
  | needData
  deriving DecidableEq, Repr

inductive FuzzyState where
  | searching
  | deframing
  deriving DecidableEq, Repr

structure FuzzyTlsDeframer where
  inner : TlsDeframer
  searchBuffer : Bytes
  state : FuzzyState
  deriving DecidableEq, Repr

namespace FuzzyTlsDeframer

def new : FuzzyTlsDeframer := ⟨.new,[],.searching⟩

def feed (deframer : FuzzyTlsDeframer) (data : Bytes) : FuzzyTlsDeframer :=
  match deframer.state with
  | .searching => {deframer with searchBuffer := deframer.searchBuffer ++ data}
  | .deframing => {deframer with inner := deframer.inner.feed data}

-- The `Deframing` arm: the inner deframer answers.
def deframe (inner : TlsDeframer) (searchBuffer : Bytes) : Except IoError DeframeResult × FuzzyTlsDeframer :=
  match inner.nextRecord with
  | (.ok (some record),inner) => (.ok (.tlsRecord record),⟨inner,searchBuffer,.deframing⟩)
  | (.ok none,inner) => (.ok .needData,⟨inner,searchBuffer,.deframing⟩)
  | (.error e,inner) => (.error e,⟨inner,searchBuffer,.deframing⟩)

-- Hands on the front of the search buffer; what might grow into a header stays.
def release (deframer : FuzzyTlsDeframer) : Except IoError DeframeResult × FuzzyTlsDeframer :=
  let suffixLen := findPotentialTlsSuffixLen deframer.searchBuffer
  if suffixLen < deframer.searchBuffer.length then
    let prefixLen := deframer.searchBuffer.length - suffixLen
    (.ok (.unknownPrefix (deframer.searchBuffer.take prefixLen)),
      {deframer with searchBuffer := deframer.searchBuffer.drop prefixLen})
  else (.ok .needData,deframer)

def search (deframer : FuzzyTlsDeframer) : Except IoError DeframeResult × FuzzyTlsDeframer :=
  if deframer.searchBuffer = [] then (.ok .needData,deframer)
  else if deframer.searchBuffer.length ≥ minTlsHandshakePatternLen then
    match findTlsHandshakeStart deframer.searchBuffer with
    | none => release deframer
    | some offset =>
      if offset > 0 then
        (.ok (.unknownPrefix (deframer.searchBuffer.take offset)),
          ⟨deframer.inner.feed (deframer.searchBuffer.drop offset),[],.deframing⟩)
      else deframe (deframer.inner.feed deframer.searchBuffer) []
  else release deframer

def nextRecord (deframer : FuzzyTlsDeframer) : Except IoError DeframeResult × FuzzyTlsDeframer :=
  match deframer.state with
  | .searching => search deframer
  | .deframing => deframe deframer.inner deframer.searchBuffer

def pendingBytes (deframer : FuzzyTlsDeframer) : Nat :=
  match deframer.state with
  | .searching => deframer.searchBuffer.length
  | .deframing => deframer.inner.pendingBytes

def remainingData (deframer : FuzzyTlsDeframer) : Bytes :=
  match deframer.state with
  | .searching => deframer.searchBuffer
  | .deframing => deframer.inner.remainingData

def clear (deframer : FuzzyTlsDeframer) : FuzzyTlsDeframer := ⟨deframer.inner.clear,[],.searching⟩

def deallocate (deframer : FuzzyTlsDeframer) : FuzzyTlsDeframer :=
  ⟨deframer.inner.deallocate,[],deframer.state⟩

end FuzzyTlsDeframer

/-- A complete ClientHello or ServerHello header at a position of the data. -/
def HeaderAt (data : Bytes) (position : Nat) : Prop :=
  ∃ minor high low kind rest, data.drop position = 0x16::3::minor::high::low::kind::rest ∧
    (1 ≤ minor ∧ minor ≤ 3) ∧ (kind = 1 ∨ kind = 2)

theorem HeaderAt.length {data : Bytes} {position : Nat} (header : HeaderAt data position) :
    position + 6 ≤ data.length := by
  obtain ⟨minor,high,low,kind,rest,bytes,_⟩ := header
  have lengths := congrArg List.length bytes
  simp only [List.length_drop,List.length_cons] at lengths
  omega

theorem HeaderAt.append {data : Bytes} {position : Nat} (header : HeaderAt data position) (later : Bytes) :
    HeaderAt (data ++ later) position := by
  have inside := header.length
  obtain ⟨minor,high,low,kind,rest,bytes,versions,kinds⟩ := header
  refine ⟨minor,high,low,kind,rest ++ later,?_,versions,kinds⟩
  rw [List.drop_append_of_le_length (by omega),bytes]
  rfl

theorem HeaderAt.of_append {data later : Bytes} {position : Nat} (header : HeaderAt (data ++ later) position)
    (inside : position + 6 ≤ data.length) : HeaderAt data position := by
  obtain ⟨minor,high,low,kind,rest,bytes,versions,kinds⟩ := header
  rw [List.drop_append_of_le_length (by omega)] at bytes
  have long : 6 ≤ (data.drop position).length := by
    rw [List.length_drop]
    omega
  match found : data.drop position, long with
  | a::b::c::d::e::f::tail, _ =>
    rw [found] at bytes
    simp only [List.cons_append,List.cons.injEq] at bytes
    obtain ⟨rfl,rfl,rfl,rfl,rfl,rfl,_⟩ := bytes
    exact ⟨_,_,_,_,tail,found,versions,kinds⟩

theorem HeaderAt.drop_append (front data : Bytes) (position : Nat) :
    HeaderAt (front ++ data) (front.length + position) ↔ HeaderAt data position := by
  simp only [HeaderAt,List.drop_append,List.drop_eq_nil_of_le (Nat.le_add_right _ _),Nat.add_sub_cancel_left,
    List.nil_append]

def PairAt (data : Bytes) (position : Nat) : Prop := ∃ rest, data.drop position = 0x16::3::rest

theorem HeaderAt.pair {data : Bytes} {position : Nat} (header : HeaderAt data position) : PairAt data position := by
  obtain ⟨_,_,_,_,_,bytes,_⟩ := header
  exact ⟨_,bytes⟩

/-- An answer to a search: the first position that fits, or that none does. -/
def Locates (fits : Nat → Prop) : Option Nat → Prop
  | some found => fits found ∧ ∀ earlier < found, ¬ fits earlier
  | none => ∀ position, ¬ fits position

theorem findPair_locates (data : Bytes) : Locates (PairAt data) (findPair data) := by
  induction data with
  | nil => simp [findPair,PairAt,Locates]
  | cons first rest ih =>
    cases rest with
    | nil =>
      rintro position ⟨tail,bytes⟩
      cases position with
      | zero => simp at bytes
      | succ position => simp at bytes
    | cons second rest =>
      rw [findPair]
      by_cases pair : first = 0x16 ∧ second = 3
      · rw [if_pos pair]
        obtain ⟨rfl,rfl⟩ := pair
        exact ⟨⟨rest,rfl⟩,by simp⟩
      · rw [if_neg pair]
        have front : ¬ PairAt (first::second::rest) 0 := by
          rintro ⟨tail,bytes⟩
          simp only [List.drop_zero,List.cons.injEq] at bytes
          exact pair ⟨bytes.1,bytes.2.1⟩
        cases found : findPair (second::rest) with
        | none =>
          rw [found] at ih
          intro position
          cases position with
          | zero => exact front
          | succ position => exact ih position
        | some k =>
          rw [found] at ih
          refine ⟨ih.1,?_⟩
          intro earlier before
          cases earlier with
          | zero => exact front
          | succ earlier => exact ih.2 earlier (Nat.lt_of_succ_lt_succ before)

theorem isHello_iff {data : Bytes} {position : Nat} (pair : PairAt data position)
    (inside : position + 6 ≤ data.length) : isHello (data.drop position) = true ↔ HeaderAt data position := by
  obtain ⟨rest,bytes⟩ := pair
  have long : 6 ≤ (data.drop position).length := by
    rw [List.length_drop]
    omega
  rw [bytes] at long
  match rest, long with
  | minor::high::low::kind::tail, _ =>
    simp only [isHello,HeaderAt,bytes,Bool.and_eq_true,Bool.or_eq_true,decide_eq_true_eq,beq_iff_eq,List.cons.injEq]
    constructor
    · rintro ⟨versions,kinds⟩
      exact ⟨minor,high,low,kind,tail,by simp,versions,kinds⟩
    · rintro ⟨_,_,_,_,_,⟨_,_,rfl,rfl,rfl,rfl,_⟩,versions,kinds⟩
      exact ⟨versions,kinds⟩

def Earliest (data : Bytes) (position : Nat) : Prop :=
  HeaderAt data position ∧ ∀ earlier < position, ¬ HeaderAt data earlier

theorem Earliest.unique {data : Bytes} {first second : Nat} (left : Earliest data first)
    (right : Earliest data second) : first = second := by
  rcases Nat.lt_trichotomy first second with before | same | after
  · exact absurd left.1 (right.2 first before)
  · exact same
  · exact absurd right.1 (left.2 second after)

theorem Earliest.append {data : Bytes} {position : Nat} (earliest : Earliest data position) (later : Bytes) :
    Earliest (data ++ later) position := by
  refine ⟨earliest.1.append later,?_⟩
  intro earlier before header
  have inside := earliest.1.length
  exact earliest.2 earlier before (header.of_append (by omega))

theorem searchFrom_locates (data : Bytes) (rounds pos : Nat) (before : ∀ earlier < pos, ¬ HeaderAt data earlier)
    (enough : data.length < rounds + pos) : Locates (HeaderAt data) (searchFrom data rounds pos) := by
  induction rounds generalizing pos with
  | zero =>
    intro position header
    have := header.length
    exact before position (by omega) header
  | succ rounds ih =>
    rw [searchFrom]
    have shifted (k : Nat) : PairAt (data.drop pos) k ↔ PairAt data (pos + k) := by
      rw [PairAt,PairAt,List.drop_drop]
    have pairs := findPair_locates (data.drop pos)
    cases found : findPair (data.drop pos) with
    | none =>
      rw [found] at pairs
      intro position header
      by_cases early : position < pos
      · exact before position early header
      · have later : pos + (position - pos) = position := by omega
        exact pairs (position - pos) ((shifted _).mpr (by rw [later]; exact header.pair))
    | some offset =>
      rw [found] at pairs
      have pair := (shifted offset).mp pairs.1
      have ahead : ∀ earlier < pos + offset, ¬ HeaderAt data earlier := by
        intro earlier reached header
        by_cases early : earlier < pos
        · exact before earlier early header
        · have later : pos + (earlier - pos) = earlier := by omega
          exact pairs.2 (earlier - pos) (by omega) ((shifted _).mpr (by rw [later]; exact header.pair))
      have six : minTlsHandshakePatternLen = 6 := rfl
      dsimp only
      by_cases short : pos + offset + minTlsHandshakePatternLen > data.length
      · rw [if_pos short]
        intro position header
        have := header.length
        exact ahead position (by omega) header
      · rw [if_neg short]
        have hello := isHello_iff pair (by omega)
        by_cases complete : isHello (data.drop (pos + offset)) = true
        · rw [if_pos complete]
          exact ⟨hello.mp complete,ahead⟩
        · rw [if_neg complete]
          apply ih (pos + offset + 1)
          · intro earlier reached
            rcases Nat.lt_succ_iff_lt_or_eq.mp reached with early | rfl
            · exact ahead earlier early
            · exact fun header => complete (hello.mpr header)
          · omega

theorem findTlsHandshakeStart_locates (data : Bytes) : Locates (HeaderAt data) (findTlsHandshakeStart data) := by
  have six : minTlsHandshakePatternLen = 6 := rfl
  unfold findTlsHandshakeStart
  by_cases short : data.length < minTlsHandshakePatternLen
  · rw [if_pos short]
    intro position header
    have := header.length
    omega
  · rw [if_neg short]
    exact searchFrom_locates data (data.length + 1) 0 (by simp) (by omega)

theorem suffixLenFrom_le (data : Bytes) (n : Nat) : suffixLenFrom data n ≤ n := by
  induction n with
  | zero => exact Nat.le_refl 0
  | succ n ih =>
    rw [suffixLenFrom]
    split
    · exact Nat.le_refl _
    · omega

theorem suffixLenFrom_longest (data : Bytes) (n length : Nat) (bound : length ≤ n)
    (valid : isValidTlsHandshakePrefix (data.drop (data.length - length)) = true) :
    length ≤ suffixLenFrom data n := by
  induction n with
  | zero => omega
  | succ n ih =>
    rw [suffixLenFrom]
    split
    · exact bound
    next shorter =>
      rcases Nat.le_succ_iff.mp bound with inside | rfl
      · exact ih inside
      · exact absurd valid shorter

theorem findPotentialTlsSuffixLen_le (data : Bytes) : findPotentialTlsSuffixLen data ≤ min data.length 5 :=
  suffixLenFrom_le data _

/-- A header that would only be completed later starts in the suffix that is kept. -/
theorem HeaderAt.held {data later : Bytes} {position : Nat} (header : HeaderAt (data ++ later) position)
    (none : ∀ earlier, ¬ HeaderAt data earlier) :
    data.length - findPotentialTlsSuffixLen data ≤ position := by
  by_cases inside : position + 6 ≤ data.length
  · exact absurd (header.of_append inside) (none position)
  · by_cases outside : data.length ≤ position
    · omega
    · obtain ⟨minor,high,low,kind,rest,bytes,⟨low1,low3⟩,_⟩ := header
      rw [List.drop_append_of_le_length (by omega)] at bytes
      have length : data.length - (data.length - position) = position := by omega
      have valid : isValidTlsHandshakePrefix (data.drop position) = true := by
        match data.drop position, bytes with
        | [], _ => rfl
        | [_], bytes =>
          obtain ⟨rfl,_⟩ := List.cons.inj bytes
          rfl
        | [_,_], bytes =>
          simp only [List.cons_append,List.cons.injEq] at bytes
          obtain ⟨rfl,rfl,_⟩ := bytes
          rfl
        | _::_::_::_, bytes =>
          simp only [List.cons_append,List.cons.injEq] at bytes
          obtain ⟨rfl,rfl,rfl,_⟩ := bytes
          simp [isValidTlsHandshakePrefix,low1,low3]
      have longest := suffixLenFrom_longest data (min data.length 5) (data.length - position) (by omega)
        (by rw [length]; exact valid)
      rw [findPotentialTlsSuffixLen]
      omega

def DeframeResult.item : DeframeResult → Option DeframeResult
  | .needData => none
  | result => some result

def DeframeResult.bytes : DeframeResult → Bytes
  | .tlsRecord record => record
  | .unknownPrefix bytes => bytes
  | .needData => []

def DeframeResult.record : DeframeResult → Option Bytes
  | .tlsRecord record => some record
  | _ => none

namespace FuzzyTlsDeframer

def nextItem (deframer : FuzzyTlsDeframer) : Except IoError (Option DeframeResult) × FuzzyTlsDeframer :=
  (deframer.nextRecord.1.map DeframeResult.item,deframer.nextRecord.2)

/-- A deframer that has been fed `stream` and has handed on `items`. While it searches,
no header can ever start in what it has handed on. -/
inductive Tracks (stream : Bytes) : List DeframeResult → FuzzyTlsDeframer → Prop
  | searching (prefixes : List Bytes) (buffer : Bytes) (solid : ∀ bytes ∈ prefixes, bytes ≠ [])
      (whole : prefixes.flatten ++ buffer = stream)
      (clean : ∀ later, ∀ position < prefixes.flatten.length, ¬ HeaderAt (stream ++ later) position) :
      Tracks stream (prefixes.map .unknownPrefix) ⟨.new,buffer,.searching⟩
  | deframing (prefixes records : List Bytes) (inner : TlsDeframer) (solid : ∀ bytes ∈ prefixes, bytes ≠ [])
      (earliest : Earliest stream prefixes.flatten.length) (coherent : inner.Coherent)
      (whole : prefixes.flatten ++ (records.flatten ++ inner.buffer) = stream)
      (cut : drain recordCutter (records.flatten ++ inner.buffer) =
        {drain recordCutter inner.buffer with items := records ++ (drain recordCutter inner.buffer).items}) :
      Tracks stream (prefixes.map .unknownPrefix ++ records.map .tlsRecord) ⟨inner,[],.deframing⟩

theorem tracks_new : Tracks [] [] new := .searching [] [] (by simp) rfl (by simp)

variable {stream : Bytes} {items : List DeframeResult} {deframer : FuzzyTlsDeframer}

theorem Tracks.feed (tracks : Tracks stream items deframer) (data : Bytes) :
    Tracks (stream ++ data) items (deframer.feed data) := by
  cases tracks with
  | searching prefixes buffer solid whole clean =>
    refine .searching prefixes (buffer ++ data) solid ?_ ?_
    · rw [← List.append_assoc,whole]
    · intro later position inside
      rw [List.append_assoc]
      exact clean (data ++ later) position inside
  | deframing prefixes records inner solid earliest coherent whole cut =>
    refine .deframing prefixes records (inner.feed data) solid (earliest.append data) (coherent.feed data) ?_ ?_
    · rw [← whole]
      simp [TlsDeframer.feed]
    · have extended := drain_append recordCutter (records.flatten ++ inner.buffer) data
      rw [cut,List.append_assoc] at extended
      have resumed := drain_append recordCutter inner.buffer data
      change drain recordCutter (records.flatten ++ (inner.buffer ++ data)) =
        {drain recordCutter (inner.buffer ++ data) with
          items := records ++ (drain recordCutter (inner.buffer ++ data)).items}
      rw [extended,resumed]
      simp

/-- What a deframer has handed on when it needs data (`failed` is false) or has failed. -/
structure Settled (stream : Bytes) (items : List DeframeResult) (remaining : Bytes) (failed : Bool) : Prop where
  lossless : (items.map DeframeResult.bytes).flatten ++ remaining = stream
  solid : ∀ bytes, .unknownPrefix bytes ∈ items → bytes ≠ []
  missing : (∀ position, ¬ HeaderAt stream position) → items.filterMap DeframeResult.record = [] ∧ failed = false
  found : ∀ start, Earliest stream start →
    items.filterMap DeframeResult.record = (drain recordCutter (stream.drop start)).items ∧
      failed = (drain recordCutter (stream.drop start)).failed ∧
      ∃ prefixes : List Bytes, prefixes.flatten = stream.take start ∧
        items = prefixes.map .unknownPrefix ++ (items.filterMap DeframeResult.record).map .tlsRecord

theorem prefixes_bytes (prefixes : List Bytes) :
    (prefixes.map DeframeResult.unknownPrefix).map DeframeResult.bytes = prefixes := by
  rw [List.map_map]
  exact List.map_id prefixes

theorem records_bytes (records : List Bytes) :
    (records.map DeframeResult.tlsRecord).map DeframeResult.bytes = records := by
  rw [List.map_map]
  exact List.map_id records

theorem prefixes_record (prefixes : List Bytes) :
    (prefixes.map DeframeResult.unknownPrefix).filterMap DeframeResult.record = [] := by
  rw [List.filterMap_map]
  exact List.filterMap_eq_nil_iff.mpr (fun _ _ => rfl)

theorem records_record (records : List Bytes) :
    (records.map DeframeResult.tlsRecord).filterMap DeframeResult.record = records := by
  rw [List.filterMap_map]
  exact List.filterMap_some

theorem settled_searching {prefixes : List Bytes} {buffer : Bytes} (solid : ∀ bytes ∈ prefixes, bytes ≠ [])
    (whole : prefixes.flatten ++ buffer = stream) (missing : ∀ position, ¬ HeaderAt stream position) :
    Settled stream (prefixes.map .unknownPrefix) buffer false where
  lossless := by rw [prefixes_bytes,whole]
  solid := by
    intro bytes member
    obtain ⟨other,present,same⟩ := List.mem_map.mp member
    cases same
    exact solid bytes present
  missing := fun _ => ⟨prefixes_record prefixes,rfl⟩
  found := fun start earliest => absurd earliest.1 (missing start)

theorem settled_deframing {prefixes records : List Bytes} {buffer : Bytes} {failed : Bool}
    (solid : ∀ bytes ∈ prefixes, bytes ≠ []) (earliest : Earliest stream prefixes.flatten.length)
    (whole : prefixes.flatten ++ (records.flatten ++ buffer) = stream)
    (cut : drain recordCutter (records.flatten ++ buffer) = ⟨records,buffer,failed⟩) :
    Settled stream (prefixes.map .unknownPrefix ++ records.map .tlsRecord) buffer failed where
  lossless := by
    rw [List.map_append,prefixes_bytes,records_bytes,List.flatten_append,List.append_assoc,whole]
  solid := by
    intro bytes member
    rcases List.mem_append.mp member with front | back
    · obtain ⟨other,present,same⟩ := List.mem_map.mp front
      cases same
      exact solid bytes present
    · obtain ⟨other,_,impossible⟩ := List.mem_map.mp back
      cases impossible
  missing := fun nowhere => absurd earliest.1 (nowhere _)
  found := by
    intro start other
    cases earliest.unique other
    have dropped : stream.drop prefixes.flatten.length = records.flatten ++ buffer := by
      rw [← whole,List.drop_left]
    have taken : stream.take prefixes.flatten.length = prefixes.flatten := by
      rw [← whole,List.take_left]
    rw [dropped,cut,taken,List.filterMap_append,prefixes_record,records_record,List.nil_append]
    exact ⟨rfl,rfl,prefixes,rfl,rfl⟩

/-- The answers of one call: an item, or the end of what can be said about the stream. -/
inductive Answers (stream : Bytes) (items : List DeframeResult) (deframer : FuzzyTlsDeframer) :
    Except IoError DeframeResult × FuzzyTlsDeframer → Prop
  | item (result : DeframeResult) (after : FuzzyTlsDeframer) (some : result.item = some result)
      (tracks : Tracks stream (items ++ [result]) after) (shorter : after.pendingBytes < deframer.pendingBytes) :
      Answers stream items deframer (.ok result,after)
  | needData (after : FuzzyTlsDeframer) (tracks : Tracks stream items after)
      (settled : Settled stream items after.remainingData false) :
      Answers stream items deframer (.ok .needData,after)
  | failed (e : IoError) (after : FuzzyTlsDeframer) (tracks : Tracks stream items after)
      (settled : Settled stream items after.remainingData true) :
      Answers stream items deframer (.error e,after)

theorem deframe_answers {prefixes records : List Bytes} {inner : TlsDeframer} {before : FuzzyTlsDeframer}
    (solid : ∀ bytes ∈ prefixes, bytes ≠ []) (earliest : Earliest stream prefixes.flatten.length)
    (coherent : inner.Coherent) (whole : prefixes.flatten ++ (records.flatten ++ inner.buffer) = stream)
    (cut : drain recordCutter (records.flatten ++ inner.buffer) =
      {drain recordCutter inner.buffer with items := records ++ (drain recordCutter inner.buffer).items})
    (pending : before.pendingBytes = inner.buffer.length) :
    Answers stream (prefixes.map .unknownPrefix ++ records.map .tlsRecord) before (deframe inner []) := by
  rw [deframe]
  rcases inner.nextRecord_cases coherent with ⟨more,after,reply,same,kept⟩ | ⟨fail,e,reply⟩ | ⟨n,item,reply⟩
  · rw [reply]
    rw [← same] at whole cut more
    have drained : drain recordCutter (records.flatten ++ after.buffer) = ⟨records,after.buffer,false⟩ := by
      rw [cut,drain_more recordCutter more,List.append_nil]
    exact .needData _ (.deframing prefixes records after solid earliest kept whole cut)
      (settled_deframing solid earliest whole drained)
  · rw [reply]
    have drained : drain recordCutter (records.flatten ++ inner.buffer) = ⟨records,inner.buffer,true⟩ := by
      rw [cut,drain_fail recordCutter fail,List.append_nil]
    exact .failed e _ (.deframing prefixes records inner solid earliest coherent whole cut)
      (settled_deframing solid earliest whole drained)
  · rw [reply]
    obtain ⟨positive,inside⟩ := recordCutter.progress item
    have joined : (records ++ [inner.buffer.take n]).flatten ++ inner.buffer.drop n =
        records.flatten ++ inner.buffer := by
      simp
    have drained := drain_item recordCutter item
    have fresh : TlsDeframer.Coherent ⟨inner.buffer.drop n,.readingHeader⟩ := by
      intro payloadLen impossible
      cases impossible
    have tracks : Tracks stream _ _ := .deframing prefixes (records ++ [inner.buffer.take n])
      ⟨inner.buffer.drop n,.readingHeader⟩ solid earliest fresh (by rw [joined,whole])
      (by rw [joined,cut,drained,List.append_assoc]; rfl)
    rw [List.map_append,← List.append_assoc] at tracks
    refine .item _ _ rfl tracks ?_
    change (inner.buffer.drop n).length < before.pendingBytes
    rw [pending,List.length_drop]
    omega

theorem release_answers {prefixes : List Bytes} {buffer : Bytes} (solid : ∀ bytes ∈ prefixes, bytes ≠ [])
    (whole : prefixes.flatten ++ buffer = stream)
    (clean : ∀ later, ∀ position < prefixes.flatten.length, ¬ HeaderAt (stream ++ later) position)
    (missing : ∀ position, ¬ HeaderAt buffer position) :
    Answers stream (prefixes.map .unknownPrefix) ⟨.new,buffer,.searching⟩ (release ⟨.new,buffer,.searching⟩) := by
  -- A header behind the prefixes is one in the buffer.
  have shifted (later : Bytes) (position : Nat) (header : HeaderAt (stream ++ later) position)
      (beyond : prefixes.flatten.length ≤ position) :
      HeaderAt (buffer ++ later) (position - prefixes.flatten.length) := by
    rw [← HeaderAt.drop_append prefixes.flatten,← List.append_assoc,whole,Nat.add_sub_cancel' beyond]
    exact header
  rw [release]
  dsimp only
  split
  next shorter =>
    have front : buffer.take (buffer.length - findPotentialTlsSuffixLen buffer) ≠ [] := by
      intro empty
      have length := congrArg List.length empty
      rw [List.length_take,List.length_nil] at length
      omega
    have flat : (prefixes ++ [buffer.take (buffer.length - findPotentialTlsSuffixLen buffer)]).flatten =
        prefixes.flatten ++ buffer.take (buffer.length - findPotentialTlsSuffixLen buffer) := by
      simp
    have tracks : Tracks stream _ _ := .searching
      (prefixes ++ [buffer.take (buffer.length - findPotentialTlsSuffixLen buffer)])
      (buffer.drop (buffer.length - findPotentialTlsSuffixLen buffer))
      (by
        intro bytes member
        rcases List.mem_append.mp member with old | new
        · exact solid bytes old
        · rw [List.mem_singleton.mp new]
          exact front)
      (by rw [flat,List.append_assoc,List.take_append_drop,whole])
      (by
        intro later position inside header
        rw [flat,List.length_append,List.length_take] at inside
        by_cases early : position < prefixes.flatten.length
        · exact clean later position early header
        · have kept := (shifted later position header (by omega)).held missing
          omega)
    rw [List.map_append] at tracks
    refine .item _ _ rfl tracks ?_
    change (buffer.drop (buffer.length - findPotentialTlsSuffixLen buffer)).length < buffer.length
    rw [List.length_drop]
    omega
  next whole' =>
    refine .needData _ (.searching prefixes buffer solid whole clean) (settled_searching solid whole ?_)
    intro position header
    have none := List.append_nil stream
    by_cases early : position < prefixes.flatten.length
    · exact clean [] position early (by rw [none]; exact header)
    · have inside := shifted [] position (by rw [none]; exact header) (by omega)
      rw [List.append_nil] at inside
      exact missing _ inside

theorem Tracks.answers (tracks : Tracks stream items deframer) : Answers stream items deframer deframer.nextRecord := by
  cases tracks with
  | deframing prefixes records inner solid earliest coherent whole cut =>
    exact deframe_answers solid earliest coherent whole cut rfl
  | searching prefixes buffer solid whole clean =>
    change Answers _ _ _ (search ⟨.new,buffer,.searching⟩)
    have located := findTlsHandshakeStart_locates buffer
    have six : minTlsHandshakePatternLen = 6 := rfl
    rw [search]
    dsimp only
    split_ifs with empty long
    · refine .needData _ (.searching prefixes buffer solid whole clean) (settled_searching solid whole ?_)
      intro position header
      subst empty
      rw [List.append_nil] at whole
      have inside := header.length
      refine clean [] position ?_ (by rw [List.append_nil]; exact header)
      rw [whole]
      omega
    · cases found : findTlsHandshakeStart buffer with
      | none =>
        rw [found] at located
        exact release_answers solid whole clean located
      | some offset =>
        rw [found] at located
        -- The prefixes are clean, so the first header of the buffer is that of the stream.
        have earliest : Earliest stream (prefixes.flatten.length + offset) := by
          rw [← whole]
          refine ⟨(HeaderAt.drop_append _ _ _).mpr located.1,?_⟩
          intro earlier before header
          by_cases early : earlier < prefixes.flatten.length
          · exact clean [] earlier early (by rw [List.append_nil,← whole]; exact header)
          · have beyond : prefixes.flatten.length + (earlier - prefixes.flatten.length) = earlier := by omega
            rw [← beyond,HeaderAt.drop_append] at header
            exact located.2 _ (by omega) header
        have inside := located.1.length
        have fed (data : Bytes) : (TlsDeframer.new.feed data).Coherent := TlsDeframer.coherent_new.feed data
        dsimp only
        split_ifs with behind
        · have flat : (prefixes ++ [buffer.take offset]).flatten = prefixes.flatten ++ buffer.take offset := by simp
          have length : (prefixes ++ [buffer.take offset]).flatten.length = prefixes.flatten.length + offset := by
            rw [flat,List.length_append,List.length_take]
            omega
          have tracks : Tracks stream _ _ := .deframing (prefixes ++ [buffer.take offset]) []
            (TlsDeframer.new.feed (buffer.drop offset))
            (by
              intro bytes member
              rcases List.mem_append.mp member with old | new
              · exact solid bytes old
              · rw [List.mem_singleton.mp new]
                intro none
                have length := congrArg List.length none
                rw [List.length_take,List.length_nil] at length
                omega)
            (by rw [length]; exact earliest) (fed _)
            (by
              rw [flat,← whole]
              simp [TlsDeframer.feed,TlsDeframer.new])
            rfl
          rw [List.map_append,List.map_nil,List.append_nil] at tracks
          refine .item _ _ rfl tracks ?_
          change (TlsDeframer.new.feed (buffer.drop offset)).buffer.length < buffer.length
          simp only [TlsDeframer.feed,TlsDeframer.new,List.nil_append,List.length_drop]
          omega
        · have zero : offset = 0 := by omega
          subst zero
          have answers : Answers stream (prefixes.map .unknownPrefix ++ List.map .tlsRecord [])
              ⟨.new,buffer,.searching⟩ (deframe (TlsDeframer.new.feed buffer) []) := deframe_answers
            solid earliest (fed buffer) (by simpa [TlsDeframer.feed,TlsDeframer.new] using whole) rfl
            (by simp [pendingBytes,TlsDeframer.feed,TlsDeframer.new])
          rw [List.map_nil,List.append_nil] at answers
          exact answers
    · apply release_answers solid whole clean
      intro position header
      have := header.length
      omega

theorem pull_nextItem (rounds : Nat) {items : List DeframeResult} {deframer : FuzzyTlsDeframer}
    (tracks : Tracks stream items deframer) (enough : deframer.pendingBytes < rounds) :
    ∃ taken error after, (∀ extra, pull nextItem (rounds + extra) deframer = ⟨taken,error,after⟩) ∧
      Tracks stream (items ++ taken) after ∧ Settled stream (items ++ taken) after.remainingData error.isSome := by
  induction rounds generalizing items deframer with
  | zero => omega
  | succ rounds ih =>
    have answers := tracks.answers
    have call : deframer.nextItem = (deframer.nextRecord.1.map DeframeResult.item,deframer.nextRecord.2) := rfl
    generalize deframer.nextRecord = reply at answers call
    cases answers with
    | item result after some tracks shorter =>
      obtain ⟨taken,error,final,pulled,tracks,settled⟩ := ih tracks (by omega)
      refine ⟨result::taken,error,final,?_,?_⟩
      · intro extra
        simp only [Except.map,some] at call
        rw [Nat.succ_add,pull,call]
        simp only [pulled]
      · rw [List.append_assoc] at tracks settled
        exact ⟨tracks,settled⟩
    | needData after tracks settled =>
      refine ⟨[],none,after,?_,?_⟩
      · intro extra
        rw [Nat.succ_add,pull,call]
        rfl
      · rw [List.append_nil]
        exact ⟨tracks,settled⟩
    | failed e after tracks settled =>
      refine ⟨[],.some e,after,?_,?_⟩
      · intro extra
        rw [Nat.succ_add,pull,call]
        rfl
      · rw [List.append_nil]
        exact ⟨tracks,settled⟩

/-- A new deframer that is fed the chunks and emptied after each. -/
def deframed (chunks : List Bytes) : Pulled FuzzyTlsDeframer DeframeResult :=
  arrivals nextItem feed pendingBytes new chunks

/-- The TLS records among what has been handed on. -/
def records (pulled : Pulled FuzzyTlsDeframer DeframeResult) : List Bytes :=
  pulled.items.filterMap DeframeResult.record

theorem deframed_settled (chunks : List Bytes) :
    Tracks chunks.flatten (deframed chunks).items (deframed chunks).deframer ∧
      Settled chunks.flatten (deframed chunks).items (deframed chunks).deframer.remainingData
        (deframed chunks).error.isSome := by
  induction chunks using List.reverseRecOn with
  | nil =>
    have solid : ∀ bytes ∈ ([] : List Bytes), bytes ≠ [] := by simp
    exact ⟨tracks_new,settled_searching solid rfl (by simp [HeaderAt])⟩
  | append_singleton chunks chunk ih =>
    obtain ⟨tracks,_⟩ := ih
    have flat : (chunks ++ [chunk]).flatten = chunks.flatten ++ chunk := by simp
    have last : deframed (chunks ++ [chunk]) = arrive nextItem feed pendingBytes (deframed chunks) chunk := by
      rw [deframed,arrivals,List.foldl_append]
      rfl
    obtain ⟨taken,error,after,pulled,tracks,settled⟩ := pull_nextItem
      (((deframed chunks).deframer.feed chunk).pendingBytes + 1) (tracks.feed chunk) (Nat.lt_succ_self _)
    have answer := pulled 0
    rw [Nat.add_zero] at answer
    have step : deframed (chunks ++ [chunk]) = ⟨(deframed chunks).items ++ taken,error,after⟩ := by
      rw [last,arrive]
      simp only [answer]
    rw [step,flat]
    exact ⟨tracks,settled⟩

end FuzzyTlsDeframer

section Invariance
open FuzzyTlsDeframer

/-- Both deframers lose nothing, and the records they find do not depend on how the stream
was cut. The first record behind other bytes starts at the first handshake header. -/
theorem deframers_lossless_and_chunk_invariant (chunks others : List Bytes) (same : others.flatten = chunks.flatten) :
    ((TlsDeframer.deframed chunks).items.flatten ++ (TlsDeframer.deframed chunks).deframer.remainingData =
        chunks.flatten ∧
      (TlsDeframer.deframed others).items = (TlsDeframer.deframed chunks).items ∧
      (TlsDeframer.deframed others).error.isSome = (TlsDeframer.deframed chunks).error.isSome) ∧
    ((deframed chunks).items.map DeframeResult.bytes).flatten ++ (deframed chunks).deframer.remainingData =
      chunks.flatten ∧
    (∀ bytes, .unknownPrefix bytes ∈ (deframed chunks).items → bytes ≠ []) ∧
    records (deframed others) = records (deframed chunks) ∧
    (deframed others).error.isSome = (deframed chunks).error.isSome ∧
    (records (deframed chunks) ≠ [] → ∃ prefixes : List Bytes, Earliest chunks.flatten prefixes.flatten.length ∧
      (deframed chunks).items = prefixes.map .unknownPrefix ++ (records (deframed chunks)).map .tlsRecord) := by
  refine ⟨?_,?_⟩
  · obtain ⟨error,after,run,failed,rest,_⟩ := TlsDeframer.deframed_eq chunks
    obtain ⟨_,_,again,failed',_,_⟩ := TlsDeframer.deframed_eq others
    rw [same] at again failed'
    rw [run,again]
    refine ⟨?_,rfl,failed'.trans failed.symm⟩
    change _ ++ after.buffer = _
    rw [rest]
    exact drain_flatten recordCutter chunks.flatten
  · have settled := (deframed_settled chunks).2
    have settled' := (deframed_settled others).2
    rw [same] at settled'
    refine ⟨settled.lossless,settled.solid,?_⟩
    have located := findTlsHandshakeStart_locates chunks.flatten
    cases found : findTlsHandshakeStart chunks.flatten with
    | none =>
      rw [found] at located
      obtain ⟨none,fine⟩ := settled.missing located
      obtain ⟨none',fine'⟩ := settled'.missing located
      exact ⟨none'.trans none.symm,fine'.trans fine.symm,fun some => absurd none some⟩
    | some start =>
      rw [found] at located
      obtain ⟨cut,failed,prefixes,front,items⟩ := settled.found start located
      obtain ⟨cut',failed',_⟩ := settled'.found start located
      refine ⟨cut'.trans cut.symm,failed'.trans failed.symm,fun _ => ⟨prefixes,?_,items⟩⟩
      have inside := located.1.length
      rw [front,List.length_take,Nat.min_eq_left (by omega)]
      exact located

/-- A ClientHello record of five payload bytes behind three other bytes. -/
def helloStream : Bytes := [1,2,3,0x16,3,1,0,5,1,0,0,0,0]

theorem deframers_hello_bytewise :
    (deframed [helloStream]).items = [.unknownPrefix [1,2,3],.tlsRecord [0x16,3,1,0,5,1,0,0,0,0]] ∧
      records (deframed (helloStream.map fun b => [b])) = [[0x16,3,1,0,5,1,0,0,0,0]] := by
  have whole : (deframed [helloStream]).items =
      [.unknownPrefix [1,2,3],.tlsRecord [0x16,3,1,0,5,1,0,0,0,0]] := by decide
  have invariant := deframers_lossless_and_chunk_invariant [helloStream] (helloStream.map fun b => [b]) (by decide)
  refine ⟨whole,?_⟩
  rw [invariant.2.2.2.1,records,whole]
  rfl

end Invariance

end Dynet.Vless
