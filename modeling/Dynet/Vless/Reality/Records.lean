import Mathlib.Data.List.DropRight
import Dynet.Lib.Checks
import Dynet.Lib.Framing
import Dynet.Vless.Reality.Crypto

/-! The TLS 1.3 record layer: sealing application data and handshake messages into
records, and opening the payload of a record. -/
namespace Dynet.Vless.Reality
open Dynet.Lib.Checks
open Dynet.Lib.Framing

def contentTypeChangeCipherSpec : UInt8 := 0x14
def contentTypeAlert : UInt8 := 0x15
def contentTypeHandshake : UInt8 := 0x16
def contentTypeApplicationData : UInt8 := 0x17
def alertLevelWarning : UInt8 := 0x01
def alertDescCloseNotify : UInt8 := 0x00
def maxTlsCiphertextLen : Nat := 16384 + 256
def maxTlsPlaintextLen : Nat := 16384
def tlsRecordHeaderSize : Nat := 5
def tlsMaxRecordSize : Nat := maxTlsCiphertextLen + tlsRecordHeaderSize

def makeRecordHeader (ciphertextLen : Nat) : Bytes := contentTypeApplicationData::3::3::toBe16 ciphertextLen

def seqExhausted : IoError := ⟨.other,"TLS sequence number exhausted"⟩

-- `checked_add(1)` on a `u64`.
def nextSeq (seq : Nat) : Option Nat := if seq + 1 < 2^64 then some (seq + 1) else none

-- `chunks(size)`: every chunk takes a byte, so the bytes bound the rounds.
def chunksRounds (size : Nat) : Nat → Bytes → List Bytes
  | 0, _ => []
  | rounds+1, data => if data = [] then [] else data.take size::chunksRounds size rounds (data.drop size)

def chunks (size : Nat) (data : Bytes) : List Bytes := chunksRounds size data.length data

/-- The output side of an encryptor. -/
structure Writing where
  seq : Nat
  out : Bytes
  deriving DecidableEq, Repr

section Encrypt
variable (crypto : Crypto) (key : AeadKey) (iv : Bytes)

def encryptRecordInPlace (writing : Writing) (buf : Bytes) (contentType : UInt8) :
    Except IoError Unit × Writing × Bytes :=
  let buf := buf ++ [contentType]
  let header := makeRecordHeader (buf.length + 16)
  match key.sealInPlace crypto buf iv writing.seq header with
  | .error e => (.error e,writing,buf)
  | .ok sealed => match nextSeq writing.seq with
    | none => (.error seqExhausted,writing,sealed)
    | some seq => (.ok (),⟨seq,writing.out ++ (header ++ sealed)⟩,sealed)

def encryptFragments (contentType : UInt8) : List Bytes → Writing → Except IoError Unit × Writing
  | [], writing => (.ok (),writing)
  | chunk::chunks, writing => match encryptRecordInPlace crypto key iv writing chunk contentType with
    | (.ok (),writing,_) => encryptFragments contentType chunks writing
    | (.error e,writing,_) => (.error e,writing)

-- The single record of the fast path is sealed in the plaintext buffer itself.
def encryptAppData (writing : Writing) (plaintext : Bytes) : Except IoError Unit × Writing × Bytes :=
  if plaintext = [] then (.ok (),writing,plaintext)
  else if plaintext.length ≤ maxTlsPlaintextLen then
    match encryptRecordInPlace crypto key iv writing plaintext contentTypeApplicationData with
    | (.ok (),writing,_) => (.ok (),writing,[])
    | (.error e,writing,buf) => (.error e,writing,buf)
  else
    match encryptFragments crypto key iv contentTypeApplicationData (chunks maxTlsPlaintextLen plaintext) writing with
    | (.ok (),writing) => (.ok (),writing,[])
    | (.error e,writing) => (.error e,writing,plaintext)

def encryptHandshake (writing : Writing) (data : Bytes) : Except IoError Unit × Writing :=
  if data = [] then (.ok (),writing)
  else if data.length ≤ maxTlsPlaintextLen then
    match encryptRecordInPlace crypto key iv writing data contentTypeHandshake with
    | (result,writing,_) => (result,writing)
  else encryptFragments crypto key iv contentTypeHandshake (chunks maxTlsPlaintextLen data) writing

def encryptCloseNotify (writing : Writing) : Except IoError Unit × Writing :=
  match encryptRecordInPlace crypto key iv writing [alertLevelWarning,alertDescCloseNotify] contentTypeAlert with
  | (result,writing,_) => (result,writing)

end Encrypt

def knownContentType (contentType : UInt8) : Prop :=
  contentType = contentTypeHandshake ∨ contentType = contentTypeApplicationData ∨ contentType = contentTypeAlert

instance (contentType : UInt8) : Decidable (knownContentType contentType) :=
  inferInstanceAs (Decidable (_ ∨ _ ∨ _))

theorem known_handshake : knownContentType contentTypeHandshake := .inl rfl

/-- Content type and content of an inner plaintext: `content || type || zeros*`. -/
def stripContentTypeWithPadding (plaintext : Bytes) : Except IoError (UInt8 × Bytes) :=
  let stripped := plaintext.rdropWhile (· = 0)
  match stripped.getLast? with
  | none => .error (invalidData "Plaintext is all zeros")
  | some contentType =>
    if knownContentType contentType then .ok (contentType,stripped.dropLast)
    else .error (invalidData s!"Invalid content type: 0x{hexByte contentType}")

section Decrypt
variable (crypto : Crypto) (key : AeadKey) (iv : Bytes)

-- The sequence number counts a record that opens, whatever it holds.
def decryptRecordInPlace (seq : Nat) (ciphertext : Bytes) : Except IoError (UInt8 × Bytes) × Nat :=
  match key.openInPlaceSlice crypto ciphertext iv seq (makeRecordHeader ciphertext.length) with
  | .error e => (.error e,seq)
  | .ok plaintext => match nextSeq seq with
    | none => (.error seqExhausted,seq)
    | some seq => (stripContentTypeWithPadding plaintext,seq)

end Decrypt

def decryptHandshakeMessage (crypto : Crypto) (suite : CipherSuite) (key iv : Bytes) (seq : Nat)
    (ciphertext : Bytes) : Except IoError Bytes := do
  let aeadKey ← AeadKey.new suite key
  let plaintext ← aeadKey.openInPlaceSlice crypto ciphertext iv seq (makeRecordHeader ciphertext.length)
  if plaintext = [] then throw (invalidData "Empty plaintext")
  let (_,content) ← stripContentTypeWithPadding plaintext
  return content

structure Inner where
  contentType : UInt8
  content : Bytes
  padding : Nat
  known : knownContentType contentType
  deriving DecidableEq

def Inner.plaintext (inner : Inner) : Bytes :=
  inner.content ++ inner.contentType::List.replicate inner.padding 0

/-- A record as a sender with this key puts it on the wire. -/
def sealRecord (crypto : Crypto) (key : AeadKey) (iv : Bytes) (seq : Nat) (inner : Inner) : Except IoError Bytes := do
  let header := makeRecordHeader (inner.plaintext.length + 16)
  let sealed ← key.sealInPlace crypto inner.plaintext iv seq header
  return header ++ sealed

theorem chunksRounds_flatten {size : Nat} (positive : 0 < size) (rounds : Nat) (data : Bytes)
    (enough : data.length ≤ rounds) : (chunksRounds size rounds data).flatten = data := by
  induction rounds generalizing data with
  | zero => exact (List.length_eq_zero_iff.mp (Nat.le_zero.mp enough)).symm
  | succ rounds ih =>
    rw [chunksRounds]
    split
    next empty => exact empty.symm
    next more =>
      have some := List.length_pos_iff.mpr more
      rw [List.flatten_cons,ih (data.drop size) (by rw [List.length_drop]; omega),List.take_append_drop]

theorem chunks_flatten {size : Nat} (positive : 0 < size) (data : Bytes) : (chunks size data).flatten = data :=
  chunksRounds_flatten positive data.length data (Nat.le_refl _)

theorem chunks_length {size : Nat} {data : Bytes} : ∀ chunk ∈ chunks size data, chunk.length ≤ size := by
  rw [chunks]
  generalize data.length = rounds
  induction rounds generalizing data with
  | zero => simp [chunksRounds]
  | succ rounds ih =>
    rw [chunksRounds]
    split
    · simp
    · intro chunk member
      rcases List.mem_cons.mp member with rfl | later
      · rw [List.length_take]
        omega
      · exact ih chunk later

theorem rdropWhile_zeros (content : Bytes) {last : UInt8} (solid : last ≠ 0) (n : Nat) :
    (content ++ last::List.replicate n 0).rdropWhile (· = 0) = content ++ [last] := by
  induction n with
  | zero => exact List.rdropWhile_concat_neg _ _ _ (by simpa using solid)
  | succ n ih =>
    rw [List.replicate_succ',← List.cons_append,← List.append_assoc,List.rdropWhile_concat_pos _ _ _ (by simp),ih]

theorem known_ne_zero {contentType : UInt8} (known : knownContentType contentType) : contentType ≠ 0 := by
  rcases known with rfl | rfl | rfl <;> decide

theorem strip_inner (inner : Inner) :
    stripContentTypeWithPadding inner.plaintext = .ok (inner.contentType,inner.content) := by
  rw [stripContentTypeWithPadding,Inner.plaintext,rdropWhile_zeros _ (known_ne_zero inner.known)]
  simp [inner.known]

@[simp] theorem plaintext_length (inner : Inner) :
    inner.plaintext.length = inner.content.length + 1 + inner.padding := by
  simp [Inner.plaintext]
  omega

@[simp] theorem makeRecordHeader_length (n : Nat) : (makeRecordHeader n).length = 5 := rfl

theorem makeNonce_ok {iv : Bytes} (sized : iv.length = 12) (seq : Nat) :
    ∃ nonce, AeadKey.makeNonce iv seq = .ok nonce ∧ nonce.length = 12 := by
  refine ⟨_,if_neg (by simp [sized]),?_⟩
  simp [sized,AeadKey.seqBytes]

section Sealing
variable {crypto : Crypto} (lawful : crypto.Lawful) {key : AeadKey} {iv : Bytes} {seq : Nat} {inner : Inner}
  {record : Bytes}

/-- A record is a header and the sealed payload, which opens under the same number. -/
theorem sealRecord_cases (sealed : sealRecord crypto key iv seq inner = .ok record) :
    ∃ payload nonce, record = makeRecordHeader (inner.plaintext.length + 16) ++ payload ∧
      AeadKey.makeNonce iv seq = .ok nonce ∧
      crypto.sealInPlace key.suite key.key nonce (makeRecordHeader (inner.plaintext.length + 16)) inner.plaintext =
        some payload := by
  rw [sealRecord] at sealed
  obtain ⟨payload,inside,same⟩ := (bind_ok_iff _ _ _).mp sealed
  rw [AeadKey.sealInPlace] at inside
  obtain ⟨nonce,made,found⟩ := (bind_ok_iff _ _ _).mp inside
  cases same
  refine ⟨payload,nonce,rfl,made,?_⟩
  split at found
  next output =>
    cases found
    exact output
  next => cases found

theorem encryptRecordInPlace_sealed {writing : Writing} {buf : Bytes} {contentType : UInt8}
    (known : knownContentType contentType)
    (sealed : sealRecord crypto key iv writing.seq ⟨contentType,buf,0,known⟩ = .ok record)
    (count : writing.seq + 1 < 2^64) :
    ∃ after, encryptRecordInPlace crypto key iv writing buf contentType =
      (.ok (),⟨writing.seq + 1,writing.out ++ record⟩,after) := by
  rw [sealRecord] at sealed
  obtain ⟨payload,inside,same⟩ := (bind_ok_iff _ _ _).mp sealed
  cases same
  have plain : Inner.plaintext ⟨contentType,buf,0,known⟩ = buf ++ [contentType] := rfl
  rw [plain] at inside
  refine ⟨payload,?_⟩
  simp only [encryptRecordInPlace,inside,nextSeq,if_pos count]
  rfl

include lawful

theorem sealRecord_exists (sized : iv.length = 12) (small : inner.plaintext.length ≤ 16384 + 240) :
    ∃ record, sealRecord crypto key iv seq inner = .ok record := by
  obtain ⟨nonce,made,length⟩ := makeNonce_ok sized seq
  obtain ⟨payload,sealed⟩ := lawful.seals key.suite key.key nonce (makeRecordHeader (inner.plaintext.length + 16))
    inner.plaintext key.sized length small
  refine ⟨makeRecordHeader (inner.plaintext.length + 16) ++ payload,?_⟩
  rw [sealRecord,AeadKey.sealInPlace,made,ok_bind]
  simp only [sealed]
  rfl

theorem sealRecord_length (sealed : sealRecord crypto key iv seq inner = .ok record) :
    record.length = 5 + (inner.plaintext.length + 16) := by
  obtain ⟨payload,nonce,rfl,_,output⟩ := sealRecord_cases sealed
  rw [List.length_append,lawful.tag output,makeRecordHeader_length]

theorem decrypt_sealRecord (sealed : sealRecord crypto key iv seq inner = .ok record) (count : seq + 1 < 2^64) :
    decryptRecordInPlace crypto key iv seq (record.drop 5) = (.ok (inner.contentType,inner.content),seq + 1) := by
  obtain ⟨payload,nonce,rfl,made,output⟩ := sealRecord_cases sealed
  have header := makeRecordHeader_length (inner.plaintext.length + 16)
  have cut : (makeRecordHeader (inner.plaintext.length + 16) ++ payload).drop 5 = payload := by
    rw [← header,List.drop_left]
  rw [cut,decryptRecordInPlace,lawful.tag output,AeadKey.openInPlaceSlice,made,ok_bind]
  simp only [lawful.opens output,nextSeq,if_pos count,pure,Except.pure,strip_inner]

end Sealing

/-- Where a buffer's first record ends. -/
def frameCut (buffer : Bytes) : Cut :=
  match buffer with
  | _::_::_::high::low::_ => if buffer.length < 5 + be16 high low then .more else .item (5 + be16 high low)
  | _ => .more

def frameCutter : Cutter UInt8 where
  cut := frameCut
  progress := by
    intro buffer n item
    unfold frameCut at item
    split at item
    · split at item
      · cases item
      next whole =>
        cases item
        omega
    · cases item
  stable := by
    intro buffer later answered
    unfold frameCut at answered ⊢
    split at answered
    next a b c high low rest =>
      split at answered
      · exact absurd rfl answered
      next whole =>
        simp only [List.cons_append] at whole ⊢
        rw [if_neg whole,if_neg]
        simp only [List.length_cons,List.length_append] at whole ⊢
        omega
    · exact absurd rfl answered

/-- Records sealed one after the other, each under the number that follows. -/
inductive SealedFrom (crypto : Crypto) (key : AeadKey) (iv : Bytes) : Nat → List Inner → List Bytes → Prop
  | nil (seq : Nat) : SealedFrom crypto key iv seq [] []
  | cons {seq : Nat} {inner : Inner} {record : Bytes} {inners : List Inner} {records : List Bytes}
      (sealed : sealRecord crypto key iv seq inner = .ok record)
      (later : SealedFrom crypto key iv (seq + 1) inners records) :
      SealedFrom crypto key iv seq (inner::inners) (record::records)

/-- A receiver that opens records in order, the first under the given number. -/
def openRecords (crypto : Crypto) (key : AeadKey) (iv : Bytes) : Nat → List Bytes → Except IoError (List (UInt8 × Bytes))
  | _, [] => .ok []
  | seq, record::records => do
    let opened ← (decryptRecordInPlace crypto key iv seq (record.drop 5)).1
    let later ← openRecords crypto key iv (seq + 1) records
    return opened::later

def Inner.opened (inner : Inner) : UInt8 × Bytes := (inner.contentType,inner.content)

def appContent (opened : List (UInt8 × Bytes)) : Bytes :=
  ((opened.filter fun record => record.1 = contentTypeApplicationData).map (·.2)).flatten

theorem appContent_append (first second : List (UInt8 × Bytes)) :
    appContent (first ++ second) = appContent first ++ appContent second := by
  simp [appContent]

section Streams
variable {crypto : Crypto} {key : AeadKey} {iv : Bytes} {seq : Nat} {inners : List Inner} {records : List Bytes}

theorem SealedFrom.length (sealed : SealedFrom crypto key iv seq inners records) : records.length = inners.length := by
  induction sealed with
  | nil seq => rfl
  | cons _ _ ih => rw [List.length_cons,List.length_cons,ih]

theorem SealedFrom.append {more : List Inner} {later : List Bytes}
    (sealed : SealedFrom crypto key iv seq inners records)
    (following : SealedFrom crypto key iv (seq + inners.length) more later) :
    SealedFrom crypto key iv seq (inners ++ more) (records ++ later) := by
  induction sealed with
  | nil seq => exact following
  | cons record _ ih =>
    refine .cons record (ih ?_)
    rw [List.length_cons] at following
    rw [Nat.add_assoc,Nat.add_comm 1]
    exact following

theorem SealedFrom.split {first second : List Bytes} (sealed : SealedFrom crypto key iv seq inners (first ++ second)) :
    ∃ done left, inners = done ++ left ∧ SealedFrom crypto key iv seq done first ∧
      SealedFrom crypto key iv (seq + done.length) left second := by
  induction first generalizing seq inners with
  | nil => exact ⟨[],inners,rfl,.nil seq,sealed⟩
  | cons record first ih =>
    cases sealed with
    | cons made later =>
      obtain ⟨done,left,rfl,front,back⟩ := ih later
      refine ⟨_::done,left,rfl,.cons made front,?_⟩
      rw [List.length_cons,Nat.add_comm done.length,← Nat.add_assoc]
      exact back

theorem frameCut_sealRecord (lawful : crypto.Lawful) {inner : Inner} {record : Bytes}
    (sealed : sealRecord crypto key iv seq inner = .ok record) (small : inner.plaintext.length + 16 < 65536) :
    frameCutter.cut record = .item record.length := by
  have length := sealRecord_length lawful sealed
  obtain ⟨payload,nonce,rfl,_,_⟩ := sealRecord_cases sealed
  change frameCut (contentTypeApplicationData::3::3::_::_::payload) = _
  rw [frameCut,be16_toBe16 small]
  have whole : ¬ (makeRecordHeader (inner.plaintext.length + 16) ++ payload).length <
      5 + (inner.plaintext.length + 16) := by omega
  rw [length]
  exact if_neg whole

variable (lawful : crypto.Lawful) (sealed : SealedFrom crypto key iv seq inners records)
include lawful sealed

theorem SealedFrom.frames (small : ∀ inner ∈ inners, inner.plaintext.length + 16 ≤ maxTlsCiphertextLen) :
    ∀ record ∈ records, frameCutter.cut record = .item record.length ∧
      (record.drop 5).length ≤ maxTlsCiphertextLen := by
  induction sealed with
  | nil seq => simp
  | cons record _ ih =>
    obtain ⟨first,rest⟩ := List.forall_mem_cons.mp small
    refine List.forall_mem_cons.mpr ⟨⟨?_,?_⟩,ih rest⟩
    · exact frameCut_sealRecord lawful record (Nat.lt_of_le_of_lt first (by decide))
    · rw [List.length_drop,sealRecord_length lawful record]
      omega

theorem SealedFrom.opens (count : seq + inners.length < 2^64) :
    openRecords crypto key iv seq records = .ok (inners.map Inner.opened) := by
  induction sealed with
  | nil seq => rfl
  | cons record _ ih =>
    rw [List.length_cons] at count
    rw [openRecords,decrypt_sealRecord lawful record (by omega),ok_bind,ih (by omega),ok_bind]
    rfl

end Streams

/-! Buffers of legal records, the last of which may be incomplete. -/

theorem frameCut_ne_fail (bytes : Bytes) : frameCut bytes ≠ .fail := by
  unfold frameCut
  split
  · split <;> exact fun impossible => by cases impossible
  · exact fun impossible => by cases impossible

theorem drain_frames {records : List Bytes} (whole : ∀ record ∈ records, frameCutter.cut record = .item record.length) :
    drain frameCutter records.flatten = ⟨records,[],false⟩ := by
  have items := drain_items frameCutter whole []
  rw [List.append_nil] at items
  rw [items]
  simp [drain_more frameCutter (show frameCutter.cut [] = .more from rfl)]

/-- Whole records off the front of a stream, and what is left of the next. -/
theorem frames_split {records : List Bytes} (whole : ∀ record ∈ records, frameCutter.cut record = .item record.length)
    {bytes later : Bytes} (stream : bytes ++ later = records.flatten) :
    ∃ done left part, records = done ++ left ∧ bytes = done.flatten ++ part ∧ frameCut part = .more ∧
      part ++ later = left.flatten := by
  have joined := drain_append frameCutter bytes later
  rw [stream,drain_frames whole] at joined
  have split : records = (drain frameCutter bytes).items ++
      (drain frameCutter ((drain frameCutter bytes).rest ++ later)).items := congrArg Drained.items joined
  have flat := drain_flatten frameCutter bytes
  have ends := drain_rest frameCutter bytes
  refine ⟨_,_,(drain frameCutter bytes).rest,split,flat.symm,?_,?_⟩
  · change frameCut _ = _ at ends
    split at ends
    · exact absurd ends (frameCut_ne_fail _)
    · exact ends
  · have same : (drain frameCutter bytes).items.flatten ++ ((drain frameCutter bytes).rest ++ later) =
        (drain frameCutter bytes).items.flatten ++
          (drain frameCutter ((drain frameCutter bytes).rest ++ later)).items.flatten := by
      rw [← List.append_assoc,flat,stream,← List.flatten_append,← split]
    exact List.append_cancel_left same

theorem frames_part_length {records : List Bytes} (whole : ∀ record ∈ records,
      frameCutter.cut record = .item record.length ∧ (record.drop 5).length ≤ maxTlsCiphertextLen)
    {part later : Bytes} (cut : frameCut part = .more) (stream : part ++ later = records.flatten) :
    part.length < tlsMaxRecordSize := by
  cases records with
  | nil =>
    rw [(List.append_eq_nil_iff.mp stream).1]
    decide
  | cons record records =>
    obtain ⟨item,small⟩ := whole record List.mem_cons_self
    by_contra long
    have short : record.length ≤ part.length := by
      rw [List.length_drop] at small
      rw [tlsMaxRecordSize,tlsRecordHeaderSize] at long
      omega
    have first : record <+: record ++ records.flatten := List.prefix_append _ _
    have both : part <+: record ++ records.flatten := by
      rw [← List.flatten_cons,← stream]
      exact List.prefix_append _ _
    obtain ⟨rest,rfl⟩ := List.prefix_of_prefix_length_le first both short
    have found := frameCutter.stable rest (by rw [item]; exact Cut.noConfusion)
    rw [item] at found
    cases cut.symm.trans found

end Dynet.Vless.Reality
