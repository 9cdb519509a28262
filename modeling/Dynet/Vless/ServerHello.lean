import Dynet.Vless.Cursor
import Dynet.Vless.VisionFilter
import Dynet.Vless.Reality.ClientVerify

/-! The two readers of a ServerHello. Over every frame they come to an end without a panic,
and the key share that one of them takes lies in the extensions that the other has walked. -/
namespace Dynet.Vless.Cursor
open Dynet.Lib.Slices

section Parsers
variable (target : Target)

/-- One extension of the loop in `parse_server_hello`. -/
def extensionsRound (isTls13 : Bool) : CursorM Bool := do
  let extType ← readU16Be target
  let extLen ← readU16Be target
  if extType = 43 then
    if extLen ≠ 2 then throw (invalidData "invalid supported_versions length")
    else
      let version ← readSlice target 2
      return version == [3,4]
  else
    skip target extLen
    return isTls13

-- A loop that has not ended within its rounds counts as a panic.
def extensionsLoop : Nat → Bool → CursorM Bool
  | 0,_ => StateT.lift panic
  | rounds+1,isTls13 => do
    if ← isConsumed then return isTls13
    else
      let isTls13 ← extensionsRound target isTls13
      extensionsLoop rounds isTls13

def readServerHello (rounds : Nat) : CursorM ParsedServerHello := do
  if (← readU8 target) ≠ 2 then throw (invalidData "expected ServerHello handshake type")
  let messageLen ← readU24Be target
  if (← remaining) < messageLen then throw (invalidData "ServerHello message length exceeds frame")
  if (← readU8 target) ≠ 3 then throw (invalidData "expected ServerHello legacy TLS version 3.3")
  if (← readU8 target) ≠ 3 then throw (invalidData "expected ServerHello legacy TLS version 3.3")
  if (← readSlice target 32) = retryRequestRandomBytes then throw (invalidData "server sent HelloRetryRequest")
  let sessionIdLen ← readU8 target
  if sessionIdLen > 32 then throw (invalidData "invalid ServerHello session id length")
  skip target sessionIdLen.toNat
  let cipherSuite ← readU16Be target
  skip target 1
  if ← isConsumed then return ⟨cipherSuite,false⟩
  let extensionsLen ← readU16Be target
  if (← remaining) < extensionsLen then throw (invalidData "extensions length exceeds ServerHello")
  let extensions ← readSlice target extensionsLen
  let isTls13 ← StateT.lift (run (extensionsLoop target rounds false) extensions)
  return ⟨cipherSuite,isTls13⟩

def parseServerHello (rounds : Nat) (serverHelloFrame : Bytes) : Guarded IoError ParsedServerHello := do
  if serverHelloFrame.length < 47 then throw (invalidData "ServerHello frame too short")
  let contentType ← index serverHelloFrame 0
  if contentType ≠ 0x16 then throw (invalidData "expected handshake content type")
  let major ← index serverHelloFrame 1
  if major ≠ 3 then throw (invalidData "unexpected ServerHello record TLS version")
  let minor ← index serverHelloFrame 2
  if minor ≠ 3 then throw (invalidData "unexpected ServerHello record TLS version")
  let message ← range serverHelloFrame 5 serverHelloFrame.length
  run (readServerHello target rounds) message

def parseServerKeyshareExtension : CursorM Bytes := do
  let group ← readU16Be target
  let keyLen ← readU16Be target
  if group = 29 then
    if keyLen ≠ 32 then throw (invalidData s!"Invalid X25519 key length: {keyLen}")
    let keyBytes ← readSlice target 32
    StateT.lift (copyFromSlice 32 keyBytes)
  else throw (invalidData "X25519 key share not found in ServerHello KeyShare extension")

/-- One extension of the loop in `extract_server_public_key`: the key ends the loop. -/
def keyshareRound : CursorM (Option Bytes) := do
  let extType ← readU16Be target
  let extLen ← readU16Be target
  if extType = 51 then
    let data ← readSlice target extLen
    let key ← StateT.lift (run (parseServerKeyshareExtension target) data)
    return some key
  else
    skip target extLen
    return none

def keyshareLoop (extensionsEnd : Nat) : Nat → CursorM Bytes
  | 0 => StateT.lift panic
  | rounds+1 => do
    if (← position) < extensionsEnd then
      match ← keyshareRound target with
      | some key => return key
      | none => keyshareLoop extensionsEnd rounds
    else throw (invalidData "KeyShare extension not found in ServerHello")

def skipServerHelloFront : CursorM Unit := do
  let _ ← readU8 target
  let _ ← readU24Be target
  let _ ← readU16Be target
  skip target 32
  let sessionIdLen ← readU8 target
  skip target sessionIdLen.toNat

def readServerPublicKey (rounds : Nat) : CursorM Bytes := do
  skipServerHelloFront target
  skip target 2
  skip target 1
  let extensionsLen ← readU16Be target
  let extensionsStart ← position
  let extensionsEnd ← StateT.lift (plus target extensionsStart extensionsLen)
  keyshareLoop target extensionsEnd rounds

def extractServerPublicKey (rounds : Nat) (serverHello : Bytes) : Guarded IoError Bytes := do
  if serverHello.length < 5 then throw (invalidData "ServerHello too short")
  let message ← range serverHello 5 serverHello.length
  run (readServerPublicKey target rounds) message

end Parsers

/-! One round of each loop of the model. -/

def modelExtension (isTls13 : Bool) : ReadM Bool := do
  let extType ← BufReader.readU16Be
  let extLen ← BufReader.readU16Be
  if extType = 43 then
    if extLen ≠ 2 then throw (invalidData "invalid supported_versions length")
    else
      let version ← BufReader.readSlice 2
      return version == [3,4]
  else
    BufReader.skip extLen
    return isTls13

def modelKeyshare : ReadM (Option Bytes) := do
  let extType ← BufReader.readU16Be
  let extLen ← BufReader.readU16Be
  if extType = 51 then
    let data ← BufReader.readSlice extLen
    let key ← StateT.lift (BufReader.run Reality.parseServerKeyshareExtension data)
    return some key
  else
    BufReader.skip extLen
    return none

theorem readExtensions_succ (rounds : Nat) (isTls13 : Bool) : readExtensions (rounds + 1) isTls13 = (do
    if ← BufReader.isConsumed then return isTls13
    else
      let isTls13 ← modelExtension isTls13
      readExtensions rounds isTls13) := by
  rw [readExtensions]
  congr 1
  funext consumed
  split
  · rfl
  · rw [modelExtension,bind_assoc]
    congr 1
    funext extType
    rw [bind_assoc]
    congr 1
    funext extLen
    split
    · split
      · rfl
      · rw [bind_assoc]
        rfl
    · rw [bind_assoc]
      rfl

theorem findServerKeyshare_succ (extensionsEnd rounds : Nat) : Reality.findServerKeyshare extensionsEnd (rounds + 1) = (do
    if (← BufReader.position) < extensionsEnd then
      match ← modelKeyshare with
      | some key => return key
      | none => Reality.findServerKeyshare extensionsEnd rounds
    else throw (invalidData "KeyShare extension not found in ServerHello")) := by
  rw [Reality.findServerKeyshare]
  congr 1
  funext pos
  split
  · rw [modelKeyshare,bind_assoc]
    congr 1
    funext extType
    rw [bind_assoc]
    congr 1
    funext extLen
    split
    · rw [bind_assoc]
      congr 1
      funext data
      rw [bind_assoc]
      simp only [pure_bind]
      exact (bind_pure _).symm
    · rw [bind_assoc]
      rfl
  · rfl

section Agreement
variable {target : Target} {buf : Bytes} (small : buf.length < 2 ^ (target.bits - 1))
include small

theorem agrees_extension (isTls13 : Bool) :
    Agrees buf (extensionsRound target isTls13) (modelExtension isTls13) 4 (fun _ => True) := by
  refine .bind (agrees_readU16Be small) fun extType _ => .bind (m := 0) (agrees_readU16Be small) fun extLen short => ?_
  refine .ite (fun _ => .ite (fun _ => .throw _ _ _) fun _ => ?_) fun _ => ?_
  · exact (agrees_readSlice small (by decide)).seq fun version _ => .pure _ trivial
  · exact (agrees_skip small short).seq fun _ _ => .pure _ trivial

theorem agrees_extensions {rounds fuel : Nat} {reader : BufReader} (isTls13 : Bool) (inside : Inside buf reader)
    (enough : buf.length - reader.pos < rounds) (fueled : buf.length - reader.pos < fuel) :
    AgreesAt reader (extensionsLoop target rounds isTls13) (readExtensions fuel isTls13) 0 (fun _ => True) := by
  induction rounds generalizing fuel reader isTls13 with
  | zero => omega
  | succ rounds ih =>
    obtain ⟨fuel,rfl⟩ := Nat.exists_eq_succ_of_ne_zero (Nat.ne_of_gt (Nat.lt_of_le_of_lt (Nat.zero_le _) fueled))
    rw [extensionsLoop,readExtensions_succ]
    obtain ⟨rfl,within⟩ := inside
    refine (agrees_isConsumed reader ⟨rfl,within⟩).seq fun consumed after _ still _ => ?_
    split
    · exact .pure still _ trivial
    · refine (agrees_extension small isTls13 after still).seq fun next later _ held moved => ?_
      have bounded := held.within
      rw [still.same] at held bounded
      exact ih next held (by omega) (by omega)

theorem run_extensionsLoop {rounds : Nat} (enough : buf.length < rounds) :
    run (extensionsLoop target rounds false) buf = done (BufReader.run (readExtensions (buf.length + 1) false) buf) := by
  have loop := (@agrees_extensions target buf small rounds (buf.length + 1) _ false (inside_new buf) enough (Nat.lt_succ_self _)).same
  rw [run,BufReader.run,loop]
  cases readExtensions (buf.length + 1) false (BufReader.new buf) <;> rfl

theorem agrees_serverHello {rounds : Nat} (enough : buf.length < rounds) :
    Agrees buf (readServerHello target rounds) Dynet.Vless.readServerHello 0 (fun _ => True) := by
  refine (agrees_readU8 small).seq fun type _ => .refuse fun _ => ?_
  refine (agrees_readU24Be small).seq fun messageLen _ => agrees_remaining.seq fun left _ => .refuse fun _ => ?_
  refine (agrees_readU8 small).seq fun major _ => .refuse fun _ => ?_
  refine (agrees_readU8 small).seq fun minor _ => .refuse fun _ => ?_
  refine (agrees_readSlice small (by decide)).seq fun random _ => .refuse fun _ => ?_
  refine (agrees_readU8 small).seq fun sessionIdLen _ => .refuse fun _ => ?_
  have short : sessionIdLen.toNat < 65536 := Nat.lt_trans sessionIdLen.toNat_lt (by decide)
  refine (agrees_skip small short).seq fun _ _ => (agrees_readU16Be small).seq fun cipherSuite _ => ?_
  refine (agrees_skip small (by decide)).seq fun _ _ => agrees_isConsumed.seq fun consumed _ => ?_
  refine .ite (fun _ => .pure _ trivial) fun _ => ?_
  refine (agrees_readU16Be small).seq fun extensionsLen bounded => agrees_remaining.seq fun left held => .refuse fun fits => ?_
  refine (agrees_readSlice small bounded).seq fun extensions size => ?_
  have inner : extensions.length < 2 ^ (target.bits - 1) := by omega
  rw [← size]
  exact (Agrees.lift (run_extensionsLoop inner (by omega))).seq fun isTls13 _ => .pure _ trivial

theorem agrees_keyshareExtension :
    Agrees buf (parseServerKeyshareExtension target) Reality.parseServerKeyshareExtension 0 (fun _ => True) := by
  refine (agrees_readU16Be small).seq fun group _ => (agrees_readU16Be small).seq fun keyLen _ => ?_
  refine .ite (fun _ => .refuse fun _ => ?_) fun _ => .throw _ _ _
  rw [← bind_pure (BufReader.readSlice 32)]
  refine (agrees_readSlice small (by decide)).seq fun key size => ?_
  rw [copyFromSlice,if_pos size]
  exact .pure _ trivial

theorem agrees_keyshare : Agrees buf (keyshareRound target) modelKeyshare 4 (fun _ => True) := by
  refine .bind (agrees_readU16Be small) fun extType _ => .bind (m := 0) (agrees_readU16Be small) fun extLen short => ?_
  refine .ite (fun _ => ?_) fun _ => (agrees_skip small short).seq fun _ _ => .pure _ trivial
  refine (agrees_readSlice small short).seq fun data size => ?_
  have halves := target.halves
  have inner : data.length < 2 ^ (target.bits - 1) := by omega
  exact (Agrees.lift (agrees_keyshareExtension inner).run).seq fun key _ => .pure _ trivial

theorem agrees_keyshares {extensionsEnd rounds fuel : Nat} {reader : BufReader} (inside : Inside buf reader)
    (enough : buf.length - reader.pos < rounds) (fueled : buf.length - reader.pos < fuel) :
    AgreesAt reader (keyshareLoop target extensionsEnd rounds) (Reality.findServerKeyshare extensionsEnd fuel) 0
      (fun _ => True) := by
  induction rounds generalizing fuel reader with
  | zero => omega
  | succ rounds ih =>
    obtain ⟨fuel,rfl⟩ := Nat.exists_eq_succ_of_ne_zero (Nat.ne_of_gt (Nat.lt_of_le_of_lt (Nat.zero_le _) fueled))
    rw [keyshareLoop,findServerKeyshare_succ]
    obtain ⟨rfl,within⟩ := inside
    refine (agrees_position reader ⟨rfl,within⟩).seq fun pos after _ still _ => ?_
    split
    · refine (agrees_keyshare small after still).seq fun key later _ held moved => ?_
      have bounded := held.within
      rw [still.same] at held bounded
      cases key with
      | none => exact ih held (by omega) (by omega)
      | some key => exact .pure held _ trivial
    · exact .throw _ _ _ _

theorem agrees_front : Agrees buf (skipServerHelloFront target) Reality.skipServerHelloFront 0 (fun _ => True) := by
  refine (agrees_readU8 small).seq fun _ _ => (agrees_readU24Be small).seq fun _ _ => ?_
  refine (agrees_readU16Be small).seq fun _ _ => (agrees_skip small (by decide)).seq fun _ _ => ?_
  refine (agrees_readU8 small).seq fun sessionIdLen _ => ?_
  have short : sessionIdLen.toNat < 65536 := Nat.lt_trans sessionIdLen.toNat_lt (by decide)
  rw [← bind_pure (skip target _),← bind_pure (BufReader.skip _)]
  exact (agrees_skip small short).seq fun _ _ => .pure _ trivial

theorem agrees_serverPublicKey {rounds fuel : Nat} (enough : buf.length < rounds) (fueled : buf.length < fuel) :
    Agrees buf (readServerPublicKey target rounds) (do
      Reality.skipServerHelloFront
      BufReader.skip 2
      BufReader.skip 1
      let extensionsLen ← BufReader.readU16Be
      let start ← BufReader.position
      Reality.findServerKeyshare (start + extensionsLen) fuel) 0 (fun _ => True) := by
  refine (agrees_front small).seq fun _ _ => (agrees_skip small (by decide)).seq fun _ _ => ?_
  refine (agrees_skip small (by decide)).seq fun _ _ => (agrees_readU16Be small).seq fun extensionsLen short => ?_
  refine agrees_position.seq fun start within => ?_
  have halves := target.halves
  rw [plus,if_pos (by omega)]
  exact fun reader inside => agrees_keyshares small inside (by omega) (by omega)

end Agreement

section Frames
variable {target : Target} {frame : Bytes} (small : frame.length < 2 ^ (target.bits - 1)) {rounds : Nat}
  (enough : frame.length < rounds)

theorem range_rest {β : Type} {n : Nat} (fits : n ≤ frame.length) (next : Bytes → Guarded IoError β) :
    (range frame n frame.length >>= next) = next (frame.drop n) := by
  rw [range,if_pos ⟨fits,Nat.le_refl _⟩,← List.length_drop,List.take_length]
  exact pure_bind _ next

include small enough

theorem extractServerPublicKey_done :
    extractServerPublicKey target rounds frame = done (Reality.extractServerPublicKey frame) := by
  rw [extractServerPublicKey,Reality.extractServerPublicKey]
  by_cases short : frame.length < 5
  · rw [if_pos short,if_pos short]
    rfl
  · have length := List.length_drop (i := 5) (l := frame)
    rw [if_neg short,if_neg short,range_rest (Nat.not_lt.1 short)]
    exact (agrees_serverPublicKey (by omega) (by omega) (by omega)).run

theorem parseServerHello_done :
    parseServerHello target rounds frame = done (Dynet.Vless.parseServerHello frame) := by
  unfold parseServerHello Dynet.Vless.parseServerHello
  by_cases short : frame.length < 47
  · rw [if_pos short,if_pos short]
    rfl
  · have length := List.length_drop (i := 5) (l := frame)
    have body := (@agrees_serverHello target (frame.drop 5) (by omega) rounds (by omega)).run
    have rest := @range_rest frame _ 5 (by omega) (run (readServerHello target rounds))
    rw [if_neg short,if_neg short]
    obtain _ | ⟨contentType,_ | ⟨major,_ | ⟨minor,tail⟩⟩⟩ := frame
    · exact absurd (by decide : 0 < 47) short
    · exact absurd (by decide : 1 < 47) short
    · exact absurd (by decide : 2 < 47) short
    · refine (index_bind (x := contentType) rfl _).trans ?_
      by_cases handshake : contentType ≠ 0x16
      · rw [if_pos handshake]
        simp only [if_pos handshake]
        rfl
      · rw [if_neg handshake]
        simp only [if_neg handshake]
        refine (index_bind (x := major) rfl _).trans ?_
        by_cases first : major ≠ 3
        · rw [if_pos first,if_pos (.inl first)]
          rfl
        · rw [if_neg first]
          refine (index_bind (x := minor) rfl _).trans ?_
          by_cases second : minor ≠ 3
          · rw [if_pos second,if_pos (.inr second)]
            rfl
          · rw [if_neg second,if_neg (not_or.2 ⟨first,second⟩)]
            exact rest.trans body

end Frames

/-! What both have read of a frame that is accepted. -/

structure Extension where
  extType : Nat
  body : Bytes
  deriving DecidableEq, Repr

namespace Extension

def bytes (extension : Extension) : Bytes := toBe16 extension.extType ++ toBe16 extension.body.length ++ extension.body

def Fits (extension : Extension) : Prop := extension.extType < 65536 ∧ extension.body.length < 65536

def block (extensions : List Extension) : Bytes := extensions.flatMap bytes

end Extension

section Reading
variable {α β : Type} {buf : Bytes} {pos : Nat}

theorem read_bind_ok {read : ReadM α} {next : α → ReadM β} {reader after : BufReader} {value : β}
    (reached : (read >>= next) reader = .ok (value,after)) :
    ∃ first middle, read reader = .ok (first,middle) ∧ next first middle = .ok (value,after) := by
  change (read reader >>= fun pair => next pair.1 pair.2) = _ at reached
  cases result : read reader with
  | error error =>
    rw [result] at reached
    cases reached
  | ok pair =>
    rw [result] at reached
    exact ⟨pair.1,pair.2,rfl,reached⟩

theorem ok_bind {read : ReadM α} {reader middle : BufReader} {first : α} (made : read reader = .ok (first,middle))
    (next : α → ReadM β) : (read >>= next) reader = next first middle := by
  change (read reader >>= fun pair => next pair.1 pair.2) = _
  rw [made]
  rfl

theorem refuse_ok {c : Prop} [Decidable c] {error : IoError} {next : α → ReadM β} {no : ReadM β} {reader after : BufReader}
    {value : β} (reached : (if c then throw error >>= next else no) reader = .ok (value,after)) :
    ¬c ∧ no reader = .ok (value,after) := by
  split at reached
  · cases reached
  · rename_i passed
    exact ⟨passed,reached⟩

theorem readSlice_ok {len : Nat} {slice : Bytes} {after : BufReader}
    (made : BufReader.readSlice len ⟨buf,pos⟩ = .ok (slice,after)) :
    after = ⟨buf,pos + len⟩ ∧ slice.length = len ∧ pos + len ≤ buf.length ∧ buf.drop pos = slice ++ buf.drop (pos + len) := by
  by_cases past : pos + len > buf.length
  · rw [readSlice_past past] at made
    cases made
  · rw [readSlice_inside (Nat.not_lt.1 past)] at made
    cases made
    refine ⟨rfl,?_,Nat.not_lt.1 past,?_⟩
    · rw [List.length_take,List.length_drop]
      omega
    · rw [← List.drop_drop,List.take_append_drop]

theorem skip_inside {amount : Nat} (fits : pos + amount ≤ buf.length) :
    BufReader.skip amount ⟨buf,pos⟩ = .ok ((),⟨buf,pos + amount⟩) := by
  rw [BufReader.skip,ok_bind (readSlice_inside fits)]
  rfl

theorem skip_ok {amount : Nat} {after : BufReader} (made : BufReader.skip amount ⟨buf,pos⟩ = .ok ((),after)) :
    after = ⟨buf,pos + amount⟩ ∧ pos + amount ≤ buf.length ∧
      buf.drop pos = (buf.drop pos).take amount ++ buf.drop (pos + amount) := by
  obtain ⟨slice,middle,read,rest⟩ := read_bind_ok made
  cases rest
  obtain ⟨same,-,fits,-⟩ := readSlice_ok read
  exact ⟨same,fits,by rw [← List.drop_drop,List.take_append_drop]⟩

theorem toBe16_be16 (high low : UInt8) : toBe16 (be16 high low) = [high,low] := by
  have bound := low.toNat_lt
  have front : (high.toNat * 256 + low.toNat) / 256 = high.toNat := by omega
  rw [toBe16,be16,front,UInt8.ofNat_toNat]
  congr 2
  apply UInt8.toNat_inj.mp
  rw [UInt8.toNat_ofNat']
  omega

theorem readU16Be_ok {value : Nat} {after : BufReader} (made : BufReader.readU16Be ⟨buf,pos⟩ = .ok (value,after)) :
    after = ⟨buf,pos + 2⟩ ∧ value < 65536 ∧ pos + 2 ≤ buf.length ∧ buf.drop pos = toBe16 value ++ buf.drop (pos + 2) := by
  obtain ⟨slice,middle,read,rest⟩ := read_bind_ok made
  obtain ⟨rfl,size,fits,split⟩ := readSlice_ok read
  match slice, size with
  | [high,low], _ =>
    cases rest
    have first := high.toNat_lt
    have second := low.toNat_lt
    refine ⟨rfl,?_,fits,?_⟩
    · rw [be16]
      omega
    · rw [toBe16_be16]
      exact split

theorem readU16Be_inside (fits : pos + 2 ≤ buf.length) :
    ∃ value, BufReader.readU16Be ⟨buf,pos⟩ = .ok (value,⟨buf,pos + 2⟩) := by
  have second : pos + 1 < buf.length := fits
  have first : pos < buf.length := by omega
  refine ⟨be16 buf[pos] buf[pos + 1],?_⟩
  rw [BufReader.readU16Be,ok_bind (readSlice_inside fits),List.drop_eq_getElem_cons first,List.drop_eq_getElem_cons second]
  rfl

theorem readU8_ok {value : UInt8} {after : BufReader} (made : BufReader.readU8 ⟨buf,pos⟩ = .ok (value,after)) :
    after = ⟨buf,pos + 1⟩ ∧ buf[pos]? = some value := by
  obtain ⟨slice,middle,read,rest⟩ := read_bind_ok made
  obtain ⟨rfl,size,-,split⟩ := readSlice_ok read
  match slice, size with
  | [byte], _ =>
    cases rest
    refine ⟨rfl,?_⟩
    have head := congrArg (·[0]?) split
    rw [List.getElem?_drop] at head
    exact head

-- What is written there is read back.
theorem readSlice_written {slice rest : Bytes} (within : pos ≤ buf.length) (written : buf.drop pos = slice ++ rest) :
    BufReader.readSlice slice.length ⟨buf,pos⟩ = .ok (slice,⟨buf,pos + slice.length⟩) := by
  have length := congrArg List.length written
  rw [List.length_drop,List.length_append] at length
  rw [readSlice_inside (by omega),written,List.take_left]

theorem drop_written {slice rest : Bytes} (written : buf.drop pos = slice ++ rest) : buf.drop (pos + slice.length) = rest := by
  rw [← List.drop_drop,written,List.drop_left]

theorem readU16Be_written {value : Nat} {rest : Bytes} (within : pos ≤ buf.length) (small : value < 65536)
    (written : buf.drop pos = toBe16 value ++ rest) : BufReader.readU16Be ⟨buf,pos⟩ = .ok (value,⟨buf,pos + 2⟩) := by
  have read : BufReader.readSlice 2 ⟨buf,pos⟩ = _ := readSlice_written within written
  rw [BufReader.readU16Be,ok_bind read]
  exact congrArg (fun value => Except.ok (value,BufReader.mk buf (pos + 2))) (be16_toBe16 small)

end Reading

section Walks
variable {buf : Bytes} {pos : Nat}

theorem Extension.length_bytes (extension : Extension) : extension.bytes.length = 4 + extension.body.length := by
  rw [Extension.bytes,List.length_append,List.length_append]
  rfl

theorem modelExtension_ok {before isTls13 : Bool} {after : BufReader}
    (made : modelExtension before ⟨buf,pos⟩ = .ok (isTls13,after)) :
    ∃ extension : Extension, extension.Fits ∧ after = ⟨buf,pos + extension.bytes.length⟩ ∧
      pos + extension.bytes.length ≤ buf.length ∧ buf.drop pos = extension.bytes ++ buf.drop (pos + extension.bytes.length) := by
  obtain ⟨extType,_,first,made⟩ := read_bind_ok made
  obtain ⟨rfl,typed,-,typeBytes⟩ := readU16Be_ok first
  obtain ⟨extLen,_,second,made⟩ := read_bind_ok made
  obtain ⟨rfl,short,-,lenBytes⟩ := readU16Be_ok second
  suffices ∃ body, body.length = extLen ∧ after = ⟨buf,pos + 2 + 2 + extLen⟩ ∧ pos + 2 + 2 + extLen ≤ buf.length ∧
      buf.drop (pos + 2 + 2) = body ++ buf.drop (pos + 2 + 2 + extLen) by
    obtain ⟨body,rfl,rfl,fits,split⟩ := this
    have length : (Extension.mk extType body).bytes.length = 4 + body.length := Extension.length_bytes _
    have place : pos + (Extension.mk extType body).bytes.length = pos + 2 + 2 + body.length := by omega
    refine ⟨⟨extType,body⟩,⟨typed,short⟩,by rw [place],by rw [place]; exact fits,?_⟩
    rw [place,typeBytes,lenBytes,split,Extension.bytes,List.append_assoc,List.append_assoc]
  split at made
  · split at made
    · cases made
    · rename_i two
      obtain ⟨version,_,read,made⟩ := read_bind_ok made
      obtain ⟨rfl,size,fits,split⟩ := readSlice_ok read
      cases made
      have same : extLen = 2 := Decidable.of_not_not two
      rw [same]
      exact ⟨version,size,rfl,fits,split⟩
  · obtain ⟨_,_,read,made⟩ := read_bind_ok made
    obtain ⟨rfl,fits,split⟩ := skip_ok read
    cases made
    refine ⟨_,?_,rfl,fits,split⟩
    rw [List.length_take,List.length_drop]
    omega

theorem readExtensions_ok {rounds : Nat} {before isTls13 : Bool} {after : BufReader} (within : pos ≤ buf.length)
    (enough : buf.length - pos < rounds) (walked : readExtensions rounds before ⟨buf,pos⟩ = .ok (isTls13,after)) :
    ∃ extensions : List Extension, (∀ extension ∈ extensions, extension.Fits) ∧ buf.drop pos = Extension.block extensions := by
  induction rounds generalizing pos before with
  | zero => omega
  | succ rounds ih =>
    rw [readExtensions_succ] at walked
    obtain ⟨consumed,_,here,walked⟩ := read_bind_ok walked
    cases here
    split at walked
    · rename_i ended
      refine ⟨[],List.forall_mem_nil _,List.drop_eq_nil_of_le ?_⟩
      exact Nat.le_of_eq (eq_of_beq ended).symm
    · obtain ⟨next,_,made,walked⟩ := read_bind_ok walked
      obtain ⟨extension,fits,rfl,inside,split⟩ := modelExtension_ok made
      have length := extension.length_bytes
      obtain ⟨extensions,all,rest⟩ := ih inside (by omega) walked
      refine ⟨extension::extensions,List.forall_mem_cons.mpr ⟨fits,all⟩,?_⟩
      rw [split,rest]
      rfl

theorem modelKeyshare_written {extension : Extension} {rest : Bytes} (within : pos ≤ buf.length) (fits : extension.Fits)
    (written : buf.drop pos = extension.bytes ++ rest) :
    modelKeyshare ⟨buf,pos⟩ = if extension.extType = 51 then (do
        let key ← BufReader.run Reality.parseServerKeyshareExtension extension.body
        return (some key,⟨buf,pos + extension.bytes.length⟩))
      else .ok (none,⟨buf,pos + extension.bytes.length⟩) := by
  have size := extension.length_bytes
  have length := congrArg List.length written
  rw [List.length_drop,List.length_append] at length
  rw [Extension.bytes,List.append_assoc,List.append_assoc] at written
  have first := readU16Be_written within fits.1 written
  have afterType : buf.drop (pos + 2) = _ := drop_written written
  have second := readU16Be_written (by omega) fits.2 afterType
  have afterLen : buf.drop (pos + 2 + 2) = _ := drop_written afterType
  have third := readSlice_written (by omega) afterLen
  have skipped := @skip_inside buf (pos + 2 + 2) extension.body.length (by omega)
  have place : pos + 2 + 2 + extension.body.length = pos + extension.bytes.length := by omega
  rw [place] at third skipped
  rw [modelKeyshare,ok_bind first,ok_bind second]
  split
  · rw [ok_bind third]
    cases BufReader.run Reality.parseServerKeyshareExtension extension.body <;> rfl
  · rw [ok_bind skipped]
    rfl

theorem findServerKeyshare_ok {rounds : Nat} {extensions : List Extension} {rest key : Bytes} {after : BufReader}
    (within : pos ≤ buf.length) (fits : ∀ extension ∈ extensions, extension.Fits)
    (written : buf.drop pos = Extension.block extensions ++ rest)
    (found : Reality.findServerKeyshare (pos + (Extension.block extensions).length) rounds ⟨buf,pos⟩ = .ok (key,after)) :
    ∃ before body later, extensions = before ++ ⟨51,body⟩ :: later ∧ (∀ extension ∈ before, extension.extType ≠ 51) ∧
      BufReader.run Reality.parseServerKeyshareExtension body = .ok key := by
  induction extensions generalizing pos rounds with
  | nil =>
    cases rounds with
    | zero => cases found
    | succ rounds =>
      rw [findServerKeyshare_succ] at found
      obtain ⟨place,_,here,found⟩ := read_bind_ok found
      cases here
      have ended : ¬pos < pos + (Extension.block []).length := Nat.lt_irrefl _
      rw [if_neg ended] at found
      cases found
  | cons extension extensions ih =>
    cases rounds with
    | zero => cases found
    | succ rounds =>
      obtain ⟨fit,fits⟩ := List.forall_mem_cons.mp fits
      have split : Extension.block (extension::extensions) = extension.bytes ++ Extension.block extensions := rfl
      have length := extension.length_bytes
      rw [findServerKeyshare_succ] at found
      obtain ⟨place,_,here,found⟩ := read_bind_ok found
      cases here
      rw [split,List.append_assoc] at written
      rw [split,List.length_append] at found
      have longer := congrArg List.length written
      rw [List.length_drop,List.length_append] at longer
      have more : pos < pos + (extension.bytes.length + (Extension.block extensions).length) := by omega
      rw [if_pos more] at found
      obtain ⟨outcome,_,one,found⟩ := read_bind_ok found
      rw [modelKeyshare_written within fit written] at one
      split at one
      · rename_i share
        cases taken : BufReader.run Reality.parseServerKeyshareExtension extension.body with
        | error error =>
          rw [taken] at one
          cases one
        | ok value =>
          rw [taken] at one
          cases one
          cases found
          exact ⟨[],extension.body,extensions,by rw [← share]; rfl,List.forall_mem_nil _,taken⟩
      · rename_i other
        cases one
        rw [← Nat.add_assoc] at found
        obtain ⟨before,body,later,rfl,clean,taken⟩ := ih (by omega) fits (drop_written written) found
        exact ⟨extension::before,body,later,rfl,List.forall_mem_cons.mpr ⟨other,clean⟩,taken⟩

theorem run_ok {α : Type} {read : ReadM α} {value : α} (made : BufReader.run read buf = .ok value) :
    ∃ after, read ⟨buf,0⟩ = .ok (value,after) := by
  rw [BufReader.run,BufReader.new] at made
  cases result : read ⟨buf,0⟩ with
  | error error =>
    rw [result] at made
    cases made
  | ok pair =>
    rw [result] at made
    cases made
    exact ⟨pair.2,rfl⟩

theorem lift_ok {α : Type} {read : Except IoError α} {value : α} {reader after : BufReader}
    (made : (StateT.lift read : ReadM α) reader = .ok (value,after)) : read = .ok value := by
  cases read with
  | error error => cases made
  | ok held =>
    cases made
    rfl

theorem keyshareExtension_ok {body key : Bytes} (taken : BufReader.run Reality.parseServerKeyshareExtension body = .ok key) :
    ∃ tail, body = toBe16 29 ++ toBe16 32 ++ key ++ tail ∧ key.length = 32 := by
  obtain ⟨_,taken⟩ := run_ok taken
  obtain ⟨group,_,first,taken⟩ := read_bind_ok taken
  obtain ⟨rfl,-,-,groupBytes⟩ := readU16Be_ok first
  obtain ⟨keyLen,_,second,taken⟩ := read_bind_ok taken
  obtain ⟨rfl,-,-,lenBytes⟩ := readU16Be_ok second
  split at taken
  · rename_i x25519
    obtain ⟨whole,taken⟩ := refuse_ok taken
    obtain ⟨rfl,size,-,keyBytes⟩ := readSlice_ok taken
    have length : keyLen = 32 := Decidable.of_not_not whole
    subst x25519 length
    refine ⟨body.drop (0 + 2 + 2 + 32),?_,size⟩
    rw [List.append_assoc,List.append_assoc,← keyBytes,← lenBytes,← groupBytes,List.drop_zero]
  · cases taken

theorem readU24Be_ok {value : Nat} {after : BufReader} (made : BufReader.readU24Be ⟨buf,pos⟩ = .ok (value,after)) :
    after = ⟨buf,pos + 3⟩ := by
  obtain ⟨slice,middle,read,rest⟩ := read_bind_ok made
  obtain ⟨rfl,size,-,-⟩ := readSlice_ok read
  match slice, size with
  | [_,_,_], _ =>
    cases rest
    rfl

/-- Both readers come to the same place behind the compression method, and there the block
that the loop of the first one walks begins, unless the message ends. -/
theorem serverHello_ok {parsed : ParsedServerHello} {after : BufReader}
    (accepted : Dynet.Vless.readServerHello ⟨buf,0⟩ = .ok (parsed,after)) :
    ∃ sessionIdLen : UInt8, buf[38]? = some sessionIdLen ∧ 42 + sessionIdLen.toNat ≤ buf.length ∧
      Reality.skipServerHelloFront ⟨buf,0⟩ = .ok ((),⟨buf,39 + sessionIdLen.toNat⟩) ∧
      (42 + sessionIdLen.toNat = buf.length ∨ ∃ block rest, block.length < 65536 ∧
        buf.drop (42 + sessionIdLen.toNat) = toBe16 block.length ++ (block ++ rest) ∧
        BufReader.run (readExtensions (block.length + 1) false) block = .ok parsed.isTls13) := by
  obtain ⟨type,_,typed,accepted⟩ := read_bind_ok accepted
  obtain ⟨rfl,-⟩ := readU8_ok typed
  obtain ⟨-,accepted⟩ := refuse_ok accepted
  obtain ⟨messageLen,_,sized,accepted⟩ := read_bind_ok accepted
  obtain rfl := readU24Be_ok sized
  obtain ⟨left,_,here,accepted⟩ := read_bind_ok accepted
  cases here
  obtain ⟨-,accepted⟩ := refuse_ok accepted
  obtain ⟨major,_,first,accepted⟩ := read_bind_ok accepted
  obtain ⟨rfl,-⟩ := readU8_ok first
  obtain ⟨-,accepted⟩ := refuse_ok accepted
  obtain ⟨minor,_,second,accepted⟩ := read_bind_ok accepted
  obtain ⟨rfl,-⟩ := readU8_ok second
  obtain ⟨-,accepted⟩ := refuse_ok accepted
  obtain ⟨random,_,drawn,accepted⟩ := read_bind_ok accepted
  obtain ⟨rfl,-,randomFits,-⟩ := readSlice_ok drawn
  obtain ⟨-,accepted⟩ := refuse_ok accepted
  obtain ⟨sessionIdLen,_,session,accepted⟩ := read_bind_ok accepted
  obtain ⟨rfl,sessionByte⟩ := readU8_ok session
  obtain ⟨-,accepted⟩ := refuse_ok accepted
  obtain ⟨_,_,sessionId,accepted⟩ := read_bind_ok accepted
  obtain ⟨rfl,idFits,-⟩ := skip_ok sessionId
  obtain ⟨cipherSuite,_,suite,accepted⟩ := read_bind_ok accepted
  obtain ⟨rfl,-,-,-⟩ := readU16Be_ok suite
  obtain ⟨_,_,compression,accepted⟩ := read_bind_ok accepted
  obtain ⟨rfl,methodFits,-⟩ := skip_ok compression
  have place : 0 + 1 + 3 + 1 + 1 + 32 + 1 + sessionIdLen.toNat + 2 + 1 = 42 + sessionIdLen.toNat := by omega
  rw [place] at accepted methodFits
  obtain ⟨version,legacy⟩ := @readU16Be_inside buf (0 + 1 + 3) (by omega)
  have front : Reality.skipServerHelloFront ⟨buf,0⟩ = .ok ((),⟨buf,39 + sessionIdLen.toNat⟩) := by
    rw [Reality.skipServerHelloFront,ok_bind typed,ok_bind sized,ok_bind legacy,ok_bind (skip_inside (by omega)),
      ok_bind session,sessionId]
  refine ⟨sessionIdLen,sessionByte,methodFits,front,?_⟩
  obtain ⟨consumed,_,here,accepted⟩ := read_bind_ok accepted
  cases here
  split at accepted
  · rename_i ended
    exact .inl (eq_of_beq ended)
  · obtain ⟨extensionsLen,_,counted,accepted⟩ := read_bind_ok accepted
    obtain ⟨rfl,short,-,lenBytes⟩ := readU16Be_ok counted
    obtain ⟨left,_,here,accepted⟩ := read_bind_ok accepted
    cases here
    obtain ⟨-,accepted⟩ := refuse_ok accepted
    obtain ⟨block,_,taken,accepted⟩ := read_bind_ok accepted
    obtain ⟨rfl,rfl,-,blockBytes⟩ := readSlice_ok taken
    obtain ⟨isTls13,_,walked,accepted⟩ := read_bind_ok accepted
    cases accepted
    exact .inr ⟨block,_,short,by rw [lenBytes,blockBytes],lift_ok walked⟩

end Walks

section Frames
variable {target : Target}

/-- What lies at the place of the extensions in a frame that `parse_server_hello` accepts: the
block that its loop has walked. -/
structure Walked (target : Target) (frame : Bytes) (parsed : ParsedServerHello) (block : Bytes) : Prop where
  place : ∃ sessionIdLen rest, frame[43]? = some sessionIdLen ∧
    frame.drop (47 + sessionIdLen.toNat) = toBe16 block.length ++ (block ++ rest)
  walk : ∀ rounds, block.length < rounds → run (extensionsLoop target rounds false) block = done (.ok parsed.isTls13)

theorem parseServerHello_ok {frame : Bytes} {parsed : ParsedServerHello}
    (accepted : Dynet.Vless.parseServerHello frame = .ok parsed) :
    5 ≤ frame.length ∧ ∃ after, Dynet.Vless.readServerHello ⟨frame.drop 5,0⟩ = .ok (parsed,after) := by
  unfold Dynet.Vless.parseServerHello at accepted
  split at accepted
  · cases accepted
  · rename_i long
    refine ⟨by omega,?_⟩
    split at accepted
    · split at accepted
      · cases accepted
      · split at accepted
        · cases accepted
        · exact run_ok accepted
    · cases accepted

/-- The search starts where the walk of the block has started and goes over the same extensions. -/
theorem extractServerPublicKey_ok {frame block rest key : Bytes} {sessionIdLen : UInt8} {extensions : List Extension}
    (front : Reality.skipServerHelloFront ⟨frame.drop 5,0⟩ = .ok ((),⟨frame.drop 5,39 + sessionIdLen.toNat⟩))
    (within : 42 + sessionIdLen.toNat ≤ (frame.drop 5).length) (short : block.length < 65536)
    (written : (frame.drop 5).drop (42 + sessionIdLen.toNat) = toBe16 block.length ++ (block ++ rest))
    (fits : ∀ extension ∈ extensions, extension.Fits) (split : block = Extension.block extensions)
    (taken : Reality.extractServerPublicKey frame = .ok key) :
    ∃ before body later, extensions = before ++ ⟨51,body⟩ :: later ∧ (∀ extension ∈ before, extension.extType ≠ 51) ∧
      BufReader.run Reality.parseServerKeyshareExtension body = .ok key := by
  unfold Reality.extractServerPublicKey at taken
  split at taken
  · cases taken
  · obtain ⟨_,taken⟩ := run_ok taken
    rw [ok_bind front,ok_bind (skip_inside (by omega)),ok_bind (skip_inside (by omega))] at taken
    have place : 39 + sessionIdLen.toNat + 2 + 1 = 42 + sessionIdLen.toNat := by omega
    rw [place,ok_bind (readU16Be_written within short written)] at taken
    have size := congrArg List.length written
    rw [List.length_drop,List.length_append,List.length_append] at size
    have two : (toBe16 block.length).length = 2 := rfl
    have behind : (frame.drop 5).drop (42 + sessionIdLen.toNat + 2) = block ++ rest := drop_written written
    subst split
    exact findServerKeyshare_ok (by omega) fits behind taken

theorem extractServerPublicKey_ended {frame : Bytes} {sessionIdLen : UInt8}
    (front : Reality.skipServerHelloFront ⟨frame.drop 5,0⟩ = .ok ((),⟨frame.drop 5,39 + sessionIdLen.toNat⟩))
    (ended : 42 + sessionIdLen.toNat = (frame.drop 5).length) (key : Bytes) : Reality.extractServerPublicKey frame ≠ .ok key := by
  intro taken
  unfold Reality.extractServerPublicKey at taken
  split at taken
  · cases taken
  · obtain ⟨_,taken⟩ := run_ok taken
    rw [ok_bind front,ok_bind (skip_inside (by omega)),ok_bind (skip_inside (by omega))] at taken
    obtain ⟨extensionsLen,_,counted,-⟩ := read_bind_ok taken
    obtain ⟨-,-,fits,-⟩ := readU16Be_ok counted
    omega

/-- Over every slice both parsers end, and every round of their loops moves the cursor by four
bytes or more inside of the slice. On a frame that the first one accepts the second one fails or
takes the first key share of the block that the first one has walked. -/
theorem serverHello_parsers (target : Target) (frame : target.Slice) :
    ((∃ result, ∀ extra, parseServerHello target (frame.val.length + 1 + extra) frame.val = done result) ∧
      ∃ result, ∀ extra, extractServerPublicKey target (frame.val.length + 1 + extra) frame.val = done result) ∧
    (∀ (bytes : target.Slice) pos, pos ≤ bytes.val.length →
      (∀ before isTls13 after, extensionsRound target before ⟨bytes.val,pos⟩ = done (.ok (isTls13,after)) →
        pos + 4 ≤ after.pos ∧ after.pos ≤ bytes.val.length) ∧
      ∀ key after, keyshareRound target ⟨bytes.val,pos⟩ = done (.ok (key,after)) →
        pos + 4 ≤ after.pos ∧ after.pos ≤ bytes.val.length) ∧
    ∀ extra parsed, parseServerHello target (frame.val.length + 1 + extra) frame.val = done (.ok parsed) →
      (∃ error, extractServerPublicKey target (frame.val.length + 1 + extra) frame.val = done (.error error)) ∨
      ∃ key block before body later tail,
        extractServerPublicKey target (frame.val.length + 1 + extra) frame.val = done (.ok key) ∧
        Walked target frame.val parsed block ∧ block = Extension.block (before ++ ⟨51,body⟩ :: later) ∧
        (∀ extension ∈ before, extension.extType ≠ 51) ∧ body = toBe16 29 ++ toBe16 32 ++ key ++ tail ∧ key.length = 32 := by
  obtain ⟨frame,small⟩ := frame
  have parsing : ∀ extra, parseServerHello target (frame.length + 1 + extra) frame = done (Dynet.Vless.parseServerHello frame) :=
    fun extra => parseServerHello_done small (by omega)
  have extracting : ∀ extra, extractServerPublicKey target (frame.length + 1 + extra) frame =
      done (Reality.extractServerPublicKey frame) := fun extra => extractServerPublicKey_done small (by omega)
  refine ⟨⟨⟨_,parsing⟩,⟨_,extracting⟩⟩,fun bytes pos within => ⟨fun before isTls13 after made => ?_,fun key after made => ?_⟩,
    fun extra parsed accepted => ?_⟩
  · obtain ⟨same,ends⟩ := agrees_extension bytes.property before ⟨bytes.val,pos⟩ ⟨rfl,within⟩
    obtain ⟨-,inside,moved⟩ := ends isTls13 after (done_inj.mp (same.symm.trans made))
    exact ⟨moved,inside.within⟩
  · obtain ⟨same,ends⟩ := agrees_keyshare bytes.property ⟨bytes.val,pos⟩ ⟨rfl,within⟩
    obtain ⟨-,inside,moved⟩ := ends key after (done_inj.mp (same.symm.trans made))
    exact ⟨moved,inside.within⟩
  · rw [parsing,done_inj] at accepted
    rw [extracting]
    cases taken : Reality.extractServerPublicKey frame with
    | error error => exact .inl ⟨error,rfl⟩
    | ok key =>
      refine .inr ?_
      obtain ⟨long,_,accepted⟩ := parseServerHello_ok accepted
      obtain ⟨sessionIdLen,session,within,front,ended | ⟨block,rest,short,written,walked⟩⟩ := serverHello_ok accepted
      · exact absurd taken (extractServerPublicKey_ended front ended key)
      · obtain ⟨_,walk⟩ := run_ok walked
        obtain ⟨extensions,fits,split⟩ := readExtensions_ok (Nat.zero_le _) (by omega) walk
        obtain ⟨before,body,later,rfl,clean,share⟩ :=
          extractServerPublicKey_ok front within short written fits split taken
        obtain ⟨tail,bytes,size⟩ := keyshareExtension_ok share
        have halves := target.halves
        have inner : block.length < 2 ^ (target.bits - 1) := by omega
        refine ⟨key,block,before,body,later,tail,rfl,⟨⟨sessionIdLen,rest,?_,?_⟩,fun rounds enough => ?_⟩,split,clean,bytes,size⟩
        · rw [List.getElem?_drop] at session
          exact session
        · rw [List.drop_drop,← Nat.add_assoc] at written
          exact written
        · rw [run_extensionsLoop inner enough,walked]

end Frames

end Dynet.Vless.Cursor
