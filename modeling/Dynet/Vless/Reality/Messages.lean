import Mathlib.Data.List.GetD
import Dynet.Vless.Reality.Connection

/-! The handshake messages in the plaintext of the records. The message loop starts over at
the front of every record, so what it finds is a matter of how the records were cut. -/
namespace Dynet.Vless.Reality
open Dynet.Lib.Checks
open Dynet.Lib.Framing

theorem byteAt_append_left {front : Bytes} {i : Nat} (inside : i < front.length) (later : Bytes) :
    byteAt (front ++ later) i = byteAt front i := by
  rw [byteAt,byteAt,List.getD_append _ _ _ _ inside]

theorem byteAt_append_right (front later : Bytes) (i : Nat) :
    byteAt (front ++ later) (front.length + i) = byteAt later i := by
  rw [byteAt,byteAt,List.getD_append_right _ _ _ _ (Nat.le_add_right _ _),Nat.add_sub_cancel_left]

theorem be24At_append_left {front : Bytes} {i : Nat} (inside : i + 2 < front.length) (later : Bytes) :
    be24At (front ++ later) i = be24At front i := by
  rw [be24At,be24At,byteAt_append_left (by omega),byteAt_append_left (by omega),byteAt_append_left inside]

theorem be24At_append_right (front later : Bytes) (i : Nat) :
    be24At (front ++ later) (front.length + i) = be24At later i := by
  rw [be24At,be24At,Nat.add_assoc,Nat.add_assoc,byteAt_append_right,byteAt_append_right,byteAt_append_right]

/-- Where the first message of a plaintext ends: type, three bytes of length, body. -/
def messageCut (plaintext : Bytes) : Cut :=
  if plaintext.length < 4 then .more
  else if plaintext.length < 4 + be24At plaintext 1 then .more
  else .item (4 + be24At plaintext 1)

theorem messageCut_item {plaintext : Bytes} {n : Nat} (item : messageCut plaintext = .item n) :
    n = 4 + be24At plaintext 1 ∧ n ≤ plaintext.length := by
  rw [messageCut] at item
  split at item
  · cases item
  · split at item
    · cases item
    next whole =>
      cases item
      exact ⟨rfl,Nat.le_of_not_lt whole⟩

theorem messageCut_of_le {plaintext : Bytes} (whole : 4 + be24At plaintext 1 ≤ plaintext.length) :
    messageCut plaintext = .item (4 + be24At plaintext 1) := by
  rw [messageCut,if_neg (by omega),if_neg (by omega)]

theorem messageCut_ne_fail (plaintext : Bytes) : messageCut plaintext ≠ .fail := by
  rw [messageCut]
  split
  · exact Cut.noConfusion
  · split <;> exact Cut.noConfusion

def messageCutter : Cutter UInt8 where
  cut := messageCut
  progress := by
    intro buffer n item
    obtain ⟨rfl,inside⟩ := messageCut_item item
    exact ⟨by omega,inside⟩
  stable := by
    intro buffer later answered
    cases cut : messageCut buffer with
    | more => exact absurd cut answered
    | fail => exact absurd cut (messageCut_ne_fail buffer)
    | item n =>
      obtain ⟨rfl,inside⟩ := messageCut_item cut
      have same : be24At (buffer ++ later) 1 = be24At buffer 1 := be24At_append_left (by omega) later
      rw [← same] at inside ⊢
      exact messageCut_of_le (Nat.le_trans inside (by rw [List.length_append]; omega))

/-- A handshake message on its own. -/
def IsMessage (message : Bytes) : Prop := messageCut message = .item message.length

instance (message : Bytes) : Decidable (IsMessage message) := inferInstanceAs (Decidable (_ = _))

theorem isMessage_take {plaintext : Bytes} {n : Nat} (item : messageCut plaintext = .item n) :
    IsMessage (plaintext.take n) := by
  obtain ⟨rfl,inside⟩ := messageCut_item item
  have length : (plaintext.take (4 + be24At plaintext 1)).length = 4 + be24At plaintext 1 := by
    rw [List.length_take]
    omega
  have same : be24At (plaintext.take (4 + be24At plaintext 1)) 1 = be24At plaintext 1 := by
    have inside : 1 + 2 < (plaintext.take (4 + be24At plaintext 1)).length := by omega
    have front := be24At_append_left inside (plaintext.drop (4 + be24At plaintext 1))
    rw [List.take_append_drop] at front
    exact front.symm
  rw [IsMessage,messageCut_of_le (by rw [length,same]),same,length]

/-- The messages at the front of a plaintext. -/
def messagesOf (plaintext : Bytes) : List Bytes := (drain messageCutter plaintext).items

theorem messagesOf_whole (plaintext : Bytes) : ∀ message ∈ messagesOf plaintext, IsMessage message := by
  induction plaintext using drain_induction messageCutter with
  | more plaintext answer => simp [messagesOf,drain_more messageCutter answer]
  | fail plaintext answer => simp [messagesOf,drain_fail messageCutter answer]
  | item plaintext n answer ih =>
    rw [messagesOf,drain_item messageCutter answer]
    exact List.forall_mem_cons.mpr ⟨isMessage_take answer,ih⟩

theorem messagesOf_front (plaintext : Bytes) : (messagesOf plaintext).flatten <+: plaintext :=
  ⟨_,drain_flatten messageCutter plaintext⟩

/-- The variables of the message loop, as the state keeps them. -/
def Handshaking.found (state : Handshaking) : RealityClientConnection.Found :=
  ⟨state.messagesFound,state.certificateVerified,state.ed25519PublicKey,state.certVerifyOffset⟩

/-- The state behind a record with this plaintext. -/
def Handshaking.advance (state : Handshaking) (plaintext : Bytes) (found : RealityClientConnection.Found) :
    Handshaking := {state with
  handshakeSeq := state.handshakeSeq + 1
  accumulatedPlaintext := state.accumulatedPlaintext ++ plaintext
  messagesFound := found.messagesFound
  certificateVerified := found.certificateVerified
  ed25519PublicKey := found.ed25519PublicKey
  certVerifyOffset := found.certVerifyOffset}

namespace RealityClientConnection

section Loop
variable {crypto : Crypto} {authKey : Bytes}

theorem acceptMessage_certificate {message : Bytes} (certificate : byteAt message 0 = handshakeTypeCertificate)
    (offset : Nat) (found : Found) :
    acceptMessage crypto authKey offset message found = do
      let publicKey ← acceptCertificate crypto authKey message
      return {found with
        messagesFound := found.messagesFound + 1
        certificateVerified := true
        ed25519PublicKey := some publicKey} := by
  have other : ¬ byteAt message 0 = handshakeTypeCertificateVerify := by
    rw [certificate]
    decide
  rw [acceptMessage,if_pos certificate]
  simp only [if_neg other]
  rfl

theorem acceptMessage_other {message : Bytes} (other : byteAt message 0 ≠ handshakeTypeCertificate)
    (offset : Nat) (found : Found) :
    acceptMessage crypto authKey offset message found = .ok {found with
      messagesFound := found.messagesFound + 1
      certVerifyOffset := if byteAt message 0 = handshakeTypeCertificateVerify then some offset
        else found.certVerifyOffset} := by
  rw [acceptMessage,if_neg other]
  by_cases verify : byteAt message 0 = handshakeTypeCertificateVerify
  · simp only [if_pos verify]
    rfl
  · simp only [if_neg verify]
    rfl

theorem acceptMessage_counts {offset : Nat} {message : Bytes} {found after : Found}
    (accepted : acceptMessage crypto authKey offset message found = .ok after) :
    after.messagesFound = found.messagesFound + 1 := by
  by_cases certificate : byteAt message 0 = handshakeTypeCertificate
  · rw [acceptMessage_certificate certificate] at accepted
    obtain ⟨_,_,same⟩ := (bind_ok_iff _ _ _).mp accepted
    cases same
    rfl
  · rw [acceptMessage_other certificate] at accepted
    cases accepted
    rfl

/-- The loop on messages that have been cut already. -/
def acceptAll (crypto : Crypto) (authKey : Bytes) : Nat → List Bytes → Found → Except IoError Found
  | _, [], found => .ok found
  | offset, message::later, found => do
    let found ← acceptMessage crypto authKey offset message found
    acceptAll crypto authKey (offset + message.length) later found

theorem readMessages_eq (rounds : Nat) (front plaintext : Bytes) (found : Found) (enough : plaintext.length ≤ rounds) :
    readMessages crypto authKey (front ++ plaintext) rounds front.length found =
      acceptAll crypto authKey front.length ((messagesOf plaintext).take (4 - found.messagesFound)) found := by
  induction rounds generalizing front plaintext found with
  | zero =>
    obtain rfl := List.length_eq_zero_iff.mp (Nat.le_zero.mp enough)
    rw [messagesOf,drain_more messageCutter (show messageCutter.cut [] = .more from rfl),List.take_nil]
    rfl
  | succ rounds ih =>
    rw [readMessages]
    by_cases few : found.messagesFound < 4
    · cases cut : messageCutter.cut plaintext with
      | fail => exact absurd cut (messageCut_ne_fail plaintext)
      | more =>
        rw [messagesOf,drain_more messageCutter cut,List.take_nil,acceptAll]
        change messageCut plaintext = .more at cut
        split
        · split
          · rfl
          next header =>
            rw [if_pos]
            rw [List.length_append] at header ⊢
            rw [be24At_append_right]
            by_contra whole
            rw [messageCut_of_le (by omega)] at cut
            cases cut
        · rfl
      | item n =>
        obtain ⟨size,inside⟩ := messageCut_item cut
        have left : 4 - found.messagesFound = 4 - (found.messagesFound + 1) + 1 := by omega
        rw [messagesOf,drain_item messageCutter cut,left,List.take_succ_cons,acceptAll,List.length_append,
          if_pos ⟨by omega,few⟩,if_neg (by omega),be24At_append_right,if_neg (by omega),List.drop_left,← size]
        cases accepted : acceptMessage crypto authKey front.length (plaintext.take n) found with
        | error e => rfl
        | ok after =>
          have length : (plaintext.take n).length = n := by
            rw [List.length_take]
            omega
          have next := ih (front ++ plaintext.take n) (plaintext.drop n) after (by rw [List.length_drop]; omega)
          rw [List.append_assoc,List.take_append_drop,List.length_append,length,acceptMessage_counts accepted] at next
          rw [ok_bind,ok_bind,Nat.add_assoc,← size,next,length]
          rfl
    · rw [if_neg (fun both => few both.2),Nat.sub_eq_zero_of_le (Nat.le_of_not_lt few),List.take_zero]
      rfl

theorem acceptPlaintext_eq (state : Handshaking) (plaintext : Bytes) :
    acceptPlaintext crypto state plaintext =
      state.advance plaintext <$> acceptAll crypto state.authKey state.accumulatedPlaintext.length
        ((messagesOf plaintext).take (4 - state.messagesFound)) state.found := by
  have enough : plaintext.length ≤ (state.accumulatedPlaintext ++ plaintext).length := by
    rw [List.length_append]
    omega
  rw [acceptPlaintext,readMessages_eq _ _ _ _ enough]
  rfl

end Loop

end RealityClientConnection

end Dynet.Vless.Reality
