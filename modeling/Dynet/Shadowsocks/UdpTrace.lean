import Dynet.Shadowsocks.Udp
import Mathlib.Data.Nat.Basic

/-! Every order of sends and arrivals on one session. The trace writes down, newest
first, the numbers that were authenticated, those that were accepted, those that were
given out and the datagrams that came out. -/
namespace Dynet.Shadowsocks
open Dynet.Runtime (SocketAddr)
open Dynet.Lib.Replay

inductive Call where
  | encode (now : UInt64) (target : SocketAddr) (payload : Bytes)
  | decode (now : UInt64) (packet : Bytes)

def Call.isEncode : Call → Bool
  | .encode _ _ _ => true
  | .decode _ _ => false

structure Trace where
  session : UdpSession
  shown : List (Bytes × UInt64) := []
  accepted : List (Bytes × UInt64) := []
  assigned : List UInt64 := []
  sent : List Bytes := []

namespace Trace
variable (p : Primitives)

def next (trace : Trace) : Call → Trace
  | .encode now target payload =>
    let given := match takePacketId trace.session with
      | .error _ => trace.assigned
      | .ok (packetId,_) => packetId::trace.assigned
    let (session,answer) := encodeUdpDatagram p trace.session now target payload
    {trace with
      session
      assigned := given
      sent := match answer with
        | .ok datagram => datagram::trace.sent
        | .error _ => trace.sent}
  | .decode now packet =>
    let (session,answer) := decodeUdpDatagram p trace.session now packet
    match authenticate p trace.session now packet with
    | .error _ => {trace with session}
    | .ok ⟨server,packetId,_⟩ => {trace with
        session
        shown := (server,packetId)::trace.shown
        accepted := match answer with
          | .ok _ => (server,packetId)::trace.accepted
          | .error _ => trace.accepted}

def after (cipher : Cipher) (sessionId : Bytes) (calls : List Call) : Trace :=
  calls.foldl (next p) {session := .new cipher sessionId}

end Trace

def shownBy (shown : List (Bytes × UInt64)) (server : Bytes) : List Nat :=
  shown.filterMap fun (shower,packetId) => if shower = server then some packetId.toNat else none

theorem shownBy_cons (shown : List (Bytes × UInt64)) (server shower : Bytes) (packetId : UInt64) :
    shownBy ((shower,packetId)::shown) server =
      if shower = server then packetId.toNat::shownBy shown server else shownBy shown server := by
  simp only [shownBy,List.filterMap_cons]
  split <;> simp_all

/-- The datagram begins with the header of the number, enciphered. -/
def Carries (p : Primitives) (cipher : Cipher) (sessionId : Bytes) (packetId : UInt64) (datagram : Bytes) : Prop :=
  ∃ sealed, datagram = p.encryptBlock cipher.key (separateHeader sessionId packetId) ++ sealed

/-- The windows of a session stand for what each server session has shown, and its datagrams
carry numbers that were given out. -/
structure Faithful (p : Primitives) (cipher : Cipher) (sessionId : Bytes) (trace : Trace) : Prop where
  window : ∀ server, ((trace.session.serverWindows server).getD {}).Remembers (kept 64 (shownBy trace.shown server))
  accepted : ∀ server packetId, (server,packetId) ∈ trace.accepted ↔ packetId.toNat ∈ kept 64 (shownBy trace.shown server)
  once : trace.accepted.Nodup
  assigned : ∀ packetId ∈ trace.assigned, packetId < trace.session.packetId
  distinct : trace.assigned.Nodup
  own : trace.session.cipher = cipher ∧ trace.session.sessionId = sessionId
  carried : ∃ ids : List UInt64, ids.Sublist trace.assigned ∧ List.Forall₂ (Carries p cipher sessionId) ids trace.sent

section Steps
variable {p : Primitives} {cipher : Cipher} {sessionId : Bytes}

theorem checkAndUpdate_admitted {session : UdpSession} {shown : List Nat} {server : Bytes} {packetId : UInt64}
    (window : ((session.serverWindows server).getD {}).Remembers (kept 64 shown))
    (admitted : Admits 64 shown packetId.toNat) :
    ∃ moved, session.checkAndUpdate server packetId =
      ({session with serverWindows := Function.update session.serverWindows server (some moved)},.ok ()) ∧
      moved.Remembers (packetId.toNat::kept 64 shown) := by
  obtain ⟨answer,remembers⟩ := (ReplayWindow.checkAndUpdate_spec window packetId).1 ((admits_kept_iff shown _).mpr admitted)
  exact ⟨_,by rw [UdpSession.checkAndUpdate,← answer],remembers⟩

theorem checkAndUpdate_refused {session : UdpSession} {shown : List Nat} {server : Bytes} {packetId : UInt64}
    (window : ((session.serverWindows server).getD {}).Remembers (kept 64 shown))
    (refused : ¬Admits 64 shown packetId.toNat) :
    ∃ error, session.checkAndUpdate server packetId = (session,.error error) := by
  have against := mt (admits_kept_iff shown _).mp refused
  obtain ⟨⟨error,answer⟩,same⟩ := (ReplayWindow.checkAndUpdate_spec window packetId).2 against
  refine ⟨error,?_⟩
  rw [UdpSession.checkAndUpdate,← answer]
  cases known : session.serverWindows server with
  | none =>
    -- A fresh window refuses nothing, so `or_default` never leaves one behind.
    rw [known] at window answer
    simp [ReplayWindow.checkAndUpdate] at answer
  | some old =>
    rw [known] at same
    have kept : some (((some old).getD {}).checkAndUpdate packetId).1 = session.serverWindows server := by
      rw [same,known,Option.getD_some]
    simp only [kept,Function.update_eq_self]

theorem decode_cases {trace : Trace} (faithful : Faithful p cipher sessionId trace) (now : UInt64) (packet : Bytes) :
    (∃ error, authenticate p trace.session now packet = .error error ∧
      decodeUdpDatagram p trace.session now packet = (trace.session,.error error)) ∨
    ∃ server packetId payload, authenticate p trace.session now packet = .ok ⟨server,packetId,payload⟩ ∧
      ((Admits 64 (shownBy trace.shown server) packetId.toNat ∧ ∃ moved : ReplayWindow,
          moved.Remembers (packetId.toNat::kept 64 (shownBy trace.shown server)) ∧
          decodeUdpDatagram p trace.session now packet =
            ({trace.session with serverWindows := Function.update trace.session.serverWindows server (some moved)},.ok payload)) ∨
        (¬Admits 64 (shownBy trace.shown server) packetId.toNat ∧
          ∃ error, decodeUdpDatagram p trace.session now packet = (trace.session,.error error))) := by
  unfold decodeUdpDatagram
  cases checked : authenticate p trace.session now packet with
  | error error => exact .inl ⟨error,rfl,rfl⟩
  | ok opened =>
    obtain ⟨server,packetId,payload⟩ := opened
    refine .inr ⟨server,packetId,payload,rfl,?_⟩
    by_cases admitted : Admits 64 (shownBy trace.shown server) packetId.toNat
    · obtain ⟨moved,answer,remembers⟩ := checkAndUpdate_admitted (faithful.window server) admitted
      exact .inl ⟨admitted,moved,remembers,by simp only [answer,Except.map]⟩
    · obtain ⟨error,answer⟩ := checkAndUpdate_refused (faithful.window server) admitted
      exact .inr ⟨admitted,error,by simp only [answer,Except.map]⟩

theorem takePacketId_cases (session : UdpSession) :
    (∃ error, takePacketId session = .error error) ∨
    (takePacketId session = .ok (session.packetId,{session with packetId := session.packetId + 1}) ∧
      session.packetId < session.packetId + 1) := by
  unfold takePacketId
  split
  · rename_i room
    refine .inr ⟨rfl,UInt64.lt_iff_toNat_lt.mpr ?_⟩
    rw [UInt64.toNat_add]
    have : (1 : UInt64).toNat = 1 := rfl
    omega
  · exact .inl ⟨_,rfl⟩

theorem encryptUdpBody_carries {session : UdpSession} {packetId : UInt64} {body datagram : Bytes}
    (sealed : encryptUdpBody p session (separateHeader session.sessionId packetId) body = .ok datagram) :
    Carries p session.cipher session.sessionId packetId datagram := by
  unfold encryptUdpBody at sealed
  dsimp only at sealed
  split at sealed
  · cases sealed
  · cases sealed
    exact ⟨_,rfl⟩

theorem next_encode {trace : Trace} (faithful : Faithful p cipher sessionId trace) (now : UInt64) (target : SocketAddr)
    (payload : Bytes) : Faithful p cipher sessionId (trace.next p (.encode now target payload)) := by
  obtain ⟨window,accepted,once,assigned,distinct,⟨key,name⟩,ids,within,carried⟩ := faithful
  rw [Trace.next,encodeUdpDatagram]
  obtain ⟨error,full⟩ | ⟨taken,above⟩ := takePacketId_cases trace.session
  · rw [full]
    exact ⟨window,accepted,once,assigned,distinct,⟨key,name⟩,ids,within,carried⟩
  · rw [taken]
    refine ⟨window,accepted,once,?_,?_,⟨key,name⟩,?_⟩
    · intro packetId member
      obtain rfl | member := List.mem_cons.mp member
      · exact above
      · exact UInt64.lt_trans (assigned packetId member) above
    · refine List.nodup_cons.mpr ⟨fun member => ?_,distinct⟩
      exact UInt64.lt_irrefl _ (assigned _ member)
    · dsimp only
      split
      · rename_i datagram emitted
        have carries := encryptUdpBody_carries emitted
        simp only [key,name] at carries
        exact ⟨trace.session.packetId::ids,within.cons_cons _,.cons carries carried⟩
      · exact ⟨ids,within.cons _,carried⟩

theorem next_decode {trace : Trace} (faithful : Faithful p cipher sessionId trace) (now : UInt64) (packet : Bytes) :
    Faithful p cipher sessionId (trace.next p (.decode now packet)) := by
  rw [Trace.next]
  obtain ⟨error,checked,answer⟩ | ⟨server,packetId,payload,checked,outcome⟩ := decode_cases faithful now packet
  · rw [checked,answer]
    exact ⟨faithful.window,faithful.accepted,faithful.once,faithful.assigned,faithful.distinct,faithful.own,faithful.carried⟩
  · rw [checked]
    obtain ⟨admitted,moved,remembers,answer⟩ | ⟨refused,error,answer⟩ := outcome
    · have inside := (admits_kept_iff (shownBy trace.shown server) packetId.toNat).mpr admitted
      have keptNow : kept 64 (packetId.toNat::shownBy trace.shown server) = packetId.toNat::kept 64 (shownBy trace.shown server) := by
        rw [kept,if_pos inside]
      rw [answer]
      refine ⟨fun other => ?_,fun other otherId => ?_,?_,faithful.assigned,faithful.distinct,faithful.own,faithful.carried⟩
      · rw [shownBy_cons]
        by_cases same : server = other
        · subst same
          rw [if_pos rfl,keptNow]
          simpa only [Function.update_self,Option.getD_some] using remembers
        · rw [if_neg same]
          simpa only [Function.update_of_ne (Ne.symm same)] using faithful.window other
      · rw [shownBy_cons,List.mem_cons,Prod.mk.injEq,faithful.accepted]
        by_cases same : server = other
        · subst same
          rw [if_pos rfl,keptNow,List.mem_cons,UInt64.toNat_inj]
          simp only [true_and]
        · rw [if_neg same]
          simp only [Ne.symm same,false_and,false_or]
      · refine List.nodup_cons.mpr ⟨fun member => ?_,faithful.once⟩
        exact inside.1 ((faithful.accepted server packetId).mp member)
    · have outside := mt (admits_kept_iff (shownBy trace.shown server) packetId.toNat).mp refused
      have keptNow : kept 64 (packetId.toNat::shownBy trace.shown server) = kept 64 (shownBy trace.shown server) := by
        rw [kept,if_neg outside]
      have keptAll : ∀ other, kept 64 (shownBy ((server,packetId)::trace.shown) other) =
          kept 64 (shownBy trace.shown other) := by
        intro other
        rw [shownBy_cons]
        split
        · rename_i same
          subst same
          exact keptNow
        · rfl
      rw [answer]
      refine ⟨fun other => ?_,fun other otherId => ?_,faithful.once,faithful.assigned,faithful.distinct,faithful.own,faithful.carried⟩
      · exact (keptAll other).symm ▸ faithful.window other
      · exact (keptAll other).symm ▸ faithful.accepted other otherId

theorem faithful_after (cipher : Cipher) (sessionId : Bytes) (calls : List Call) :
    Faithful p cipher sessionId (Trace.after p cipher sessionId calls) := by
  have start : Faithful p cipher sessionId {session := .new cipher sessionId} :=
    ⟨fun _ => ReplayWindow.remembers_default,by simp [shownBy,kept],List.nodup_nil,by simp,List.nodup_nil,⟨rfl,rfl⟩,
      [],.slnil,.nil⟩
  unfold Trace.after
  generalize ({session := .new cipher sessionId} : Trace) = trace at start
  induction calls generalizing trace with
  | nil => exact start
  | cons call calls ih =>
    refine ih _ ?_
    cases call with
    | encode now target payload => exact next_encode start now target payload
    | decode now packet => exact next_decode start now packet

/-- The counter is the number of sends while it has room to go on. -/
theorem next_counter (trace : Trace) (call : Call) (room : call.isEncode = true → trace.session.packetId.toNat + 1 < 2 ^ 64) :
    (trace.next p call).session.packetId.toNat = trace.session.packetId.toNat + call.isEncode.toNat := by
  cases call with
  | encode now target payload =>
    have fits := room rfl
    rw [Trace.next,encodeUdpDatagram,takePacketId,if_pos fits]
    have one : (1 : UInt64).toNat = 1 := rfl
    dsimp only
    rw [UInt64.toNat_add,one,Nat.mod_eq_of_lt fits]
    rfl
  | decode now packet =>
    have kept : (decodeUdpDatagram p trace.session now packet).1.packetId = trace.session.packetId := by
      unfold decodeUdpDatagram
      split
      · rfl
      · rfl
    rw [Trace.next]
    dsimp only
    split
    · exact congrArg UInt64.toNat kept
    · exact congrArg UInt64.toNat kept

theorem after_counter (cipher : Cipher) (sessionId : Bytes) (calls : List Call) (few : calls.countP (·.isEncode) < 2 ^ 64) :
    (Trace.after p cipher sessionId calls).session.packetId.toNat = calls.countP (·.isEncode) := by
  induction calls using List.reverseRecOn with
  | nil => rfl
  | append_singleton calls call ih =>
    rw [List.countP_append,List.countP_singleton] at few ⊢
    have earlier := ih (by omega)
    rw [Trace.after,List.foldl_append,List.foldl_cons,List.foldl_nil]
    change (Trace.next p (Trace.after p cipher sessionId calls) call).session.packetId.toNat = _
    rw [next_counter _ call,earlier]
    · cases call.isEncode <;> rfl
    · intro encodes
      rw [earlier]
      rw [if_pos encodes] at few
      exact few

end Steps

/-- However sends and arrivals are mixed: an authenticated packet is accepted exactly
when its number was not shown before and is above every number shown or less than 64
below the largest, each number is accepted once, what is not accepted changes nothing,
no number is given out twice, the datagrams that came out carry numbers given out to them
alone, and the next one carries how many were asked for before. -/
theorem replay_protected (p : Primitives) (cipher : Cipher) (sessionId : Bytes) (calls : List Call) :
    let trace := Trace.after p cipher sessionId calls
    (∀ now packet server packetId payload,
      authenticate p trace.session now packet = .ok ⟨server,packetId,payload⟩ →
        ((decodeUdpDatagram p trace.session now packet).2 = .ok payload ↔
          packetId.toNat ∉ shownBy trace.shown server ∧ ∀ older ∈ shownBy trace.shown server, older < packetId.toNat + 64)) ∧
    (∀ now packet error, (decodeUdpDatagram p trace.session now packet).2 = .error error →
      (decodeUdpDatagram p trace.session now packet).1 = trace.session) ∧
    trace.accepted.Nodup ∧ trace.assigned.Nodup ∧
    (trace.assigned.map (separateHeader sessionId)).Nodup ∧
    (∃ ids : List UInt64, ids.Sublist trace.assigned ∧ ids.Nodup ∧ (ids.map (separateHeader sessionId)).Nodup ∧
      List.Forall₂ (Carries p cipher sessionId) ids trace.sent) ∧
    ∀ now target payload, calls.countP (·.isEncode) + 1 < 2 ^ 64 →
      (encodeUdpDatagram p trace.session now target payload).2 =
        encryptUdpBody p trace.session (separateHeader sessionId (.ofNat (calls.countP (·.isEncode))))
          (headerTypeClientPacket::beBytes 8 now.toNat ++ beBytes 2 0 ++ socksAddress target ++ payload) := by
  intro trace
  have faithful : Faithful p cipher sessionId trace := faithful_after cipher sessionId calls
  have headers {ids : List UInt64} (distinct : ids.Nodup) : (ids.map (separateHeader sessionId)).Nodup := by
    refine distinct.map fun left right equal => ?_
    have bytes := congrArg fromBe (List.append_cancel_left equal)
    rw [fromBe_beBytes,fromBe_beBytes] at bytes
    have leftFits := left.toNat_lt
    have rightFits := right.toNat_lt
    exact UInt64.toNat_inj.mp (by omega)
  obtain ⟨ids,within,carried⟩ := faithful.carried
  have apart := within.nodup faithful.distinct
  refine ⟨?_,?_,faithful.once,faithful.distinct,headers faithful.distinct,⟨ids,within,apart,headers apart,carried⟩,?_⟩
  · intro now packet server packetId payload checked
    obtain ⟨error,refused,-⟩ | ⟨shower,number,body,opened,outcome⟩ := @decode_cases p _ _ _ faithful now packet
    · rw [checked] at refused
      cases refused
    · rw [checked] at opened
      cases opened
      obtain ⟨admitted,moved,-,answer⟩ | ⟨refused,error,answer⟩ := outcome
      · rw [answer]
        exact iff_of_true rfl admitted
      · rw [answer]
        exact iff_of_false (by simp) refused
  · intro now packet error failed
    obtain ⟨error,-,answer⟩ | ⟨shower,number,body,-,⟨-,moved,-,answer⟩ | ⟨-,error,answer⟩⟩ :=
      @decode_cases p _ _ _ faithful now packet
    · rw [answer]
    · rw [answer] at failed
      cases failed
    · rw [answer]
  · intro now target payload room
    have counter := @after_counter p cipher sessionId calls (by omega)
    have number : trace.session.packetId = .ofNat (calls.countP (·.isEncode)) := by
      rw [← counter,UInt64.ofNat_toNat]
    rw [encodeUdpDatagram,takePacketId,if_pos (by rw [counter]; exact room)]
    simp only [faithful.own.2,number]
    rfl

end Dynet.Shadowsocks
