import Dynet.Ingress.CapturedEvents

/-! The relay of the direct egress: two byte streams are copied in both directions until both
have ended, the upstream has answered and ended, or nothing has come for a while. -/
namespace Dynet.Ingress.DirectRelay
open Dynet.Runtime

abbrev Bytes := List UInt8

def bufferSize : Nat := 16 * 1024

/-- How a write of a whole buffer, or a shutdown, ends: a failure may come after some bytes. -/
inductive Wrote where
  | all
  | failed (accepted : Nat) (error : String)
  deriving DecidableEq, Repr

namespace Wrote

def accepted (bytes : Bytes) : Wrote → Bytes
  | .all => bytes
  | .failed n _ => bytes.take n

def error : Wrote → Option (Except String String)
  | .all => none
  | .failed _ e => some (.error e)

end Wrote

/-- What one round of the loop meets: a read that gives at most `limit + 1` bytes with the
write that follows it, a read that fails, or the timer. -/
inductive Event where
  | client (limit : Nat) (wrote : Wrote)
  | upstream (limit : Nat) (wrote : Wrote)
  | clientFailed (error : String)
  | upstreamFailed (error : String)
  | idle
  deriving DecidableEq, Repr

structure PlaintextByteCounts where
  clientToUpstream : UInt64
  upstreamToClient : UInt64
  deriving DecidableEq, Repr

/-- The loop's variables and result, the counts of `CountingDownstream`, and the two sockets:
what they are still to deliver and what they have accepted. -/
structure Relay where
  clientToUpstream : UInt64
  upstreamToClient : UInt64
  clientClosed : Bool
  upstreamClosed : Bool
  result : Option (Except String String)
  counts : PlaintextByteCounts
  clientInput : Bytes
  upstreamInput : Bytes
  sent : Bytes
  shut : Bool
  returned : Bytes
  deriving DecidableEq, Repr

namespace Relay

def start (clientInput upstreamInput : Bytes) : Relay where
  clientToUpstream := 0
  upstreamToClient := 0
  clientClosed := false
  upstreamClosed := false
  result := none
  counts := ⟨0,0⟩
  clientInput
  upstreamInput
  sent := []
  shut := false
  returned := []

/-- The checks at the head of the loop. -/
def finished (relay : Relay) : Bool :=
  (relay.clientClosed && relay.upstreamClosed) || (relay.upstreamClosed && 0 < relay.upstreamToClient)

def head (relay : Relay) : Relay :=
  if relay.result = none ∧ relay.finished then {relay with result := some (.ok "normal")} else relay

def readClient (relay : Relay) (limit : Nat) (wrote : Wrote) : Relay :=
  let bytes := relay.clientInput.take (min (limit + 1) bufferSize)
  let counts := {relay.counts with clientToUpstream := relay.counts.clientToUpstream + .ofNat bytes.length}
  if bytes = [] then {relay with counts, clientClosed := true, shut := true, result := wrote.error}
  else {relay with
    counts
    clientInput := relay.clientInput.drop bytes.length
    sent := relay.sent ++ wrote.accepted bytes
    clientToUpstream := if wrote = .all then relay.clientToUpstream + .ofNat bytes.length else relay.clientToUpstream
    result := wrote.error}

def readUpstream (relay : Relay) (limit : Nat) (wrote : Wrote) : Relay :=
  let bytes := relay.upstreamInput.take (min (limit + 1) bufferSize)
  if bytes = [] then {relay with upstreamClosed := true}
  else {relay with
    counts := {relay.counts with
      upstreamToClient := relay.counts.upstreamToClient + .ofNat (wrote.accepted bytes).length}
    upstreamInput := relay.upstreamInput.drop bytes.length
    returned := relay.returned ++ wrote.accepted bytes
    upstreamToClient := if wrote = .all then relay.upstreamToClient + .ofNat bytes.length else relay.upstreamToClient
    result := wrote.error}

/-- A branch that `select!` has disabled is not taken, and nothing is after the end. -/
def step (relay : Relay) (event : Event) : Relay :=
  if relay.result ≠ none then relay
  else match event with
    | .client limit wrote => if relay.clientClosed then relay else (relay.readClient limit wrote).head
    | .upstream limit wrote => if relay.upstreamClosed then relay else (relay.readUpstream limit wrote).head
    | .clientFailed e => if relay.clientClosed then relay else {relay with result := some (.error e)}
    | .upstreamFailed e => if relay.upstreamClosed then relay else {relay with result := some (.error e)}
    | .idle => {relay with result := some (.ok "idle-timeout")}

/-- `copy_bidirectional_until_idle`. -/
def copyBidirectionalUntilIdle (clientInput upstreamInput : Bytes) (events : List Event) : Relay :=
  events.foldl step (start clientInput upstreamInput).head

/-- What `handle_tcp_with_dialer` makes of it. -/
def outcome (target : SocketAddr) (relay : Relay) : Option (Except EgressError TcpRelayOutcome) :=
  relay.result.map fun
    | .ok closeReason => .ok ⟨target,relay.clientToUpstream.toNat,relay.upstreamToClient.toNat,closeReason⟩
    | .error e => .error {EgressError.new "relay" (some target) s!"TCP relay failed: {e}" with
      clientToUpstreamBytes := some relay.counts.clientToUpstream.toNat
      upstreamToClientBytes := some relay.counts.upstreamToClient.toNat}

section Run
variable (client upstream : Bytes)

/-- Each stream is what has been handed on, what one failed write has lost, and what is
still to come, and the numbers count it. -/
structure Conserved (relay : Relay) : Prop where
  streams : ∃ lost back, client = relay.sent ++ lost ++ relay.clientInput ∧ upstream = relay.returned ++ back ++ relay.upstreamInput ∧
    lost.length + back.length ≤ bufferSize ∧ ((∀ e, relay.result ≠ some (.error e)) → lost = [] ∧ back = [])
  counts : relay.counts = ⟨.ofNat (client.length - relay.clientInput.length),.ofNat relay.returned.length⟩
  totals : (∀ e, relay.result ≠ some (.error e)) →
    relay.clientToUpstream = .ofNat relay.sent.length ∧ relay.upstreamToClient = .ofNat relay.returned.length
  clientEnd : relay.clientClosed = true → relay.clientInput = []
  upstreamEnd : relay.upstreamClosed = true → relay.upstreamInput = []
  shut : relay.shut = relay.clientClosed

/-- A relay ends normally at the head of the loop and nowhere else. -/
structure Sound (relay : Relay) : Prop extends Conserved client upstream relay where
  going : relay.result = none → relay.finished = false
  normal : relay.result = some (.ok "normal") → relay.finished = true

variable {client upstream}

theorem Conserved.head {relay : Relay} (conserved : Conserved client upstream relay)
    (open_ : ∀ closeReason, relay.result ≠ some (.ok closeReason)) : Sound client upstream relay.head := by
  unfold Relay.head
  split
  · rename_i ends
    have intact : ∀ e, relay.result ≠ some (.error e) := by simp [ends.1]
    obtain ⟨lost,back,first,second,few,none⟩ := conserved.streams
    exact {
      streams := ⟨lost,back,first,second,few,fun _ => none intact⟩
      counts := conserved.counts
      totals := fun _ => conserved.totals intact
      clientEnd := conserved.clientEnd
      upstreamEnd := conserved.upstreamEnd
      shut := conserved.shut
      going := fun impossible => by cases impossible
      normal := fun _ => ends.2 }
  · rename_i goes
    exact {
      toConserved := conserved
      going := fun none => Bool.eq_false_of_not_eq_true fun finished => goes ⟨none,finished⟩
      normal := fun impossible => absurd impossible (open_ _) }

theorem start_sound : Sound client upstream (start client upstream).head := by
  refine Conserved.head ?_ fun _ impossible => nomatch impossible
  exact {
    streams := ⟨[],[],rfl,rfl,Nat.zero_le _,fun _ => ⟨rfl,rfl⟩⟩
    counts := by simp [start]
    totals := fun _ => ⟨rfl,rfl⟩
    clientEnd := fun impossible => nomatch impossible
    upstreamEnd := fun impossible => nomatch impossible
    shut := rfl }

theorem accepted_split (bytes : Bytes) (wrote : Wrote) : ∃ lost, bytes = wrote.accepted bytes ++ lost ∧ lost.length ≤ bytes.length ∧
    (wrote = .all → lost = []) := by
  cases wrote with
  | all => exact ⟨[],(List.append_nil _).symm,Nat.zero_le _,fun _ => rfl⟩
  | failed n e => exact ⟨bytes.drop n,(List.take_append_drop n bytes).symm,by simp,fun impossible => by cases impossible⟩

theorem error_cases (wrote : Wrote) : wrote = .all ∧ wrote.error = none ∨ wrote ≠ .all ∧ ∃ e, wrote.error = some (.error e) := by
  cases wrote with
  | all => exact .inl ⟨rfl,rfl⟩
  | failed n e => exact .inr ⟨(by simp),e,rfl⟩

/-- A read takes a piece from the front of its stream, and an empty one is the stream's end. -/
theorem taken (input : Bytes) (limit : Nat) : ∃ bytes rest, input.take (min (limit + 1) bufferSize) = bytes ∧ input = bytes ++ rest ∧
    input.drop bytes.length = rest ∧ bytes.length ≤ bufferSize ∧ (bytes = [] → input = []) := by
  refine ⟨_,input.drop (min (limit + 1) bufferSize),rfl,(List.take_append_drop _ _).symm,?_,?_,fun empty => ?_⟩
  · rw [List.length_take]
    obtain short | long := Nat.le_total input.length (min (limit + 1) bufferSize)
    · rw [Nat.min_eq_right short,List.drop_length,List.drop_of_length_le short]
    · rw [Nat.min_eq_left long]
  · exact Nat.le_trans (List.length_take_le _ _) (Nat.min_le_right _ _)
  · rcases List.take_eq_nil_iff.mp empty with none | nil
    · have some_ : 0 < bufferSize := by decide
      omega
    · exact nil

theorem readClient_conserved {relay : Relay} (sound : Sound client upstream relay) (going : relay.result = none) (limit : Nat)
    (wrote : Wrote) : Conserved client upstream (relay.readClient limit wrote) := by
  have intact : ∀ e, relay.result ≠ some (.error e) := by simp [going]
  obtain ⟨lost,back,first,second,-,none⟩ := sound.streams
  obtain ⟨rfl,rfl⟩ := none intact
  rw [List.append_nil] at first second
  obtain ⟨bytes,rest,took,split,dropped,few,ends⟩ := taken relay.clientInput limit
  unfold Relay.readClient
  rw [took]
  dsimp only
  split
  · rename_i empty
    exact {
      streams := ⟨[],[],by simpa using first,by simpa using second,Nat.zero_le _,fun _ => ⟨rfl,rfl⟩⟩
      counts := by simp [sound.counts,empty]
      totals := fun _ => sound.totals intact
      clientEnd := fun _ => ends empty
      upstreamEnd := sound.upstreamEnd
      shut := rfl }
  · obtain ⟨lost,whole,fewer,kept⟩ := accepted_split bytes wrote
    have length := congrArg List.length first
    have inputLength := congrArg List.length split
    rw [List.length_append] at length inputLength
    exact {
      streams := by
        refine ⟨lost,[],?_,by simpa using second,Nat.le_trans fewer few,fun intact => ?_⟩
        · rw [dropped,first,split,List.append_assoc,List.append_assoc,← List.append_assoc _ lost,← whole]
        · rcases error_cases wrote with ⟨all,-⟩ | ⟨-,e,failed⟩
          · exact ⟨kept all,rfl⟩
          · exact absurd failed (intact e)
      counts := by
        have moved : client.length - rest.length = client.length - relay.clientInput.length + bytes.length := by omega
        rw [dropped,moved,sound.counts,UInt64.ofNat_add]
      totals := fun intact => by
        rcases error_cases wrote with ⟨rfl,-⟩ | ⟨-,e,failed⟩
        · have before := sound.totals (by simp [going])
          simp [before,Wrote.accepted]
        · exact absurd failed (intact e)
      clientEnd := fun closed => by
        dsimp only
        rw [dropped]
        exact (List.append_eq_nil_iff.mp (split.symm.trans (sound.clientEnd closed))).2
      upstreamEnd := sound.upstreamEnd
      shut := sound.shut }

theorem readUpstream_conserved {relay : Relay} (sound : Sound client upstream relay) (going : relay.result = none) (limit : Nat)
    (wrote : Wrote) : Conserved client upstream (relay.readUpstream limit wrote) := by
  have intact : ∀ e, relay.result ≠ some (.error e) := by simp [going]
  obtain ⟨lost,back,first,second,-,none⟩ := sound.streams
  obtain ⟨rfl,rfl⟩ := none intact
  rw [List.append_nil] at first second
  obtain ⟨bytes,rest,took,split,dropped,few,ends⟩ := taken relay.upstreamInput limit
  unfold Relay.readUpstream
  rw [took]
  dsimp only
  split
  · rename_i empty
    exact {
      streams := ⟨[],[],by simpa using first,by simpa using second,Nat.zero_le _,fun _ => ⟨rfl,rfl⟩⟩
      counts := sound.counts
      totals := fun _ => sound.totals intact
      clientEnd := sound.clientEnd
      upstreamEnd := fun _ => ends empty
      shut := sound.shut }
  · obtain ⟨back,whole,fewer,kept⟩ := accepted_split bytes wrote
    exact {
      streams := by
        refine ⟨[],back,by simpa using first,?_,by simpa using Nat.le_trans fewer few,fun intact => ?_⟩
        · rw [dropped,second,split,List.append_assoc,List.append_assoc,← List.append_assoc _ back,← whole]
        · rcases error_cases wrote with ⟨all,-⟩ | ⟨-,e,failed⟩
          · exact ⟨rfl,kept all⟩
          · exact absurd failed (intact e)
      counts := by simp [sound.counts]
      totals := fun intact => by
        rcases error_cases wrote with ⟨rfl,-⟩ | ⟨-,e,failed⟩
        · have before := sound.totals (by simp [going])
          simp [before,Wrote.accepted]
        · exact absurd failed (intact e)
      clientEnd := sound.clientEnd
      upstreamEnd := fun closed => by
        dsimp only
        rw [dropped]
        exact (List.append_eq_nil_iff.mp (split.symm.trans (sound.upstreamEnd closed))).2
      shut := sound.shut }

theorem readClient_open (relay : Relay) (limit : Nat) (wrote : Wrote) (closeReason : String) :
    (relay.readClient limit wrote).result ≠ some (.ok closeReason) := by
  unfold Relay.readClient
  rcases error_cases wrote with ⟨-,none⟩ | ⟨-,e,failed⟩ <;> dsimp only <;> split <;> simp_all

theorem readUpstream_open (relay : Relay) (going : relay.result = none) (limit : Nat) (wrote : Wrote) (closeReason : String) :
    (relay.readUpstream limit wrote).result ≠ some (.ok closeReason) := by
  unfold Relay.readUpstream
  rcases error_cases wrote with ⟨-,none⟩ | ⟨-,e,failed⟩ <;> dsimp only <;> split <;> simp_all

theorem step_sound {relay : Relay} (sound : Sound client upstream relay) (event : Event) : Sound client upstream (relay.step event) := by
  unfold Relay.step
  split
  · exact sound
  rename_i going
  have going : relay.result = none := not_not.mp going
  have intact : ∀ e, relay.result ≠ some (.error e) := by simp [going]
  have ended (result : Except String String) (other : result ≠ .ok "normal") :
      Sound client upstream {relay with result := some result} := by
    obtain ⟨lost,back,first,second,few,none⟩ := sound.streams
    exact {
      streams := ⟨lost,back,first,second,few,fun _ => none intact⟩
      counts := sound.counts
      totals := fun _ => sound.totals intact
      clientEnd := sound.clientEnd
      upstreamEnd := sound.upstreamEnd
      shut := sound.shut
      going := fun impossible => nomatch impossible
      normal := fun same => absurd (Option.some.inj same) other }
  cases event with
  | client limit wrote =>
    dsimp only
    split
    · exact sound
    · exact (readClient_conserved sound going limit wrote).head (readClient_open relay limit wrote)
  | upstream limit wrote =>
    dsimp only
    split
    · exact sound
    · exact (readUpstream_conserved sound going limit wrote).head (readUpstream_open relay going limit wrote)
  | clientFailed e =>
    dsimp only
    split
    · exact sound
    · exact ended _ (by simp)
  | upstreamFailed e =>
    dsimp only
    split
    · exact sound
    · exact ended _ (by simp)
  | idle => exact ended _ (by simp)

theorem run_sound (client upstream : Bytes) (events : List Event) :
    Sound client upstream (copyBidirectionalUntilIdle client upstream events) := by
  unfold copyBidirectionalUntilIdle
  suffices all : ∀ relay, Sound client upstream relay → Sound client upstream (events.foldl step relay) from all _ start_sound
  induction events with
  | nil => exact fun relay sound => sound
  | cons event events ih => exact fun relay sound => ih _ (step_sound sound event)

/-- In whatever order the two sides are served, the relay hands each stream on in order and
without a gap, up to the piece of one failed write; when it ends normally the whole answer has
been returned, and the whole request sent and its end passed on unless the answer ended first;
and it reports the bytes it has moved. -/
theorem relay_conserves (target : SocketAddr) (client upstream : Bytes) (events : List Event) :
    let relay := copyBidirectionalUntilIdle client upstream events
    (∃ lost back, client = relay.sent ++ lost ++ relay.clientInput ∧ upstream = relay.returned ++ back ++ relay.upstreamInput ∧
      lost.length + back.length ≤ bufferSize ∧ ((∀ e, relay.result ≠ some (.error e)) → lost = [] ∧ back = [])) ∧
    (relay.result = some (.ok "normal") → relay.returned = upstream ∧
      (relay.sent = client ∧ relay.shut = true ∨ relay.returned ≠ [] ∧ relay.shut = false)) ∧
    (∀ outcome, relay.outcome target = some (.ok outcome) → outcome.clientToUpstreamBytes = relay.sent.length % 2 ^ 64 ∧
      outcome.upstreamToClientBytes = relay.returned.length % 2 ^ 64) ∧
    ∀ e, relay.outcome target = some (.error e) →
      e.clientToUpstreamBytes = some ((client.length - relay.clientInput.length) % 2 ^ 64) ∧
      e.upstreamToClientBytes = some (relay.returned.length % 2 ^ 64) := by
  intro relay
  have sound : Sound client upstream relay := run_sound client upstream events
  refine ⟨sound.streams,fun normal => ?_,fun outcome reported => ?_,fun e reported => ?_⟩
  · have intact : ∀ e, relay.result ≠ some (.error e) := by simp [normal]
    have finished := sound.normal normal
    obtain ⟨lost,back,first,second,-,none⟩ := sound.streams
    obtain ⟨rfl,rfl⟩ := none intact
    simp only [Relay.finished,Bool.or_eq_true,Bool.and_eq_true,decide_eq_true_eq] at finished
    have upstreamClosed : relay.upstreamClosed = true := by
      rcases finished with ⟨-,closed⟩ | ⟨closed,-⟩ <;> exact closed
    rw [sound.upstreamEnd upstreamClosed,List.append_nil,List.append_nil] at second
    refine ⟨second.symm,?_⟩
    cases closed : relay.clientClosed with
    | true =>
      rw [sound.clientEnd closed,List.append_nil,List.append_nil] at first
      exact .inl ⟨first.symm,sound.shut.trans closed⟩
    | false =>
      rcases finished with ⟨impossible,-⟩ | ⟨-,answered⟩
      · rw [closed] at impossible
        cases impossible
      · refine .inr ⟨fun empty => ?_,sound.shut.trans closed⟩
        rw [(sound.totals intact).2,empty] at answered
        exact absurd answered (by decide)
  · obtain ⟨result,ended,shape⟩ := Option.map_eq_some_iff.mp reported
    cases result with
    | error e => cases shape
    | ok closeReason =>
      cases shape
      have totals := sound.totals (by simp [ended])
      exact ⟨by rw [totals.1]; exact UInt64.toNat_ofNat',by rw [totals.2]; exact UInt64.toNat_ofNat'⟩
  · obtain ⟨result,ended,shape⟩ := Option.map_eq_some_iff.mp reported
    cases result with
    | ok closeReason => cases shape
    | error text =>
      cases shape
      rw [sound.counts]
      exact ⟨congrArg some UInt64.toNat_ofNat',congrArg some UInt64.toNat_ofNat'⟩

end Run

end Relay

end Dynet.Ingress.DirectRelay
