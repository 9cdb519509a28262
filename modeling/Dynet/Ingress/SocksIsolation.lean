import Dynet.Ingress.SocksReplies

/-! A bad datagram in the UDP loop of a SOCKS5 session. The errors of parsing, resolution and
selection leave the loop, so all associations of the session end with it. -/
namespace Dynet.Ingress.Socks
open Dynet.Runtime Dynet.Lib Dynet.Lib.Machine
open Dynet.Ingress.UdpRelay (udpChannelDepth)

section Isolation
variable (choose : SelectionContext → GroupCandidateSet → Option NodeId) (sessionId : Nat)

/-- Malformed, to a domain that does not resolve, or to a target that selection refuses. -/
inductive Bad (s : State) (datagram : Bytes) (wire : String → Except String DnsResolution) : Prop
  | malformed (error : SocksError) (parsed : (parseUdpPacket datagram).run = some (.error error))
  | unresolvable (packet : SocksUdpPacket) (error : SocksError) (parsed : (parseUdpPacket datagram).run = some (.ok packet))
      (resolved : (resolveDestination wire s.runtime packet.destination).1 = .error error)
  | refused (packet : SocksUdpPacket) (context : TargetContext) (error : SelectionError)
      (parsed : (parseUdpPacket datagram).run = some (.ok packet))
      (resolved : (resolveDestination wire s.runtime packet.destination).1 = .ok context)
      (selected : selectTarget choose (resolveDestination wire s.runtime packet.destination).2 sessionId .udp context =
        .error error)

/-- What runs in one state is in the table and runs in the other. -/
def Retained (s u : State) : Prop :=
  ∀ (key : Key) id, s.associations[key]? = some id → s.running id = true →
    u.associations[key]? = some id ∧ u.running id = true

/-- Every association is as it was, and the loop gets back to receiving with all that run. -/
structure Isolated (s t : State) : Prop where
  associations : t.associations = s.associations
  tasks : t.tasks = s.tasks
  resumes : ∃ u, Reaches (step choose sessionId) t u ∧ u.loop = .selecting ∧ Retained s u

variable {choose sessionId}

theorem left_step {s t : State} {event : Event} (gone : s.isLeft = true) (taken : step choose sessionId s event = some t) :
    t.isLeft = true := by
  have idle : s.loop ≠ .selecting := fun same => by simp [State.isLeft,same] at gone
  have free (pending : Pending) : s.loop ≠ .sending pending := fun same => by simp [State.isLeft,same] at gone
  cases event with
  | receive udpPeer datagram wire => simp [step,idle] at taken
  | receiveFails error => simp [step,idle] at taken
  | controlCloses => simp [step,idle] at taken
  | handOver =>
    simp only [step] at taken
    cases taken
  | handOverFails =>
    simp only [step] at taken
    cases taken
  | consume id =>
    obtain ⟨task,-,-,rfl⟩ := task_step taken
    exact gone
  | reply id payload =>
    obtain ⟨task,-,-,rfl⟩ := task_step taken
    exact gone
  | finish id =>
    obtain ⟨task,-,-,rfl⟩ := task_step taken
    exact gone
  | complete id =>
    obtain ⟨task,-,-,rfl⟩ := task_step taken
    exact gone
  | processCompletion => simp [step,idle] at taken
  | change runtime =>
    cases taken
    exact gone

theorem left_not_isolated {s t : State} (gone : t.isLeft = true) : ¬Isolated choose sessionId s t := by
  rintro ⟨-,-,u,reaches,selecting,-⟩
  have still : u.isLeft = true := reaches.invariant (fun _ _ _ gone taken => left_step gone taken) gone
  simp [State.isLeft,selecting] at still

theorem update_alive (s : State) (id : Nat) (downstream : Association → List Bytes) (other : Nat) :
    (s.update id fun task => { task with downstream := downstream task }).running other = s.running other := by
  have same := @task_update s id (fun task => { task with downstream := downstream task }) (fun _ => rfl) other
  rw [State.running,same,Option.any_map,State.running]
  congr 1
  funext task
  split <;> rfl

/-- A full channel is emptied until there is room for the datagram. -/
theorem running_resumes {s : State} {pending : Pending} {task : Association} (sending : s.loop = .sending pending)
    (found : s.task pending.association = some task) (running : task.phase = .running) :
    ∃ u, Reaches (step choose sessionId) s u ∧ u.loop = .selecting ∧ Retained s u := by
  generalize size : task.downstream.length = n
  induction n generalizing s task with
  | zero =>
    have room : task.phase = .running ∧ task.downstream.length < udpChannelDepth := ⟨running,by rw [size]; decide⟩
    have taken : step choose sessionId s .handOver = some { s.update pending.association
        fun task => { task with downstream := task.downstream ++ [pending.payload] } with
        loop := .selecting, handed := s.handed ++ [(pending.association,pending.destination)] } := by
      simp only [step,sending,found,room,and_self,if_true]
    refine ⟨_,.single taken,rfl,fun key id known alive => ⟨known,?_⟩⟩
    exact (update_alive s pending.association (fun task => task.downstream ++ [pending.payload]) id).trans alive
  | succ n ih =>
    have queued : task.phase = .running ∧ task.downstream ≠ [] := ⟨running,fun empty => by simp [empty] at size⟩
    have taken : step choose sessionId s (.consume pending.association) = some (s.update pending.association
        fun task => { task with downstream := task.downstream.tail }) := by
      simp only [step,found,queued,ne_eq,not_false_eq_true,and_self,if_true]
    have named := (task_some found).2
    have next : (s.update pending.association fun task => { task with downstream := task.downstream.tail }).task
        pending.association = some { task with downstream := task.downstream.tail } := by
      have moved := @task_update s pending.association (fun task => { task with downstream := task.downstream.tail })
        (fun _ => rfl) pending.association
      rw [moved,found,Option.map_some,if_pos named]
    obtain ⟨u,reaches,selecting,keeps⟩ := ih (s := s.update pending.association fun task => { task with downstream := task.downstream.tail }) sending next running
      (by simp [size])
    refine ⟨u,.trans (.single taken) reaches,selecting,fun key id known alive => keeps key id known ?_⟩
    exact (update_alive s pending.association (fun task => task.downstream.tail) id).trans alive

/-- A loop that has found the association of a datagram gets back to receiving. -/
theorem sending_resumes {s : State} {pending : Pending} (sending : s.loop = .sending pending)
    (entry : s.associations[pending.key]? = some pending.association) :
    ∃ u, Reaches (step choose sessionId) s u ∧ u.loop = .selecting ∧ Retained s u := by
  cases alive : s.running pending.association with
  | false =>
    have taken : step choose sessionId s .handOverFails =
        some { s with associations := s.associations.erase pending.key, loop := .selecting } := by
      simp [step,sending,alive]
    refine ⟨_,.single taken,rfl,?_⟩
    intro key id known running
    have other : pending.key ≠ key := by
      rintro rfl
      rw [entry] at known
      cases known
      rw [alive] at running
      cases running
    refine ⟨?_,running⟩
    dsimp only
    rw [Std.ExtTreeMap.getElem?_erase,if_neg (by simpa using other),known]
  | true =>
    obtain ⟨task,found,running⟩ := (Option.any_eq_true _ _).mp alive
    exact running_resumes sending found (by simpa using running)

theorem receive_resolved {s : State} {udpPeer : SocketAddr} {datagram : Bytes} {wire : String → Except String DnsResolution}
    {packet : SocksUdpPacket} {context : TargetContext} (parsed : (parseUdpPacket datagram).run = some (.ok packet))
    (resolved : (resolveDestination wire s.runtime packet.destination).1 = .ok context) :
    s.receive choose sessionId udpPeer datagram wire =
      { s with runtime := (resolveDestination wire s.runtime packet.destination).2 }.associate choose sessionId udpPeer
        packet context := by
  have found : resolveDestination wire s.runtime packet.destination =
      (.ok context,(resolveDestination wire s.runtime packet.destination).2) := Prod.ext resolved rfl
  rw [State.receive,parsed]
  dsimp only
  rw [found]

/-- A bad datagram is isolated if and only if it could be read and resolved and its sender has
an association for the target, for which selection is not asked again. -/
theorem bad_datagram_isolated_iff {s : State} (selecting : s.loop = .selecting) (udpPeer : SocketAddr) (datagram : Bytes)
    (wire : String → Except String DnsResolution) (bad : Bad choose sessionId s datagram wire) :
    ∃ t, step choose sessionId s (.receive udpPeer datagram wire) = some t ∧
      (Isolated choose sessionId s t ↔ ∃ packet context, (parseUdpPacket datagram).run = some (.ok packet) ∧
        (resolveDestination wire s.runtime packet.destination).1 = .ok context ∧
        (s.associations[(udpPeer,context.address)]?).isSome) := by
  refine ⟨s.receive choose sessionId udpPeer datagram wire,if_pos selecting,?_⟩
  constructor
  · intro isolated
    cases bad with
    | malformed error parsed =>
      rw [State.receive,parsed] at isolated
      exact absurd isolated (left_not_isolated rfl)
    | unresolvable packet error parsed resolved =>
      refine absurd isolated (left_not_isolated ?_)
      have failed : resolveDestination wire s.runtime packet.destination =
          (.error error,(resolveDestination wire s.runtime packet.destination).2) := Prod.ext resolved rfl
      rw [State.receive,parsed]
      dsimp only
      rw [failed]
      rfl
    | refused packet context error parsed resolved selected =>
      refine ⟨packet,context,parsed,resolved,?_⟩
      by_contra absent
      have none : s.associations[(udpPeer,context.address)]? = none := by simpa using absent
      refine absurd isolated (left_not_isolated ?_)
      rw [receive_resolved parsed resolved,State.associate]
      dsimp only
      rw [none,selected]
      rfl
  · rintro ⟨packet,context,parsed,resolved,known⟩
    obtain ⟨id,entry⟩ := Option.isSome_iff_exists.mp known
    have received : s.receive choose sessionId udpPeer datagram wire = { s with
        runtime := (resolveDestination wire s.runtime packet.destination).2
        loop := .sending ⟨(udpPeer,context.address),id,packet.destination,packet.payload⟩ } := by
      rw [receive_resolved parsed resolved,State.associate]
      dsimp only
      rw [entry]
    rw [received]
    exact ⟨rfl,rfl,sending_resumes rfl entry⟩

end Isolation

/-- An association to an IPv6 target in a runtime that has come to refuse IPv6. -/
def refusing : State :=
  let target : SocketAddr := .v6 1 53 0 0
  { State.initial twoAddresses with
    associations := (∅ : Std.ExtTreeMap Key Nat _).insert (client,target) 0
    tasks := [⟨0,client,target,target,[],.running⟩]
    nextId := 1 }

theorem refused_datagram_isolated :
    ∃ t, step (fun _ _ => none) 1 refusing (.receive client (packetBytes ⟨.socket (.v6 1 53 0 0),[7]⟩) answered) = some t ∧
      Isolated (fun _ _ => none) 1 refusing t := by
  have parsed : (parseUdpPacket (packetBytes ⟨.socket (.v6 1 53 0 0),[7]⟩)).run =
      some (.ok ⟨.socket (.v6 1 53 0 0),[7]⟩) := by
    rw [@parse_packetBytes ⟨.socket (.v6 1 53 0 0),[7]⟩ ⟨rfl,rfl⟩]
    rfl
  have resolved : (resolveDestination answered refusing.runtime (.socket (.v6 1 53 0 0))).1 =
      .ok (.externalContext (.v6 1 53 0 0) none) := by decide +kernel
  have entry : (refusing.associations[(client,(TargetContext.externalContext (.v6 1 53 0 0) none).address)]?).isSome = true := by
    decide +kernel
  obtain ⟨t,taken,isolated⟩ := @bad_datagram_isolated_iff (fun _ _ => none) 1 refusing rfl client
    (packetBytes ⟨.socket (.v6 1 53 0 0),[7]⟩) answered
    (.refused _ _ .ipv6Disabled parsed resolved rfl)
  exact ⟨t,taken,isolated.mpr ⟨_,_,parsed,resolved,entry⟩⟩

-- An empty datagram, from any sender, ends the loop and takes the associations with it.
theorem empty_datagram_ends_session :
    ∃ s t, run (step (fun _ _ => none) 1) (State.initial twoAddresses) (relayed 0x01020304) = some s ∧
      s.loop = .selecting ∧ s.associations.toList = [((client,.v4 0x01020304 53),0)] ∧
      step (fun _ _ => none) 1 s (.receive (.v4 0x7f000001 50000) [] answered) = some t ∧
      t.loop = .failed ⟨"socks-udp-read","SOCKS5 UDP packet is too short"⟩ ∧ t.associations = ∅ ∧
      ¬Isolated (fun _ _ => none) 1 s t := by
  have observed : (run (step (fun _ _ => none) 1) (State.initial twoAddresses) (relayed 0x01020304)).map
      (fun s => (s.loop,s.associations.toList)) = some (.selecting,[((client,.v4 0x01020304 53),0)]) := by decide +kernel
  obtain ⟨s,reached,same⟩ := Option.map_eq_some_iff.mp observed
  obtain ⟨selecting,associations⟩ := Prod.mk.inj same
  exact ⟨s,_,reached,selecting,associations,if_pos selecting,rfl,rfl,left_not_isolated rfl⟩

end Dynet.Ingress.Socks
