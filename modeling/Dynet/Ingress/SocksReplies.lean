import Dynet.Ingress.SocksUdpLoop

/-! Under which address a reply reaches a SOCKS5 client. The label of an association is that
of the datagram which opened it, while later datagrams find it by the target they resolve
to, and several addresses may resolve to one target. -/
namespace Dynet.Ingress.Socks
open Dynet.Runtime Dynet.Lib Dynet.Lib.Machine
open Dynet.Ingress.UdpRelay (TaskPhase udpChannelDepth)

def State.Labelled (s : State) (id : Nat) (label : SocketAddr) : Prop :=
  ∃ task ∈ s.tasks, task.id = id ∧ task.responseTarget = label

/-- Every reply relayed for an association has a header that reads as the address which the
datagrams of the association were sent to. -/
def Addressed (s : State) : Prop :=
  ∀ reply ∈ s.replies, ∀ address, (reply.association,.socket address) ∈ s.handed →
    ∃ payload, (parseUdpPacket reply.packet).run = some (.ok ⟨.socket address,payload⟩)

/-- A datagram to a socket address that finds a running association of its sender under the
target it resolves to finds one that was opened for that same address. -/
def SameLabel (s : State) : Event → Prop
  | .receive udpPeer datagram wire => ∀ packet context address id,
      (parseUdpPacket datagram).run = some (.ok packet) → packet.destination = .socket address →
      (resolveDestination wire s.runtime packet.destination).1 = .ok context →
      s.associations[(udpPeer,context.address)]? = some id → s.running id = true → s.Labelled id address
  | _ => True

/-- What a run keeps whose datagrams all find the label they were sent to. -/
structure Faithful (s : State) : Prop where
  fresh : ∀ id label, s.Labelled id label → id < s.nextId
  unique : ∀ id first second, s.Labelled id first → s.Labelled id second → first = second
  expressible : ∀ id label, s.Labelled id label → Expressible (.socket label)
  pending : ∀ pending address, s.loop = .sending pending → pending.destination = .socket address →
    s.running pending.association = true → s.Labelled pending.association address
  handed : ∀ id address, (id,.socket address) ∈ s.handed → s.Labelled id address
  replies : ∀ reply ∈ s.replies, ∃ label payload, s.Labelled reply.association label ∧
    reply.packet = socks5UdpPacket label payload

theorem Faithful.initial (runtime : RuntimeState) : Faithful (State.initial runtime) where
  fresh := by simp [State.initial,State.Labelled]
  unique := by simp [State.initial,State.Labelled]
  expressible := by simp [State.initial,State.Labelled]
  pending := by simp [State.initial]
  handed := by simp [State.initial]
  replies := by simp [State.initial]

theorem Faithful.addressed {s : State} (faithful : Faithful s) : Addressed s := by
  intro reply member address used
  obtain ⟨label,payload,labelled,packet⟩ := faithful.replies reply member
  obtain rfl := faithful.unique _ _ _ labelled (faithful.handed _ _ used)
  exact ⟨payload,by rw [packet,socks5UdpPacket_bytes,parse_packetBytes (faithful.expressible _ _ labelled)]; rfl⟩

/-- What most steps do to the labels: nothing. -/
structure Carries (s t : State) : Prop where
  nextId : t.nextId = s.nextId
  labelled : ∀ id label, t.Labelled id label ↔ s.Labelled id label
  running : ∀ id, t.running id = true → s.running id = true
  replies : t.replies = s.replies
  handed : t.handed = s.handed
  loop : ∀ pending, t.loop = .sending pending → s.loop = .sending pending

theorem Carries.faithful {s t : State} (carries : Carries s t) (faithful : Faithful s) : Faithful t where
  fresh id label labelled := by
    rw [carries.nextId]
    exact faithful.fresh id label ((carries.labelled id label).mp labelled)
  unique id first second one other :=
    faithful.unique id first second ((carries.labelled id first).mp one) ((carries.labelled id second).mp other)
  expressible id label labelled := faithful.expressible id label ((carries.labelled id label).mp labelled)
  pending pending address sending literal running :=
    (carries.labelled _ _).mpr (faithful.pending pending address (carries.loop pending sending) literal (carries.running _ running))
  handed id address used := (carries.labelled id address).mpr (faithful.handed id address (carries.handed ▸ used))
  replies reply member := by
    obtain ⟨label,payload,labelled,packet⟩ := faithful.replies reply (carries.replies ▸ member)
    exact ⟨label,payload,(carries.labelled _ _).mpr labelled,packet⟩

/-- A change of one task that keeps its name and its label. -/
structure Keeps (change : Association → Association) : Prop where
  id : ∀ task, (change task).id = task.id
  label : ∀ task, (change task).responseTarget = task.responseTarget
  phase : ∀ task, (change task).phase = .running → task.phase = .running

theorem keeps_downstream (downstream : Association → List Bytes) :
    Keeps fun task => { task with downstream := downstream task } :=
  ⟨fun _ => rfl,fun _ => rfl,fun _ running => running⟩

theorem keeps_stopped {phase : TaskPhase} (stopped : phase ≠ .running) (downstream : Association → List Bytes) :
    Keeps fun task => { task with downstream := downstream task, phase } :=
  ⟨fun _ => rfl,fun _ => rfl,fun _ running => absurd running stopped⟩

section Update
variable {s : State} {id : Nat} {change : Association → Association} (keeps : Keeps change)
include keeps

theorem update_labelled (other : Nat) (label : SocketAddr) :
    (s.update id change).Labelled other label ↔ s.Labelled other label := by
  constructor
  · rintro ⟨task,member,named,labelled⟩
    obtain ⟨old,present,rfl⟩ := List.mem_map.mp member
    refine ⟨old,present,?_,?_⟩
    · split at named
      · rw [← named,keeps.id]
      · exact named
    · split at labelled
      · rw [← labelled,keeps.label]
      · exact labelled
  · rintro ⟨task,member,named,labelled⟩
    refine ⟨_,List.mem_map_of_mem member,?_,?_⟩
    · split
      · rw [keeps.id,named]
      · exact named
    · split
      · rw [keeps.label,labelled]
      · exact labelled

omit keeps in
theorem task_update (same : ∀ task, (change task).id = task.id) (other : Nat) :
    (s.update id change).task other = (s.task other).map fun task => if task.id = id then change task else task := by
  have kept (task : Association) : (if task.id = id then change task else task).id = task.id := by
    split
    · exact same task
    · rfl
  rw [State.task,State.task,State.update,List.find?_map]
  simp only [Function.comp_def,kept]

theorem update_running (other : Nat) (running : (s.update id change).running other = true) : s.running other = true := by
  rw [State.running,task_update keeps.id,Option.any_map] at running
  obtain ⟨task,found,phase⟩ := (Option.any_eq_true _ _).mp running
  refine (Option.any_eq_true _ _).mpr ⟨task,found,?_⟩
  simp only [decide_eq_true_eq] at phase ⊢
  split at phase
  · exact keeps.phase task phase
  · exact phase

theorem update_carries : Carries s (s.update id change) :=
  ⟨rfl,update_labelled keeps,update_running keeps,rfl,rfl,fun _ same => same⟩

end Update

theorem leave_carries (s : State) {loop : LoopPhase} (gone : ∀ pending, loop ≠ .sending pending) :
    Carries s (s.leave loop) :=
  ⟨rfl,fun _ _ => Iff.rfl,fun _ running => running,rfl,rfl,fun pending sending => absurd sending (gone pending)⟩

theorem task_some {s : State} {id : Nat} {task : Association} (found : s.task id = some task) :
    task ∈ s.tasks ∧ task.id = id :=
  ⟨List.mem_of_find?_eq_some found,by simpa using List.find?_some found⟩

theorem task_step {s t : State} {id : Nat} {allowed : Association → Prop} [DecidablePred allowed]
    {next : Association → State}
    (taken : (match s.task id with
      | some task => if allowed task then some (next task) else none
      | none => none) = some t) : ∃ task, s.task id = some task ∧ allowed task ∧ t = next task := by
  split at taken
  · rename_i task found
    simp only [Option.ite_none_right_eq_some,Option.some.injEq] at taken
    exact ⟨task,found,taken.1,taken.2.symm⟩
  · cases taken

theorem runtime_carries (s : State) (runtime : RuntimeState) : Carries s { s with runtime } :=
  ⟨rfl,fun _ _ => Iff.rfl,fun _ running => running,rfl,rfl,fun _ same => same⟩

theorem resolveDestination_expressible (wire : String → Except String DnsResolution) (runtime : RuntimeState)
    {destination : SocksDestination} (fits : Expressible destination) {context : TargetContext}
    (resolved : (resolveDestination wire runtime destination).1 = .ok context) :
    Expressible (.socket (responseTargetForDestination destination context.address)) := by
  cases destination with
  | socket address => exact fits
  | domain domain port =>
    cases found : RuntimeState.resolveDomainA wire runtime domain port with
    | mk result after =>
      rw [resolveDestination,found] at resolved
      cases result with
      | error error => cases resolved
      | ok address =>
        cases resolved
        have known := RuntimeState.resolveDomainA_ok wire (congrArg Prod.fst found)
        cases address with
        | v4 => trivial
        | v6 => exact absurd known.1 (by simp [SocketAddr.ip,IpAddr.isIpv4])

theorem labelled_append {s t : State} {task : Association} (opened : t.tasks = s.tasks ++ [task]) (id : Nat) (label : SocketAddr) :
    t.Labelled id label ↔ s.Labelled id label ∨ id = task.id ∧ label = task.responseTarget := by
  simp only [State.Labelled,opened,List.mem_append,List.mem_singleton,or_and_right,exists_or,exists_eq_left]
  exact or_congr_right (and_congr eq_comm eq_comm)

section Steps
variable (choose : SelectionContext → GroupCandidateSet → Option NodeId) (sessionId : Nat)

theorem associate_faithful {s : State} (faithful : Faithful s) (udpPeer : SocketAddr) {packet : SocksUdpPacket}
    {context : TargetContext}
    (fits : Expressible (.socket (responseTargetForDestination packet.destination context.address)))
    (same : ∀ address id, packet.destination = .socket address → s.associations[(udpPeer,context.address)]? = some id →
      s.running id = true → s.Labelled id address) :
    Faithful (s.associate choose sessionId udpPeer packet context) := by
  unfold State.associate
  dsimp only
  split
  · rename_i id entry
    refine ⟨faithful.fresh,faithful.unique,faithful.expressible,?_,faithful.handed,faithful.replies⟩
    intro pending address sending literal running
    cases sending
    exact same address id literal entry running
  · split
    · exact (leave_carries s (fun _ => by simp)).faithful faithful
    · constructor
      · intro id label labelled
        obtain old | ⟨rfl,-⟩ := (labelled_append rfl id label).mp labelled
        · exact Nat.lt_succ_of_lt (faithful.fresh id label old)
        · exact Nat.lt_succ_self _
      · intro id first second one other
        obtain old | ⟨rfl,rfl⟩ := (labelled_append rfl id first).mp one
        · obtain older | ⟨rfl,rfl⟩ := (labelled_append rfl id second).mp other
          · exact faithful.unique id first second old older
          · exact absurd (faithful.fresh _ _ old) (Nat.lt_irrefl _)
        · obtain older | ⟨-,rfl⟩ := (labelled_append rfl _ second).mp other
          · exact absurd (faithful.fresh _ _ older) (Nat.lt_irrefl _)
          · rfl
      · intro id label labelled
        obtain old | ⟨rfl,rfl⟩ := (labelled_append rfl id label).mp labelled
        · exact faithful.expressible id label old
        · exact fits
      · intro pending address sending literal running
        cases sending
        refine (labelled_append rfl _ _).mpr (.inr ⟨rfl,?_⟩)
        dsimp only at literal ⊢
        rw [literal]
        rfl
      · intro id address used
        exact (labelled_append rfl _ _).mpr (.inl (faithful.handed id address used))
      · intro reply member
        obtain ⟨label,payload,labelled,packet⟩ := faithful.replies reply member
        exact ⟨label,payload,(labelled_append rfl _ _).mpr (.inl labelled),packet⟩

theorem step_faithful {s t : State} {event : Event} (faithful : Faithful s) (same : SameLabel s event)
    (taken : step choose sessionId s event = some t) : Faithful t := by
  cases event with
  | receive udpPeer datagram wire =>
    simp only [step,Option.ite_none_right_eq_some,Option.some.injEq] at taken
    obtain ⟨-,rfl⟩ := taken
    unfold State.receive
    split
    · exact (leave_carries s (fun _ => by simp)).faithful faithful
    · exact (leave_carries s (fun _ => by simp)).faithful faithful
    · rename_i packet parsed
      have moved (runtime : RuntimeState) := (runtime_carries s runtime).faithful faithful
      split
      · rename_i error runtime resolved
        exact (leave_carries _ (fun _ => by simp)).faithful (moved runtime)
      · rename_i context runtime resolved
        have found : (resolveDestination wire s.runtime packet.destination).1 = .ok context := by rw [resolved]
        refine associate_faithful choose sessionId (moved runtime) udpPeer
          (resolveDestination_expressible wire s.runtime (parse_expressible parsed) found) ?_
        intro address id literal entry running
        exact same packet context address id parsed literal found entry running
  | receiveFails error =>
    simp only [step,Option.ite_none_right_eq_some,Option.some.injEq] at taken
    obtain ⟨-,rfl⟩ := taken
    exact (leave_carries s (fun _ => by simp)).faithful faithful
  | controlCloses =>
    simp only [step,Option.ite_none_right_eq_some,Option.some.injEq] at taken
    obtain ⟨-,rfl⟩ := taken
    exact (leave_carries s (fun _ => by simp)).faithful faithful
  | handOver =>
    simp only [step] at taken
    split at taken
    · rename_i pending sending
      obtain ⟨task,found,⟨running,-⟩,rfl⟩ := task_step taken
      have alive : s.running pending.association = true := by simp [State.running,found,running]
      have keeps := keeps_downstream fun task => task.downstream ++ [pending.payload]
      have carries : Carries s (s.update pending.association _) := update_carries keeps
      have moved := carries.faithful faithful
      refine ⟨moved.fresh,moved.unique,moved.expressible,by simp,?_,moved.replies⟩
      intro id address used
      obtain before | last := List.mem_append.mp used
      · exact moved.handed id address before
      · obtain ⟨rfl,literal⟩ := Prod.mk.inj (List.mem_singleton.mp last)
        exact (update_labelled keeps _ _).mpr
          (faithful.pending pending address sending literal.symm alive)
    · cases taken
  | handOverFails =>
    simp only [step] at taken
    split at taken
    · simp only [Option.ite_none_left_eq_some,Option.some.injEq] at taken
      obtain ⟨-,rfl⟩ := taken
      exact ⟨faithful.fresh,faithful.unique,faithful.expressible,by simp,faithful.handed,faithful.replies⟩
    · cases taken
  | consume id =>
    obtain ⟨task,-,-,rfl⟩ := task_step taken
    exact (update_carries (keeps_downstream fun task => task.downstream.tail)).faithful faithful
  | reply id payload =>
    obtain ⟨task,found,-,rfl⟩ := task_step taken
    obtain ⟨member,named⟩ := task_some found
    refine ⟨faithful.fresh,faithful.unique,faithful.expressible,faithful.pending,faithful.handed,?_⟩
    intro reply sent
    obtain before | last := List.mem_append.mp sent
    · exact faithful.replies reply before
    · obtain rfl := List.mem_singleton.mp last
      exact ⟨task.responseTarget,payload,⟨task,member,named,rfl⟩,rfl⟩
  | finish id =>
    obtain ⟨task,-,running,rfl⟩ := task_step taken
    exact (update_carries (keeps_stopped (by decide) fun _ => [])).faithful faithful
  | complete id =>
    obtain ⟨task,-,-,rfl⟩ := task_step taken
    have carries : Carries s (s.update id fun task => { task with phase := .completed }) :=
      update_carries (keeps_stopped (by decide) fun task => task.downstream)
    have moved := carries.faithful faithful
    exact ⟨moved.fresh,moved.unique,moved.expressible,moved.pending,moved.handed,moved.replies⟩
  | processCompletion =>
    simp only [step] at taken
    split at taken
    · split at taken
      · cases taken
      · cases taken
        exact ⟨faithful.fresh,faithful.unique,faithful.expressible,faithful.pending,faithful.handed,faithful.replies⟩
    · cases taken
  | change runtime =>
    cases taken
    exact (runtime_carries s runtime).faithful faithful

end Steps

/-- In every run whose datagrams to socket addresses find only associations that were opened
for the same address, every reply carries the address its association was used under. -/
theorem replies_addressed (choose : SelectionContext → GroupCandidateSet → Option NodeId) (sessionId : Nat)
    (runtime : RuntimeState) (events : List Event) (t : State)
    (same : Along (step choose sessionId) (fun s event _ => SameLabel s event) (State.initial runtime) events)
    (reached : run (step choose sessionId) (State.initial runtime) events = some t) : Addressed t := by
  suffices faithful : Faithful t from faithful.addressed
  refine run_invariant ?_ (Faithful.initial runtime) same reached
  intro s event next faithful taken here
  exact step_faithful choose sessionId faithful here taken

def twoAddresses : RuntimeState :=
  ⟨.fromSeed 1 (.singleNode "direct"),ObservedDnsMap.empty.record "example.com" [.v4 0x01020304,.v4 0x01020305],0⟩

def answered (_ : String) : Except String DnsResolution := .ok ⟨some ⟨some "example.com",[.v4 0x01020304,.v4 0x01020305]⟩⟩

def client : SocketAddr := .v4 0x7f000001 40000

def relayed (address : BitVec 32) : List Event :=
  [.receive client (socks5UdpPacket (.v4 address 53) [1]) answered,.handOver]

theorem labelled_of_all {s : State} {id : Nat} {address : SocketAddr} (running : s.running id = true)
    (all : ∀ task ∈ s.tasks, task.responseTarget = address) : s.Labelled id address := by
  obtain ⟨task,found,-⟩ := (Option.any_eq_true _ _).mp running
  obtain ⟨member,named⟩ := task_some found
  exact ⟨task,member,named,all task member⟩

/-- The second datagram finds the association of the first. -/
def sampleEvents : List Event := relayed 0x01020304 ++ relayed 0x01020304 ++ [.reply 0 [7]]

theorem sampleEvents_joined : (run (step (fun _ _ => none) 1) (State.initial twoAddresses) sampleEvents).map
    (fun t => (t.replies,t.handed)) = some ([⟨0,client,socks5UdpPacket (.v4 0x01020304 53) [7]⟩],
      [(0,.socket (.v4 0x01020304 53)),(0,.socket (.v4 0x01020304 53))]) := by decide +kernel

theorem sampleEvents_labelled :
    Along (step (fun _ _ => none) 1) (fun s event _ => SameLabel s event) (State.initial twoAddresses) sampleEvents := by
  intro opened first
  refine ⟨?_,fun handed second => ⟨trivial,fun joined third => ⟨?_,fun last fourth => ⟨trivial,fun _ _ => ⟨trivial,trivial⟩⟩⟩⟩⟩
  · intro packet context address id _ _ _ entry
    simp [State.initial] at entry
  · have tasks : (run (step (fun _ _ => none) 1) (State.initial twoAddresses) (relayed 0x01020304)).map State.tasks =
        some [⟨0,client,.v4 0x01020304 53,.v4 0x01020304 53,[[1]],.running⟩] := by decide +kernel
    have reached : run (step (fun _ _ => none) 1) (State.initial twoAddresses) (relayed 0x01020304) = some handed := by
      rw [relayed,run,first,Option.bind_some,run,second]
      rfl
    rw [reached,Option.map_some,Option.some.injEq] at tasks
    intro packet context address id parsed literal _ _ running
    rw [socks5UdpPacket_bytes,@parse_packetBytes ⟨.socket (.v4 0x01020304 53),[1]⟩ trivial] at parsed
    cases parsed
    cases literal
    refine labelled_of_all running ?_
    rw [tasks]
    simp

theorem one_address_addressed :
    ∃ t, run (step (fun _ _ => none) 1) (State.initial twoAddresses) sampleEvents = some t ∧ Addressed t ∧
      t.replies = [⟨0,client,socks5UdpPacket (.v4 0x01020304 53) [7]⟩] ∧
      t.handed = [(0,.socket (.v4 0x01020304 53)),(0,.socket (.v4 0x01020304 53))] := by
  obtain ⟨t,reached,same⟩ := Option.map_eq_some_iff.mp sampleEvents_joined
  obtain ⟨replies,handed⟩ := Prod.mk.inj same
  exact ⟨t,reached,replies_addressed (fun _ _ => none) 1 twoAddresses _ t sampleEvents_labelled reached,replies,handed⟩

-- Both addresses of a name resolve to the first, so the second datagram joins the association
-- of the first and is answered under the other address.
theorem reply_under_other_address :
    ∃ t, run (step (fun _ _ => none) 1) (State.initial twoAddresses)
        (relayed 0x01020304 ++ relayed 0x01020305 ++ [.reply 0 [7]]) = some t ∧
      (0,.socket (.v4 0x01020305 53)) ∈ t.handed ∧
      t.replies = [⟨0,client,socks5UdpPacket (.v4 0x01020304 53) [7]⟩] ∧ ¬Addressed t := by
  have observed : (run (step (fun _ _ => none) 1) (State.initial twoAddresses)
      (relayed 0x01020304 ++ relayed 0x01020305 ++ [.reply 0 [7]])).map (fun t => (t.replies,t.handed)) =
      some ([⟨0,client,socks5UdpPacket (.v4 0x01020304 53) [7]⟩],
        [(0,.socket (.v4 0x01020304 53)),(0,.socket (.v4 0x01020305 53))]) := by decide +kernel
  obtain ⟨t,reached,same⟩ := Option.map_eq_some_iff.mp observed
  obtain ⟨replies,handed⟩ := Prod.mk.inj same
  have used : (0,.socket (.v4 0x01020305 53)) ∈ t.handed := by rw [handed]; exact List.mem_of_getElem? (i := 1) rfl
  refine ⟨t,reached,used,replies,fun addressed => ?_⟩
  obtain ⟨payload,read⟩ := addressed ⟨0,client,socks5UdpPacket (.v4 0x01020304 53) [7]⟩
    (by rw [replies]; exact List.mem_cons_self) (.v4 0x01020305 53) used
  rw [socks5UdpPacket_bytes,@parse_packetBytes ⟨.socket (.v4 0x01020304 53),[7]⟩ trivial] at read
  cases read

end Dynet.Ingress.Socks
