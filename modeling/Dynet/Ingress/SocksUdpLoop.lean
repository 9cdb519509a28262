import Dynet.Ingress.Captured
import Dynet.Ingress.SocksProtocol
import Dynet.Ingress.UdpTable

/-! The UDP side of a SOCKS5 session: one loop for the datagrams of every sender, a table of
associations by sender and resolved target, and a task for each association that relays
its replies under the header it was created with. Other tasks of the process change the
runtime between any two steps. -/
namespace Dynet.Ingress.Socks
open Dynet.Runtime Dynet.Lib Dynet.Lib.Machine
open Dynet.Ingress.UdpRelay (TaskPhase udpChannelDepth)

local instance : Ord (SocketAddr × SocketAddr) := lexOrd

/-- The table's key, which is also what a task sends when it ends. -/
abbrev Key := SocketAddr × SocketAddr

structure Association where
  id : Nat
  udpPeer : SocketAddr
  target : SocketAddr
  responseTarget : SocketAddr
  downstream : List Bytes
  phase : TaskPhase
  deriving DecidableEq, Repr

/-- A datagram the loop waits to hand to the association it found. -/
structure Pending where
  key : Key
  association : Nat
  destination : SocksDestination
  payload : Bytes
  deriving DecidableEq, Repr

structure Reply where
  association : Nat
  udpPeer : SocketAddr
  packet : Bytes
  deriving DecidableEq, Repr

inductive LoopPhase where
  | selecting
  | sending (pending : Pending)
  | closed
  | failed (error : SocksError)
  | panicked
  deriving DecidableEq, Repr

/-- `replies` and `handed` tell what was sent and to which association each datagram was
handed; no step reads them. -/
structure State where
  runtime : RuntimeState
  associations : Std.ExtTreeMap Key Nat
  tasks : List Association
  completions : List Key
  nextId : Nat
  loop : LoopPhase
  replies : List Reply
  handed : List (Nat × SocksDestination)

inductive Event where
  | receive (udpPeer : SocketAddr) (datagram : Bytes) (wire : String → Except String DnsResolution)
  | receiveFails (error : String)
  | controlCloses
  | handOver
  | handOverFails
  | consume (id : Nat)
  | reply (id : Nat) (payload : Bytes)
  | finish (id : Nat)
  | complete (id : Nat)
  | processCompletion
  | change (runtime : RuntimeState)

def resolveDestination (wire : String → Except String DnsResolution) (runtime : RuntimeState) :
    SocksDestination → Except SocksError TargetContext × RuntimeState
  | .socket address =>
    let (context,runtime) := resolveSocketDestination wire runtime address
    (.ok context,runtime)
  | .domain domain port => match runtime.resolveDomainA wire domain port with
    | (.ok address,runtime) => (.ok (.dynetDns address domain),runtime)
    | (.error error,runtime) => (.error ⟨"socks-resolve",s!"failed resolving {domain}:{port}: {error}"⟩,runtime)

def responseTargetForDestination : SocksDestination → SocketAddr → SocketAddr
  | .socket address, _ => address
  | .domain _ _, target => target

namespace State

def initial (runtime : RuntimeState) : State := ⟨runtime,∅,[],[],0,.selecting,[],[]⟩

def task (s : State) (id : Nat) : Option Association := s.tasks.find? fun task => task.id = id

def update (s : State) (id : Nat) (change : Association → Association) : State :=
  { s with tasks := s.tasks.map fun task => if task.id = id then change task else task }

/-- The receiving end of the association's channel is there. -/
def running (s : State) (id : Nat) : Bool := (s.task id).any fun task => task.phase = .running

-- The table and the receiving end of the completions go with the loop, the tasks do not.
def leave (s : State) (loop : LoopPhase) : State := { s with associations := ∅, completions := [], loop }

def isLeft (s : State) : Bool := match s.loop with
  | .selecting | .sending _ => false
  | .closed | .failed _ | .panicked => true

section Receive
variable (choose : SelectionContext → GroupCandidateSet → Option NodeId) (sessionId : Nat)

/-- The datagram's association, found under its key or opened. -/
def associate (s : State) (udpPeer : SocketAddr) (packet : SocksUdpPacket) (context : TargetContext) : State :=
  let key := (udpPeer,context.address)
  match s.associations[key]? with
  | some id => { s with loop := .sending ⟨key,id,packet.destination,packet.payload⟩ }
  | none => match selectTarget choose s.runtime sessionId .udp context with
    | .error error => s.leave (.failed ⟨"egress-select",error.message⟩)
    | .ok (_,runtime) =>
      let responseTarget := responseTargetForDestination packet.destination context.address
      { s with
        runtime
        associations := s.associations.insert key s.nextId
        tasks := s.tasks ++ [⟨s.nextId,udpPeer,context.address,responseTarget,[],.running⟩]
        nextId := s.nextId + 1
        loop := .sending ⟨key,s.nextId,packet.destination,packet.payload⟩ }

-- Every `?` between the receive and the lookup leaves the loop.
def receive (s : State) (udpPeer : SocketAddr) (datagram : Bytes) (wire : String → Except String DnsResolution) : State :=
  match (parseUdpPacket datagram).run with
  | none => s.leave .panicked
  | some (.error error) => s.leave (.failed error)
  | some (.ok packet) => match resolveDestination wire s.runtime packet.destination with
    | (.error error,runtime) => { s with runtime }.leave (.failed error)
    | (.ok context,runtime) => { s with runtime }.associate choose sessionId udpPeer packet context

end Receive

end State

section Step
variable (choose : SelectionContext → GroupCandidateSet → Option NodeId) (sessionId : Nat)

def step (s : State) : Event → Option State
  | .receive udpPeer datagram wire =>
    if s.loop = .selecting then some (s.receive choose sessionId udpPeer datagram wire) else none
  | .receiveFails error =>
    if s.loop = .selecting then
      some (s.leave (.failed ⟨"socks-udp-read",s!"failed receiving SOCKS5 UDP datagram: {error}"⟩))
    else none
  | .controlCloses => if s.loop = .selecting then some (s.leave .closed) else none
  | .handOver => match s.loop with
    | .sending pending => match s.task pending.association with
      | some task =>
        if task.phase = .running ∧ task.downstream.length < udpChannelDepth then
          some { s.update pending.association fun task => { task with downstream := task.downstream ++ [pending.payload] } with
            loop := .selecting
            handed := s.handed ++ [(pending.association,pending.destination)] }
        else none
      | none => none
    | _ => none
  | .handOverFails => match s.loop with
    | .sending pending =>
      if s.running pending.association then none
      else some { s with associations := s.associations.erase pending.key, loop := .selecting }
    | _ => none
  | .consume id => match s.task id with
    | some task =>
      if task.phase = .running ∧ task.downstream ≠ [] then
        some (s.update id fun task => { task with downstream := task.downstream.tail })
      else none
    | none => none
  | .reply id payload => match s.task id with
    | some task =>
      if task.phase = .running then
        some { s with replies := s.replies ++ [⟨id,task.udpPeer,socks5UdpPacket task.responseTarget payload⟩] }
      else none
    | none => none
  | .finish id => match s.task id with
    | some task =>
      if task.phase = .running then some (s.update id fun task => { task with downstream := [], phase := .ended })
      else none
    | none => none
  | .complete id => match s.task id with
    | some task =>
      if task.phase = .ended ∧ (s.isLeft ∨ s.completions.length < udpChannelDepth) then
        some { s.update id fun task => { task with phase := .completed } with
          completions := if s.isLeft then [] else s.completions ++ [(task.udpPeer,task.target)] }
      else none
    | none => none
  | .processCompletion =>
    if s.loop = .selecting then match s.completions with
      | [] => none
      | key::rest => some { s with associations := s.associations.erase key, completions := rest }
    else none
  | .change runtime => some { s with runtime }

end Step

end Dynet.Ingress.Socks
