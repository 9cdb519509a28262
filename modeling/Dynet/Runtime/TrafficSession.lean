import Dynet.Lib.Sqlite
import Std.Data.ExtTreeMap

/-! Traffic sessions in memory: one record per session key, folded from updates. -/
namespace Dynet.Runtime
open Dynet.Lib.Sqlite

def trafficSessionLimit : Nat := 1024

structure TrafficSession where
  sessionKey : String
  sessionId : Nat
  decisionId : Option Nat
  configGeneration : Option Nat
  inbound : String
  nodeProtocol : Option String
  peer : Option String
  target : Option String
  targetIp : Option String
  targetPort : Option UInt16
  targetDomain : Option String
  targetSource : Option String
  upstream : Option String
  selectionGroups : Option String
  selectionNodes : Option String
  selectionTrace : Option String
  startedAtUnixMs : Nat
  closedAtUnixMs : Option Nat
  durationMs : Option Nat
  closeReason : Option String
  errorStage : Option String
  errorCode : Option String
  errorClass : Option String
  errorSide : Option String
  errorPhase : Option String
  errorProtocolPhase : Option String
  errorScoreImpact : Option String
  error : Option String
  clientToUpstreamBytes : Nat
  upstreamToClientBytes : Nat
  clientToUpstreamDatagrams : Nat
  upstreamToClientDatagrams : Nat
  firstUpstreamAtUnixMs : Option Nat
  firstDownstreamAtUnixMs : Option Nat
  firstResponseLatencyMs : Option Nat
  lastObservedAtUnixMs : Nat
  deriving DecidableEq, Repr

structure TrafficSessionUpdate where
  sessionKey : String
  sessionId : Nat
  decisionId : Option Nat
  configGeneration : Option Nat
  inbound : String
  observedAtUnixMs : Nat
  nodeProtocol : Option String
  peer : Option String
  target : Option String
  targetIp : Option String
  targetPort : Option UInt16
  targetDomain : Option String
  targetSource : Option String
  upstream : Option String
  selectionGroups : Option String
  selectionNodes : Option String
  selectionTrace : Option String
  closeReason : Option String
  errorStage : Option String
  errorCode : Option String
  errorClass : Option String
  errorSide : Option String
  errorPhase : Option String
  errorProtocolPhase : Option String
  errorScoreImpact : Option String
  error : Option String
  clientToUpstreamBytes : Option Nat
  upstreamToClientBytes : Option Nat
  clientToUpstreamDatagram : Option Nat
  upstreamToClientDatagram : Option Nat
  closesSession : Bool
  deriving DecidableEq, Repr

def setIfSome (target value : Option String) : Option String := if value.isSome then value else target

namespace TrafficSession

def new (update : TrafficSessionUpdate) : TrafficSession where
  sessionKey := update.sessionKey
  sessionId := update.sessionId
  decisionId := update.decisionId
  configGeneration := update.configGeneration
  inbound := update.inbound
  nodeProtocol := none
  peer := none
  target := none
  targetIp := none
  targetPort := none
  targetDomain := none
  targetSource := none
  upstream := none
  selectionGroups := none
  selectionNodes := none
  selectionTrace := none
  startedAtUnixMs := update.observedAtUnixMs
  closedAtUnixMs := none
  durationMs := none
  closeReason := none
  errorStage := none
  errorCode := none
  errorClass := none
  errorSide := none
  errorPhase := none
  errorProtocolPhase := none
  errorScoreImpact := none
  error := none
  clientToUpstreamBytes := 0
  upstreamToClientBytes := 0
  clientToUpstreamDatagrams := 0
  upstreamToClientDatagrams := 0
  firstUpstreamAtUnixMs := none
  firstDownstreamAtUnixMs := none
  firstResponseLatencyMs := none
  lastObservedAtUnixMs := update.observedAtUnixMs

def countDatagram (count : Nat) (datagram : Option Nat) : Nat :=
  if datagram.isSome then (count + 1) % 2^64 else count

def firstSeen (seen : Option Nat) (datagram : Option Nat) (observed : Nat) : Option Nat :=
  if datagram.isSome then seen.or (some observed) else seen

-- The latency is derived from the first downstream time already updated here.
def applyUpdate (session : TrafficSession) (update : TrafficSessionUpdate) : TrafficSession :=
  let firstDownstream := firstSeen session.firstDownstreamAtUnixMs update.upstreamToClientDatagram
    update.observedAtUnixMs
  { session with
    decisionId := session.decisionId.or update.decisionId
    configGeneration := session.configGeneration.or update.configGeneration
    nodeProtocol := setIfSome session.nodeProtocol update.nodeProtocol
    peer := setIfSome session.peer update.peer
    target := setIfSome session.target update.target
    targetIp := setIfSome session.targetIp update.targetIp
    targetPort := session.targetPort.or update.targetPort
    targetDomain := setIfSome session.targetDomain update.targetDomain
    targetSource := setIfSome session.targetSource update.targetSource
    upstream := setIfSome session.upstream update.upstream
    selectionGroups := setIfSome session.selectionGroups update.selectionGroups
    selectionNodes := setIfSome session.selectionNodes update.selectionNodes
    selectionTrace := setIfSome session.selectionTrace update.selectionTrace
    closeReason := setIfSome session.closeReason update.closeReason
    errorStage := setIfSome session.errorStage update.errorStage
    errorCode := setIfSome session.errorCode update.errorCode
    errorClass := setIfSome session.errorClass update.errorClass
    errorSide := setIfSome session.errorSide update.errorSide
    errorPhase := setIfSome session.errorPhase update.errorPhase
    errorProtocolPhase := setIfSome session.errorProtocolPhase update.errorProtocolPhase
    errorScoreImpact := setIfSome session.errorScoreImpact update.errorScoreImpact
    error := setIfSome session.error update.error
    clientToUpstreamBytes := tallyWrapped (·.clientToUpstreamBytes) (·.clientToUpstreamDatagram)
      session.clientToUpstreamBytes update
    upstreamToClientBytes := tallyWrapped (·.upstreamToClientBytes) (·.upstreamToClientDatagram)
      session.upstreamToClientBytes update
    clientToUpstreamDatagrams := countDatagram session.clientToUpstreamDatagrams update.clientToUpstreamDatagram
    upstreamToClientDatagrams := countDatagram session.upstreamToClientDatagrams update.upstreamToClientDatagram
    firstUpstreamAtUnixMs := firstSeen session.firstUpstreamAtUnixMs update.clientToUpstreamDatagram
      update.observedAtUnixMs
    firstDownstreamAtUnixMs := firstDownstream
    firstResponseLatencyMs := session.firstResponseLatencyMs.or
      (firstDownstream.map fun first => first - session.startedAtUnixMs)
    closedAtUnixMs := if update.closesSession then some update.observedAtUnixMs else session.closedAtUnixMs
    durationMs := if update.closesSession then some (update.observedAtUnixMs - session.startedAtUnixMs)
      else session.durationMs
    lastObservedAtUnixMs := update.observedAtUnixMs }

end TrafficSession

structure TrafficSessionStore where
  inner : Std.ExtTreeMap String TrafficSession

namespace TrafficSessionStore

def empty : TrafficSessionStore := ⟨∅⟩

def older (left right : String × TrafficSession) : Bool :=
  ((compare left.2.lastObservedAtUnixMs right.2.lastObservedAtUnixMs).then (compare left.1 right.1)).isLT

def oldestSessionKey (sessions : Std.ExtTreeMap String TrafficSession) : Option String :=
  (sessions.toList.foldl (fun (best : Option (String × TrafficSession)) entry => match best with
    | none => some entry
    | some kept => if older entry kept then some entry else some kept) none).map (·.1)

def evict (sessions : Std.ExtTreeMap String TrafficSession) (key : String) :
    Std.ExtTreeMap String TrafficSession :=
  if ¬ sessions.contains key ∧ sessions.size = trafficSessionLimit then
    match oldestSessionKey sessions with
    | some oldest => sessions.erase oldest
    | none => sessions
  else sessions

def applyUpdate (store : TrafficSessionStore) (update : TrafficSessionUpdate) : TrafficSessionStore :=
  let sessions := evict store.inner update.sessionKey
  ⟨sessions.insert update.sessionKey
    ((sessions[update.sessionKey]?.getD (.new update)).applyUpdate update)⟩

end TrafficSessionStore

end Dynet.Runtime
