import Dynet.Ingress.Captured
import Dynet.Ingress.Fields

/-! The events of captured flows. What the network, the tasks and the timers answer is
a record that the relay functions are run on; they return their result with the
events they recorded, oldest first. -/
namespace Dynet.Ingress
open Dynet.Runtime Dynet.Lib.Text

structure Recorded where
  kind : IngressEventKind
  fields : FieldList
  deriving DecidableEq, Repr

/-- A field as readers of the event find it. -/
def Recorded.field (recorded : Recorded) (key : String) : Option String := (intoFields recorded.fields)[key]?

structure TcpRelayOutcome where
  upstream : SocketAddr
  clientToUpstreamBytes : Nat
  upstreamToClientBytes : Nat
  closeReason : String
  deriving DecidableEq, Repr

structure UdpRelayOutcome where
  upstream : SocketAddr
  closeReason : String
  deriving DecidableEq, Repr

structure CapturedTcpRelayOutcome where
  sessionId : Nat
  target : SocketAddr
  upstream : SocketAddr
  clientToUpstreamBytes : Nat
  upstreamToClientBytes : Nat
  closeReason : String
  deriving DecidableEq, Repr

structure CapturedUdpRelayOutcome where
  sessionId : Nat
  target : SocketAddr
  upstream : SocketAddr
  requestBytes : Nat
  responseBytes : Nat
  closeReason : String
  deriving DecidableEq, Repr

/-- The joined egress task: its own result, or the text of the join error. -/
abbrev TaskEnd := Except String (Except EgressError UdpRelayOutcome)

/-- A datagram that the egress task relays back, as `relay_udp_response` records it. -/
structure UdpResponse where
  upstream : SocketAddr
  bytes : Nat
  extraFields : FieldList
  deriving DecidableEq, Repr

/-- What `timeout(response_timeout, response_rx.recv())` answers. -/
inductive FirstResponse where
  | received (payload : List UInt8)
  | closed
  | timedOut
  deriving DecidableEq, Repr

/-- The flow as it arrived, and what it was judged to be. -/
structure Capture where
  sessionId : Nat
  peer : SocketAddr
  target : SocketAddr
  context : TargetContext
  selection : Except SelectionError SelectionDecision
  decisionTag : SelectionDecision → String

structure TcpCapture extends Capture where
  relayed : SelectionDecision → Except EgressError TcpRelayOutcome

structure UdpCapture extends Capture where
  request : Except String (List UInt8)
  delivered : Bool
  responses : List UdpResponse
  first : FirstResponse
  failed : TaskEnd
  written : Except String Unit
  finished : Option TaskEnd
  idleTimeoutMs : Nat
  responseTimeoutMs : Nat

namespace Capture
variable (capture : Capture)

def selectionErrorFields (error : SelectionError) : FieldList :=
  sessionFields capture.sessionId tunInbound "selection" capture.peer capture.target capture.target ++
    [("errorStage","egress-select"),("errorCode",error.code),
      ("ipFamily",if capture.target.isIpv6 then "ipv6" else "ipv4")] ++
    (match error.matchedRuleId with
      | some ruleId => [("matchedRuleId",ruleId.value),("ipv6Policy","deny"),("ipv6PolicySource","rule")]
      | none => []) ++
    [("error",error.message)]

def flowFields (decision : SelectionDecision) (upstream : SocketAddr) : FieldList :=
  pushDecisionFields (pushTargetContextFields (sessionFields capture.sessionId tunInbound
    (capture.decisionTag decision) capture.peer capture.target upstream) capture.context) decision

def capturedErrorFields (decision : SelectionDecision) (error : EgressError) : FieldList :=
  let upstream := error.upstream.getD capture.target
  pushEndpointFields (pushEgressErrorFields (capture.flowFields decision upstream)
    (capture.decisionTag decision) error) .upstream upstream

end Capture

def relayCapturedTcpRecorded (capture : TcpCapture) : Except String CapturedTcpRelayOutcome × List Recorded :=
  match capture.selection with
  | .error error => (.error error.message,[⟨.tcpError,capture.selectionErrorFields error⟩])
  | .ok decision =>
    let accept : Recorded := ⟨.tcpAccept,capture.flowFields decision capture.target⟩
    match capture.relayed decision with
    | .ok outcome =>
      (.ok ⟨capture.sessionId,capture.target,outcome.upstream,outcome.clientToUpstreamBytes,
          outcome.upstreamToClientBytes,outcome.closeReason⟩,
        [accept,⟨.tcpClose,capture.flowFields decision outcome.upstream ++
          [("clientToUpstreamBytes",toString outcome.clientToUpstreamBytes),
            ("upstreamToClientBytes",toString outcome.upstreamToClientBytes),
            ("closeReason",outcome.closeReason)]⟩])
    | .error error => (.error error.message,[accept,⟨.tcpError,capture.capturedErrorFields decision error⟩])

namespace UdpCapture
variable (capture : UdpCapture)

def awaitUdpError : Option String :=
  match capture.failed with
  | .ok (.ok outcome) => some s!"captured UDP relay closed before response: {outcome.closeReason}"
  | .ok (.error error) => some error.message
  | .error error => some s!"captured UDP relay task failed: {error}"

def awaitUdpOutcome (timeoutMs : Nat) : Except String UdpRelayOutcome :=
  match capture.finished with
  | some (.ok (.ok outcome)) => .ok outcome
  | some (.ok (.error error)) => .error error.message
  | some (.error error) => .error s!"captured UDP relay task failed: {error}"
  | none => .error s!"timed out after {timeoutMs}ms waiting for captured UDP relay to close"

def opening (decision : SelectionDecision) (requestBytes : Nat) : Recorded :=
  ⟨.udpDatagram,capture.flowFields decision capture.target ++
    [("direction","client-to-upstream"),("bytes",toString requestBytes)]⟩

-- `relay_udp_response` pushes no target context.
def relayUdpResponse (decision : SelectionDecision) (response : UdpResponse) : Recorded :=
  ⟨.udpDatagram,pushDecisionFields (sessionFields capture.sessionId tunInbound (capture.decisionTag decision)
      capture.peer capture.target response.upstream) decision ++
    [("direction","upstream-to-client"),("bytes",toString response.bytes)] ++ response.extraFields⟩

def relayError (decision : SelectionDecision) (message : String) : Recorded :=
  ⟨.udpError,capture.capturedErrorFields decision (.new "relay" (some capture.target) message)⟩

/-- The part of the relay after the egress task is started. -/
def awaitResponse (decision : SelectionDecision) (requestBytes : Nat) :
    Except String CapturedUdpRelayOutcome × List Recorded :=
  match capture.first with
  | .closed =>
    let error := capture.awaitUdpError.getD "captured UDP relay produced no response"
    (.error error,[capture.relayError decision error])
  | .timedOut =>
    let error := s!"timed out after {capture.responseTimeoutMs}ms waiting for captured UDP response"
    (.error error,[capture.relayError decision error])
  | .received response =>
    match capture.written with
    | .error error => (.error s!"failed writing captured UDP response: {error}",[])
    | .ok () =>
      match capture.awaitUdpOutcome (capture.idleTimeoutMs + capture.responseTimeoutMs) with
      | .error error => (.error error,[])
      | .ok outcome =>
        (.ok ⟨capture.sessionId,capture.target,outcome.upstream,requestBytes,response.length,
            outcome.closeReason⟩,
          [⟨.udpSessionClose,capture.flowFields decision outcome.upstream ++
            [("closeReason",outcome.closeReason)]⟩])

end UdpCapture

-- The egress task records its responses while the relay waits for it.
def relayCapturedUdpRecorded (capture : UdpCapture) : Except String CapturedUdpRelayOutcome × List Recorded :=
  match capture.request with
  | .error error => (.error s!"failed reading captured UDP payload: {error}",[])
  | .ok payload =>
    if payload = [] then (.error "captured UDP stream returned empty payload",[])
    else match capture.selection with
      | .error error => (.error error.message,[⟨.udpError,capture.selectionErrorFields error⟩])
      | .ok decision =>
        let opening := capture.opening decision payload.length
        if capture.delivered then
          let (result,events) := capture.awaitResponse decision payload.length
          (result,opening :: capture.responses.map (capture.relayUdpResponse decision) ++ events)
        else (.error "captured UDP downstream channel closed before relay",[opening])

def Recorded.Opens (recorded : Recorded) : Prop :=
  (recorded.kind = .tcpAccept ∨ recorded.kind = .udpDatagram) ∧ (recorded.field "decisionId").isSome

/-- A closing event under the ids of the opening. -/
def Recorded.closes (opening recorded : Recorded) : Bool :=
  recorded.kind.closes && recorded.field "sessionId" = opening.field "sessionId" &&
    recorded.field "decisionId" = opening.field "decisionId"

/-- After the first opening event there is exactly one that closes it. -/
def ClosedOnce (events : List Recorded) : Prop :=
  ∀ before opening after, events = before ++ opening::after → opening.Opens →
    (∀ earlier ∈ before, ¬ earlier.Opens) → after.countP opening.closes = 1

theorem closedOnce_of_unopened {events : List Recorded} (unopened : ∀ recorded ∈ events, ¬ recorded.Opens) :
    ClosedOnce events := by
  rintro before opening after rfl opens _
  exact absurd opens (unopened opening (List.mem_append_right _ List.mem_cons_self))

theorem closedOnce_cons_iff {opening : Recorded} (rest : List Recorded) (opens : opening.Opens) :
    ClosedOnce (opening::rest) ↔ rest.countP opening.closes = 1 := by
  constructor
  · intro closed
    exact closed [] opening rest rfl opens (by simp)
  · intro once before other after shape _ first
    cases before with
    | nil =>
      cases shape
      exact once
    | cons earlier _ =>
      cases shape
      exact absurd opens (first opening List.mem_cons_self)

section Ids
variable (capture : Capture) (decision : SelectionDecision)

theorem flow_ids (upstream : SocketAddr) (back : FieldList)
    (apart : ∀ entry ∈ back, entry.1 ≠ "sessionId" ∧ entry.1 ≠ "decisionId") :
    (intoFields (capture.flowFields decision upstream ++ back))["sessionId"]? = some (toString capture.sessionId) ∧
      (intoFields (capture.flowFields decision upstream ++ back))["decisionId"]? =
        some (toString decision.decisionId) := by
  have missing (key : String) (other : ∀ entry ∈ back, entry.1 ≠ key) :
      back.reverse.find? (fun entry => entry.1 = key) = none := by
    simpa [List.find?_eq_none] using other
  have session := missing "sessionId" fun entry member => (apart entry member).1
  have decided := missing "decisionId" fun entry member => (apart entry member).2
  rw [intoFields_lookup,intoFields_lookup,List.reverse_append,List.find?_append,session,List.find?_append,
    decided]
  cases source : decision.ipv6PolicySource <;> cases rule : decision.matchedRuleId <;>
    cases domain : capture.context.domain <;>
    simp [Capture.flowFields,pushDecisionFields,pushTargetContextFields,sessionFields,pushEndpointFields,
      ruleFields,Endpoint.label,source,rule,domain]

theorem capturedErrorFields_ids (error : EgressError) :
    (intoFields (capture.capturedErrorFields decision error))["sessionId"]? = some (toString capture.sessionId) ∧
      (intoFields (capture.capturedErrorFields decision error))["decisionId"]? =
        some (toString decision.decisionId) := by
  have shape : capture.capturedErrorFields decision error =
      capture.flowFields decision (error.upstream.getD capture.target) ++
        (pushEndpointFields (pushEgressErrorFields [] (capture.decisionTag decision) error) .upstream
          (error.upstream.getD capture.target)) := by
    simp [Capture.capturedErrorFields,pushEndpointFields,pushEgressErrorFields]
  rw [shape]
  refine flow_ids capture decision _ _ fun entry member => ?_
  revert entry
  cases client : error.clientToUpstreamBytes <;> cases upstream : error.upstreamToClientBytes <;>
    simp [pushEndpointFields,pushEgressErrorFields,byteField,client,upstream,Endpoint.label]

end Ids

/-- The event carries the ids of the flow and of its decision. -/
def Recorded.Of (recorded : Recorded) (capture : Capture) (decision : SelectionDecision) : Prop :=
  recorded.field "sessionId" = some (toString capture.sessionId) ∧
    recorded.field "decisionId" = some (toString decision.decisionId)

section Flow
variable {capture : Capture} {decision : SelectionDecision} {opening recorded : Recorded}

theorem Recorded.Of.opens (own : opening.Of capture decision)
    (kind : opening.kind = .tcpAccept ∨ opening.kind = .udpDatagram) : opening.Opens :=
  ⟨kind,by rw [own.2]; rfl⟩

theorem Recorded.Of.closes_eq (first : opening.Of capture decision) (own : recorded.Of capture decision) :
    opening.closes recorded = recorded.kind.closes := by
  simp [Recorded.closes,first.1,first.2,own.1,own.2]

variable (capture decision) in
theorem flow_of (kind : IngressEventKind) (upstream : SocketAddr) (back : FieldList)
    (apart : ∀ entry ∈ back, entry.1 ≠ "sessionId" ∧ entry.1 ≠ "decisionId") :
    Recorded.Of ⟨kind,capture.flowFields decision upstream ++ back⟩ capture decision :=
  flow_ids capture decision upstream back apart

end Flow

theorem tcp_closedOnce (capture : TcpCapture) : ClosedOnce (relayCapturedTcpRecorded capture).2 := by
  unfold relayCapturedTcpRecorded
  cases capture.selection with
  | error error =>
    refine closedOnce_of_unopened fun recorded member => ?_
    rw [List.mem_singleton.mp member]
    simp [Recorded.Opens]
  | ok decision =>
    have accept : Recorded.Of ⟨.tcpAccept,capture.flowFields decision capture.target⟩ capture.toCapture decision := by
      simpa using flow_of capture.toCapture decision .tcpAccept capture.target [] (by simp)
    cases relayed : capture.relayed decision with
    | ok outcome =>
      have close := flow_of capture.toCapture decision .tcpClose outcome.upstream
        [("clientToUpstreamBytes",toString outcome.clientToUpstreamBytes),
          ("upstreamToClientBytes",toString outcome.upstreamToClientBytes),("closeReason",outcome.closeReason)]
        (by simp)
      simp only [relayed]
      rw [closedOnce_cons_iff _ (accept.opens (.inl rfl)),List.countP_singleton,accept.closes_eq close]
      rfl
    | error error =>
      have close : Recorded.Of ⟨.tcpError,capture.capturedErrorFields decision error⟩ capture.toCapture decision :=
        capturedErrorFields_ids capture.toCapture decision error
      simp only [relayed]
      rw [closedOnce_cons_iff _ (accept.opens (.inl rfl)),List.countP_singleton,accept.closes_eq close]
      rfl

/-- Of a selected flow: the request enters the channel, and if a response arrives, it
is written back and the egress task ends in time with an outcome. -/
def UdpCapture.Answered (capture : UdpCapture) : Prop :=
  ∀ payload, capture.request = .ok payload → payload ≠ [] → ∀ decision, capture.selection = .ok decision →
    capture.delivered = true ∧ ∀ response, capture.first = .received response →
      capture.written = .ok () ∧ ∃ outcome, capture.finished = some (.ok (.ok outcome))

theorem awaitUdpOutcome_ok_iff (capture : UdpCapture) (timeoutMs : Nat) (outcome : UdpRelayOutcome) :
    capture.awaitUdpOutcome timeoutMs = .ok outcome ↔ capture.finished = some (.ok (.ok outcome)) := by
  unfold UdpCapture.awaitUdpOutcome
  split <;> rename_i finished <;> simp [finished]

/-- The events after the opening close the session once when the flow is answered,
and hold no closing event otherwise. -/
theorem awaitResponse_closes (capture : UdpCapture) (decision : SelectionDecision) (requestBytes : Nat) {opening : Recorded}
    (first : opening.Of capture.toCapture decision) :
    (capture.awaitResponse decision requestBytes).2.countP opening.closes = 1 ↔
      ∀ response, capture.first = .received response →
        capture.written = .ok () ∧ ∃ outcome, capture.finished = some (.ok (.ok outcome)) := by
  have failed (message : String) : [capture.relayError decision message].countP opening.closes = 1 := by
    have close : (capture.relayError decision message).Of capture.toCapture decision :=
      capturedErrorFields_ids capture.toCapture decision _
    rw [List.countP_singleton,first.closes_eq close]
    rfl
  unfold UdpCapture.awaitResponse
  cases capture.first with
  | closed => simpa using failed _
  | timedOut => simpa using failed _
  | received response =>
    simp only [FirstResponse.received.injEq,forall_eq']
    cases capture.written with
    | error error => simp
    | ok done =>
      cases awaited : capture.awaitUdpOutcome (capture.idleTimeoutMs + capture.responseTimeoutMs) with
      | error error =>
        have unfinished : ¬ ∃ outcome, capture.finished = some (.ok (.ok outcome)) := by
          rintro ⟨other,finished⟩
          rw [(awaitUdpOutcome_ok_iff _ _ _).mpr finished] at awaited
          cases awaited
        simp [unfinished]
      | ok outcome =>
        have close := flow_of capture.toCapture decision .udpSessionClose outcome.upstream
          [("closeReason",outcome.closeReason)] (by simp)
        have finished := (awaitUdpOutcome_ok_iff _ _ _).mp awaited
        simp [first.closes_eq close,IngressEventKind.closes,finished]

theorem udp_closedOnce_iff (capture : UdpCapture) :
    ClosedOnce (relayCapturedUdpRecorded capture).2 ↔ capture.Answered := by
  unfold relayCapturedUdpRecorded UdpCapture.Answered
  cases capture.request with
  | error error => simpa using closedOnce_of_unopened (by simp)
  | ok payload =>
    by_cases empty : payload = []
    · subst payload
      simpa using closedOnce_of_unopened (by simp)
    · cases capture.selection with
      | error error =>
        have unopened : ClosedOnce [⟨.udpError,capture.selectionErrorFields error⟩] := by
          refine closedOnce_of_unopened fun recorded member => ?_
          rw [List.mem_singleton.mp member]
          simp [Recorded.Opens]
        simpa [empty] using unopened
      | ok decision =>
        have first : (capture.opening decision payload.length).Of capture.toCapture decision :=
          flow_of capture.toCapture decision .udpDatagram capture.target _ (by simp)
        have opens := first.opens (.inr rfl)
        cases capture.delivered with
        | false => simp [empty,closedOnce_cons_iff [] opens]
        | true =>
          have datagrams : (capture.responses.map (capture.relayUdpResponse decision)).countP
              (capture.opening decision payload.length).closes = 0 := by
            rw [List.countP_eq_zero]
            intro recorded member
            obtain ⟨response,_,rfl⟩ := List.mem_map.mp member
            simp [Recorded.closes,UdpCapture.relayUdpResponse,IngressEventKind.closes]
          have closing := awaitResponse_closes capture decision payload.length first
          simp only [empty,if_true,if_false,Except.ok.injEq,forall_eq',ne_eq,not_false_eq_true,true_implies,true_and]
          rw [List.cons_append,closedOnce_cons_iff _ opens,List.countP_append,datagrams,Nat.zero_add]
          exact closing

/-- Accepted TCP flows are always closed once; an opened UDP flow is closed once if
and only if every step after a response succeeds. -/
theorem captured_sessions_close (tcp : TcpCapture) (udp : UdpCapture) :
    ClosedOnce (relayCapturedTcpRecorded tcp).2 ∧
      (ClosedOnce (relayCapturedUdpRecorded udp).2 ↔ udp.Answered) :=
  ⟨tcp_closedOnce tcp,udp_closedOnce_iff udp⟩

def directDecision : SelectionDecision :=
  ⟨1,1,⟨"default"⟩,none,⟨"default-node"⟩,.directAuditOutlet,
    [⟨⟨"default"⟩,⟨"default-node"⟩,.directAuditOutlet,.singleFirstEnabled,1⟩],.directAuditOutlet,.singleNode,
    .singleFirstEnabled,1,.ipv4,none⟩

def interruptedCapture : UdpCapture where
  sessionId := 1
  peer := .v4 0x0A000001 40000
  target := .v4 0x01010101 53
  context := .externalContext (.v4 0x01010101 53) none
  selection := .ok directDecision
  decisionTag := fun _ => "direct"
  request := .ok [1]
  delivered := true
  responses := [⟨.v4 0x01010101 53,1,[]⟩]
  first := .received [2]
  failed := .ok (.ok ⟨.v4 0x01010101 53,"idle-timeout"⟩)
  written := .error "broken pipe"
  finished := some (.ok (.ok ⟨.v4 0x01010101 53,"idle-timeout"⟩))
  idleTimeoutMs := 1000
  responseTimeoutMs := 1000

theorem interruptedCapture_stays_open :
    (relayCapturedUdpRecorded interruptedCapture).1 = .error "failed writing captured UDP response: broken pipe" ∧
      ¬ ClosedOnce (relayCapturedUdpRecorded interruptedCapture).2 := by
  refine ⟨rfl,?_⟩
  rw [udp_closedOnce_iff]
  intro answered
  have written := ((answered [1] rfl (by simp) directDecision rfl).2 [2] rfl).1
  cases written

end Dynet.Ingress
