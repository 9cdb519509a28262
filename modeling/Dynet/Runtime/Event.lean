import Dynet.Runtime.TrafficSession
import Dynet.Lib.Text
import Mathlib.Algebra.Group.Nat.Defs
import Mathlib.Data.Option.Basic

/-! Ingress events: the bounded event queue and the update an event makes to its
traffic session. `record` takes an event's id before it locks the queue, so the two
halves are separate functions. The clock is an argument. -/
namespace Dynet.Runtime
open Dynet.Lib.Text

def eventLimit : Nat := 1024

inductive IngressEventKind where
  | dnsQuery | dnsResponse | dnsError | tcpAccept | tcpClose | tcpError
  | udpSessionStart | udpDatagram | udpSessionClose | udpError
  deriving DecidableEq, Repr

def IngressEventKind.asStr : IngressEventKind → String
  | .dnsQuery => "dns-query"
  | .dnsResponse => "dns-response"
  | .dnsError => "dns-error"
  | .tcpAccept => "tcp-accept"
  | .tcpClose => "tcp-close"
  | .tcpError => "tcp-error"
  | .udpSessionStart => "udp-session-start"
  | .udpDatagram => "udp-datagram"
  | .udpSessionClose => "udp-session-close"
  | .udpError => "udp-error"

def IngressEventKind.isDns : IngressEventKind → Bool
  | .dnsQuery | .dnsResponse | .dnsError => true
  | _ => false

def IngressEventKind.closes : IngressEventKind → Bool
  | .tcpClose | .tcpError | .udpSessionClose | .udpError => true
  | _ => false

abbrev Fields := Std.ExtTreeMap String String

/-- `into_fields`: of two entries under one key the later one stays. -/
def intoFields (entries : List (String × String)) : Fields :=
  entries.foldl (fun fields entry => fields.insert entry.1 entry.2) ∅

theorem intoFields_lookup (entries : List (String × String)) (key : String) :
    (intoFields entries)[key]? = (entries.reverse.find? fun entry => entry.1 = key).map (·.2) := by
  have general (fields : Fields) : (entries.foldl (fun fields entry => fields.insert entry.1 entry.2) fields)[key]? =
      ((entries.reverse.find? fun entry => entry.1 = key).map (·.2)).or fields[key]? := by
    induction entries generalizing fields with
    | nil => simp
    | cons entry rest ih =>
      rw [List.foldl_cons,ih,List.reverse_cons,List.find?_append,Std.ExtTreeMap.getElem?_insert]
      cases later : rest.reverse.find? fun entry => entry.1 = key with
      | some found => simp
      | none => by_cases same : entry.1 = key <;> simp [same]
  simpa [intoFields] using general ∅

structure IngressEvent where
  id : Nat
  observedAtUnixMs : Nat
  kind : IngressEventKind
  fields : Fields
  deriving DecidableEq

structure EventStore where
  nextEventId : Nat
  nextSessionId : Nat
  events : List IngressEvent

namespace EventStore

def withWatermarks (eventId sessionId : Nat) : EventStore := ⟨eventId,sessionId,[]⟩

def takeSessionId (store : EventStore) : Nat × EventStore :=
  ((store.nextSessionId + 1) % 2^64,{ store with nextSessionId := (store.nextSessionId + 1) % 2^64 })

/-- The first half of `record`, up to the queue's lock. -/
def beginRecord (store : EventStore) (kind : IngressEventKind) (fields : List (String × String)) (now : Nat) :
    IngressEvent × EventStore :=
  let id := (store.nextEventId + 1) % 2^64
  (⟨id,now,kind,intoFields fields⟩,{ store with nextEventId := id })

/-- What `record` does while it holds the queue's lock. -/
def enqueue (store : EventStore) (event : IngressEvent) : EventStore :=
  let kept := if store.events.length = eventLimit then store.events.tail else store.events
  { store with events := kept ++ [event] }

def snapshot (store : EventStore) : List IngressEvent := store.events

end EventStore

def sessionKey (inbound : String) (sessionId : Nat) (decisionId : Option Nat) : String :=
  let decision := (decisionId.map toString).getD "none"
  s!"{inbound}:{sessionId}:{decision}"

def IngressEvent.number (event : IngressEvent) (key : String) : Option Nat :=
  event.fields[key]?.bind (parseUnsigned (2^64))

def IngressEvent.datagram (event : IngressEvent) (direction : String) : Option Nat :=
  if event.fields["direction"]? = some direction then event.number "bytes" else none

def sessionUpdateFromEvent (event : IngressEvent) : Option TrafficSessionUpdate := do
  guard (¬ event.kind.isDns)
  let sessionId ← event.number "sessionId"
  let decisionId := event.number "decisionId"
  guard (¬ (event.kind = .udpSessionStart ∧ decisionId = none))
  let inbound := event.fields["inbound"]?.getD "unknown"
  return {
    sessionKey := sessionKey inbound sessionId decisionId
    sessionId := sessionId
    decisionId := decisionId
    configGeneration := event.number "configGeneration"
    inbound := inbound
    observedAtUnixMs := event.observedAtUnixMs
    nodeProtocol := event.fields["nodeProtocol"]?
    peer := event.fields["peer"]?
    target := event.fields["target"]?
    targetIp := event.fields["targetIp"]?
    targetPort := (event.fields["targetPort"]?.bind (parseUnsigned (2^16))).map UInt16.ofNat
    targetDomain := event.fields["targetDomain"]?
    targetSource := event.fields["targetSource"]?
    upstream := event.fields["upstream"]?
    selectionGroups := event.fields["selectionGroups"]?
    selectionNodes := event.fields["selectionNodes"]?
    selectionTrace := event.fields["selectionTrace"]?
    closeReason := event.fields["closeReason"]?
    errorStage := event.fields["errorStage"]?
    errorCode := event.fields["errorCode"]?
    errorClass := event.fields["errorClass"]?
    errorSide := event.fields["errorSide"]?
    errorPhase := event.fields["errorPhase"]?
    errorProtocolPhase := event.fields["errorProtocolPhase"]?
    errorScoreImpact := event.fields["errorScoreImpact"]?
    error := event.fields["error"]?
    clientToUpstreamBytes := event.number "clientToUpstreamBytes"
    upstreamToClientBytes := event.number "upstreamToClientBytes"
    clientToUpstreamDatagram := event.datagram "client-to-upstream"
    upstreamToClientDatagram := event.datagram "upstream-to-client"
    closesSession := event.kind.closes }

theorem update_lists {event : IngressEvent} {update : TrafficSessionUpdate}
    (made : sessionUpdateFromEvent event = some update) :
    update.selectionGroups = event.fields["selectionGroups"]? ∧
      update.selectionNodes = event.fields["selectionNodes"]? := by
  simp only [sessionUpdateFromEvent,Option.bind_eq_bind,Option.bind_eq_some_iff] at made
  obtain ⟨_,_,_,_,_,_,made⟩ := made
  cases Option.some.inj made
  exact ⟨rfl,rfl⟩

def TrafficSessionStore.recordEvent (store : TrafficSessionStore) (event : IngressEvent) :
    TrafficSessionStore :=
  match sessionUpdateFromEvent event with
  | some update => store.applyUpdate update
  | none => store

def TrafficSessionStore.snapshot (store : TrafficSessionStore) : List TrafficSession :=
  store.inner.toList.map (·.2)

end Dynet.Runtime
