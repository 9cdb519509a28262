import Dynet.Runtime.Routing
import Dynet.Runtime.Event

/-! The fields of recorded events. A `push` function appends to the fields it is
given; of two fields under one name the later one stays when an event is made. -/
namespace Dynet.Ingress
open Dynet.Runtime Dynet.Lib.Text

abbrev FieldList := List (String × String)

def tunInbound : String := "tun"

/-- The prefixes that `push_endpoint_fields` knows. -/
inductive Endpoint where
  | peer | upstream | target | source
  deriving DecidableEq, Repr

def Endpoint.label : Endpoint → String
  | .peer => "peer"
  | .upstream => "upstream"
  | .target => "target"
  | .source => "source"

def pushEndpointFields (fields : FieldList) (endpoint : Endpoint) (address : SocketAddr) : FieldList :=
  fields ++ [(endpoint.label ++ "Ip",Display.ipAddr address.ip),(endpoint.label ++ "Port",toString address.port)]

def sessionFields (sessionId : Nat) (inbound nodeProtocol : String) (peer target upstream : SocketAddr) :
    FieldList :=
  let fields := [("sessionId",toString sessionId),("inbound",inbound),("nodeProtocol",nodeProtocol),
    ("peer",Display.socketAddr peer),("target",Display.socketAddr target),
    ("upstream",Display.socketAddr upstream)]
  pushEndpointFields (pushEndpointFields (pushEndpointFields fields .peer peer) .target target) .upstream upstream

end Dynet.Ingress

namespace Dynet.Runtime

def SelectionTraceHop.label (hop : SelectionTraceHop) : String :=
  s!"{hop.groupId.value}:{hop.nodeId.value}->{hop.next.label}"

def SelectionReason.asStr : SelectionReason → String
  | .singleNode => "single-node"

def Ipv6PolicySource.asStr : Ipv6PolicySource → String
  | .global => "global"
  | .rule => "rule"

def TargetSource.asStr : TargetSource → String
  | .fixedUpstream => "fixed-upstream"
  | .observedDns => "observed-dns"
  | .externalContext => "external-context"

end Dynet.Runtime

namespace Dynet.Ingress
open Dynet.Runtime Dynet.Lib.Text

def ruleFields (ruleId : Option RuleId) : FieldList :=
  (ruleId.map fun id => ("matchedRuleId",id.value)).toList

def pushDecisionFields (fields : FieldList) (decision : SelectionDecision) : FieldList :=
  fields ++ [("decisionId",toString decision.decisionId),
      ("configGeneration",toString decision.configGeneration),("groupId",decision.groupId.value)] ++
    ruleFields decision.matchedRuleId ++
    [("nodeId",decision.nodeId.value),("groupNext",decision.next.label),
      ("selectionTrace",join '|' (decision.trace.map (·.label))),
      ("selectionGroups",join ',' (decision.trace.map (·.groupId.value))),
      ("selectionNodes",join ',' (decision.trace.map (·.nodeId.value))),
      ("terminalEgress",decision.terminal.label),("terminalKind",decision.terminal.kind),
      ("selectionReason",decision.reason.asStr),("scheduler",decision.scheduler.asStr),
      ("candidateCount",toString decision.candidateCount),("ipFamily",decision.ipFamily.asStr)] ++
    match decision.ipv6PolicySource with
    | some source => [("ipv6Policy","allow"),("ipv6PolicySource",source.asStr)]
    | none => []

def pushTargetContextFields (fields : FieldList) (target : TargetContext) : FieldList :=
  fields ++ ("targetSource",target.source.asStr) ::
    (target.domain.map fun domain => ("targetDomain",domain)).toList

structure EgressError where
  stage : String
  upstream : Option SocketAddr
  message : String
  clientToUpstreamBytes : Option Nat
  upstreamToClientBytes : Option Nat
  deriving DecidableEq, Repr

def EgressError.new (stage : String) (upstream : Option SocketAddr) (message : String) : EgressError :=
  ⟨stage,upstream,message,none,none⟩

structure EgressErrorSignal where
  code : String
  class_ : String
  side : String
  phase : String
  protocolPhase : String
  scoreImpact : String
  deriving DecidableEq, Repr

/-- The codes that name a protocol; any other pair is `egress-error`. -/
def protocolSuffixes : List (String × List String) :=
  [("ss",["response-salt-eof","response-eof","request-write-failed","protocol-invalid"]),
    ("trojan",["response-eof","request-write-failed","tls-handshake-failed","protocol-invalid"]),
    ("vmess",["response-eof","request-write-failed","protocol-invalid"]),
    ("vless",["response-eof","request-write-failed","reality-handshake-eof","tls-handshake-failed",
      "protocol-invalid"]),
    ("direct",["request-write-failed","egress-error"])]

def protocolCode (protocol suffix : String) : String :=
  if protocolSuffixes.any fun entry => entry.1 = protocol && entry.2.contains suffix
  then s!"{protocol}-{suffix}" else "egress-error"

def containsEof (message : String) : Bool :=
  contains message "early eof" || contains message "unexpected eof" || contains message "end of file"

def responseSaltEof (message : String) : Bool := contains message "response salt" && containsEof message

def classifyEgressError (nodeProtocol : String) (error : EgressError) : EgressErrorSignal :=
  let message := asciiLowercase error.message
  let code := protocolCode nodeProtocol
  if error.stage = "egress-resolve" then
    ⟨"resolve-failed","connect-failed","local","resolve","resolve","hard-failure"⟩
  else if error.stage = "egress-connect" then
    ⟨"connect-failed","connect-failed","upstream","connect","connect","hard-failure"⟩
  else if error.stage = "inbound-write" || contains message "broken pipe" then
    ⟨"client-write-failed","client-aborted","client","relay","downstream-write","neutral"⟩
  else if responseSaltEof message then
    ⟨code "response-salt-eof","no-response-before-first-byte","upstream","response-first-byte","response-salt",
      "hard-failure"⟩
  else if error.stage = "outbound-read" && containsEof message then
    ⟨code "response-eof","response-interrupted","upstream","response-frame","response-read","hard-failure"⟩
  else if error.stage = "outbound-write" then
    ⟨code "request-write-failed","request-write-failed","upstream","request-write","request-write",
      "hard-failure"⟩
  else if error.stage = "outbound-tls" && contains message "reality handshake" then
    ⟨code "reality-handshake-eof","handshake-failed","upstream","handshake","reality-handshake","hard-failure"⟩
  else if error.stage = "outbound-tls" then
    ⟨code "tls-handshake-failed","handshake-failed","upstream","handshake","tls-handshake","hard-failure"⟩
  else if error.stage = "outbound-crypto" || error.stage = "outbound-protocol" then
    ⟨code "protocol-invalid","protocol-invalid","protocol","response-frame",error.stage,"hard-failure"⟩
  else ⟨code "egress-error","unknown-failure","unknown",error.stage,error.stage,"hard-failure"⟩

def byteField (name : String) (bytes : Option Nat) : FieldList :=
  (bytes.map fun bytes => (name,toString bytes)).toList

def pushEgressErrorFields (fields : FieldList) (nodeProtocol : String) (error : EgressError) : FieldList :=
  let signal := classifyEgressError nodeProtocol error
  fields ++ [("errorStage",error.stage),("error",error.message)] ++
    byteField "clientToUpstreamBytes" error.clientToUpstreamBytes ++
    byteField "upstreamToClientBytes" error.upstreamToClientBytes ++
    [("errorCode",signal.code),("errorClass",signal.class_),("errorSide",signal.side),
      ("errorPhase",signal.phase),("errorProtocolPhase",signal.protocolPhase),
      ("errorScoreImpact",signal.scoreImpact)]

end Dynet.Ingress
