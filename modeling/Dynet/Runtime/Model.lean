import Dynet.Runtime.Net
import Std.Data.ExtTreeMap

/-! The runtime's data model: forwarding nodes, groups, members, route rules,
DNS upstreams, selection contexts and decisions. -/
namespace Dynet.Runtime

/-- The four string newtypes of the runtime model. -/
inductive IdKind where
  | node | group | rule | dnsUpstream
  deriving DecidableEq, Repr

structure Id (kind : IdKind) where
  value : String
  deriving DecidableEq, Repr

namespace Id

variable {kind : IdKind}

theorem value_inj {a b : Id kind} : a.value = b.value ↔ a = b := by
  cases a
  cases b
  simp

instance : Ord (Id kind) := ⟨compareOn Id.value⟩

instance : Std.TransOrd (Id kind) :=
  inferInstanceAs (Std.TransCmp (compareOn Id.value))

instance : Std.LawfulEqOrd (Id kind) where
  eq_of_compare {a b} same := by
    have value : a.value = b.value := Std.LawfulEqOrd.eq_of_compare same
    exact value_inj.mp value

instance : ToString (Id kind) := ⟨Id.value⟩

end Id

abbrev NodeId := Id .node
abbrev GroupId := Id .group
abbrev RuleId := Id .rule
abbrev DnsUpstreamId := Id .dnsUpstream

/-- Nanoseconds. -/
abbrev Duration := Nat

def Duration.fromMillis (millis : Nat) : Duration := millis * 1000000
def Duration.fromSecs (secs : Nat) : Duration := secs * 1000000000
def Duration.asMillis (duration : Duration) : Nat := duration / 1000000

structure ForwardNode where
  id : NodeId
  tag : String
  enabled : Bool
  fingerprint : String
  supportsIpv6 : Bool
  deriving DecidableEq, Repr

namespace ForwardNode

def new (id tag : String) (enabled : Bool) : ForwardNode :=
  ⟨⟨id⟩,tag,enabled,s!"node-id:{id}",true⟩

def withFingerprint (id tag : String) (enabled : Bool) (fingerprint : String) : ForwardNode :=
  ⟨⟨id⟩,tag,enabled,fingerprint,true⟩

def withCapabilities (node : ForwardNode) (supportsIpv6 : Bool) : ForwardNode :=
  {node with supportsIpv6}

end ForwardNode

inductive SchedulerPolicy where
  | singleFirstEnabled
  deriving DecidableEq, Repr

def SchedulerPolicy.asStr : SchedulerPolicy → String
  | .singleFirstEnabled => "single-first-enabled"

structure GroupThresholds where
  minSuccessRatePpm : UInt32
  minSamples : UInt64
  maxActiveSessions : Option UInt64
  deriving DecidableEq, Repr

def GroupThresholds.default : GroupThresholds := ⟨980000,1,none⟩

inductive NextRef where
  | directAuditOutlet
  | named (name : String)
  deriving DecidableEq, Repr

namespace NextRef

def directLabel : String := "direct"

/-- `NextRef::named`, the parser of next references. -/
def parse (value : String) : NextRef :=
  if value = directLabel then .directAuditOutlet else .named value

def label : NextRef → String
  | .directAuditOutlet => directLabel
  | .named value => value

theorem parse_label (value : String) : (parse value).label = value := by
  unfold parse
  split <;> simp_all [label]

/-- The references the parser can produce. -/
def Parsed (next : NextRef) : Prop := next = parse next.label

instance (next : NextRef) : Decidable next.Parsed := inferInstanceAs (Decidable (_ = _))

theorem parse_parsed (value : String) : (parse value).Parsed := by
  rw [Parsed,parse_label]

theorem Parsed.eq_direct {next : NextRef} (parsed : next.Parsed) (same : next.label = directLabel) :
    next = .directAuditOutlet := by
  rw [parsed,parse,if_pos same]

theorem Parsed.eq_named {next : NextRef} (parsed : next.Parsed) (different : next.label ≠ directLabel) :
    next = .named next.label := by
  rw [Parsed,parse,if_neg different] at parsed
  exact parsed

end NextRef

structure ForwardGroup where
  id : GroupId
  enabled : Bool
  scheduler : SchedulerPolicy
  thresholds : GroupThresholds
  next : NextRef
  deriving DecidableEq, Repr

structure GroupMember where
  groupId : GroupId
  nodeId : NodeId
  enabled : Bool
  priority : UInt32
  deriving DecidableEq, Repr

inductive IpFamily where
  | ipv4 | ipv6
  deriving DecidableEq, Repr

namespace IpFamily

def fromAddress : IpAddr → IpFamily
  | .v4 _ => .ipv4
  | .v6 _ => .ipv6

def asStr : IpFamily → String
  | .ipv4 => "ipv4"
  | .ipv6 => "ipv6"

end IpFamily

inductive Ipv6RulePolicy where
  | inherit | allow | deny
  deriving DecidableEq, Repr

def Ipv6RulePolicy.asStr : Ipv6RulePolicy → String
  | .inherit => "inherit"
  | .allow => "allow"
  | .deny => "deny"

inductive Ipv6PolicySource where
  | global | rule
  deriving DecidableEq, Repr

inductive RouteMatcher where
  | domainExact (domain : String)
  | domainSuffix (suffix : String)
  | ipExact (address : IpAddr)
  | ipCidr (cidr : String)
  deriving DecidableEq, Repr

structure RouteRule where
  id : RuleId
  priority : Int
  enabled : Bool
  matcher : RouteMatcher
  groupId : GroupId
  ipv6 : Ipv6RulePolicy
  deriving DecidableEq, Repr

structure DnsHttpsEndpoint where
  host : String
  path : String
  deriving DecidableEq, Repr

inductive DnsUpstreamTransport where
  | udp
  | https (endpoint : DnsHttpsEndpoint)
  deriving DecidableEq, Repr

structure DnsUpstream where
  id : DnsUpstreamId
  address : SocketAddr
  transport : DnsUpstreamTransport
  enabled : Bool
  priority : UInt32
  deriving DecidableEq, Repr

inductive DnsRaceStrategy where
  | parallel
  deriving DecidableEq, Repr

def DnsRaceStrategy.asStr : DnsRaceStrategy → String
  | .parallel => "parallel"

structure DnsRacePolicy where
  timeout : Duration
  strategy : DnsRaceStrategy
  deriving DecidableEq, Repr

def DnsRacePolicy.defaultParallel : DnsRacePolicy := ⟨Duration.fromSecs 2,.parallel⟩

structure RuntimeSeed where
  ipv6Enabled : Bool
  nodes : List ForwardNode
  defaultGroupId : GroupId
  groups : List ForwardGroup
  groupMembers : List GroupMember
  routeRules : List RouteRule
  dnsUpstreams : List DnsUpstream
  dnsPolicy : DnsRacePolicy
  deriving DecidableEq, Repr

inductive TargetSource where
  | fixedUpstream | observedDns | externalContext
  deriving DecidableEq, Repr

structure TargetContext where
  address : SocketAddr
  domain : Option String
  source : TargetSource
  deriving DecidableEq, Repr

namespace TargetContext

def fixedUpstream (address : SocketAddr) : TargetContext := ⟨address,none,.fixedUpstream⟩

def externalContext (address : SocketAddr) (domain : Option String) : TargetContext :=
  ⟨address,domain,.externalContext⟩

def dynetDns (address : SocketAddr) (domain : String) : TargetContext :=
  ⟨address,some domain,.observedDns⟩

/-- The family on which a target is judged. -/
def family (target : TargetContext) : IpFamily := .fromAddress target.address.ip

end TargetContext

inductive InboundKind where
  | tcp | udp
  deriving DecidableEq, Repr

structure SelectionContext where
  sessionId : Nat
  inbound : InboundKind
  target : TargetContext
  deriving DecidableEq, Repr

structure SelectionTraceHop where
  groupId : GroupId
  nodeId : NodeId
  next : NextRef
  scheduler : SchedulerPolicy
  candidateCount : Nat
  deriving DecidableEq, Repr

inductive SelectionTerminal where
  | directAuditOutlet
  | node (id : NodeId)
  deriving DecidableEq, Repr

def SelectionTerminal.kind : SelectionTerminal → String
  | .directAuditOutlet => "direct"
  | .node _ => "node"

def SelectionTerminal.label : SelectionTerminal → String
  | .directAuditOutlet => NextRef.directLabel
  | .node id => id.value

inductive SelectionReason where
  | singleNode
  deriving DecidableEq, Repr

structure SelectionDecision where
  decisionId : Nat
  configGeneration : Nat
  groupId : GroupId
  matchedRuleId : Option RuleId
  nodeId : NodeId
  next : NextRef
  trace : List SelectionTraceHop
  terminal : SelectionTerminal
  reason : SelectionReason
  scheduler : SchedulerPolicy
  candidateCount : Nat
  ipFamily : IpFamily
  ipv6PolicySource : Option Ipv6PolicySource
  deriving DecidableEq, Repr

-- `{:?}` of a string. Escapes of non-printable characters above ASCII are left out.
def debugChar (c : Char) : List Char :=
  if c = '"' ∨ c = '\\' then ['\\',c]
  else if c = '\t' then ['\\','t'] else if c = '\r' then ['\\','r']
  else if c = '\n' then ['\\','n'] else if c.toNat = 0 then ['\\','0']
  else if c.toNat < 32 ∨ c.toNat = 127 then
    ['\\','u','\x7b'] ++ Nat.toDigits 16 c.toNat ++ ['\x7d']
  else [c]

def debug (text : String) : String := String.ofList ('"'::text.toList.flatMap debugChar ++ ['"'])

def isWhitespace (c : Char) : Bool :=
  let n := c.toNat
  (9 ≤ n && n ≤ 13) || n = 32 || n = 0x85 || n = 0xA0 || n = 0x1680 || (0x2000 ≤ n && n ≤ 0x200A) ||
    n = 0x2028 || n = 0x2029 || n = 0x202F || n = 0x205F || n = 0x3000

-- `text.trim().is_empty()`
def blank (text : String) : Bool := text.toList.all isWhitespace

def asciiLowercase (text : String) : String := String.ofList (text.toList.map Char.toLower)

def RouteMatcher.matches : RouteMatcher → TargetContext → Bool
  | .domainExact domain, target =>
    target.domain.any fun name => asciiLowercase name == asciiLowercase domain
  | .domainSuffix suffix, target =>
    target.domain.any fun name => asciiLowercase name == asciiLowercase suffix ||
      ('.'::(asciiLowercase suffix).toList).isSuffixOf (asciiLowercase name).toList
  | .ipExact address, target => target.address.ip == address
  | .ipCidr cidr, target => ipMatchesCidr target.address.ip cidr

def defaultNodeId : String := "default-node"
def defaultGroupName : String := "default"

def ForwardGroup.defaultGroup : ForwardGroup :=
  ⟨⟨defaultGroupName⟩,true,.singleFirstEnabled,.default,.directAuditOutlet⟩

def GroupMember.defaultMember (nodeId : NodeId) (groupId : GroupId) : GroupMember :=
  ⟨groupId,nodeId,true,0⟩

def defaultDnsUpstreams : List DnsUpstream :=
  [⟨⟨"cloudflare"⟩,.v4 0x01010101 53,.udp,true,0⟩,⟨⟨"google"⟩,.v4 0x08080808 53,.udp,true,1⟩]

def RuntimeSeed.singleNode (tag : String) : RuntimeSeed :=
  let node := ForwardNode.new defaultNodeId tag true
  let group := ForwardGroup.defaultGroup
  ⟨false,[node],group.id,[group],[.defaultMember node.id group.id],[],defaultDnsUpstreams,.defaultParallel⟩

end Dynet.Runtime
