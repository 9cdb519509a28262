import Dynet.Ingress.Config
import Std.Data.ExtTreeMap

/-! The process configuration and the plan that a reload makes of two of them. Every
compared field is one entry of a table with its published name, in the order in which
the source compares them. -/
namespace Dynet.State
open Dynet.Runtime Dynet.Ingress

structure ControlConfig where
  bind : SocketAddr
  deriving DecidableEq, Repr

structure Ipv6Config where
  enabled : Bool
  deriving DecidableEq, Repr

structure RouterIngressConfig where
  interface : Option String
  ipv4Sources : List String
  ipv6Sources : List String
  deriving DecidableEq, Repr

structure DnsMappingConfig where
  interface : Option String
  sourcePort : UInt16
  deriving DecidableEq, Repr

structure TunCaptureConfig where
  enabled : Bool
  interface : String
  tcpIdleTimeout : Duration
  udpIdleTimeout : Duration
  udpResponseTimeout : Duration
  deriving DecidableEq, Repr

structure CaptureConfig where
  tun : TunCaptureConfig
  routerIngress : RouterIngressConfig
  deriving DecidableEq, Repr

structure PersistencePolicy where
  retention : Duration
  maxBytes : UInt64
  deriving DecidableEq, Repr

inductive ServiceManager where
  | auto | systemd | procd
  deriving DecidableEq, Repr

inductive PathComponent where
  | rootDir | curDir | parentDir
  | normal (name : String)
  deriving DecidableEq, Repr

/-- `std::path::PathBuf` as its `PartialEq` sees it, one component after another. -/
abbrev PathBuf := List PathComponent

structure ServiceConfig where
  manager : ServiceManager
  user : String
  runtimeDatabase : PathBuf
  environmentFile : Option PathBuf
  deriving DecidableEq, Repr

structure ForwardingConfig where
  seed : RuntimeSeed
  executionNodes : Std.ExtTreeMap String EgressNodeConfig
  deriving DecidableEq

structure Config where
  control : ControlConfig
  ingress : IngressConfig
  capture : CaptureConfig
  ipv6 : Ipv6Config
  dnsMapping : DnsMappingConfig
  persistence : PersistencePolicy
  forwarding : ForwardingConfig
  service : ServiceConfig
  deriving DecidableEq

def TunCaptureConfig.default : TunCaptureConfig :=
  ⟨false,"dynet0",.fromSecs 2,.fromSecs 2,.fromMillis 1500⟩

def ForwardingConfig.default : ForwardingConfig :=
  ⟨.singleNode "direct",(∅ : Std.ExtTreeMap String EgressNodeConfig).insert "default-node" .direct⟩

def Config.default : Config where
  control := ⟨.v4 0x7f000001 9977⟩
  ingress := .default
  capture := ⟨.default,⟨none,[],[]⟩⟩
  ipv6 := ⟨false⟩
  dnsMapping := ⟨none,53⟩
  persistence := ⟨.fromSecs (24 * 60 * 60),64 * 1024 * 1024⟩
  forwarding := .default
  service := ⟨.auto,"dynet",[.normal "dynet.sqlite"],none⟩

inductive ReloadDisposition where
  | noop | apply | restartRequired
  deriving DecidableEq, Repr

structure ReloadPlan where
  disposition : ReloadDisposition
  changedFields : List String
  restartRequiredFields : List String
  deriving DecidableEq, Repr

def ReloadPlan.new (changed restart : List String) : ReloadPlan where
  disposition :=
    if changed = [] then .noop
    else if restart = [] then .apply
    else .restartRequired
  changedFields := changed
  restartRequiredFields := restart

namespace Config

/-- The `restart_field` comparisons. -/
def restartFields (current next : Config) : List (String × Bool) :=
  [("control.bind",current.control.bind != next.control.bind),
    ("ingress.dns.bind",current.ingress.dns.bind != next.ingress.dns.bind),
    ("ingress.dns.max_sessions",current.ingress.dns.maxSessions != next.ingress.dns.maxSessions),
    ("ingress.tcp.bind",current.ingress.tcp.bind != next.ingress.tcp.bind),
    ("ingress.tcp.upstream",current.ingress.tcp.upstream != next.ingress.tcp.upstream),
    ("ingress.tcp.max_sessions",current.ingress.tcp.maxSessions != next.ingress.tcp.maxSessions),
    ("ingress.udp.bind",current.ingress.udp.bind != next.ingress.udp.bind),
    ("ingress.udp.upstream",current.ingress.udp.upstream != next.ingress.udp.upstream),
    ("ingress.udp.idle_timeout",current.ingress.udp.idleTimeout != next.ingress.udp.idleTimeout),
    ("ingress.udp.max_sessions",current.ingress.udp.maxSessions != next.ingress.udp.maxSessions),
    ("ingress.socks5.bind",current.ingress.socks5.bind != next.ingress.socks5.bind),
    ("ingress.socks5.udp_advertise_ip",
      current.ingress.socks5.udpAdvertiseIp != next.ingress.socks5.udpAdvertiseIp),
    ("ingress.socks5.idle_timeout",current.ingress.socks5.idleTimeout != next.ingress.socks5.idleTimeout),
    ("ingress.socks5.max_sessions",current.ingress.socks5.maxSessions != next.ingress.socks5.maxSessions),
    ("capture.tun.enabled",current.capture.tun.enabled != next.capture.tun.enabled),
    ("capture.tun.interface",current.capture.tun.interface != next.capture.tun.interface),
    ("capture.router_ingress",current.capture.routerIngress != next.capture.routerIngress),
    ("ipv6.enabled",current.ipv6.enabled != next.ipv6.enabled),
    ("dns_mapping",current.dnsMapping != next.dnsMapping),
    ("persistence",current.persistence != next.persistence),
    ("service",current.service != next.service)]

/-- The `hot_field` comparisons. -/
def hotFields (current next : Config) : List (String × Bool) :=
  [("capture.tun.tcp_idle_timeout",current.capture.tun.tcpIdleTimeout != next.capture.tun.tcpIdleTimeout),
    ("capture.tun.udp_idle_timeout",current.capture.tun.udpIdleTimeout != next.capture.tun.udpIdleTimeout),
    ("capture.tun.udp_response_timeout",
      current.capture.tun.udpResponseTimeout != next.capture.tun.udpResponseTimeout),
    ("forwarding",current.forwarding != next.forwarding)]

def differing (fields : List (String × Bool)) : List String := (fields.filter (·.2)).map (·.1)

def planReload (current next : Config) : ReloadPlan :=
  .new (differing (current.restartFields next ++ current.hotFields next))
    (differing (current.restartFields next))

/-- The configuration with the hot-reloadable fields of another. -/
def withHotFields (base hot : Config) : Config :=
  {base with
    forwarding := hot.forwarding
    capture := {base.capture with tun := {base.capture.tun with
      tcpIdleTimeout := hot.capture.tun.tcpIdleTimeout
      udpIdleTimeout := hot.capture.tun.udpIdleTimeout
      udpResponseTimeout := hot.capture.tun.udpResponseTimeout}}}

theorem differing_eq_nil_iff (fields : List (String × Bool)) : differing fields = [] ↔ ∀ field ∈ fields, field.2 = false := by
  simp [differing]

theorem restartFields_iff (current next : Config) :
    differing (current.restartFields next) = [] ↔ current.withHotFields next = next := by
  obtain ⟨⟨_⟩,⟨⟨_,_⟩,⟨_,_,_⟩,⟨_,_,_,_⟩,⟨_,_,_,_⟩⟩,⟨⟨_,_,_,_,_⟩,_⟩,⟨_⟩,_,_,_,_⟩ := current
  obtain ⟨⟨_⟩,⟨⟨_,_⟩,⟨_,_,_⟩,⟨_,_,_,_⟩,⟨_,_,_,_⟩⟩,⟨⟨_,_,_,_,_⟩,_⟩,⟨_⟩,_,_,_,_⟩ := next
  simp only [differing_eq_nil_iff,restartFields,withHotFields,List.forall_mem_cons,bne_eq_false_iff_eq,mk.injEq,
    ControlConfig.mk.injEq,IngressConfig.mk.injEq,DnsRelayConfig.mk.injEq,TcpRelayConfig.mk.injEq,
    UdpRelayConfig.mk.injEq,Socks5IngressConfig.mk.injEq,CaptureConfig.mk.injEq,TunCaptureConfig.mk.injEq,
    Ipv6Config.mk.injEq,List.not_mem_nil,false_imp_iff,implies_true,and_true,true_and,and_assoc]

theorem hotFields_iff (current next : Config) (cold : current.withHotFields next = next) :
    differing (current.hotFields next) = [] ↔ current = next := by
  rw [differing_eq_nil_iff]
  constructor
  · intro same
    simp only [hotFields,List.forall_mem_cons,bne_eq_false_iff_eq] at same
    obtain ⟨tcp,udp,response,forwarding,-⟩ := same
    rw [← cold,withHotFields,← tcp,← udp,← response,← forwarding]
  · rintro rfl
    simp [hotFields]

/-- No field escapes the plan: it is a no-op for equal configurations only, and asks for
a restart unless the hot-reloadable fields are all that differs. -/
theorem planReload_exact (current next : Config) :
    ((current.planReload next).disposition = .noop ↔ current = next) ∧
    ((current.planReload next).disposition = .apply ↔ current ≠ next ∧ current.withHotFields next = next) ∧
    ((current.planReload next).disposition = .restartRequired ↔ current.withHotFields next ≠ next) := by
  have cold := restartFields_iff current next
  have changed : differing (current.restartFields next ++ current.hotFields next) = [] ↔ current = next := by
    have both : differing (current.restartFields next ++ current.hotFields next) = [] ↔
        differing (current.restartFields next) = [] ∧ differing (current.hotFields next) = [] := by
      simp only [differing,List.filter_append,List.map_append,List.append_eq_nil_iff]
    rw [both,cold]
    constructor
    · rintro ⟨same,hot⟩
      exact (hotFields_iff current next same).mp hot
    · rintro rfl
      exact ⟨rfl,(hotFields_iff current current rfl).mpr rfl⟩
  simp only [planReload,ReloadPlan.new,changed,cold]
  by_cases equal : current = next
  · subst equal
    simp [withHotFields]
  · by_cases hot : current.withHotFields next = next <;> simp [equal,hot]

end Config

example : (Config.default.planReload .default).disposition = .noop := by decide +kernel

end Dynet.State
