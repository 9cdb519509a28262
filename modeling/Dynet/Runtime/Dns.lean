import Dynet.Runtime.Routing

/-! Name resolution as the relays see it. The race over the upstreams is an
argument `wire`: for one domain it gives the outcome of the A query sent for it. -/
namespace Dynet.Runtime
open Dynet.Lib.Checks

structure DnsResponseInfo where
  queryName : Option String
  answerIps : List IpAddr
  deriving DecidableEq, Repr

structure DnsResolution where
  responseInfo : Option DnsResponseInfo
  deriving DecidableEq, Repr

namespace RuntimeState

def recordDnsResolution (state : RuntimeState) (resolution : DnsResolution) : RuntimeState :=
  match resolution.responseInfo with
  | some ⟨some name,answers⟩ => {state with dnsMap := state.dnsMap.record name answers}
  | _ => state

variable (wire : String → Except String DnsResolution)

def firstAnswer (domain : String) (port : UInt16) (resolution : DnsResolution) : Except String SocketAddr := do
  let info ← need resolution.responseInfo s!"DNS response for {domain} is invalid"
  let address ← need (info.answerIps.find? (·.isIpv4)) s!"no A answer resolved for {domain}:{port}"
  return .new address port

-- A successful race has already been recorded when its answers are inspected.
def resolveDomainA (state : RuntimeState) (domain : String) (port : UInt16) :
    Except String SocketAddr × RuntimeState :=
  match wire domain with
  | .error e => (.error e,state)
  | .ok resolution => (firstAnswer domain port resolution,state.recordDnsResolution resolution)

def HasA (domain : String) : Prop :=
  ∃ resolution info address, wire domain = .ok resolution ∧ resolution.responseInfo = some info ∧
    address ∈ info.answerIps ∧ address.isIpv4 = true

@[simp] theorem recordDnsResolution_routing (state : RuntimeState) (resolution : DnsResolution) :
    (state.recordDnsResolution resolution).routing = state.routing := by
  unfold recordDnsResolution
  split <;> rfl

@[simp] theorem resolveDomainA_routing (state : RuntimeState) (domain : String) (port : UInt16) :
    (resolveDomainA wire state domain port).2.routing = state.routing := by
  unfold resolveDomainA
  split <;> simp

theorem resolveDomainA_ok {state : RuntimeState} {domain : String} {port : UInt16} {restored : SocketAddr}
    (ok : (resolveDomainA wire state domain port).1 = .ok restored) :
    restored.ip.isIpv4 = true ∧ HasA wire domain := by
  unfold resolveDomainA at ok
  split at ok
  · contradiction
  next resolution answered =>
    simp only [firstAnswer,bind_ok_iff,need_ok_iff,pure,Except.pure,Except.ok.injEq] at ok
    obtain ⟨info,present,address,found,rfl⟩ := ok
    have ipv4 : address.isIpv4 = true := List.find?_some found
    refine ⟨?_,resolution,info,address,answered,present,List.mem_of_find?_eq_some found,ipv4⟩
    rw [SocketAddr.new_ip]
    exact ipv4

theorem resolveDomainA_ok_of (state : RuntimeState) {domain : String} (port : UInt16)
    (known : HasA wire domain) : ∃ restored, (resolveDomainA wire state domain port).1 = .ok restored := by
  obtain ⟨resolution,info,address,answered,present,member,ipv4⟩ := known
  have some : (info.answerIps.find? (·.isIpv4)).isSome = true :=
    List.find?_isSome.mpr ⟨address,member,ipv4⟩
  obtain ⟨first,found⟩ := Option.isSome_iff_exists.mp some
  refine ⟨.new first port,?_⟩
  simp [resolveDomainA,firstAnswer,answered,present,found,need,bind,Except.bind,pure,Except.pure]

end RuntimeState
end Dynet.Runtime
