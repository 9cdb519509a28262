import Dynet.Runtime.Dns

/-! Captured flows. A flow is judged on the destination that the observed DNS map
and a fresh A lookup restore, and relayed to the address it was captured with. -/
namespace Dynet.Ingress
open Dynet.Runtime Dynet.Lib.Checks

structure TcpRelaySession where
  target : SocketAddr
  decision : SelectionDecision
  deriving DecidableEq, Repr

structure UdpRelayAssociation where
  sessionId : Nat
  peer : SocketAddr
  target : SocketAddr
  payload : List UInt8
  decision : SelectionDecision
  deriving DecidableEq, Repr

section Relay
variable (choose : SelectionContext → GroupCandidateSet → Option NodeId)
  (wire : String → Except String DnsResolution)

def resolveSocketDestination (state : RuntimeState) (address : SocketAddr) : TargetContext × RuntimeState :=
  match state.dnsMap.domainForIp address.ip with
  | none => (.externalContext address none,state)
  | some domain => match state.resolveDomainA wire domain address.port with
    | (.ok restored,state) => (.dynetDns restored domain,state)
    | (.error _,state) => (.externalContext address (some domain),state)

def selectTarget (state : RuntimeState) (sessionId : Nat) (inbound : InboundKind) (target : TargetContext) :
    Except SelectionError (SelectionDecision × RuntimeState) :=
  state.select choose ⟨sessionId,inbound,target⟩

def relayCapturedTcp (state : RuntimeState) (sessionId : Nat) (target : SocketAddr) :
    Except String (TcpRelaySession × RuntimeState) := do
  let (context,state) := resolveSocketDestination wire state target
  let (decision,state) ← (selectTarget choose state sessionId .tcp context).mapError (·.message)
  return (⟨target,decision⟩,state)

def relayCapturedUdp (state : RuntimeState) (sessionId : Nat) (peer target : SocketAddr)
    (payload : List UInt8) : Except String (UdpRelayAssociation × RuntimeState) := do
  ensure (payload ≠ []) "captured UDP stream returned empty payload"
  let (context,state) := resolveSocketDestination wire state target
  let (decision,state) ← (selectTarget choose state sessionId .udp context).mapError (·.message)
  return (⟨sessionId,peer,target,payload,decision⟩,state)

end Relay

/-- What judging a flow on the address it is dialed to amounts to: the family of
the decision is the dialed one, and an IPv6 flow has passed the global switch, the
matching rule and the capability of every chosen node. -/
structure Judged (routing : RuntimeRouting) (context : TargetContext) (dialed : SocketAddr)
    (decision : SelectionDecision) : Prop where
  family : decision.ipFamily = .fromAddress dialed.ip
  enabled : dialed.isIpv6 = true → routing.ipv6Enabled = true
  allowed : dialed.isIpv6 = true → (routing.routes.matchGroup context).ipv6 ≠ .deny
  capable : dialed.isIpv6 = true → ∀ hop ∈ decision.trace, routing.nodes.isEligible hop.nodeId .ipv6 = true

theorem family_ipv6_iff (address : SocketAddr) :
    IpFamily.fromAddress address.ip = .ipv6 ↔ address.isIpv6 = true := by
  cases address <;> simp [SocketAddr.ip,SocketAddr.isIpv6,IpFamily.fromAddress,IpAddr.isIpv6,IpAddr.isIpv4]

theorem family_ipv4 {address : SocketAddr} (ipv4 : address.ip.isIpv4 = true) :
    IpFamily.fromAddress address.ip = .ipv4 := by
  cases address <;> simp_all [SocketAddr.ip,IpFamily.fromAddress,IpAddr.isIpv4]

section Judge
variable (choose : SelectionContext → GroupCandidateSet → Option NodeId)
  (wire : String → Except String DnsResolution) {state : RuntimeState}

theorem select_judged {context : SelectionContext} {decision : SelectionDecision} {after : RuntimeState}
    {dialed : SocketAddr} (same : context.target.family = .fromAddress dialed.ip)
    (ok : state.select choose context = .ok (decision,after)) :
    Judged state.routing context.target dialed decision := by
  obtain ⟨source,groupId,selection,first,policy,_,walk,_,rfl,_⟩ :=
    (RuntimeState.select_ok_iff choose state context _ _).mp ok
  have passed (ipv6 : dialed.isIpv6 = true) : context.target.family = .ipv6 :=
    same.trans ((family_ipv6_iff dialed).mpr ipv6)
  refine ⟨same,?_,?_,?_⟩
  · intro ipv6
    exact ((ipv6PolicySource_ok_iff state.routing (passed ipv6)).mp ⟨source,policy⟩).1
  · intro ipv6
    exact ((ipv6PolicySource_ok_iff state.routing (passed ipv6)).mp ⟨source,policy⟩).2
  · intro ipv6
    have eligible := graphLoop_eligible _ _ _ _ _ _ _ (by simp) walk
    rw [passed ipv6] at eligible
    exact eligible

-- The judged context has the family of the captured address unless an observed
-- name of an IPv6 address also resolves to an A record.
theorem resolveSocketDestination_family (target : SocketAddr)
    (apart : target.isIpv6 = false ∨ state.dnsMap.domainForIp target.ip = none ∨
      ∃ domain, state.dnsMap.domainForIp target.ip = some domain ∧ ¬ RuntimeState.HasA wire domain) :
    (resolveSocketDestination wire state target).1.family = .fromAddress target.ip := by
  unfold resolveSocketDestination
  split
  · rfl
  next domain observed =>
    split
    next restored _ resolved =>
      obtain ⟨ipv4,known⟩ := RuntimeState.resolveDomainA_ok wire (congrArg Prod.fst resolved)
      obtain original | none | ⟨other,found,unknown⟩ := apart
      · have same : target.ip.isIpv4 = true := by simpa [SocketAddr.isIpv6,IpAddr.isIpv6] using original
        exact (family_ipv4 ipv4).trans (family_ipv4 same).symm
      · rw [observed] at none
        contradiction
      · cases Option.some.inj (observed.symm.trans found)
        exact False.elim (unknown known)
    · rfl

theorem resolveSocketDestination_restored (state : RuntimeState) {target : SocketAddr} {domain : String}
    (observed : state.dnsMap.domainForIp target.ip = some domain) (known : RuntimeState.HasA wire domain) :
    (resolveSocketDestination wire state target).1.family = .ipv4 := by
  obtain ⟨restored,resolved⟩ := RuntimeState.resolveDomainA_ok_of wire state target.port known
  have ipv4 := (RuntimeState.resolveDomainA_ok wire resolved).1
  have pair : state.resolveDomainA wire domain target.port =
      (.ok restored,(state.resolveDomainA wire domain target.port).2) := Prod.ext resolved rfl
  rw [resolveSocketDestination,observed]
  dsimp only
  rw [pair]
  exact family_ipv4 ipv4

theorem resolveSocketDestination_routing (state : RuntimeState) (target : SocketAddr) :
    (resolveSocketDestination wire state target).2.routing = state.routing := by
  unfold resolveSocketDestination
  split
  · rfl
  next domain _ =>
    have kept := RuntimeState.resolveDomainA_routing wire state domain target.port
    split
    next resolved =>
      rw [resolved] at kept
      exact kept
    next resolved =>
      rw [resolved] at kept
      exact kept

theorem relayCapturedTcp_ok_iff (sessionId : Nat) (target : SocketAddr) (session : TcpRelaySession)
    (after : RuntimeState) :
    relayCapturedTcp choose wire state sessionId target = .ok (session,after) ↔
      session.target = target ∧
      selectTarget choose (resolveSocketDestination wire state target).2 sessionId .tcp
        (resolveSocketDestination wire state target).1 = .ok (session.decision,after) := by
  simp only [relayCapturedTcp,bind_ok_iff,mapError_ok_iff,pure,Except.pure,Except.ok.injEq,Prod.mk.injEq]
  constructor
  · rintro ⟨reply,selected,same,moved⟩
    subst same moved
    exact ⟨rfl,selected⟩
  · rintro ⟨same,selected⟩
    subst same
    exact ⟨_,selected,rfl,rfl⟩

theorem relayCapturedUdp_ok_iff (sessionId : Nat) (peer target : SocketAddr) (payload : List UInt8)
    (association : UdpRelayAssociation) (after : RuntimeState) :
    relayCapturedUdp choose wire state sessionId peer target payload = .ok (association,after) ↔
      payload ≠ [] ∧ association = ⟨sessionId,peer,target,payload,association.decision⟩ ∧
      selectTarget choose (resolveSocketDestination wire state target).2 sessionId .udp
        (resolveSocketDestination wire state target).1 = .ok (association.decision,after) := by
  rw [relayCapturedUdp,then_ok_iff,ensure_ok_iff]
  simp only [bind_ok_iff,mapError_ok_iff,pure,Except.pure,Except.ok.injEq,Prod.mk.injEq]
  constructor
  · rintro ⟨filled,reply,selected,same,moved⟩
    subst same moved
    exact ⟨filled,rfl,selected⟩
  · rintro ⟨filled,same,selected⟩
    exact ⟨filled,_,selected,same.symm,rfl⟩

theorem selectTarget_judged {sessionId : Nat} {inbound : InboundKind} {target : SocketAddr}
    {decision : SelectionDecision} {after : RuntimeState}
    (same : (resolveSocketDestination wire state target).1.family = .fromAddress target.ip)
    (ok : selectTarget choose (resolveSocketDestination wire state target).2 sessionId inbound
      (resolveSocketDestination wire state target).1 = .ok (decision,after)) :
    Judged state.routing (resolveSocketDestination wire state target).1 target decision := by
  rw [← resolveSocketDestination_routing wire state target]
  exact select_judged choose same ok

end Judge

/-- A routing table that forwards every IPv4 flow and no IPv6 flow. -/
theorem select_single_node (choose : SelectionContext → GroupCandidateSet → Option NodeId)
    (state : RuntimeState) (published : state.routing = .fromSeed 1 (.singleNode "direct"))
    (context : SelectionContext) (ipv4 : context.target.family = .ipv4) :
    ∃ decision after, state.select choose context = .ok (decision,after) ∧ decision.ipFamily = .ipv4 := by
  have accepted := (Validation.validateSeed_ok_iff (.singleNode "direct")).mp (by decide)
  have parsed : (RuntimeSeed.singleNode "direct").NextParsed := by decide
  have member : ForwardGroup.defaultGroup ∈ (RuntimeSeed.singleNode "direct").groups := by decide
  have chain : (RuntimeSeed.singleNode "direct").Chain .defaultGroup [.defaultGroup] := .last rfl
  have candidate : (RuntimeSeed.singleNode "direct").Candidate .ipv4 .defaultGroup ⟨defaultNodeId⟩ :=
    ⟨⟨.defaultMember ⟨defaultNodeId⟩ ⟨defaultGroupName⟩,by decide,rfl,rfl,rfl⟩,
      .new defaultNodeId "direct" true,by decide,rfl,rfl,by simp⟩
  obtain ⟨selection,found⟩ := selectGraph_ok_of accepted 1 parsed choose context member chain rfl
    (by rw [ipv4]; simpa using ⟨_,candidate⟩)
  obtain ⟨_,_,_,⟨first,head⟩,_⟩ := selectGraph_ok accepted 1 parsed choose context member chain found
  have policy : state.routing.ipv6PolicySource context.target = .ok none := by
    rw [RuntimeRouting.ipv6PolicySource,ipv4]
  have start : state.routing.startGroup context.target = some ForwardGroup.defaultGroup.id := by
    have unmatched : (RuntimeRouting.fromSeed 1 (.singleNode "direct")).routes.matchGroup context.target =
        ⟨none,none,.inherit⟩ := by
      simp [RuntimeRouting.fromSeed,RouteRuleStore.fromRules,RouteRuleStore.matchGroup,RuntimeSeed.singleNode]
    rw [published,RuntimeRouting.startGroup,unmatched]
    exact defaultGroup_declared accepted
  refine ⟨_,_,(RuntimeState.select_ok_iff choose state context _ _).mpr
    ⟨none,_,selection,first,policy,start,?_,head,rfl,rfl⟩,ipv4⟩
  rw [published]
  exact found

theorem captured_judged_iff (dnsMap : ObservedDnsMap) (wire : String → Except String DnsResolution)
    (target : SocketAddr) :
    (∀ routing nextDecisionId choose sessionId peer payload,
      let state : RuntimeState := ⟨routing,dnsMap,nextDecisionId⟩
      let context := (resolveSocketDestination wire state target).1
      (∀ session after, relayCapturedTcp choose wire state sessionId target = .ok (session,after) →
        Judged routing context session.target session.decision) ∧
      ∀ association after,
        relayCapturedUdp choose wire state sessionId peer target payload = .ok (association,after) →
        Judged routing context association.target association.decision) ↔
    target.isIpv6 = false ∨ dnsMap.domainForIp target.ip = none ∨
      ∃ domain, dnsMap.domainForIp target.ip = some domain ∧ ¬ RuntimeState.HasA wire domain := by
  constructor
  · intro judged
    by_cases ipv6 : target.isIpv6 = true
    · refine .inr ?_
      cases observed : dnsMap.domainForIp target.ip with
      | none => exact .inl rfl
      | some domain =>
        refine .inr ⟨domain,rfl,?_⟩
        intro known
        let state : RuntimeState := ⟨.fromSeed 1 (.singleNode "direct"),dnsMap,0⟩
        have restored := resolveSocketDestination_restored wire state observed known
        obtain ⟨decision,after,selected,family⟩ := select_single_node (fun _ _ => none)
          (resolveSocketDestination wire state target).2 (resolveSocketDestination_routing wire state target)
          ⟨0,.tcp,(resolveSocketDestination wire state target).1⟩ restored
        have relayed := (relayCapturedTcp_ok_iff (fun _ _ => none) wire 0 target ⟨target,decision⟩ after).mpr
          ⟨rfl,selected⟩
        have wrong := (judged _ 0 (fun _ _ => none) 0 target []).1 _ _ relayed
        have same := family.symm.trans wrong.family
        rw [(family_ipv6_iff target).mpr ipv6] at same
        contradiction
    · exact .inl (by simpa using ipv6)
  · intro apart routing nextDecisionId choose sessionId peer payload state context
    have same : context.family = .fromAddress target.ip := resolveSocketDestination_family wire target apart
    refine ⟨?_,?_⟩
    · intro session after relayed
      obtain ⟨dialed,selected⟩ := (relayCapturedTcp_ok_iff choose wire sessionId target session after).mp relayed
      rw [dialed]
      exact selectTarget_judged choose wire same selected
    · intro association after relayed
      obtain ⟨_,dialed,selected⟩ :=
        (relayCapturedUdp_ok_iff choose wire sessionId peer target payload association after).mp relayed
      rw [dialed]
      exact selectTarget_judged choose wire same selected

theorem captured_ipv6_judged_as_ipv4 :
    ∃ session after,
      relayCapturedTcp (fun _ _ => none)
        (fun _ => .ok ⟨some ⟨some "dual.test",[.v4 0x01020304]⟩⟩)
        ⟨.fromSeed 1 (.singleNode "direct"),ObservedDnsMap.empty.record "dual.test" [.v6 1],0⟩ 1 (.v6 1 443 0 0) =
          .ok (session,after) ∧
      session.target.isIpv6 = true ∧ session.decision.ipFamily = .ipv4 ∧
      (RuntimeRouting.fromSeed 1 (.singleNode "direct")).ipv6Enabled = false := by
  have relayed : (relayCapturedTcp (fun _ _ => none)
      (fun _ => .ok ⟨some ⟨some "dual.test",[.v4 0x01020304]⟩⟩)
      ⟨.fromSeed 1 (.singleNode "direct"),ObservedDnsMap.empty.record "dual.test" [.v6 1],0⟩ 1
        (.v6 1 443 0 0)).toOption.map (fun reply => (reply.1.target,reply.1.decision.ipFamily)) =
      some (.v6 1 443 0 0,.ipv4) := by decide +kernel
  obtain ⟨⟨session,after⟩,found,same⟩ := ok_of_toOption_map relayed
  obtain ⟨dialed,judged⟩ := Prod.mk.inj same
  exact ⟨session,after,found,by rw [dialed]; rfl,judged,rfl⟩

end Dynet.Ingress
