import Dynet.Ingress.ReloadableEgress
import Dynet.Runtime.Routing

/-! Execution of a selection on the media of its nodes. The selector follows `next`
chains of any length to the audit outlet or to a node; the TCP executor takes one hop
or one hop behind a dialer, and only towards the audit outlet. The media themselves are
parameters. -/
namespace Dynet.Ingress
open Dynet.Runtime Dynet.Runtime.Validation Dynet.Lib Dynet.Lib.Checks

inductive EgressMedium (Shadowsocks Trojan Vless Vmess : Type) where
  | direct
  | shadowsocks (egress : Shadowsocks)
  | trojan (egress : Trojan)
  | vless (egress : Vless)
  | vmess (egress : Vmess)
  deriving DecidableEq, Repr

inductive TcpDialerMedium (Shadowsocks Trojan Vless Vmess : Type) where
  | direct
  | shadowsocks (dialer : Shadowsocks)
  | trojan (dialer : Trojan)
  | vless (dialer : Vless)
  | vmess (dialer : Vmess)
  deriving DecidableEq, Repr

/-- What `handle_tcp` hands the session to: one medium, alone or over a dialer. -/
inductive TcpExecution (Medium Dialer : Type) where
  | handleTcp (egress : Medium)
  | handleTcpWithDialer (egress : Medium) (dialer : Dialer)
  deriving DecidableEq, Repr

section Media
variable {Shadowsocks Trojan Vless Vmess : Type}

/-- The constructors of the media that need more than their configuration. -/
structure Media (Shadowsocks Trojan Vless Vmess : Type) where
  shadowsocks : ShadowsocksConfig → Except String Shadowsocks
  trojan : TrojanConfig → Trojan
  vless : VlessConfig → Except String Vless
  vmess : VmessConfig → Except String Vmess

namespace EgressMedium

def tryFrom (media : Media Shadowsocks Trojan Vless Vmess) :
    EgressNodeConfig → Except String (EgressMedium Shadowsocks Trojan Vless Vmess)
  | .direct => .ok .direct
  | .shadowsocks config => (media.shadowsocks config).map .shadowsocks
  | .trojan config => .ok (.trojan (media.trojan config))
  | .vless config => (media.vless config).map .vless
  | .vmess config => (media.vmess config).map .vmess

def tcpDialer : EgressMedium Shadowsocks Trojan Vless Vmess →
    Option (TcpDialerMedium Shadowsocks Trojan Vless Vmess)
  | .direct => some .direct
  | .shadowsocks dialer => some (.shadowsocks dialer)
  | .trojan dialer => some (.trojan dialer)
  | .vless dialer => some (.vless dialer)
  | .vmess dialer => some (.vmess dialer)

theorem tcpDialer_isSome (medium : EgressMedium Shadowsocks Trojan Vless Vmess) :
    ∃ dialer, medium.tcpDialer = some dialer := by
  cases medium
  all_goals exact ⟨_,rfl⟩

end EgressMedium

def selectFault (message : String) : EgressError := .new "egress-select" none message

def chainedError (protocol : String) : EgressError :=
  selectFault s!"{protocol} chained graph execution is not implemented"

def hopsError (hops : Nat) : EgressError :=
  selectFault s!"TCP graph execution supports exactly one dialer hop, got {hops} hops"

namespace GraphEgress
variable (graph : GraphEgress (EgressMedium Shadowsocks Trojan Vless Vmess)) (decision : SelectionDecision)

def egressForNode (nodeId : String) : Except EgressError (EgressMedium Shadowsocks Trojan Vless Vmess) :=
  need graph[nodeId]? (selectFault s!"selection node {nodeId} has no execution egress")

def finalEgressForDecision : Except EgressError (EgressMedium Shadowsocks Trojan Vless Vmess) := do
  let hop ← need decision.trace.getLast? (chainedError "TCP")
  egressForNode graph hop.nodeId.value

def tcpDialerForHead : Except EgressError (TcpDialerMedium Shadowsocks Trojan Vless Vmess) := do
  ensure (decision.trace.length = 2) (hopsError decision.trace.length)
  let head ← need decision.trace.head? (chainedError "TCP")
  let egress ← egressForNode graph head.nodeId.value
  need egress.tcpDialer (selectFault s!"TCP chained graph dialer node {head.nodeId} has no TCP dialer")

def handleTcp : Except EgressError
    (TcpExecution (EgressMedium Shadowsocks Trojan Vless Vmess) (TcpDialerMedium Shadowsocks Trojan Vless Vmess)) := do
  let egress ← finalEgressForDecision graph decision
  if decision.trace.length = 1 ∧ decision.terminal.kind = "direct" then
    return .handleTcp egress
  if decision.terminal.kind = "direct" then
    let dialer ← tcpDialerForHead graph decision
    return .handleTcpWithDialer egress dialer
  throw (chainedError "TCP")

/-- The decisions the TCP executor has a path for. -/
def Executable (decision : SelectionDecision) : Prop :=
  decision.trace.length ≤ 2 ∧ decision.terminal = .directAuditOutlet

instance (decision : SelectionDecision) : Decidable (Executable decision) :=
  inferInstanceAs (Decidable (_ ∧ _))

def shapeError (decision : SelectionDecision) : EgressError :=
  if decision.terminal = .directAuditOutlet then hopsError decision.trace.length else chainedError "TCP"

theorem kind_direct_iff (terminal : SelectionTerminal) :
    terminal.kind = "direct" ↔ terminal = .directAuditOutlet := by
  cases terminal <;> simp [SelectionTerminal.kind]

variable {graph decision}

/-- When every hop has a medium, the shape of the decision alone decides. -/
theorem handleTcp_cases (nonempty : decision.trace ≠ [])
    (media : ∀ hop ∈ decision.trace, hop.nodeId.value ∈ graph) :
    (Executable decision ∧ ∃ execution, handleTcp graph decision = .ok execution) ∨
      (¬ Executable decision ∧ handleTcp graph decision = .error (shapeError decision)) := by
  have medium (hop : SelectionTraceHop) (member : hop ∈ decision.trace) :
      ∃ egress, egressForNode graph hop.nodeId.value = .ok egress := by
    obtain ⟨egress,found⟩ := Option.isSome_iff_exists.mp
      (Std.ExtTreeMap.mem_iff_isSome_getElem?.mp (media hop member))
    exact ⟨egress,by rw [egressForNode,found]; rfl⟩
  obtain ⟨last,final⟩ : ∃ last, decision.trace.getLast? = some last :=
    ⟨_,List.getLast?_eq_some_getLast nonempty⟩
  obtain ⟨first,head⟩ : ∃ first, decision.trace.head? = some first :=
    ⟨_,List.head?_eq_some_head nonempty⟩
  obtain ⟨egress,exit⟩ := medium last (List.mem_of_getLast? final)
  have reached : finalEgressForDecision graph decision = .ok egress := by
    rw [finalEgressForDecision,final]
    exact exit
  have positive := List.length_pos_iff.mpr nonempty
  by_cases direct : decision.terminal = .directAuditOutlet
  · have kind := (kind_direct_iff decision.terminal).mpr direct
    by_cases single : decision.trace.length = 1
    · left
      refine ⟨⟨by omega,direct⟩,.handleTcp egress,?_⟩
      rw [handleTcp,reached,ok_bind,if_pos ⟨single,kind⟩]
      rfl
    · have chained : ¬ (decision.trace.length = 1 ∧ decision.terminal.kind = "direct") := fun both =>
        single both.1
      rw [handleTcp,reached,ok_bind,if_neg chained,if_pos kind]
      by_cases pair : decision.trace.length = 2
      · obtain ⟨entry,found⟩ := medium first (List.mem_of_head? head)
        obtain ⟨dialer,dials⟩ := entry.tcpDialer_isSome
        left
        refine ⟨⟨by omega,direct⟩,.handleTcpWithDialer egress dialer,?_⟩
        rw [tcpDialerForHead,ensure_of _ _ pair,ok_bind,head]
        change (egressForNode graph first.nodeId.value >>= _) >>= _ = _
        rw [found,ok_bind,dials]
        rfl
      · right
        refine ⟨fun shape => ?_,?_⟩
        · have := shape.1
          omega
        · rw [tcpDialerForHead,ensure,if_neg pair,shapeError,if_pos direct]
          rfl
  · right
    have kind : ¬ decision.terminal.kind = "direct" := fun kind =>
      direct ((kind_direct_iff decision.terminal).mp kind)
    have chained : ¬ (decision.trace.length = 1 ∧ decision.terminal.kind = "direct") := fun both =>
      kind both.2
    refine ⟨fun shape => direct shape.2,?_⟩
    rw [handleTcp,reached,ok_bind,if_neg chained,if_neg kind,shapeError,if_neg direct]
    rfl

end GraphEgress
end Media

section Compile
variable {Medium : Type} (compile : EgressNodeConfig → Except String Medium)

theorem tryFrom_keeps (entries : List (String × EgressNodeConfig)) (before after : GraphEgress Medium)
    (built : entries.foldlM (fun nodes (id,config) => do return nodes.insert id (← compile config)) before =
      .ok after) (id : String) (known : id ∈ before ∨ id ∈ entries.map (·.1)) : id ∈ after := by
  induction entries generalizing before with
  | nil =>
    cases built
    simpa using known
  | cons entry rest ih =>
    obtain ⟨next,first,others⟩ := (bind_ok_iff _ _ _).mp built
    obtain ⟨medium,_,grown⟩ := (bind_ok_iff _ _ _).mp first
    cases grown
    apply ih _ others
    rcases known with old | listed
    · exact .inl (Std.ExtTreeMap.mem_insert.mpr (.inr old))
    · rcases List.mem_cons.mp listed with rfl | later
      · exact .inl Std.ExtTreeMap.mem_insert_self
      · exact .inr later

theorem tryFrom_covers {configs : Std.ExtTreeMap String EgressNodeConfig} {graph : GraphEgress Medium}
    (built : GraphEgress.tryFrom compile configs = .ok graph) {id : String} (configured : id ∈ configs) :
    id ∈ graph := by
  apply tryFrom_keeps compile configs.toList ∅ graph built id
  right
  rw [Std.ExtTreeMap.map_fst_toList_eq_keys]
  exact Std.ExtTreeMap.mem_keys.mpr configured

end Compile

section Selected
variable {Shadowsocks Trojan Vless Vmess : Type}
variable (seed : RuntimeSeed) (ok : validateSeed seed = .ok ())
include ok

theorem selected_media {graph : GraphEgress (EgressMedium Shadowsocks Trojan Vless Vmess)}
    (covers : ∀ node ∈ seed.nodes, node.id.value ∈ graph) {choose : SelectionContext → GroupCandidateSet → Option NodeId}
    {generation : Nat} {context : SelectionContext} {groupId : GroupId} {selection : GroupSelection}
    (selected : RuntimeState.selectGraph choose (.fromSeed generation seed) context groupId = .ok selection) :
    ∀ hop ∈ selection.trace, hop.nodeId.value ∈ graph := by
  have accepted := (validateSeed_ok_iff seed).mp ok
  intro hop member
  have eligible := graphLoop_eligible _ _ _ _ _ _ _ (by simp) selected hop member
  obtain ⟨node,declared,same,_⟩ := (isEligible_iff accepted hop.nodeId context.target.family).mp eligible
  rw [← same]
  exact covers node declared

/-- A decision of an accepted seed has a TCP path on the graph of its nodes exactly when
its trace has at most two hops and it leaves through the audit outlet. Any other decision
is answered with the error for its shape. -/
theorem handleTcp_ok_iff_executable (media : Media Shadowsocks Trojan Vless Vmess)
    (configs : Std.ExtTreeMap String EgressNodeConfig)
    (graph : GraphEgress (EgressMedium Shadowsocks Trojan Vless Vmess))
    (built : GraphEgress.tryFrom (EgressMedium.tryFrom media) configs = .ok graph)
    (same : ∀ node ∈ seed.nodes, node.id.value ∈ configs)
    (choose : SelectionContext → GroupCandidateSet → Option NodeId) (generation decisionId : Nat)
    (context : SelectionContext) (groupId : GroupId) (source : Option Ipv6PolicySource)
    (selection : GroupSelection) (first : SelectionTraceHop)
    (selected : RuntimeState.selectGraph choose (.fromSeed generation seed) context groupId = .ok selection)
    (head : selection.trace.head? = some first) :
    let decision := RuntimeState.decisionFor (.fromSeed generation seed) context decisionId groupId source
      selection first
    ((∃ execution, graph.handleTcp decision = .ok execution) ↔
      selection.trace.length ≤ 2 ∧ selection.terminal = .directAuditOutlet) ∧
    ∀ e, graph.handleTcp decision = .error e → e = GraphEgress.shapeError decision := by
  intro decision
  have nonempty : decision.trace ≠ [] := by
    intro empty
    have : selection.trace = [] := empty
    simp [this] at head
  have hops := selected_media seed ok
    (fun node declared => tryFrom_covers (EgressMedium.tryFrom media) built (same node declared)) selected
  rcases GraphEgress.handleTcp_cases nonempty hops with ⟨shape,execution,runs⟩ | ⟨shape,refused⟩
  · refine ⟨⟨fun _ => shape,fun _ => ⟨execution,runs⟩⟩,?_⟩
    intro e failed
    rw [runs] at failed
    contradiction
  · refine ⟨⟨?_,fun fits => absurd fits shape⟩,?_⟩
    · rintro ⟨execution,runs⟩
      rw [refused] at runs
      contradiction
    · intro e failed
      rw [refused] at failed
      exact (Except.error.inj failed).symm

end Selected

def lineGroup (id next : String) : ForwardGroup :=
  {ForwardGroup.defaultGroup with id := ⟨id⟩, next := .parse next}

/-- The given groups, all served by the one direct node. -/
def lineSeed (groups : List ForwardGroup) : RuntimeSeed :=
  {RuntimeSeed.singleNode "direct" with
    groups, groupMembers := groups.map fun group => .defaultMember ⟨defaultNodeId⟩ group.id}

def twoHopSeed : RuntimeSeed := lineSeed [lineGroup "default" "exit",lineGroup "exit" "direct"]

def threeHopSeed : RuntimeSeed :=
  lineSeed [lineGroup "default" "middle",lineGroup "middle" "exit",lineGroup "exit" "direct"]

def ipv4Context : SelectionContext := ⟨1,.tcp,.externalContext (.v4 0x01010101 443) none⟩

def directMedia : Media Unit Unit Unit Unit := ⟨fun _ => .ok (),fun _ => (),fun _ => .ok (),fun _ => .ok ()⟩

def directConfigs : Std.ExtTreeMap String EgressNodeConfig :=
  (∅ : Std.ExtTreeMap String EgressNodeConfig).insert defaultNodeId .direct

def directGraph : GraphEgress (EgressMedium Unit Unit Unit Unit) :=
  (∅ : GraphEgress (EgressMedium Unit Unit Unit Unit)).insert defaultNodeId .direct

theorem directGraph_built : GraphEgress.tryFrom (EgressMedium.tryFrom directMedia) directConfigs = .ok directGraph := by
  have entries : directConfigs.toList = [(defaultNodeId,.direct)] := by decide +kernel
  rw [GraphEgress.tryFrom,entries]
  rfl

theorem handleTcp_two_hops :
    ∃ selection first,
      RuntimeState.selectGraph (fun _ _ => none) (.fromSeed 1 twoHopSeed) ipv4Context ⟨"default"⟩ =
        .ok selection ∧
      ∃ execution, directGraph.handleTcp (RuntimeState.decisionFor (.fromSeed 1 twoHopSeed) ipv4Context 1
        ⟨"default"⟩ none selection first) = .ok execution := by
  have shape : (RuntimeState.selectGraph (fun _ _ => none) (.fromSeed 1 twoHopSeed) ipv4Context
      ⟨"default"⟩).toOption.map (fun selection => (selection.trace.length,selection.terminal)) =
        some (2,.directAuditOutlet) := by decide +kernel
  obtain ⟨selection,selected,both⟩ := ok_of_toOption_map shape
  obtain ⟨hops,terminal⟩ := Prod.mk.inj both
  obtain ⟨first,rest,trace⟩ := List.exists_cons_of_length_eq_add_one hops
  have path := handleTcp_ok_iff_executable twoHopSeed (by decide) directMedia directConfigs directGraph
    directGraph_built (by decide +kernel) (fun _ _ => none) 1 1 ipv4Context ⟨"default"⟩ none selection first
    selected (by rw [trace]; rfl)
  exact ⟨selection,first,selected,path.1.mpr ⟨Nat.le_of_eq hops,terminal⟩⟩

theorem handleTcp_three_hops :
    validateSeed threeHopSeed = .ok () ∧ (∀ node ∈ threeHopSeed.nodes, node.id.value ∈ directConfigs) ∧
      GraphEgress.tryFrom (EgressMedium.tryFrom directMedia) directConfigs = .ok directGraph ∧
      ipv4Context.target.family = .ipv4 ∧
      ∃ decision after, RuntimeState.select (fun _ _ => none) (.fromSeed threeHopSeed) ipv4Context =
          .ok (decision,after) ∧ directGraph.handleTcp decision = .error (hopsError 3) := by
  refine ⟨by decide,by decide +kernel,directGraph_built,rfl,?_⟩
  have computed : (RuntimeState.select (fun _ _ => none) (.fromSeed threeHopSeed) ipv4Context).toOption.map
      (fun reply => directGraph.handleTcp reply.1) = some (.error (hopsError 3)) := by decide +kernel
  obtain ⟨⟨decision,after⟩,selected,refused⟩ := ok_of_toOption_map computed
  exact ⟨decision,after,selected,refused⟩

end Dynet.Ingress
