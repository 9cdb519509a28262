import Dynet.Dns.Packet
import Dynet.Runtime.Ipv6Policy

/-! Resolution of a raw query: every enabled upstream is asked, and the answers are taken
in the order in which they arrive until the deadline or until no upstream is left. -/
namespace Dynet.Dns
open Dynet.Runtime

structure DnsResolution where
  response : Bytes
  upstream : DnsUpstream
  source : SocketAddr
  queryInfo : Option DnsQueryInfo
  responseInfo : Option DnsResponseInfo
  ipv6Filtered : Bool
  matchedRuleId : Option RuleId
  deriving DecidableEq, Repr

structure DnsResolveError where
  message : String
  deriving DecidableEq, Repr

/-- How a call ends; a slice out of range panics. -/
inductive Reply (α : Type) where
  | ok (value : α)
  | error (error : DnsResolveError)
  | panic
  deriving DecidableEq, Repr

def validateResponseInfo (upstream : DnsUpstream) (queryInfo : Option DnsQueryInfo)
    (responseInfo : Option DnsResponseInfo) : Except DnsResolveError Unit :=
  match queryInfo,responseInfo with
  | some query,some response =>
    if query.transactionId ≠ response.transactionId then
      .error ⟨s!"DNS response transaction id mismatch from upstream {upstream.id}"⟩
    else .ok ()
  | some _,none => .error ⟨s!"invalid DNS response from upstream {upstream.id}"⟩
  | none,_ => .ok ()

/-- What becomes of the one datagram sent to an upstream and the one awaited. -/
inductive UdpExchange where
  | bindFailed (error : String)
  | sendFailed (error : String)
  | timedOut
  | receiveFailed (error : String)
  | received (datagram : Bytes) (source : SocketAddr)
  deriving DecidableEq, Repr

/-- What an upstream's HTTPS exchange gives, the body of the response where it succeeds. -/
inductive HttpsExchange where
  | timedOut
  | failed (error : DnsResolveError)
  | received (body : Bytes)
  deriving DecidableEq, Repr

structure Network where
  udp : DnsUpstream → UdpExchange
  https : DnsUpstream → HttpsExchange

def accept (upstream : DnsUpstream) (queryInfo : Option DnsQueryInfo) (response : Bytes) (source : SocketAddr) :
    Except DnsResolveError DnsResolution := do
  let responseInfo := sniffDnsResponse response
  validateResponseInfo upstream queryInfo responseInfo
  return ⟨response,upstream,source,queryInfo,responseInfo,false,none⟩

def timedOutError (upstream : DnsUpstream) : DnsResolveError :=
  ⟨s!"timed out waiting for DNS upstream {upstream.id} ({Display.socketAddr upstream.address})"⟩

-- The socket is not connected, so the datagram may come from anyone.
def queryUdpUpstream (upstream : DnsUpstream) (queryInfo : Option DnsQueryInfo) : UdpExchange → Except DnsResolveError DnsResolution
  | .bindFailed error => .error ⟨s!"failed to bind DNS socket for upstream {upstream.id}: {error}"⟩
  | .sendFailed error => .error
    ⟨s!"failed forwarding DNS query to upstream {upstream.id} ({Display.socketAddr upstream.address}): {error}"⟩
  | .timedOut => .error (timedOutError upstream)
  | .receiveFailed error => .error
    ⟨s!"failed receiving DNS response from upstream {upstream.id} ({Display.socketAddr upstream.address}): {error}"⟩
  | .received datagram source => accept upstream queryInfo datagram source

def queryHttpsUpstream (upstream : DnsUpstream) (queryInfo : Option DnsQueryInfo) : HttpsExchange → Except DnsResolveError DnsResolution
  | .timedOut => .error (timedOutError upstream)
  | .failed error => .error error
  | .received body => accept upstream queryInfo body upstream.address

def queryUpstream (network : Network) (upstream : DnsUpstream) (queryInfo : Option DnsQueryInfo) :
    Except DnsResolveError DnsResolution :=
  match upstream.transport with
  | .udp => queryUdpUpstream upstream queryInfo (network.udp upstream)
  | .https _ => queryHttpsUpstream upstream queryInfo (network.https upstream)

def applyIpv6DnsFilter (resolution : DnsResolution) (ruleId : RuleId) : Reply DnsResolution :=
  match dnsQuestionEnd resolution.response with
  | none => .error ⟨"cannot filter malformed AAAA response"⟩
  | some questionEnd =>
    if resolution.response.length < 12 then .panic
    else
      let emptied := resolution.response.take 6 ++ List.replicate 6 0 ++ resolution.response.drop 12
      let response := emptied.take questionEnd
      .ok {resolution with
        response
        responseInfo := sniffDnsResponse response
        ipv6Filtered := true
        matchedRuleId := some ruleId}

def isFakeIp : IpAddr → Bool
  | .v4 address => address.toNat / 2^24 = 198 && (address.toNat / 2^16 % 256 = 18 || address.toNat / 2^16 % 256 = 19)
  | .v6 _ => false

def onlyFakeAnswers (resolution : DnsResolution) : Bool :=
  resolution.responseInfo.any fun info => info.answerIps ≠ [] && info.answerIps.all isFakeIp

def enabledUpstreams (upstreams : DnsUpstreamStore) : List DnsUpstream :=
  ((upstreams.upstreams.toList.map (·.2)).filter (·.enabled)).mergeSort fun left right =>
    ((compare left.priority right.priority).then (compare left.id right.id)).isLE

/-- What ends the wait: the deadline, or every upstream has answered. -/
inductive Wait where
  | deadline | closed
  deriving DecidableEq, Repr

def Wait.message : Wait → String
  | .deadline => "timed out waiting for DNS upstream response"
  | .closed => "all DNS upstreams failed"

/-- The loop over the arrivals, with the last error and the first fake-only response. -/
def race (denyRule : Option RuleId) (wait : Wait) :
    List (Except DnsResolveError DnsResolution) → Option String → Option DnsResolution → Reply DnsResolution
  | [],lastError,fakeCandidate => match fakeCandidate with
    | some resolution => .ok resolution
    | none => .error ⟨lastError.getD wait.message⟩
  | .error error::arrivals,_,fakeCandidate => race denyRule wait arrivals (some error.message) fakeCandidate
  | .ok resolution::arrivals,lastError,fakeCandidate =>
    let filtered : Reply DnsResolution := match denyRule with
      | none => .ok resolution
      | some ruleId => applyIpv6DnsFilter resolution ruleId
    match filtered with
    | .error error => .error error
    | .panic => .panic
    | .ok resolution =>
      if onlyFakeAnswers resolution then
        race denyRule wait arrivals lastError (some (fakeCandidate.getD resolution))
      else .ok resolution

def recordDnsResolution (state : RuntimeState) (resolution : DnsResolution) : RuntimeState :=
  match resolution.responseInfo with
  | none => state
  | some info => match info.queryName with
    | none => state
    | some name => {state with dnsMap := state.dnsMap.record name info.answerIps}

def ipv6DenyRule (state : RuntimeState) (queryInfo : Option DnsQueryInfo) : Option RuleId :=
  (queryInfo.filter fun info => info.queryType = "AAAA").bind fun info => state.routing.dnsIpv6DenyRule info.queryName

/-- `arrived` lists the upstreams whose results come in before the wait ends. -/
def resolveDnsWire (network : Network) (state : RuntimeState) (query : Bytes) (arrived : List DnsUpstream) (wait : Wait) :
    Reply DnsResolution × RuntimeState :=
  let queryInfo := sniffDnsQuery query
  let denyRule := ipv6DenyRule state queryInfo
  if enabledUpstreams state.routing.dnsUpstreams = [] then
    (.error ⟨"no enabled DNS upstreams are configured"⟩,state)
  else match race denyRule wait (arrived.map fun upstream => queryUpstream network upstream queryInfo) none none with
    | .ok resolution => (.ok resolution,recordDnsResolution state resolution)
    | .error error => (.error error,state)
    | .panic => (.panic,state)

/-- A response is usable when the filter, where one applies, can cut it. -/
def usable (denyRule : Option RuleId) (resolution : DnsResolution) : Option DnsResolution :=
  match denyRule with
  | none => some resolution
  | some ruleId => match applyIpv6DnsFilter resolution ruleId with
    | .ok filtered => some filtered
    | _ => none

def successes (arrivals : List (Except DnsResolveError DnsResolution)) : List DnsResolution :=
  arrivals.filterMap Except.toOption

/-- The response that should be returned: the first with a real answer, else the first. -/
def preferred (denyRule : Option RuleId) (arrivals : List (Except DnsResolveError DnsResolution)) : Option DnsResolution :=
  let responses := (successes arrivals).filterMap (usable denyRule)
  (responses.find? fun response => !onlyFakeAnswers response).or responses.head?

def Lawful (denyRule : Option RuleId) (arrivals : List (Except DnsResolveError DnsResolution)) (reply : Reply DnsResolution) :
    Prop :=
  match preferred denyRule arrivals with
  | some response => reply = .ok response
  | none => ∃ error, reply = .error error

theorem filtered_not_fake {resolution filtered : DnsResolution} {ruleId : RuleId}
    (done : applyIpv6DnsFilter resolution ruleId = .ok filtered) : onlyFakeAnswers filtered = false := by
  unfold applyIpv6DnsFilter at done
  split at done
  · cases done
  · rename_i stop found
    split at done
    · cases done
    · rename_i long
      cases done
      have past := dnsQuestionEnd_ge found
      have emptied : u16At ((resolution.response.take 6 ++ List.replicate 6 0 ++ resolution.response.drop 12).take stop) 6 =
          some 0 := by
        have head : (resolution.response.take 6).length = 6 := by
          rw [List.length_take]
          omega
        have long' : 8 ≤ ((resolution.response.take 6 ++ List.replicate 6 0 ++ resolution.response.drop 12).take stop).length := by
          simp only [List.length_take,List.length_append,List.length_replicate,List.length_drop]
          omega
        have zeros : (((resolution.response.take 6 ++ List.replicate 6 0 ++ resolution.response.drop 12).take stop).drop 6).take 2 =
            [0,0] := by
          rw [List.drop_take,List.append_assoc,List.drop_append_of_le_length (by omega),List.drop_of_length_le (by omega),
            List.nil_append,List.take_take,Nat.min_eq_left (by omega),List.take_append_of_le_length (by simp)]
          rfl
        rw [u16At,slice,if_pos long',zeros]
        rfl
      unfold onlyFakeAnswers
      cases sniffed : sniffDnsResponse ((resolution.response.take 6 ++ List.replicate 6 0 ++ resolution.response.drop 12).take stop) with
      | none => rfl
      | some info => simp [sniffDnsResponse_empty emptied sniffed]

/-- What the filter needs: whole questions, and a whole header. -/
def Cuttable (resolution : DnsResolution) : Prop :=
  (dnsQuestionEnd resolution.response).isSome = true ∧ 12 ≤ resolution.response.length

instance (resolution : DnsResolution) : Decidable (Cuttable resolution) := inferInstanceAs (Decidable (_ ∧ _))

theorem filter_cuttable {resolution : DnsResolution} (cuttable : Cuttable resolution) (ruleId : RuleId) :
    ∃ filtered, applyIpv6DnsFilter resolution ruleId = .ok filtered := by
  obtain ⟨complete,long⟩ := cuttable
  obtain ⟨stop,found⟩ := Option.isSome_iff_exists.mp complete
  rw [applyIpv6DnsFilter,found]
  exact ⟨_,if_neg (Nat.not_lt.mpr long)⟩

theorem filter_not_cuttable {resolution : DnsResolution} (uncut : ¬Cuttable resolution) (ruleId : RuleId) :
    applyIpv6DnsFilter resolution ruleId =
      if dnsQuestionEnd resolution.response = none then .error ⟨"cannot filter malformed AAAA response"⟩ else .panic := by
  unfold applyIpv6DnsFilter
  cases found : dnsQuestionEnd resolution.response with
  | none => rfl
  | some stop =>
    have short : resolution.response.length < 12 := by
      by_contra long
      exact uncut ⟨by rw [found]; rfl,Nat.not_lt.mp long⟩
    simp [short]

theorem usable_some {ruleId : RuleId} {resolution filtered : DnsResolution}
    (cut : usable (some ruleId) resolution = some filtered) : applyIpv6DnsFilter resolution ruleId = .ok filtered := by
  simp only [usable] at cut
  split at cut
  · rename_i done
    cases cut
    exact done
  · cases cut

theorem usable_isSome_iff (ruleId : RuleId) (resolution : DnsResolution) :
    (usable (some ruleId) resolution).isSome ↔ Cuttable resolution := by
  unfold usable
  by_cases cuttable : Cuttable resolution
  · obtain ⟨filtered,done⟩ := filter_cuttable cuttable ruleId
    simp [done,cuttable]
  · simp only [filter_not_cuttable cuttable,cuttable,iff_false]
    split
    · rename_i done
      split at done <;> cases done
    · simp

theorem race_unfiltered (wait : Wait) (arrivals : List (Except DnsResolveError DnsResolution)) (lastError : Option String)
    (fake : Option DnsResolution) :
    match ((successes arrivals).find? fun response => !onlyFakeAnswers response).or (fake.or (successes arrivals).head?) with
    | some response => race none wait arrivals lastError fake = .ok response
    | none => ∃ error, race none wait arrivals lastError fake = .error error := by
  induction arrivals generalizing lastError fake with
  | nil => cases fake <;> simp [successes,race]
  | cons arrival arrivals ih =>
    cases arrival with
    | error error => exact ih (some error.message) fake
    | ok resolution =>
      have here : successes (.ok resolution::arrivals) = resolution::successes arrivals := rfl
      rw [here,List.find?_cons,List.head?_cons]
      simp only [race]
      cases fakeOnly : onlyFakeAnswers resolution with
      | false => simp
      | true =>
        have next := ih lastError (some (fake.getD resolution))
        simp only [Bool.not_true,if_true]
        cases fake <;> simpa using next

/-- Where a rule denies, the first success decides. -/
theorem race_filtered (ruleId : RuleId) (wait : Wait) (arrivals : List (Except DnsResolveError DnsResolution))
    (lastError : Option String) :
    match (successes arrivals).head? with
    | none => ∃ error, race (some ruleId) wait arrivals lastError none = .error error
    | some first => race (some ruleId) wait arrivals lastError none = applyIpv6DnsFilter first ruleId := by
  induction arrivals generalizing lastError with
  | nil => exact ⟨_,rfl⟩
  | cons arrival arrivals ih =>
    cases arrival with
    | error error => exact ih (some error.message)
    | ok resolution =>
      have here : successes (.ok resolution::arrivals) = resolution::successes arrivals := rfl
      rw [here,List.head?_cons]
      simp only [race]
      cases done : applyIpv6DnsFilter resolution ruleId with
      | error error => rfl
      | panic => rfl
      | ok filtered => simp [filtered_not_fake done]

theorem preferred_filtered (ruleId : RuleId) (arrivals : List (Except DnsResolveError DnsResolution)) :
    preferred (some ruleId) arrivals = ((successes arrivals).filterMap (usable (some ruleId))).head? := by
  unfold preferred
  cases responses : (successes arrivals).filterMap (usable (some ruleId)) with
  | nil => rfl
  | cons first rest =>
    have member : first ∈ (successes arrivals).filterMap (usable (some ruleId)) := responses ▸ List.mem_cons_self
    obtain ⟨resolution,-,cut⟩ := List.mem_filterMap.mp member
    simp [filtered_not_fake (usable_some cut)]

/-- The race keeps its law exactly when no rule denies, or the first success can be cut,
or it cannot be cut for want of a whole question and no other can be cut either. -/
theorem race_lawful_iff (denyRule : Option RuleId) (wait : Wait) (arrivals : List (Except DnsResolveError DnsResolution)) :
    Lawful denyRule arrivals (race denyRule wait arrivals none none) ↔
      denyRule = none ∨ ∀ first ∈ (successes arrivals).head?, Cuttable first ∨
        (dnsQuestionEnd first.response = none ∧ ∀ other ∈ successes arrivals, ¬Cuttable other) := by
  cases denyRule with
  | none =>
    simp only [true_or,iff_true]
    have all : (successes arrivals).filterMap (usable none) = successes arrivals := List.filterMap_some
    have law := race_unfiltered wait arrivals none none
    rw [Lawful,preferred,all]
    exact law
  | some ruleId =>
    have law := race_filtered ruleId wait arrivals none
    rw [Lawful,preferred_filtered]
    simp only [reduceCtorEq,false_or]
    cases heads : successes arrivals with
    | nil =>
      rw [heads] at law
      simpa using law
    | cons first rest =>
      rw [heads] at law
      simp only [List.head?_cons,Option.mem_some_iff,forall_eq'] at law ⊢
      by_cases cuttable : Cuttable first
      · obtain ⟨filtered,done⟩ := filter_cuttable cuttable ruleId
        have cut : usable (some ruleId) first = some filtered := by rw [usable,done]
        simp [law,done,cut,cuttable]
      · have none_iff : ((first::rest).filterMap (usable (some ruleId))).head? = none ↔
            ∀ other ∈ first::rest, ¬Cuttable other := by
          rw [List.head?_eq_none_iff,List.filterMap_eq_nil_iff]
          refine forall₂_congr fun other _ => ?_
          rw [← Option.not_isSome_iff_eq_none,usable_isSome_iff]
        rw [law,filter_not_cuttable cuttable]
        simp only [cuttable,false_or]
        rw [← none_iff]
        cases found : ((first::rest).filterMap (usable (some ruleId))).head? with
        | none => by_cases missing : dnsQuestionEnd first.response = none <;> simp [missing]
        | some response => by_cases missing : dnsQuestionEnd first.response = none <;> simp [missing]

theorem resolve_lawful_iff (network : Network) (state : RuntimeState) (query : Bytes) (arrived : List DnsUpstream) (wait : Wait)
    (enabled : ∀ upstream ∈ arrived, upstream ∈ enabledUpstreams state.routing.dnsUpstreams) :
    let denyRule := ipv6DenyRule state (sniffDnsQuery query)
    let arrivals := arrived.map fun upstream => queryUpstream network upstream (sniffDnsQuery query)
    Lawful denyRule arrivals (resolveDnsWire network state query arrived wait).1 ↔
      denyRule = none ∨ ∀ first ∈ (successes arrivals).head?, Cuttable first ∨
        (dnsQuestionEnd first.response = none ∧ ∀ other ∈ successes arrivals, ¬Cuttable other) := by
  intro denyRule arrivals
  unfold resolveDnsWire
  split
  · rename_i nobody
    have none : arrived = [] := by
      cases arrived with
      | nil => rfl
      | cons upstream rest =>
        have member := enabled upstream List.mem_cons_self
        rw [nobody] at member
        cases member
    have empty : arrivals = [] := by simp [arrivals,none]
    rw [empty]
    exact iff_of_true ⟨_,rfl⟩ (.inr (by simp [successes]))
  · rw [← race_lawful_iff denyRule wait arrivals]
    cases raced : race denyRule wait arrivals none none <;> simp only [raced,denyRule,arrivals]

theorem mem_enabledUpstreams {upstreams : List DnsUpstream} (distinct : (upstreams.map (·.id)).Nodup) (upstream : DnsUpstream) :
    upstream ∈ enabledUpstreams (.fromUpstreams upstreams) ↔ upstream ∈ upstreams ∧ upstream.enabled = true := by
  have listed : upstream ∈ (DnsUpstreamStore.fromUpstreams upstreams).upstreams.toList.map (·.2) ↔ upstream ∈ upstreams := by
    simp only [List.mem_map,Prod.exists,exists_eq_right,Std.ExtTreeMap.mem_toList_iff_getElem?_eq_some,
      DnsUpstreamStore.fromUpstreams,Dynet.Lib.Maps.fill_empty_lookup _ _ _ _ distinct,Option.map_eq_some_iff,id_eq]
    constructor
    · rintro ⟨key,located⟩
      exact List.mem_of_find?_eq_some located
    · intro member
      exact ⟨upstream.id,(Dynet.Lib.Maps.find_key_iff _ _ _ _ distinct).mpr ⟨member,rfl⟩⟩
  rw [enabledUpstreams,List.mem_mergeSort,List.mem_filter,listed]

def exampleName : Bytes := [7,101,120,97,109,112,108,101,3,99,111,109,0]

def aaaaQuery : Bytes := [0x12,0x34,1,0,0,1,0,0,0,0,0,0] ++ exampleName ++ [0,28,0,1]

def cloudflare : DnsUpstream := ⟨⟨"cloudflare"⟩,.v4 0x01010101 53,.udp,true,0⟩
def google : DnsUpstream := ⟨⟨"google"⟩,.v4 0x08080808 53,.udp,true,1⟩

/-- One upstream leaves out the class of the question, the other answers in full. -/
def halfAnswered : Network where
  udp upstream :=
    if upstream = cloudflare then .received ([0x12,0x34,0x81,0x80,0,1,0,0,0,0,0,0] ++ exampleName ++ [0,28]) (.v4 0x01010101 53)
    else .received ([0x12,0x34,0x81,0x80,0,1,0,0,0,0,0,0] ++ exampleName ++ [0,28,0,1]) (.v4 0x08080808 53)
  https _ := .timedOut

theorem aaaaQuery_denied : ipv6DenyRule (.fromSeed rulesSeed) (sniffDnsQuery aaaaQuery) = some ⟨"site"⟩ := by
  have asked : sniffDnsQuery aaaaQuery = some ⟨0x1234,"example.com","AAAA"⟩ := by decide +kernel
  rw [asked]
  exact site_denied

theorem both_enabled : ∀ upstream ∈ [cloudflare,google],
    upstream ∈ enabledUpstreams (RuntimeState.fromSeed rulesSeed).routing.dnsUpstreams := by
  intro upstream member
  refine (mem_enabledUpstreams (by decide) upstream).mpr ?_
  revert upstream
  decide

/-- The first response fails the whole call although the second one is complete. -/
theorem complete_answer_lost : (∀ upstream ∈ [cloudflare,google],
      upstream ∈ enabledUpstreams (RuntimeState.fromSeed rulesSeed).routing.dnsUpstreams) ∧
    ¬Lawful (ipv6DenyRule (.fromSeed rulesSeed) (sniffDnsQuery aaaaQuery))
      ([cloudflare,google].map fun upstream => queryUpstream halfAnswered upstream (sniffDnsQuery aaaaQuery))
      (resolveDnsWire halfAnswered (.fromSeed rulesSeed) aaaaQuery [cloudflare,google] .closed).1 := by
  refine ⟨both_enabled,?_⟩
  have some_enabled : enabledUpstreams (RuntimeState.fromSeed rulesSeed).routing.dnsUpstreams ≠ [] :=
    List.ne_nil_of_mem (both_enabled cloudflare List.mem_cons_self)
  rw [resolveDnsWire,if_neg some_enabled,aaaaQuery_denied]
  have raced : race (some ⟨"site"⟩) .closed
      ([cloudflare,google].map fun upstream => queryUpstream halfAnswered upstream (sniffDnsQuery aaaaQuery)) none none =
      .error ⟨"cannot filter malformed AAAA response"⟩ := by decide +kernel
  have better : (preferred (some ⟨"site"⟩)
      ([cloudflare,google].map fun upstream => queryUpstream halfAnswered upstream (sniffDnsQuery aaaaQuery))).isSome := by
    decide +kernel
  obtain ⟨response,found⟩ := Option.isSome_iff_exists.mp better
  rw [raced,Lawful,found]
  simp

theorem complete_answer_first : Lawful (ipv6DenyRule (.fromSeed rulesSeed) (sniffDnsQuery aaaaQuery))
    ([google,cloudflare].map fun upstream => queryUpstream halfAnswered upstream (sniffDnsQuery aaaaQuery))
    (resolveDnsWire halfAnswered (.fromSeed rulesSeed) aaaaQuery [google,cloudflare] .closed).1 := by
  refine (resolve_lawful_iff halfAnswered (.fromSeed rulesSeed) aaaaQuery [google,cloudflare] .closed ?_).mpr (.inr ?_)
  · exact fun upstream member => both_enabled upstream (by simpa [or_comm] using member)
  · decide +kernel

end Dynet.Dns
