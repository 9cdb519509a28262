import Dynet.Dns.Resolve

/-! What a datagram on the query socket can write into the observed map, which later
names the domain behind an address. -/
namespace Dynet.Dns
open Dynet.Runtime

/-- One upstream is asked over UDP and its answer is the one that is returned. -/
def observe (state : RuntimeState) (upstream : DnsUpstream) (query datagram : Bytes) (source : SocketAddr) : RuntimeState :=
  match queryUdpUpstream upstream (sniffDnsQuery query) (.received datagram source) with
  | .ok resolution => recordDnsResolution state resolution
  | .error _ => state

theorem resolve_observes (network : Network) (state : RuntimeState) (query : Bytes) (upstream : DnsUpstream) (wait : Wait)
    (datagram : Bytes) (source : SocketAddr) (enabled : enabledUpstreams state.routing.dnsUpstreams ≠ [])
    (allowed : ipv6DenyRule state (sniffDnsQuery query) = none) (udp : upstream.transport = .udp)
    (received : network.udp upstream = .received datagram source) :
    (resolveDnsWire network state query [upstream] wait).2 = observe state upstream query datagram source := by
  have result : queryUpstream network upstream (sniffDnsQuery query) =
      queryUdpUpstream upstream (sniffDnsQuery query) (.received datagram source) := by
    rw [queryUpstream,udp,received]
  rw [resolveDnsWire,if_neg enabled,allowed,List.map_singleton,result,observe]
  cases queryUdpUpstream upstream (sniffDnsQuery query) (.received datagram source) with
  | error error => rfl
  | ok resolution => cases fake : onlyFakeAnswers resolution <;> simp [race,fake]

def Binds (map : ObservedDnsMap) (domain : String) (address : IpAddr) : Prop :=
  ∃ answers, map.inner[domain]? = some answers ∧ address ∈ answers

/-- The address is from a response of the upstream that was asked, to the question that
was asked. -/
def Genuine (upstream : DnsUpstream) (info : DnsQueryInfo) (datagram : Bytes) (source : SocketAddr) (domain : String)
    (address : IpAddr) : Prop :=
  source = upstream.address ∧ domain = asciiLowercase info.queryName ∧
    ∃ response, sniffDnsResponse datagram = some response ∧ response.queryName = some info.queryName ∧
      response.queryType = some info.queryType ∧ address ∈ response.answerIps

/-- A datagram that passes for an answer by its transaction id, names addresses, and is
from elsewhere or answers another question. -/
def Forged (upstream : DnsUpstream) (info : DnsQueryInfo) (datagram : Bytes) (source : SocketAddr) : Prop :=
  ∃ response ∈ sniffDnsResponse datagram, response.transactionId = info.transactionId ∧
    response.queryName ≠ none ∧ response.answerIps ≠ [] ∧
    (source ≠ upstream.address ∨ response.queryName ≠ some info.queryName ∨ response.queryType ≠ some info.queryType)

instance (upstream : DnsUpstream) (info : DnsQueryInfo) (datagram : Bytes) (source : SocketAddr) :
    Decidable (Forged upstream info datagram source) :=
  inferInstanceAs (Decidable (∃ response ∈ sniffDnsResponse datagram, _))

theorem record_binds_iff (map : ObservedDnsMap) (name domain : String) (answers : List IpAddr) (address : IpAddr) :
    Binds (map.record name answers) domain address ↔
      if answers ≠ [] ∧ asciiLowercase name = domain then address ∈ answers else Binds map domain address := by
  unfold ObservedDnsMap.record Binds
  by_cases empty : answers = []
  · simp [empty]
  · by_cases same : asciiLowercase name = domain <;> simp [empty,same,Dynet.Lib.Maps.insert_lookup]

theorem accept_ok_iff (upstream : DnsUpstream) (info : DnsQueryInfo) (datagram : Bytes) (source : SocketAddr)
    (resolution : DnsResolution) :
    accept upstream (some info) datagram source = .ok resolution ↔
      ∃ response, sniffDnsResponse datagram = some response ∧ response.transactionId = info.transactionId ∧
        resolution = ⟨datagram,upstream,source,some info,some response,false,none⟩ := by
  simp only [accept,Dynet.Lib.Checks.then_ok_iff,pure,Except.pure,Except.ok.injEq]
  cases sniffed : sniffDnsResponse datagram with
  | none => simp [validateResponseInfo]
  | some response =>
    by_cases same : info.transactionId = response.transactionId
    · simp [validateResponseInfo,same,eq_comm]
    · simp [validateResponseInfo,same,Ne.symm same]

section Datagram
variable {upstream : DnsUpstream} {query : Bytes} {info : DnsQueryInfo} (parsed : sniffDnsQuery query = some info)
  (datagram : Bytes) (source : SocketAddr)
include parsed

theorem observe_cases (state : RuntimeState) :
    ((∀ response ∈ sniffDnsResponse datagram, response.transactionId = info.transactionId → response.queryName = none) ∧
      (observe state upstream query datagram source).dnsMap = state.dnsMap) ∨
    ∃ response name, sniffDnsResponse datagram = some response ∧ response.transactionId = info.transactionId ∧
      response.queryName = some name ∧
      (observe state upstream query datagram source).dnsMap = state.dnsMap.record name response.answerIps := by
  unfold observe
  rw [parsed]
  cases answer : queryUdpUpstream upstream (some info) (.received datagram source) with
  | error error =>
    refine .inl ⟨fun response sniffed same => ?_,rfl⟩
    have accepted := (accept_ok_iff upstream info datagram source _).mpr ⟨response,sniffed,same,rfl⟩
    exact absurd (answer.symm.trans accepted) (by simp)
  | ok resolution =>
    obtain ⟨response,sniffed,same,rfl⟩ := (accept_ok_iff upstream info datagram source resolution).mp answer
    cases named : response.queryName with
    | none =>
      refine .inl ⟨fun other found _ => ?_,by simp [recordDnsResolution,named]⟩
      rw [sniffed] at found
      cases found
      exact named
    | some name => exact .inr ⟨response,name,sniffed,same,named,by simp [recordDnsResolution,named]⟩

theorem observe_binds (state : RuntimeState) {response : DnsResponseInfo} (sniffed : sniffDnsResponse datagram = some response)
    (same : response.transactionId = info.transactionId) {name : String} (named : response.queryName = some name)
    {address : IpAddr} (member : address ∈ response.answerIps) :
    Binds (observe state upstream query datagram source).dnsMap (asciiLowercase name) address := by
  obtain ⟨silent,-⟩ | ⟨other,otherName,found,-,otherNamed,after⟩ := observe_cases parsed datagram source state
  · rw [silent response sniffed same] at named
    cases named
  · rw [sniffed] at found
    cases found
    rw [named] at otherNamed
    cases otherNamed
    rw [after,record_binds_iff,if_pos ⟨List.ne_nil_of_mem member,rfl⟩]
    exact member

/-- Whatever the map held, a datagram adds genuine addresses only, exactly when it is
not a forgery that passes. -/
theorem observed_genuine_iff :
    (∀ (state : RuntimeState) (domain : String) (address : IpAddr),
      Binds (observe state upstream query datagram source).dnsMap domain address →
        Binds state.dnsMap domain address ∨ Genuine upstream info datagram source domain address) ↔
    ¬Forged upstream info datagram source := by
  constructor
  · rintro attributed ⟨response,sniffed,same,named,filled,wrong⟩
    obtain ⟨name,named⟩ := Option.ne_none_iff_exists'.mp named
    obtain ⟨address,member⟩ := List.exists_mem_of_ne_nil _ filled
    let blank : RuntimeState := .fromSeed (.singleNode "direct")
    have written : Binds (observe blank upstream query datagram source).dnsMap (asciiLowercase name) address :=
      observe_binds parsed datagram source blank sniffed same named member
    obtain ⟨answers,known,-⟩ | ⟨here,-,other,found,right,rightType,-⟩ := attributed blank _ _ written
    · simp [blank,RuntimeState.fromSeed,ObservedDnsMap.empty] at known
    · rw [sniffed] at found
      cases found
      obtain elsewhere | otherName | otherType := wrong
      · exact elsewhere here
      · exact otherName right
      · exact otherType rightType
  · intro honest state domain address bound
    obtain ⟨-,same⟩ | ⟨response,name,sniffed,same,named,after⟩ := observe_cases parsed datagram source state
    · rw [same] at bound
      exact .inl bound
    · rw [after,record_binds_iff] at bound
      split at bound
      · rename_i written
        obtain ⟨filled,rfl⟩ := written
        have trusted : source = upstream.address ∧ response.queryName = some info.queryName ∧
            response.queryType = some info.queryType := by
          by_contra wrong
          refine honest ⟨response,sniffed,same,by simp [named],filled,?_⟩
          by_contra right
          push Not at right
          exact wrong right
        obtain ⟨here,right,rightType⟩ := trusted
        refine .inr ⟨here,?_,response,sniffed,right,rightType,bound⟩
        rw [named] at right
        rw [Option.some.inj right]
      · exact .inl bound

end Datagram

def exampleQuery : Bytes := [0x12,0x34,1,0,0,1,0,0,0,0,0,0] ++ exampleName ++ [0,1,0,1]

def responseFor (name : Bytes) : Bytes :=
  [0x12,0x34,0x81,0x80,0,1,0,1,0,0,0,0] ++ name ++ [0,1,0,1] ++ [0xc0,12,0,1,0,1,0,0,0,60,0,4,192,0,2,1]

theorem exampleQuery_parsed : sniffDnsQuery exampleQuery = some ⟨0x1234,"example.com","A"⟩ := by decide +kernel

theorem rulesSeed_unbound (domain : String) (address : IpAddr) : ¬Binds (RuntimeState.fromSeed rulesSeed).dnsMap domain address := by
  rintro ⟨answers,known,-⟩
  simp [RuntimeState.fromSeed,ObservedDnsMap.empty] at known

theorem observed_from_cloudflare :
    Binds (observe (.fromSeed rulesSeed) cloudflare exampleQuery (responseFor exampleName) (.v4 0x01010101 53)).dnsMap "example.com"
      (.v4 0xc0000201) ∧
    Genuine cloudflare ⟨0x1234,"example.com","A"⟩ (responseFor exampleName) (.v4 0x01010101 53) "example.com" (.v4 0xc0000201) := by
  have sniffed : sniffDnsResponse (responseFor exampleName) =
      some ⟨0x1234,some "example.com",some "A",[.v4 0xc0000201]⟩ := by decide +kernel
  have bound := @observe_binds cloudflare _ _ exampleQuery_parsed _ (.v4 0x01010101 53) (.fromSeed rulesSeed) _ sniffed rfl _ rfl _
    (List.mem_singleton_self _)
  rw [show asciiLowercase "example.com" = "example.com" by decide +kernel] at bound
  refine ⟨bound,?_⟩
  exact ((observed_genuine_iff exampleQuery_parsed _ _).mpr (by decide +kernel) _ _ _ bound).resolve_left (rulesSeed_unbound _ _)

/-- From another address, an answer for `bank.com` to the question for `example.com`. -/
theorem other_name_bound : sniffDnsQuery exampleQuery = some ⟨0x1234,"example.com","A"⟩ ∧
    Binds (observe (.fromSeed rulesSeed) cloudflare exampleQuery (responseFor [4,98,97,110,107,3,99,111,109,0])
      (.v4 0xcb007101 4000)).dnsMap "bank.com" (.v4 0xc0000201) ∧
    ¬Binds (RuntimeState.fromSeed rulesSeed).dnsMap "bank.com" (.v4 0xc0000201) ∧
    ¬Genuine cloudflare ⟨0x1234,"example.com","A"⟩ (responseFor [4,98,97,110,107,3,99,111,109,0]) (.v4 0xcb007101 4000)
      "bank.com" (.v4 0xc0000201) := by
  have sniffed : sniffDnsResponse (responseFor [4,98,97,110,107,3,99,111,109,0]) =
      some ⟨0x1234,some "bank.com",some "A",[.v4 0xc0000201]⟩ := by decide +kernel
  refine ⟨exampleQuery_parsed,?_,rulesSeed_unbound _ _,?_⟩
  · have bound := @observe_binds cloudflare _ _ exampleQuery_parsed _ (.v4 0xcb007101 4000) (.fromSeed rulesSeed) _ sniffed rfl _ rfl _
      (List.mem_singleton_self _)
    rwa [show asciiLowercase "bank.com" = "bank.com" by decide +kernel] at bound
  · rintro ⟨elsewhere,-⟩
    exact absurd elsewhere (by decide)

end Dynet.Dns
