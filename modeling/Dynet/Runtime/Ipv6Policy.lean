import Dynet.Runtime.Routing

/-! The IPv6 policy of a domain before its addresses are known: the rule table is asked
with the unspecified address in place of one. -/
namespace Dynet.Runtime
open Dynet.Lib.Checks Validation

namespace RuntimeRouting

/-- The target that stands for a domain on port 53. -/
def placeholder (domain : String) : TargetContext :=
  .externalContext (.v6 0 53 0 0) (some (asciiLowercase domain))

def dnsIpv6DenyRule (routing : RuntimeRouting) (domain : String) : Option RuleId :=
  if !routing.ipv6Enabled then none
  else
    let routeMatch := routing.routes.matchGroup (placeholder domain)
    if routeMatch.ipv6 = .deny then routeMatch.ruleId else none

end RuntimeRouting

def RouteMatcher.readsAddress : RouteMatcher → Bool
  | .domainExact _ | .domainSuffix _ => false
  | .ipExact _ | .ipCidr _ => true

/-- The rules tried before the one with this id. -/
def RouteRuleStore.ahead (store : RouteRuleStore) (ruleId : RuleId) : List RouteRule :=
  store.rules.takeWhile (·.id ≠ ruleId)

theorem toLower_idem (c : Char) : c.toLower.toLower = c.toLower := by
  by_cases upper : c.val ≥ 'A'.val ∧ c.val ≤ 'Z'.val
  · have lowered : c.toLower.val = c.val + ('a'.val - 'A'.val) :=
      congrArg Char.val (dif_pos upper)
    have inside := upper
    rw [ge_iff_le,UInt32.le_iff_toNat_le,UInt32.le_iff_toNat_le] at inside
    have bounds : 'A'.val.toNat = 65 ∧ 'Z'.val.toNat = 90 ∧ ('a'.val - 'A'.val).toNat = 32 := by decide
    have moved : c.toLower.val.toNat = c.val.toNat + 32 := by
      rw [lowered,UInt32.toNat_add]
      omega
    have outside : ¬(c.toLower.val ≥ 'A'.val ∧ c.toLower.val ≤ 'Z'.val) := by
      rw [ge_iff_le,UInt32.le_iff_toNat_le,UInt32.le_iff_toNat_le]
      omega
    exact dif_neg outside
  · have same : c.toLower = c := dif_neg upper
    rw [same,same]

theorem asciiLowercase_idem (text : String) : asciiLowercase (asciiLowercase text) = asciiLowercase text := by
  rw [asciiLowercase,asciiLowercase,String.toList_ofList,List.map_map]
  exact congrArg String.ofList (List.map_congr_left fun c _ => toLower_idem c)

/-- A domain matcher does not see the address, nor the case of the name. -/
theorem matches_placeholder {matcher : RouteMatcher} (blind : matcher.readsAddress = false) {target : TargetContext}
    {domain : String} (named : target.domain = some domain) :
    matcher.matches target = matcher.matches (RuntimeRouting.placeholder domain) := by
  cases matcher with
  | domainExact name => simp [RouteMatcher.matches,RuntimeRouting.placeholder,TargetContext.externalContext,named,asciiLowercase_idem]
  | domainSuffix suffix => simp [RouteMatcher.matches,RuntimeRouting.placeholder,TargetContext.externalContext,named,asciiLowercase_idem]
  | ipExact address => cases blind
  | ipCidr cidr => cases blind

section Table
variable {store : RouteRuleStore} {target : TargetContext} (distinct : (store.rules.map (·.id)).Nodup)
include distinct

theorem ahead_eq {before after : List RouteRule} {rule : RouteRule} (split : store.rules = before ++ rule::after) :
    store.ahead rule.id = before := by
  have apart : ∀ earlier ∈ before, earlier.id ≠ rule.id := by
    intro earlier member same
    rw [split,List.map_append,List.map_cons,List.nodup_append] at distinct
    exact distinct.2.2 earlier.id (List.mem_map_of_mem member) rule.id List.mem_cons_self same
  rw [RouteRuleStore.ahead,split,List.takeWhile_append_of_pos (by simpa using apart),
    List.takeWhile_cons_of_neg (by simp),List.append_nil]

theorem matchGroup_some {ruleId : RuleId} (matched : (store.matchGroup target).ruleId = some ruleId) :
    ∃ rule ∈ store.rules, rule.id = ruleId ∧ rule.enabled = true ∧ rule.matcher.matches target = true ∧
      (store.matchGroup target).ipv6 = rule.ipv6 ∧
      ∀ earlier ∈ store.ahead ruleId, earlier.enabled = true → earlier.matcher.matches target = false := by
  unfold RouteRuleStore.matchGroup at matched ⊢
  cases found : store.rules.find? fun rule => rule.enabled && rule.matcher.matches target with
  | none => simp [found] at matched
  | some rule =>
    rw [found] at matched
    cases matched
    obtain ⟨fits,before,after,split,none⟩ := List.find?_eq_some_iff_append.mp found
    obtain ⟨enabled,matched⟩ := Bool.and_eq_true_iff.mp fits
    refine ⟨rule,split ▸ by simp,rfl,enabled,matched,rfl,?_⟩
    rw [ahead_eq distinct split]
    intro earlier member on
    simpa [on] using none earlier member

theorem matchGroup_first {rule : RouteRule} (member : rule ∈ store.rules) (enabled : rule.enabled = true)
    (matched : rule.matcher.matches target = true)
    (clear : ∀ earlier ∈ store.ahead rule.id, earlier.enabled = true → earlier.matcher.matches target = false) :
    store.matchGroup target = ⟨some rule.groupId,some rule.id,rule.ipv6⟩ := by
  obtain ⟨before,after,split⟩ := List.append_of_mem member
  rw [ahead_eq distinct split] at clear
  have found : store.rules.find? (fun rule => rule.enabled && rule.matcher.matches target) = some rule := by
    refine List.find?_eq_some_iff_append.mpr ⟨by simp [enabled,matched],before,after,split,?_⟩
    intro earlier member
    cases on : earlier.enabled with
    | false => simp
    | true => simp [clear earlier member on]
  rw [RouteRuleStore.matchGroup,found]

end Table

theorem fromRules_distinct {rules : List RouteRule} (distinct : (rules.map (·.id.value)).Nodup) :
    ((RouteRuleStore.fromRules rules).rules.map (·.id)).Nodup := by
  have ids : (rules.map (·.id)).Nodup := by
    refine List.Nodup.of_map (·.value) ?_
    rw [List.map_map]
    exact distinct
  exact ((List.mergeSort_perm rules RouteRuleStore.ruleBefore).map (·.id)).nodup_iff.mpr ids

theorem ipv6Denied_inj {first second : Option RuleId} (same : SelectionError.ipv6Denied first = .ipv6Denied second) :
    first = second := congrArg SelectionError.matchedRuleId same

section Select
variable (choose : SelectionContext → GroupCandidateSet → Option NodeId)

theorem select_denied_iff (state : RuntimeState) (context : SelectionContext) (ipv6 : context.target.family = .ipv6)
    (ruleId : RuleId) :
    RuntimeState.select choose state context = .error (.ipv6Denied (some ruleId)) ↔
      state.routing.ipv6Enabled = true ∧ (state.routing.routes.matchGroup context.target).ipv6 = .deny ∧
        (state.routing.routes.matchGroup context.target).ruleId = some ruleId := by
  have other (message : String) : SelectionError.new message ≠ .ipv6Denied (some ruleId) := by
    intro same
    have codes : "selection-error" = "ipv6-policy-deny" := congrArg SelectionError.code same
    exact absurd codes (by decide)
  have refused : RuntimeState.select choose state context = .error (.ipv6Denied (some ruleId)) ↔
      state.routing.ipv6PolicySource context.target = .error (.ipv6Denied (some ruleId)) := by
    simp only [RuntimeState.select,bind_error_iff,need_error_iff,mapError_error_iff,other,and_false,exists_false,
      pure,Except.pure,reduceCtorEq,or_false]
  rw [refused,RuntimeRouting.ipv6PolicySource,ipv6]
  cases state.routing.ipv6Enabled with
  | false =>
    refine iff_of_false (fun same => ?_) (by simp)
    have codes : "ipv6-disabled" = "ipv6-policy-deny" := congrArg SelectionError.code (Except.error.inj same)
    exact absurd codes (by decide)
  | true =>
    cases policy : (state.routing.routes.matchGroup context.target).ipv6 with
    | deny =>
      simp only [policy,if_true,Except.error.injEq,true_and]
      exact ⟨ipv6Denied_inj,fun same => by rw [same]⟩
    | allow => simp [policy]
    | inherit => simp [policy]

theorem dnsIpv6DenyRule_iff (routing : RuntimeRouting) (domain : String) (ruleId : RuleId) :
    routing.dnsIpv6DenyRule domain = some ruleId ↔ routing.ipv6Enabled = true ∧
      (routing.routes.matchGroup (RuntimeRouting.placeholder domain)).ipv6 = .deny ∧
      (routing.routes.matchGroup (RuntimeRouting.placeholder domain)).ruleId = some ruleId := by
  unfold RuntimeRouting.dnsIpv6DenyRule
  cases routing.ipv6Enabled <;> simp

theorem matchGroup_placeholder (store : RouteRuleStore) {domain : String} {target : TargetContext}
    (named : target.domain = some domain) (unspecified : target.address.ip = .v6 0) :
    store.matchGroup target = store.matchGroup (RuntimeRouting.placeholder domain) := by
  have same : (fun rule : RouteRule => rule.enabled && rule.matcher.matches target) =
      fun rule => rule.enabled && rule.matcher.matches (RuntimeRouting.placeholder domain) := by
    funext rule
    congr 1
    cases reads : rule.matcher.readsAddress with
    | false => exact matches_placeholder reads named
    | true =>
      cases matcher : rule.matcher with
      | domainExact name => rw [matcher] at reads; cases reads
      | domainSuffix suffix => rw [matcher] at reads; cases reads
      | ipExact address => simp only [RouteMatcher.matches,unspecified]; rfl
      | ipCidr cidr => simp only [RouteMatcher.matches,unspecified]; rfl
  rw [RouteRuleStore.matchGroup,RouteRuleStore.matchGroup,same]

/-- The rule that denies a domain's answers refuses a selection for the domain exactly
when it matches the address too and no address rule ahead of it does. A rule that refuses
every IPv6 selection for a domain denies its answers. -/
theorem dns_policy_agrees (seed : RuntimeSeed) (ok : validateSeed seed = .ok ()) (generation : Nat) (state : RuntimeState)
    (published : state.routing = .fromSeed generation seed) (domain : String) (ruleId : RuleId) :
    (state.routing.dnsIpv6DenyRule domain = some ruleId →
      ∀ context : SelectionContext, context.target.family = .ipv6 → context.target.domain = some domain →
        (RuntimeState.select choose state context = .error (.ipv6Denied (some ruleId)) ↔
          (∃ rule ∈ state.routing.routes.rules, rule.id = ruleId ∧ rule.matcher.matches context.target = true) ∧
          ∀ earlier ∈ state.routing.routes.ahead ruleId, earlier.enabled = true → earlier.matcher.readsAddress = true →
            earlier.matcher.matches context.target = false)) ∧
    (state.routing.ipv6Enabled = true →
      (∀ context : SelectionContext, context.target.family = .ipv6 → context.target.domain = some domain →
        RuntimeState.select choose state context = .error (.ipv6Denied (some ruleId))) →
      state.routing.dnsIpv6DenyRule domain = some ruleId) := by
  have distinct : (state.routing.routes.rules.map (·.id)).Nodup := by
    rw [published]
    exact fromRules_distinct ((validateSeed_ok_iff seed).mp ok).distinctRules
  constructor
  · intro denied context ipv6 named
    obtain ⟨enabled,policy,matched⟩ := (dnsIpv6DenyRule_iff _ _ _).mp denied
    obtain ⟨rule,member,same,on,-,deny,unmatched⟩ := matchGroup_some distinct matched
    rw [policy] at deny
    have only {other : RouteRule} (inside : other ∈ state.routing.routes.rules) (id : other.id = ruleId) : other = rule :=
      List.inj_on_of_nodup_map distinct inside member (id.trans same.symm)
    rw [select_denied_iff choose state context ipv6]
    constructor
    · rintro ⟨-,-,here⟩
      obtain ⟨other,inside,id,-,fits,-,clear⟩ := matchGroup_some distinct here
      exact ⟨⟨other,inside,id,fits⟩,fun earlier ahead enabled _ => clear earlier ahead enabled⟩
    · rintro ⟨⟨other,inside,id,fits⟩,clear⟩
      obtain rfl := only inside id
      subst id
      have first : ∀ earlier ∈ state.routing.routes.ahead other.id, earlier.enabled = true →
          earlier.matcher.matches context.target = false := by
        intro earlier ahead enabled
        cases reads : earlier.matcher.readsAddress with
        | true => exact clear earlier ahead enabled reads
        | false =>
          rw [matches_placeholder reads named]
          exact unmatched earlier ahead enabled
      rw [matchGroup_first distinct member on fits first]
      exact ⟨enabled,deny.symm,rfl⟩
  · intro enabled refused
    let context : SelectionContext := ⟨0,.udp,.externalContext (.v6 0 53 0 0) (some domain)⟩
    obtain ⟨-,policy,matched⟩ := (select_denied_iff choose state context rfl ruleId).mp (refused context rfl rfl)
    have same := @matchGroup_placeholder state.routing.routes domain context.target rfl rfl
    rw [same] at policy matched
    exact (dnsIpv6DenyRule_iff _ _ _).mpr ⟨enabled,policy,matched⟩

end Select

def rulesSeed : RuntimeSeed :=
  {RuntimeSeed.singleNode "direct" with
    ipv6Enabled := true
    routeRules := [⟨⟨"net"⟩,20,true,.ipCidr "2001:db8::/32",⟨defaultGroupName⟩,.allow⟩,
      ⟨⟨"site"⟩,10,true,.domainSuffix "example.com",⟨defaultGroupName⟩,.deny⟩]}

def siteContext (address : BitVec 128) : SelectionContext :=
  ⟨1,.tcp,.externalContext (.v6 address 443 0 0) (some "example.com")⟩

theorem rulesSeed_routes : (RuntimeState.fromSeed rulesSeed).routing.routes = ⟨rulesSeed.routeRules⟩ :=
  congrArg RouteRuleStore.mk (List.mergeSort_of_pairwise (by decide))

theorem site_denied : (RuntimeState.fromSeed rulesSeed).routing.dnsIpv6DenyRule "example.com" = some ⟨"site"⟩ := by
  rw [dnsIpv6DenyRule_iff,rulesSeed_routes]
  decide +kernel

theorem dns_policy_agrees_site :
    RuntimeState.select (fun _ _ => none) (.fromSeed rulesSeed) (siteContext 0x20020000000000000000000000000001) =
      .error (.ipv6Denied (some ⟨"site"⟩)) := by
  refine ((dns_policy_agrees (fun _ _ => none) rulesSeed (by decide +kernel) 1 (.fromSeed rulesSeed) rfl "example.com"
    ⟨"site"⟩).1 site_denied (siteContext 0x20020000000000000000000000000001) rfl rfl).mpr ?_
  rw [rulesSeed_routes]
  decide +kernel

/-- The rule for the network goes first, but only the real address is inside it. -/
theorem allowed_answers_withheld : validateSeed rulesSeed = .ok () ∧
    (RuntimeState.fromSeed rulesSeed).routing.dnsIpv6DenyRule "example.com" = some ⟨"site"⟩ ∧
    RuntimeState.select (fun _ _ => none) (.fromSeed rulesSeed) (siteContext 0x20010db8000000000000000000000001) ≠
      .error (.ipv6Denied (some ⟨"site"⟩)) := by
  refine ⟨by decide +kernel,site_denied,?_⟩
  rw [Ne,select_denied_iff _ _ _ rfl,rulesSeed_routes]
  decide +kernel

end Dynet.Runtime
