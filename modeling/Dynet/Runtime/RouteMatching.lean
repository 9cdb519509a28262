import Dynet.Lib.Text
import Dynet.Runtime.Stores

/-! Which rule a target is routed by: the first of the table in the order of priority and
id, whatever order the rules were given in. A prefix holds the addresses that begin with its
bits, and a domain suffix the names that end with its labels. -/
namespace Dynet.Runtime
open Dynet.Lib.Text

section Prefixes

theorem maskedEq_iff {w length : Nat} (within : length ≤ w) (address base : BitVec w) :
    maskedEq w address base length = true ↔ ∀ i < length, address.getMsbD i = base.getMsbD i := by
  have mask (i : Nat) (inside : i < w) :
      (if length = 0 then 0 else BitVec.allOnes w <<< (w - length)).getMsbD i = decide (i < length) := by
    split
    · rename_i zero
      simp [zero]
    · simp only [BitVec.getMsbD_shiftLeft,BitVec.getMsbD_allOnes]
      congr 1
      apply propext
      omega
  rw [maskedEq,beq_iff_eq]
  constructor
  · intro same i first
    have bits := congrArg (·.getMsbD i) same
    rw [BitVec.getMsbD_and,BitVec.getMsbD_and,mask i (by omega)] at bits
    simpa [first] using bits
  · intro same
    apply BitVec.eq_of_getMsbD_eq
    intro i inside
    rw [BitVec.getMsbD_and,BitVec.getMsbD_and,mask i inside]
    by_cases first : i < length
    · rw [same i first]
    · simp [first]

/-- An address and how many of its bits count, no more than it has. -/
inductive Cidr where
  | v4 (base : BitVec 32) (length : Nat) (within : length ≤ 32)
  | v6 (base : BitVec 128) (length : Nat) (within : length ≤ 128)

namespace Cidr

/-- The text stands for this prefix. -/
def ReadsAs (text : String) (cidr : Cidr) : Prop :=
  ∃ base length, splitOnce '/' text.toList = some (base,length) ∧
    match cidr with
    | .v4 bits n _ => Parse.ipAddr (String.ofList base) = some (.v4 bits) ∧ Parse.u8 (String.ofList length) = some n
    | .v6 bits n _ => Parse.ipAddr (String.ofList base) = some (.v6 bits) ∧ Parse.u8 (String.ofList length) = some n

def Contains (cidr : Cidr) (address : IpAddr) : Prop :=
  match cidr,address with
  | .v4 base n _,.v4 bits => ∀ i < n, bits.getMsbD i = base.getMsbD i
  | .v6 base n _,.v6 bits => ∀ i < n, bits.getMsbD i = base.getMsbD i
  | _,_ => False

end Cidr

theorem ipMatchesCidr_iff (address : IpAddr) (text : String) :
    ipMatchesCidr address text = true ↔ ∃ cidr, Cidr.ReadsAs text cidr ∧ cidr.Contains address := by
  rw [ipMatchesCidr]
  constructor
  · intro matched
    split at matched
    · cases matched
    · rename_i base length cut
      split at matched
      · rename_i bits origin n read sized
        obtain ⟨within,same⟩ := Bool.and_eq_true_iff.mp matched
        have fits := of_decide_eq_true within
        exact ⟨.v4 origin n fits,⟨base,length,cut,read,sized⟩,(maskedEq_iff fits bits origin).mp same⟩
      · rename_i bits origin n read sized
        obtain ⟨within,same⟩ := Bool.and_eq_true_iff.mp matched
        have fits := of_decide_eq_true within
        exact ⟨.v6 origin n fits,⟨base,length,cut,read,sized⟩,(maskedEq_iff fits bits origin).mp same⟩
      · cases matched
  · rintro ⟨cidr,⟨base,length,cut,reads⟩,contains⟩
    rw [cut]
    cases cidr with
    | v4 origin n within =>
      obtain ⟨read,sized⟩ := reads
      cases address with
      | v6 bits => cases contains
      | v4 bits =>
        simp only [read,sized]
        exact Bool.and_eq_true_iff.mpr ⟨decide_eq_true within,(maskedEq_iff within bits origin).mpr contains⟩
    | v6 origin n within =>
      obtain ⟨read,sized⟩ := reads
      cases address with
      | v4 bits => cases contains
      | v6 bits =>
        simp only [read,sized]
        exact Bool.and_eq_true_iff.mpr ⟨decide_eq_true within,(maskedEq_iff within bits origin).mpr contains⟩

end Prefixes

section Suffixes

theorem intercalate_append {α : Type} {separator : List α} {front rest : List (List α)} (filled : front ≠ []) (more : rest ≠ []) :
    separator.intercalate (front ++ rest) = separator.intercalate front ++ (separator ++ separator.intercalate rest) := by
  induction front with
  | nil => exact absurd rfl filled
  | cons first front ih =>
    cases front with
    | nil => rw [List.singleton_append,List.intercalate_cons_of_ne_nil more,List.intercalate_singleton,List.append_assoc]
    | cons second front =>
      rw [List.cons_append,List.intercalate_cons_of_ne_nil (by simp),ih (List.cons_ne_nil _ _),
        List.intercalate_cons_of_ne_nil (List.cons_ne_nil _ _)]
      simp only [List.append_assoc]

theorem suffix_split_iff {separator : Char} (suffix name : List Char) :
    suffix.splitOn separator <:+ name.splitOn separator ↔ name = suffix ∨ (separator::suffix) <:+ name := by
  constructor
  · rintro ⟨front,whole⟩
    have joined := congrArg [separator].intercalate whole
    rw [List.intercalate_splitOn] at joined
    by_cases empty : front = []
    · rw [empty,List.nil_append,List.intercalate_splitOn] at joined
      exact .inl joined.symm
    · rw [intercalate_append empty (List.splitOn_ne_nil _ _),List.intercalate_splitOn] at joined
      exact .inr ⟨_,joined⟩
  · rintro (rfl | ⟨front,rfl⟩)
    · exact List.suffix_refl _
    · rw [List.splitOn_append_cons_self]
      exact List.suffix_append _ _

/-- The labels of a name, in lower case. -/
def labels (name : String) : List (List Char) := (asciiLowercase name).toList.splitOn '.'

theorem domainSuffix_iff (suffix : String) (target : TargetContext) :
    (RouteMatcher.domainSuffix suffix).matches target = true ↔ ∃ name, target.domain = some name ∧ labels suffix <:+ labels name := by
  simp only [RouteMatcher.matches,Option.any_eq_true,Bool.or_eq_true,beq_iff_eq,List.isSuffixOf_iff_suffix,labels,suffix_split_iff,
    String.toList_inj]

end Suffixes

section Table

/-- The rule that routes a target: enabled, matching, and before every other such rule. -/
structure Best (rules : List RouteRule) (target : TargetContext) (rule : RouteRule) : Prop where
  listed : rule ∈ rules
  enabled : rule.enabled = true
  fits : rule.matcher.matches target = true
  before : ∀ other ∈ rules, other.enabled = true → other.matcher.matches target = true → other ≠ rule →
    other.priority < rule.priority ∨ other.priority = rule.priority ∧ compare rule.id other.id = .lt

theorem ruleBefore_iff (left right : RouteRule) : RouteRuleStore.ruleBefore left right = true ↔
    right.priority < left.priority ∨ right.priority = left.priority ∧ (compare left.id right.id).isLE = true := by
  have order : compare right.priority left.priority = if right.priority < left.priority then .lt
      else if right.priority = left.priority then .eq else .gt := rfl
  rw [RouteRuleStore.ruleBefore,order]
  split
  · rename_i greater
    simp [greater]
  · rename_i smaller
    split
    · rename_i same
      simp [same]
    · rename_i apart
      simp [smaller,apart]

theorem ruleBefore_trans (a b c : RouteRule) (first : RouteRuleStore.ruleBefore a b = true)
    (second : RouteRuleStore.ruleBefore b c = true) : RouteRuleStore.ruleBefore a c = true := by
  rw [ruleBefore_iff] at *
  rcases first with greater | ⟨same,firstId⟩ <;> rcases second with further | ⟨equal,secondId⟩
  · exact .inl (by omega)
  · exact .inl (by omega)
  · exact .inl (by omega)
  · exact .inr ⟨equal.trans same,Std.TransCmp.isLE_trans firstId secondId⟩

theorem ruleBefore_total (a b : RouteRule) : (RouteRuleStore.ruleBefore a b || RouteRuleStore.ruleBefore b a) = true := by
  rw [Bool.or_eq_true,ruleBefore_iff,ruleBefore_iff]
  rcases Int.lt_trichotomy a.priority b.priority with less | same | greater
  · exact .inr (.inl less)
  · cases order : compare a.id b.id with
    | lt => exact .inl (.inr ⟨same.symm,by simp⟩)
    | eq => exact .inl (.inr ⟨same.symm,by simp⟩)
    | gt =>
      have turned : compare b.id a.id = .lt := Std.OrientedCmp.gt_iff_lt.mp order
      exact .inr (.inr ⟨same,by rw [turned]; rfl⟩)
  · exact .inl (.inl greater)

theorem best_unique {rules : List RouteRule} {target : TargetContext} {first second : RouteRule}
    (best : Best rules target first) (other : Best rules target second) : second = first := by
  by_contra apart
  rcases best.before second other.listed other.enabled other.fits apart with less | ⟨same,id⟩
  · rcases other.before first best.listed best.enabled best.fits (Ne.symm apart) with more | ⟨equal,-⟩ <;> omega
  · rcases other.before first best.listed best.enabled best.fits (Ne.symm apart) with more | ⟨-,back⟩
    · omega
    · rw [Std.OrientedCmp.gt_of_lt id] at back
      cases back

/-- In a table in order the first rule that fits is the best one. -/
theorem matchGroup_fromRules {rules permuted : List RouteRule} (reordered : permuted.Perm rules)
    (distinct : (rules.map (·.id)).Nodup) (target : TargetContext) :
    (∃ rule, Best rules target rule ∧
      (RouteRuleStore.fromRules permuted).matchGroup target = ⟨some rule.groupId,some rule.id,rule.ipv6⟩) ∨
    (∀ rule ∈ rules, rule.enabled = true → rule.matcher.matches target = false) ∧
      (RouteRuleStore.fromRules permuted).matchGroup target = ⟨none,none,.inherit⟩ := by
  have sorted := List.pairwise_mergeSort ruleBefore_trans ruleBefore_total permuted
  have perm := (List.mergeSort_perm permuted RouteRuleStore.ruleBefore).trans reordered
  rw [RouteRuleStore.matchGroup,RouteRuleStore.fromRules]
  dsimp only
  cases found : (permuted.mergeSort RouteRuleStore.ruleBefore).find? (fun rule => rule.enabled && rule.matcher.matches target) with
  | none =>
    refine .inr ⟨fun rule listed enabled => ?_,rfl⟩
    have refused := List.find?_eq_none.mp found rule (perm.mem_iff.mpr listed)
    simpa [enabled] using refused
  | some rule =>
    obtain ⟨fits,front,rest,split,clear⟩ := List.find?_eq_some_iff_append.mp found
    obtain ⟨enabled,matched⟩ := Bool.and_eq_true_iff.mp fits
    rw [split] at sorted perm
    refine .inl ⟨rule,⟨perm.mem_iff.mp (by simp),enabled,matched,fun other listed on fitting apart => ?_⟩,rfl⟩
    have place : other ∈ rest := by
      rcases List.mem_append.mp (perm.mem_iff.mpr listed) with early | late
      · have refused := clear other early
        simp [on,fitting] at refused
      · exact (List.mem_cons.mp late).resolve_left apart
    have later := (List.pairwise_cons.mp (List.pairwise_append.mp sorted).2.1).1 other place
    rcases (ruleBefore_iff _ _).mp later with greater | ⟨same,ids⟩
    · exact .inl greater
    · refine .inr ⟨same,?_⟩
      cases order : compare rule.id other.id with
      | lt => rfl
      | eq =>
        have equal := Std.LawfulEqOrd.eq_of_compare order
        exact absurd (List.inj_on_of_nodup_map distinct listed (perm.mem_iff.mp (by simp)) equal.symm) apart
      | gt =>
        rw [order] at ids
        cases ids

/-- The rule of a target does not depend on the order in which the rules are given; a prefix
matches the addresses that begin with its bits, and a suffix the names that end with its labels. -/
theorem route_matching (target : TargetContext) :
    (∀ rules permuted : List RouteRule, permuted.Perm rules → (rules.map (·.id)).Nodup →
      (∃ rule, Best rules target rule ∧ (∀ other, Best rules target other → other = rule) ∧
        (RouteRuleStore.fromRules permuted).matchGroup target = ⟨some rule.groupId,some rule.id,rule.ipv6⟩) ∨
      (∀ rule ∈ rules, rule.enabled = true → rule.matcher.matches target = false) ∧
        (RouteRuleStore.fromRules permuted).matchGroup target = ⟨none,none,.inherit⟩) ∧
    (∀ text, (RouteMatcher.ipCidr text).matches target = true ↔
      ∃ cidr, Cidr.ReadsAs text cidr ∧ cidr.Contains target.address.ip) ∧
    ∀ suffix, (RouteMatcher.domainSuffix suffix).matches target = true ↔
      ∃ name, target.domain = some name ∧ labels suffix <:+ labels name := by
  refine ⟨fun rules permuted reordered distinct => ?_,fun text => ipMatchesCidr_iff _ text,fun suffix => domainSuffix_iff suffix target⟩
  rcases matchGroup_fromRules reordered distinct target with ⟨rule,best,matched⟩ | none
  · exact .inl ⟨rule,best,fun _ other => best_unique best other,matched⟩
  · exact .inr none

end Table

end Dynet.Runtime
