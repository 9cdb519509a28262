import Dynet.Ingress.Fields
import Dynet.Runtime.MatrixStats
import Dynet.State.Startable

/-! The selection trace in events. A decision writes its group and node ids as two
lists joined with commas; the statistics read the pairs back from the session. -/
namespace Dynet.Ingress
open Dynet.Runtime Dynet.Lib Dynet.Lib.Text

/-- A session after the record of an event that carries the fields of the decision. -/
def RecordedFrom (decision : SelectionDecision) (session : TrafficSession) : Prop :=
  ∃ (id now : Nat) (kind : IngressEventKind) (front back : FieldList) (update : TrafficSessionUpdate)
      (old : TrafficSession),
    (∀ entry ∈ back, entry.1 ≠ "selectionGroups" ∧ entry.1 ≠ "selectionNodes") ∧
      sessionUpdateFromEvent ⟨id,now,kind,intoFields (pushDecisionFields front decision ++ back)⟩ = some update ∧
      session = old.applyUpdate update

def tracePairs (decision : SelectionDecision) : List (String × String) :=
  decision.trace.map fun hop => (hop.groupId.value,hop.nodeId.value)

/-- The sessions that scoring counts for a candidate, over all targets and for the
target of a context. -/
def nodeSessionCount (sessions : List TrafficSession) (fingerprintsByNode : Std.ExtTreeMap String String)
    (groupId nodeId : String) : Nat :=
  ((matchingNodeStats groupId nodeId (nodeStatsFromSessions sessions fingerprintsByNode)).map
    (·.sessionCount)).getD 0

def targetSessionCount (context : SelectionContext) (sessions : List TrafficSession)
    (fingerprintsByNode : Std.ExtTreeMap String String) (groupId nodeId : String) : Nat :=
  ((matchingTargetStats context groupId nodeId (targetStatsFromSessions sessions fingerprintsByNode)).map
    (·.sessionCount)).getD 0

/-- Beside any other sessions, the session adds to the statistics of a candidate, and
to those for the targets of its scope. -/
def CountedFor (session : TrafficSession) (groupId nodeId : String) : Prop :=
  ∀ (before after : List TrafficSession) (fingerprintsByNode : Std.ExtTreeMap String String),
    nodeSessionCount (before ++ after) fingerprintsByNode groupId nodeId <
        nodeSessionCount (before ++ session::after) fingerprintsByNode groupId nodeId ∧
      ∀ context, session.targetScopeOf = some context.target.scope →
        targetSessionCount context (before ++ after) fingerprintsByNode groupId nodeId <
          targetSessionCount context (before ++ session::after) fingerprintsByNode groupId nodeId

/-- An id that survives in a list joined with commas. -/
def Plain (id : String) : Prop := id ≠ "" ∧ ',' ∉ id.toList ∧ trim isWhitespace id = id

instance (id : String) : Decidable (Plain id) := inferInstanceAs (Decidable (_ ∧ _))

theorem splitList_join_iff (ids : List String) (some : ids ≠ []) :
    splitList (join ',' ids) = ids ↔ ∀ id ∈ ids, Plain id := by
  constructor
  · intro same id member
    rw [← same] at member
    obtain ⟨listed,nonempty⟩ := List.mem_filter.mp member
    obtain ⟨piece,pieces,rfl⟩ := List.mem_map.mp listed
    exact ⟨by simpa using nonempty,
      fun comma => split_free pieces ((trim_sublist isWhitespace piece).subset comma),trim_trim _ _⟩
  · intro plain
    rw [splitList,split_join ',' ids some fun id member => (plain id member).2.1]
    have trimmed : ids.map (trim isWhitespace) = ids :=
      (List.map_congr_left fun id member => (plain id member).2.2).trans (List.map_id _)
    rw [trimmed,List.filter_eq_self]
    intro id member
    simpa using (plain id member).1

theorem pairLists_join_iff (pairs : List (String × String)) (nonempty : pairs ≠ []) :
    pairLists (some (join ',' (pairs.map (·.1)))) (some (join ',' (pairs.map (·.2)))) = some pairs ↔
      ∀ pair ∈ pairs, Plain pair.1 ∧ Plain pair.2 := by
  have groups := splitList_join_iff (pairs.map (·.1)) (by simpa using nonempty)
  have nodes := splitList_join_iff (pairs.map (·.2)) (by simpa using nonempty)
  simp only [List.forall_mem_map] at groups nodes
  simp only [forall_and,← groups,← nodes]
  constructor
  · intro paired
    simp only [pairLists,Option.bind_eq_bind,Option.bind_some,Option.bind_eq_some_iff,
      Option.guard_eq_some'] at paired
    obtain ⟨_,shape,zipped⟩ := paired
    rw [not_or,not_not] at shape
    have zipped := Option.some.inj zipped
    constructor
    · have firsts := congrArg (List.map Prod.fst) zipped
      rwa [List.map_fst_zip (Nat.le_of_eq shape.2)] at firsts
    · have seconds := congrArg (List.map Prod.snd) zipped
      rwa [List.map_snd_zip (Nat.le_of_eq shape.2.symm)] at seconds
  · rintro ⟨first,second⟩
    have shape : ¬ (pairs.map Prod.fst = [] ∨ (pairs.map Prod.fst).length ≠ (pairs.map Prod.snd).length) := by
      simpa using nonempty
    have zipped : (pairs.map Prod.fst).zip (pairs.map Prod.snd) = pairs := (List.zip_of_prod rfl rfl).symm
    simp only [pairLists,first,second,Option.bind_eq_bind,Option.bind_some,shape,guard,not_false_eq_true,if_true,zipped]
    rfl

theorem decision_lookup (front back : FieldList) (decision : SelectionDecision) (key : String)
    (apart : ∀ entry ∈ back, entry.1 ≠ key) :
    (intoFields (pushDecisionFields front decision ++ back))[key]? =
      (intoFields (pushDecisionFields front decision))[key]? := by
  have missing : back.reverse.find? (fun entry => entry.1 = key) = none := by
    simpa [List.find?_eq_none] using apart
  rw [intoFields_lookup,intoFields_lookup,List.reverse_append,List.find?_append,missing,Option.none_or]

theorem decision_lists (front : FieldList) (decision : SelectionDecision) :
    (intoFields (pushDecisionFields front decision))["selectionGroups"]? =
        some (join ',' (decision.trace.map (·.groupId.value))) ∧
      (intoFields (pushDecisionFields front decision))["selectionNodes"]? =
        some (join ',' (decision.trace.map (·.nodeId.value))) := by
  rw [intoFields_lookup,intoFields_lookup]
  cases source : decision.ipv6PolicySource <;> simp [pushDecisionFields,source]

theorem RecordedFrom.lists {decision : SelectionDecision} {session : TrafficSession}
    (recorded : RecordedFrom decision session) :
    session.selectionGroups = some (join ',' ((tracePairs decision).map (·.1))) ∧
      session.selectionNodes = some (join ',' ((tracePairs decision).map (·.2))) := by
  obtain ⟨id,now,kind,front,back,update,old,apart,made,rfl⟩ := recorded
  obtain ⟨groups,nodes⟩ := update_lists made
  rw [decision_lookup _ _ _ _ fun entry member => (apart entry member).1,(decision_lists front decision).1] at groups
  rw [decision_lookup _ _ _ _ fun entry member => (apart entry member).2,(decision_lists front decision).2] at nodes
  simp [TrafficSession.applyUpdate,setIfSome,groups,nodes,tracePairs,Function.comp_def]

theorem exists_recorded (decision : SelectionDecision) : ∃ session, RecordedFrom decision session := by
  have session : (intoFields (pushDecisionFields [("sessionId","1")] decision))["sessionId"]? = some "1" := by
    rw [intoFields_lookup]
    cases source : decision.ipv6PolicySource <;> cases rule : decision.matchedRuleId <;>
      simp [pushDecisionFields,ruleFields,source,rule]
  have number : IngressEvent.number ⟨0,0,.tcpAccept,intoFields (pushDecisionFields [("sessionId","1")] decision)⟩
      "sessionId" = some 1 := by
    rw [IngressEvent.number,session]
    decide
  obtain ⟨update,made⟩ : ∃ update, sessionUpdateFromEvent
      ⟨0,0,.tcpAccept,intoFields (pushDecisionFields [("sessionId","1")] decision)⟩ = some update := by
    simp only [sessionUpdateFromEvent,number]
    exact ⟨_,rfl⟩
  exact ⟨_,0,0,.tcpAccept,[("sessionId","1")],[],update,.new update,by simp,by rw [List.append_nil]; exact made,rfl⟩

theorem nodeSessionCount_eq (sessions : List TrafficSession) (fingerprintsByNode : Std.ExtTreeMap String String)
    (groupId nodeId : String) : nodeSessionCount sessions fingerprintsByNode groupId nodeId =
      (pairedSessions sessions).countP fun entry => entry.1 = (groupId,nodeId) := by
  rw [nodeSessionCount,matchingNodeStats_eq,Option.map_map,← accumulate_count]
  rfl

theorem targetSessionCount_eq (context : SelectionContext) (sessions : List TrafficSession)
    (fingerprintsByNode : Std.ExtTreeMap String String) (groupId nodeId : String) :
    targetSessionCount context sessions fingerprintsByNode groupId nodeId =
      (targetedSessions sessions).countP fun entry => entry.1 = ((groupId,nodeId),context.target.scope) := by
  rw [targetSessionCount,matchingTargetStats_eq,Option.map_map,← accumulate_count]
  rfl

theorem countP_grows {α : Type} {p : α → Bool} {before own after : List α} {x : α} (member : x ∈ own) (holds : p x) :
    (before ++ after).countP p < (before ++ (own ++ after)).countP p := by
  have pos : 0 < own.countP p := List.countP_pos_iff.mpr ⟨x,member,holds⟩
  simp only [List.countP_append]
  omega

/-- A session counts for every pair that its lists decode to. -/
theorem countedFor_of_pairs {session : TrafficSession} {pairs : List (String × String)}
    (decoded : selectionPairs session = some pairs) {groupId nodeId : String} (member : (groupId,nodeId) ∈ pairs) :
    CountedFor session groupId nodeId := by
  intro before after fingerprintsByNode
  constructor
  · rw [nodeSessionCount_eq,nodeSessionCount_eq,pairedSessions,pairedSessions,List.flatMap_append,
      List.flatMap_append,List.flatMap_cons,decoded]
    exact countP_grows (List.mem_map_of_mem member) (by simp)
  · intro context scope
    rw [targetSessionCount_eq,targetSessionCount_eq,targetedSessions,targetedSessions,List.flatMap_append,
      List.flatMap_append,List.flatMap_cons,decoded,scope]
    exact countP_grows (List.mem_map_of_mem member) (by simp)

/-- For every decision of the selector: its events decode to the pairs of its trace,
and count for each of them, if and only if the ids of the trace are plain. -/
theorem trace_decodes_iff (choose : SelectionContext → GroupCandidateSet → Option NodeId)
    (state after : RuntimeState) (context : SelectionContext) (decision : SelectionDecision)
    (selected : state.select choose context = .ok (decision,after)) :
    (∀ session, RecordedFrom decision session → selectionPairs session = some (tracePairs decision) ∧
      ∀ hop ∈ decision.trace, CountedFor session hop.groupId.value hop.nodeId.value) ↔
    ∀ hop ∈ decision.trace, Plain hop.groupId.value ∧ Plain hop.nodeId.value := by
  obtain ⟨source,groupId,selection,first,_,_,_,head,rfl,_⟩ :=
    (RuntimeState.select_ok_iff choose state context decision after).mp selected
  set decision := RuntimeState.decisionFor state.routing context (state.nextDecisionId + 1) groupId source selection first
  have nonempty : tracePairs decision ≠ [] := by
    obtain ⟨rest,shape⟩ := List.head?_eq_some_iff.mp head
    have trace : decision.trace = first::rest := shape
    simp [tracePairs,trace]
  have decodes (session : TrafficSession) (recorded : RecordedFrom decision session) :
      selectionPairs session = some (tracePairs decision) ↔
        ∀ hop ∈ decision.trace, Plain hop.groupId.value ∧ Plain hop.nodeId.value := by
    obtain ⟨groups,nodes⟩ := recorded.lists
    rw [selectionPairs,groups,nodes,pairLists_join_iff _ nonempty]
    exact List.forall_mem_map
  constructor
  · intro holds
    obtain ⟨session,recorded⟩ := exists_recorded decision
    exact (decodes session recorded).mp (holds session recorded).1
  · intro plain session recorded
    have decoded := (decodes session recorded).mpr plain
    exact ⟨decoded,fun hop member => countedFor_of_pairs decoded (List.mem_map_of_mem member)⟩

def directContext : SelectionContext := ⟨1,.tcp,.externalContext (.v4 0x01010101 443) none⟩

theorem trace_decodes_direct : ∃ decision after,
    (RuntimeState.fromSeed (.singleNode "direct")).select (fun _ _ => none) directContext = .ok (decision,after) ∧
    ((∀ session, RecordedFrom decision session → selectionPairs session = some (tracePairs decision) ∧
      ∀ hop ∈ decision.trace, CountedFor session hop.groupId.value hop.nodeId.value) ↔
    ∀ hop ∈ decision.trace, Plain hop.groupId.value ∧ Plain hop.nodeId.value) := by
  have computed : ((RuntimeState.fromSeed (.singleNode "direct")).select (fun _ _ => none)
      directContext).toOption.map (fun _ => ()) = some () := by decide +kernel
  obtain ⟨⟨decision,after⟩,selected,_⟩ := Checks.ok_of_toOption_map computed
  exact ⟨decision,after,selected,trace_decodes_iff (fun _ _ => none) _ after directContext decision selected⟩

/-- The loader takes a group whose id holds a comma; the sessions selected through it
decode to no pairs. -/
theorem comma_id_drops_pairs : ∃ config,
    (State.plainFile "n" "eu,us" ["n"]).load State.directDigest = .ok config ∧ ∃ decision after,
      (RuntimeState.fromSeed config.seed).select (fun _ _ => none) directContext = .ok (decision,after) ∧
      ∃ session, RecordedFrom decision session ∧ selectionPairs session = none := by
  have computed : ((State.plainFile "n" "eu,us" ["n"]).load State.directDigest).toOption.map (fun config =>
      ((RuntimeState.fromSeed config.seed).select (fun _ _ => none) directContext).toOption.map
        fun reply => tracePairs reply.1) = some (some [("eu,us","n")]) := by decide +kernel
  obtain ⟨config,loaded,computed⟩ := Checks.ok_of_toOption_map computed
  obtain ⟨⟨decision,after⟩,selected,pairs⟩ := Checks.ok_of_toOption_map computed
  obtain ⟨session,recorded⟩ := exists_recorded decision
  refine ⟨config,loaded,decision,after,selected,session,recorded,?_⟩
  obtain ⟨groups,nodes⟩ := recorded.lists
  have traced : tracePairs decision = [("eu,us","n")] := pairs
  rw [selectionPairs,groups,nodes,traced]
  decide

end Dynet.Ingress
