import Dynet.Dns.Filter
import Dynet.Dns.Observed
import Dynet.Lib.Dialogue
import Dynet.Shadowsocks.Udp

/-! DNS over TCP: a session answers the length-prefixed queries of its client one after the
other, over the resolver. -/
namespace Dynet.Ingress.DnsTcp
open Dynet.Lib Dynet.Runtime
open Dynet.Dns (Network Reply Wait resolveDnsWire sniffDnsQuery DnsQueryInfo DnsResolveError race accept
  transactionId applyIpv6DnsFilter onlyFakeAnswers queryUpstream queryUdpUpstream queryHttpsUpstream dnsQuestionEnd_ge u16At_agree
  getElem?_cut_kept accept_ok_iff)
open Dynet.Shadowsocks (beBytes fromBe fromBe_beBytes fromBe_lt beBytes_fromBe beBytes_length)
open Dialogue (Move Names arrived exactly send fail)

abbrev Bytes := List UInt8

/-- How a session ends. The end of the input between two queries is no error, nor is the
shutdown; a panic ends the task. -/
inductive SessionEnd where
  | closed
  | failed (error : String)
  | panicked
  deriving DecidableEq, Repr

/-- What the resolver meets at one query; other sessions change the state in between. -/
structure Circumstance where
  network : Network
  runtime : RuntimeState
  arrived : List DnsUpstream
  wait : Wait

/-- `resolve_query`; an error leaves the query without an answer. -/
def resolveQuery (met : Circumstance) (query : Bytes) : Except SessionEnd (Option Bytes) :=
  match (resolveDnsWire met.network met.runtime query met.arrived met.wait).1 with
  | .ok resolution => .ok (some resolution.response)
  | .error _ => .ok none
  | .panic => .error .panicked

def brokenLength : Break → SessionEnd
  | .eof => .closed
  | .error text => .failed s!"failed reading DNS TCP length: {text}"

def brokenQuery (how : Break) : SessionEnd := .failed s!"failed reading DNS TCP query: {how.text}"

def refusedResponse (text : String) : SessionEnd := .failed s!"failed writing DNS TCP response: {text}"

/-- A message in front of which its length stands. -/
def frame (message : Bytes) : Bytes := beBytes 2 message.length ++ message

def writeResponse (response : Bytes) : Dialogue SessionEnd Unit := do
  if response.length < 65536 then
    send (beBytes 2 response.length) refusedResponse
    send response refusedResponse
  else fail (.failed "DNS TCP response exceeds 65535 bytes")

/-! An answer has the transaction id of its query. -/
section Identity
variable {id : Nat}

def Identified (id : Nat) (resolution : Dns.DnsResolution) : Prop := transactionId resolution.response = some id

theorem filtered_identified {resolution filtered : Dns.DnsResolution} {ruleId : RuleId}
    (filters : applyIpv6DnsFilter resolution ruleId = .ok filtered) (identified : Identified id resolution) :
    Identified id filtered := by
  unfold applyIpv6DnsFilter at filters
  split at filters
  · cases filters
  · rename_i stop found
    split at filters
    · cases filters
    · rename_i long
      cases filters
      have past := dnsQuestionEnd_ge found
      exact (u16At_agree fun i small => getElem?_cut_kept (Nat.not_lt.mp long) (by omega) (by omega)).trans identified

theorem race_identified {denyRule : Option RuleId} {wait : Wait} {arrivals : List (Except DnsResolveError Dns.DnsResolution)}
    (identified : ∀ resolution, .ok resolution ∈ arrivals → Identified id resolution) {lastError : Option String}
    {fakeCandidate : Option Dns.DnsResolution} (candidate : ∀ resolution ∈ fakeCandidate, Identified id resolution)
    {resolution : Dns.DnsResolution} (raced : race denyRule wait arrivals lastError fakeCandidate = .ok resolution) :
    Identified id resolution := by
  induction arrivals generalizing lastError fakeCandidate with
  | nil =>
    cases fakeCandidate with
    | none => cases raced
    | some fake =>
      cases raced
      exact candidate _ rfl
  | cons arrival arrivals ih =>
    have later : ∀ resolution, .ok resolution ∈ arrivals → Identified id resolution :=
      fun resolution member => identified resolution (List.mem_cons_of_mem _ member)
    cases arrival with
    | error e => exact ih later candidate raced
    | ok first =>
      have firstIdentified := identified first List.mem_cons_self
      have taken (usable : Dns.DnsResolution) (usableIdentified : Identified id usable)
          (raced : (if onlyFakeAnswers usable then race denyRule wait arrivals lastError (some (fakeCandidate.getD usable))
            else .ok usable) = .ok resolution) : Identified id resolution := by
        split at raced
        · refine ih later (fun fake member => ?_) raced
          cases member
          cases fakeCandidate with
          | none => exact usableIdentified
          | some fake => exact candidate fake rfl
        · cases raced
          exact usableIdentified
      cases denyRule with
      | none => exact taken first firstIdentified raced
      | some ruleId =>
        rw [race] at raced
        cases filters : applyIpv6DnsFilter first ruleId with
        | error e => rw [filters] at raced; cases raced
        | panic => rw [filters] at raced; cases raced
        | ok filtered =>
          rw [filters] at raced
          exact taken filtered (filtered_identified filters firstIdentified) raced

theorem accepted_identified {upstream : DnsUpstream} {info : DnsQueryInfo} {response : Bytes} {source : SocketAddr}
    {resolution : Dns.DnsResolution} (accepted : accept upstream (some info) response source = .ok resolution) :
    Identified info.transactionId resolution := by
  obtain ⟨sniffed,read,same,rfl⟩ := (accept_ok_iff upstream info response source resolution).mp accepted
  obtain ⟨id,known,rest⟩ := Option.bind_eq_some_iff.mp read
  simp only [Option.bind_eq_bind,Option.bind_eq_some_iff] at rest
  obtain ⟨_,_,_,_,_,_,_,_,made⟩ := rest
  cases made
  exact known.trans (congrArg some same)

theorem resolveQuery_identified {met : Circumstance} {query response : Bytes} {info : DnsQueryInfo}
    (sniffed : sniffDnsQuery query = some info) (resolved : resolveQuery met query = .ok (some response)) :
    transactionId response = some info.transactionId := by
  have asked (upstream : DnsUpstream) (resolution : Dns.DnsResolution)
      (answered : queryUpstream met.network upstream (some info) = .ok resolution) : Identified info.transactionId resolution := by
    unfold queryUpstream queryUdpUpstream queryHttpsUpstream at answered
    split at answered
    · split at answered
      all_goals first | cases answered | exact accepted_identified answered
    · split at answered
      all_goals first | cases answered | exact accepted_identified answered
  unfold resolveQuery at resolved
  cases wired : (resolveDnsWire met.network met.runtime query met.arrived met.wait).1 with
  | error e => rw [wired] at resolved; cases resolved
  | panic => rw [wired] at resolved; cases resolved
  | ok resolution =>
    rw [wired] at resolved
    cases resolved
    unfold resolveDnsWire at wired
    rw [sniffed] at wired
    dsimp only at wired
    split at wired
    · cases wired
    · split at wired
      · rename_i raced
        cases wired
        refine race_identified (fun resolution member => ?_) (by simp) raced
        obtain ⟨upstream,-,answered⟩ := List.mem_map.mp member
        exact asked upstream resolution answered
      · cases wired
      · cases wired

end Identity

/-- What a round does with the answer to its query. -/
def respond (asked : Nat) : Except SessionEnd (Option Bytes) → Dialogue SessionEnd Nat
  | .error e => fail e
  | .ok none => pure (asked + 1)
  | .ok (some response) => do
    writeResponse response
    pure (asked + 1)

section Session
variable (weather : Nat → Circumstance)

/-- What is left of a round once the length is known; `asked` counts the queries before. -/
def readQuery (asked length : Nat) : Dialogue SessionEnd Nat := do
  let query ← exactly length brokenQuery
  respond asked (resolveQuery (weather asked) query)

/-- A round of `handle_tcp_session`. -/
def handleTcpSession (asked : Nat) : Dialogue SessionEnd Nat := do
  let header ← exactly 2 brokenLength
  if fromBe header = 0 then fail (.failed "DNS TCP query length must be non-zero")
  else readQuery weather asked (fromBe header)

theorem handleTcpSession_hungry : Dialogue.Hungry (handleTcpSession weather) := fun _ => ⟨1,_,_,rfl⟩

/-- A query that a frame can carry. -/
structure Framable (query : Bytes) : Prop where
  filled : query ≠ []
  fits : query.length < 65536

/-- The queries asked after `asked` others, with those that are answered and their answers. -/
inductive Answered : Nat → List Bytes → List (Bytes × Bytes) → Prop
  | nil (asked : Nat) : Answered asked [] []
  | silent {asked : Nat} {query : Bytes} {queries : List Bytes} {answers : List (Bytes × Bytes)}
    (resolved : resolveQuery (weather asked) query = .ok none) (later : Answered (asked + 1) queries answers) :
    Answered asked (query::queries) answers
  | reply {asked : Nat} {query response : Bytes} {queries : List Bytes} {answers : List (Bytes × Bytes)}
    (resolved : resolveQuery (weather asked) query = .ok (some response)) (fits : response.length < 65536)
    (later : Answered (asked + 1) queries answers) : Answered asked (query::queries) ((query,response)::answers)

/-- Where a session stands behind its last answer: what it is about to do with the rest of
its input, and what of it it has not read. -/
inductive Stopped (asked : Nat) : Bytes → Dialogue SessionEnd Nat → Bytes → Prop
  | length {rest : Bytes} (short : rest.length < 2) : Stopped asked rest (handleTcpSession weather asked) rest
  | query {length : Nat} {part : Bytes} (fits : length < 65536) (short : part.length < length) :
    Stopped asked (beBytes 2 length ++ part) (readQuery weather asked length) part
  | zero {rest : Bytes} : Stopped asked (beBytes 2 0 ++ rest) (fail (.failed "DNS TCP query length must be non-zero")) rest
  | oversize {query response rest : Bytes} (framable : Framable query)
    (resolved : resolveQuery (weather asked) query = .ok (some response)) (long : 65536 ≤ response.length) :
    Stopped asked (frame query ++ rest) (fail (.failed "DNS TCP response exceeds 65535 bytes")) rest
  | failed {query rest : Bytes} {e : SessionEnd} (framable : Framable query) (resolved : resolveQuery (weather asked) query = .error e) :
    Stopped asked (frame query ++ rest) (fail e) rest

variable {weather}

theorem Answered.sublist {asked : Nat} {queries : List Bytes} {answers : List (Bytes × Bytes)}
    (answered : Answered weather asked queries answers) : (answers.map (·.1)).Sublist queries := by
  induction answered with
  | nil => exact .slnil
  | silent _ _ ih => exact ih.cons _
  | reply _ _ _ ih => exact ih.cons_cons _

theorem Answered.resolved {asked : Nat} {queries : List Bytes} {answers : List (Bytes × Bytes)}
    (answered : Answered weather asked queries answers) : ∀ answer ∈ answers, ∃ place,
      resolveQuery (weather place) answer.1 = .ok (some answer.2) := by
  induction answered with
  | nil => simp
  | silent _ _ ih => exact ih
  | reply resolved _ _ ih => exact List.forall_mem_cons.mpr ⟨⟨_,resolved⟩,ih⟩

theorem frame_length {query : Bytes} : (frame query).length = query.length + 2 := by
  rw [frame,List.length_append,beBytes_length,Nat.add_comm]

theorem length_value {length : Nat} (fits : length < 65536) : fromBe (beBytes 2 length) = length := by
  rw [fromBe_beBytes]
  exact Nat.mod_eq_of_lt fits

theorem settle_header {asked length : Nat} (fits : length < 65536) (some_ : length ≠ 0) (input : Bytes) :
    (handleTcpSession weather asked).settle (beBytes 2 length ++ input) = (readQuery weather asked length).settle input := by
  rw [handleTcpSession,Dialogue.exactly_bind,Dialogue.settle_read (beBytes_length 2 length),length_value fits,if_neg some_]

theorem Stopped.unfinished {asked : Nat} {rest held : Bytes} {talk : Dialogue SessionEnd Nat}
    (stopped : Stopped weather asked rest talk held) (next : Nat) : talk ≠ .done (.ok next) := by
  intro finished
  cases stopped <;> cases finished

theorem writeResponse_settle {response : Bytes} (fits : response.length < 65536) (asked : Nat) (rest : Bytes) :
    (writeResponse response >>= fun _ => (pure asked : Dialogue SessionEnd Nat)).settle rest =
      ⟨.done (.ok asked),rest,frame response⟩ := by
  have bytes : frame response = beBytes 2 response.length ++ (response ++ []) := by rw [List.append_nil,frame]
  rw [writeResponse,if_pos fits,bytes]
  rfl

/-- A round stops, or it takes one query. -/
theorem round_cases (asked : Nat) (input : Bytes) :
    (∃ talk held, Stopped weather asked input talk held ∧ (handleTcpSession weather asked).settle input = ⟨talk,held,[]⟩) ∨
    ∃ query rest answer, Framable query ∧ input = frame query ++ rest ∧ resolveQuery (weather asked) query = .ok answer ∧
      (∀ response ∈ answer, response.length < 65536) ∧
      (handleTcpSession weather asked).settle input = ⟨.done (.ok (asked + 1)),rest,(answer.map frame).getD []⟩ := by
  obtain short | long := Nat.lt_or_ge input.length 2
  · exact .inl ⟨_,input,.length short,Dialogue.settle_short short⟩
  obtain ⟨length,fits,later,rfl⟩ : ∃ length < 65536, ∃ later, input = beBytes 2 length ++ later := by
    have sized : (input.take 2).length = 2 := by rw [List.length_take]; omega
    have small := fromBe_lt (input.take 2)
    have whole := beBytes_fromBe (input.take 2)
    rw [sized] at small whole
    exact ⟨_,small,input.drop 2,by rw [whole,List.take_append_drop]⟩
  by_cases zero : length = 0
  · subst zero
    exact .inl ⟨_,later,.zero,rfl⟩
  rw [settle_header fits zero,readQuery,Dialogue.exactly_bind]
  obtain short | long := Nat.lt_or_ge later.length length
  · exact .inl ⟨_,later,.query fits short,Dialogue.settle_short short⟩
  obtain ⟨query,rest,rfl,rfl⟩ : ∃ query rest, query.length = length ∧ later = query ++ rest :=
    ⟨later.take length,later.drop length,by rw [List.length_take]; omega,(List.take_append_drop _ _).symm⟩
  have framable : Framable query := ⟨fun empty => zero (by rw [empty]; rfl),fits⟩
  rw [Dialogue.settle_read rfl,← List.append_assoc]
  cases resolved : resolveQuery (weather asked) query with
  | error e => exact .inl ⟨_,rest,.failed framable resolved,rfl⟩
  | ok answer =>
    cases answer with
    | none => exact .inr ⟨query,rest,none,framable,rfl,resolved,by simp,rfl⟩
    | some response =>
      obtain fits | long := Nat.lt_or_ge response.length 65536
      · refine .inr ⟨query,rest,some response,framable,rfl,resolved,by simpa using fits,?_⟩
        exact writeResponse_settle fits _ rest
      · refine .inl ⟨_,rest,.oversize framable resolved long,?_⟩
        simp only [respond,writeResponse,if_neg (Nat.not_lt.mpr long)]
        rfl

theorem listen_exact (asked : Nat) (input : Bytes) : ∃ queries answers rest talk held,
    (∀ query ∈ queries, Framable query) ∧ input = (queries.map frame).flatten ++ rest ∧
    Answered weather asked queries answers ∧ Stopped weather (asked + queries.length) rest talk held ∧
    Dialogue.listen (handleTcpSession weather) (handleTcpSession weather asked) input =
      ⟨talk,held,(answers.map fun answer => frame answer.2).flatten⟩ := by
  induction sized : input.length using Nat.strong_induction_on generalizing asked input with
  | _ length ih =>
  rcases @round_cases weather asked input with ⟨talk,held,stopped,settled⟩ | ⟨query,rest,answer,framable,split,resolved,fits,settled⟩
  · refine ⟨[],[],input,talk,held,by simp,rfl,.nil asked,stopped,?_⟩
    rw [Dialogue.listen_stays fun next ended => stopped.unfinished next (by rw [← ended,settled]),settled]
    rfl
  · have ended : ((handleTcpSession weather asked).settle input).talk = .done (.ok (asked + 1)) := by rw [settled]
    have shorter : rest.length < length := by
      rw [← sized,split,List.length_append,frame_length]
      omega
    obtain ⟨queries,answers,last,talk,held,framables,whole,answered,stopped,listened⟩ := ih _ shorter (asked + 1) rest rfl
    have input_split : input = ((query::queries).map frame).flatten ++ last := by rw [split,whole]; simp
    have place : asked + (query::queries).length = asked + 1 + queries.length := by rw [List.length_cons]; omega
    have steps := Dialogue.listen_done (handleTcpSession_hungry weather) ended
    rw [settled,listened] at steps
    cases answer with
    | none =>
      exact ⟨query::queries,answers,last,talk,held,List.forall_mem_cons.mpr ⟨framable,framables⟩,input_split,
        .silent resolved answered,place ▸ stopped,steps⟩
    | some response =>
      exact ⟨query::queries,(query,response)::answers,last,talk,held,List.forall_mem_cons.mpr ⟨framable,framables⟩,input_split,
        .reply resolved (fits response rfl) answered,place ▸ stopped,steps⟩

/-- How a session ends from outside: it is over, or it could not read or write. -/
inductive Interrupted : SessionEnd → Prop
  | closed : Interrupted .closed
  | length (text : String) : Interrupted (.failed s!"failed reading DNS TCP length: {text}")
  | query (how : Break) : Interrupted (brokenQuery how)
  | response (text : String) : Interrupted (refusedResponse text)

theorem handleTcpSession_names (asked : Nat) : Names Interrupted (handleTcpSession weather asked) := by
  refine .bind (.exactly 2 fun how => ?_) fun header => ?_
  · cases how with
    | eof => exact .closed
    | error text => exact .length text
  split
  · exact .done _
  refine .bind (.exactly _ .query) fun query => ?_
  unfold respond
  split
  · exact .done _
  · exact .done _
  · refine .bind ?_ fun _ => .done _
    unfold writeResponse
    split
    · exact .bind (.send _ .response) fun _ => .send _ .response
    · exact .done _

def sampleNetwork : Network where
  udp _ := .received (Dns.responseFor Dns.exampleName) (.v4 0x01010101 53)
  https _ := .timedOut

def sampleCircumstance : Circumstance := ⟨sampleNetwork,.fromSeed rulesSeed,[Dns.cloudflare],.closed⟩

theorem sample_resolved : resolveQuery sampleCircumstance Dns.exampleQuery = .ok (some (Dns.responseFor Dns.exampleName)) := by
  have some_enabled : Dns.enabledUpstreams (RuntimeState.fromSeed rulesSeed).routing.dnsUpstreams ≠ [] :=
    List.ne_nil_of_mem (Dns.both_enabled Dns.cloudflare List.mem_cons_self)
  have raced : race (Dns.ipv6DenyRule (.fromSeed rulesSeed) (sniffDnsQuery Dns.exampleQuery)) .closed
      ([Dns.cloudflare].map fun upstream => queryUpstream sampleNetwork upstream (sniffDnsQuery Dns.exampleQuery)) none none =
      .ok ⟨Dns.responseFor Dns.exampleName,Dns.cloudflare,.v4 0x01010101 53,sniffDnsQuery Dns.exampleQuery,
        Dns.sniffDnsResponse (Dns.responseFor Dns.exampleName),false,none⟩ := by decide +kernel
  simp only [resolveQuery,sampleCircumstance,resolveDnsWire,if_neg some_enabled,raced]

/-- A query in two pieces, whose answer is taken byte by byte at first. -/
def sampleMoves : List Move :=
  [.arrives (beBytes 2 29),.proceeds,.arrives Dns.exampleQuery,.proceeds,.takes 1,.takes 1,.takes 20,.takes 64,.proceeds]

theorem sample_attended : Dialogue.attend (handleTcpSession fun _ => sampleCircumstance) 0 sampleMoves =
    ⟨handleTcpSession (fun _ => sampleCircumstance) 1,[],frame (Dns.responseFor Dns.exampleName)⟩ := by
  have queried : Dialogue.attend (handleTcpSession fun _ => sampleCircumstance) 0 sampleMoves =
      [Move.takes 1,.takes 1,.takes 20,.takes 64,.proceeds].foldl (Dialogue.Peer.moveIn (handleTcpSession fun _ => sampleCircumstance))
        ⟨respond 0 (resolveQuery sampleCircumstance Dns.exampleQuery),[],[]⟩ := rfl
  rw [queried,sample_resolved]
  rfl

end Session

end Dynet.Ingress.DnsTcp
