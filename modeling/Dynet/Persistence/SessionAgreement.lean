import Dynet.Persistence.SessionRow

/-! Where the persisted row and the in-memory session of one key agree. Both are
folds over the same updates; each field that can differ is followed on its own. -/
namespace Dynet.Persistence
open Dynet.Runtime Dynet.Lib.Sqlite

def sessionOf (first : TrafficSessionUpdate) (rest : List TrafficSessionUpdate) : TrafficSession :=
  rest.foldl TrafficSession.applyUpdate ((TrafficSession.new first).applyUpdate first)

def rowOf (first : TrafficSessionUpdate) (rest : List TrafficSessionUpdate) : SessionRow :=
  rest.foldl SessionRow.updated (.inserted first)

def cellsOf (first : TrafficSessionUpdate) (rest : List TrafficSessionUpdate) : Cells :=
  rest.foldl Cells.next (.first first)

section Tables
variable {key : String}

theorem applyUpdate_present {store : TrafficSessionStore} {session : TrafficSession}
    (present : store.inner[key]? = some session) {update : TrafficSessionUpdate} (same : update.sessionKey = key) :
    (store.applyUpdate update).inner[key]? = some (session.applyUpdate update) := by
  subst same
  have contained : store.inner.contains update.sessionKey = true := by
    rw [Std.ExtTreeMap.contains_eq_isSome_getElem?,present]
    rfl
  have kept : TrafficSessionStore.evict store.inner update.sessionKey = store.inner :=
    if_neg fun full => full.1 contained
  simp [TrafficSessionStore.applyUpdate,kept,present]

theorem store_fold {first : TrafficSessionUpdate} (rest : List TrafficSessionUpdate)
    (owner : first.sessionKey = key) (keys : ∀ update ∈ rest, update.sessionKey = key) :
    ((first::rest).foldl TrafficSessionStore.applyUpdate .empty).inner[key]? = some (sessionOf first rest) := by
  have start : (TrafficSessionStore.empty.applyUpdate first).inner[key]? =
      some ((TrafficSession.new first).applyUpdate first) := by
    have kept : TrafficSessionStore.evict (∅ : Std.ExtTreeMap String TrafficSession) first.sessionKey = ∅ :=
      if_neg fun full => by simp [trafficSessionLimit] at full
    simp [TrafficSessionStore.applyUpdate,TrafficSessionStore.empty,kept,← owner]
  have general (updates : List TrafficSessionUpdate) (keys : ∀ update ∈ updates, update.sessionKey = key)
      (store : TrafficSessionStore) (session : TrafficSession) (present : store.inner[key]? = some session) :
      (updates.foldl TrafficSessionStore.applyUpdate store).inner[key]? =
        some (updates.foldl TrafficSession.applyUpdate session) := by
    induction updates generalizing store session with
    | nil => exact present
    | cons update updates ih =>
      obtain ⟨head,tail⟩ := List.forall_mem_cons.mp keys
      exact ih tail _ _ (applyUpdate_present present head)
  exact general rest keys _ _ start

theorem table_fold {first : TrafficSessionUpdate} (rest : List TrafficSessionUpdate)
    (owner : first.sessionKey = key) (keys : ∀ update ∈ rest, update.sessionKey = key) :
    ((first::rest).foldl upsertTrafficSession ∅)[key]? = some (rowOf first rest) := by
  have start : (upsertTrafficSession ∅ first)[key]? = some (.inserted first) := by
    simp [upsertTrafficSession,owner]
  have general (updates : List TrafficSessionUpdate) (keys : ∀ update ∈ updates, update.sessionKey = key)
      (table : Std.ExtTreeMap String SessionRow) (row : SessionRow) (present : table[key]? = some row) :
      (updates.foldl upsertTrafficSession table)[key]? = some (updates.foldl SessionRow.updated row) := by
    induction updates generalizing table row with
    | nil => exact present
    | cons update updates ih =>
      obtain ⟨head,tail⟩ := List.forall_mem_cons.mp keys
      apply ih tail
      simp [upsertTrafficSession,head,present]
  exact general rest keys _ _ start

end Tables

theorem cells_fold {γ : Type} (get : Cells → γ) (step : γ → TrafficSessionUpdate → γ)
    (follows : ∀ cells update, step (get cells) update = get (cells.next update))
    (first : TrafficSessionUpdate) (rest : List TrafficSessionUpdate) :
    get (cellsOf first rest) = rest.foldl step (get (.first first)) := field_fold get step follows _ rest

theorem session_fold {γ : Type} (get : TrafficSession → γ) (step : γ → TrafficSessionUpdate → γ)
    (follows : ∀ session update, step (get session) update = get (session.applyUpdate update))
    (first : TrafficSessionUpdate) (rest : List TrafficSessionUpdate) :
    get (sessionOf first rest) = (first::rest).foldl step (get (.new first)) :=
  field_fold get step follows _ (first::rest)

section Folds
variable (first : TrafficSessionUpdate) (rest : List TrafficSessionUpdate)

theorem rowOf_eq_encode (small : ∀ update ∈ first::rest, Small update) :
    rowOf first rest = encode (sessionOf first rest) (cellsOf first rest) := by
  obtain ⟨head,tail⟩ := List.forall_mem_cons.mp small
  have general (updates : List TrafficSessionUpdate) (small : ∀ update ∈ updates, Small update)
      (session : TrafficSession) (cells : Cells) :
      updates.foldl SessionRow.updated (encode session cells) =
        encode (updates.foldl TrafficSession.applyUpdate session) (updates.foldl Cells.next cells) := by
    induction updates generalizing session cells with
    | nil => rfl
    | cons update updates ih =>
      obtain ⟨head,tail⟩ := List.forall_mem_cons.mp small
      rw [List.foldl_cons,encode_updated head,ih tail]
      rfl
  rw [rowOf,encode_inserted head,general rest tail]
  rfl

theorem session_port : (sessionOf first rest).targetPort = (first::rest).findSome? (·.targetPort) := by
  have fold := session_fold TrafficSession.targetPort (fun kept update => kept.or update.targetPort)
    (fun _ _ => rfl) first rest
  rw [fold]
  exact foldl_first_cons (·.targetPort) first rest

theorem cells_port : (cellsOf first rest).targetPort =
    ((first::rest).reverse.findSome? (·.targetPort)).map fun port => number port.toNat := by
  have fold := cells_fold Cells.targetPort (fun kept update => (Cells.portOf update).or kept) (fun _ _ => rfl)
    first rest
  rw [fold,List.map_findSome?]
  exact foldl_last_cons Cells.portOf first rest

theorem port_agrees_iff :
    (getOptional (cellsOf first rest).targetPort).map (·.bind i64ToU16) =
        some (sessionOf first rest).targetPort ↔
      (first::rest).reverse.findSome? (·.targetPort) = (first::rest).findSome? (·.targetPort) := by
  have decoded (port : Option UInt16) :
      (getOptional (port.map fun port => number port.toNat)).map (·.bind i64ToU16) = some port := by
    cases port with
    | none => rfl
    | some port => exact congrArg some (i64ToU16_port port)
  rw [session_port,cells_port,decoded,Option.some_inj]

-- The start time is carried along because every closing update measures from it.
theorem session_duration : (sessionOf first rest).durationMs =
    ((first::rest).reverse.find? (·.closesSession)).map fun update =>
      update.observedAtUnixMs - first.observedAtUnixMs := by
  have general (updates : List TrafficSessionUpdate) (session : TrafficSession) :
      (updates.foldl TrafficSession.applyUpdate session).durationMs =
        (updates.reverse.findSome? fun update => if update.closesSession then
          some (update.observedAtUnixMs - session.startedAtUnixMs) else none).or session.durationMs := by
    rw [← foldl_last]
    induction updates generalizing session with
    | nil => rfl
    | cons update updates ih =>
      rw [List.foldl_cons,ih,List.foldl_cons]
      cases closes : update.closesSession <;> simp [TrafficSession.applyUpdate,closes]
  rw [sessionOf,general,← findSome_if,List.reverse_cons,List.findSome?_append]
  cases closes : first.closesSession <;> simp [TrafficSession.applyUpdate,TrafficSession.new,closes]

theorem cells_duration : (cellsOf first rest).durationMs =
    ((first::rest).reverse.find? (·.closesSession)).map fun _ => .integer 0 := by
  have fold := cells_fold Cells.durationMs (fun kept update => (Cells.closingOf update).or kept) (fun _ _ => rfl)
    first rest
  rw [fold,← findSome_if]
  exact foldl_last_cons Cells.closingOf first rest

theorem zeros_agree_iff {α : Type} (found : Option α) (elapsed : α → Nat) :
    (getOptional (found.map fun _ => SqlNumber.integer 0)).map (·.map i64ToU64) = some (found.map elapsed) ↔
      ∀ item ∈ found, elapsed item = 0 := by
  cases found with
  | none => simp [getOptional]
  | some item => simp [getOptional,SqlNumber.toI64,i64ToU64,eq_comm]

theorem duration_agrees_iff :
    (getOptional (cellsOf first rest).durationMs).map (·.map i64ToU64) = some (sessionOf first rest).durationMs ↔
      ∀ last ∈ (first::rest).reverse.find? (·.closesSession), last.observedAtUnixMs ≤ first.observedAtUnixMs := by
  rw [session_duration,cells_duration,zeros_agree_iff]
  exact forall₂_congr fun _ _ => Nat.sub_eq_zero_iff_le

theorem session_firstDownstream : (sessionOf first rest).firstDownstreamAtUnixMs =
    ((first::rest).find? (·.upstreamToClientDatagram.isSome)).map (·.observedAtUnixMs) := by
  have step (session : TrafficSession) (update : TrafficSessionUpdate) :
      session.firstDownstreamAtUnixMs.or (if update.upstreamToClientDatagram.isSome then
        some update.observedAtUnixMs else none) = (session.applyUpdate update).firstDownstreamAtUnixMs := by
    cases given : update.upstreamToClientDatagram <;> simp [TrafficSession.applyUpdate,TrafficSession.firstSeen,given]
  have fold := session_fold TrafficSession.firstDownstreamAtUnixMs (fun kept update => kept.or
    (if update.upstreamToClientDatagram.isSome then some update.observedAtUnixMs else none)) step first rest
  rw [fold,← findSome_if,← foldl_first_cons]
  rfl

theorem session_latency : (sessionOf first rest).firstResponseLatencyMs =
    ((first::rest).find? (·.upstreamToClientDatagram.isSome)).map fun update =>
      update.observedAtUnixMs - first.observedAtUnixMs := by
  have derived (session : TrafficSession) (update : TrafficSessionUpdate)
      (current : session.firstResponseLatencyMs =
        session.firstDownstreamAtUnixMs.map (· - session.startedAtUnixMs)) :
      (session.applyUpdate update).firstResponseLatencyMs =
        (session.applyUpdate update).firstDownstreamAtUnixMs.map (· - session.startedAtUnixMs) := by
    simp only [TrafficSession.applyUpdate,current,TrafficSession.firstSeen]
    cases session.firstDownstreamAtUnixMs <;> cases update.upstreamToClientDatagram <;> simp
  have general (updates : List TrafficSessionUpdate) (session : TrafficSession)
      (current : session.firstResponseLatencyMs =
        session.firstDownstreamAtUnixMs.map (· - session.startedAtUnixMs)) :
      (updates.foldl TrafficSession.applyUpdate session).firstResponseLatencyMs =
        (updates.foldl TrafficSession.applyUpdate session).firstDownstreamAtUnixMs.map
          (· - session.startedAtUnixMs) := by
    induction updates generalizing session with
    | nil => exact current
    | cons update updates ih => exact ih (session.applyUpdate update) (derived session update current)
  have final := general rest ((TrafficSession.new first).applyUpdate first) (derived (.new first) first rfl)
  have seen := session_firstDownstream first rest
  rw [sessionOf] at seen ⊢
  rw [final,seen,Option.map_map]
  rfl

theorem cells_latency : (cellsOf first rest).firstResponseLatencyMs =
    ((first::rest).find? (·.upstreamToClientDatagram.isSome)).map fun _ => .integer 0 := by
  have fold := cells_fold Cells.firstResponseLatencyMs (fun kept update => kept.or (Cells.responseOf update))
    (fun _ _ => rfl) first rest
  rw [fold,← findSome_if]
  exact foldl_first_cons Cells.responseOf first rest

theorem latency_agrees_iff :
    (getOptional (cellsOf first rest).firstResponseLatencyMs).map (·.map i64ToU64) =
        some (sessionOf first rest).firstResponseLatencyMs ↔
      ∀ answer ∈ (first::rest).find? (·.upstreamToClientDatagram.isSome),
        answer.observedAtUnixMs ≤ first.observedAtUnixMs := by
  rw [session_latency,cells_latency,zeros_agree_iff]
  exact forall₂_congr fun _ _ => Nat.sub_eq_zero_iff_le

theorem counter_agrees_iff (total part : TrafficSessionUpdate → Option Nat) {cell : SqlNumber} {count : Nat}
    (column : cell = rest.foldl (tallyColumn total part) (.ofNat ((total first).getD 0 + (part first).getD 0)))
    (memory : count = (first::rest).foldl (tallyWrapped total part) 0)
    (totals : ∀ update ∈ first::rest, ∀ amount ∈ total update, amount < 2^63)
    (parts : ∀ update ∈ first::rest, ∀ amount ∈ part update, amount < 2^63) :
    cell.toI64.map Int.toNat = some count ↔
      (∀ last ∈ rest.reverse.find? (fun update => (total update).isSome), (part last).getD 0 = 0) ∧
        tally total part 0 (first::rest) < 2^63 := by
  obtain ⟨firstTotal,totals⟩ := List.forall_mem_cons.mp totals
  obtain ⟨_,parts⟩ := List.forall_mem_cons.mp parts
  have start := foldl_tallyWrapped total part 0 [first] (by simpa using firstTotal)
  have begun : tallyWrapped total part 0 first = ((total first).getD 0 + (part first).getD 0) % 2^64 := start
  rw [column,memory,List.foldl_cons,begun,column_eq_wrapped_iff total part _ rest totals parts]
  refine and_congr ?_ Iff.rfl
  unfold dropped
  cases rest.reverse.find? (fun update => (total update).isSome) <;> simp

theorem tally_oneIf (part : TrafficSessionUpdate → Option Nat) (sum : Nat)
    (updates : List TrafficSessionUpdate) :
    tally (fun _ => none) (Cells.oneIf part) sum updates =
      sum + updates.countP fun update => (part update).isSome := by
  induction updates generalizing sum with
  | nil => rfl
  | cons update updates ih =>
    change tally (fun _ => none) (Cells.oneIf part) (sum + (Cells.oneIf part update).getD 0) updates = _
    rw [ih,List.countP_cons,Cells.oneIf]
    cases part update with
    | none => simp
    | some amount => simp; omega

theorem datagrams_agree_iff (part : TrafficSessionUpdate → Option Nat) {cell : SqlNumber} {count : Nat}
    (column : cell = rest.foldl (tallyColumn (fun _ => none) (Cells.oneIf part))
      (.ofNat ((Cells.oneIf part first).getD 0)))
    (memory : count = (first::rest).foldl (fun kept update => TrafficSession.countDatagram kept (part update)) 0) :
    cell.toI64.map Int.toNat = some count ↔
      ((first::rest).countP fun update => (part update).isSome) < 2^63 := by
  have stepped : (fun kept update => TrafficSession.countDatagram kept (part update)) =
      tallyWrapped (fun _ => none) (Cells.oneIf part) := by
    funext kept update
    rw [TrafficSession.countDatagram,tallyWrapped,Cells.oneIf]
    cases part update <;> rfl
  have ones : ∀ update ∈ first::rest, ∀ amount ∈ Cells.oneIf part update, amount < 2^63 := by
    intro update _ amount given
    obtain ⟨_,_,rfl⟩ := Option.map_eq_some_iff.mp given
    decide
  rw [stepped] at memory
  rw [counter_agrees_iff first rest (fun _ => none) (Cells.oneIf part) (by simpa using column) memory
    (by simp) ones,tally_oneIf,Nat.zero_add]
  apply and_iff_right
  intro last found
  have given := List.find?_some found
  contradiction

end Folds

/-- The updates of one key on which the row follows the session: the ports agree,
nothing was measured after the start, and no counter was dropped or overflowed. -/
structure RowFollows (first : TrafficSessionUpdate) (rest : List TrafficSessionUpdate) : Prop where
  port : (first::rest).reverse.findSome? (·.targetPort) = (first::rest).findSome? (·.targetPort)
  duration : ∀ last ∈ (first::rest).reverse.find? (·.closesSession),
    last.observedAtUnixMs ≤ first.observedAtUnixMs
  latency : ∀ answer ∈ (first::rest).find? (·.upstreamToClientDatagram.isSome),
    answer.observedAtUnixMs ≤ first.observedAtUnixMs
  upTotal : ∀ last ∈ rest.reverse.find? (·.clientToUpstreamBytes.isSome),
    last.clientToUpstreamDatagram.getD 0 = 0
  upFits : tally (·.clientToUpstreamBytes) (·.clientToUpstreamDatagram) 0 (first::rest) < 2^63
  downTotal : ∀ last ∈ rest.reverse.find? (·.upstreamToClientBytes.isSome),
    last.upstreamToClientDatagram.getD 0 = 0
  downFits : tally (·.upstreamToClientBytes) (·.upstreamToClientDatagram) 0 (first::rest) < 2^63
  upCount : (first::rest).countP (·.clientToUpstreamDatagram.isSome) < 2^63
  downCount : (first::rest).countP (·.upstreamToClientDatagram.isSome) < 2^63

/-- Reading the persisted row back gives the in-memory session exactly on the
update sequences of `RowFollows`. -/
theorem row_reads_back_iff (key : String) (first : TrafficSessionUpdate) (rest : List TrafficSessionUpdate)
    (keys : ∀ update ∈ first::rest, update.sessionKey = key) (small : ∀ update ∈ first::rest, Small update) :
    ((first::rest).foldl upsertTrafficSession ∅)[key]?.bind rowToTrafficSession =
        ((first::rest).foldl TrafficSessionStore.applyUpdate .empty).inner[key]? ↔
      RowFollows first rest := by
  obtain ⟨owner,others⟩ := List.forall_mem_cons.mp keys
  rw [table_fold rest owner others,store_fold rest owner others,rowOf_eq_encode first rest small]
  have up := counter_agrees_iff first rest (·.clientToUpstreamBytes) (·.clientToUpstreamDatagram)
    (cells_fold Cells.clientToUpstreamBytes _ (fun _ _ => rfl) first rest)
    (session_fold TrafficSession.clientToUpstreamBytes _ (fun _ _ => rfl) first rest)
    (fun update member => (small update member).upBytes) (fun update member => (small update member).upDatagram)
  have down := counter_agrees_iff first rest (·.upstreamToClientBytes) (·.upstreamToClientDatagram)
    (cells_fold Cells.upstreamToClientBytes _ (fun _ _ => rfl) first rest)
    (session_fold TrafficSession.upstreamToClientBytes _ (fun _ _ => rfl) first rest)
    (fun update member => (small update member).downBytes)
    (fun update member => (small update member).downDatagram)
  have upCount := datagrams_agree_iff first rest (·.clientToUpstreamDatagram)
    (cells_fold Cells.clientToUpstreamDatagrams _ (fun _ _ => rfl) first rest)
    (session_fold TrafficSession.clientToUpstreamDatagrams _ (fun _ _ => rfl) first rest)
  have downCount := datagrams_agree_iff first rest (·.upstreamToClientDatagram)
    (cells_fold Cells.upstreamToClientDatagrams _ (fun _ _ => rfl) first rest)
    (session_fold TrafficSession.upstreamToClientDatagrams _ (fun _ _ => rfl) first rest)
  rw [Option.bind_some,decode_encode_iff,port_agrees_iff,duration_agrees_iff,latency_agrees_iff,up,down,
    upCount,downCount]
  constructor
  · intro ⟨port,duration,latency,⟨upTotal,upFits⟩,⟨downTotal,downFits⟩,upCount,downCount⟩
    exact ⟨port,duration,latency,upTotal,upFits,downTotal,downFits,upCount,downCount⟩
  · intro follows
    exact ⟨follows.port,follows.duration,follows.latency,⟨follows.upTotal,follows.upFits⟩,
      ⟨follows.downTotal,follows.downFits⟩,follows.upCount,follows.downCount⟩

def tcpUpdate (observed : Nat) (up down : Option Nat) (closes : Bool) : TrafficSessionUpdate where
  sessionKey := "tcp:7:3"
  sessionId := 7
  decisionId := some 3
  configGeneration := some 1
  inbound := "tcp"
  observedAtUnixMs := observed
  nodeProtocol := some "direct"
  peer := none
  target := none
  targetIp := none
  targetPort := some 443
  targetDomain := none
  targetSource := none
  upstream := none
  selectionGroups := some "default"
  selectionNodes := some "default-node"
  selectionTrace := none
  closeReason := none
  errorStage := none
  errorCode := none
  errorClass := none
  errorSide := none
  errorPhase := none
  errorProtocolPhase := none
  errorScoreImpact := none
  error := none
  clientToUpstreamBytes := up
  upstreamToClientBytes := down
  clientToUpstreamDatagram := none
  upstreamToClientDatagram := none
  closesSession := closes

theorem tcpUpdate_small (observed up down : Nat) (closes : Bool) (time : observed < 2^63) (sent : up < 2^63)
    (received : down < 2^63) : Small (tcpUpdate observed (some up) (some down) closes) := by
  constructor <;> simp_all [tcpUpdate]

theorem row_reads_back_tcp :
    ([tcpUpdate 1000 (some 0) (some 0) false,tcpUpdate 1005 (some 10) (some 20) true].foldl
          upsertTrafficSession ∅)["tcp:7:3"]?.bind rowToTrafficSession =
        ([tcpUpdate 1000 (some 0) (some 0) false,tcpUpdate 1005 (some 10) (some 20) true].foldl
          TrafficSessionStore.applyUpdate .empty).inner["tcp:7:3"]? ↔
      RowFollows (tcpUpdate 1000 (some 0) (some 0) false) [tcpUpdate 1005 (some 10) (some 20) true] := by
  apply row_reads_back_iff "tcp:7:3"
  · decide
  · intro update member
    obtain rfl | member := List.mem_cons.mp member
    · exact tcpUpdate_small _ _ _ _ (by decide) (by decide) (by decide)
    · cases List.mem_singleton.mp member
      exact tcpUpdate_small _ _ _ _ (by decide) (by decide) (by decide)

theorem row_loses_tcp_duration :
    (([tcpUpdate 1000 none none false,tcpUpdate 1005 (some 10) (some 20) true].foldl
      upsertTrafficSession ∅)["tcp:7:3"]?.bind rowToTrafficSession).map (·.durationMs) = some (some 0) ∧
    ([tcpUpdate 1000 none none false,tcpUpdate 1005 (some 10) (some 20) true].foldl
      TrafficSessionStore.applyUpdate .empty).inner["tcp:7:3"]?.map (·.durationMs) = some (some 5) := by
  decide +kernel

end Dynet.Persistence
