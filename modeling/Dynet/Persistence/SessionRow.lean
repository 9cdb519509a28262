import Dynet.Lib.Checked
import Dynet.Runtime.TrafficSession

/-! The persisted traffic session: the upsert statement over its row, the row
decoder, and where the row and the in-memory fold agree. -/
namespace Dynet.Persistence
open Dynet.Runtime Dynet.Lib.Sqlite

def u64ToI64 (value : Nat) : Int := Lib.Checked.clampI64 value

def bindU64 (value : Nat) : SqlNumber := .integer (u64ToI64 value)

def i64ToU64 (value : Int) : Nat := value.toNat

def i64ToU16 (value : Int) : Option UInt16 :=
  if 0 ≤ value ∧ value ≤ 65535 then some (.ofNat value.toNat) else none

theorem i64ToU16_port (port : UInt16) : i64ToU16 port.toNat = some port := by
  have bound := port.toNat_lt
  have fits : (0 : Int) ≤ port.toNat ∧ (port.toNat : Int) ≤ 65535 := by omega
  rw [i64ToU16,if_pos fits,Int.toNat_natCast,UInt16.ofNat_toNat]

structure SessionRow where
  sessionKey : String
  sessionId : SqlNumber
  decisionId : Option SqlNumber
  configGeneration : Option SqlNumber
  inbound : String
  nodeProtocol : Option String
  peerAddr : Option String
  targetAddr : Option String
  targetIp : Option String
  targetPort : Option SqlNumber
  targetDomain : Option String
  targetSource : Option String
  upstreamAddr : Option String
  selectionGroups : Option String
  selectionNodes : Option String
  selectionTrace : Option String
  startedAtUnixMs : SqlNumber
  closedAtUnixMs : Option SqlNumber
  durationMs : Option SqlNumber
  closeReason : Option String
  errorStage : Option String
  errorCode : Option String
  errorClass : Option String
  errorSide : Option String
  errorPhase : Option String
  errorProtocolPhase : Option String
  errorScoreImpact : Option String
  error : Option String
  clientToUpstreamBytes : SqlNumber
  upstreamToClientBytes : SqlNumber
  clientToUpstreamDatagrams : SqlNumber
  upstreamToClientDatagrams : SqlNumber
  firstUpstreamAtUnixMs : Option SqlNumber
  firstDownstreamAtUnixMs : Option SqlNumber
  firstResponseLatencyMs : Option SqlNumber
  lastObservedAtUnixMs : SqlNumber
  deriving DecidableEq, Repr

namespace SessionRow

-- The `values` clause. Parameters ?16 and ?31 are both the observation time.
def inserted (update : TrafficSessionUpdate) : SessionRow :=
  let observed := bindU64 update.observedAtUnixMs
  let elapsed := (observed.sub observed).clip
  let upBytes := update.clientToUpstreamBytes.map bindU64
  let downBytes := update.upstreamToClientBytes.map bindU64
  let upDatagram := update.clientToUpstreamDatagram.map bindU64
  let downDatagram := update.upstreamToClientDatagram.map bindU64
  { sessionKey := update.sessionKey
    sessionId := bindU64 update.sessionId
    decisionId := update.decisionId.map bindU64
    configGeneration := update.configGeneration.map bindU64
    inbound := update.inbound
    nodeProtocol := update.nodeProtocol
    peerAddr := update.peer
    targetAddr := update.target
    targetIp := update.targetIp
    targetPort := update.targetPort.map fun port => .integer port.toNat
    targetDomain := update.targetDomain
    targetSource := update.targetSource
    upstreamAddr := update.upstream
    selectionGroups := update.selectionGroups
    selectionNodes := update.selectionNodes
    selectionTrace := update.selectionTrace
    startedAtUnixMs := observed
    closedAtUnixMs := if update.closesSession then some observed else none
    durationMs := if update.closesSession then some elapsed else none
    closeReason := update.closeReason
    errorStage := update.errorStage
    errorCode := update.errorCode
    errorClass := update.errorClass
    errorSide := update.errorSide
    errorPhase := update.errorPhase
    errorProtocolPhase := update.errorProtocolPhase
    errorScoreImpact := update.errorScoreImpact
    error := update.error
    clientToUpstreamBytes := (upBytes.getD (.integer 0)).add (upDatagram.getD (.integer 0))
    upstreamToClientBytes := (downBytes.getD (.integer 0)).add (downDatagram.getD (.integer 0))
    clientToUpstreamDatagrams := if upDatagram.isSome then .integer 1 else .integer 0
    upstreamToClientDatagrams := if downDatagram.isSome then .integer 1 else .integer 0
    firstUpstreamAtUnixMs := if upDatagram.isSome then some observed else none
    firstDownstreamAtUnixMs := if downDatagram.isSome then some observed else none
    firstResponseLatencyMs := if downDatagram.isSome then some elapsed else none
    lastObservedAtUnixMs := observed }

/-- The `on conflict` clause. -/
def updated (row : SessionRow) (update : TrafficSessionUpdate) : SessionRow :=
  let excluded := inserted update
  let upDatagram := update.clientToUpstreamDatagram.map bindU64
  let downDatagram := update.upstreamToClientDatagram.map bindU64
  { row with
    decisionId := row.decisionId.or excluded.decisionId
    configGeneration := row.configGeneration.or excluded.configGeneration
    nodeProtocol := excluded.nodeProtocol.or row.nodeProtocol
    peerAddr := excluded.peerAddr.or row.peerAddr
    targetAddr := excluded.targetAddr.or row.targetAddr
    targetIp := excluded.targetIp.or row.targetIp
    targetPort := excluded.targetPort.or row.targetPort
    targetDomain := excluded.targetDomain.or row.targetDomain
    targetSource := excluded.targetSource.or row.targetSource
    upstreamAddr := excluded.upstreamAddr.or row.upstreamAddr
    selectionGroups := excluded.selectionGroups.or row.selectionGroups
    selectionNodes := excluded.selectionNodes.or row.selectionNodes
    selectionTrace := excluded.selectionTrace.or row.selectionTrace
    closedAtUnixMs := excluded.closedAtUnixMs.or row.closedAtUnixMs
    durationMs := excluded.durationMs.or row.durationMs
    closeReason := excluded.closeReason.or row.closeReason
    errorStage := excluded.errorStage.or row.errorStage
    errorCode := excluded.errorCode.or row.errorCode
    errorClass := excluded.errorClass.or row.errorClass
    errorSide := excluded.errorSide.or row.errorSide
    errorPhase := excluded.errorPhase.or row.errorPhase
    errorProtocolPhase := excluded.errorProtocolPhase.or row.errorProtocolPhase
    errorScoreImpact := excluded.errorScoreImpact.or row.errorScoreImpact
    error := excluded.error.or row.error
    clientToUpstreamBytes := match update.clientToUpstreamBytes.map bindU64 with
      | some total => total
      | none => row.clientToUpstreamBytes.add (upDatagram.getD (.integer 0))
    upstreamToClientBytes := match update.upstreamToClientBytes.map bindU64 with
      | some total => total
      | none => row.upstreamToClientBytes.add (downDatagram.getD (.integer 0))
    clientToUpstreamDatagrams := row.clientToUpstreamDatagrams.add
      (if upDatagram.isSome then .integer 1 else .integer 0)
    upstreamToClientDatagrams := row.upstreamToClientDatagrams.add
      (if downDatagram.isSome then .integer 1 else .integer 0)
    firstUpstreamAtUnixMs := row.firstUpstreamAtUnixMs.or excluded.firstUpstreamAtUnixMs
    firstDownstreamAtUnixMs := row.firstDownstreamAtUnixMs.or excluded.firstDownstreamAtUnixMs
    firstResponseLatencyMs := row.firstResponseLatencyMs.or excluded.firstResponseLatencyMs
    lastObservedAtUnixMs := excluded.lastObservedAtUnixMs }

end SessionRow

def upsertTrafficSession (table : Std.ExtTreeMap String SessionRow) (update : TrafficSessionUpdate) :
    Std.ExtTreeMap String SessionRow :=
  table.alter update.sessionKey fun
    | none => some (.inserted update)
    | some row => some (row.updated update)

-- `row.get::<Option<i64>, _>`: a null column is fine, a real is a decode failure.
def getOptional (column : Option SqlNumber) : Option (Option Int) :=
  match column with
  | none => some none
  | some number => number.toI64.map some

/-- The decoded session, or nothing where the decoder panics on a real. -/
def rowToTrafficSession (row : SessionRow) : Option TrafficSession := do
  let sessionId ← row.sessionId.toI64
  let decisionId ← getOptional row.decisionId
  let configGeneration ← getOptional row.configGeneration
  let targetPort ← getOptional row.targetPort
  let startedAtUnixMs ← row.startedAtUnixMs.toI64
  let closedAtUnixMs ← getOptional row.closedAtUnixMs
  let durationMs ← getOptional row.durationMs
  let clientToUpstreamBytes ← row.clientToUpstreamBytes.toI64
  let upstreamToClientBytes ← row.upstreamToClientBytes.toI64
  let clientToUpstreamDatagrams ← row.clientToUpstreamDatagrams.toI64
  let upstreamToClientDatagrams ← row.upstreamToClientDatagrams.toI64
  let firstUpstreamAtUnixMs ← getOptional row.firstUpstreamAtUnixMs
  let firstDownstreamAtUnixMs ← getOptional row.firstDownstreamAtUnixMs
  let firstResponseLatencyMs ← getOptional row.firstResponseLatencyMs
  let lastObservedAtUnixMs ← row.lastObservedAtUnixMs.toI64
  return {
    sessionKey := row.sessionKey
    sessionId := i64ToU64 sessionId
    decisionId := decisionId.map i64ToU64
    configGeneration := configGeneration.map i64ToU64
    inbound := row.inbound
    nodeProtocol := row.nodeProtocol
    peer := row.peerAddr
    target := row.targetAddr
    targetIp := row.targetIp
    targetPort := targetPort.bind i64ToU16
    targetDomain := row.targetDomain
    targetSource := row.targetSource
    upstream := row.upstreamAddr
    selectionGroups := row.selectionGroups
    selectionNodes := row.selectionNodes
    selectionTrace := row.selectionTrace
    startedAtUnixMs := i64ToU64 startedAtUnixMs
    closedAtUnixMs := closedAtUnixMs.map i64ToU64
    durationMs := durationMs.map i64ToU64
    closeReason := row.closeReason
    errorStage := row.errorStage
    errorCode := row.errorCode
    errorClass := row.errorClass
    errorSide := row.errorSide
    errorPhase := row.errorPhase
    errorProtocolPhase := row.errorProtocolPhase
    errorScoreImpact := row.errorScoreImpact
    error := row.error
    clientToUpstreamBytes := i64ToU64 clientToUpstreamBytes
    upstreamToClientBytes := i64ToU64 upstreamToClientBytes
    clientToUpstreamDatagrams := i64ToU64 clientToUpstreamDatagrams
    upstreamToClientDatagrams := i64ToU64 upstreamToClientDatagrams
    firstUpstreamAtUnixMs := firstUpstreamAtUnixMs.map i64ToU64
    firstDownstreamAtUnixMs := firstDownstreamAtUnixMs.map i64ToU64
    firstResponseLatencyMs := firstResponseLatencyMs.map i64ToU64
    lastObservedAtUnixMs := i64ToU64 lastObservedAtUnixMs }

/-- The numeric fields of one update are below `2^63`. -/
structure Small (update : TrafficSessionUpdate) : Prop where
  sessionId : update.sessionId < 2^63
  decisionId : ∀ id ∈ update.decisionId, id < 2^63
  configGeneration : ∀ generation ∈ update.configGeneration, generation < 2^63
  observed : update.observedAtUnixMs < 2^63
  upBytes : ∀ amount ∈ update.clientToUpstreamBytes, amount < 2^63
  downBytes : ∀ amount ∈ update.upstreamToClientBytes, amount < 2^63
  upDatagram : ∀ amount ∈ update.clientToUpstreamDatagram, amount < 2^63
  downDatagram : ∀ amount ∈ update.upstreamToClientDatagram, amount < 2^63

structure Cells where
  targetPort : Option SqlNumber
  durationMs : Option SqlNumber
  firstResponseLatencyMs : Option SqlNumber
  clientToUpstreamBytes : SqlNumber
  upstreamToClientBytes : SqlNumber
  clientToUpstreamDatagrams : SqlNumber
  upstreamToClientDatagrams : SqlNumber

def number (value : Nat) : SqlNumber := .integer value

/-- The row that shows a session, up to the columns of `cells`. -/
def encode (session : TrafficSession) (cells : Cells) : SessionRow where
  sessionKey := session.sessionKey
  sessionId := number session.sessionId
  decisionId := session.decisionId.map number
  configGeneration := session.configGeneration.map number
  inbound := session.inbound
  nodeProtocol := session.nodeProtocol
  peerAddr := session.peer
  targetAddr := session.target
  targetIp := session.targetIp
  targetPort := cells.targetPort
  targetDomain := session.targetDomain
  targetSource := session.targetSource
  upstreamAddr := session.upstream
  selectionGroups := session.selectionGroups
  selectionNodes := session.selectionNodes
  selectionTrace := session.selectionTrace
  startedAtUnixMs := number session.startedAtUnixMs
  closedAtUnixMs := session.closedAtUnixMs.map number
  durationMs := cells.durationMs
  closeReason := session.closeReason
  errorStage := session.errorStage
  errorCode := session.errorCode
  errorClass := session.errorClass
  errorSide := session.errorSide
  errorPhase := session.errorPhase
  errorProtocolPhase := session.errorProtocolPhase
  errorScoreImpact := session.errorScoreImpact
  error := session.error
  clientToUpstreamBytes := cells.clientToUpstreamBytes
  upstreamToClientBytes := cells.upstreamToClientBytes
  clientToUpstreamDatagrams := cells.clientToUpstreamDatagrams
  upstreamToClientDatagrams := cells.upstreamToClientDatagrams
  firstUpstreamAtUnixMs := session.firstUpstreamAtUnixMs.map number
  firstDownstreamAtUnixMs := session.firstDownstreamAtUnixMs.map number
  firstResponseLatencyMs := cells.firstResponseLatencyMs
  lastObservedAtUnixMs := number session.lastObservedAtUnixMs

namespace Cells

def portOf (update : TrafficSessionUpdate) : Option SqlNumber :=
  update.targetPort.map fun port => number port.toNat

def closingOf (update : TrafficSessionUpdate) : Option SqlNumber :=
  if update.closesSession then some (.integer 0) else none

def responseOf (update : TrafficSessionUpdate) : Option SqlNumber :=
  if update.upstreamToClientDatagram.isSome then some (.integer 0) else none

def oneIf (part : TrafficSessionUpdate → Option Nat) (update : TrafficSessionUpdate) : Option Nat :=
  (part update).map fun _ => 1

def first (update : TrafficSessionUpdate) : Cells where
  targetPort := portOf update
  durationMs := closingOf update
  firstResponseLatencyMs := responseOf update
  clientToUpstreamBytes := .ofNat (update.clientToUpstreamBytes.getD 0 + update.clientToUpstreamDatagram.getD 0)
  upstreamToClientBytes := .ofNat (update.upstreamToClientBytes.getD 0 + update.upstreamToClientDatagram.getD 0)
  clientToUpstreamDatagrams := .ofNat ((oneIf (·.clientToUpstreamDatagram) update).getD 0)
  upstreamToClientDatagrams := .ofNat ((oneIf (·.upstreamToClientDatagram) update).getD 0)

def next (cells : Cells) (update : TrafficSessionUpdate) : Cells where
  targetPort := (portOf update).or cells.targetPort
  durationMs := (closingOf update).or cells.durationMs
  firstResponseLatencyMs := cells.firstResponseLatencyMs.or (responseOf update)
  clientToUpstreamBytes := tallyColumn (·.clientToUpstreamBytes) (·.clientToUpstreamDatagram)
    cells.clientToUpstreamBytes update
  upstreamToClientBytes := tallyColumn (·.upstreamToClientBytes) (·.upstreamToClientDatagram)
    cells.upstreamToClientBytes update
  clientToUpstreamDatagrams := tallyColumn (fun _ => none) (oneIf (·.clientToUpstreamDatagram))
    cells.clientToUpstreamDatagrams update
  upstreamToClientDatagrams := tallyColumn (fun _ => none) (oneIf (·.upstreamToClientDatagram))
    cells.upstreamToClientDatagrams update

end Cells

theorem bindU64_of_lt {value : Nat} (small : value < 2^63) : bindU64 value = number value := by
  rw [bindU64,u64ToI64,Lib.Checked.clampI64_small small,number]

theorem map_bindU64 {value : Option Nat} (small : ∀ n ∈ value, n < 2^63) :
    value.map bindU64 = value.map number := by
  cases value with
  | none => rfl
  | some n => exact congrArg some (bindU64_of_lt (small n rfl))

theorem setIfSome_eq_or (target value : Option String) : setIfSome target value = value.or target := by
  cases value <;> rfl

theorem elapsed_zero (observed : Nat) : ((number observed).sub (number observed)).clip = .integer 0 :=
  SqlNumber.clip_sub_self _

theorem closed_or (closes : Bool) (observed : Nat) (closed : Option Nat) :
    (if closes = true then some (number observed) else none).or (closed.map number) =
      (if closes = true then some observed else closed).map number := by
  cases closes <;> rfl

theorem firstSeen_or (seen datagram : Option Nat) (observed : Nat) :
    (seen.map number).or (if (datagram.map bindU64).isSome = true then some (number observed) else none) =
      (TrafficSession.firstSeen seen datagram observed).map number := by
  cases seen <;> cases datagram <;> rfl

theorem bytes_updated {total part : TrafficSessionUpdate → Option Nat} {update : TrafficSessionUpdate}
    (totals : ∀ amount ∈ total update, amount < 2^63) (parts : ∀ amount ∈ part update, amount < 2^63)
    (cell : SqlNumber) :
    (match (total update).map bindU64 with
      | some amount => amount
      | none => cell.add (((part update).map bindU64).getD (.integer 0))) =
    tallyColumn total part cell update := by
  rw [map_bindU64 totals,map_bindU64 parts,tallyColumn]
  cases total update with
  | some amount => rfl
  | none => cases part update <;> rfl

theorem datagrams_updated (part : TrafficSessionUpdate → Option Nat) (update : TrafficSessionUpdate)
    (cell : SqlNumber) :
    cell.add (if ((part update).map bindU64).isSome = true then .integer 1 else .integer 0) =
      tallyColumn (fun _ => none) (Cells.oneIf part) cell update := by
  rw [tallyColumn,Cells.oneIf]
  cases part update <;> rfl

theorem encode_updated {update : TrafficSessionUpdate} (small : Small update) (session : TrafficSession)
    (cells : Cells) :
    (encode session cells).updated update = encode (session.applyUpdate update) (cells.next update) := by
  have observed := bindU64_of_lt small.observed
  have decision := map_bindU64 small.decisionId
  have generation := map_bindU64 small.configGeneration
  simp only [SessionRow.updated,SessionRow.inserted,encode,TrafficSession.applyUpdate,setIfSome_eq_or,
    SessionRow.mk.injEq,observed,decision,generation,true_and,and_true,Option.map_or,elapsed_zero,closed_or,
    firstSeen_or]
  refine ⟨rfl,rfl,bytes_updated small.upBytes small.upDatagram _,
    bytes_updated small.downBytes small.downDatagram _,datagrams_updated (·.clientToUpstreamDatagram) _ _,
    datagrams_updated (·.upstreamToClientDatagram) _ _,?_⟩
  rw [Option.isSome_map]
  rfl

theorem bytes_inserted {total part : Option Nat} (totals : ∀ amount ∈ total, amount < 2^63)
    (parts : ∀ amount ∈ part, amount < 2^63) :
    ((total.map bindU64).getD (.integer 0)).add ((part.map bindU64).getD (.integer 0)) =
      .ofNat (total.getD 0 + part.getD 0) := by
  have number_getD (value : Option Nat) : (value.map number).getD (.integer 0) = number (value.getD 0) := by
    cases value <;> rfl
  have small : total.getD 0 < 2^63 := by
    cases total with
    | none => simp
    | some amount => exact totals amount rfl
  rw [map_bindU64 totals,map_bindU64 parts,number_getD,number_getD,← SqlNumber.ofNat_add,
    SqlNumber.ofNat_of_lt small]
  rfl

theorem datagrams_inserted (part : TrafficSessionUpdate → Option Nat) (update : TrafficSessionUpdate) :
    (if ((part update).map bindU64).isSome = true then SqlNumber.integer 1 else .integer 0) =
      .ofNat ((Cells.oneIf part update).getD 0) := by
  rw [Cells.oneIf]
  cases part update <;> rfl

theorem encode_inserted {update : TrafficSessionUpdate} (small : Small update) :
    SessionRow.inserted update = encode ((TrafficSession.new update).applyUpdate update) (.first update) := by
  have session := bindU64_of_lt small.sessionId
  have observed := bindU64_of_lt small.observed
  have decision := map_bindU64 small.decisionId
  have generation := map_bindU64 small.configGeneration
  have closed := closed_or update.closesSession update.observedAtUnixMs none
  have seen := firstSeen_or none
  simp only [SessionRow.inserted,encode,TrafficSession.applyUpdate,TrafficSession.new,setIfSome_eq_or,
    SessionRow.mk.injEq,session,observed,decision,generation,true_and,and_true,Option.or_none,Option.or_self,
    elapsed_zero,← closed,← seen,Option.map_none,Option.none_or]
  refine ⟨rfl,rfl,bytes_inserted small.upBytes small.upDatagram,
    bytes_inserted small.downBytes small.downDatagram,datagrams_inserted (·.clientToUpstreamDatagram) update,
    datagrams_inserted (·.upstreamToClientDatagram) update,?_⟩
  rw [Option.isSome_map]
  rfl

theorem getOptional_number (value : Option Nat) :
    getOptional (value.map number) = some (value.map Int.ofNat) := by
  cases value <;> rfl

theorem map_i64ToU64 (value : Option Nat) : (value.map Int.ofNat).map i64ToU64 = value := by
  cases value <;> rfl

theorem decode_encode_iff (session : TrafficSession) (cells : Cells) :
    rowToTrafficSession (encode session cells) = some session ↔
      (getOptional cells.targetPort).map (·.bind i64ToU16) = some session.targetPort ∧
      (getOptional cells.durationMs).map (·.map i64ToU64) = some session.durationMs ∧
      (getOptional cells.firstResponseLatencyMs).map (·.map i64ToU64) = some session.firstResponseLatencyMs ∧
      cells.clientToUpstreamBytes.toI64.map Int.toNat = some session.clientToUpstreamBytes ∧
      cells.upstreamToClientBytes.toI64.map Int.toNat = some session.upstreamToClientBytes ∧
      cells.clientToUpstreamDatagrams.toI64.map Int.toNat = some session.clientToUpstreamDatagrams ∧
      cells.upstreamToClientDatagrams.toI64.map Int.toNat = some session.upstreamToClientDatagrams := by
  have plain (value : Nat) : (number value).toI64 = some (value : Int) := rfl
  simp only [rowToTrafficSession,encode,plain,getOptional_number,Option.bind_eq_bind,Option.bind_some,
    Option.bind_eq_some_iff,Option.pure_def,Option.some.injEq,Option.map_eq_some_iff]
  cases session
  simp only [TrafficSession.mk.injEq,map_i64ToU64,i64ToU64,Int.toNat_natCast,true_and,and_true]
  constructor
  · intro ⟨port,portCell,duration,durationCell,up,upCell,down,downCell,upCount,upCountCell,downCount,
      downCountCell,latency,latencyCell,samePort,sameDuration,sameUp,sameDown,sameUpCount,sameDownCount,
      sameLatency⟩
    exact ⟨⟨port,portCell,samePort⟩,⟨duration,durationCell,sameDuration⟩,⟨latency,latencyCell,sameLatency⟩,
      ⟨up,upCell,sameUp⟩,⟨down,downCell,sameDown⟩,⟨upCount,upCountCell,sameUpCount⟩,
      ⟨downCount,downCountCell,sameDownCount⟩⟩
  · intro ⟨⟨port,portCell,samePort⟩,⟨duration,durationCell,sameDuration⟩,⟨latency,latencyCell,sameLatency⟩,
      ⟨up,upCell,sameUp⟩,⟨down,downCell,sameDown⟩,⟨upCount,upCountCell,sameUpCount⟩,
      ⟨downCount,downCountCell,sameDownCount⟩⟩
    exact ⟨port,portCell,duration,durationCell,up,upCell,down,downCell,upCount,upCountCell,downCount,
      downCountCell,latency,latencyCell,samePort,sameDuration,sameUp,sameDown,sameUpCount,sameDownCount,
      sameLatency⟩

end Dynet.Persistence
