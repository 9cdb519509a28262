import Dynet.Vless.FuzzyTlsDeframer
import Dynet.Vless.SlideBuffer
import Dynet.Vless.VisionFilter
import Dynet.Vless.VisionPad

/-! The write side of a Vision stream. Application data go through the TLS session in
padded blocks until the filter knows what they are, then through the session as they are
or around it. What the session, TCP and the random generator do is given for each call. -/
namespace Dynet.Vless

inductive VisionMode where
  | paddingTls
  | tls
  | direct
  deriving DecidableEq, Repr

def VisionMode.display : VisionMode → String
  | .paddingTls => "PaddingTls"
  | .tls => "Tls"
  | .direct => "Direct"

/-- What a drain of the waiting writes comes to: they are all out, or TCP blocks when the
session has taken some more of the waiting plaintext. -/
inductive Drain where
  | done
  | blocked (moved : Nat)
  deriving DecidableEq, Repr

/-- The making of one padded packet: its random padding, the bytes the session has room
for, and the drain behind it. -/
structure Packet where
  draw : Nat
  filler : Nat → UInt8
  room : Nat
  drain : Drain

/-- Everything outside the stream that one call meets. A round of `poll_write_tls` says
how much the session takes and whether TCP then blocks; `direct` is TCP's own answer. -/
structure Surroundings where
  response : Nat
  entry : Drain
  packets : Nat → Packet
  tls : List (Nat × Bool)
  direct : Option Nat

def Drain.isDone : Drain → Bool
  | .done => true
  | .blocked _ => false

inductive Reply where
  | pending
  | ready (count : Nat)
  | failed (e : IoError)
  deriving DecidableEq, Repr

/-- `session` is the plaintext the TLS session has taken, `tcp` what went around it. -/
structure VisionStream where
  session : Bytes
  tcp : Bytes
  readMode : VisionMode
  writeMode : VisionMode
  innerWriteDeframer : FuzzyTlsDeframer
  writeFirstPacket : Bool
  userUuid : Uuid
  filter : VisionFilter
  vlessResponseToSend : Bool
  pendingDirectModeSwitch : Bool
  pendingTlsModeSwitch : Bool
  pendingPlainWrites : Bytes

namespace VisionFilter

-- ApplicationData of a known TLS connection.
def isAppData (filter : VisionFilter) (record : Bytes) : Bool :=
  filter.isTls && match record with
    | 0x17::3::_::_ => true
    | _ => false

def endsPadding (filter : VisionFilter) (record : Bytes) : Bool :=
  filter.isAppData record || (!filter.isFiltering && !filter.isTls12OrAbove)

end VisionFilter

namespace VisionStream

def newCommon (userUuid : Uuid) (vlessResponseToSend : Bool) : VisionStream where
  session := []
  tcp := []
  readMode := .paddingTls
  writeMode := .paddingTls
  innerWriteDeframer := .new
  writeFirstPacket := true
  userUuid := userUuid
  filter := .new
  vlessResponseToSend := vlessResponseToSend
  pendingDirectModeSwitch := false
  pendingTlsModeSwitch := false
  pendingPlainWrites := []

def newClient (userUuid : Uuid) : VisionStream := newCommon userUuid false

def writeToSession (stream : VisionStream) (data : Bytes) (room : Nat) : VisionStream :=
  if stream.pendingPlainWrites = [] then
    {stream with session := stream.session ++ data.take room,pendingPlainWrites := data.drop room}
  else {stream with pendingPlainWrites := stream.pendingPlainWrites ++ data}

def drainAllWritesPadding (stream : VisionStream) : Drain → Bool × VisionStream
  | .done => (true,{stream with session := stream.session ++ stream.pendingPlainWrites,pendingPlainWrites := []})
  | .blocked moved => (false,{stream with
      session := stream.session ++ stream.pendingPlainWrites.take moved
      pendingPlainWrites := stream.pendingPlainWrites.drop moved})

def postPaddingCleanup (stream : VisionStream) : VisionStream :=
  if stream.readMode = .paddingTls ∨ stream.writeMode = .paddingTls then stream
  else {stream with innerWriteDeframer := stream.innerWriteDeframer.deallocate,pendingPlainWrites := []}

def calledFrom (name : String) (mode : VisionMode) : IoError := ⟨.other,s!"{name} called from mode {mode.display}"⟩

def switchRead (name : String) (mode : VisionMode) (stream : VisionStream) : Except IoError VisionStream :=
  if stream.readMode ≠ .paddingTls then .error (calledFrom name stream.readMode)
  else .ok ({stream with readMode := mode} : VisionStream).postPaddingCleanup

def switchWrite (name : String) (mode : VisionMode) (stream : VisionStream) : Except IoError VisionStream :=
  if stream.writeMode ≠ .paddingTls then .error (calledFrom name stream.writeMode)
  else .ok ({stream with writeMode := mode} : VisionStream).postPaddingCleanup

def switchReadToDirectMode := switchRead "switch_read_to_direct_mode" .direct
def switchReadToTlsMode := switchRead "switch_read_to_tls_mode" .tls
def switchWriteToDirectMode := switchWrite "switch_write_to_direct_mode" .direct
def switchWriteToTlsMode := switchWrite "switch_write_to_tls_mode" .tls

-- TCP's own `poll_write`, which reports no more than it was given.
def writeDirect (stream : VisionStream) (answer : Option Nat) (buf : Bytes) : Reply × VisionStream :=
  match answer with
  | some count => (.ready (min count buf.length),{stream with tcp := stream.tcp ++ buf.take count})
  | none => (.pending,stream)

-- TCP blocks when no further round is given.
def tlsRounds (buf : Bytes) : List (Nat × Bool) → Nat → VisionStream → Reply × VisionStream
  | [], pos, stream =>
    if pos < buf.length ∧ pos = 0 then (.pending,stream) else (.ready pos,stream)
  | (room,wouldBlock)::rounds, pos, stream =>
    if pos < buf.length then
      let taken := (buf.drop pos).take room
      let stream := {stream with session := stream.session ++ taken}
      if wouldBlock then (if pos + taken.length = 0 then .pending else .ready (pos + taken.length),stream)
      else tlsRounds buf rounds (pos + taken.length) stream
    else (.ready pos,stream)

def pollWriteTls (stream : VisionStream) (rounds : List (Nat × Bool)) (buf : Bytes) : Reply × VisionStream :=
  tlsRounds buf rounds 0 stream

-- Only the first packet carries the user id.
def padPacket (first : Bool) (uuid : Uuid) (data : Bytes) (command : UnpadCommand) (isTls : Bool) (packet : Packet) :
    Bytes :=
  if first then padWithUuidAndCommand data uuid command isTls packet.draw packet.filler
  else padWithCommand data command isTls packet.draw packet.filler

def writePacket (stream : VisionStream) (data : Bytes) (command : UnpadCommand) (isTls : Bool) (packet : Packet) :
    VisionStream :=
  let padded := padPacket stream.writeFirstPacket stream.userUuid data command isTls packet
  ({stream with writeFirstPacket := false} : VisionStream).writeToSession padded packet.room

def clearInner (stream : VisionStream) : VisionStream :=
  {stream with innerWriteDeframer := stream.innerWriteDeframer.clear}

/-- One round of the loop over the inner records: another round, an answer, or a panic. -/
inductive Flow where
  | next (stream : VisionStream) (processedLen : Nat)
  | answer (reply : Reply) (stream : VisionStream)
  | panic (cause : Panic)

-- `processed_len - existing_inner_len` in unsigned arithmetic.
def report (stream : VisionStream) (processedLen existingInnerLen : Nat) : Flow :=
  if processedLen < existingInnerLen then .panic .underflow
  else .answer (.ready (processedLen - existingInnerLen)) stream

def requestSwitch (stream : VisionStream) : UnpadCommand × VisionStream :=
  if stream.filter.supportsXtls then (.direct,{stream with pendingDirectModeSwitch := true})
  else (.endBlock,{stream with pendingTlsModeSwitch := true})

def handleRecord (stream : VisionStream) (packet : Packet) (bufLen existingInnerLen processedLen : Nat)
    (record : Bytes) : Flow :=
  let processedLen := processedLen + record.length
  let stream := {stream with filter := stream.filter.filterRecord record}
  if stream.filter.endsPadding record then
    let (command,stream) := stream.requestSwitch
    let stream := stream.writePacket record command true packet
    if processedLen ≤ existingInnerLen then .panic .assertion
    else (stream.drainAllWritesPadding packet.drain).2.clearInner.report processedLen existingInnerLen
  else
    let stream := stream.writePacket record .continueBlock stream.filter.isTls packet
    match stream.drainAllWritesPadding packet.drain with
    | (true,stream) => .next stream processedLen
    | (false,stream) =>
      if processedLen < existingInnerLen ∨ bufLen < processedLen - existingInnerLen then .panic .underflow
      else if stream.innerWriteDeframer.pendingBytes ≠ bufLen - (processedLen - existingInnerLen) then .panic .assertion
      else stream.clearInner.report processedLen existingInnerLen

-- Backpressure does not stop the loop behind an unknown prefix.
def handlePrefix (stream : VisionStream) (packet : Packet) (existingInnerLen processedLen : Nat) (front : Bytes) : Flow :=
  let processedLen := processedLen + front.length
  let stream := {stream with filter := stream.filter.decrementFilterCount}
  if stream.filter.isFiltering then
    let stream := stream.writePacket front .continueBlock stream.filter.isTls packet
    .next (stream.drainAllWritesPadding packet.drain).2 processedLen
  else
    let stream := {stream with pendingTlsModeSwitch := true}
    let stream := stream.clearInner.writePacket front .endBlock stream.filter.isTls packet
    (stream.drainAllWritesPadding packet.drain).2.report processedLen existingInnerLen

-- Invalid data behind valid records go out in one packet.
def handleInvalid (stream : VisionStream) (packet : Packet) (bufLen : Nat) : Flow :=
  let stream := {stream with pendingTlsModeSwitch := true,filter := stream.filter.stopFiltering}
  let stream := stream.writePacket stream.innerWriteDeframer.remainingData .endBlock stream.filter.isTls packet
  .answer (.ready bufLen) (stream.drainAllWritesPadding packet.drain).2.clearInner

def writeRound (stream : VisionStream) (packet : Packet) (bufLen existingInnerLen processedLen : Nat) : Flow :=
  match stream.innerWriteDeframer.nextRecord with
  | (result,deframer) =>
    let stream := {stream with innerWriteDeframer := deframer}
    match result with
    | .ok (.tlsRecord record) => stream.handleRecord packet bufLen existingInnerLen processedLen record
    | .ok .needData => .answer (.ready bufLen) stream
    | .ok (.unknownPrefix front) => stream.handlePrefix packet existingInnerLen processedLen front
    | .error _ => stream.handleInvalid packet bufLen

-- Every round but the last takes a byte from the deframer, so the rounds do not run out.
def writeRounds (packets : Nat → Packet) (bufLen existingInnerLen : Nat) :
    Nat → Nat → VisionStream → Nat → Except Panic (Reply × VisionStream)
  | 0, _, _, _ => .error .unreachable
  | rounds+1, written, stream, processedLen =>
    match stream.writeRound (packets written) bufLen existingInnerLen processedLen with
    | .next stream processedLen => writeRounds packets bufLen existingInnerLen rounds (written+1) stream processedLen
    | .answer reply stream => .ok (reply,stream)
    | .panic cause => .error cause

def sendVlessResponse (stream : VisionStream) (room : Nat) : VisionStream :=
  if stream.vlessResponseToSend then {stream.writeToSession [0,0] room with vlessResponseToSend := false} else stream

def writePadded (stream : VisionStream) (surroundings : Surroundings) (buf : Bytes) : Except Panic (Reply × VisionStream) :=
  let existingInnerLen := stream.innerWriteDeframer.pendingBytes
  let stream := {stream with innerWriteDeframer := stream.innerWriteDeframer.feed buf}
  writeRounds surroundings.packets buf.length existingInnerLen (stream.innerWriteDeframer.pendingBytes + 1) 0 stream 0

-- What `poll_write_padding_tls` does once the earlier writes are out.
def writeDrained (stream : VisionStream) (surroundings : Surroundings) (buf : Bytes) :
    Except Panic (Reply × VisionStream) :=
  if stream.pendingDirectModeSwitch then
    let stream := {stream with pendingDirectModeSwitch := false}
    match stream.switchWriteToDirectMode with
    | .ok stream => .ok (stream.writeDirect surroundings.direct buf)
    | .error e => .ok (.failed e,stream)
  else if stream.pendingTlsModeSwitch then
    let stream := {stream with pendingTlsModeSwitch := false}
    match stream.switchWriteToTlsMode with
    | .ok stream => .ok (stream.pollWriteTls surroundings.tls buf)
    | .error e => .ok (.failed e,stream)
  else stream.writePadded surroundings buf

def pollWritePaddingTls (stream : VisionStream) (surroundings : Surroundings) (buf : Bytes) :
    Except Panic (Reply × VisionStream) :=
  match (stream.sendVlessResponse surroundings.response).drainAllWritesPadding surroundings.entry with
  | (false,stream) => .ok (.pending,stream)
  | (true,stream) => stream.writeDrained surroundings buf

def pollWrite (stream : VisionStream) (surroundings : Surroundings) (buf : Bytes) : Except Panic (Reply × VisionStream) :=
  match stream.writeMode with
  | .paddingTls => stream.pollWritePaddingTls surroundings buf
  | .tls => .ok (stream.pollWriteTls surroundings.tls buf)
  | .direct => .ok (stream.writeDirect surroundings.direct buf)

def pollFlush (stream : VisionStream) (drain : Drain) : VisionStream :=
  match stream.writeMode with
  | .paddingTls => (stream.drainAllWritesPadding drain).2
  | _ => stream

/-- What the read path does to the fields it shares with the write path: an inner record or
an unknown prefix goes through the filter, invalid data stop it, or a final block ends the
padding. -/
inductive ReadStep where
  | record (record : Bytes)
  | unknownPrefix
  | invalid
  | direct
  | endBlock
  deriving DecidableEq, Repr

def read (stream : VisionStream) : ReadStep → Except IoError VisionStream
  | .record record => .ok {stream with filter := stream.filter.filterRecord record}
  | .unknownPrefix => .ok {stream with filter := stream.filter.decrementFilterCount}
  | .invalid => .ok {stream with filter := stream.filter.stopFiltering}
  | .direct => stream.switchReadToDirectMode
  | .endBlock => stream.switchReadToTlsMode

end VisionStream

end Dynet.Vless
