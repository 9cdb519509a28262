import Dynet.Vless.VisionRead
import Dynet.Vless.VisionStream

/-! The whole read side of a VisionStream: the response of the server, the padded blocks
behind it, and the two modes a block may end the padding with. -/
namespace Dynet.Vless
open Reality RealityClientConnection TlsReader

-- The size of `tls_read_buffer`.
def tlsReadBufferSize : Nat := 8192

/-- The fields of a VisionStream that its reads use. -/
structure VisionReader extends TlsReader where
  readMode : VisionMode
  writeMode : VisionMode
  outerReadDeframer : Option TlsDeframer
  readUnpadder : VisionUnpadder
  innerReadDeframer : FuzzyTlsDeframer
  filter : VisionFilter
  vlessResponsePending : Bool
  partialVlessResponse : Bytes
  deriving DecidableEq

/-- A read with room for `size` bytes: the socket keeps what does not fit, and has nothing
to read once its answers are used up. -/
def readTcp (size : Nat) : List TcpRead → TcpRead × List TcpRead
  | [] => (.error wouldBlock,[])
  | .error e::tcp => (.error e,tcp)
  | .ok chunk::tcp =>
    if chunk.bytes.length ≤ size then (.ok chunk,tcp)
    else (.ok ⟨chunk.bytes.take size,by have := chunk.fits; rw [List.length_take]; omega⟩,
      .ok ⟨chunk.bytes.drop size,by have := chunk.fits; rw [List.length_drop]; omega⟩::tcp)

-- Every read takes a byte or an answer, which bounds the rounds of the loops over the socket.
def socketRounds (tcp : List TcpRead) : Nat := (received tcp).length + tcp.length

def TcpRead.poll : TcpRead → PollRead
  | .ok chunk => .ready (.ok chunk.bytes)
  | .error e => if e.kind = .wouldBlock then .pending else .ready (.error e)

inductive VlessResponse where
  | more
  | failed (e : IoError)
  | complete (remaining : Bytes)
  deriving DecidableEq

/-- The response header: a version that is zero, a length, and as many bytes. -/
def parseVlessResponse : Bytes → VlessResponse
  | version::addonLength::rest =>
    if version ≠ 0 then .failed (invalidData s!"Invalid VLESS response version: {version}")
    else if rest.length < addonLength.toNat then .more
    else .complete (rest.drop addonLength.toNat)
  | _ => .more

namespace VisionReader

abbrev Call (α : Type) := Except Panic (Except IoError α × VisionReader)

def newClient (session : RealityClientConnection) (userUuid : Bytes) : VisionReader where
  pendingRead := []
  session := session
  isReadEof := false
  readMode := .paddingTls
  writeMode := .paddingTls
  outerReadDeframer := some .new
  readUnpadder := .new userUuid
  innerReadDeframer := .new
  filter := .new
  vlessResponsePending := true
  partialVlessResponse := []

def postPaddingCleanup (stream : VisionReader) : VisionReader :=
  if stream.readMode = .paddingTls ∨ stream.writeMode = .paddingTls then stream
  else {stream with innerReadDeframer := stream.innerReadDeframer.deallocate}

def switchRead (name : String) (mode : VisionMode) (stream : VisionReader) : Call Unit :=
  if stream.readMode ≠ .paddingTls then .ok (.error (VisionStream.calledFrom name stream.readMode),stream)
  else .ok (.ok (),({stream with readMode := mode} : VisionReader).postPaddingCleanup)

def switchReadToDirectMode := switchRead "switch_read_to_direct_mode" .direct
def switchReadToTlsMode := switchRead "switch_read_to_tls_mode" .tls

-- The rounds over the inner records of one feed. Every round but the last takes a byte.
def filterRounds : Nat → VisionReader → Except IoError Unit × VisionReader
  | 0, stream => (.ok (),stream)
  | rounds+1, stream => match stream.innerReadDeframer.nextRecord with
    | (result,deframer) =>
      let stream := {stream with innerReadDeframer := deframer}
      match result with
      | .ok (.tlsRecord record) =>
        let stream := {stream with filter := stream.filter.filterRecord record}
        if stream.filter.isFiltering then filterRounds rounds stream else (.ok (),stream)
      | .ok (.unknownPrefix front) =>
        if front = [] then (.error ⟨.other,"FuzzyTlsDeframer returned empty prefix"⟩,stream)
        else filterRounds rounds {stream with filter := stream.filter.decrementFilterCount}
      | .ok .needData => (.ok (),stream)
      | .error _ => (.ok (),{stream with filter := stream.filter.stopFiltering})

def filterUnpadded (stream : VisionReader) (unpadded : Bytes) : Except IoError Unit × VisionReader :=
  if unpadded ≠ [] ∧ stream.filter.isFiltering then
    let stream := {stream with innerReadDeframer := stream.innerReadDeframer.feed unpadded}
    filterRounds (stream.innerReadDeframer.pendingBytes + 1) stream
  else (.ok (),stream)

section Reads
variable (crypto : Crypto)

def feedAndProcess (conn : RealityClientConnection) (data : Bytes) : Reality.Answer Nat :=
  match conn.feed data with
  | .error panic => .error panic
  | .ok (.error e,conn) => .ok (.error e,conn)
  | .ok (.ok (),conn) => match conn.processNewPackets crypto with
    | .error panic => .error panic
    | .ok (.error e,conn) => .ok (.error (invalidData e.message),conn)
    | .ok (.ok plaintextLen,conn) => .ok (.ok plaintextLen,conn)

-- `fill_buf` hands out all there is, so the loop over it takes one round, or none.
def takePlaintext (conn : RealityClientConnection) (plaintextLen : Nat) : Bytes × RealityClientConnection :=
  if plaintextLen = 0 then ([],conn)
  else (conn.plaintextReadBuf.bytes,
    {conn with plaintextReadBuf := conn.plaintextReadBuf.consume conn.plaintextReadBuf.len})

/-- A record on its own through the session, with the plaintext it brings. -/
def openRecord (conn : RealityClientConnection) (record : Bytes) : Reality.Answer Bytes :=
  match feedAndProcess crypto conn record with
  | .error panic => .error panic
  | .ok (.error e,conn) => .ok (.error e,conn)
  | .ok (.ok plaintextLen,conn) =>
    let (plaintext,conn) := takePlaintext (if plaintextLen = 0 then conn else reader conn) plaintextLen
    .ok (.ok plaintext,conn)

-- The records that are whole when the padding ends are opened at once.
def endRecords : Nat → TlsDeframer → VisionReader → Except Panic (Except IoError TlsDeframer × VisionReader)
  | 0, deframer, stream => .ok (.ok deframer,stream)
  | rounds+1, deframer, stream => match deframer.nextRecord with
    | (.error e,_) => .ok (.error e,stream)
    | (.ok none,deframer) => .ok (.ok deframer,stream)
    | (.ok (some record),deframer) => match openRecord crypto stream.session record with
      | .error panic => .error panic
      | .ok (.error e,session) => .ok (.error e,{stream with session := session})
      | .ok (.ok plaintext,session) =>
        endRecords rounds deframer {stream with session := session,pendingRead := stream.pendingRead ++ plaintext}

-- The part of a record behind them goes to the session, which must not open anything with it.
def endPadding (stream : VisionReader) (deframer : TlsDeframer) : Call Unit :=
  match endRecords crypto (deframer.pendingBytes + 1) deframer stream with
  | .error panic => .error panic
  | .ok (.error e,stream) => .ok (.error e,stream)
  | .ok (.ok deframer,stream) =>
    if deframer.remainingData = [] then stream.switchReadToTlsMode
    else match feedAndProcess crypto stream.session deframer.remainingData with
      | .error panic => .error panic
      | .ok (.error e,session) => .ok (.error e,{stream with session := session})
      | .ok (.ok plaintextLen,session) =>
        if plaintextLen ≠ 0 then .error .assertion
        else ({stream with session := session} : VisionReader).switchReadToTlsMode

-- A final block takes the deframer away: `expect` panics if it is gone.
def finishBlock (stream : VisionReader) (unpadded : Bytes) : Option UnpadCommand → Call Unit
  | some .direct => match stream.outerReadDeframer with
    | none => .error .unreachable
    | some deframer => switchReadToDirectMode {stream with
        outerReadDeframer := none
        pendingRead := stream.pendingRead ++ (unpadded ++ deframer.remainingData)}
  | some .endBlock => match stream.outerReadDeframer with
    | none => .error .unreachable
    | some deframer =>
      endPadding crypto {stream with outerReadDeframer := none,pendingRead := stream.pendingRead ++ unpadded} deframer
  | _ => .ok (.ok (),{stream with pendingRead := stream.pendingRead ++ unpadded})

def handlePaddedBytes (stream : VisionReader) (decrypted : Bytes) : Call Unit :=
  match stream.readUnpadder.unpad decrypted with
  | (.error e,unpadder) => .ok (.error e,{stream with readUnpadder := unpadder})
  | (.ok result,unpadder) =>
    match ({stream with readUnpadder := unpadder} : VisionReader).filterUnpadded result.content with
    | (.error e,stream) => .ok (.error e,stream)
    | (.ok (),stream) => finishBlock crypto stream result.content result.command

def readDirect (stream : VisionReader) (size : Nat) (tcp : List TcpRead) : PollRead × VisionReader × List TcpRead :=
  let (answer,tcp) := readTcp size tcp
  (answer.poll,stream,tcp)

def readTlsMode (stream : VisionReader) (size : Nat) (tcp : List TcpRead) :
    Except Panic (PollRead × VisionReader × List TcpRead) :=
  (stream.toTlsReader.pollReadTls crypto size tcp).map fun (result,tls,tcp) => (result,{stream with toTlsReader := tls},tcp)

def servePending (stream : VisionReader) (size : Nat) : PollRead × VisionReader :=
  (.ready (.ok (stream.pendingRead.take size)),{stream with pendingRead := stream.pendingRead.drop size})

-- The records of one read, each on its own, until the padding ends.
def padRecords : Nat → VisionReader → Call Unit
  | 0, stream => .ok (.ok (),stream)
  | rounds+1, stream => match stream.outerReadDeframer with
    | none => .error .unreachable
    | some deframer => match deframer.nextRecord with
      | (result,deframer) =>
        let stream := {stream with outerReadDeframer := some deframer}
        match result with
        | .error e => .ok (.error e,stream)
        | .ok none => .ok (.ok (),stream)
        | .ok (some record) => match openRecord crypto stream.session record with
          | .error panic => .error panic
          | .ok (.error e,session) => .ok (.error e,{stream with session := session})
          | .ok (.ok plaintext,session) =>
            let stream := {stream with session := session}
            if plaintext = [] then padRecords rounds stream
            else match handlePaddedBytes crypto stream plaintext with
              | .error panic => .error panic
              | .ok (.error e,stream) => .ok (.error e,stream)
              | .ok (.ok (),stream) => if stream.readMode = .paddingTls then padRecords rounds stream else .ok
                (.ok (),stream)

-- `feed` on the deframer, which the padding cannot do without.
def feedOuter (stream : VisionReader) (data : Bytes) : Except Panic (Nat × VisionReader) :=
  match stream.outerReadDeframer with
  | none => .error .unreachable
  | some deframer =>
    let deframer := deframer.feed data
    .ok (deframer.pendingBytes + 1,{stream with outerReadDeframer := some deframer})

-- What a read answers once there may be something to deliver: nothing while the padding goes on.
def afterPadding (stream : VisionReader) (size : Nat) (tcp : List TcpRead) :
    Except Panic (Option (PollRead × VisionReader × List TcpRead)) :=
  if stream.pendingRead ≠ [] then
    let (result,stream) := stream.servePending size
    .ok (some (result,stream,tcp))
  else match stream.readMode with
    | .paddingTls => .ok none
    | .tls => (readTlsMode crypto stream size tcp).map some
    | .direct => .ok (some (stream.readDirect size tcp))

def paddingRounds (size : Nat) : Nat → VisionReader → List TcpRead → Except Panic (PollRead × VisionReader × List TcpRead)
  | 0, stream, tcp => .ok (.pending,stream,tcp)
  | rounds+1, stream, tcp => match readTcp tlsReadBufferSize tcp with
    | (.error e,tcp) => .ok (TcpRead.poll (.error e),stream,tcp)
    | (.ok chunk,tcp) =>
      if chunk.bytes = [] then .ok (.ready (.ok []),{stream with isReadEof := true},tcp)
      else match stream.feedOuter chunk.bytes with
        | .error panic => .error panic
        | .ok (pending,stream) => match padRecords crypto pending stream with
          | .error panic => .error panic
          | .ok (.error e,stream) => .ok (.ready (.error e),stream,tcp)
          | .ok (.ok (),stream) => match afterPadding crypto stream size tcp with
            | .error panic => .error panic
            | .ok (some answer) => .ok answer
            | .ok none => paddingRounds size rounds stream tcp

def pollReadPaddingTls (stream : VisionReader) (size : Nat) (tcp : List TcpRead) :
    Except Panic (PollRead × VisionReader × List TcpRead) :=
  if stream.isReadEof then .ok (.ready (.ok []),stream,tcp)
  else paddingRounds crypto size (socketRounds tcp + 1) stream tcp

/-! The response. -/

def responseRecords : List Bytes → VisionReader → Call Unit
  | [], stream => .ok (.ok (),stream)
  | record::records, stream => match feedAndProcess crypto stream.session record with
    | .error panic => .error panic
    | .ok (.error e,session) => .ok (.error e,{stream with session := session})
    | .ok (.ok plaintextLen,session) =>
      let (plaintext,session) := takePlaintext (reader session) plaintextLen
      responseRecords records {stream with
        session := session
        partialVlessResponse := stream.partialVlessResponse ++ plaintext}

/-- `next_records` takes all the records that are whole, or fails. -/
def nextRecords (deframer : TlsDeframer) : Except IoError (List Bytes) × TlsDeframer :=
  let pulled := pull TlsDeframer.nextRecord (deframer.pendingBytes + 1) deframer
  (match pulled.error with
    | some e => .error e
    | none => .ok pulled.items,pulled.deframer)

/-- The data behind the response, or `none` when there is nothing to read yet. -/
def responseRounds : Nat → VisionReader → List TcpRead →
    Except Panic (Option (Except IoError Bytes) × VisionReader × List TcpRead)
  | 0, stream, tcp => .ok (none,stream,tcp)
  | rounds+1, stream, tcp => match readTcp tlsReadBufferSize tcp with
    | (.error e,tcp) => .ok (if e.kind = .wouldBlock then none else some (.error e),stream,tcp)
    | (.ok chunk,tcp) =>
      if chunk.bytes = [] then
        .ok (some (.error ⟨.unexpectedEof,"Connection closed while reading VLESS response"⟩),stream,tcp)
      else match stream.outerReadDeframer with
        | none => .error .unreachable
        | some deframer => match nextRecords (deframer.feed chunk.bytes) with
          | (result,deframer) =>
            let stream := {stream with outerReadDeframer := some deframer}
            match result with
            | .error e => .ok (some (.error e),stream,tcp)
            | .ok records => match responseRecords crypto records stream with
              | .error panic => .error panic
              | .ok (.error e,stream) => .ok (some (.error e),stream,tcp)
              | .ok (.ok (),stream) => match parseVlessResponse stream.partialVlessResponse with
                | .more => responseRounds rounds stream tcp
                | .failed e => .ok (some (.error e),stream,tcp)
                | .complete remaining => .ok (some (.ok remaining),{stream with partialVlessResponse := []},tcp)

def pollReadVlessResponse (stream : VisionReader) (tcp : List TcpRead) :
    Except Panic (Option (Except IoError Bytes) × VisionReader × List TcpRead) :=
  responseRounds crypto (socketRounds tcp + 1) stream tcp

-- The data behind the response go to the unpadder at once.
def readBehindResponse (stream : VisionReader) (remaining : Bytes) (size : Nat) (tcp : List TcpRead) :
    Except Panic (PollRead × VisionReader × List TcpRead) :=
  let stream := {stream with vlessResponsePending := false}
  if remaining = [] then pollReadPaddingTls crypto stream size tcp
  else match handlePaddedBytes crypto stream remaining with
    | .error panic => .error panic
    | .ok (.error e,stream) => .ok (.ready (.error e),stream,tcp)
    | .ok (.ok (),stream) => match afterPadding crypto stream size tcp with
      | .error panic => .error panic
      | .ok (some answer) => .ok answer
      | .ok none => pollReadPaddingTls crypto stream size tcp

def pollRead (stream : VisionReader) (size : Nat) (tcp : List TcpRead) :
    Except Panic (PollRead × VisionReader × List TcpRead) :=
  if stream.pendingRead ≠ [] then
    let (result,stream) := stream.servePending size
    .ok (result,stream,tcp)
  else match stream.readMode with
    | .paddingTls =>
      if stream.vlessResponsePending then
        match pollReadVlessResponse crypto stream tcp with
        | .error panic => .error panic
        | .ok (none,stream,tcp) => .ok (.pending,stream,tcp)
        | .ok (some (.error e),stream,tcp) => .ok (.ready (.error e),stream,tcp)
        | .ok (some (.ok remaining),stream,tcp) => readBehindResponse crypto stream remaining size tcp
      else pollReadPaddingTls crypto stream size tcp
    | .tls => readTlsMode crypto stream size tcp
    | .direct => .ok (stream.readDirect size tcp)

/-- Reads with room for the given numbers of bytes, one after the other. -/
def pollAll (stream : VisionReader) (tcp : List TcpRead) : List Nat → Except Panic
    (List PollRead × VisionReader × List TcpRead)
  | [] => .ok ([],stream,tcp)
  | size::sizes => match pollRead crypto stream size tcp with
    | .error panic => .error panic
    | .ok (result,stream,tcp) => (pollAll stream tcp sizes).map fun (results,rest) => (result::results,rest)

end Reads

end VisionReader

end Dynet.Vless
