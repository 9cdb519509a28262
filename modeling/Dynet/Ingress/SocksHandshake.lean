import Dynet.Ingress.SocksProtocol
import Dynet.Lib.Dialogue

/-! The handshake of a SOCKS5 client: which bytes it accepts, what it answers, and what it
leaves for the relay. -/
namespace Dynet.Ingress.Socks
open Dynet.Lib Dynet.Lib.Utf8 Dynet.Runtime
open Dialogue (Move arrived Names exactly send fail Ends)
open Dynet.Shadowsocks (beBytes fromBe beBytes_length)

def socksVersion : UInt8 := 5
def socksNoAuth : UInt8 := 0
def socksNoAcceptableMethods : UInt8 := 0xff
def socksCmdConnect : UInt8 := 1
def socksCmdBind : UInt8 := 2
def socksCmdUdpAssociate : UInt8 := 3
def socksReplySucceeded : UInt8 := 0
def socksReplyCommandNotSupported : UInt8 := 7

structure SocksRequest where
  command : UInt8
  destination : SocksDestination
  deriving DecidableEq, Repr

/-- `SocksError::with_source`. -/
def withSource (stage message error : String) : SocksError := ⟨stage,message ++ ": " ++ error⟩

def readFailure (stage message : String) (how : Break) : SocksError := withSource stage message how.text

def negotiateNoAuth : Dialogue SocksError Unit := do
  let header ← exactly 2 (readFailure "socks-handshake" "failed reading greeting")
  if header.getD 0 0 ≠ socksVersion then fail ⟨"socks-handshake","unsupported SOCKS version"⟩
  else
    let methods ← exactly (header.getD 1 0).toNat (readFailure "socks-handshake" "failed reading methods")
    let method := if socksNoAuth ∈ methods then socksNoAuth else socksNoAcceptableMethods
    send [socksVersion,method] (withSource "socks-handshake" "failed writing method selection")
    if method = socksNoAcceptableMethods then fail ⟨"socks-handshake","SOCKS5 no-auth method is not offered"⟩ else pure ()

def readPort : Dialogue SocksError UInt16 := do
  let port ← exactly 2 (readFailure "socks-request" "failed reading target port")
  pure (.ofNat (fromBe port))

def readIpv4Destination : Dialogue SocksError SocksDestination := do
  let address ← exactly 4 (readFailure "socks-request" "failed reading IPv4 target")
  let port ← readPort
  pure (.socket (.v4 (.ofNat 32 (fromBe address)) port))

def readIpv6Destination : Dialogue SocksError SocksDestination := do
  let address ← exactly 16 (readFailure "socks-request" "failed reading IPv6 target")
  let port ← readPort
  pure (.socket (.v6 (.ofNat 128 (fromBe address)) port 0 0))

def readDomainDestination : Dialogue SocksError SocksDestination := do
  let length ← exactly 1 (readFailure "socks-request" "failed reading domain length")
  let bytes ← exactly (length.getD 0 0).toNat (readFailure "socks-request" "failed reading domain target")
  match fromUtf8 bytes with
  | none => fail ⟨"socks-request",s!"domain target is not UTF-8: {utf8Error bytes}"⟩
  | some domain => do
    let port ← readPort
    pure (.domain domain port)

def readDestination (atyp : UInt8) : Dialogue SocksError SocksDestination :=
  if atyp = socksAtypIpv4 then readIpv4Destination
  else if atyp = socksAtypIpv6 then readIpv6Destination
  else if atyp = socksAtypDomain then readDomainDestination
  else fail ⟨"socks-request","unsupported SOCKS5 address type"⟩

def readRequest : Dialogue SocksError SocksRequest := do
  let header ← exactly 4 (readFailure "socks-request" "failed reading request header")
  if header.getD 0 0 ≠ socksVersion then fail ⟨"socks-request","unsupported SOCKS version"⟩
  else if header.getD 2 0 ≠ 0 then fail ⟨"socks-request","SOCKS5 reserved byte must be zero"⟩
  else
    let destination ← readDestination (header.getD 3 0)
    pure ⟨header.getD 1 0,destination⟩

def replyBytes (reply : UInt8) (bind : SocketAddr) : Bytes := [socksVersion,reply,0] ++ addressBytes bind

def writeReply (reply : UInt8) (bind : SocketAddr) : Dialogue SocksError Unit :=
  send (replyBytes reply bind) (withSource "socks-reply" "failed writing SOCKS5 reply")

def unspecified : SocketAddr := .v4 0 0

/-- What a session does once its handshake is through. -/
inductive Served (α β : Type) where
  | connect (destination : SocksDestination) (session : α)
  | associate (association : β)
  deriving DecidableEq, Repr

section Client
variable {α β : Type} (connect : SocksDestination → Except SocksError α) (associate : Except SocksError (SocketAddr × β))
  (udpAdvertiseIp : Option IpAddr)

/-- `handle_connect` up to the relay; `connect` resolves the destination and selects. -/
def handleConnect (request : SocksRequest) : Dialogue SocksError (Served α β) :=
  match connect request.destination with
  | .error e => fail e
  | .ok session => do
    writeReply socksReplySucceeded unspecified
    pure (.connect request.destination session)

def advertisedBind (bind : SocketAddr) : SocketAddr := .new (udpAdvertiseIp.getD bind.ip) bind.port

/-- `handle_udp_associate` up to its loop; `associate` binds the socket. -/
def handleUdpAssociate : Dialogue SocksError (Served α β) :=
  match associate with
  | .error e => fail e
  | .ok (bind,association) => do
    writeReply socksReplySucceeded (advertisedBind udpAdvertiseIp bind)
    pure (.associate association)

def refuseCommand (message : String) : Dialogue SocksError (Served α β) := do
  writeReply socksReplyCommandNotSupported unspecified
  fail ⟨"socks-request",message⟩

def handleClient : Dialogue SocksError (Served α β) := do
  negotiateNoAuth
  let request ← readRequest
  if request.command = socksCmdConnect then handleConnect connect request
  else if request.command = socksCmdUdpAssociate then handleUdpAssociate associate udpAdvertiseIp
  else if request.command = socksCmdBind then refuseCommand "SOCKS5 BIND is not supported"
  else refuseCommand "SOCKS5 command is not supported"

end Client

/-! What a client may send. -/

/-- A greeting that offers methods. -/
def greetingBytes (methods : Bytes) : Bytes := [socksVersion,UInt8.ofNat methods.length] ++ methods

def requestBytes (request : SocksRequest) : Bytes :=
  [socksVersion,request.command,0] ++ destinationBytes request.destination

section Reads
variable {input rest written : Bytes}

theorem negotiate_iff {value : Unit} : negotiateNoAuth.Ends input (.ok value) rest written ↔
    ∃ methods : Bytes, methods.length < 256 ∧ socksNoAuth ∈ methods ∧ input = greetingBytes methods ++ rest ∧
      written = [socksVersion,socksNoAuth] := by
  simp only [negotiateNoAuth,Dialogue.exactly_bind,Ends.read_iff]
  constructor
  · rintro ⟨header,later,sized,rfl,ends⟩
    obtain ⟨version,count,rfl⟩ := List.length_eq_two.mp sized
    split at ends
    · cases ends
    · rename_i known
      have known : version = socksVersion := not_not.mp known
      obtain ⟨methods,later,sized,rfl,sends⟩ := Ends.read_iff.mp ends
      rw [Dialogue.send_bind,Ends.write_iff] at sends
      obtain ⟨more,rfl,finishes⟩ := sends
      have sized : methods.length = count.toNat := sized
      by_cases offered : socksNoAuth ∈ methods
      · rw [if_pos offered,if_neg (by decide)] at finishes
        obtain ⟨-,rfl,rfl⟩ := Ends.done_iff.mp finishes
        refine ⟨methods,sized ▸ count.toNat_lt,offered,?_,?_⟩
        · rw [greetingBytes,sized,UInt8.ofNat_toNat,known,List.append_assoc]
        · rw [if_pos offered]
          rfl
      · rw [if_neg offered,if_pos rfl] at finishes
        cases finishes
  · rintro ⟨methods,short,offered,rfl,rfl⟩
    refine ⟨[socksVersion,UInt8.ofNat methods.length],methods ++ rest,rfl,by simp [greetingBytes],?_⟩
    rw [if_neg (by simp)]
    refine Ends.read_iff.mpr ⟨methods,rest,?_,rfl,Ends.write_iff.mpr ⟨[],?_,?_⟩⟩
    · simp [Nat.mod_eq_of_lt short]
    · simp [offered]
    · rw [if_pos offered,if_neg (by decide)]
      exact Ends.done_iff.mpr ⟨rfl,rfl,rfl⟩

theorem readPort_iff {port : UInt16} : readPort.Ends input (.ok port) rest written ↔
    input = beBytes 2 port.toNat ++ rest ∧ written = [] := by
  simp only [readPort,Dialogue.exactly_bind,Ends.read_iff]
  constructor
  · rintro ⟨bytes,later,sized,rfl,ends⟩
    obtain ⟨same,rfl,rfl⟩ := Ends.done_iff.mp ends
    cases same
    obtain ⟨high,low,rfl⟩ := List.length_eq_two.mp sized
    exact ⟨by rw [port_bytes],rfl⟩
  · rintro ⟨rfl,rfl⟩
    exact ⟨_,rest,beBytes_length _ _,rfl,Ends.done_iff.mpr ⟨by rw [port_value],rfl,rfl⟩⟩

/-- An address of a fixed width in front of its port. -/
theorem fixed_iff {width bits : Nat} (power : 256 ^ width = 2 ^ bits) {broken : Break → SocksError}
    {wrap : BitVec bits → UInt16 → SocksDestination} {destination : SocksDestination} :
    (exactly width broken >>= fun address => readPort >>= fun port =>
      (pure (wrap (.ofNat bits (fromBe address)) port) : Dialogue SocksError SocksDestination)).Ends input (.ok destination) rest written ↔
    ∃ address port, destination = wrap address port ∧
      input = beBytes width address.toNat ++ beBytes 2 port.toNat ++ rest ∧ written = [] := by
  simp only [Dialogue.exactly_bind,Ends.read_iff,Ends.bind_iff,readPort_iff]
  constructor
  · rintro ⟨bytes,later,sized,rfl,port,middle,first,second,⟨rfl,rfl⟩,ends,rfl⟩
    obtain ⟨same,rfl,rfl⟩ := Ends.done_iff.mp ends
    cases same
    refine ⟨_,port,rfl,?_,rfl⟩
    rw [address_bytes width bits power bytes sized,List.append_assoc]
  · rintro ⟨address,port,rfl,rfl,rfl⟩
    refine ⟨_,_,beBytes_length _ _,List.append_assoc _ _ _,port,rest,[],[],⟨rfl,rfl⟩,Ends.done_iff.mpr ⟨?_,rfl,rfl⟩,rfl⟩
    rw [address_value width power]

theorem readDomain_iff {destination : SocksDestination} : readDomainDestination.Ends input (.ok destination) rest written ↔
    ∃ domain port, destination = .domain domain port ∧ (asBytes domain).length < 256 ∧
      input = UInt8.ofNat (asBytes domain).length::(asBytes domain ++ beBytes 2 port.toNat) ++ rest ∧ written = [] := by
  simp only [readDomainDestination,Dialogue.exactly_bind,Ends.read_iff]
  constructor
  · rintro ⟨header,later,sized,rfl,bytes,later,filled,rfl,ends⟩
    obtain ⟨count,rfl⟩ := List.length_eq_one_iff.mp sized
    have filled : bytes.length = count.toNat := filled
    cases decoded : fromUtf8 bytes with
    | none =>
      rw [decoded] at ends
      cases ends
    | some domain =>
      rw [decoded] at ends
      simp only [Ends.bind_iff,readPort_iff] at ends
      obtain ⟨port,middle,first,second,⟨rfl,rfl⟩,ends,rfl⟩ := ends
      obtain ⟨same,rfl,rfl⟩ := Ends.done_iff.mp ends
      cases same
      have bytesOf := (fromUtf8_eq_some_iff bytes domain).mp decoded
      subst bytesOf
      refine ⟨domain,port,rfl,filled ▸ count.toNat_lt,?_,rfl⟩
      rw [filled,UInt8.ofNat_toNat]
      simp
  · rintro ⟨domain,port,rfl,short,rfl,rfl⟩
    refine ⟨[UInt8.ofNat (asBytes domain).length],asBytes domain ++ (beBytes 2 port.toNat ++ rest),rfl,by simp,
      asBytes domain,_,?_,rfl,?_⟩
    · simp [Nat.mod_eq_of_lt short]
    · rw [(fromUtf8_eq_some_iff _ domain).mpr rfl]
      simp only [Ends.bind_iff,readPort_iff]
      exact ⟨port,rest,[],[],⟨rfl,rfl⟩,Ends.done_iff.mpr ⟨rfl,rfl,rfl⟩,rfl⟩

theorem readDestination_iff {atyp : UInt8} {destination : SocksDestination} :
    (readDestination atyp).Ends input (.ok destination) rest written ↔
      Expressible destination ∧ atyp::input = destinationBytes destination ++ rest ∧ written = [] := by
  have ipv4 := @fixed_iff input rest written 4 32 rfl (readFailure "socks-request" "failed reading IPv4 target")
    (fun address port => .socket (.v4 address port)) destination
  have ipv6 := @fixed_iff input rest written 16 128 rfl (readFailure "socks-request" "failed reading IPv6 target")
    (fun address port => .socket (.v6 address port 0 0)) destination
  unfold readDestination readIpv4Destination readIpv6Destination
  constructor
  · split
    · rename_i four
      rw [ipv4]
      rintro ⟨address,port,rfl,rfl,rfl⟩
      exact ⟨trivial,by simp [four,destinationBytes,addressBytes,socksAtypIpv4],rfl⟩
    split
    · rename_i six
      rw [ipv6]
      rintro ⟨address,port,shape,whole,wrote⟩
      rw [shape,whole]
      exact ⟨⟨rfl,rfl⟩,by simp [six,destinationBytes,addressBytes,socksAtypIpv6],wrote⟩
    split
    · rename_i named
      rw [readDomain_iff]
      rintro ⟨domain,port,rfl,short,rfl,rfl⟩
      exact ⟨short,by simp [named,destinationBytes,socksAtypDomain],rfl⟩
    · intro ends
      cases ends
  · rintro ⟨fits,bytes,wrote⟩
    cases destination with
    | socket address =>
      cases address with
      | v4 address port =>
        simp only [destinationBytes,addressBytes,List.cons_append,List.cons.injEq] at bytes
        rw [bytes.1,if_pos (by decide)]
        exact ipv4.mpr ⟨address,port,rfl,bytes.2,wrote⟩
      | v6 address port flowinfo scopeId =>
        obtain ⟨rfl,rfl⟩ := fits
        simp only [destinationBytes,addressBytes,List.cons_append,List.cons.injEq] at bytes
        rw [bytes.1,if_neg (by decide),if_pos (by decide)]
        exact ipv6.mpr ⟨address,port,rfl,bytes.2,wrote⟩
    | domain domain port =>
      simp only [destinationBytes,List.cons_append,List.cons.injEq] at bytes
      rw [bytes.1,if_neg (by decide),if_neg (by decide),if_pos (by decide)]
      exact readDomain_iff.mpr ⟨domain,port,rfl,fits,bytes.2,wrote⟩

theorem readRequest_iff {request : SocksRequest} : readRequest.Ends input (.ok request) rest written ↔
    Expressible request.destination ∧ input = requestBytes request ++ rest ∧ written = [] := by
  simp only [readRequest,Dialogue.exactly_bind,Ends.read_iff]
  constructor
  · rintro ⟨header,later,sized,rfl,ends⟩
    match header,sized with
    | [version,command,reserved,atyp],_ =>
      split at ends
      · cases ends
      · rename_i known
        have known : version = socksVersion := not_not.mp known
        split at ends
        · cases ends
        · rename_i zero
          have zero : reserved = 0 := not_not.mp zero
          obtain ⟨destination,middle,first,second,reads,finishes,rfl⟩ := Ends.bind_iff.mp ends
          obtain ⟨fits,bytes,rfl⟩ := readDestination_iff.mp reads
          obtain ⟨same,rfl,rfl⟩ := Ends.done_iff.mp finishes
          cases same
          refine ⟨fits,?_,rfl⟩
          have whole : atyp::later = destinationBytes destination ++ middle := bytes
          rw [requestBytes,known,zero,List.append_assoc,← whole]
          rfl
  · rintro ⟨fits,rfl,rfl⟩
    obtain ⟨command,destination⟩ := request
    have typed : ∃ atyp later, destinationBytes destination ++ rest = atyp::later := by
      cases destination with
      | socket address => cases address <;> exact ⟨_,_,rfl⟩
      | domain _ _ => exact ⟨_,_,rfl⟩
    obtain ⟨atyp,later,typed⟩ := typed
    refine ⟨[socksVersion,command,0,atyp],later,rfl,?_,?_⟩
    · rw [requestBytes,List.append_assoc,typed]
      rfl
    · rw [if_neg (by simp),if_neg (by simp)]
      refine Ends.bind_iff.mpr ⟨destination,rest,[],[],readDestination_iff.mpr ⟨fits,?_,rfl⟩,Ends.done_iff.mpr ⟨rfl,rfl,rfl⟩,rfl⟩
      rw [typed]
      rfl

theorem readDestination_silent (atyp : UInt8) : (readDestination atyp).Silent := by
  have port : readPort.Silent := .read fun _ => .done _
  unfold readDestination
  split
  · exact .bind (.exactly _ _) fun _ => .bind port fun _ => .done _
  split
  · exact .bind (.exactly _ _) fun _ => .bind port fun _ => .done _
  split
  · refine .bind (.exactly _ _) fun _ => .bind (.exactly _ _) fun bytes => ?_
    split
    · exact .done _
    · exact .bind port fun _ => .done _
  · exact .done _

theorem readRequest_silent : readRequest.Silent := by
  refine .bind (.exactly _ _) fun header => ?_
  split
  · exact .done _
  split
  · exact .done _
  · exact .bind (readDestination_silent _) fun _ => .done _

/-- A greeting that is not through has been answered by a refusal or not at all. -/
theorem negotiate_written (input : Bytes) : (∃ rest, negotiateNoAuth.Ends input (.ok ()) rest [socksVersion,socksNoAuth]) ∨
    (∀ value, (negotiateNoAuth.settle input).talk ≠ .done (.ok value)) ∧
      ((negotiateNoAuth.settle input).written = [] ∨
        (negotiateNoAuth.settle input).written = [socksVersion,socksNoAcceptableMethods]) := by
  have unanswered {peer : Dialogue.Peer SocksError Unit} (going : ∀ value, peer.talk ≠ .done (.ok value)) (none : peer.written = []) :
      (∃ rest, peer = ⟨.done (.ok ()),rest,[socksVersion,socksNoAuth]⟩) ∨ (∀ value, peer.talk ≠ .done (.ok value)) ∧
        (peer.written = [] ∨ peer.written = [socksVersion,socksNoAcceptableMethods]) := .inr ⟨going,.inl none⟩
  unfold Ends negotiateNoAuth
  rw [Dialogue.exactly_bind,Dialogue.settle]
  split
  · exact unanswered (fun _ impossible => by cases impossible) rfl
  split
  · exact unanswered (fun _ impossible => by cases impossible) rfl
  rw [Dialogue.exactly_bind,Dialogue.settle]
  split
  · exact unanswered (fun _ impossible => by cases impossible) rfl
  rw [Dialogue.send_bind,Dialogue.settle]
  by_cases offered : socksNoAuth ∈ ((input.drop 2).take ((input.take 2).getD 1 0).toNat)
  · rw [if_pos offered,if_neg (by decide)]
    exact .inl ⟨_,rfl⟩
  · rw [if_neg offered,if_pos rfl]
    refine .inr ⟨fun _ impossible => ?_,.inr rfl⟩
    cases impossible

end Reads

section Client
variable {α β : Type} {connect : SocksDestination → Except SocksError α} {associate : Except SocksError (SocketAddr × β)}
  {udpAdvertiseIp : Option IpAddr} {input rest written : Bytes}

/-- The requests that are served, with the reply. -/
inductive Serves (connect : SocksDestination → Except SocksError α) (associate : Except SocksError (SocketAddr × β))
    (udpAdvertiseIp : Option IpAddr) : SocksRequest → Served α β → Bytes → Prop
  | connect {destination : SocksDestination} {session : α} (opened : connect destination = .ok session) :
    Serves connect associate udpAdvertiseIp ⟨socksCmdConnect,destination⟩ (.connect destination session)
      (replyBytes socksReplySucceeded unspecified)
  | associate {destination : SocksDestination} {bind : SocketAddr} {association : β} (bound : associate = .ok (bind,association)) :
    Serves connect associate udpAdvertiseIp ⟨socksCmdUdpAssociate,destination⟩ (.associate association)
      (replyBytes socksReplySucceeded (advertisedBind udpAdvertiseIp bind))

/-- What follows the request. -/
def dispatch (connect : SocksDestination → Except SocksError α) (associate : Except SocksError (SocketAddr × β))
    (udpAdvertiseIp : Option IpAddr) (request : SocksRequest) : Dialogue SocksError (Served α β) :=
  if request.command = socksCmdConnect then handleConnect connect request
  else if request.command = socksCmdUdpAssociate then handleUdpAssociate associate udpAdvertiseIp
  else if request.command = socksCmdBind then refuseCommand "SOCKS5 BIND is not supported"
  else refuseCommand "SOCKS5 command is not supported"

theorem handleClient_eq : handleClient connect associate udpAdvertiseIp =
    negotiateNoAuth >>= fun _ => readRequest >>= dispatch connect associate udpAdvertiseIp := rfl

theorem dispatch_iff {request : SocksRequest} {served : Served α β} :
    (dispatch connect associate udpAdvertiseIp request).Ends input (.ok served) rest written ↔
      Serves connect associate udpAdvertiseIp request served written ∧ input = rest := by
  obtain ⟨command,destination⟩ := request
  unfold dispatch
  constructor
  · split
    · rename_i first
      cases (show command = socksCmdConnect from first)
      unfold handleConnect
      split
      · intro ends
        cases ends
      · rename_i session opened
        rw [writeReply,Dialogue.send_bind,Ends.write_iff]
        rintro ⟨more,wrote,ends⟩
        obtain ⟨same,held,none⟩ := Ends.done_iff.mp ends
        cases same
        rw [wrote,none,List.append_nil]
        exact ⟨.connect opened,held⟩
    split
    · rename_i third
      cases (show command = socksCmdUdpAssociate from third)
      unfold handleUdpAssociate
      split
      · intro ends
        cases ends
      · rename_i association
        rw [writeReply,Dialogue.send_bind,Ends.write_iff]
        rintro ⟨more,wrote,ends⟩
        obtain ⟨same,held,none⟩ := Ends.done_iff.mp ends
        cases same
        rw [wrote,none,List.append_nil]
        exact ⟨.associate rfl,held⟩
    · have refused (message : String) : ¬ (refuseCommand message : Dialogue SocksError (Served α β)).Ends input (.ok served) rest written := by
        rw [refuseCommand,writeReply,Dialogue.send_bind,Ends.write_iff]
        rintro ⟨more,-,ends⟩
        cases ends
      split
      · exact fun ends => absurd ends (refused _)
      · exact fun ends => absurd ends (refused _)
  · rintro ⟨serves,rfl⟩
    cases serves with
    | connect opened =>
      rw [if_pos rfl,handleConnect,opened]
      exact Ends.write_iff.mpr ⟨[],(List.append_nil _).symm,Ends.done_iff.mpr ⟨rfl,rfl,rfl⟩⟩
    | associate bound =>
      unfold handleUdpAssociate
      rw [if_neg (show ¬ socksCmdUdpAssociate = socksCmdConnect by decide),if_pos rfl,bound]
      exact Ends.write_iff.mpr ⟨[],(List.append_nil _).symm,Ends.done_iff.mpr ⟨rfl,rfl,rfl⟩⟩

/-- What a client has read once its handshake is over or stuck, when it is not served. -/
def Unserved (written : Bytes) : Prop := written = [] ∨ written = [socksVersion,socksNoAuth] ∨
  written = [socksVersion,socksNoAcceptableMethods] ∨
  written = [socksVersion,socksNoAuth] ++ replyBytes socksReplyCommandNotSupported unspecified

theorem dispatch_written (request : SocksRequest) :
    let peer := (dispatch connect associate udpAdvertiseIp request).settle input
    (∃ served, peer.talk = .done (.ok served)) ∨
      (peer.written = [] ∨ peer.written = replyBytes socksReplyCommandNotSupported unspecified) := by
  unfold dispatch
  split
  · unfold handleConnect
    split
    · exact .inr (.inl rfl)
    · exact .inl ⟨_,rfl⟩
  split
  · unfold handleUdpAssociate
    split
    · exact .inr (.inl rfl)
    · exact .inl ⟨_,rfl⟩
  split
  · exact .inr (.inr rfl)
  · exact .inr (.inr rfl)

theorem handleClient_written : let peer := (handleClient connect associate udpAdvertiseIp).settle input
    (∃ served, peer.talk = .done (.ok served)) ∨ Unserved peer.written := by
  intro peer
  have shape : peer = (negotiateNoAuth >>= fun _ => readRequest >>= dispatch connect associate udpAdvertiseIp).settle input := rfl
  rw [shape]
  rcases negotiate_written input with ⟨middle,greeted⟩ | ⟨stuck,wrote⟩
  · have silent := readRequest_silent.written middle
    rw [Dialogue.settle_bind,greeted]
    simp only
    rw [Dialogue.settle_bind]
    rcases reads : readRequest.settle middle with ⟨talk,held,written⟩
    rw [reads] at silent
    have silent : written = [] := silent
    subst silent
    split
    · rename_i request read
      rcases @dispatch_written _ _ connect associate udpAdvertiseIp held request with ⟨served,done⟩ | none | refused
      · exact .inl ⟨served,by simpa using done⟩
      · refine .inr (.inr (.inl ?_))
        simpa using none
      · refine .inr (.inr (.inr (.inr ?_)))
        simpa using refused
    · exact .inr (.inr (.inl rfl))
  · rw [Dialogue.settle_bind]
    split
    · rename_i value done
      exact absurd done (stuck value)
    · rcases wrote with none | refused
      · exact .inr (.inl none)
      · exact .inr (.inr (.inr (.inl refused)))

theorem handleClient_iff {served : Served α β} :
    (handleClient connect associate udpAdvertiseIp).Ends input (.ok served) rest written ↔
      ∃ methods request reply, methods.length < 256 ∧ socksNoAuth ∈ methods ∧ Expressible request.destination ∧
        input = greetingBytes methods ++ requestBytes request ++ rest ∧
        Serves connect associate udpAdvertiseIp request served reply ∧ written = [socksVersion,socksNoAuth] ++ reply := by
  rw [handleClient_eq]
  simp only [Ends.bind_iff,negotiate_iff,readRequest_iff,dispatch_iff]
  constructor
  · rintro ⟨_,middle,first,second,⟨methods,short,offered,rfl,rfl⟩,⟨request,later,none,reply,⟨fits,rfl,rfl⟩,⟨serves,rfl⟩,rfl⟩,rfl⟩
    exact ⟨methods,request,_,short,offered,fits,(List.append_assoc _ _ _).symm,serves,rfl⟩
  · rintro ⟨methods,request,reply,short,offered,fits,rfl,serves,rfl⟩
    exact ⟨(),_,_,_,⟨methods,short,offered,List.append_assoc _ _ _,rfl⟩,
      ⟨request,_,[],reply,⟨fits,rfl,rfl⟩,⟨serves,rfl⟩,rfl⟩,rfl⟩

/-- What a client can have read of the handshake in the end. -/
def Told (connect : SocksDestination → Except SocksError α) (associate : Except SocksError (SocketAddr × β))
    (udpAdvertiseIp : Option IpAddr) (written : Bytes) : Prop := Unserved written ∨
  ∃ request served reply, Serves connect associate udpAdvertiseIp request served reply ∧
    written = [socksVersion,socksNoAuth] ++ reply

theorem handleClient_told :
    Told connect associate udpAdvertiseIp ((handleClient connect associate udpAdvertiseIp).settle input).written := by
  rcases @handleClient_written _ _ connect associate udpAdvertiseIp input with ⟨served,done⟩ | unserved
  · rcases settled : (handleClient connect associate udpAdvertiseIp).settle input with ⟨talk,rest,written⟩
    rw [settled] at done
    have done : talk = .done (.ok served) := done
    subst done
    obtain ⟨_,request,reply,-,-,-,-,serves,wrote⟩ := handleClient_iff.mp settled
    exact .inr ⟨request,served,reply,serves,wrote⟩
  · exact .inl unserved

/-- The reads and writes of a handshake that can fail, with the stage that they are for. -/
def handshakeFailures : List (String × String) :=
  [("socks-handshake","failed reading greeting"),("socks-handshake","failed reading methods"),
    ("socks-handshake","failed writing method selection"),("socks-request","failed reading request header"),
    ("socks-request","failed reading IPv4 target"),("socks-request","failed reading IPv6 target"),
    ("socks-request","failed reading domain length"),("socks-request","failed reading domain target"),
    ("socks-request","failed reading target port"),("socks-reply","failed writing SOCKS5 reply")]

def Failure (e : SocksError) : Prop := ∃ failure ∈ handshakeFailures, ∃ text, e = withSource failure.1 failure.2 text

theorem handleClient_names : Names Failure (handleClient connect associate udpAdvertiseIp) := by
  have failure {stage message : String} (listed : (stage,message) ∈ handshakeFailures) (text : String) :
      Failure (withSource stage message text) := ⟨_,listed,text,rfl⟩
  have reads {stage message : String} (listed : (stage,message) ∈ handshakeFailures) (n : Nat) :
      Names Failure (exactly n (readFailure stage message)) := .exactly n fun how => failure listed how.text
  have port : Names Failure readPort := .bind (reads (by decide) _) fun _ => .done _
  have replies (reply : UInt8) (bind : SocketAddr) : Names Failure (writeReply reply bind) :=
    .send _ (failure (by decide))
  have refuses (message : String) : Names Failure (refuseCommand message : Dialogue SocksError (Served α β)) :=
    .bind (replies _ _) fun _ => .done _
  refine .bind ?_ fun _ => .bind ?_ fun request => ?_
  · refine .bind (reads (by decide) _) fun header => ?_
    split
    · exact .done _
    · refine .bind (reads (by decide) _) fun methods => .bind (.send _ (failure (by decide))) fun _ => ?_
      split <;> exact .done _
  · refine .bind (reads (by decide) _) fun header => ?_
    split
    · exact .done _
    split
    · exact .done _
    refine .bind ?_ fun _ => .done _
    unfold readDestination
    split
    · exact .bind (reads (by decide) _) fun _ => .bind port fun _ => .done _
    split
    · exact .bind (reads (by decide) _) fun _ => .bind port fun _ => .done _
    split
    · refine .bind (reads (by decide) _) fun _ => .bind (reads (by decide) _) fun bytes => ?_
      split
      · exact .done _
      · exact .bind port fun _ => .done _
    · exact .done _
  · split
    · unfold handleConnect
      split
      · exact .done _
      · exact .bind (replies _ _) fun _ => .done _
    split
    · unfold handleUdpAssociate
      split
      · exact .done _
      · exact .bind (replies _ _) fun _ => .done _
    split
    · exact refuses _
    · exact refuses _

/-- A client that asks for a connection and sends a byte behind its request. -/
def sampleMoves : List Move :=
  [.arrives [5,1],.proceeds,.arrives [0,5,1,0,1],.proceeds,.takes 1,.takes 1,.proceeds,.arrives [127,0,0,1,0,80,71],
    .proceeds,.proceeds,.takes 4,.takes 6]

def sampleDestination : SocksDestination := .socket (.v4 0x7f000001 80)

end Client

end Dynet.Ingress.Socks
