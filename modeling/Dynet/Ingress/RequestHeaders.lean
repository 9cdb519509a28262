import Dynet.Ingress.UdpFraming
import Dynet.Lib.Checks
import Dynet.Lib.PrefixCode
import Dynet.Lib.Utf8
import Dynet.Shadowsocks.Udp

/-! What the proxy protocols write in front of the client's bytes: the server can tell the
request from them, and the datagrams behind it from each other. -/
namespace Dynet.Ingress
open Dynet.Lib Dynet.Lib.Checks Dynet.Lib.Utf8 Dynet.Runtime
open Dynet.Shadowsocks (beBytes beBytes_length fromBe_beBytes)

section Numbers

theorem beBytes_injective {width n m : Nat} (small : n < 256 ^ width) (also : m < 256 ^ width)
    (same : beBytes width n = beBytes width m) : n = m := by
  have read := congrArg Dynet.Shadowsocks.fromBe same
  rwa [fromBe_beBytes,fromBe_beBytes,Nat.mod_eq_of_lt small,Nat.mod_eq_of_lt also] at read

theorem number_tells (width : Nat) : Tells (· < 256 ^ width) id (beBytes width) :=
  .fixed (fun n _ => beBytes_length width n) fun _ _ => beBytes_injective

theorem toBe16_eq (n : Nat) : toBe16 n = beBytes 2 n := rfl

theorem octets_eq (width bits : Nat) : Trojan.octets width bits = beBytes width bits := by
  induction width generalizing bits with
  | zero => rfl
  | succ width ih =>
    rw [beBytes,← ih,Trojan.octets,List.range_succ,List.map_append,List.map_singleton,Trojan.octets]
    congr 1
    · refine List.map_congr_left fun i member => ?_
      have inside := List.mem_range.mp member
      have place : 8 * (width + 1 - 1 - i) = 8 + 8 * (width - 1 - i) := by omega
      rw [place,Nat.shiftRight_add,Nat.shiftRight_eq_div_pow bits 8]
    · simp

theorem port_tells : Tells (fun _ : UInt16 => True) id fun port => beBytes 2 port.toNat := by
  refine ((number_tells 2).comap UInt16.toNat fun port _ => port.toNat_lt).weaken fun _ _ _ _ same => ?_
  exact UInt16.toNat_inj.mp same

theorem byte_tells : Tells (fun _ : UInt8 => True) id fun byte => [byte] :=
  .fixed (fun _ _ => rfl) fun _ _ _ _ same => (List.cons.inj same).1

theorem bits_tells {width bits : Nat} (power : 256 ^ width = 2 ^ bits) :
    Tells (fun _ : BitVec bits => True) id fun address => beBytes width address.toNat := by
  refine ((number_tells width).comap BitVec.toNat fun address _ => power ▸ address.isLt).weaken fun _ _ _ _ same => ?_
  exact BitVec.eq_of_toNat_eq same

theorem sized_tells (width : Nat) : Tells (fun bytes : Bytes => bytes.length = width) id id :=
  .fixed (fun _ sized => sized) fun _ _ _ _ same => same

end Numbers

/-- A traversal whose steps accept what fits and give its word. -/
theorem mapM_words {α β ε : Type} {encode : α → Except ε β} {fits : α → Prop} {word : α → β}
    (encodes : ∀ a b, encode a = .ok b ↔ fits a ∧ b = word a) (xs : List α) (ys : List β) :
    xs.mapM encode = .ok ys ↔ (∀ x ∈ xs, fits x) ∧ ys = xs.map word := by
  rw [mapM_forall₂]
  induction xs generalizing ys with
  | nil => simp
  | cons x xs ih =>
    rw [List.forall₂_cons_left_iff,List.forall_mem_cons,List.map_cons]
    constructor
    · rintro ⟨first,rest,one,others,rfl⟩
      obtain ⟨fits,rfl⟩ := (encodes _ _).mp one
      obtain ⟨all,rfl⟩ := (ih _).mp others
      exact ⟨⟨fits,all⟩,rfl⟩
    · rintro ⟨⟨fits,all⟩,rfl⟩
      exact ⟨_,_,(encodes _ _).mpr ⟨fits,rfl⟩,(ih _).mpr ⟨all,rfl⟩,rfl⟩

/-- An address behind a byte for its family. -/
def taggedIp (four six : UInt8) : IpAddr → Bytes
  | .v4 address => four::beBytes 4 address.toNat
  | .v6 address => six::beBytes 16 address.toNat

theorem taggedIp_tells {four six : UInt8} (differ : four ≠ six) : Tells (fun _ : IpAddr => True) id (taggedIp four six) := by
  intro a b rest later _ _ same
  match a,b with
  | .v4 a,.v4 b =>
    obtain ⟨address,rests⟩ := bits_tells (show 256 ^ 4 = 2 ^ 32 by decide) a b rest later trivial trivial (List.cons.inj same).2
    exact ⟨congrArg IpAddr.v4 address,rests⟩
  | .v6 a,.v6 b =>
    obtain ⟨address,rests⟩ := bits_tells (show 256 ^ 16 = 2 ^ 128 by decide) a b rest later trivial trivial (List.cons.inj same).2
    exact ⟨congrArg IpAddr.v6 address,rests⟩
  | .v4 _,.v6 _ => exact absurd (List.cons.inj same).1 differ
  | .v6 _,.v4 _ => exact absurd (List.cons.inj same).1.symm differ

/-- What an address keeps of a socket address: the flow information and the scope are left out. -/
def endpoint (target : SocketAddr) : IpAddr × UInt16 := (target.ip,target.port)

/-- An address in front of its port. -/
theorem endpoint_tells {four six : UInt8} (differ : four ≠ six) :
    Tells (fun _ : SocketAddr => True) endpoint fun target => taggedIp four six target.ip ++ beBytes 2 target.port.toNat :=
  ((taggedIp_tells differ).comap SocketAddr.ip fun _ _ => trivial).append (port_tells.comap SocketAddr.port fun _ _ => trivial)

namespace Vless

inductive TargetHost where
  | ip (address : IpAddr)
  | domain (domain : String)
  deriving DecidableEq, Repr

structure TargetAddress where
  host : TargetHost
  port : UInt16
  deriving DecidableEq, Repr

def writeHost : TargetHost → Except ProtocolError Bytes
  | .ip address => .ok (taggedIp 1 3 address)
  | .domain domain =>
    if (asBytes domain).length > 255 then failed "outbound-protocol" "VLESS domain target exceeds 255 bytes"
    else .ok (2::UInt8.ofNat (asBytes domain).length::asBytes domain)

def writeTarget (target : TargetAddress) : Except ProtocolError Bytes := do
  let host ← writeHost target.host
  return toBe16 target.port.toNat ++ host

def requestHeader (userId : Bytes) (command : UInt8) (addonData : Bytes) (target : TargetAddress) : Except ProtocolError Bytes := do
  if addonData.length > 255 then failed "outbound-protocol" "VLESS addon data exceeds 255 bytes"
  else
    let target ← writeTarget target
    return 0::userId ++ UInt8.ofNat addonData.length::addonData ++ [command] ++ target

def encodeFlowAddon (flow : String) : Bytes := 0x0a::UInt8.ofNat (asBytes flow).length::asBytes flow

def visionFlowAddonData : Bytes := encodeFlowAddon "xtls-rprx-vision"

def tcpRequestHeader (userId : Bytes) (target : TargetAddress) : Except ProtocolError Bytes :=
  requestHeader userId 1 visionFlowAddonData target

def udpRequestHeader (userId : Bytes) (target : TargetAddress) : Except ProtocolError Bytes := requestHeader userId 2 [] target

/-- The hosts that can be written, and how. -/
def HostFits : TargetHost → Prop
  | .ip _ => True
  | .domain domain => (asBytes domain).length < 256

def hostWord : TargetHost → Bytes
  | .ip address => taggedIp 1 3 address
  | .domain domain => 2::UInt8.ofNat (asBytes domain).length::asBytes domain

theorem writeHost_ok_iff (host : TargetHost) (word : Bytes) : writeHost host = .ok word ↔ HostFits host ∧ word = hostWord host := by
  cases host with
  | ip address => exact ⟨fun same => ⟨trivial,(Except.ok.inj same).symm⟩,fun ⟨_,same⟩ => same ▸ rfl⟩
  | domain name =>
    rw [writeHost,HostFits,hostWord]
    by_cases long : (asBytes name).length > 255
    · rw [if_pos long]
      exact ⟨(fun impossible => by cases impossible),fun ⟨short,_⟩ => by omega⟩
    · rw [if_neg long]
      exact ⟨fun same => ⟨by omega,(Except.ok.inj same).symm⟩,fun ⟨_,same⟩ => same ▸ rfl⟩

theorem length_byte : Tells (· < 256) id fun n => [UInt8.ofNat n] := by
  refine .fixed (fun _ _ => rfl) fun n m small also same => ?_
  have bytes := congrArg UInt8.toNat (List.cons.inj same).1
  rwa [UInt8.toNat_ofNat',UInt8.toNat_ofNat',Nat.mod_eq_of_lt small,Nat.mod_eq_of_lt also] at bytes

theorem host_tells : Tells HostFits id hostWord := by
  have domains : Tells (fun domain : String => (asBytes domain).length < 256) id
      fun domain => UInt8.ofNat (asBytes domain).length::asBytes domain := by
    refine ((Tells.counted length_byte).comap asBytes fun _ fits => fits).weaken fun a b _ _ same => ?_
    exact Option.some.inj (((fromUtf8_eq_some_iff _ a).mpr rfl).symm.trans ((fromUtf8_eq_some_iff _ b).mpr same))
  intro a b rest later first second same
  match a,b with
  | .ip a,.ip b =>
    obtain ⟨address,rests⟩ := taggedIp_tells (show (1 : UInt8) ≠ 3 by decide) a b rest later trivial trivial same
    exact ⟨congrArg TargetHost.ip address,rests⟩
  | .domain a,.domain b =>
    obtain ⟨domain,rests⟩ := domains a b rest later first second (List.cons.inj same).2
    exact ⟨congrArg TargetHost.domain domain,rests⟩
  | .ip a,.domain b => cases a <;> exact absurd (List.cons.inj same).1 (by decide)
  | .domain a,.ip b => cases b <;> exact absurd (List.cons.inj same).1 (by decide)

/-- What a request header carries. -/
structure Request where
  userId : Bytes
  command : UInt8
  addonData : Bytes
  target : TargetAddress
  deriving DecidableEq, Repr

structure Request.Fits (request : Request) : Prop where
  user : request.userId.length = 16
  addon : request.addonData.length < 256
  host : HostFits request.target.host

def Request.word (request : Request) : Bytes :=
  [0] ++ (request.userId ++ (([UInt8.ofNat request.addonData.length] ++ request.addonData) ++ ([request.command] ++
    (beBytes 2 request.target.port.toNat ++ hostWord request.target.host))))

theorem requestHeader_ok_iff (request : Request) (user : request.userId.length = 16) (header : Bytes) :
    requestHeader request.userId request.command request.addonData request.target = .ok header ↔
      request.Fits ∧ header = request.word := by
  unfold requestHeader writeTarget failed
  split
  · rename_i long
    exact ⟨(fun impossible => by cases impossible),fun ⟨fits,_⟩ => absurd fits.addon (by omega)⟩
  · rename_i short
    cases wrote : writeHost request.target.host with
    | error e =>
      refine ⟨(fun impossible => by cases impossible),fun ⟨fits,_⟩ => ?_⟩
      rw [(writeHost_ok_iff _ _).mpr ⟨fits.host,rfl⟩] at wrote
      cases wrote
    | ok word =>
      obtain ⟨fits,rfl⟩ := (writeHost_ok_iff _ _).mp wrote
      have whole : 0::request.userId ++ UInt8.ofNat request.addonData.length::request.addonData ++ [request.command] ++
          (toBe16 request.target.port.toNat ++ hostWord request.target.host) = request.word := by
        simp [Request.word,toBe16_eq]
      constructor
      · intro same
        exact ⟨⟨user,by omega,fits⟩,(Except.ok.inj same).symm.trans whole⟩
      · rintro ⟨-,rfl⟩
        exact congrArg Except.ok whole

theorem request_tells : Tells Request.Fits id Request.word := by
  have head : Tells Request.Fits (fun _ => ()) fun _ => ([0] : Bytes) := .literal _ _
  have user : Tells Request.Fits Request.userId Request.userId := (sized_tells 16).comap Request.userId fun _ fits => fits.user
  have addon : Tells Request.Fits Request.addonData fun request =>
      [UInt8.ofNat request.addonData.length] ++ request.addonData :=
    (Tells.counted length_byte).comap Request.addonData fun _ fits => fits.addon
  have command : Tells Request.Fits Request.command fun request => [request.command] :=
    byte_tells.comap Request.command fun _ _ => trivial
  have port : Tells Request.Fits (fun request => request.target.port) fun request => beBytes 2 request.target.port.toNat :=
    port_tells.comap (fun request : Request => request.target.port) fun _ _ => trivial
  have host : Tells Request.Fits (fun request => request.target.host) fun request => hostWord request.target.host :=
    host_tells.comap (fun request : Request => request.target.host) fun _ fits => fits.host
  refine (head.append (user.append (addon.append (command.append (port.append host))))).weaken ?_
  rintro ⟨_,_,_,_,_⟩ ⟨_,_,_,_,_⟩ - - same
  simp only [Prod.mk.injEq] at same
  obtain ⟨-,rfl,rfl,rfl,rfl,rfl⟩ := same
  rfl

/-- What a UDP association has sent: the header and one frame for each datagram. -/
def udpSent (userId : Bytes) (target : TargetAddress) (payloads : List Bytes) : Except ProtocolError Bytes := do
  let header ← udpRequestHeader userId target
  let frames ← payloads.mapM udpFrame
  return header ++ frames.flatten

def frameWord (payload : Bytes) : Bytes := beBytes 2 payload.length ++ payload

theorem frame_tells : Tells (fun payload : Bytes => payload.length < 65536) id frameWord :=
  .counted ((number_tells 2).mono fun _ small => small)

theorem frame_encodes (payload frame : Bytes) : udpFrame payload = .ok frame ↔ payload.length < 65536 ∧ frame = frameWord payload :=
  udpFrame_ok_iff payload frame

theorem udpSent_ok {userId : Bytes} (user : userId.length = 16) {target : TargetAddress} {payloads : List Bytes} {sent : Bytes}
    (ok : udpSent userId target payloads = .ok sent) : Request.Fits ⟨userId,2,[],target⟩ ∧
      (∀ payload ∈ payloads, payload.length < 65536) ∧ sent = Request.word ⟨userId,2,[],target⟩ ++ payloads.flatMap frameWord := by
  unfold udpSent at ok
  obtain ⟨header,begun,ok⟩ := (bind_ok_iff _ _ _).mp ok
  obtain ⟨frames,framed,ok⟩ := (bind_ok_iff _ _ _).mp ok
  cases ok
  obtain ⟨fits,rfl⟩ := (requestHeader_ok_iff ⟨userId,2,[],target⟩ user header).mp begun
  obtain ⟨small,rfl⟩ := (mapM_words frame_encodes _ _).mp framed
  exact ⟨fits,small,by rw [List.flatMap_def]⟩

end Vless

namespace Trojan

def hexDigit (n : Nat) : UInt8 := UInt8.ofNat (if n < 10 then 48 + n else 87 + n)

/-- The hexadecimal text of a SHA-224 digest. -/
def hexText (digest : Bytes) : Bytes := digest.flatMap fun b => [hexDigit (b.toNat / 16),hexDigit (b.toNat % 16)]

def requestHeader (passwordHash : Bytes) (cmd : UInt8) (target : SocketAddr) : Bytes :=
  passwordHash ++ crlf ++ [cmd] ++ writeAddress target ++ crlf

/-- What a UDP association has sent: the header and one packet for each datagram. -/
def udpSent (digest : Bytes) (target : SocketAddr) (packets : List (SocketAddr × Bytes)) : Except ProtocolError Bytes := do
  let frames ← packets.mapM fun packet => udpPacket packet.1 packet.2
  return requestHeader (hexText digest) 3 target ++ frames.flatten

theorem writeAddress_eq (target : SocketAddr) : writeAddress target = taggedIp 1 4 target.ip ++ beBytes 2 target.port.toNat := by
  cases target <;> simp [writeAddress,octets_eq,toBe16_eq,taggedIp,SocketAddr.ip,SocketAddr.port]

theorem hexDigit_injective : ∀ n < 16, ∀ m < 16, hexDigit n = hexDigit m → n = m := by decide

theorem digest_tells : Tells (fun digest : Bytes => digest.length = 28) id hexText := by
  have digits : Tells (fun _ : UInt8 => True) id fun b => [hexDigit (b.toNat / 16),hexDigit (b.toNat % 16)] := by
    have pair (b : UInt8) : [hexDigit (b.toNat / 16),hexDigit (b.toNat % 16)].length = 2 := rfl
    refine .fixed (fun b _ => pair b) fun a b _ _ same => ?_
    obtain ⟨high,low⟩ := List.cons.inj same
    have first := a.toNat_lt
    have second := b.toNat_lt
    have front := hexDigit_injective _ (by omega) _ (by omega) high
    have back := hexDigit_injective _ (by omega) _ (by omega) (List.cons.inj low).1
    have whole : a.toNat = b.toNat := by omega
    exact UInt8.toNat_inj.mp whole
  have length (digest : Bytes) : (hexText digest).length = 2 * digest.length := by
    rw [hexText,List.length_flatMap]
    simp [Nat.mul_comm]
  refine .fixed (fun digest sized => by rw [length,sized]) fun a b _ _ same => ?_
  have told := digits.stream (fun _ _ => by simp) (fun _ _ => trivial) (fun _ _ => trivial) same
  simpa using told

/-- What a request header carries. -/
structure Request where
  digest : Bytes
  cmd : UInt8
  target : SocketAddr
  deriving DecidableEq, Repr

def Request.word (request : Request) : Bytes := requestHeader (hexText request.digest) request.cmd request.target

def Request.view (request : Request) : Bytes × UInt8 × IpAddr × UInt16 :=
  (request.digest,request.cmd,endpoint request.target)

theorem request_tells : Tells (fun request : Request => request.digest.length = 28) Request.view Request.word := by
  let Sized := fun request : Request => request.digest.length = 28
  have digest : Tells Sized Request.digest fun request => hexText request.digest :=
    digest_tells.comap Request.digest fun _ sized => sized
  have delimiter : Tells Sized (fun _ => ()) fun _ => crlf := .literal _ _
  have cmd : Tells Sized Request.cmd fun request => [request.cmd] := byte_tells.comap Request.cmd fun _ _ => trivial
  have target : Tells Sized (fun request => endpoint request.target) fun request => writeAddress request.target := by
    simp only [writeAddress_eq]
    exact (endpoint_tells (show (1 : UInt8) ≠ 4 by decide)).comap Request.target fun _ _ => trivial
  refine ((((digest.append delimiter).append cmd).append target).append delimiter).weaken fun a b _ _ same => ?_
  simp only [Prod.mk.injEq] at same
  simp only [Request.view,Prod.mk.injEq]
  exact ⟨same.1.1.1.1,same.1.1.2,same.1.2⟩

def packetWord (packet : SocketAddr × Bytes) : Bytes :=
  writeAddress packet.1 ++ (toBe16 packet.2.length ++ (crlf ++ packet.2))

theorem packet_tells : Tells (fun packet : SocketAddr × Bytes => packet.2.length < 65536)
    (fun packet => (endpoint packet.1,packet.2)) packetWord := by
  let Small := fun packet : SocketAddr × Bytes => packet.2.length < 65536
  have target : Tells Small (fun packet => endpoint packet.1) fun packet => writeAddress packet.1 := by
    simp only [writeAddress_eq]
    exact (endpoint_tells (show (1 : UInt8) ≠ 4 by decide)).comap (fun packet : SocketAddr × Bytes => packet.1) fun _ _ => trivial
  have length : Tells Small (fun packet => packet.2.length) fun packet => toBe16 packet.2.length :=
    (number_tells 2).comap (fun packet : SocketAddr × Bytes => packet.2.length) fun _ small => small
  have payload (told : Nat) : Tells (fun packet => Small packet ∧ packet.2.length = told) (fun packet => ((),packet.2))
      fun packet => crlf ++ packet.2 := by
    have delimiter : Tells (fun packet => Small packet ∧ packet.2.length = told) (fun _ => ()) fun _ => crlf := .literal _ _
    exact delimiter.append (.fixed (fun _ sized => sized.2) fun _ _ _ _ same => same)
  refine (target.append (length.followed payload)).weaken fun a b _ _ same => ?_
  simp only [Prod.mk.injEq] at same ⊢
  exact ⟨same.1,same.2.2.2⟩

theorem packet_encodes (packet : SocketAddr × Bytes) (frame : Bytes) :
    udpPacket packet.1 packet.2 = .ok frame ↔ packet.2.length < 65536 ∧ frame = packetWord packet :=
  udpPacket_ok_iff packet.1 packet.2 frame

theorem udpSent_ok {digest : Bytes} {target : SocketAddr} {packets : List (SocketAddr × Bytes)} {sent : Bytes}
    (ok : udpSent digest target packets = .ok sent) : (∀ packet ∈ packets, packet.2.length < 65536) ∧
      sent = Request.word ⟨digest,3,target⟩ ++ packets.flatMap packetWord := by
  unfold udpSent at ok
  obtain ⟨frames,framed,ok⟩ := (bind_ok_iff _ _ _).mp ok
  cases ok
  obtain ⟨small,rfl⟩ := (mapM_words packet_encodes _ _).mp framed
  exact ⟨small,by rw [List.flatMap_def]; rfl⟩

end Trojan

namespace Vmess

structure RequestContext where
  requestIv : Bytes
  requestKey : Bytes
  responseAuth : UInt8
  deriving DecidableEq, Repr

structure RequestContext.Sized (context : RequestContext) : Prop where
  iv : context.requestIv.length = 16
  key : context.requestKey.length = 16

def fnv1a (input : Bytes) : UInt32 := input.foldl (fun hash byte => (hash ^^^ byte.toUInt32) * 0x01000193) 0x811c9dc5

def writeAddress (target : SocketAddr) : Bytes := toBe16 target.port.toNat ++ taggedIp 1 3 target.ip

def instruction (command : UInt8) (target : SocketAddr) (context : RequestContext) : Bytes :=
  [1] ++ context.requestIv ++ context.requestKey ++ [context.responseAuth,1,3,0,command] ++ writeAddress target

def instructionHeader (command : UInt8) (target : SocketAddr) (context : RequestContext) : Bytes :=
  instruction command target context ++ beBytes 4 (fnv1a (instruction command target context)).toNat

/-- What an instruction header carries. -/
structure Request where
  command : UInt8
  target : SocketAddr
  context : RequestContext
  deriving DecidableEq, Repr

def Request.word (request : Request) : Bytes := instructionHeader request.command request.target request.context

def Request.view (request : Request) : UInt8 × RequestContext × IpAddr × UInt16 :=
  (request.command,request.context,endpoint request.target)

theorem request_tells : Tells (fun request : Request => request.context.Sized) Request.view Request.word := by
  let Sized := fun request : Request => request.context.Sized
  have version : Tells Sized (fun _ => ()) fun _ => ([1] : Bytes) := .literal _ _
  have iv : Tells Sized (fun request => request.context.requestIv) fun request => request.context.requestIv :=
    (sized_tells 16).comap (fun request : Request => request.context.requestIv) fun _ sized => sized.iv
  have key : Tells Sized (fun request => request.context.requestKey) fun request => request.context.requestKey :=
    (sized_tells 16).comap (fun request : Request => request.context.requestKey) fun _ sized => sized.key
  have options : Tells Sized (fun request => (request.context.responseAuth,request.command))
      fun request => [request.context.responseAuth,1,3,0,request.command] := by
    have five (request : Request) : [request.context.responseAuth,1,3,0,request.command].length = 5 := rfl
    refine .fixed (fun request _ => five request) fun a b _ _ same => ?_
    simp only [List.cons.injEq,and_true,true_and] at same
    exact Prod.ext same.1 same.2
  have port : Tells Sized (fun request => request.target.port) fun request => toBe16 request.target.port.toNat :=
    port_tells.comap (fun request : Request => request.target.port) fun _ _ => trivial
  have ip : Tells Sized (fun request => request.target.ip) fun request => taggedIp 1 3 request.target.ip :=
    (taggedIp_tells (by decide)).comap (fun request : Request => request.target.ip) fun _ _ => trivial
  have checksum : Tells Sized (fun _ => ()) fun request =>
      beBytes 4 (fnv1a (instruction request.command request.target request.context)).toNat :=
    .fixed (fun _ _ => beBytes_length 4 _) fun _ _ _ _ _ => rfl
  refine (((((version.append iv).append key).append options).append (port.append ip)).append checksum).weaken ?_
  rintro ⟨_,_,⟨_,_,_⟩⟩ ⟨_,_,⟨_,_,_⟩⟩ - - same
  simp only [Prod.mk.injEq] at same
  obtain ⟨⟨⟨⟨⟨-,rfl⟩,rfl⟩,rfl,rfl⟩,ports,ips⟩,-⟩ := same
  simp only [Request.view,endpoint,ports,ips]

/-- AES-128 of one block, AES-128-GCM, HMAC-SHA-256, MD5 and CRC-32. -/
structure RequestCrypto where
  encryptBlock : Bytes → Bytes → Bytes
  encryptAead : Bytes → Bytes → Bytes → Bytes → Bytes
  decryptAead : Bytes → Bytes → Bytes → Bytes → Option Bytes
  hmacSha256 : Bytes → Bytes → Bytes
  md5 : Bytes → Bytes
  crc32 : Bytes → UInt32

structure RequestCrypto.Lawful (crypto : RequestCrypto) : Prop where
  encryptBlock_length : ∀ key block, block.length = 16 → (crypto.encryptBlock key block).length = 16
  decrypt_encrypt : ∀ key nonce associatedData plaintext, crypto.decryptAead key nonce associatedData
    (crypto.encryptAead key nonce associatedData plaintext) = some plaintext
  encrypt_length : ∀ key nonce associatedData plaintext,
    (crypto.encryptAead key nonce associatedData plaintext).length = plaintext.length + 16

/-- What a request draws at random. -/
structure Draw where
  salt : Bytes
  nonce : Bytes
  salt_length : salt.length = 4
  nonce_length : nonce.length = 8

def vmessAeadKdf : Bytes := asBytes "VMess AEAD KDF"
def cmdKeySalt : Bytes := asBytes "c48619fe-8f02-49e0-b9e9-edf763e17e21"
def authIdKey : Bytes := asBytes "AES Auth ID Encryption"
def headerLenKey : Bytes := asBytes "VMess Header AEAD Key_Length"
def headerLenIv : Bytes := asBytes "VMess Header AEAD Nonce_Length"
def headerKeyLabel : Bytes := asBytes "VMess Header AEAD Key"
def headerIvLabel : Bytes := asBytes "VMess Header AEAD Nonce"

def hmacWithHash (hash : Bytes → Bytes) (key message : Bytes) : Bytes :=
  let shortened := if key.length > 64 then hash key else key
  let normalizedKey := (shortened ++ List.replicate (64 - shortened.length) 0).take 64
  hash (normalizedKey.map (· ^^^ 0x5c) ++ hash (normalizedKey.map (· ^^^ 0x36) ++ message))

section Sealed
variable (crypto : RequestCrypto)

-- The last key comes first; there always is a root key.
def nestedHmac : List Bytes → Bytes → Bytes
  | [] => fun _ => []
  | [key] => crypto.hmacSha256 key
  | key::parent::parents => hmacWithHash (nestedHmac (parent::parents)) key

def kdf (key : Bytes) (path : List Bytes) : Bytes := nestedHmac crypto (vmessAeadKdf::path).reverse key
def kdf16 (key : Bytes) (path : List Bytes) : Bytes := (kdf crypto key path).take 16
def kdf12 (key : Bytes) (path : List Bytes) : Bytes := (kdf crypto key path).take 12

def commandKey (userId : Bytes) : Bytes := crypto.md5 (userId ++ cmdKeySalt)

/-- `now` is the time since the epoch, or what the clock says when it stands before it. -/
def authId (cmdKey : Bytes) (now : Except String UInt64) (draw : Draw) : Except ProtocolError Bytes :=
  match now with
  | .error early => failed "outbound-protocol" s!"invalid system time: {early}"
  | .ok timestamp =>
    let plaintext := beBytes 8 timestamp.toNat ++ draw.salt
    .ok (crypto.encryptBlock (kdf16 crypto cmdKey [authIdKey]) (plaintext ++ beBytes 4 (crypto.crc32 plaintext).toNat))

def sealLength (cmdKey authId nonce : Bytes) (length : Nat) : Bytes :=
  crypto.encryptAead (kdf16 crypto cmdKey [headerLenKey,authId,nonce]) (kdf12 crypto cmdKey [headerLenIv,authId,nonce])
    authId (toBe16 length)

def encryptHeaderLength (cmdKey authId nonce : Bytes) (length : Nat) : Except ProtocolError Bytes :=
  if length < 65536 then .ok (sealLength crypto cmdKey authId nonce length)
  else failed "outbound-protocol" "VMess header is too large"

def encryptHeader (cmdKey authId nonce header : Bytes) : Bytes :=
  crypto.encryptAead (kdf16 crypto cmdKey [headerKeyLabel,authId,nonce]) (kdf12 crypto cmdKey [headerIvLabel,authId,nonce])
    authId header

def request (cmdKey : Bytes) (command : UInt8) (target : SocketAddr) (context : RequestContext) (now : Except String UInt64)
    (draw : Draw) : Except ProtocolError Bytes := do
  let authId ← authId crypto cmdKey now draw
  let header := instructionHeader command target context
  let encryptedLength ← encryptHeaderLength crypto cmdKey authId draw.nonce header.length
  return authId ++ encryptedLength ++ draw.nonce ++ encryptHeader crypto cmdKey authId draw.nonce header

/-- A request under the authentication id and the nonce that it is sealed with. -/
structure Sealed where
  request : Request
  authId : Bytes
  nonce : Bytes

structure Sealed.Sized (sealed : Sealed) : Prop where
  context : sealed.request.context.Sized
  authId : sealed.authId.length = 16
  nonce : sealed.nonce.length = 8
  header : sealed.request.word.length < 65536

def Sealed.front (cmdKey : Bytes) (sealed : Sealed) : Bytes :=
  sealed.authId ++ sealLength crypto cmdKey sealed.authId sealed.nonce sealed.request.word.length ++ sealed.nonce

def Sealed.word (cmdKey : Bytes) (sealed : Sealed) : Bytes :=
  sealed.front crypto cmdKey ++ encryptHeader crypto cmdKey sealed.authId sealed.nonce sealed.request.word

variable {crypto} (lawful : crypto.Lawful)
include lawful

theorem encryptAead_injective {key nonce associatedData first second : Bytes}
    (same : crypto.encryptAead key nonce associatedData first = crypto.encryptAead key nonce associatedData second) :
    first = second := by
  have opened := congrArg (crypto.decryptAead key nonce associatedData) same
  rw [lawful.decrypt_encrypt,lawful.decrypt_encrypt] at opened
  exact Option.some.inj opened

theorem request_ok {cmdKey : Bytes} {command : UInt8} {target : SocketAddr} {context : RequestContext} (sized : context.Sized)
    {now : Except String UInt64} {draw : Draw} {stream : Bytes}
    (ok : request crypto cmdKey command target context now draw = .ok stream) :
    ∃ sealed : Sealed, sealed.request = ⟨command,target,context⟩ ∧ sealed.Sized ∧ stream = sealed.word crypto cmdKey := by
  unfold request at ok
  obtain ⟨id,made,ok⟩ := (bind_ok_iff _ _ _).mp ok
  obtain ⟨size,measured,ok⟩ := (bind_ok_iff _ _ _).mp ok
  cases ok
  have block : id.length = 16 := by
    cases now with
    | error early => cases made
    | ok timestamp =>
      cases made
      refine lawful.encryptBlock_length _ _ ?_
      rw [List.length_append,List.length_append,beBytes_length,beBytes_length,draw.salt_length]
  unfold encryptHeaderLength at measured
  split at measured
  · rename_i small
    cases measured
    exact ⟨⟨⟨command,target,context⟩,id,draw.nonce⟩,rfl,⟨sized,block,draw.nonce_length,small⟩,rfl⟩
  · cases measured

/-- The front is opened with the account's key alone, and tells the keys and the length of the
header behind it. -/
theorem front_tells (cmdKey : Bytes) : Tells Sealed.Sized
    (fun sealed => (sealed.authId,sealed.nonce,sealed.request.word.length)) (Sealed.front crypto cmdKey) := by
  have length (sealed : Sealed) :
      (sealLength crypto cmdKey sealed.authId sealed.nonce sealed.request.word.length).length = 18 :=
    (lawful.encrypt_length _ _ _ _).trans rfl
  have width (sealed : Sealed) (sized : sealed.Sized) : (sealed.front crypto cmdKey).length = 16 + 18 + 8 := by
    rw [Sealed.front,List.length_append,List.length_append,length,sized.authId,sized.nonce]
  refine .fixed width fun a b first second same => ?_
  obtain ⟨front,nonces⟩ := List.append_inj' same (first.nonce.trans second.nonce.symm)
  obtain ⟨ids,sizes⟩ := List.append_inj front (first.authId.trans second.authId.symm)
  rw [ids,nonces] at sizes
  have lengths := congrArg fromBe16 (encryptAead_injective lawful sizes)
  rw [fromBe16_toBe16 first.header,fromBe16_toBe16 second.header] at lengths
  rw [ids,nonces,lengths]

theorem sealed_tells (cmdKey : Bytes) : Tells Sealed.Sized (fun sealed => sealed.request.view) (Sealed.word crypto cmdKey) := by
  refine ((front_tells lawful cmdKey).followed fun told => ?_).weaken fun _ _ _ _ same => (Prod.mk.inj same).2
  have width (sealed : Sealed) (sized : sealed.Sized ∧ (sealed.authId,sealed.nonce,sealed.request.word.length) = told) :
      (encryptHeader crypto cmdKey sealed.authId sealed.nonce sealed.request.word).length = told.2.2 + 16 := by
    rw [← sized.2]
    exact lawful.encrypt_length _ _ _ _
  refine .fixed width fun a b first second same => ?_
  have ids : a.authId = b.authId := (congrArg (·.1) first.2).trans (congrArg (·.1) second.2).symm
  have nonces : a.nonce = b.nonce := (congrArg (·.2.1) first.2).trans (congrArg (·.2.1) second.2).symm
  rw [ids,nonces] at same
  have headers := encryptAead_injective lawful same
  exact (request_tells a.request b.request [] [] first.1.context second.1.context (by rw [headers])).1

end Sealed

end Vmess

/-- No two requests of a protocol have headers that could be taken for each other, whatever
the client sends behind them, and a TCP request of VLESS is never taken for a UDP one. -/
theorem request_headers_tell :
    (∀ (user other : Bytes) (target also : Vless.TargetAddress) (header word rest later : Bytes), user.length = 16 → other.length = 16 →
      Vless.tcpRequestHeader user target = .ok header → Vless.tcpRequestHeader other also = .ok word →
      header ++ rest = word ++ later → user = other ∧ target = also ∧ rest = later) ∧
    (∀ (user other : Bytes) (target also : Vless.TargetAddress) (header word rest later : Bytes), user.length = 16 → other.length = 16 →
      Vless.tcpRequestHeader user target = .ok header → Vless.udpRequestHeader other also = .ok word → header ++ rest ≠ word ++ later) ∧
    (∀ (digest other : Bytes) (cmd command : UInt8) (target also : SocketAddr) (rest later : Bytes), digest.length = 28 → other.length = 28 →
      Trojan.requestHeader (Trojan.hexText digest) cmd target ++ rest = Trojan.requestHeader (Trojan.hexText other) command also ++ later →
      digest = other ∧ cmd = command ∧ endpoint target = endpoint also ∧ rest = later) ∧
    ∀ (crypto : Vmess.RequestCrypto) (userId : Bytes) (context other : Vmess.RequestContext) (command cmd : UInt8)
      (target also : SocketAddr) (now soon : Except String UInt64) (draw drawn : Vmess.Draw) (stream word rest later : Bytes),
      crypto.Lawful → context.Sized → other.Sized →
      Vmess.request crypto (Vmess.commandKey crypto userId) command target context now draw = .ok stream →
      Vmess.request crypto (Vmess.commandKey crypto userId) cmd also other soon drawn = .ok word →
      stream ++ rest = word ++ later →
      context = other ∧ command = cmd ∧ endpoint target = endpoint also ∧ rest = later := by
  have vless (user other : Bytes) (command cmd : UInt8) (addon data : Bytes) (target also : Vless.TargetAddress)
      (header word rest later : Bytes) (sized : user.length = 16) (too : other.length = 16)
      (first : Vless.requestHeader user command addon target = .ok header)
      (second : Vless.requestHeader other cmd data also = .ok word) (same : header ++ rest = word ++ later) :
      (⟨user,command,addon,target⟩ : Vless.Request) = ⟨other,cmd,data,also⟩ ∧ rest = later := by
    obtain ⟨fits,rfl⟩ := (Vless.requestHeader_ok_iff ⟨user,command,addon,target⟩ sized header).mp first
    obtain ⟨holds,rfl⟩ := (Vless.requestHeader_ok_iff ⟨other,cmd,data,also⟩ too word).mp second
    exact Vless.request_tells _ _ rest later fits holds same
  refine ⟨fun user other target also header word rest later sized too first second same => ?_,
    fun user other target also header word rest later sized too first second same => ?_,
    fun digest other cmd command target also rest later sized too same => ?_,
    fun crypto userId context other command cmd target also now soon draw drawn stream word rest later lawful sized too
      first second same => ?_⟩
  · obtain ⟨requests,rests⟩ := vless user other _ _ _ _ target also header word rest later sized too first second same
    cases requests
    exact ⟨rfl,rfl,rests⟩
  · obtain ⟨requests,-⟩ := vless user other _ _ _ _ target also header word rest later sized too first second same
    exact absurd (congrArg Vless.Request.command requests) (show (1 : UInt8) ≠ 2 by decide)
  · obtain ⟨views,rests⟩ := Trojan.request_tells ⟨digest,cmd,target⟩ ⟨other,command,also⟩ rest later sized too same
    simp only [Trojan.Request.view,Prod.mk.injEq] at views
    exact ⟨views.1,views.2.1,views.2.2,rests⟩
  · obtain ⟨one,made,fits,rfl⟩ := Vmess.request_ok lawful sized first
    obtain ⟨two,asked,holds,rfl⟩ := Vmess.request_ok lawful too second
    obtain ⟨views,rests⟩ := Vmess.sealed_tells lawful _ one two rest later fits holds same
    simp only [made,asked,Vmess.Request.view,Prod.mk.injEq] at views
    exact ⟨views.2.1,views.1,views.2.2,rests⟩

def sampleAccount : Bytes := List.replicate 16 7
def sampleDigest : Bytes := List.replicate 28 7
def sampleName : Vless.TargetAddress := ⟨.domain "example.com",443⟩
def taggedRequests : Vmess.RequestCrypto where
  encryptBlock _ block := block
  encryptAead _ _ _ plaintext := plaintext ++ List.replicate 16 0
  decryptAead _ _ _ ciphertext := some (ciphertext.take (ciphertext.length - 16))
  hmacSha256 key message := (key ++ message).take 32
  md5 bytes := bytes.take 16
  crc32 _ := 0

theorem taggedRequests_lawful : taggedRequests.Lawful where
  encryptBlock_length _ _ sized := sized
  decrypt_encrypt _ _ _ _ := by simp [taggedRequests]
  encrypt_length _ _ _ _ := by simp [taggedRequests]

def firstDraw : Vmess.Draw := ⟨[40,41,42,43],[21,22,23,24,25,26,27,28],rfl,rfl⟩

def sampleContext : Vmess.RequestContext := ⟨List.replicate 16 1,List.replicate 16 2,3⟩

/-- Two targets that differ in what no header carries. -/
def flowing : SocketAddr := .v6 1 443 7 0
def zoned : SocketAddr := .v6 1 443 0 2

theorem request_headers_tell_sample : (∃ header word, Vless.tcpRequestHeader sampleAccount sampleName = .ok header ∧
      Vless.udpRequestHeader sampleAccount sampleName = .ok word ∧ header ++ [1] ≠ word ++ [2] ∧
      sampleAccount = List.replicate 16 7) ∧
    (endpoint flowing = endpoint zoned ∧ flowing ≠ zoned) ∧
    ∃ stream word, Vmess.request taggedRequests (Vmess.commandKey taggedRequests sampleAccount) 1 flowing sampleContext
        (.ok 1700000000) firstDraw = .ok stream ∧
      Vmess.request taggedRequests (Vmess.commandKey taggedRequests sampleAccount) 1 zoned sampleContext
        (.ok 1700000000) firstDraw = .ok word ∧ endpoint flowing = endpoint zoned := by
  obtain ⟨tcp,crossed,trojan,vmess⟩ := request_headers_tell
  have named : ∃ header, Vless.tcpRequestHeader sampleAccount sampleName = .ok header := ⟨_,rfl⟩
  have datagrams : ∃ word, Vless.udpRequestHeader sampleAccount sampleName = .ok word := ⟨_,rfl⟩
  have sealed : ∃ stream, Vmess.request taggedRequests (Vmess.commandKey taggedRequests sampleAccount) 1 flowing sampleContext
        (.ok 1700000000) firstDraw = .ok stream ∧
      Vmess.request taggedRequests (Vmess.commandKey taggedRequests sampleAccount) 1 zoned sampleContext
        (.ok 1700000000) firstDraw = .ok stream := ⟨_,rfl,rfl⟩
  obtain ⟨header,first⟩ := named
  obtain ⟨word,second⟩ := datagrams
  obtain ⟨stream,asked,again⟩ := sealed
  refine ⟨⟨header,word,first,second,crossed _ _ _ _ header word [1] [2] rfl rfl first second,
      (tcp sampleAccount _ sampleName _ header header [1] [1] rfl rfl first first rfl).1⟩,
    ⟨(trojan sampleDigest sampleDigest 1 1 flowing zoned [1] [1] rfl rfl rfl).2.2.1,by decide⟩,
    stream,stream,asked,again,(vmess taggedRequests sampleAccount sampleContext sampleContext 1 1 flowing zoned (.ok 1700000000)
      (.ok 1700000000) firstDraw firstDraw stream stream [1] [1] taggedRequests_lawful ⟨rfl,rfl⟩ ⟨rfl,rfl⟩ asked again rfl).2.2.1⟩

/-- All that a UDP association has sent over VLESS or Trojan determines the account, the
target, and every datagram in its order. -/
theorem udp_streams_tell :
    (∀ (user other : Bytes) (target also : Vless.TargetAddress) (payloads datagrams : List Bytes) (sent : Bytes),
      user.length = 16 → other.length = 16 → Vless.udpSent user target payloads = .ok sent →
      Vless.udpSent other also datagrams = .ok sent → user = other ∧ target = also ∧ payloads = datagrams) ∧
    ∀ (digest other : Bytes) (target also : SocketAddr) (packets datagrams : List (SocketAddr × Bytes)) (sent : Bytes),
      digest.length = 28 → other.length = 28 → Trojan.udpSent digest target packets = .ok sent →
      Trojan.udpSent other also datagrams = .ok sent → digest = other ∧ endpoint target = endpoint also ∧
        packets.map (fun packet => (endpoint packet.1,packet.2)) = datagrams.map fun packet => (endpoint packet.1,packet.2) := by
  constructor
  · intro user other target also payloads datagrams sent sized too first second
    obtain ⟨fits,small,rfl⟩ := Vless.udpSent_ok sized first
    obtain ⟨holds,few,same⟩ := Vless.udpSent_ok too second
    obtain ⟨requests,streams⟩ := Vless.request_tells _ _ _ _ fits holds same
    have frames := Vless.frame_tells.stream (fun payload _ => by simp [Vless.frameWord,Dynet.Shadowsocks.beBytes]) small few streams
    cases requests
    exact ⟨rfl,rfl,by simpa using frames⟩
  · intro digest other target also packets datagrams sent sized too first second
    obtain ⟨small,rfl⟩ := Trojan.udpSent_ok first
    obtain ⟨few,same⟩ := Trojan.udpSent_ok second
    obtain ⟨views,streams⟩ := Trojan.request_tells ⟨digest,3,target⟩ ⟨other,3,also⟩ _ _ sized too same
    simp only [Trojan.Request.view,Prod.mk.injEq] at views
    refine ⟨views.1,views.2.2,Trojan.packet_tells.stream (fun packet _ => ?_) small few streams⟩
    simp [Trojan.packetWord,Trojan.crlf]

theorem udp_streams_tell_sample : (∃ sent, Vless.udpSent sampleAccount sampleName [[],[1,2]] = .ok sent ∧
      sampleAccount = List.replicate 16 7) ∧
    ∃ sent, Trojan.udpSent sampleDigest flowing [(flowing,[]),(zoned,[1,2])] = .ok sent ∧
      Trojan.udpSent sampleDigest zoned [(zoned,[]),(zoned,[1,2])] = .ok sent ∧ endpoint flowing = endpoint zoned := by
  obtain ⟨vless,trojan⟩ := udp_streams_tell
  have framed : ∃ sent, Vless.udpSent sampleAccount sampleName [[],[1,2]] = .ok sent := ⟨_,rfl⟩
  have packed : ∃ sent, Trojan.udpSent sampleDigest flowing [(flowing,[]),(zoned,[1,2])] = .ok sent ∧
      Trojan.udpSent sampleDigest zoned [(zoned,[]),(zoned,[1,2])] = .ok sent := ⟨_,rfl,rfl⟩
  obtain ⟨sent,ok⟩ := framed
  obtain ⟨stream,first,second⟩ := packed
  exact ⟨⟨sent,ok,(vless _ _ sampleName _ _ _ sent rfl rfl ok ok).1⟩,stream,first,second,
    (trojan sampleDigest sampleDigest _ _ _ _ stream rfl rfl first second).2.1⟩

end Dynet.Ingress
