import Dynet.Dns.Packet
import Dynet.Lib.Slices

/-! The parser of captured IP packets: addresses and ports of TCP and UDP packets. -/
namespace Dynet.Capture.Packet
open Dynet.Runtime Dynet.Dns Dynet.Lib.Slices

def ipv4MinHeaderLen : Nat := 20
def ipv6HeaderLen : Nat := 40
def tcpProtocol : UInt8 := 6
def udpProtocol : UInt8 := 17
def dnsPort : UInt16 := 53

inductive CapturedTransport where
  | dnsUdp | dnsTcp | tcp | udp
  deriving DecidableEq, Repr

structure PacketFlow where
  source : SocketAddr
  destination : SocketAddr
  transport : CapturedTransport
  deriving DecidableEq, Repr

inductive PacketParseError where
  | tooShort
  | unsupportedVersion (version : UInt8)
  | invalidHeaderLength
  | truncatedPacket
  | unsupportedProtocol (protocol : UInt8)
  | missingTransportHeader
  deriving DecidableEq, Repr

abbrev PacketM := Guarded PacketParseError

/-- `u16::from_be_bytes`. -/
def u16Be (high low : UInt8) : UInt16 := UInt16.ofNat (high.toNat * 256 + low.toNat)

def readU16Be (packet : Bytes) (place : Nat) : PacketM UInt16 := do
  let high ← index packet place
  let low ← index packet (place + 1)
  return u16Be high low

def parsePorts (packet : Bytes) : PacketM (UInt16 × UInt16) := do
  if packet.length < 4 then throw .missingTransportHeader
  else
    let source ← readU16Be packet 0
    let destination ← readU16Be packet 2
    return (source,destination)

def classifyTcp (sourcePort destinationPort : UInt16) : CapturedTransport :=
  if sourcePort = dnsPort ∨ destinationPort = dnsPort then .dnsTcp else .tcp

def classifyUdp (sourcePort destinationPort : UInt16) : CapturedTransport :=
  if sourcePort = dnsPort ∨ destinationPort = dnsPort then .dnsUdp else .udp

/-- The match on the protocol at the end of both parsers. -/
def parseTransport (protocol : UInt8) (source destination : IpAddr) (transport : Bytes) : PacketM PacketFlow := do
  if protocol = tcpProtocol then
    let (sourcePort,destinationPort) ← parsePorts transport
    return ⟨.new source sourcePort,.new destination destinationPort,classifyTcp sourcePort destinationPort⟩
  else if protocol = udpProtocol then
    let (sourcePort,destinationPort) ← parsePorts transport
    return ⟨.new source sourcePort,.new destination destinationPort,classifyUdp sourcePort destinationPort⟩
  else throw (.unsupportedProtocol protocol)

def ipv4At (packet : Bytes) (place : Nat) : PacketM IpAddr := do
  let a ← index packet place
  let b ← index packet (place + 1)
  let c ← index packet (place + 2)
  let d ← index packet (place + 3)
  return .v4 (BitVec.ofNat 32 (fromBe [a,b,c,d]))

-- The slice has the length of an address, or else the conversion panics.
def ipv6At (packet : Bytes) (place : Nat) : PacketM IpAddr := do
  let slice ← range packet place (place + 16)
  let octets ← copyFromSlice 16 slice
  return .v6 (BitVec.ofNat 128 (fromBe octets))

def parseIpv4Packet (packet : Bytes) : PacketM PacketFlow := do
  if packet.length < ipv4MinHeaderLen then throw .tooShort
  else
    let first ← index packet 0
    let version := first >>> 4
    if version ≠ 4 then throw (.unsupportedVersion version)
    else
      let ihl := (first &&& 0x0f).toNat * 4
      if ihl < ipv4MinHeaderLen then throw .invalidHeaderLength
      else if packet.length < ihl then throw .truncatedPacket
      else
        let total ← readU16Be packet 2
        let totalLen := total.toNat
        if totalLen < ihl ∨ packet.length < totalLen then throw .truncatedPacket
        else
          let protocol ← index packet 9
          let source ← ipv4At packet 12
          let destination ← ipv4At packet 16
          let transport ← range packet ihl totalLen
          parseTransport protocol source destination transport

def parseIpv6Packet (packet : Bytes) : PacketM PacketFlow := do
  if packet.length < ipv6HeaderLen then throw .tooShort
  else
    let first ← index packet 0
    let version := first >>> 4
    if version ≠ 6 then throw (.unsupportedVersion version)
    else
      let payload ← readU16Be packet 4
      let totalLen := ipv6HeaderLen + payload.toNat
      if packet.length < totalLen then throw .truncatedPacket
      else
        let protocol ← index packet 6
        let source ← ipv6At packet 8
        let destination ← ipv6At packet 24
        let transport ← range packet ipv6HeaderLen totalLen
        parseTransport protocol source destination transport

def parseIpPacket (packet : Bytes) : PacketM PacketFlow :=
  match packet.head? with
  | none => throw .tooShort
  | some first =>
    if first >>> 4 = 4 then parseIpv4Packet packet
    else if first >>> 4 = 6 then parseIpv6Packet packet
    else throw (.unsupportedVersion (first >>> 4))

/-! What a packet carries. -/

section Layout
variable (packet : Bytes)

def byteAt (place : Nat) : UInt8 := packet.getD place 0

def version : UInt8 := byteAt packet 0 >>> 4

def headerLen : Nat := (byteAt packet 0 &&& 0x0f).toNat * 4

def wordAt (place : Nat) : Nat := (u16Be (byteAt packet place) (byteAt packet (place + 1))).toNat

/-- The thirteen bits behind the flags of an IPv4 header. -/
def fragmentOffset : Nat := wordAt packet 6 % 8192

/-- An IPv4 packet with a header and a total length that fit. -/
structure Ipv4 : Prop where
  long : 20 ≤ packet.length
  version : version packet = 4
  header : 20 ≤ headerLen packet
  total : headerLen packet ≤ wordAt packet 2
  whole : wordAt packet 2 ≤ packet.length

structure Ipv6 : Prop where
  long : 40 ≤ packet.length
  version : version packet = 6
  whole : 40 + wordAt packet 4 ≤ packet.length

/-- The protocol and the bytes behind the header and its options, up to the declared length. A
packet that is not the first of its fragments has no transport header. -/
inductive Carries : UInt8 → Bytes → Prop
  | ipv4 (shape : Ipv4 packet) (first : fragmentOffset packet = 0) :
      Carries (byteAt packet 9) ((packet.take (wordAt packet 2)).drop (headerLen packet))
  | ipv6 (shape : Ipv6 packet) : Carries (byteAt packet 6) ((packet.take (40 + wordAt packet 4)).drop 40)

def beBytes (port : UInt16) : Bytes := [UInt8.ofNat (port.toNat / 256),UInt8.ofNat port.toNat]

/-- The ports are the first four bytes of the TCP or UDP header that the packet carries. -/
structure Reported (flow : PacketFlow) : Prop where
  ports : ∃ protocol payload, Carries packet protocol payload ∧ (protocol = tcpProtocol ∨ protocol = udpProtocol) ∧
    payload.take 4 = beBytes flow.source.port ++ beBytes flow.destination.port

structure Sound : Prop where
  total : ∃ result, parseIpPacket packet = done result
  reported : ∀ flow, parseIpPacket packet = done (.ok flow) → Reported packet flow

/-- A later fragment of a TCP or UDP packet with four bytes of payload or more. -/
structure LateFragment : Prop where
  shape : Ipv4 packet
  protocol : byteAt packet 9 = tcpProtocol ∨ byteAt packet 9 = udpProtocol
  late : fragmentOffset packet ≠ 0
  payload : headerLen packet + 4 ≤ wordAt packet 2

end Layout

section Reads
variable {packet : Bytes}

theorem index_byteAt {α : Type} {place : Nat} (inside : place < packet.length) (next : UInt8 → PacketM α) :
    (index packet place >>= next) = next (byteAt packet place) := by
  have here : packet[place]? = some (byteAt packet place) := by
    rw [byteAt,List.getD_eq_getElem?_getD,List.getElem?_eq_getElem inside,Option.getD_some]
  exact index_bind here next

theorem readU16Be_inside {α : Type} {place : Nat} (inside : place + 1 < packet.length) (next : UInt16 → PacketM α) :
    (readU16Be packet place >>= next) = next (u16Be (byteAt packet place) (byteAt packet (place + 1))) := by
  rw [readU16Be,bind_assoc,index_byteAt (by omega),bind_assoc,index_byteAt inside,pure_bind]

theorem ipv4At_inside {α : Type} {place : Nat} (inside : place + 3 < packet.length) (next : IpAddr → PacketM α) :
    (ipv4At packet place >>= next) = next (.v4 (BitVec.ofNat 32 (fromBe [byteAt packet place,byteAt packet (place + 1),
      byteAt packet (place + 2),byteAt packet (place + 3)]))) := by
  rw [ipv4At,bind_assoc,index_byteAt (by omega),bind_assoc,index_byteAt (by omega),bind_assoc,index_byteAt (by omega),
    bind_assoc,index_byteAt inside,pure_bind]

theorem ipv6At_inside {α : Type} {place : Nat} (inside : place + 16 ≤ packet.length) (next : IpAddr → PacketM α) :
    (ipv6At packet place >>= next) = next (.v6 (BitVec.ofNat 128 (fromBe ((packet.drop place).take 16)))) := by
  have sized : ((packet.drop place).take 16).length = 16 := by
    rw [List.length_take,List.length_drop]
    omega
  rw [ipv6At,bind_assoc,range,if_pos ⟨Nat.le_add_right _ _,inside⟩,pure_bind,Nat.add_sub_cancel_left,bind_assoc,
    copyFromSlice_bind sized,pure_bind]

/-- A slice up to a place that the packet reaches. -/
theorem range_inside {α : Type} {start stop : Nat} (ordered : start ≤ stop) (inside : stop ≤ packet.length)
    (next : Bytes → PacketM α) : (range packet start stop >>= next) = next ((packet.take stop).drop start) := by
  rw [range,if_pos ⟨ordered,inside⟩,List.drop_take]
  exact pure_bind _ next

theorem beBytes_u16Be (high low : UInt8) : beBytes (u16Be high low) = [high,low] := by
  have first := high.toNat_lt
  have second := low.toNat_lt
  have value : (u16Be high low).toNat = high.toNat * 256 + low.toNat := by
    rw [u16Be,UInt16.toNat_ofNat']
    omega
  rw [beBytes,value]
  congr 2
  · apply UInt8.toNat_inj.mp
    rw [UInt8.toNat_ofNat']
    omega
  · apply UInt8.toNat_inj.mp
    rw [UInt8.toNat_ofNat']
    omega

theorem parsePorts_inside (long : 4 ≤ packet.length) :
    ∃ ports : UInt16 × UInt16, parsePorts packet = done (.ok ports) ∧ packet.take 4 = beBytes ports.1 ++ beBytes ports.2 := by
  refine ⟨(u16Be (byteAt packet 0) (byteAt packet 1),u16Be (byteAt packet 2) (byteAt packet 3)),?_,?_⟩
  · rw [parsePorts,if_neg (by omega),readU16Be_inside (by omega),readU16Be_inside (by omega)]
    rfl
  · rw [beBytes_u16Be,beBytes_u16Be]
    match packet, long with
    | _::_::_::_::_, _ => rfl

theorem new_port (address : IpAddr) (port : UInt16) : (SocketAddr.new address port).port = port := by
  cases address <;> rfl

theorem parsePorts_short (short : ¬4 ≤ packet.length) : parsePorts packet = done (.error .missingTransportHeader) := by
  rw [parsePorts,if_pos (by omega)]
  rfl

/-- The parser does not panic. It reports a flow exactly when `accepted` holds, and then with the
ports at the front of the payload. -/
structure Reports (run : PacketM PacketFlow) (accepted : Prop) (payload : Bytes) : Prop where
  total : ∃ result, run = done result
  reported : (∃ flow, run = done (.ok flow)) ↔ accepted
  ports : ∀ flow, run = done (.ok flow) → payload.take 4 = beBytes flow.source.port ++ beBytes flow.destination.port

theorem reports_error {accepted : Prop} (error : PacketParseError) (payload : Bytes) (against : ¬accepted) :
    Reports (throw error) accepted payload := by
  have never (flow : PacketFlow) : (throw error : PacketM PacketFlow) ≠ done (.ok flow) := fun same => nomatch done_inj.mp same
  exact ⟨⟨_,rfl⟩,⟨fun ⟨flow,same⟩ => absurd same (never flow),fun held => absurd held against⟩,
    fun flow same => absurd same (never flow)⟩

theorem parseTransport_reports (protocol : UInt8) (source destination : IpAddr) (transport : Bytes) :
    Reports (parseTransport protocol source destination transport)
      ((protocol = tcpProtocol ∨ protocol = udpProtocol) ∧ 4 ≤ transport.length) transport := by
  by_cases known : protocol = tcpProtocol ∨ protocol = udpProtocol
  · by_cases long : 4 ≤ transport.length
    · obtain ⟨ports,parsed,bytes⟩ := parsePorts_inside long
      obtain ⟨classified,made⟩ : ∃ classified, parseTransport protocol source destination transport =
          done (.ok ⟨.new source ports.1,.new destination ports.2,classified⟩) := by
        rw [parseTransport,parsed]
        rcases known with rfl | rfl <;> exact ⟨_,rfl⟩
      rw [made]
      refine ⟨⟨_,rfl⟩,⟨fun _ => ⟨known,long⟩,fun _ => ⟨_,rfl⟩⟩,fun flow same => ?_⟩
      cases done_inj.mp same
      rw [new_port,new_port,bytes]
    · have made : parseTransport protocol source destination transport = done (.error .missingTransportHeader) := by
        rw [parseTransport,parsePorts_short long]
        rcases known with rfl | rfl <;> rfl
      rw [made]
      exact reports_error _ _ fun both => long both.2
  · obtain ⟨tcp,udp⟩ := not_or.mp known
    rw [parseTransport,if_neg tcp,if_neg udp]
    exact reports_error _ _ fun both => known both.1

end Reads

section Parsers
variable (packet : Bytes)

theorem parseIpv4Packet_reports : Reports (parseIpv4Packet packet)
    (Ipv4 packet ∧ (byteAt packet 9 = tcpProtocol ∨ byteAt packet 9 = udpProtocol) ∧ headerLen packet + 4 ≤ wordAt packet 2)
    ((packet.take (wordAt packet 2)).drop (headerLen packet)) := by
  rw [parseIpv4Packet]
  split
  · rename_i short
    exact reports_error _ _ fun all => absurd all.1.long (Nat.not_le.mpr short)
  · rename_i long
    have size : 20 ≤ packet.length := Nat.not_lt.mp long
    rw [index_byteAt (by omega)]
    dsimp only
    split
    · rename_i other
      exact reports_error _ _ fun all => other all.1.version
    · rename_i version
      split
      · rename_i header
        exact reports_error _ _ fun all => absurd all.1.header (Nat.not_le.mpr header)
      · rename_i header
        split
        · rename_i cut
          exact reports_error _ _ fun all => absurd (Nat.le_trans all.1.total all.1.whole) (Nat.not_le.mpr cut)
        · rw [readU16Be_inside (by omega)]
          split
          · rename_i truncated
            refine reports_error _ _ fun all => ?_
            rcases truncated with before | past
            · exact absurd all.1.total (Nat.not_le.mpr before)
            · exact absurd all.1.whole (Nat.not_le.mpr past)
          · rename_i whole
            obtain ⟨total,inside⟩ := not_or.mp whole
            have ends : wordAt packet 2 ≤ packet.length := Nat.not_lt.mp inside
            have starts : headerLen packet ≤ wordAt packet 2 := Nat.not_lt.mp total
            have payload : ((packet.take (wordAt packet 2)).drop (headerLen packet)).length = wordAt packet 2 - headerLen packet := by
              rw [List.length_drop,List.length_take,Nat.min_eq_left ends]
            rw [index_byteAt (by omega),ipv4At_inside (by omega),ipv4At_inside (by omega)]
            change Reports (range packet (headerLen packet) (wordAt packet 2) >>= _) _ _
            rw [range_inside starts ends]
            obtain ⟨kept,reported,ports⟩ := parseTransport_reports (byteAt packet 9) (.v4 (BitVec.ofNat 32 (fromBe [byteAt packet 12,
              byteAt packet 13,byteAt packet 14,byteAt packet 15]))) (.v4 (BitVec.ofNat 32 (fromBe [byteAt packet 16,
              byteAt packet 17,byteAt packet 18,byteAt packet 19]))) ((packet.take (wordAt packet 2)).drop (headerLen packet))
            refine ⟨kept,reported.trans ?_,ports⟩
            rw [payload]
            have shape : Ipv4 packet := ⟨size,Decidable.of_not_not version,Nat.not_lt.mp header,starts,ends⟩
            exact ⟨fun ⟨known,long⟩ => ⟨shape,known,by omega⟩,fun ⟨_,known,long⟩ => ⟨known,by omega⟩⟩

theorem parseIpv6Packet_reports : Reports (parseIpv6Packet packet)
    (Ipv6 packet ∧ (byteAt packet 6 = tcpProtocol ∨ byteAt packet 6 = udpProtocol) ∧ 4 ≤ wordAt packet 4)
    ((packet.take (40 + wordAt packet 4)).drop 40) := by
  rw [parseIpv6Packet]
  split
  · rename_i short
    exact reports_error _ _ fun all => absurd all.1.long (Nat.not_le.mpr short)
  · rename_i long
    have size : 40 ≤ packet.length := Nat.not_lt.mp long
    rw [index_byteAt (by omega)]
    dsimp only
    split
    · rename_i other
      exact reports_error _ _ fun all => other all.1.version
    · rename_i version
      rw [readU16Be_inside (by omega)]
      split
      · rename_i truncated
        exact reports_error _ _ fun all => absurd all.1.whole (Nat.not_le.mpr truncated)
      · rename_i whole
        have ends : 40 + wordAt packet 4 ≤ packet.length := Nat.not_lt.mp whole
        have payload : ((packet.take (40 + wordAt packet 4)).drop 40).length = wordAt packet 4 := by
          rw [List.length_drop,List.length_take,Nat.min_eq_left ends]
          omega
        rw [index_byteAt (by omega),ipv6At_inside (by omega),ipv6At_inside (by omega)]
        change Reports (range packet 40 (40 + wordAt packet 4) >>= _) _ _
        rw [range_inside (Nat.le_add_right _ _) ends]
        obtain ⟨kept,reported,ports⟩ := parseTransport_reports (byteAt packet 6)
          (.v6 (BitVec.ofNat 128 (fromBe ((packet.drop 8).take 16)))) (.v6 (BitVec.ofNat 128 (fromBe ((packet.drop 24).take 16))))
          ((packet.take (40 + wordAt packet 4)).drop 40)
        refine ⟨kept,reported.trans ?_,ports⟩
        rw [payload]
        have shape : Ipv6 packet := ⟨size,Decidable.of_not_not version,ends⟩
        exact ⟨fun ⟨known,enough⟩ => ⟨shape,known,enough⟩,fun ⟨_,known,enough⟩ => ⟨known,enough⟩⟩

theorem parseIpPacket_cases : (version packet = 4 ∧ parseIpPacket packet = parseIpv4Packet packet) ∨
    (version packet = 6 ∧ parseIpPacket packet = parseIpv6Packet packet) ∨
    version packet ≠ 4 ∧ ∃ error, parseIpPacket packet = throw error := by
  cases packet with
  | nil => exact .inr (.inr ⟨by decide,_,rfl⟩)
  | cons first rest =>
    by_cases four : first >>> 4 = 4
    · exact .inl ⟨four,if_pos four⟩
    · by_cases six : first >>> 4 = 6
      · exact .inr (.inl ⟨six,(if_neg four).trans (if_pos six)⟩)
      · exact .inr (.inr ⟨four,_,(if_neg four).trans (if_neg six)⟩)

variable {packet}

-- Of a later fragment the first bytes of the payload are reported as ports.
theorem late_unsound (late : LateFragment packet) : ¬Sound packet := by
  have made : ∃ flow, parseIpPacket packet = done (.ok flow) := by
    rcases parseIpPacket_cases packet with ⟨_,same⟩ | ⟨six,_⟩ | ⟨other,_⟩
    · rw [same]
      exact (parseIpv4Packet_reports packet).reported.mpr ⟨late.shape,late.protocol,late.payload⟩
    · exact absurd (late.shape.version.symm.trans six) (by decide)
    · exact absurd late.shape.version other
  intro sound
  obtain ⟨flow,reported⟩ := made
  obtain ⟨protocol,payload,carries,-,-⟩ := (sound.reported flow reported).ports
  cases carries with
  | ipv4 shape first => exact late.late first
  | ipv6 shape => exact absurd (late.shape.version.symm.trans shape.version) (by decide)

theorem initial_sound (initial : ¬LateFragment packet) : Sound packet := by
  rcases parseIpPacket_cases packet with ⟨_,same⟩ | ⟨_,same⟩ | ⟨_,error,refused⟩
  · obtain ⟨total,reported,ports⟩ := parseIpv4Packet_reports packet
    rw [← same] at total reported ports
    refine ⟨total,fun flow made => ⟨byteAt packet 9,_,?_,(reported.mp ⟨flow,made⟩).2.1,ports flow made⟩⟩
    obtain ⟨shape,known,long⟩ := reported.mp ⟨flow,made⟩
    exact .ipv4 shape (by_contra fun late => initial ⟨shape,known,late,long⟩)
  · obtain ⟨total,reported,ports⟩ := parseIpv6Packet_reports packet
    rw [← same] at total reported ports
    refine ⟨total,fun flow made => ⟨byteAt packet 6,_,?_,(reported.mp ⟨flow,made⟩).2.1,ports flow made⟩⟩
    exact .ipv6 (reported.mp ⟨flow,made⟩).1
  · refine ⟨⟨_,refused⟩,fun flow made => ?_⟩
    rw [refused] at made
    cases done_inj.mp made

theorem sound_iff (packet : Bytes) : Sound packet ↔ ¬LateFragment packet :=
  ⟨fun sound late => late_unsound late sound,initial_sound⟩

/-- The second fragment of a TCP segment: its payload 1, 2, 3 and 4 is taken for two ports. -/
theorem late_ports :
    parseIpPacket [0x45,0,0,24,0,0,0,1,64,6,0,0,10,0,0,1,10,0,0,2,1,2,3,4] =
      done (.ok ⟨.v4 0x0a000001 0x0102,.v4 0x0a000002 0x0304,.tcp⟩) ∧
    ¬Sound [0x45,0,0,24,0,0,0,1,64,6,0,0,10,0,0,1,10,0,0,2,1,2,3,4] := by
  refine ⟨rfl,late_unsound ⟨⟨?_,?_,?_,?_,?_⟩,?_,?_,?_⟩⟩ <;> decide

end Parsers

end Dynet.Capture.Packet
