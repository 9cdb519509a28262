import Dynet.Lib.Slices
import Dynet.Lib.Utf8
import Dynet.Shadowsocks.Udp

/-! The header of a SOCKS5 UDP packet: reserved bytes, a fragment number, an address of one
of three types and a port. The parser and the encoder of replies stand in different files. -/
namespace Dynet.Ingress.Socks
open Dynet.Lib.Slices Dynet.Lib.Utf8 Dynet.Runtime
open Dynet.Shadowsocks (beBytes fromBe fromBe_beBytes fromBe_lt beBytes_fromBe beBytes_length)

abbrev Bytes := List UInt8

def socksAtypIpv4 : UInt8 := 1
def socksAtypDomain : UInt8 := 3
def socksAtypIpv6 : UInt8 := 4

structure SocksError where
  stage : String
  message : String
  deriving DecidableEq, Repr

inductive SocksDestination where
  | socket (address : SocketAddr)
  | domain (domain : String) (port : UInt16)
  deriving DecidableEq, Repr

structure SocksUdpPacket where
  destination : SocksDestination
  payload : Bytes
  deriving DecidableEq, Repr

def refuse {α : Type} (message : String) : Guarded SocksError α := throw ⟨"socks-udp-read",message⟩

section Parse
variable (packet : Bytes) (cursor : Nat)

def parseUdpIpv4 : Guarded SocksError (SocksDestination × Nat) :=
  if packet.length < cursor + 6 then refuse "SOCKS5 UDP IPv4 target is truncated"
  else do
    let a ← index packet cursor
    let b ← index packet (cursor + 1)
    let c ← index packet (cursor + 2)
    let d ← index packet (cursor + 3)
    let high ← index packet (cursor + 4)
    let low ← index packet (cursor + 5)
    return (.socket (.v4 (.ofNat 32 (fromBe [a,b,c,d])) (.ofNat (fromBe [high,low]))),cursor + 6)

def parseUdpIpv6 : Guarded SocksError (SocksDestination × Nat) :=
  if packet.length < cursor + 18 then refuse "SOCKS5 UDP IPv6 target is truncated"
  else do
    let source ← range packet cursor (cursor + 16)
    let address ← copyFromSlice 16 source
    let high ← index packet (cursor + 16)
    let low ← index packet (cursor + 17)
    return (.socket (.v6 (.ofNat 128 (fromBe address)) (.ofNat (fromBe [high,low])) 0 0),cursor + 18)

def parseUdpDomain : Guarded SocksError (SocksDestination × Nat) :=
  match packet[cursor]? with
  | none => refuse "SOCKS5 UDP domain length is missing"
  | some length =>
    let domainStart := cursor + 1
    let domainEnd := domainStart + length.toNat
    if packet.length < domainEnd + 2 then refuse "SOCKS5 UDP domain target is truncated"
    else do
      let bytes ← range packet domainStart domainEnd
      match fromUtf8 bytes with
      | none => refuse s!"SOCKS5 UDP domain is not UTF-8: {utf8Error bytes}"
      | some domain => do
        let high ← index packet domainEnd
        let low ← index packet (domainEnd + 1)
        return (.domain domain (.ofNat (fromBe [high,low])),domainEnd + 2)

def parseUdpDestination (offset : Nat) : Guarded SocksError (SocksDestination × Nat) :=
  match packet[offset]? with
  | none => refuse "SOCKS5 UDP address type is missing"
  | some atyp =>
    if atyp = socksAtypIpv4 then parseUdpIpv4 packet (offset + 1)
    else if atyp = socksAtypIpv6 then parseUdpIpv6 packet (offset + 1)
    else if atyp = socksAtypDomain then parseUdpDomain packet (offset + 1)
    else refuse "unsupported SOCKS5 UDP address type"

def parseUdpPacket : Guarded SocksError SocksUdpPacket :=
  if packet.length < 4 then refuse "SOCKS5 UDP packet is too short"
  else do
    let first ← index packet 0
    let second ← if first ≠ 0 then pure first else index packet 1
    if second ≠ 0 then refuse "SOCKS5 UDP reserved bytes must be zero"
    else do
      let fragment ← index packet 2
      if fragment ≠ 0 then refuse "SOCKS5 UDP fragmentation is not supported"
      else do
        let (destination,offset) ← parseUdpDestination packet 3
        let payload ← range packet offset packet.length
        return ⟨destination,payload⟩

end Parse

def addressBytes : SocketAddr → Bytes
  | .v4 address port => 1::(beBytes 4 address.toNat ++ beBytes 2 port.toNat)
  | .v6 address port _ _ => 4::(beBytes 16 address.toNat ++ beBytes 2 port.toNat)

/-- The encoder of `UdpDownstream`. -/
def socks5UdpPacket (target : SocketAddr) (payload : Bytes) : Bytes := [0,0,0] ++ addressBytes target ++ payload

def destinationBytes : SocksDestination → Bytes
  | .socket address => addressBytes address
  | .domain domain port => 3::UInt8.ofNat (asBytes domain).length::(asBytes domain ++ beBytes 2 port.toNat)

/-- The grammar: two reserved bytes and the fragment number, all zero, an address with its
type, a port and the data. -/
def packetBytes (packet : SocksUdpPacket) : Bytes := [0,0,0] ++ (destinationBytes packet.destination ++ packet.payload)

/-- What the address part can express: no flow information or scope, and a domain whose
length fits into a byte. -/
def Expressible : SocksDestination → Prop
  | .socket (.v4 _ _) => True
  | .socket (.v6 _ _ flowinfo scopeId) => flowinfo = 0 ∧ scopeId = 0
  | .domain domain _ => (asBytes domain).length < 256

theorem port_bytes (high low : UInt8) : beBytes 2 (UInt16.ofNat (fromBe [high,low])).toNat = [high,low] := by
  have power : 256 ^ 2 = 2 ^ 16 := rfl
  rw [UInt16.toNat_ofNat',Nat.mod_eq_of_lt (power ▸ fromBe_lt [high,low])]
  exact beBytes_fromBe [high,low]

theorem port_value (port : UInt16) : UInt16.ofNat (fromBe (beBytes 2 port.toNat)) = port := by
  have small : port.toNat < 256 ^ 2 := port.toNat_lt
  rw [fromBe_beBytes,Nat.mod_eq_of_lt small,UInt16.ofNat_toNat]

theorem address_bytes (width bits : Nat) (power : 256 ^ width = 2 ^ bits) (bytes : Bytes) (sized : bytes.length = width) :
    beBytes width (BitVec.ofNat bits (fromBe bytes)).toNat = bytes := by
  subst sized
  rw [BitVec.toNat_ofNat,Nat.mod_eq_of_lt (power ▸ fromBe_lt bytes)]
  exact beBytes_fromBe bytes

theorem address_value (width : Nat) {bits : Nat} (power : 256 ^ width = 2 ^ bits) (address : BitVec bits) :
    BitVec.ofNat bits (fromBe (beBytes width address.toNat)) = address := by
  rw [fromBe_beBytes,power,Nat.mod_eq_of_lt address.isLt,BitVec.ofNat_toNat,BitVec.setWidth_eq]

section Addresses
variable (front payload : Bytes)

theorem parseUdpIpv4_bytes (a b c d high low : UInt8) :
    parseUdpIpv4 (front ++ (a::b::c::d::high::low::payload)) front.length =
      pure (.socket (.v4 (.ofNat 32 (fromBe [a,b,c,d])) (.ofNat (fromBe [high,low]))),front.length + 6) := by
  have long : ¬(front ++ (a::b::c::d::high::low::payload)).length < front.length + 6 := by simp
  rw [parseUdpIpv4,if_neg long,index_bind (x := a) (by simp),index_bind (x := b) (by simp),index_bind (x := c) (by simp),
    index_bind (x := d) (by simp),index_bind (x := high) (by simp),index_bind (x := low) (by simp)]

theorem parseUdpIpv6_bytes (address : Bytes) (sized : address.length = 16) (high low : UInt8) :
    parseUdpIpv6 (front ++ (address ++ high::low::payload)) front.length =
      pure (.socket (.v6 (.ofNat 128 (fromBe address)) (.ofNat (fromBe [high,low])) 0 0),front.length + 18) := by
  have long : ¬(front ++ (address ++ high::low::payload)).length < front.length + 18 := by
    simp only [List.length_append,List.length_cons,sized]
    omega
  have first : (front ++ (address ++ high::low::payload))[front.length + 16]? = some high := by
    rw [List.getElem?_append_right (by omega),Nat.add_sub_cancel_left,← sized,List.getElem?_append_right (Nat.le_refl _),Nat.sub_self]
    rfl
  have second : (front ++ (address ++ high::low::payload))[front.length + 17]? = some low := by
    rw [List.getElem?_append_right (by omega),Nat.add_sub_cancel_left,List.getElem?_append_right (by omega),sized]
    rfl
  rw [parseUdpIpv6,if_neg long,range_bind front address _ _ rfl (by rw [sized]),copyFromSlice_bind sized,
    index_bind first,index_bind second]

theorem parseUdpDomain_bytes (name : Bytes) (short : name.length < 256) (high low : UInt8) :
    parseUdpDomain (front ++ (UInt8.ofNat name.length::(name ++ high::low::payload))) front.length =
      match fromUtf8 name with
      | none => refuse s!"SOCKS5 UDP domain is not UTF-8: {utf8Error name}"
      | some domain => pure (.domain domain (.ofNat (fromBe [high,low])),front.length + 1 + name.length + 2) := by
  have size : (UInt8.ofNat name.length).toNat = name.length := by
    rw [UInt8.toNat_ofNat']
    omega
  have counted : (front ++ (UInt8.ofNat name.length::(name ++ high::low::payload)))[front.length]? =
      some (UInt8.ofNat name.length) := by simp
  have long : ¬(front ++ (UInt8.ofNat name.length::(name ++ high::low::payload))).length <
      front.length + 1 + name.length + 2 := by
    simp only [List.length_append,List.length_cons]
    omega
  have shifted : front ++ (UInt8.ofNat name.length::(name ++ high::low::payload)) =
      (front ++ [UInt8.ofNat name.length]) ++ (name ++ high::low::payload) := by simp
  have begun : front.length + 1 = (front ++ [UInt8.ofNat name.length]).length := by simp
  have first : (front ++ (UInt8.ofNat name.length::(name ++ high::low::payload)))[front.length + 1 + name.length]? =
      some high := by
    rw [shifted,begun,List.getElem?_append_right (by omega),Nat.add_sub_cancel_left,
      List.getElem?_append_right (Nat.le_refl _),Nat.sub_self]
    rfl
  have second : (front ++ (UInt8.ofNat name.length::(name ++ high::low::payload)))[front.length + 1 + name.length + 1]? =
      some low := by
    rw [shifted,begun,Nat.add_assoc,List.getElem?_append_right (by omega),Nat.add_sub_cancel_left,
      List.getElem?_append_right (by omega),Nat.add_sub_cancel_left]
    rfl
  rw [parseUdpDomain,counted]
  simp only [size,if_neg long]
  rw [shifted,range_bind _ name _ _ begun (by rw [begun]),← shifted]
  cases fromUtf8 name with
  | none => rfl
  | some domain => simp only [index_bind first,index_bind second]

end Addresses

theorem parseUdpDestination_type (atyp : UInt8) (rest : Bytes) :
    parseUdpDestination (0::0::0::atyp::rest) 3 =
      if atyp = socksAtypIpv4 then parseUdpIpv4 (0::0::0::atyp::rest) 4
      else if atyp = socksAtypIpv6 then parseUdpIpv6 (0::0::0::atyp::rest) 4
      else if atyp = socksAtypDomain then parseUdpDomain (0::0::0::atyp::rest) 4
      else refuse "unsupported SOCKS5 UDP address type" := rfl

theorem parseUdpPacket_header (first second fragment atyp : UInt8) (rest : Bytes) :
    parseUdpPacket (first::second::fragment::atyp::rest) =
      if first ≠ 0 ∨ second ≠ 0 then refuse "SOCKS5 UDP reserved bytes must be zero"
      else if fragment ≠ 0 then refuse "SOCKS5 UDP fragmentation is not supported"
      else do
        let (destination,offset) ← parseUdpDestination (first::second::fragment::atyp::rest) 3
        let payload ← range (first::second::fragment::atyp::rest) offset (first::second::fragment::atyp::rest).length
        return ⟨destination,payload⟩ := by
  have long : ¬(first::second::fragment::atyp::rest).length < 4 := by simp
  rw [parseUdpPacket,if_neg long,@index_bind SocksError _ _ _ 0 first rfl]
  by_cases zero : first = 0
  · rw [if_neg (not_not_intro zero),@index_bind SocksError _ _ _ 1 second rfl]
    by_cases other : second = 0
    · simp only [zero,other,ne_eq,not_true_eq_false,or_self,if_false]
      rw [@index_bind SocksError _ _ _ 2 fragment rfl]
    · simp only [other,ne_eq,not_false_eq_true,or_true,if_true]
  · simp only [zero,ne_eq,not_false_eq_true,true_or,if_true,pure_bind]

theorem parseUdpPacket_payload {atyp : UInt8} {address payload : Bytes} {destination : SocksDestination} {offset : Nat}
    (read : parseUdpDestination (0::0::0::atyp::(address ++ payload)) 3 = pure (destination,offset))
    (past : offset = 4 + address.length) :
    parseUdpPacket (0::0::0::atyp::(address ++ payload)) = pure ⟨destination,payload⟩ := by
  have whole : 0::0::0::atyp::(address ++ payload) = (0::0::0::atyp::address) ++ (payload ++ []) := by simp
  have begun : offset = (0::0::0::atyp::address).length := by
    rw [past]
    simp only [List.length_cons]
    omega
  have ended : (0::0::0::atyp::(address ++ payload)).length = (0::0::0::atyp::address).length + payload.length := by
    simp only [List.length_cons,List.length_append]
    omega
  rw [parseUdpPacket_header,if_neg (by simp),if_neg (by simp),read,pure_bind]
  simp only
  rw [ended,whole,range_bind _ payload [] _ begun rfl]

theorem parse_packetBytes {packet : SocksUdpPacket} (fits : Expressible packet.destination) :
    parseUdpPacket (packetBytes packet) = pure packet := by
  obtain ⟨destination,payload⟩ := packet
  cases destination with
  | socket address => cases address with
    | v4 address port =>
      obtain ⟨a,b,c,d,octets⟩ : ∃ a b c d, beBytes 4 address.toNat = [a,b,c,d] := ⟨_,_,_,_,rfl⟩
      obtain ⟨high,low,number⟩ : ∃ high low, beBytes 2 port.toNat = [high,low] := ⟨_,_,rfl⟩
      have bytes : packetBytes ⟨.socket (.v4 address port),payload⟩ = 0::0::0::1::([a,b,c,d,high,low] ++ payload) := by
        simp [packetBytes,destinationBytes,addressBytes,octets,number]
      have read := parseUdpIpv4_bytes [0,0,0,1] payload a b c d high low
      rw [← octets,← number,address_value 4 rfl,port_value] at read
      exact bytes ▸ parseUdpPacket_payload ((parseUdpDestination_type 1 _).trans read) rfl
    | v6 address port flowinfo scopeId =>
      obtain ⟨rfl,rfl⟩ : flowinfo = 0 ∧ scopeId = 0 := fits
      obtain ⟨high,low,number⟩ : ∃ high low, beBytes 2 port.toNat = [high,low] := ⟨_,_,rfl⟩
      have sized := beBytes_length 16 address.toNat
      have value := address_value 16 rfl address
      have bytes : packetBytes ⟨.socket (.v6 address port 0 0),payload⟩ =
          0::0::0::4::((beBytes 16 address.toNat ++ [high,low]) ++ payload) := by
        simp [packetBytes,destinationBytes,addressBytes,number]
      generalize beBytes 16 address.toNat = octets at sized value bytes
      have read := parseUdpIpv6_bytes [0,0,0,4] payload octets sized high low
      rw [← number,value,port_value] at read
      have located : parseUdpDestination (0::0::0::4::(octets ++ high::low::payload)) 3 =
          pure (.socket (.v6 address port 0 0),22) := (parseUdpDestination_type 4 _).trans read
      have joined : octets ++ high::low::payload = (octets ++ [high,low]) ++ payload := by simp
      rw [joined] at located
      rw [bytes,parseUdpPacket_payload located]
      simp [sized]
  | domain domain port =>
    obtain ⟨high,low,number⟩ : ∃ high low, beBytes 2 port.toNat = [high,low] := ⟨_,_,rfl⟩
    have bytes : packetBytes ⟨.domain domain port,payload⟩ =
        0::0::0::3::((UInt8.ofNat (asBytes domain).length::(asBytes domain ++ [high,low])) ++ payload) := by
      simp [packetBytes,destinationBytes,number]
    have read := parseUdpDomain_bytes [0,0,0,3] payload (asBytes domain) fits high low
    have joined : asBytes domain ++ high::low::payload = (asBytes domain ++ [high,low]) ++ payload := by simp
    rw [(fromUtf8_eq_some_iff _ _).mpr rfl,← number,port_value] at read
    have located : parseUdpDestination (0::0::0::3::UInt8.ofNat (asBytes domain).length::
        (asBytes domain ++ high::low::payload)) 3 = pure (.domain domain port,4 + 1 + (asBytes domain).length + 2) :=
      (parseUdpDestination_type 3 _).trans read
    rw [joined,← List.cons_append] at located
    rw [bytes,parseUdpPacket_payload located]
    simp only [List.length_cons,List.length_append,List.length_nil]
    omega

/-- An address is refused or stands in front of what follows it. -/
theorem parseUdpDestination_cases (atyp : UInt8) (rest : Bytes) :
    (∃ error, parseUdpDestination (0::0::0::atyp::rest) 3 = throw error) ∨
    ∃ destination payload, Expressible destination ∧ atyp::rest = destinationBytes destination ++ payload := by
  rw [parseUdpDestination_type]
  split
  · rename_i known
    unfold parseUdpIpv4
    split
    · exact .inl ⟨_,rfl⟩
    · rename_i long
      match rest with
      | a::b::c::d::high::low::payload =>
        refine .inr ⟨.socket (.v4 (.ofNat 32 (fromBe [a,b,c,d])) (.ofNat (fromBe [high,low]))),payload,trivial,?_⟩
        rw [destinationBytes,addressBytes,address_bytes 4 32 rfl [a,b,c,d] rfl,port_bytes,known]
        rfl
      | [] | [_] | [_,_] | [_,_,_] | [_,_,_,_] | [_,_,_,_,_] => exact absurd (by simp) long
  · split
    · rename_i known
      unfold parseUdpIpv6
      split
      · exact .inl ⟨_,rfl⟩
      · rename_i long
        simp only [List.length_cons] at long
        have sized : (rest.take 16).length = 16 := by
          rw [List.length_take]
          omega
        obtain ⟨high,low,payload,port⟩ : ∃ high low payload, rest.drop 16 = high::low::payload := by
          have more : 2 ≤ (rest.drop 16).length := by
            rw [List.length_drop]
            omega
          match rest.drop 16, more with
          | high::low::payload, _ => exact ⟨high,low,payload,rfl⟩
        refine .inr ⟨.socket (.v6 (.ofNat 128 (fromBe (rest.take 16))) (.ofNat (fromBe [high,low])) 0 0),payload,⟨rfl,rfl⟩,?_⟩
        rw [destinationBytes,addressBytes,address_bytes 16 128 rfl _ sized,port_bytes,known]
        rw [List.cons_append,List.append_assoc,List.cons_append,List.cons_append,List.nil_append,← port,
          List.take_append_drop]
        rfl
    · split
      · rename_i known
        cases rest with
        | nil => exact .inl ⟨_,rfl⟩
        | cons length more =>
          obtain short | long := Nat.lt_or_ge more.length (length.toNat + 2)
          · refine .inl ⟨⟨"socks-udp-read","SOCKS5 UDP domain target is truncated"⟩,?_⟩
            have counted : (0::0::0::atyp::length::more)[4]? = some length := rfl
            have few : (0::0::0::atyp::length::more).length < 4 + 1 + length.toNat + 2 := by
              simp only [List.length_cons]
              omega
            rw [parseUdpDomain,counted]
            exact if_pos few
          · have sized : (more.take length.toNat).length = length.toNat := by
              rw [List.length_take]
              omega
            have small := length.toNat_lt
            have size : UInt8.ofNat (more.take length.toNat).length = length := by rw [sized,UInt8.ofNat_toNat]
            obtain ⟨high,low,payload,port⟩ : ∃ high low payload, more.drop length.toNat = high::low::payload := by
              have two : 2 ≤ (more.drop length.toNat).length := by
                rw [List.length_drop]
                omega
              match more.drop length.toNat, two with
              | high::low::payload, _ => exact ⟨high,low,payload,rfl⟩
            have whole : more = more.take length.toNat ++ high::low::payload := by rw [← port,List.take_append_drop]
            generalize more.take length.toNat = name at sized size whole
            subst whole
            have read := parseUdpDomain_bytes [0,0,0,atyp] payload name (by omega) high low
            rw [size] at read
            cases decoded : fromUtf8 name with
            | none =>
              rw [decoded] at read
              exact .inl ⟨_,read⟩
            | some domain =>
              obtain rfl := (fromUtf8_eq_some_iff name domain).mp decoded
              refine .inr ⟨.domain domain (.ofNat (fromBe [high,low])),payload,by rw [Expressible]; omega,?_⟩
              rw [destinationBytes,port_bytes,size,known]
              simp [socksAtypDomain]
      · exact .inl ⟨_,rfl⟩

/-- Bytes end in an error or are a packet of the grammar. -/
theorem parse_cases (bytes : Bytes) :
    (∃ error, parseUdpPacket bytes = throw error) ∨
    ∃ packet, Expressible packet.destination ∧ bytes = packetBytes packet := by
  match bytes with
  | [] | [_] | [_,_] | [_,_,_] => exact .inl ⟨_,rfl⟩
  | first::second::fragment::atyp::rest =>
    rw [parseUdpPacket_header]
    split
    · exact .inl ⟨_,rfl⟩
    · rename_i zeros
      split
      · exact .inl ⟨_,rfl⟩
      · rename_i whole
        obtain ⟨⟨rfl,rfl⟩,rfl⟩ : (first = 0 ∧ second = 0) ∧ fragment = 0 := by
          simpa only [not_or,not_not] using And.intro zeros whole
        obtain ⟨error,refused⟩ | ⟨destination,payload,fits,same⟩ := parseUdpDestination_cases atyp rest
        · refine .inl ⟨error,?_⟩
          rw [refused]
          rfl
        · refine .inr ⟨⟨destination,payload⟩,fits,?_⟩
          rw [packetBytes,← same]
          rfl

theorem parse_expressible {bytes : Bytes} {packet : SocksUdpPacket} (parsed : (parseUdpPacket bytes).run = some (.ok packet)) :
    Expressible packet.destination := by
  obtain ⟨error,refused⟩ | ⟨other,fits,same⟩ := parse_cases bytes
  · rw [refused] at parsed
    cases parsed
  · rw [same,parse_packetBytes fits] at parsed
    cases parsed
    exact fits

theorem socks5UdpPacket_bytes (target : SocketAddr) (payload : Bytes) :
    socks5UdpPacket target payload = packetBytes ⟨.socket target,payload⟩ := List.append_assoc _ _ _

/-- What a reply is sent as is parsed to its target and payload where the target carries no
flow information or scope; and on every input the parser gives an error or the one packet
of the grammar that the input is, never leaving the buffer. -/
theorem udp_codec :
    (∀ target payload, Expressible (.socket target) →
      (parseUdpPacket (socks5UdpPacket target payload)).run = some (.ok ⟨.socket target,payload⟩)) ∧
    ∀ bytes : Bytes, (∃ error, (parseUdpPacket bytes).run = some (.error error)) ∨
      ∃ packet, Expressible packet.destination ∧ bytes = packetBytes packet ∧
        (parseUdpPacket bytes).run = some (.ok packet) := by
  constructor
  · intro target payload fits
    rw [socks5UdpPacket_bytes,parse_packetBytes fits]
    rfl
  · intro bytes
    obtain ⟨error,refused⟩ | ⟨packet,fits,same⟩ := parse_cases bytes
    · exact .inl ⟨error,by rw [refused]; rfl⟩
    · exact .inr ⟨packet,fits,same,by rw [same,parse_packetBytes fits]; rfl⟩

theorem udp_codec_ipv6 :
    (parseUdpPacket (socks5UdpPacket (.v6 1 53 0 0) [7])).run = some (.ok ⟨.socket (.v6 1 53 0 0),[7]⟩) :=
  udp_codec.1 (.v6 1 53 0 0) [7] ⟨rfl,rfl⟩

end Dynet.Ingress.Socks
