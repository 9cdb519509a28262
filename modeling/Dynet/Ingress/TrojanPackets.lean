import Dynet.Ingress.UdpFraming
import Dynet.Lib.StreamEnd

/-! Trojan UDP packets on a byte stream: every read takes one packet of the grammar or
fails, and concatenated packets are read back one by one. -/
namespace Dynet.Ingress.Trojan
open Dynet.Lib.Checks Dynet.Lib.StreamReader Dynet.Runtime

/-- One call of `read_udp_packet` on the rest of a stream. -/
def readUdpPacket (stream : Bytes) : Except ProtocolError Bytes × Bytes :=
  let (result,_,rest) := (readDatagram ()).consume () stream
  (result,rest)

def readUdpPackets : Nat → Bytes → Except ProtocolError (List Bytes) × Bytes
  | 0, stream => (.ok [],stream)
  | n+1, stream => match readUdpPacket stream with
    | (.error e,rest) => (.error e,rest)
    | (.ok payload,rest) =>
      let (payloads,rest) := readUdpPackets n rest
      (payloads.map (payload::·),rest)

inductive Address : Bytes → Prop
  | v4 (rest : Bytes) (length : rest.length = 4 + 2) : Address (1::rest)
  | domain (size : UInt8) (rest : Bytes) (length : rest.length = size.toNat + 2) : Address (3::size::rest)
  | v6 (rest : Bytes) (length : rest.length = 16 + 2) : Address (4::rest)

/-- The grammar of a packet, with the payload it carries. -/
inductive Packet : Bytes → Bytes → Prop
  | mk (address size payload : Bytes) (addressed : Address address) (two : size.length = 2)
      (sized : fromBe16 size = payload.length) : Packet (address ++ (size ++ (crlf ++ payload))) payload

theorem writeAddress_address (target : SocketAddr) : Address (writeAddress target) := by
  cases target with
  | v4 address port => exact .v4 _ (by simp [octets_length,toBe16_length])
  | v6 address port flowinfo scopeId => exact .v6 _ (by simp [octets_length,toBe16_length])

theorem udpPacket_packet {target : SocketAddr} {payload packet : Bytes} (encoded : udpPacket target payload = .ok packet) :
    Packet packet payload := by
  obtain ⟨small,rfl⟩ := (udpPacket_ok_iff target payload packet).mp encoded
  exact .mk _ _ _ (writeAddress_address target) (toBe16_length _) (fromBe16_toBe16 small)

section Read
variable (rest : DatagramReader Unit)

theorem readAddress_taken {address : Bytes} (addressed : Address address) (stream : Bytes) :
    (readAddress rest).consume () (address ++ stream) = rest.consume () stream := by
  cases addressed with
  | v4 port length =>
    have kind := consume_exactly () readError 1 (readAddressRest rest) [1] (port ++ stream) rfl
    exact kind.trans (consume_exactly () readError 6 (fun _ => rest) port stream length)
  | domain size port length =>
    have kind := consume_exactly () readError 1 (readAddressRest rest) [3] ([size] ++ (port ++ stream)) rfl
    have sized := consume_exactly () readError 1
      (fun length => .exactly readError ((length.headD 0).toNat + 2) fun _ => rest) [size] (port ++ stream) rfl
    exact kind.trans (sized.trans (consume_exactly () readError _ (fun _ => rest) port stream length))
  | v6 port length =>
    have kind := consume_exactly () readError 1 (readAddressRest rest) [4] (port ++ stream) rfl
    exact kind.trans (consume_exactly () readError 18 (fun _ => rest) port stream length)

theorem readAddress_cases (stream : Bytes) :
    (∃ e left, (readAddress rest).consume () stream = (.error e,(),left)) ∨
    ∃ address after, Address address ∧ stream = address ++ after ∧
      (readAddress rest).consume () stream = rest.consume () after := by
  have early : ∃ e, readError = .error e := ⟨_,rfl⟩
  obtain ⟨e,early⟩ := early
  obtain short | ⟨kind,after,rfl,length,read⟩ :=
    consume_exactly_cases () readError 1 (readAddressRest rest) stream
  · exact .inl ⟨e,[],by rw [readAddress,short,early]⟩
  · obtain ⟨atyp,rfl⟩ := List.length_eq_one_iff.mp length
    rw [readAddress,read]
    unfold readAddressRest
    split
    · rename_i known
      obtain short | ⟨port,later,rfl,filled,taken⟩ := consume_exactly_cases () readError 6 (fun _ => rest) after
      · exact .inl ⟨e,[],by rw [short,early]⟩
      · obtain rfl : atyp = 1 := known
        exact .inr ⟨1::port,later,.v4 port filled,rfl,taken⟩
    · rename_i known
      obtain short | ⟨size,later,rfl,one,sized⟩ := consume_exactly_cases () readError 1
        (fun length => .exactly readError ((length.headD 0).toNat + 2) fun _ => rest) after
      · exact .inl ⟨e,[],by rw [short,early]⟩
      · obtain ⟨size,rfl⟩ := List.length_eq_one_iff.mp one
        rw [sized]
        obtain short | ⟨port,last,rfl,filled,taken⟩ := consume_exactly_cases () readError
          (([size].headD 0).toNat + 2) (fun _ => rest) later
        · exact .inl ⟨e,[],by rw [short,early]⟩
        · obtain rfl : atyp = 3 := known
          exact .inr ⟨3::size::port,last,.domain size port filled,rfl,taken⟩
    · rename_i known
      obtain short | ⟨port,later,rfl,filled,taken⟩ := consume_exactly_cases () readError 18 (fun _ => rest) after
      · exact .inl ⟨e,[],by rw [short,early]⟩
      · obtain rfl : atyp = 4 := known
        exact .inr ⟨4::port,later,.v6 port filled,rfl,taken⟩
    · exact .inl ⟨_,after,consume_done () _ after⟩

end Read

theorem readUdpPacket_taken {packet payload : Bytes} (one : Packet packet payload) (stream : Bytes) :
    readUdpPacket (packet ++ stream) = (.ok payload,stream) := by
  obtain ⟨address,size,payload,addressed,two,sized⟩ := one
  have length := consume_exactly () readError 2
    (fun length => .exactly readError 2 (readPayload length)) size (crlf ++ (payload ++ stream)) two
  have delimiter := consume_exactly () readError 2 (readPayload size) crlf (payload ++ stream) rfl
  have body := consume_exactly () readError (fromBe16 size) (fun payload => .done (.ok payload)) payload stream sized.symm
  rw [readUdpPacket,readDatagram,List.append_assoc,List.append_assoc,List.append_assoc,readAddress_taken _ addressed,
    readLength,length,delimiter,readPayload,if_neg (by simp),body,consume_done]

/-- A read fails or takes exactly one packet of the grammar. -/
theorem readUdpPacket_cases (stream : Bytes) :
    (∃ e left, readUdpPacket stream = (.error e,left)) ∨
    ∃ packet payload rest, Packet packet payload ∧ stream = packet ++ rest ∧ readUdpPacket stream = (.ok payload,rest) := by
  obtain ⟨early,known⟩ : ∃ e, readError = .error e := ⟨_,rfl⟩
  obtain ⟨e,left,failed⟩ | ⟨address,after,addressed,rfl,read⟩ := readAddress_cases readLength stream
  · exact .inl ⟨e,left,by rw [readUdpPacket,readDatagram,failed]⟩
  · obtain short | ⟨size,later,rfl,two,sized⟩ := consume_exactly_cases () readError 2
      (fun length => .exactly readError 2 (readPayload length)) after
    · exact .inl ⟨early,[],by rw [readUdpPacket,readDatagram,read,readLength,short,known]⟩
    · obtain short | ⟨delimiter,last,rfl,_,delimited⟩ := consume_exactly_cases () readError 2 (readPayload size) later
      · exact .inl ⟨early,[],by rw [readUdpPacket,readDatagram,read,readLength,sized,short,known]⟩
      · by_cases right : delimiter = crlf
        · subst right
          obtain short | ⟨payload,rest,rfl,length,body⟩ := consume_exactly_cases () readError (fromBe16 size)
            (fun payload => .done (.ok payload)) last
          · refine .inl ⟨early,[],?_⟩
            rw [readUdpPacket,readDatagram,read,readLength,sized,delimited,readPayload,if_neg (by simp),short,known]
          · have one := Packet.mk address size payload addressed two length.symm
            have whole : address ++ (size ++ (crlf ++ (payload ++ rest))) =
                address ++ (size ++ (crlf ++ payload)) ++ rest := by simp
            refine .inr ⟨_,payload,rest,one,whole,?_⟩
            rw [whole]
            exact readUdpPacket_taken one rest
        · refine .inl ⟨⟨"outbound-protocol","invalid Trojan UDP packet delimiter"⟩,last,?_⟩
          rw [readUdpPacket,readDatagram,read,readLength,sized,delimited,readPayload,if_pos right,consume_done]
          rfl

theorem readUdpPackets_frames {packets : List (SocketAddr × Bytes)} {frames : List Bytes}
    (encoded : List.Forall₂ (fun packet frame => udpPacket packet.1 packet.2 = .ok frame) packets frames) (stream : Bytes) :
    readUdpPackets packets.length (frames.flatten ++ stream) = (.ok (packets.map (·.2)),stream) := by
  induction encoded with
  | nil => rfl
  | cons head _ ih =>
    rw [List.length_cons,readUdpPackets,List.flatten_cons,List.append_assoc,
      readUdpPacket_taken (udpPacket_packet head)]
    simp only [ih]
    rfl

theorem udpPackets_encoded {packets : List (SocketAddr × Bytes)} (small : ∀ packet ∈ packets, packet.2.length ≤ 65535) :
    ∃ frames, packets.mapM (fun packet => udpPacket packet.1 packet.2) = .ok frames := by
  induction packets with
  | nil => exact ⟨[],rfl⟩
  | cons packet packets ih =>
    obtain ⟨first,small⟩ := List.forall_mem_cons.mp small
    obtain ⟨frames,rest⟩ := ih small
    obtain ⟨frame,here⟩ : ∃ frame, udpPacket packet.1 packet.2 = .ok frame :=
      ⟨_,(udpPacket_ok_iff _ _ _).mpr ⟨by omega,rfl⟩⟩
    exact ⟨frame::frames,by rw [List.mapM_cons,here,rest]; rfl⟩

/-- Encoded packets are read back one by one with nothing left, and on any stream a read
fails or takes exactly one packet of the grammar and returns its payload. -/
theorem udpPackets_round_trip :
    (∀ packets : List (SocketAddr × Bytes), (∀ packet ∈ packets, packet.2.length ≤ 65535) →
      ∃ frames, packets.mapM (fun packet => udpPacket packet.1 packet.2) = .ok frames ∧
        readUdpPackets packets.length frames.flatten = (.ok (packets.map (·.2)),[])) ∧
    (∀ stream, (∃ e left, readUdpPacket stream = (.error e,left)) ∨
      ∃ packet payload rest, Packet packet payload ∧ stream = packet ++ rest ∧ readUdpPacket stream = (.ok payload,rest)) ∧
    ∀ packet payload rest, Packet packet payload → readUdpPacket (packet ++ rest) = (.ok payload,rest) := by
  refine ⟨fun packets small => ?_,readUdpPacket_cases,fun packet payload rest one => readUdpPacket_taken one rest⟩
  obtain ⟨frames,encoded⟩ := udpPackets_encoded small
  have read := readUdpPackets_frames ((mapM_forall₂ _ _ _).mp encoded) []
  rw [List.append_nil] at read
  exact ⟨frames,encoded,read⟩

-- The payload holds the delimiter.
theorem crlf_packet_read :
    (∃ frames, [(SocketAddr.v4 0x01020304 53,[13,10,7])].mapM (fun packet => udpPacket packet.1 packet.2) = .ok frames ∧
      readUdpPackets 1 frames.flatten = (.ok [[13,10,7]],[])) ∧
    readUdpPacket ([3,1,97,0,53,0,1,13,10,7] ++ [8]) = (.ok [7],[8]) :=
  ⟨udpPackets_round_trip.1 [(.v4 0x01020304 53,[13,10,7])] (by decide),
    udpPackets_round_trip.2.2 _ _ _ (.mk [3,1,97,0,53] [0,1] [7] (.domain 1 [97,0,53] rfl) rfl rfl)⟩

end Dynet.Ingress.Trojan
