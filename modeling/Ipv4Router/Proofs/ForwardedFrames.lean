import Ipv4Router.Proofs.DatagramReadings
import Ipv4Router.Proofs.DroppedFrames

/-!
# Forwarded frames

A frame whose datagram is forwarded to a known next hop is handed to the link at once,
and nothing that the router remembers changes.  The frame is cut behind the datagram and
differs from the one that arrived in four places: the two hardware addresses, the time to
live and the checksum.

The checksum is filled anew, but it comes out as if it had been brought up to date: the
time to live is the high octet of a word of the header, so the checksum goes up by `0x0100`
when the time to live goes down by one.
-/

namespace Ipv4Router

namespace Ipv4Packet

/-- The checksum of a header whose time to live has gone down by one. -/
def agedChecksum (checksum : UInt16) : UInt16 :=
  ((checksum.toNat + 0x0100) % 0xFFFF).toUInt16

theorem toNat_agedChecksum (checksum : UInt16) :
    (agedChecksum checksum).toNat = (checksum.toNat + 0x0100) % 0xFFFF :=
  UInt16.toNat_ofNat_of_lt' (Nat.lt_trans (Nat.mod_lt _ (by decide)) (by decide))

variable {packet : Ipv4Packet}

theorem header_setTimeToLive (packet : Ipv4Packet) (value : UInt8) :
    (packet.setTimeToLive value).header = packet.header.setOctet 8 value := by
  rw [header, (sameShape_setTimeToLive packet value).headerLength_eq]
  exact Octets.take_overwrite packet.octets 8 [value] packet.headerLength

theorem length_header (read : ofOctets packet.octets = .ok packet) :
    packet.header.length = packet.headerLength := by
  obtain ⟨-, -, -, ordered, total, -⟩ := ofOctets_eq_ok_iff.mp read
  rw [header, List.length_take, Nat.min_eq_left (Nat.le_trans ordered total)]

theorem octetAt_header (read : ofOctets packet.octets = .ok packet) {offset : Nat}
    (inside : offset < minimumHeaderLength) :
    packet.header.octetAt offset = packet.octets.octetAt offset := by
  obtain ⟨-, -, minimum, -, -, -⟩ := ofOctets_eq_ok_iff.mp read
  exact Octets.octetAt_take (Nat.lt_of_lt_of_le inside minimum)

/-- A header is never zero, as it starts with the version. -/
theorem firstOctet_pos (read : ofOctets packet.octets = .ok packet) :
    0 < (packet.octets.octetAt 0).toNat := by
  obtain ⟨-, version, -, -, -, -⟩ := ofOctets_eq_ok_iff.mp read
  rcases Nat.eq_zero_or_pos (packet.octets.octetAt 0).toNat with zero | positive
  · have octet : packet.octets.octetAt 0 = 0 := UInt8.toNat_inj.mp zero
    rw [Ipv4Packet.version, octet] at version
    cases version
  · exact positive

theorem ignoresPadding_headerChecksum : IgnoresPadding headerChecksum := by
  intro packet read
  simp only [headerChecksum, Octets.wordAt]
  rw [octetAt_datagram read (by decide), octetAt_datagram read (by decide)]

/-- Once the time to live of an intact packet has gone down by one, the checksum that is
filled in is the former one, brought up to date. -/
theorem computedChecksum_aged (read : ofOctets packet.octets = .ok packet)
    (intact : packet.verifyChecksum = .ok ()) (alive : 1 ≤ packet.timeToLive.toNat) :
    ((packet.setTimeToLive (packet.timeToLive - 1)).setHeaderChecksum 0).computedChecksum =
      agedChecksum packet.headerChecksum := by
  obtain ⟨-, -, minimum, -, -, -⟩ := ofOctets_eq_ok_iff.mp read
  simp only [minimumHeaderLength] at minimum
  have longHeader := length_header read
  have headerBound := packet.headerLength_le
  have octetAt : ∀ offset < 20, packet.header.octetAt offset = packet.octets.octetAt offset :=
    fun offset inside => octetAt_header read inside
  have timeToLive : packet.header.octetAt 8 = packet.timeToLive := octetAt 8 (by decide)
  have checksum : packet.header.wordAt 10 = packet.headerChecksum := by
    rw [Octets.wordAt, octetAt 10 (by decide), octetAt 11 (by decide)]
    rfl
  have first : 0 < (packet.header.octetAt 0).toNat := by
    rw [octetAt 0 (by decide)]
    exact firstOctet_pos read
  rw [← timeToLive] at alive ⊢
  apply UInt16.toNat_inj.mp
  rw [computedChecksum, header_setHeaderChecksum, header_setTimeToLive, toNat_agedChecksum,
    ← checksum]
  exact toNat_internetChecksum_decremented (verifyChecksum_eq_ok_iff.mp intact) (by decide)
    (by decide) (by decide) (by decide) (by omega) (by omega) first alive

/-- A packet is forwarded as its datagram with two fields rewritten. -/
theorem octets_onward (read : ofOctets packet.octets = .ok packet)
    (intact : packet.verifyChecksum = .ok ()) (alive : 1 ≤ packet.timeToLive.toNat) :
    packet.onward.octets = (Octets.setOctet packet.datagram 8 (packet.timeToLive - 1)).setWord 10
      (agedChecksum packet.headerChecksum) := by
  have coreRead : ofOctets (Ipv4Packet.mk packet.datagram).octets = .ok ⟨packet.datagram⟩ :=
    ofOctets_datagram read
  have timeToLive := ignoresPadding_timeToLive packet read
  have coreIntact : (Ipv4Packet.mk packet.datagram).verifyChecksum = .ok () :=
    (ignoresPadding_verifyChecksum packet read).trans intact
  have checksum := computedChecksum_aged coreRead coreIntact (by rwa [timeToLive])
  rw [ignoresPadding_headerChecksum packet read] at checksum
  rw [onward, fillChecksum, checksum, timeToLive]
  exact Octets.overwrite_overwrite _ 10
    ((Octets.length_ofWord 0).trans (Octets.length_ofWord _).symm)

end Ipv4Packet

namespace EthernetFrame

/-- The frame up to the end of a payload of the given length, with other hardware
addresses and, in the payload, another time to live and another checksum. -/
def rewritten (frame : EthernetFrame) (length : Nat) (destination source : MacAddress)
    (timeToLive : UInt8) (checksum : UInt16) : Octets :=
  let cut : Octets := frame.octets.take (headerLength + length)
  let addressed := (cut.overwrite 0 destination.toOctets).overwrite 6 source.toOctets
  (addressed.setOctet (headerLength + 8) timeToLive).setWord (headerLength + 10) checksum

variable {frame : EthernetFrame} {length : Nat} {destination source : MacAddress}
  {timeToLive : UInt8} {checksum : UInt16}

theorem length_rewritten (whole : headerLength + length ≤ frame.octets.length) :
    (frame.rewritten length destination source timeToLive checksum).length =
      headerLength + length := by
  simp only [rewritten, Octets.length_setWord, Octets.length_setOctet, Octets.length_overwrite,
    List.length_take, Nat.min_eq_left whole]

/-- Everything behind the hardware addresses stays, apart from the time to live and the
checksum. -/
theorem octetAt_rewritten {offset : Nat} (behind : 12 ≤ offset)
    (inside : offset < headerLength + length) (notTimeToLive : offset ≠ headerLength + 8)
    (notChecksum : offset ≠ headerLength + 10 ∧ offset ≠ headerLength + 11) :
    (frame.rewritten length destination source timeToLive checksum).octetAt offset =
      frame.octets.octetAt offset := by
  have kept : ∀ {octets run : Octets} {start : Nat},
      offset < start ∨ start + run.length ≤ offset →
        (octets.overwrite start run).octetAt offset = octets.octetAt offset := by
    intro octets run start outside
    rcases outside with before | after
    · exact Octets.octetAt_overwrite_of_lt before
    · exact Octets.octetAt_overwrite_of_le after
  simp only [rewritten, Octets.setWord, Octets.setOctet]
  rw [kept, kept, kept, kept, Octets.octetAt_take inside]
  · simp only [MacAddress.length_toOctets]
    omega
  · simp only [MacAddress.length_toOctets]
    omega
  · simp only [List.length_singleton]
    omega
  · simp only [Octets.length_ofWord]
    omega

theorem overwrite_headerLength_add {payloadType : UInt16} (payload run : Octets) (start : Nat) :
    (assemble destination source payloadType payload).overwrite (headerLength + start) run =
      assemble destination source payloadType (payload.overwrite start run) := by
  have headLength : (destination.toOctets ++ source.toOctets ++
      Octets.ofWord payloadType).length = headerLength :=
    rfl
  rw [assemble, ← headLength, Octets.overwrite_append_add, assemble]

theorem rewritten_eq_assemble (long : headerLength ≤ frame.octets.length) :
    frame.rewritten length destination source timeToLive checksum =
      assemble destination source frame.payloadType
        ((Octets.setOctet (frame.payload.take length) 8 timeToLive).setWord 10 checksum) := by
  have addressed : ∀ payload : Octets,
      ((assemble frame.destination frame.source frame.payloadType payload).overwrite 0
        destination.toOctets).overwrite 6 source.toOctets =
          assemble destination source frame.payloadType payload := by
    intro payload
    have set : ((EthernetFrame.mk (assemble frame.destination frame.source frame.payloadType
        payload)).setDestination destination).setSource source =
          ⟨assemble destination source frame.payloadType payload⟩ := by
      rw [setDestination_assemble, setSource_assemble]
    simpa only [setDestination, setSource, mk.injEq] using set
  simp only [rewritten, take_octets long, addressed, Octets.setOctet, Octets.setWord,
    overwrite_headerLength_add]

end EthernetFrame

namespace Router

section Forwarding

variable {router : Router} {environment : Environment} {turn : Turn} {arrival : Interface}
  {octets : Octets} {packet : Ipv4Packet} {route : Route} {egress : Interface}
  {mac : MacAddress}

/-- An intact datagram for somebody else, with time to live to spare, goes along its
route. -/
theorem dispatch_of_routed (identification : UInt16)
    (readable : Ipv4Packet.ofFrame octets = .ok packet)
    (intact : packet.verifyChecksum = .ok ()) (notOwned : router.owns packet.destination = false)
    (lively : 2 ≤ packet.timeToLive.toNat)
    (routed : router.routes.lookup packet.destination = some route)
    (leaves : router.interfaces.byName? route.interface = some egress) :
    router.dispatch identification arrival octets =
      .ok ⟨egress, route.nextHop packet.destination, ⟨octets, .forwarded arrival.name⟩⟩ := by
  have notExpired : ¬ packet.timeToLive ≤ 1 := by
    rw [UInt8.le_iff_toNat_le, UInt8.toNat_one]
    omega
  simp only [dispatch, readable, intact, notOwned, routed, notExpired, if_false,
    Bool.false_eq_true]
  exact sendAlong_eq_ok_iff.mpr ⟨egress, leaves, rfl⟩

theorem complete_eq_rewritten {outbound : Outbound} {name : String}
    (foreign : outbound.frame.origin = .forwarded name)
    (readable : Ipv4Packet.ofFrame outbound.frame.octets = .ok packet)
    (intact : packet.verifyChecksum = .ok ()) (alive : 1 ≤ packet.timeToLive.toNat)
    (mac : MacAddress) :
    outbound.complete mac = (EthernetFrame.mk outbound.frame.octets).rewritten
      packet.totalLength mac outbound.egress.mac (packet.timeToLive - 1)
      (Ipv4Packet.agedChecksum packet.headerChecksum) := by
  obtain ⟨long, -, read⟩ := Ipv4Packet.ofFrame_eq_ok_iff.mp readable
  obtain ⟨-, -, -, -, -, rfl⟩ := Ipv4Packet.ofOctets_eq_ok_iff.mp read
  rw [Outbound.complete_of_forwarded mac foreign, EthernetFrame.rewritten_eq_assemble long]
  exact congrArg _ (Ipv4Packet.octets_onward read intact alive)

end Forwarding

/-- A datagram to forward whose next hop is known is handed to the link at once, in a
single frame, and nothing that is remembered changes.  The frame is the one that arrived, up
to the end of its datagram, with the hardware addresses of the next hop and of the egress,
one unit less to live and the checksum brought up to date.  All other octets stay, and what
is handed over holds a readable and intact datagram again. -/
theorem forwarding_rewrites_four_fields {router : Router} (connected : router.Connected)
    (environment : Environment) (turn : Turn) (arrival : Interface) {octets : Octets}
    {packet : Ipv4Packet} {route : Route} {mac : MacAddress}
    (short : octets.length ≤ EthernetFrame.maximumLength)
    (readable : Ipv4Packet.ofOctets (octets.drop EthernetFrame.headerLength) = .ok packet)
    (intact : packet.verifyChecksum = .ok ())
    (foreign : ∀ interface ∈ router.interfaces.all, interface.address ≠ packet.destination)
    (lively : 2 ≤ packet.timeToLive.toNat)
    (routed : router.routes.lookup packet.destination = some route)
    (known : router.hardwareAddress? turn.state (route.nextHop packet.destination) =
      some mac) :
    let after := (router.receiveDatagram environment turn arrival octets).1
    ∃ egress sent onward, router.interfaces.byName? route.interface = some egress ∧
      after.state = turn.state ∧
      after.handedOver = turn.handedOver ++ [⟨egress.name, sent⟩] ∧
      sent = (EthernetFrame.mk octets).rewritten packet.totalLength mac egress.mac
        (packet.timeToLive - 1) (Ipv4Packet.agedChecksum packet.headerChecksum) ∧
      sent.length = EthernetFrame.headerLength + packet.totalLength ∧
      (∀ offset, 12 ≤ offset → offset < EthernetFrame.headerLength + packet.totalLength →
        offset ≠ EthernetFrame.headerLength + 8 →
        offset ≠ EthernetFrame.headerLength + 10 ∧ offset ≠ EthernetFrame.headerLength + 11 →
          sent.octetAt offset = octets.octetAt offset) ∧
      Ipv4Packet.ofFrame sent = .ok onward ∧ onward.verifyChecksum = .ok () := by
  intro after
  obtain ⟨egress, leaves⟩ := connected route (RoutingTable.mem_of_lookup routed)
  obtain ⟨-, -, minimum, ordered, total, isPacket⟩ :=
    Ipv4Packet.ofOctets_eq_ok_iff.mp readable
  have whole : EthernetFrame.headerLength + packet.totalLength ≤ octets.length := by
    rw [List.length_drop] at total
    simp only [Ipv4Packet.minimumHeaderLength] at minimum
    omega
  have ofFrame : Ipv4Packet.ofFrame octets = .ok packet :=
    Ipv4Packet.ofFrame_eq_ok_iff.mpr ⟨Nat.le_of_add_right_le whole, short, readable⟩
  have read := (Ipv4Packet.read_of_ofFrame ofFrame).1
  have alive : 1 ≤ packet.timeToLive.toNat := Nat.le_of_succ_le lively
  let outbound : Outbound :=
    ⟨egress, route.nextHop packet.destination, ⟨octets, .forwarded arrival.name⟩⟩
  have origin : outbound.frame.origin = .forwarded arrival.name := rfl
  have handed : router.receiveDatagram environment turn arrival octets =
      (turn.record (.accepted outbound)).transmit environment
        ⟨egress.name, outbound.complete mac⟩ (some outbound) := by
    have decided : router.dispatch (environment.identification turn.journal.length) arrival
        octets = .ok outbound :=
      dispatch_of_routed _ ofFrame intact (owns_eq_false_iff.mpr foreign) lively routed leaves
    exact submit_of_known decided known
  have completed : outbound.complete mac = (EthernetFrame.mk octets).rewritten
      packet.totalLength mac egress.mac (packet.timeToLive - 1)
      (Ipv4Packet.agedChecksum packet.headerChecksum) :=
    complete_eq_rewritten origin ofFrame intact alive mac
  have length : (outbound.complete mac).length =
      EthernetFrame.headerLength + packet.totalLength := by
    rw [completed]
    exact EthernetFrame.length_rewritten whole
  have payload : (outbound.complete mac).drop EthernetFrame.headerLength =
      packet.onward.octets := by
    rw [isPacket]
    exact Outbound.payload_complete_of_forwarded mac origin
  refine ⟨egress, outbound.complete mac, packet.onward, leaves, ?_, ?_, completed, length, ?_,
    ?_, Ipv4Packet.verifyChecksum_onward read⟩
  · simp only [after, handed]
    rfl
  · simp only [after, handed, Turn.handedOver_transmit, Turn.handedOver_record,
      JournalEntry.handedOver?, Option.toList_none, List.append_nil]
  · intro offset behind inside notTimeToLive notChecksum
    rw [completed]
    exact EthernetFrame.octetAt_rewritten behind inside notTimeToLive notChecksum
  · rw [Ipv4Packet.ofFrame_eq_ok_iff, payload, length]
    exact ⟨Nat.le_add_right _ _, Nat.le_trans whole short, Ipv4Packet.ofOctets_onward read⟩

/-- A padded datagram with options, whose checksum is `0xFFFF` when it arrives. -/
theorem forwarding_rewrites_four_fields_options :
    let lan : Interface := ⟨"lan", ⟨2, 0, 0, 0, 0, 1⟩, ⟨10, 0, 0, 1⟩⟩
    let wan : Interface := ⟨"wan", ⟨2, 0, 0, 0, 0, 2⟩, ⟨10, 0, 1, 1⟩⟩
    let route : Route := ⟨⟨10, 2, 0, 0⟩, ⟨10, 0, 1, 9⟩, ⟨255, 255, 0, 0⟩, "wan"⟩
    let router : Router :=
      ⟨⟨[lan, wan], by decide⟩, ⟨[route], List.pairwise_singleton _ _⟩, {}⟩
    let gateway : NeighborEntry := ⟨⟨10, 0, 1, 9⟩, ⟨2, 0, 0, 0, 0, 3⟩, 0⟩
    let state : RouterState := ⟨0, ⟨[gateway], 0⟩, []⟩
    let environment : Environment := ⟨fun _ _ => none, fun _ => 0⟩
    let datagram := fun (timeToLive : UInt8) (checksum : UInt16) =>
      [0x46, 0, 0, 28, 0x60, 0xC3, 0, 0, timeToLive, 17] ++ Octets.ofWord checksum ++
        [10, 0, 0, 7, 10, 2, 3, 4, 1, 1, 1, 1, 0xCA, 0xFE, 0xBA, 0xBE]
    let octets := EthernetFrame.assemble lan.mac ⟨2, 0, 0, 0, 0, 7⟩ EthernetFrame.ipv4Type
      (datagram 64 0xFFFF ++ List.replicate 18 0)
    let after := (router.receiveDatagram environment (Turn.start state) lan octets).1
    after.state = state ∧
    after.handedOver = [⟨"wan", EthernetFrame.assemble gateway.mac wan.mac
      EthernetFrame.ipv4Type (datagram 63 0x0100)⟩] := by
  intro lan wan route router gateway state environment datagram octets after
  let packet : Ipv4Packet := ⟨datagram 64 0xFFFF ++ List.replicate 18 0⟩
  have isWan : router.interfaces.byName? route.interface = some wan := by decide +kernel
  have connected : router.Connected := by
    intro other member
    rw [List.mem_singleton.mp member]
    exact ⟨wan, isWan⟩
  have readable : Ipv4Packet.ofOctets (octets.drop EthernetFrame.headerLength) = .ok packet := by
    decide +kernel
  have routed : router.routes.lookup packet.destination = some route := by decide +kernel
  have known : router.hardwareAddress? (Turn.start state).state
      (route.nextHop packet.destination) = some gateway.mac := by decide +kernel
  obtain ⟨egress, sent, onward, leaves, unchanged, handed, rewritten, -⟩ :=
    forwarding_rewrites_four_fields connected environment (Turn.start state) lan
      (by decide +kernel) readable (by decide +kernel) (by decide +kernel) (by decide +kernel)
      routed known
  rw [isWan] at leaves
  cases leaves
  refine ⟨unchanged, handed.trans ?_⟩
  rw [rewritten]
  decide +kernel

end Router

end Ipv4Router
