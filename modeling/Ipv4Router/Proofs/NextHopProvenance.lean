import Ipv4Router.Proofs.CompletedFrames
import Ipv4Router.Proofs.HandedFrames
import Mathlib.Data.List.Induction

/-!
# Where hardware addresses come from

Every IPv4 frame that a router hands to the link goes to a hardware address that
some neighbour told.  It is the one told by the latest ARP reply about the next
hop of the datagram, and the reply is not older than the lifetime of neighbours.

A router learns from ARP replies only.  So its neighbours are a record of the
latest replies, of which old ones may have been removed.  This invariant of runs
joins the frames handed over to the replies received before.
-/

namespace Ipv4Router

namespace Router

/-- The latest ARP reply about an address among some events told the given
hardware address, and it did so at the given time. -/
def LatestReply (router : Router) (events : List (Environment × RouterEvent))
    (address : Ipv4Address) (mac : MacAddress) (time : Nat) : Prop :=
  ∃ before environment event after packet,
    events = before ++ (environment, event) :: after ∧
      router.heard? event = some packet ∧
      packet.sourceAddress = address ∧ packet.sourceMac = mac ∧
      time = (router.run .initial before).now ∧
      ∀ later ∈ after, ∀ other, router.heard? later.2 = some other →
        other.sourceAddress ≠ address

/-- Every neighbour is known from the latest reply about it. -/
def RemembersReplies (router : Router) (events : List (Environment × RouterEvent)) : Prop :=
  ∀ address entry, (router.run .initial events).neighbors.find? address = some entry →
    router.LatestReply events address entry.mac entry.since ∧
      entry.since ≤ (router.run .initial events).now

variable {router : Router} {events : List (Environment × RouterEvent)}
  {environment : Environment} {event : RouterEvent}

/-- The reply of the last event is the latest about its sender. -/
theorem latestReply_of_heard {packet : ArpPacket} (heard : router.heard? event = some packet) :
    router.LatestReply (events ++ [(environment, event)]) packet.sourceAddress
      packet.sourceMac (router.run .initial events).now :=
  ⟨events, environment, event, [], packet, rfl, heard, rfl, rfl, rfl, by simp⟩

/-- A reply stays the latest as long as there is no other about its sender. -/
theorem LatestReply.later {address : Ipv4Address} {mac : MacAddress} {time : Nat}
    (latest : router.LatestReply events address mac time)
    (silent : ∀ other, router.heard? event = some other → other.sourceAddress ≠ address) :
    router.LatestReply (events ++ [(environment, event)]) address mac time := by
  obtain ⟨before, earlier, reply, after, packet, rfl, heard, sender, told, noted, last⟩ := latest
  refine ⟨before, earlier, reply, after ++ [(environment, event)], packet, by simp, heard, sender,
    told, noted, ?_⟩
  intro later member
  rcases List.mem_append.mp member with old | new
  · exact last later old
  · rw [List.mem_singleton.mp new]
    exact silent

theorem now_le_opening (router : Router) (state : RouterState) (event : RouterEvent) :
    state.now ≤ (router.opening state event).turn.state.now := by
  cases event with
  | advance duration => exact Nat.le_add_right _ _
  | sweep => exact Nat.le_refl _
  | arrival name octets =>
      unfold opening
      simp only
      split <;> exact Nat.le_refl _

/-- A neighbour at the opening of a turn was one before, and no reply about it has
come since, or it is the sender of the reply that has just come. -/
theorem Consistent.find?_opening {state : RouterState} (consistent : router.Consistent state)
    {address : Ipv4Address} {entry : NeighborEntry}
    (found : (router.opening state event).turn.state.neighbors.find? address = some entry) :
    (state.neighbors.find? address = some entry ∧
      ∀ other, router.heard? event = some other → other.sourceAddress ≠ address) ∨
    ∃ packet, router.heard? event = some packet ∧ packet.sourceAddress = address ∧
      entry = ⟨address, packet.sourceMac, state.now⟩ := by
  cases event with
  | advance duration => exact Or.inl ⟨found, by simp [heard?]⟩
  | sweep =>
      refine Or.inl ⟨?_, by simp [heard?]⟩
      rcases NeighborCache.find?_expire consistent.distinctNeighbors
          router.settings.cacheLifetime state.now address with same | filtered
      · exact same.symm.trans found
      · exact (Option.filter_eq_some_iff.mp (filtered.symm.trans found)).1
  | arrival name octets =>
      cases heard : router.heard? (.arrival name octets) with
      | none =>
          simp only [Router.opening, heard] at found
          exact Or.inl ⟨found, by simp⟩
      | some packet =>
          simp only [Router.opening, heard, Turn.start, RouterState.learn] at found
          by_cases same : packet.sourceAddress = address
          · subst same
            rw [NeighborCache.find?_insert_self] at found
            exact Or.inr ⟨packet, rfl, rfl, (Option.some.inj found).symm⟩
          · rw [NeighborCache.find?_insert_of_ne (Ne.symm same)] at found
            refine Or.inl ⟨found, ?_⟩
            intro other heardOther
            rw [← Option.some.inj heardOther]
            exact same

theorem run_append_singleton :
    router.run .initial (events ++ [(environment, event)]) =
      (router.step environment (router.run .initial events) event).1.state := by
  rw [run_append]
  rfl

theorem remembersReplies (router : Router) (events : List (Environment × RouterEvent)) :
    router.RemembersReplies events := by
  induction events using List.reverseRecOn with
  | nil =>
      intro address entry found
      cases found
  | append_singleton events last ih =>
      obtain ⟨environment, event⟩ := last
      have consistent := consistent_run_initial router events
      -- The actions of the turn leave the neighbours with which it opens.
      obtain ⟨neighbors, now⟩ :=
        Course.neighbors_eq (step_course consistent environment event)
      have later := now_le_opening router (router.run .initial events) event
      intro address entry found
      rw [run_append_singleton, neighbors] at found
      rw [run_append_singleton, now]
      rcases consistent.find?_opening found with
        ⟨old, silent⟩ | ⟨packet, heard, rfl, rfl⟩
      · obtain ⟨latest, since⟩ := ih address entry old
        exact ⟨latest.later silent, Nat.le_trans since later⟩
      · exact ⟨latestReply_of_heard heard, later⟩

/-- Every IPv4 frame handed to the link follows the route of its destination.  It
leaves through the interface of the route, from the hardware address of that
interface to the one told by the latest reply about the next hop, which is not
older than the lifetime of neighbours. -/
theorem next_hop_provenance (router : Router) (events : List (Environment × RouterEvent))
    (environment : Environment) (event : RouterEvent) {transmission : Transmission}
    {refusal : Option LinkFailure} {datagram : Option Outbound}
    (handed : .handed transmission refusal datagram ∈
      (router.step environment (router.run .initial events) event).1.journal)
    (ipv4 : (EthernetFrame.mk transmission.frame).payloadType = EthernetFrame.ipv4Type) :
    let frame := EthernetFrame.mk transmission.frame
    let destination := (Ipv4Packet.mk frame.payload).destination
    let now := (router.step environment (router.run .initial events) event).1.state.now
    ∃ route egress time, router.routes.lookup destination = some route ∧
      router.interfaces.byName? route.interface = some egress ∧
      transmission.interface = route.interface ∧ frame.source = egress.mac ∧
      router.LatestReply (events ++ [(environment, event)]) (route.nextHop destination)
        frame.destination time ∧
      time ≤ now ∧ now - time ≤ router.settings.cacheLifetime := by
  intro frame destination now
  have truthful := (consistent_run_initial router events).truthful_step environment event
    _ handed
  cases datagram with
  | none => exact absurd (ipv4.symm.trans truthful) (by decide)
  | some outbound =>
      obtain ⟨⟨packet, route, admits, leaves, nextHop⟩, mac, known, completed⟩ := truthful
      subst completed
      obtain ⟨long, -, -⟩ := Ipv4Packet.ofFrame_eq_ok_iff.mp admits.readable
      have sameDestination : destination = packet.destination :=
        outbound.packetDestination_complete mac admits.readable
      have frameDestination : frame.destination = mac := outbound.destination_complete mac long
      obtain ⟨entry, found, young, rfl⟩ := NeighborCache.lookup_eq_some_iff.mp known
      rw [← run_append_singleton] at found
      obtain ⟨latest, since⟩ := remembersReplies router _ _ _ found
      rw [run_append_singleton] at since
      refine ⟨route, outbound.egress, entry.since, ?_, leaves, Interfaces.name_of_byName? leaves,
        outbound.source_complete _ long, ?_, since, young⟩
      · rw [sameDestination]
        exact admits.routed
      · rw [sameDestination, frameDestination, ← nextHop]
        exact latest

/-- A datagram waits for the hardware address of a gateway and is sent on to it
once the gateway has answered. -/
theorem next_hop_provenance_gateway :
    let lan : Interface := ⟨"lan", ⟨2, 0, 0, 0, 0, 1⟩, ⟨10, 0, 0, 1⟩⟩
    let wan : Interface := ⟨"wan", ⟨2, 0, 0, 0, 0, 2⟩, ⟨10, 0, 1, 1⟩⟩
    let gateway : Interface := ⟨"wan", ⟨2, 0, 0, 0, 0, 3⟩, ⟨10, 0, 1, 9⟩⟩
    let route : Route := ⟨⟨10, 2, 0, 0⟩, gateway.address, ⟨255, 255, 0, 0⟩, "wan"⟩
    let router : Router :=
      ⟨⟨[lan, wan], by decide⟩, ⟨[route], List.pairwise_singleton _ _⟩, {}⟩
    let environment : Environment := ⟨fun _ _ => none, fun _ => 0⟩
    let header : Ipv4Header := ⟨⟨10, 0, 0, 7⟩, ⟨10, 2, 3, 4⟩, 17, 64, 0, 0⟩
    let octets := EthernetFrame.assemble lan.mac ⟨2, 0, 0, 0, 0, 7⟩ EthernetFrame.ipv4Type
      (header.attach [])
    let outbound : Outbound := ⟨wan, gateway.address, ⟨octets, .forwarded "lan"⟩⟩
    let transmission : Transmission := ⟨"wan", outbound.complete gateway.mac⟩
    let arrival : Environment × RouterEvent := (environment, .arrival "lan" octets)
    let answer : RouterEvent :=
      .arrival "wan" (gateway.arpReplyTo (arpRequest wan gateway.address)).frame
    .handed transmission none (some outbound) ∈
      (router.step environment (router.run .initial [arrival]) answer).1.journal ∧
    ∃ time, router.LatestReply [arrival, (environment, answer)] gateway.address gateway.mac
      time := by
  intro lan wan gateway route router environment header octets outbound transmission arrival
    answer
  have handed : .handed transmission none (some outbound) ∈
      (router.step environment (router.run .initial [arrival]) answer).1.journal := by
    decide +kernel
  refine ⟨handed, ?_⟩
  obtain ⟨taken, -, time, routed, -, -, -, latest, -, -⟩ :=
    next_hop_provenance router [arrival] environment answer handed (by decide +kernel)
  have destination : (Ipv4Packet.mk (EthernetFrame.mk transmission.frame).payload).destination =
      ⟨10, 2, 3, 4⟩ := by decide +kernel
  have hardware : (EthernetFrame.mk transmission.frame).destination = gateway.mac := by
    decide +kernel
  have chosen : router.routes.lookup ⟨10, 2, 3, 4⟩ = some route := by decide +kernel
  rw [destination, chosen] at routed
  cases routed
  rw [destination, hardware] at latest
  exact ⟨time, latest⟩

end Router

end Ipv4Router
