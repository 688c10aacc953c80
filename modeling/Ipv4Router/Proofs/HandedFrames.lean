import Ipv4Router.Proofs.OctetRuns
import Ipv4Router.Proofs.ResolutionInvariant

/-!
# What is handed to the link

The journal of a turn names the datagram in each frame that is handed to the
link.  This file shows that it tells the truth: the frame is the one that the
datagram completes to, with the hardware address by which the router reaches the
next hop at that very time, and it leaves through the egress of the datagram.  A
frame without a datagram is an ARP packet.
-/

namespace Ipv4Router

/-- What the journal tells of a frame that was handed over is true in a state. -/
def JournalEntry.Truthful (router : Router) (state : RouterState) : JournalEntry → Prop
  | .handed transmission _ (some outbound) =>
      router.Delivers outbound ∧
        ∃ mac, router.hardwareAddress? state outbound.nextHop = some mac ∧
          transmission = ⟨outbound.egress.name, outbound.complete mac⟩
  | .handed transmission _ none =>
      (EthernetFrame.mk transmission.frame).payloadType = EthernetFrame.arpType
  | .accepted _ => True
  | .resumed _ _ => True
  | .abandoned _ _ => True

/-- A turn whose journal is true in the state it has reached. -/
def Turn.Truthful (router : Router) (turn : Turn) : Prop :=
  ∀ entry ∈ turn.journal, entry.Truthful router turn.state

namespace Router

variable {router : Router} {environment : Environment}

theorem truthful_congr {state later : RouterState} {entry : JournalEntry}
    (same : ∀ address, router.hardwareAddress? later address =
      router.hardwareAddress? state address)
    (truthful : entry.Truthful router state) : entry.Truthful router later := by
  cases entry with
  | handed transmission refusal datagram =>
      cases datagram with
      | none => exact truthful
      | some outbound =>
          obtain ⟨delivers, mac, known, completed⟩ := truthful
          exact ⟨delivers, mac, (same _).trans known, completed⟩
  | accepted outbound => trivial
  | resumed frame outbound => trivial
  | abandoned target frame => trivial

section Turn

variable {turn : Turn}

theorem truthful_record {entry : JournalEntry} (truthful : turn.Truthful router)
    (new : entry.Truthful router turn.state) : (turn.record entry).Truthful router := by
  intro other member
  rcases List.mem_append.mp member with old | last
  · exact truthful other old
  · rw [List.mem_singleton.mp last]
    exact new

theorem truthful_output {outbound : Outbound} (delivers : router.Delivers outbound)
    (truthful : turn.Truthful router) :
    (router.output environment turn outbound).1.Truthful router := by
  cases known : router.hardwareAddress? turn.state outbound.nextHop with
  | some mac =>
      rw [output_of_known known]
      exact truthful_record truthful ⟨delivers, mac, known, rfl⟩
  | none =>
      obtain ⟨asked, waiting, onlyAsked⟩ := output_of_unknown environment delivers known
      rw [waiting]
      intro entry member
      rcases List.mem_append.mp member with old | new
      · exact truthful_congr (fun _ => rfl) (truthful entry old)
      · obtain ⟨refusal, rfl⟩ := onlyAsked entry new
        exact EthernetFrame.payloadType_assemble _ _ _ _

end Turn

theorem Action.truthful {stage next : Stage} (action : router.Action environment stage next)
    (truthful : stage.turn.Truthful router) : next.turn.Truthful router := by
  cases action with
  | accept delivers behind => exact truthful_output delivers (truthful_record truthful trivial)
  | resume delivers known => exact truthful_output delivers (truthful_record truthful trivial)
  | abandon => exact truthful_record truthful trivial
  | ask known => exact truthful_record truthful (EthernetFrame.payloadType_assemble _ _ _ _)
  | reply known owned =>
      exact truthful_record truthful (EthernetFrame.payloadType_assemble _ _ _ _)

theorem Course.truthful {stage last : Stage}
    (course : router.Course environment stage last)
    (truthful : stage.turn.Truthful router) : last.turn.Truthful router :=
  course.preserves (fun action => action.truthful) truthful

theorem journal_opening (state : RouterState) (event : RouterEvent) :
    (router.opening state event).turn.journal = [] := by
  cases event with
  | advance duration => rfl
  | sweep => rfl
  | arrival name octets =>
      unfold opening
      simp only
      split <;> rfl

/-- The journal of every turn is true in the state that the turn leaves. -/
theorem Consistent.truthful_step {state : RouterState} (consistent : router.Consistent state)
    (environment : Environment) (event : RouterEvent) :
    (router.step environment state event).1.Truthful router := by
  apply (step_course consistent environment event).truthful
  intro entry member
  rw [journal_opening] at member
  cases member

end Router

end Ipv4Router
