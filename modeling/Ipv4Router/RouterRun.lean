import Ipv4Router.Reception
import Ipv4Router.Sweep

/-!
# Runs of a router

A router lives through a sequence of events: frames arrive, time passes, and
sweeps take place.  Each event takes one turn, with an environment of its own.
The sweeps come by the clock, one after every sweep interval.
-/

namespace Ipv4Router

/-- Something that happens to a router. -/
inductive RouterEvent
  /-- A frame arrives on the named interface. -/
  | arrival (interface : String) (octets : Octets)
  | advance (duration : Nat)
  | sweep
  deriving DecidableEq

def RouterState.advance (state : RouterState) (duration : Nat) : RouterState :=
  { state with now := state.now + duration }

namespace Router

/-- The turn in which a router handles an event, and how it ends. -/
def step (router : Router) (environment : Environment) (state : RouterState) :
    RouterEvent → Turn × Except RouterError Unit
  | .arrival interface octets =>
      router.receive environment (Turn.start state) interface octets
  | .advance duration => (Turn.start (state.advance duration), .ok ())
  | .sweep => (router.sweep environment (Turn.start state), .ok ())

/-- The state of a router after some events, each with its environment. -/
def run (router : Router) (state : RouterState) : List (Environment × RouterEvent) → RouterState
  | [] => state
  | (environment, event) :: rest =>
      run router (router.step environment state event).1.state rest

/-- The turns in which a router handles some events, and how they end. -/
def turns (router : Router) (state : RouterState) :
    List (Environment × RouterEvent) → List (Turn × Except RouterError Unit)
  | [] => []
  | (environment, event) :: rest =>
      let outcome := router.step environment state event
      outcome :: turns router outcome.1.state rest

/-- All that a router does about some events, in order. -/
def journal (router : Router) (state : RouterState)
    (events : List (Environment × RouterEvent)) : List JournalEntry :=
  (router.turns state events).flatMap (fun outcome => outcome.1.journal)

/-- What happens to a router that sweeps by the clock while no frame arrives.  Before every
sweep the sweep interval passes, and perhaps a further delay. -/
def sweeping (router : Router) (delays : List (Environment × Nat)) :
    List (Environment × RouterEvent) :=
  delays.flatMap (fun delay =>
    [(delay.1, .advance (router.settings.sweepInterval + delay.2)), (delay.1, .sweep)])

variable {router : Router} {state : RouterState}

theorem run_append (before after : List (Environment × RouterEvent)) :
    router.run state (before ++ after) = router.run (router.run state before) after := by
  induction before generalizing state with
  | nil => rfl
  | cons first rest ih => exact ih

theorem journal_cons (environment : Environment) (event : RouterEvent)
    (rest : List (Environment × RouterEvent)) :
    router.journal state ((environment, event) :: rest) =
      (router.step environment state event).1.journal ++
        router.journal (router.step environment state event).1.state rest := by
  simp only [journal, turns, List.flatMap_cons]

/-- Every turn of a run handles one of the events, in the state that the events
before it have led to. -/
theorem exists_step_of_mem_turns {events : List (Environment × RouterEvent)}
    {outcome : Turn × Except RouterError Unit} (member : outcome ∈ router.turns state events) :
    ∃ before environment event after, events = before ++ (environment, event) :: after ∧
      outcome = router.step environment (router.run state before) event := by
  induction events generalizing state with
  | nil => cases member
  | cons first rest ih =>
      rcases List.mem_cons.mp member with now | later
      · exact ⟨[], first.1, first.2, rest, rfl, now⟩
      · obtain ⟨before, environment, event, after, rfl, taken⟩ := ih later
        exact ⟨first :: before, environment, event, after, rfl, taken⟩

end Router

end Ipv4Router
