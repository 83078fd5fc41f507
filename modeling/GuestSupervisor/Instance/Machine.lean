/-!
# The life of an instance

An instance is one run of the emulator. It starts, lives (running or paused), is
asked to stop, and ends, either stopped or crashed. This module is the machine
that follows an instance from event to event.

## Main Definitions

* `Event`, `Phase`: what happens to an instance, and where it stands.
* `Phase.step`, `Phase.after`: one event, and a sequence of them from the start.
* `Phase.reading`: the same end told from the whole sequence at once, by which
  deciding event came first.
-/

namespace GuestSupervisor.Instance

/-- What happens to an instance. -/
inductive Event where
  /-- The monitor answers for the first time. -/
  | endpointReady
  /-- The launch was given up. -/
  | launchAborted
  | stopRequested
  | pauseAcknowledged
  | resumeAcknowledged
  /-- The process ended; a success is exit code zero. -/
  | exited (success : Bool)
  deriving DecidableEq, Repr, Inhabited

/-- Where an instance stands. -/
inductive Phase where
  | starting
  | running
  | paused
  | stopping
  | stopped
  | crashed
  deriving DecidableEq, Repr, Inhabited

namespace Phase

/-- The word for a phase. -/
def word : Phase → String
  | starting => "starting"
  | running => "running"
  | paused => "paused"
  | stopping => "stopping"
  | stopped => "stopped"
  | crashed => "crashed"

/-- Whether the instance has ended. -/
def isTerminal : Phase → Bool
  | stopped | crashed => true
  | _ => false

/-- Whether the monitor is expected to answer. -/
def acceptsCommands : Phase → Bool
  | running | paused => true
  | _ => false

/-- What running and paused have in common. -/
def liveStep (unchanged : Phase) : Event → Phase
  | .stopRequested => stopping
  | .exited true => stopped
  | .exited false => crashed
  | _ => unchanged

/-- The phase after one event. An event that means nothing in a phase leaves it,
and an instance that has ended stays ended. -/
def step : Phase → Event → Phase
  | starting, .endpointReady => running
  | starting, .launchAborted => crashed
  | starting, .exited _ => crashed
  | starting, _ => starting
  | running, .pauseAcknowledged => paused
  | running, event => liveStep running event
  | paused, .resumeAcknowledged => running
  | paused, event => liveStep paused event
  | stopping, .exited _ => stopped
  | stopping, _ => stopping
  | stopped, _ => stopped
  | crashed, _ => crashed

/-- The phase after a sequence of events from a phase. -/
def steps (phase : Phase) (events : List Event) : Phase := events.foldl step phase

/-- The phase of a new instance after a sequence of events. -/
def after (events : List Event) : Phase := starting.steps events

@[simp] theorem steps_nil (phase : Phase) : phase.steps [] = phase := rfl

@[simp] theorem steps_cons (phase : Phase) (event : Event) (events : List Event) :
    phase.steps (event :: events) = (phase.step event).steps events := rfl

theorem step_of_isTerminal {phase : Phase} (h : phase.isTerminal) (event : Event) :
    phase.step event = phase := by
  cases phase <;> simp_all [isTerminal, step]

theorem steps_of_isTerminal {phase : Phase} (h : phase.isTerminal) (events : List Event) :
    phase.steps events = phase := by
  induction events with
  | nil => rfl
  | cons event events ih => rw [steps_cons, step_of_isTerminal h, ih]

/-! ### The whole sequence at once -/

/-- Whether an event decides how the launch came out. -/
def decidesLaunch : Event → Bool
  | .endpointReady | .launchAborted | .exited _ => true
  | _ => false

/-- Whether an event ends the live part. -/
def decidesLife : Event → Bool
  | .stopRequested | .exited _ => true
  | _ => false

/-- Whether an event is an exit of either kind. -/
def isExit : Event → Bool
  | .exited _ => true
  | _ => false

/-- Whether an event is an acknowledgement to pause or to resume. -/
def isAcknowledgement : Event → Bool
  | .pauseAcknowledged | .resumeAcknowledged => true
  | _ => false

/-- A sequence from the first event that `decides` on: that event and what follows
it. -/
def firstDeciding (decides : Event → Bool) (events : List Event) : Option (Event × List Event) :=
  match events.dropWhile (fun event => !decides event) with
  | [] => none
  | event :: rest => some (event, rest)

/-- The end of a life that has begun: paused or running by the last
acknowledgement, stopped by a good exit, crashed by a bad one, and after a request
to stop stopped by any exit. -/
def readingLive (events : List Event) : Phase :=
  match firstDeciding decidesLife events with
  | none =>
    if (events.filter isAcknowledgement).getLast? = some .pauseAcknowledged then paused else running
  | some (.stopRequested, rest) => if rest.any isExit then stopped else stopping
  | some (.exited true, _) => stopped
  | some (_, _) => crashed

/-- The phase told from the whole sequence: the first event that decides the launch
says whether a life began. -/
def reading (events : List Event) : Phase :=
  match firstDeciding decidesLaunch events with
  | none => starting
  | some (.endpointReady, rest) => readingLive rest
  | some (_, _) => crashed

end Phase

end GuestSupervisor.Instance
