import GuestSupervisor.Instance.Machine
import Mathlib.Data.List.Induction
import Mathlib.Data.List.TakeWhile

/-!
# A life told at once

The machine goes from event to event and forgets each of them.  This module shows that where it
stands can be told from the whole sequence: the first event that decides the launch says whether
a life began, the first one behind it that ends a life says how, and all other events count for
nothing, but the acknowledgements of a life that goes on, of which the last one counts.

## Main Statements

* `Phase.firstDeciding_eq_some_iff` — what it means that an event is the first to decide.
* `Phase.steps_firstDeciding` — a phase waits for the first event that moves it.
* `Phase.steps_running` — a life that has begun.
* `Phase.after_eq_reading` — any sequence of events.
-/

namespace GuestSupervisor.Instance.Phase

variable {decides : Event → Bool} {events rest : List Event} {event : Event}

/-! ## The first event that decides -/

theorem firstDeciding_eq_none_iff :
    firstDeciding decides events = none ↔ ∀ e ∈ events, decides e = false := by
  unfold firstDeciding
  cases left : events.dropWhile fun e => !decides e with
  | nil => simpa using List.dropWhile_eq_nil_iff.mp left
  | cons e rest =>
    have decided : ¬ ∀ e ∈ events, decides e = false := fun undecided => by
      rw [List.dropWhile_eq_nil_iff.mpr (by simpa using undecided)] at left
      cases left
    simpa using decided

/-- **An event is the first to decide** when none in front of it does. -/
theorem firstDeciding_eq_some_iff :
    firstDeciding decides events = some (event, rest) ↔
      ∃ before, events = before ++ event :: rest ∧ decides event = true ∧
        ∀ e ∈ before, decides e = false := by
  constructor
  · intro found
    unfold firstDeciding at found
    cases left : events.dropWhile fun e => !decides e with
    | nil =>
      rw [left] at found
      cases found
    | cons e others =>
      rw [left] at found
      cases found
      refine ⟨events.takeWhile fun e => !decides e, ?_, ?_, ?_⟩
      · rw [← left, List.takeWhile_append_dropWhile]
      · have stops := List.head?_dropWhile_not (fun e => !decides e) events
        rw [left] at stops
        simpa using stops
      · intro e member
        simpa using List.mem_takeWhile_imp member
  · rintro ⟨before, rfl, now, undecided⟩
    have passed : before.dropWhile (fun e => !decides e) = [] :=
      List.dropWhile_eq_nil_iff.mpr (by simpa using undecided)
    simp [firstDeciding, List.dropWhile_append, passed, now]

/-! ## Waiting for an event -/

theorem steps_append (phase : Phase) (first second : List Event) :
    phase.steps (first ++ second) = (phase.steps first).steps second :=
  List.foldl_append

/-- What means nothing in a phase leaves it. -/
theorem steps_of_forall {phase : Phase} (unmoved : ∀ e ∈ events, phase.step e = phase) :
    phase.steps events = phase := by
  induction events with
  | nil => rfl
  | cons e events ih =>
    rw [List.forall_mem_cons] at unmoved
    rw [steps_cons, unmoved.1, ih unmoved.2]

/-- **A phase waits for the first event that moves it.** -/
theorem steps_firstDeciding {phase : Phase} (waits : ∀ e, decides e = false → phase.step e = phase)
    (events : List Event) :
    phase.steps events = match firstDeciding decides events with
      | none => phase
      | some (event, rest) => (phase.step event).steps rest := by
  cases found : firstDeciding decides events with
  | none =>
    have undecided := firstDeciding_eq_none_iff.mp found
    exact steps_of_forall fun e member => waits e (undecided e member)
  | some decision =>
    obtain ⟨event, rest⟩ := decision
    obtain ⟨before, rfl, -, undecided⟩ := firstDeciding_eq_some_iff.mp found
    rw [steps_append, steps_of_forall fun e member => waits e (undecided e member), steps_cons]

/-! ## The parts of a life -/

/-- After a request to stop only an exit counts. -/
theorem steps_stopping (events : List Event) :
    stopping.steps events = if events.any isExit then stopped else stopping := by
  have waits : ∀ e, isExit e = false → stopping.step e = stopping := by
    intro e other
    cases e with
    | exited => cases other
    | _ => rfl
  rw [steps_firstDeciding waits]
  cases found : firstDeciding isExit events with
  | none =>
    have noExit : events.any isExit = false := by
      simpa using firstDeciding_eq_none_iff.mp found
    simp [noExit]
  | some decision =>
    obtain ⟨event, rest⟩ := decision
    obtain ⟨before, rfl, exits, -⟩ := firstDeciding_eq_some_iff.mp found
    have moved : stopping.step event = stopped := by
      cases event with
      | exited => rfl
      | _ => cases exits
    have ended : stopped.steps rest = stopped := steps_of_isTerminal rfl rest
    simp [moved, exits, ended]

/-- **As long as nothing ends a life, its last acknowledgement says where it stands.** -/
theorem steps_running_of_forall (goesOn : ∀ e ∈ events, decidesLife e = false) :
    running.steps events = if (events.filter isAcknowledgement).getLast? = some .pauseAcknowledged
      then paused else running := by
  -- The last event comes last, so the induction is on the end of the sequence.
  induction events using List.reverseRecOn with
  | nil => rfl
  | append_singleton events event ih =>
    rw [List.forall_mem_append, List.forall_mem_singleton] at goesOn
    obtain ⟨before, now⟩ := goesOn
    rw [steps_append, ih before, steps_cons, steps_nil, List.filter_append]
    cases event with
    | stopRequested | exited => cases now
    | pauseAcknowledged | resumeAcknowledged =>
      rw [show [_].filter isAcknowledgement = [_] from rfl, List.getLast?_concat]
      split <;> rfl
    | endpointReady | launchAborted =>
      rw [show [_].filter isAcknowledgement = [] from rfl, List.append_nil]
      split <;> rfl

/-- **A life that has begun is told by the first event that ends it.** -/
theorem steps_running (events : List Event) : running.steps events = readingLive events := by
  unfold readingLive
  cases found : firstDeciding decidesLife events with
  | none => exact steps_running_of_forall (firstDeciding_eq_none_iff.mp found)
  | some decision =>
    obtain ⟨event, rest⟩ := decision
    obtain ⟨before, rfl, ends, goesOn⟩ := firstDeciding_eq_some_iff.mp found
    -- A paused life ends like a running one.
    have moved : (running.steps before).step event = liveStep running event := by
      rw [steps_running_of_forall goesOn]
      cases event with
      | stopRequested => split <;> rfl
      | exited success => cases success <;> split <;> rfl
      | endpointReady | launchAborted | pauseAcknowledged | resumeAcknowledged => cases ends
    rw [steps_append, steps_cons, moved]
    cases event with
    | stopRequested => exact steps_stopping rest
    | exited success => cases success <;> exact steps_of_isTerminal rfl rest
    | endpointReady | launchAborted | pauseAcknowledged | resumeAcknowledged => cases ends

/-- **Where an instance stands is told by the order of the events that decide.**  Early, late and
repeated events change nothing about it. -/
theorem after_eq_reading (events : List Event) : after events = reading events := by
  have waits : ∀ e, decidesLaunch e = false → starting.step e = starting := by
    intro e other
    cases e with
    | endpointReady | launchAborted | exited => cases other
    | stopRequested | pauseAcknowledged | resumeAcknowledged => rfl
  unfold after reading
  rw [steps_firstDeciding waits]
  cases found : firstDeciding decidesLaunch events with
  | none => rfl
  | some decision =>
    obtain ⟨event, rest⟩ := decision
    obtain ⟨-, -, decided, -⟩ := firstDeciding_eq_some_iff.mp found
    cases event with
    | endpointReady => exact steps_running rest
    | launchAborted | exited => exact steps_of_isTerminal rfl rest
    | stopRequested | pauseAcknowledged | resumeAcknowledged => cases decided

/-- A pause that is acknowledged after the request to stop comes too late, and a bad exit is then
no crash. -/
example : after [.pauseAcknowledged, .endpointReady, .stopRequested, .pauseAcknowledged,
    .exited false, .endpointReady] = stopped := by
  decide

end GuestSupervisor.Instance.Phase
