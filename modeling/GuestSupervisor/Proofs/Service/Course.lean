import GuestSupervisor.Proofs.Service.History
import GuestSupervisor.Proofs.Supervisor.Provenance

/-!
# The course of a service

Starts, stops, crashes, restarts and edits may come in any order and get in each other's way at any
moment.  All that a service adds to it is this: a caller launches what was built from the stored
configuration at some moment before, or launches again what was shown at some moment before.  So
every instance leads back to a moment at which its configuration was the stored one, through as many
restarts as there were in between.

## Main Definitions

* `Service.Allows` — what may happen next.
* `Service.Course` — what has happened so far.
* `Service.BuiltIn` — a command that was built at some moment, with its configuration.
* `Service.Chronicle` — requests handled one after the other, with anything else in between.

## Main Statements

* `Service.Course.supplied` — everything that is launched was built at some moment.
* `Service.Course.exists_launch` — every instance leads back to its launch, and to that moment.
* `Service.Chronicle.exists_course` — requests that are handled one after the other are a course.
-/

namespace GuestSupervisor.Service

open Api Supervisor

variable {service : Service} {s : System} {moves more earlier : List Move} {move : Move}
  {w w' : Schedule} {h : Handle} {command : EmulatorCommand} {c : Configuration}

/-- **A command was built at some moment of a run**, with the configuration that was stored then. -/
def BuiltIn (service : Service) (s : System) (moves : List Move) (command : EmulatorCommand)
    (c : Configuration) : Prop :=
  ∃ earlier, earlier <+: moves ∧ (service.buildCommand (s.run earlier).host).1 = .ok (command, c)

/-- **What may happen next** after so many moves: anything at all, but that a launch is of a command
that was built before, and another launch is of an instance that was shown before. -/
def Allows (service : Service) (s : System) (moves : List Move) : Move → Prop
  | .launch command c => service.BuiltIn s moves command c
  | .relaunch previous => ∃ earlier, earlier <+: moves ∧ (s.run earlier).status.1 = some previous
  | _ => True

/-- **What has happened so far.** -/
inductive Course (service : Service) (s : System) : List Move → Prop
  | begins : Course service s []
  | goesOn {moves : List Move} {move : Move} (before : Course service s moves)
    (allows : service.Allows s moves move) : Course service s (moves ++ [move])

theorem BuiltIn.mono (built : service.BuiltIn s earlier command c) (before : earlier <+: moves) :
    service.BuiltIn s moves command c := by
  obtain ⟨first, first_before, same⟩ := built
  exact ⟨first, first_before.trans before, same⟩

theorem Allows.mono (allows : service.Allows s earlier move) (before : earlier <+: moves) :
    service.Allows s moves move := by
  cases move with
  | launch command c => exact BuiltIn.mono allows before
  | relaunch previous =>
    obtain ⟨first, first_before, shown⟩ := allows
    exact ⟨first, first_before.trans before, shown⟩
  | _ => trivial

theorem allows_of_not_asks (silent : ¬move.asks) : service.Allows s moves move := by
  cases move with
  | launch | relaunch => exact absurd trivial silent
  | _ => trivial

namespace Course

theorem of_prefix (course : service.Course s moves) (before : earlier <+: moves) :
    service.Course s earlier := by
  induction course with
  | begins =>
    rw [List.prefix_nil.mp before]
    exact .begins
  | goesOn course allows ih =>
    rcases List.prefix_concat_iff.mp before with rfl | shorter
    · exact course.goesOn allows
    · exact ih shorter

theorem append (course : service.Course s moves)
    (allows : ∀ move ∈ more, service.Allows s moves move) : service.Course s (moves ++ more) := by
  induction more using List.reverseRecOn with
  | nil => rwa [List.append_nil]
  | append_singleton more move ih =>
    rw [← List.append_assoc]
    refine (ih fun other member => allows other (List.mem_append_left _ member)).goesOn ?_
    exact (allows move (by simp)).mono (List.prefix_append _ _)

/-- **Everything that is launched was built at some moment before.** -/
theorem supplied (course : service.Course s moves) (sound : s.Sound)
    (fresh : ∀ make, s.Supplied make) : (s.run moves).Supplied (service.BuiltIn s moves) := by
  -- What is launched again was shown at an earlier moment, so this is shown of all moments so far.
  suffices all : ∀ earlier, earlier <+: moves →
      (s.run earlier).Supplied (service.BuiltIn s earlier) from all moves List.prefix_rfl
  induction course with
  | begins =>
    intro earlier before
    rw [List.prefix_nil.mp before]
    exact fresh _
  | @goesOn moves move course allows ih =>
    intro earlier before
    rcases List.prefix_concat_iff.mp before with rfl | shorter
    · have onward : moves <+: moves ++ [move] := List.prefix_append _ _
      have launches : move.Launches (service.BuiltIn s (moves ++ [move])) := by
        intro order demanded
        cases move with
        | launch command c =>
          obtain rfl : order = ⟨command, c, 0, .caller⟩ := demanded
          exact BuiltIn.mono allows onward
        | relaunch previous =>
          obtain rfl : order = ⟨previous.command, previous.configuration, previous.restarts + 1,
            .caller⟩ := demanded
          obtain ⟨first, first_before, shown⟩ := allows
          obtain ⟨h, published, same⟩ :=
            (sound.changes (sound.changes_run first)).sameLaunch_of_status shown
          have built := (ih first first_before).published h published
          rw [Handle.IsOf, ← same.command, ← same.configuration] at built
          exact BuiltIn.mono built (first_before.trans onward)
        | _ => exact demanded.elim
      rw [System.run_append]
      have before := (ih moves List.prefix_rfl).mono fun _ _ built => BuiltIn.mono built onward
      exact before.run (sound.changes (sound.changes_run moves)) (by simpa using launches)
    · exact ih earlier shorter

/-- **Every instance leads back to its launch**, and from there to a moment at which its command was
built. -/
theorem exists_launch (course : service.Course s moves) (sound : s.Sound)
    (fresh : ∀ make, s.Supplied make) (unlaunched : s.core.launched = 0)
    (shown : (s.run moves).status.1 = some h) :
    ∃ before after order, moves = before ++ .spawn h.pid :: after ∧ s.StartedBy before order h
      ∧ service.BuiltIn s before h.command h.configuration := by
  obtain ⟨h', published, same⟩ :=
    (sound.changes (sound.changes_run moves)).sameLaunch_of_status shown
  rcases sound.exists_startedBy moves published with
    ⟨first, shown', -⟩ | ⟨before, after, order, rfl, started⟩
  · have isSome := sound.coherent.isSome
    simp [shown', unlaunched] at isSome
  · have started := started.of_sameLaunch same
    have built := ((course.of_prefix (List.prefix_append _ _)).supplied sound fresh).ordered order _
      started.underway
    rw [LaunchOrder.IsOf, ← started.command, ← started.configuration] at built
    exact ⟨before, after, order, by rw [same.pid], started, built⟩

end Course

/-! ## Requests -/

/-- **Requests that are handled one after the other**, with anything in between that launches
nothing. -/
inductive Chronicle (service : Service) : Schedule → Prop
  | begins (host : Host) (now : Nat) : Chronicle service (service.schedule host now)
  | request {w : Schedule} (before : Chronicle service w) (request : Request) :
    Chronicle service (service.handle request w).2
  | meanwhile {w w' : Schedule} (before : Chronicle service w) (goes : w.GoesOnTo w') :
    Chronicle service w'

/-- **A schedule comes about in a course.** -/
def ComesAbout (service : Service) (s : System) (w : Schedule) : Prop :=
  ∃ moves, service.Course s moves ∧ w.system = s.run moves

namespace ComesAbout

theorem leadsTo (course : service.Course s moves) (state : w.system = s.run moves)
    (leads : w.LeadsTo (service.Allows s moves) w') : service.ComesAbout s w' := by
  obtain ⟨more, allows, same⟩ := leads
  exact ⟨moves ++ more, course.append allows, by rw [same, state, System.run_append]⟩

theorem goesOnTo (comes : service.ComesAbout s w) (goes : w.GoesOnTo w') :
    service.ComesAbout s w' := by
  obtain ⟨moves, course, state⟩ := comes
  exact leadsTo course state (goes.mono fun _ => allows_of_not_asks)

/-- Nothing was launched when a service begins. -/
theorem begins (service : Service) (host : Host) (now : Nat) : service.ComesAbout
    (.start (service.settings.supervisorOptions service.layout) host now)
    (service.schedule host now) := by
  refine goesOnTo (w := .start _ host now) ⟨[], .begins, rfl⟩ ?_
  unfold schedule Schedule.enable
  split
  · exact .of_eq rfl
  · exact goesOnTo_act id _

/-- A start launches what is built at that moment. -/
theorem start (comes : service.ComesAbout s w) : service.ComesAbout s (service.start w).2 := by
  obtain ⟨moves, course, state⟩ := comes
  refine leadsTo course state (leadsTo_start (fun _ => allows_of_not_asks) fun command c built => ?_)
  exact ⟨moves, List.prefix_rfl, state ▸ built⟩

/-- **Handling a request is a course.** -/
theorem handle (comes : service.ComesAbout s w) (request : Request) :
    service.ComesAbout s (service.handle request w).2 := by
  rcases service.handle_cases request w with goes | started | restarted
  · exact comes.goesOnTo goes
  · rw [started]
    exact comes.start
  · rw [restarted]
    exact (comes.goesOnTo (goesOnTo_stop w)).start

end ComesAbout

/-- **Requests that are handled one after the other are a course.** -/
theorem Chronicle.exists_course (chronicle : service.Chronicle w) :
    ∃ host now, service.ComesAbout
      (.start (service.settings.supervisorOptions service.layout) host now) w := by
  induction chronicle with
  | begins host now => exact ⟨host, now, .begins service host now⟩
  | request before request ih =>
    obtain ⟨host, now, comes⟩ := ih
    exact ⟨host, now, comes.handle request⟩
  | meanwhile before goes ih =>
    obtain ⟨host, now, comes⟩ := ih
    exact ⟨host, now, comes.goesOnTo goes⟩

end GuestSupervisor.Service
