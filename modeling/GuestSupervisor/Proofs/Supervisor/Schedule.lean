import GuestSupervisor.Proofs.Supervisor.Delivery
import GuestSupervisor.Supervisor.Schedule

/-!
# Running a schedule

Whatever a schedule does by itself are moves of its system, and none of them is a command.
When nothing is due, a run up to the present moment leaves everything as it is.

## Main Definitions

* `Move.isOwn` — a move that nobody asks for.
* `Schedule.LeadsTo` — some moves of a kind lead from one schedule to another.
* `Schedule.ComesTo` — some moves other than commands do.
* `Schedule.GoesOnTo` — some moves other than launches do.
* `Schedule.Still` — nothing is due but perhaps a look of the restart task.

## Main Statements

* `Schedule.leadsTo_runUntil` — everything that happens by itself is moves that nobody asks for.
* `Schedule.leadsTo_perform` — an operation is one move that is asked for, and such moves.
* `Schedule.settle_of_rest`, `Schedule.settle_of_step` — what settling does when nothing is due,
  or one thing is.
* `Schedule.Still.settle` — what settling does when nothing but such a look is due.
-/

namespace GuestSupervisor.Supervisor

/-- **The restart task has nothing to do now**, unless something new was published. -/
def RestartTask.Waits (now : Nat) (task : RestartTask) : Prop :=
  match task.stage with
  | .idle | .relaunching => True
  | .sleeping _ wake => now < wake
  | .queued _ => False

/-- Whether nobody asks for a move: what a schedule does by itself. -/
def Move.isOwn : Move → Bool
  | .pass _ | .host _ | .spawn _ | .probed _ | .quitTold | .proceed | .watch _ | .restart
  | .listen _ _ | .exit _ _ => true
  | _ => false

theorem Move.isCommand_of_isOwn (move : Move) (own : move.isOwn) : move.isCommand = false := by
  cases move with
  | dispatch | connect | execute | reply | fail | acknowledge => cases own
  | _ => rfl

theorem Move.not_asks_of_isOwn (move : Move) (own : move.isOwn) : ¬move.asks := by
  cases move with
  | launch | relaunch => cases own
  | _ => exact id

namespace Schedule

variable {w w' w'' pre : Schedule}

/-! ## What happens are moves -/

/-- **Some moves of a kind lead from one schedule to another.** -/
def LeadsTo (allowed : Move → Prop) (w w' : Schedule) : Prop :=
  ∃ moves : List Move, (∀ move ∈ moves, allowed move) ∧ w'.system = w.system.run moves

/-- **Some moves other than commands lead from one schedule to another.** -/
def ComesTo (w w' : Schedule) : Prop :=
  ∃ moves : List Move, (∀ move ∈ moves, move.isCommand = false) ∧
    w'.system = w.system.run moves

/-- **Something other than launches leads from one schedule to another.** -/
def GoesOnTo (w w' : Schedule) : Prop := w.LeadsTo (fun move => ¬move.asks) w'

section LeadsTo

variable {allowed : Move → Prop}

theorem LeadsTo.of_eq (same : w'.system = w.system) : w.LeadsTo allowed w' := ⟨[], by simp, same⟩

theorem LeadsTo.trans (first : w.LeadsTo allowed w') (second : w'.LeadsTo allowed w'') :
    w.LeadsTo allowed w'' := by
  obtain ⟨moves, others, same⟩ := first
  obtain ⟨moves', others', same'⟩ := second
  refine ⟨moves ++ moves', fun move member => ?_, by rw [same', same, System.run_append]⟩
  rcases List.mem_append.mp member with before | after
  · exact others move before
  · exact others' move after

theorem LeadsTo.mono {others : Move → Prop} (leads : w.LeadsTo allowed w')
    (allows : ∀ move, allowed move → others move) : w.LeadsTo others w' := by
  obtain ⟨moves, kind, same⟩ := leads
  exact ⟨moves, fun move member => allows move (kind move member), same⟩

theorem leadsTo_act {move : Move} (allows : allowed move) (w : Schedule) :
    w.LeadsTo allowed (w.act move) :=
  ⟨[move], by simpa using allows, rfl⟩

variable (own : ∀ move : Move, move.isOwn → allowed move)
include own

theorem leadsTo_happen (w : Schedule) (due : Due) : w.LeadsTo allowed (w.happen due) := by
  unfold happen
  split
  · exact leadsTo_act (own _ rfl) w
  · simp only
    split
    · exact leadsTo_act (own _ rfl) w
    · exact (leadsTo_act (own _ rfl) w).trans (leadsTo_act (own _ rfl) _)

theorem leadsTo_programStep (stepped : w.programStep? = some w') : w.LeadsTo allowed w' := by
  unfold programStep? at stepped
  split at stepped
  · split at stepped
    · cases stepped
      exact leadsTo_happen own { w with agenda := _ } _
    · cases stepped
  · cases stepped

theorem leadsTo_spawn (w : Schedule) (order : LaunchOrder) :
    w.LeadsTo allowed (w.spawn order) := by
  refine (leadsTo_act (own _ rfl) w).trans (.of_eq (w := w.act (.spawn w.nextPid)) ?_)
  unfold spawn
  simp only
  split
  · rfl
  · split <;> rfl

theorem leadsTo_carryOut (w : Schedule) (generation : Nat) (r : StandIn.Response) :
    w.LeadsTo allowed (w.carryOut generation r) := by
  have written : w.LeadsTo allowed (w.withFiles r.files) := leadsTo_act (own _ rfl) w
  unfold carryOut
  simp only
  split
  · exact written.trans (.of_eq rfl)
  · exact written

theorem leadsTo_tellToQuit (w : Schedule) (endpoint : String) :
    w.LeadsTo allowed (w.tellToQuit endpoint) := by
  unfold tellToQuit
  simp only
  split
  · split
    · exact .of_eq rfl
    · exact leadsTo_carryOut own w _ _
  · exact .of_eq rfl

theorem leadsTo_workStep (stepped : w.workStep? = some w') : w.LeadsTo allowed w' := by
  unfold workStep? at stepped
  split at stepped
  · cases stepped
  · rename_i order stage _
    cases stage with
    | spawning =>
      cases stepped
      exact leadsTo_spawn own w order
    | resting | culling =>
      simp only at stepped
      split at stepped
      · cases stepped
        exact leadsTo_act (own _ rfl) w
      · cases stepped
    | _ =>
      cases stepped
      exact leadsTo_act (own _ rfl) w
  · rename_i graceful stage _
    cases stage with
    | quitting h =>
      cases stepped
      exact (leadsTo_tellToQuit own w h.endpoint).trans (leadsTo_act (own _ rfl) _)
    | awaitingQuit | awaitingKill =>
      simp only at stepped
      split at stepped
      · cases stepped
        exact leadsTo_act (own _ rfl) w
      · cases stepped
    | _ =>
      cases stepped
      exact leadsTo_act (own _ rfl) w

omit own in
/-- Who takes a step. -/
theorem step?_cases (stepped : w.step? = some w') :
    w.programStep? = some w' ∨ w.killStep? = some w' ∨ w.watcherStep? = some w' ∨
      w.workStep? = some w' ∨ w.restartStep? = some w' := by
  simp only [step?, Option.orElse_eq_orElse, Option.orElse_eq_or, Option.or_eq_some_iff] at stepped
  tauto

/-- **A step is some moves.** -/
theorem leadsTo_step (stepped : w.step? = some w') : w.LeadsTo allowed w' := by
  rcases step?_cases stepped with program | kill | watcher | work | restart
  · exact leadsTo_programStep own program
  · obtain ⟨c, -, rfl⟩ := Option.map_eq_some_iff.mp kill
    exact leadsTo_act (own _ rfl) w
  · obtain ⟨c, -, rfl⟩ := Option.map_eq_some_iff.mp watcher
    exact leadsTo_act (own _ rfl) w
  · exact leadsTo_workStep own work
  · unfold restartStep? at restart
    split at restart
    · cases restart
    · obtain ⟨-, acted⟩ := Option.ite_none_right_eq_some.mp restart
      cases acted
      exact leadsTo_act (own _ rfl) w

/-- **Everything that happens is moves.** -/
theorem leadsTo_runUntil (goal : Schedule → Bool) (limit : Option Nat) (steps : Nat)
    (w : Schedule) : w.LeadsTo allowed (runUntil goal limit steps w) := by
  induction steps generalizing w with
  | zero => exact .of_eq rfl
  | succ steps ih =>
    have passes : ∀ time, w.LeadsTo allowed (w.passTo time) := fun time =>
      leadsTo_act (own _ rfl) w
    have ends : w.LeadsTo allowed ((limit.map w.passTo).getD w) := by
      cases limit with
      | none => exact .of_eq rfl
      | some time => exact passes time
    rw [runUntil]
    split
    · exact .of_eq rfl
    · split
      · exact (leadsTo_step own ‹_›).trans (ih _)
      · split
        · split
          · exact (passes _).trans (ih _)
          · exact ends
        · exact ends

/-- **An operation is moves** from its beginning to its answer. -/
theorem leadsTo_perform {move : Move} (allows : allowed move) (w : Schedule) :
    w.LeadsTo allowed (w.perform move).2 :=
  (((leadsTo_runUntil own _ _ _ w).trans (leadsTo_act allows _)).trans
    (leadsTo_runUntil own _ _ _ _)).trans (leadsTo_runUntil own _ _ _ _)

end LeadsTo

/-- **Everything that happens is moves other than commands.** -/
theorem comesTo_runUntil (goal : Schedule → Bool) (limit : Option Nat) (steps : Nat)
    (w : Schedule) : w.ComesTo (runUntil goal limit steps w) :=
  leadsTo_runUntil Move.isCommand_of_isOwn goal limit steps w

theorem comesTo_carryOut (w : Schedule) (generation : Nat) (r : StandIn.Response) :
    w.ComesTo (w.carryOut generation r) :=
  leadsTo_carryOut Move.isCommand_of_isOwn w generation r

theorem comesTo_launch (w : Schedule) (command : EmulatorCommand) (configuration : Configuration) :
    w.ComesTo (w.launch command configuration).2 :=
  leadsTo_perform Move.isCommand_of_isOwn rfl w

/-! ## At rest -/

/-- Time that has come passes at once. -/
theorem passTo_of_le {time : Nat} (come : time ≤ w.system.now) : w.passTo time = w := by
  rw [passTo, Nat.sub_eq_zero_of_le come]
  rfl

/-- **A run up to the present moment ends where nothing is due.** -/
theorem runUntil_of_rest (rest : w.step? = none) (steps : Nat) :
    runUntil (fun _ => false) (some w.system.now) steps w = w := by
  induction steps with
  | zero => rfl
  | succ steps ih =>
    have stays : w.passTo w.system.now = w := passTo_of_le (Nat.le_refl _)
    rw [runUntil]
    simp only [Bool.false_eq_true, if_false, rest, Option.map_some, Option.getD_some, stays]
    split
    · rename_i time _
      by_cases come : time ≤ w.system.now
      · simp [come, passTo_of_le come, ih]
      · simp [come]
    · rfl

/-- **When nothing is due, settling does nothing.** -/
theorem settle_of_rest (rest : w.step? = none) : w.settle = w := runUntil_of_rest rest patience

/-- **When one thing is due**, settling does that. -/
theorem settle_of_step (first : w.step? = some w') (rest : w'.step? = none)
    (now : w'.system.now = w.system.now) : w.settle = w' := by
  rw [settle, patience, runUntil]
  simp only [Bool.false_eq_true, if_false, first]
  rw [← now]
  exact runUntil_of_rest rest _

/-! ## The restart task alone -/

/-- **Nothing is due but perhaps to the restart task.** -/
structure Still (w : Schedule) : Prop where
  programs : w.programStep? = none
  kills : w.killStep? = none
  watchers : w.watcherStep? = none
  idle : w.system.work = none

theorem Still.step?_eq (still : w.Still) : w.step? = w.restartStep? := by
  have work : w.workStep? = none := by simp [workStep?, still.idle]
  simp [step?, still.programs, still.kills, still.watchers, work]

theorem still_of_rest (rest : w.step? = none) (idle : w.system.work = none) : w.Still := by
  simp only [step?, Option.orElse_eq_orElse, Option.orElse_eq_or, Option.or_eq_none_iff] at rest
  exact ⟨rest.1, rest.2.1, rest.2.2.1, idle⟩

/-- What is done to the guests alone makes nothing due. -/
theorem Still.of_map (still : w.Still) (change : Child → Child)
    (keeps : ∀ c, (change c).signalled = c.signalled ∧ (change c).life = c.life ∧
      (change c).watcher = c.watcher ∧ (change c).ordered = c.ordered)
    (children : pre.system.children = w.system.children.map change) (agenda : pre.agenda = w.agenda)
    (now : pre.system.now = w.system.now) (work : pre.system.work = w.system.work) :
    pre.Still where
  programs := by
    have programs := still.programs
    unfold programStep? at programs ⊢
    rw [agenda, now]
    split
    · rename_i due earliest
      simp only [earliest] at programs
      split
      · rename_i come
        simp [come] at programs
      · rfl
    · rfl
  kills := by
    have kills := still.kills
    rw [killStep?, Option.map_eq_none_iff, List.find?_eq_none] at kills ⊢
    rw [children]
    intro c' member
    obtain ⟨c, memC, rfl⟩ := List.mem_map.mp member
    simpa [(keeps c).1, (keeps c).2.1] using kills c memC
  watchers := by
    have watchers := still.watchers
    rw [watcherStep?, Option.map_eq_none_iff, List.find?_eq_none] at watchers ⊢
    rw [children]
    intro c' member
    obtain ⟨c, memC, rfl⟩ := List.mem_map.mp member
    simpa [watcherIsDue, (keeps c).2.1, (keeps c).2.2.1, (keeps c).2.2.2] using watchers c memC
  idle := work.trans still.idle

theorem Still.waits (still : w.Still) (rest : w.step? = none) {task : RestartTask}
    (current : w.system.restarts = some task) : task.Waits w.system.now := by
  rw [still.step?_eq] at rest
  unfold restartStep? at rest
  unfold RestartTask.Waits
  simp only [current, still.idle] at rest
  cases stage : task.stage with
  | idle | relaunching => trivial
  | sleeping crashed wake =>
    simp only [stage, ite_eq_right_iff, reduceCtorEq, imp_false, decide_eq_true_eq] at rest
    exact Nat.lt_of_not_le rest
  | queued crashed => simp [stage] at rest

/-- A restart task that waits may look at what was published, and then waits again. -/
theorem restartStep?_of_waits
    (waits : ∀ task, w.system.restarts = some task → task.Waits w.system.now)
    (live : ∀ h, w.system.core.published = some h → h.phase ≠ .crashed) :
    w.restartStep? = none ∨ ∃ restarts,
      w.restartStep? = some { w with system := { w.system with restarts } } ∧
      restartStep? { w with system := { w.system with restarts } } = none := by
  cases current : w.system.restarts with
  | none => exact Or.inl (by simp [restartStep?, current])
  | some task =>
    have waiting := waits task current
    unfold RestartTask.Waits at waiting
    cases stage : task.stage with
    | queued crashed => simp [stage] at waiting
    | relaunching => exact Or.inl (by simp [restartStep?, current, stage])
    | sleeping crashed wake =>
      rw [stage] at waiting
      exact Or.inl (by simp [restartStep?, current, stage]; omega)
    | idle =>
      by_cases seen : task.seen = w.system.core.revision
      · exact Or.inl (by simp [restartStep?, current, stage, seen])
      · -- It has not seen what is published, which is no crash.
        have looked : w.system.observe task = { task with seen := w.system.core.revision } := by
          unfold System.observe
          cases published : w.system.core.published with
          | none => rfl
          | some h => simp [live h published]
        have acted : w.act .restart = { w with
            system := { w.system with
              restarts := some { task with seen := w.system.core.revision } } } := by
          simp only [act, System.apply, System.restart, current, stage, seen, if_false, looked]
        refine Or.inr ⟨some { task with seen := w.system.core.revision }, ?_, ?_⟩
        · rw [← acted]
          simp [restartStep?, current, stage, seen]
        · simp [restartStep?, stage]

/-- **When nothing is due but to the restart task**, settling lets it look at what was
published. -/
theorem Still.settle (still : w.Still)
    (waits : ∀ task, w.system.restarts = some task → task.Waits w.system.now)
    (live : ∀ h, w.system.core.published = some h → h.phase ≠ .crashed) :
    (∃ restarts, w.settle = { w with system := { w.system with restarts } }) ∧
      w.settle.step? = none := by
  rcases restartStep?_of_waits waits live with quiet | ⟨restarts, looks, quiet⟩
  · have rest := still.step?_eq.trans quiet
    rw [settle_of_rest rest]
    exact ⟨⟨w.system.restarts, rfl⟩, rest⟩
  · have still' : Still { w with system := { w.system with restarts } } :=
      still.of_map id (fun _ => ⟨rfl, rfl, rfl, rfl⟩) (by simp) rfl rfl rfl
    have rest := still'.step?_eq.trans quiet
    rw [settle_of_step (still.step?_eq.trans looks) rest rfl]
    exact ⟨⟨restarts, rfl⟩, rest⟩

end Schedule

end GuestSupervisor.Supervisor
