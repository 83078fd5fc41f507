import GuestSupervisor.Api.Handler
import GuestSupervisor.Proofs.Supervisor.Moves
import Mathlib.Data.List.Induction

/-!
# Where commands arrive

A caller may name the instance that a command is meant for, and the name is compared
once, before the connection is made.  This module follows one command through a run
and finds out which process it is written to: whoever is the latest when the
connection is made, and that is the instance that was named only if no process was
started in the meantime.

## Main Definitions

* `Dispatch.Goes` — one move takes a command further.
* `DispatchStage.peer?` — the process that a command was written to.

## Main Statements

* `System.dispatch?_apply` — a command on its way goes on by its own moves alone.
* `System.delivered_to_latest` — where a command arrives.
-/

namespace GuestSupervisor.Supervisor

open Instance Monitor

/-- Whether a move is about a command on its way. -/
def Move.isCommand : Move → Bool
  | .dispatch _ _ | .connect _ | .execute _ | .reply _ _ | .fail _ _ | .acknowledge _ => true
  | _ => false

/-- The instance whose process a command was written to and that has not answered. -/
def DispatchStage.peer? : DispatchStage → Option Nat
  | .connected peer | .executed peer => some peer
  | _ => none

/-- **A move takes a command further.**  It connects it to whoever listens at its path,
has it carried out or brings its reply. -/
inductive Dispatch.Goes (s : System) : Move → Dispatch → Dispatch → Prop
  | connected {d : Dispatch} {peer : Nat} (checked : d.stage = .checked)
      (listens : s.listenerAt d.endpoint = .ok peer) :
      Goes s (.connect d.id) d { d with stage := .connected peer }
  | executed {d : Dispatch} {peer : Nat} (connected : d.stage = .connected peer) :
      Goes s (.execute d.id) d { d with stage := .executed peer }
  | replied {d : Dispatch} {peer : Nat} (text : String) (executed : d.stage = .executed peer) :
      Goes s (.reply d.id text) d { d with stage := .replied text }

namespace System

variable {s : System} {id : Nat}

/-! ## Who leaves commands alone -/

/-- The commands on their way, and the number of the next one. -/
def commands (s : System) : List Dispatch × Nat := (s.dispatches, s.dispatched)

@[simp] theorem commands_status : s.status.2.commands = s.commands := by
  obtain ⟨core, same⟩ := s.exists_core_status
  rw [same]
  rfl

@[simp] theorem commands_endLaunch (order : LaunchOrder) (result : Except LaunchError Handle) :
    (s.endLaunch order result).commands = s.commands := by
  unfold endLaunch
  cases order.origin <;> rfl

theorem commands_spawnFor (order : LaunchOrder) (pid : UInt32) :
    (s.spawnFor order pid).commands = s.commands := by
  unfold spawnFor
  simp only
  split
  · rw [commands_endLaunch]
    rfl
  · rfl

theorem commands_proceedLaunch (order : LaunchOrder) (stage : LaunchStage) :
    (s.proceedLaunch order stage).commands = s.commands := by
  cases stage with
  | checking =>
    rw [← commands_status (s := s)]
    simp only [proceedLaunch, liveStatus_eq]
    cases s.status.1.filter Handle.isLive with
    | some h => exact commands_endLaunch ..
    | none => rfl
  | polling | judging | resting | culling =>
    simp only [proceedLaunch]
    split <;> rfl
  | burying | aborting => exact commands_endLaunch ..
  | returning =>
    have before := commands_status (s := s)
    simp only [proceedLaunch]
    cases shown : s.status with
    | mk latest after =>
      rw [shown] at before
      cases latest with
      | none => exact before
      | some h => exact (commands_endLaunch ..).trans before
  | _ => rfl

theorem commands_endTerminate (graceful : Bool) :
    (s.endTerminate graceful).commands = s.commands := by
  have before := commands_status (s := s)
  unfold endTerminate
  cases shown : s.status with
  | mk latest after =>
    rw [shown] at before
    cases latest <;> exact before

theorem commands_proceedTerminate (graceful : Bool) (stage : TerminateStage) :
    (s.proceedTerminate graceful stage).commands = s.commands := by
  cases stage with
  | checking =>
    rw [← commands_status (s := s)]
    simp only [proceedTerminate, liveStatus_eq]
    cases s.status.1.filter Handle.isLive <;> rfl
  | awaitingQuit h deadline =>
    simp only [proceedTerminate]
    split
    · exact commands_endTerminate graceful
    · split <;> rfl
  | killing h =>
    simp only [proceedTerminate, forceKill]
    split <;> rfl
  | awaitingKill h deadline =>
    simp only [proceedTerminate]
    split
    · split
      · rfl
      · exact commands_endTerminate graceful
    · split <;> rfl
  | _ => rfl

theorem commands_begin (work : Work) : (s.begin work).commands = s.commands := by
  unfold begin
  split <;> rfl

theorem commands_watch (generation : Nat) : (s.watch generation).commands = s.commands := by
  unfold watch
  split
  · rfl
  · split
    · rfl
    · rfl
    · split <;> rfl
    · rfl
    · rfl

theorem commands_enableRestarts (maxRestarts : UInt32) (backoff : Nat) :
    (s.enableRestarts maxRestarts backoff).commands = s.commands := by
  unfold enableRestarts
  split
  · rfl
  · split <;> rfl

theorem commands_restart : s.restart.commands = s.commands := by
  unfold restart
  split
  · rfl
  · split
    · split <;> rfl
    · split <;> rfl
    · split <;> rfl
    · rfl

theorem commands_listen (generation : Nat) (endpoint : String) :
    (s.listen generation endpoint).commands = s.commands := by
  unfold listen
  split
  · simp only
    split <;> rfl
  · rfl

/-- **Commands go on by their own moves alone.** -/
theorem commands_apply {move : Move} (other : move.isCommand = false) :
    (s.apply move).commands = s.commands := by
  cases move with
  | status => exact commands_status
  | launch | relaunch | terminate => exact commands_begin _
  | spawn pid =>
    simp only [System.apply]
    split
    · exact commands_spawnFor ..
    · rfl
  | probed | quitTold =>
    simp only [System.apply]
    split <;> rfl
  | proceed =>
    simp only [System.apply, proceed]
    split
    · rfl
    · exact commands_proceedLaunch ..
    · exact commands_proceedTerminate ..
  | watch generation => exact commands_watch generation
  | enableRestarts maxRestarts backoff => exact commands_enableRestarts maxRestarts backoff
  | restart => exact commands_restart
  | listen generation endpoint => exact commands_listen generation endpoint
  | dispatch | connect | execute | reply | fail | acknowledge => simp [Move.isCommand] at other
  | _ => rfl

/-! ## What a move does to the commands -/

/-- What the check of a command lets through. -/
theorem addressee_eq_ok {options : SupervisorOptions} {current : Option Handle}
    {expected : Option Nat} {command : ControlCommand} {h : Handle}
    (accepted : addressee options current expected command = .ok h) :
    current = some h ∧ (∀ g, expected = some g → g = h.generation) ∧ h.phase.acceptsCommands := by
  unfold addressee at accepted
  split at accepted
  · cases accepted
  · simp only at accepted
    split at accepted
    · cases accepted
    · rename_i named
      split at accepted
      · cases accepted
      · rename_i h'
        split at accepted
        · cases accepted
          refine ⟨rfl, fun g names => ?_, ‹_›⟩
          subst names
          by_contra different
          simp [Option.filter, Ne.symm different] at named
        · cases accepted

/-- Looking at the instance does not depend on how many commands were sent. -/
theorem status_counted (s : System) (dispatched : Nat) :
    { s with dispatched }.status = (s.status.1, { s.status.2 with dispatched }) := by
  have gone : ∀ g, { s with dispatched }.isGone g = s.isGone g := fun _ => rfl
  have lost : ∀ g, { s with dispatched }.watcherLost g = s.watcherLost g := fun _ => rfl
  simp only [status, gone, lost]
  cases s.core.published with
  | none => rfl
  | some h =>
    simp only
    split_ifs <;> rfl

/-- **What a move does to the commands on their way.**  It leaves them alone, takes one
further, ends one, or is itself a command that is refused or sent. -/
inductive Carries (s : System) : Move → System → Prop
  | kept {move : Move} {s' : System} (commands : s'.commands = s.commands) : Carries s move s'
  | went {move : Move} {s' : System} (d : Dispatch) (stage : DispatchStage)
      (found : s.dispatch? d.id = some d) (goes : Dispatch.Goes s move d { d with stage })
      (commands : s'.commands = (s.advance d.id stage).commands) : Carries s move s'
  | ended {move : Move} {s' : System} (id : Nat)
      (commands : s'.commands = (s.dispatches.filter (·.id != id), s.dispatched)) :
      Carries s move s'
  | refused {expected : Option Nat} {command : ControlCommand} {s' : System}
      (commands : s'.commands
        = (s.dispatches.filter (·.id != s.dispatched), s.dispatched + 1)) :
      Carries s (.dispatch expected command) s'
  | sent {expected : Option Nat} {command : ControlCommand} {s' : System} (h : Handle)
      (accepted : addressee s.options s.status.1 expected command = .ok h)
      (commands : s'.commands
        = (⟨s.dispatched, expected, command, h.generation, h.endpoint, .checked⟩ :: s.dispatches,
            s.dispatched + 1)) :
      Carries s (.dispatch expected command) s'

theorem options_status (s : System) : s.status.2.options = s.options := by
  obtain ⟨core, same⟩ := s.exists_core_status
  rw [same]

/-- A command is refused at once or sent on its way. -/
theorem beginDispatch_cases (s : System) (expected : Option Nat) (command : ControlCommand) :
    (s.beginDispatch expected command).commands
        = (s.dispatches.filter (·.id != s.dispatched), s.dispatched + 1) ∨
      ∃ h, addressee s.options s.status.1 expected command = .ok h ∧
        (s.beginDispatch expected command).commands
          = (⟨s.dispatched, expected, command, h.generation, h.endpoint, .checked⟩
              :: s.dispatches, s.dispatched + 1) := by
  have before : s.status.2.dispatches = s.dispatches := congrArg Prod.fst commands_status
  unfold beginDispatch
  simp only [status_counted, options_status]
  split
  · exact Or.inl (by simp only [commands, endDispatch, before])
  · exact Or.inl (by simp only [commands, endDispatch, before])
  · exact Or.inr ⟨_, ‹_›, by simp only [commands, before]⟩

theorem carries_connect (s : System) (id : Nat) : Carries s (.connect id) (s.connect id) := by
  unfold connect
  split
  · rename_i d found
    obtain rfl : d.id = id := by simpa using List.find?_some found
    split
    · exact .went d _ found (.connected ‹_› ‹_›) rfl
    · exact .kept rfl
  · exact .kept rfl

theorem carries_execute (s : System) (id : Nat) : Carries s (.execute id) (s.execute id) := by
  unfold execute
  split
  · rename_i d found
    obtain rfl : d.id = id := by simpa using List.find?_some found
    split
    · split
      · exact .went d _ found (.executed ‹_›) rfl
      · exact .kept rfl
    · exact .kept rfl
  · exact .kept rfl

theorem carries_reply (s : System) (id : Nat) (text : String) :
    Carries s (.reply id text) (s.reply id text) := by
  unfold reply
  split
  · rename_i peer stage
    obtain ⟨d, found, executed⟩ := Option.map_eq_some_iff.mp stage
    obtain rfl : d.id = id := by simpa using List.find?_some found
    exact .went d _ found (.replied text executed) rfl
  · exact .kept rfl

theorem carries_apply (s : System) (move : Move) : Carries s move (s.apply move) := by
  cases move with
  | dispatch expected command =>
    rcases s.beginDispatch_cases expected command with refused | ⟨h, accepted, sent⟩
    · exact .refused refused
    · exact .sent h accepted sent
  | connect id => exact carries_connect s id
  | execute id => exact carries_execute s id
  | reply id text => exact carries_reply s id text
  | fail id error =>
    simp only [System.apply, fail]
    split
    · exact .kept rfl
    · exact .kept rfl
    · exact .ended id rfl
  | acknowledge id =>
    simp only [System.apply, acknowledge]
    split
    · split
      · split <;> exact .ended id rfl
      · exact .kept rfl
    · exact .kept rfl
  | _ => exact .kept (commands_apply rfl)

/-! ## One command through a run -/

theorem dispatch?_of_commands {s' : System} (same : s'.commands = s.commands) :
    s'.dispatch? id = s.dispatch? id := by
  unfold dispatch?
  rw [show s'.dispatches = s.dispatches from congrArg Prod.fst same]

theorem dispatch?_advance (other : Nat) (stage : DispatchStage) :
    (s.advance other stage).dispatch? id
      = (s.dispatch? id).map fun d => if d.id = other then { d with stage } else d := by
  unfold dispatch? advance
  simp only [List.find?_map]
  congr 1
  refine List.find?_congr fun d _ => ?_
  by_cases same : d.id = other <;> simp [same]

theorem dispatch?_of_filter {s' : System} {other : Nat}
    (dispatches : s'.dispatches = s.dispatches.filter (·.id != other)) :
    s'.dispatch? id = if id = other then none else s.dispatch? id := by
  unfold dispatch?
  rw [dispatches, List.find?_filter]
  split
  · rename_i same
    refine List.find?_eq_none.mpr fun d _ => ?_
    simp [same]
  · rename_i different
    refine List.find?_congr fun d _ => ?_
    by_cases same : d.id = id <;> simp [same, different]

/-- Numbers of commands are never given again. -/
theorem dispatched_le_apply (s : System) (move : Move) :
    s.dispatched ≤ (s.apply move).dispatched := by
  have counted {n : Nat} {ds : List Dispatch} (same : (s.apply move).commands = (ds, n)) :
      (s.apply move).dispatched = n := congrArg Prod.snd same
  cases s.carries_apply move with
  | kept commands | went d stage found goes commands | ended id commands =>
    exact Nat.le_of_eq (counted commands).symm
  | refused commands | sent h accepted commands =>
    rw [counted commands]
    exact Nat.le_succ _

/-- **A command goes on by its own moves alone.** -/
theorem dispatch?_apply {move : Move} {d' : Dispatch} (counted : id < s.dispatched)
    (found : (s.apply move).dispatch? id = some d') :
    ∃ d, s.dispatch? id = some d ∧ (d' = d ∨ Dispatch.Goes s move d d') := by
  cases s.carries_apply move with
  | kept commands => exact ⟨d', by rw [← dispatch?_of_commands commands, found], Or.inl rfl⟩
  | went d stage known goes commands =>
    -- The command that goes on is this one or another.
    rw [dispatch?_of_commands commands, dispatch?_advance] at found
    obtain ⟨e, foundE, rfl⟩ := Option.map_eq_some_iff.mp found
    refine ⟨e, foundE, ?_⟩
    by_cases same : e.id = d.id
    · obtain rfl : e.id = id := by simpa using List.find?_some foundE
      obtain rfl : e = d := Option.some.inj (by rw [← foundE, same, known])
      exact Or.inr (by simpa using goes)
    · exact Or.inl (by simp [same])
  | ended other commands =>
    rw [dispatch?_of_filter (congrArg Prod.fst commands)] at found
    split at found
    · cases found
    · exact ⟨d', found, Or.inl rfl⟩
  | refused commands =>
    rw [dispatch?_of_filter (congrArg Prod.fst commands), if_neg (Nat.ne_of_lt counted)] at found
    exact ⟨d', found, Or.inl rfl⟩
  | sent h accepted commands =>
    have dispatches := congrArg Prod.fst commands
    simp only [System.commands] at dispatches
    rw [dispatch?, dispatches, List.find?_cons_of_neg (by simp; omega)] at found
    exact ⟨d', found, Or.inl rfl⟩

theorem dispatched_le_run (s : System) (moves : List Move) :
    s.dispatched ≤ (s.run moves).dispatched := by
  induction moves generalizing s with
  | nil => exact Nat.le_refl _
  | cons move moves ih =>
    rw [run_cons]
    exact Nat.le_trans (s.dispatched_le_apply move) (ih _)

/-- What is not on its way does not come back. -/
theorem dispatch?_run_eq_none (counted : id < s.dispatched) (absent : s.dispatch? id = none)
    (moves : List Move) : (s.run moves).dispatch? id = none := by
  induction moves generalizing s with
  | nil => exact absent
  | cons move moves ih =>
    rw [run_cons]
    refine ih (Nat.lt_of_lt_of_le counted (s.dispatched_le_apply move)) ?_
    cases found : (s.apply move).dispatch? id with
    | none => rfl
    | some d' =>
      obtain ⟨d, known, -⟩ := dispatch?_apply counted found
      simp [absent] at known

/-- **A command that was written to a process was connected once**, to whoever listened
at its path at that moment. -/
theorem exists_connect {sent : System} {first : Dispatch} (counted : id < sent.dispatched)
    (known : sent.dispatch? id = some first) (checked : first.stage = .checked)
    (moves : List Move) {d : Dispatch} (found : (sent.run moves).dispatch? id = some d) :
    d = { first with stage := d.stage } ∧
      ∀ peer, d.stage.peer? = some peer → ∃ between after,
        moves = between ++ .connect id :: after ∧
          (sent.run between).listenerAt first.endpoint = .ok peer := by
  -- The induction is on the end of the run, where the command is found.
  induction moves using List.reverseRecOn generalizing d with
  | nil =>
    obtain rfl : first = d := Option.some.inj (known.symm.trans found)
    exact ⟨rfl, by simp [checked, DispatchStage.peer?]⟩
  | append_singleton moves move ih =>
    rw [run_append] at found
    have numbered := Nat.lt_of_lt_of_le counted (sent.dispatched_le_run moves)
    obtain ⟨e, foundE, step⟩ := dispatch?_apply numbered found
    obtain ⟨same, earlier⟩ := ih foundE
    -- What is known of the run so far is known of the longer run.
    have extend : ∀ peer, e.stage.peer? = some peer → ∃ between after,
        moves ++ [move] = between ++ .connect id :: after ∧
          (sent.run between).listenerAt first.endpoint = .ok peer := by
      intro peer written
      obtain ⟨between, after, split, listens⟩ := earlier peer written
      exact ⟨between, after ++ [move], by simp [split], listens⟩
    rcases step with rfl | goes
    · exact ⟨same, extend⟩
    · have number : e.id = id := by simpa using List.find?_some foundE
      cases goes with
      | connected checked listens =>
        refine ⟨by rw [same], fun peer written => ?_⟩
        cases written
        exact ⟨moves, [], by rw [number], by rw [same] at listens; exact listens⟩
      | executed connected =>
        refine ⟨by rw [same], fun peer written => extend peer ?_⟩
        rw [connected]
        exact written
      | replied text executed => exact ⟨by rw [same], by simp [DispatchStage.peer?]⟩

/-! ## Where a command arrives -/

/-- Somebody listens at a socket that can be reached and is its own. -/
theorem listenerAt_eq_ok_iff {endpoint : String} {generation : Nat} :
    s.listenerAt endpoint = .ok generation ↔ addressProblem? endpoint = none ∧
      s.host.files.node? endpoint = .ok (.socket generation) ∧
      (s.child? generation).any fun c => c.life.isAlive && c.listening := by
  unfold listenerAt
  constructor
  · intro listens
    split at listens
    · cases listens
    · rename_i fits
      split at listens
      · cases listens
      · rename_i socket
        split at listens
        · cases listens
          exact ⟨fits, socket, ‹_›⟩
        · cases listens
      · cases listens
  · rintro ⟨fits, socket, alive⟩
    simp only [fits, socket, alive, if_true]

/-- A process that still runs is that of the latest instance: every other one is gone. -/
theorem Sound.eq_launched_of_isAlive (sound : s.Sound) {peer : Nat}
    (alive : (s.child? peer).any (·.life.isAlive)) : peer = s.core.launched := by
  obtain ⟨c, found, runs⟩ := (Option.any_eq_true _ _).mp alive
  obtain ⟨member, rfl⟩ := sound.child?_eq_some_iff.mp found
  by_contra older
  have reaped := sound.earlier c member older
  cases life : c.life <;> simp [life, Life.isAlive, Life.isReaped] at runs reaped

/-- Whoever listens anywhere is the latest. -/
theorem Sound.eq_launched_of_listens (sound : s.Sound) {endpoint : String} {peer : Nat}
    (listens : s.listenerAt endpoint = .ok peer) : peer = s.core.launched := by
  obtain ⟨-, -, alive⟩ := listenerAt_eq_ok_iff.mp listens
  obtain ⟨c, found, runs⟩ := (Option.any_eq_true _ _).mp alive
  rw [Bool.and_eq_true] at runs
  exact sound.eq_launched_of_isAlive ((Option.any_eq_true _ _).mpr ⟨c, found, runs.1⟩)

/-- The number of a command that was checked leads to it if it was let through. -/
theorem dispatch?_beginDispatch (s : System) (expected : Option Nat) (command : ControlCommand) :
    s.dispatched < (s.beginDispatch expected command).dispatched ∧
      ((s.beginDispatch expected command).dispatch? s.dispatched = none ∨
        ∃ h, addressee s.options s.status.1 expected command = .ok h ∧
          (s.beginDispatch expected command).dispatch? s.dispatched
            = some ⟨s.dispatched, expected, command, h.generation, h.endpoint, .checked⟩) := by
  rcases s.beginDispatch_cases expected command with refused | ⟨h, accepted, sent⟩
  · refine ⟨?_, Or.inl ?_⟩
    · rw [show (s.beginDispatch expected command).dispatched = s.dispatched + 1 from
        congrArg Prod.snd refused]
      exact Nat.lt_succ_self _
    · rw [dispatch?_of_filter (congrArg Prod.fst refused), if_pos rfl]
  · refine ⟨?_, Or.inr ⟨h, accepted, ?_⟩⟩
    · rw [show (s.beginDispatch expected command).dispatched = s.dispatched + 1 from
        congrArg Prod.snd sent]
      exact Nat.lt_succ_self _
    · rw [dispatch?, show (s.beginDispatch expected command).dispatches = _ from
        congrArg Prod.fst sent, List.find?_cons_of_pos (by simp)]

/-- **A command arrives at the latest instance, named or not.**

* The name that a caller gives is that of the latest instance when the command is
  checked.  The command is written to the process that listens when the connection is
  made, which is the latest then; it is the one that was named exactly when no process
  was started between the check and the connection.
* Over the network, a stop stops whatever runs: it is carried out as if it named
  nobody. -/
theorem delivered_to_latest (s : System) (reachable : s.Reachable) (g : Nat)
    (command : ControlCommand) :
    (∀ moves d peer,
      let sent := s.apply (.dispatch (some g) command)
      (sent.run moves).dispatch? s.dispatched = some d → d.stage.peer? = some peer →
        d.expected = some g ∧ d.command = command ∧ d.generation = g ∧ g = s.core.launched ∧
        ∃ between after, moves = between ++ .connect s.dispatched :: after ∧
          (sent.run between).listenerAt d.endpoint = .ok peer ∧
          peer = (sent.run between).core.launched ∧
          (peer = g ↔ (sent.run between).children.length = s.children.length)) ∧
    ∀ query (w : Schedule), Service.generationOf? query = some (some g) →
      Service.control "stop" query w = Service.control "stop" [] w := by
  refine ⟨?_, ?_⟩
  · intro moves d peer sent found written
    rcases s.dispatch?_beginDispatch (some g) command with
        ⟨counted, refused | ⟨h, accepted, onItsWay⟩⟩
    · -- A command that was refused is never found again.
      have absent := dispatch?_run_eq_none counted refused moves
      exact absurd (found.symm.trans absent) (by simp)
    · obtain ⟨shown, named, -⟩ := addressee_eq_ok accepted
      obtain rfl : g = h.generation := named g rfl
      have latest := reachable.sound.generation_of_status shown
      obtain ⟨same, connected⟩ := exists_connect counted onItsWay rfl moves found
      obtain ⟨between, after, split, listens⟩ := connected peer written
      have sound : (sent.run between).Sound :=
        ((reachable.run [.dispatch (some h.generation) command]).run between).sound
      have arrives := sound.eq_launched_of_listens listens
      rw [same]
      refine ⟨rfl, rfl, rfl, latest, between, after, split, listens, arrives, ?_⟩
      rw [arrives, latest, sound.length_children, reachable.sound.length_children]
  · intro query w named
    have stop : Api.decodePiece? "stop".toList = some "stop" := by decide
    have nobody : Service.generationOf? [] = some none := rfl
    simp only [Service.control, stop, named, nobody, if_pos]

/-! ## A command that is overtaken -/

/-- The first instance runs. -/
def firstRuns : System :=
  (start bareOptions bareHost 0).run (.launch bareCommand {} :: launchCourse 1 1000)

/-- The first instance is stopped and another one launched, and only then is the
command connected. -/
def overtaking : List Move :=
  stopCourse 1 ++ .launch bareCommand {} :: launchCourse 2 1001 ++ [.connect 0, .execute 0]

/-- A command to the first instance that the second one has carried out. -/
def overtaken : Dispatch := ⟨0, some 1, .pause, 1, "monitor.sock", .executed 2⟩

theorem reachable_firstRuns : firstRuns.Reachable := (reachable_start _ _ _).run _

theorem dispatch?_overtaking :
    ((firstRuns.apply (.dispatch (some 1) .pause)).run overtaking).dispatch? firstRuns.dispatched
      = some overtaken := by
  decide

/-- The command for the first instance was written to the second one when that was the
latest, and a stop for the first instance stops whatever runs. -/
theorem overtaken_delivered_to_second :
    (∃ between after, overtaking = between ++ .connect 0 :: after ∧
      ((firstRuns.apply (.dispatch (some 1) .pause)).run between).core.launched = 2) ∧
    Service.control "stop" [("generation", "1")] (.start bareOptions bareHost 0)
      = Service.control "stop" [] (.start bareOptions bareHost 0) := by
  obtain ⟨-, -, -, -, between, after, split, -, latest, -⟩ :=
    (delivered_to_latest firstRuns reachable_firstRuns 1 .pause).1 overtaking overtaken 2
      dispatch?_overtaking rfl
  exact ⟨⟨between, after, split, latest.symm⟩,
    (delivered_to_latest firstRuns reachable_firstRuns 1 .pause).2 [("generation", "1")] _
      (by decide)⟩

/-- **Naming an instance is not enough to reach no other**: the command that names the
first instance reaches the second. -/
theorem not_delivered_to_named_only :
    ¬ ∀ s : System, s.Reachable → ∀ g command moves d peer,
      ((s.apply (.dispatch (some g) command)).run moves).dispatch? s.dispatched = some d →
        d.stage.peer? = some peer → peer = g := by
  intro reachesNamed
  have same := reachesNamed firstRuns reachable_firstRuns 1 .pause overtaking overtaken 2
    dispatch?_overtaking rfl
  omega

end System

end GuestSupervisor.Supervisor
