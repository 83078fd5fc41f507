import GuestSupervisor.Proofs.Supervisor.Coherence
import GuestSupervisor.Proofs.Supervisor.Flight

/-!
# In which order commands count

Two things follow the commands to one instance, each in an order of its own.  The guest stands
still as the last command wants it that its process carried out, and the supervisor shows what the
last acknowledgement says that reached its machine.  Commands run beside each other, and nothing
makes their acknowledgements come in the order in which they were carried out.  So when all have
returned, the same commands are in both orders, but what is shown of the guest is so exactly when
the last one of both orders asks for the same.

## Main Definitions

* `System.clockAfter` — whether a guest stands still after some commands.
* `System.Shows` — what the supervisor says of the guest, if it says anything.

## Main Statements

* `System.Sound.clocks_run` — each order decides its own.
* `System.shown_of_last_acknowledged` — what is shown when all commands have returned.
* `System.not_shown_of_last_executed` — it need not be what the last command wanted.
-/

namespace GuestSupervisor.Instance.Phase

/-- Nothing is said of a guest again once nothing is. -/
theorem standsStill?_step_of_none {phase : Phase} (nothing : phase.standsStill? = none)
    (event : Event) : (phase.step event).standsStill? = none := by
  cases phase with
  | starting | running | paused => cases nothing
  | stopping => cases event <;> rfl
  | stopped | crashed => rfl

/-- No event makes an instance start again. -/
theorem step_ne_starting {phase : Phase} (begun : phase ≠ starting) (event : Event) :
    phase.step event ≠ starting := by
  cases event with
  | exited success => cases success <;> cases phase <;> simp_all [step, liveStep]
  | _ => cases phase <;> simp_all [step, liveStep]

end GuestSupervisor.Instance.Phase

namespace GuestSupervisor.Supervisor

open Instance Monitor

variable {command : ControlCommand}

/-- A live instance that has begun shows whether its guest stands still. -/
theorem eq_clockPhase {phase : Phase} {still : Bool} (claimed : phase.standsStill? = some still)
    (begun : phase ≠ .starting) : phase = clockPhase still := by
  cases phase with
  | starting => exact absurd rfl begun
  | running | paused =>
    cases claimed
    rfl
  | stopping | stopped | crashed => cases claimed

theorem standsStill?_clockPhase (still : Bool) :
    (clockPhase still).standsStill? = some still := by
  cases still <;> rfl

/-- A phase in which commands are accepted says something of the guest. -/
theorem standsStill?_ne_none {phase : Phase} (accepts : phase.acceptsCommands) :
    phase.standsStill? ≠ none := by
  cases phase <;> simp_all [Phase.acceptsCommands, Phase.standsStill?]

/-- **An acknowledgement makes a live instance show what its command wants.** -/
theorem step_clockPhase {event : Event} (means : acknowledgement? command = some event)
    (still : Bool) : (clockPhase still).step event = clockPhase (System.pausing command still) := by
  cases command <;> cases means <;> cases still <;> rfl

/-- A command that the machine is not told of leaves the guest as it is. -/
theorem pausing_of_silent (silent : acknowledgement? command = none) (still : Bool) :
    System.pausing command still = still := by
  cases command with
  | pause | resume => cases silent
  | _ => rfl

namespace System

variable {s s' : System} {g n : Nat} {still : Bool} {move : Move} {moves : List Move}

/-! ## The guest's clock after some commands -/

/-- **Whether a guest stands still after some commands.** -/
def clockAfter (still : Bool) (entries : List (Nat × ControlCommand)) : Bool :=
  entries.foldl (fun still entry => pausing entry.2 still) still

theorem clockAfter_append (still : Bool) (first second : List (Nat × ControlCommand)) :
    clockAfter still (first ++ second) = clockAfter (clockAfter still first) second :=
  List.foldl_append

/-- **The last command decides.** -/
theorem clockAfter_of_getLast? {entries : List (Nat × ControlCommand)}
    {last : Nat × ControlCommand} (ends : entries.getLast? = some last)
    (clock : last.2 = .pause ∨ last.2 = .resume) (still : Bool) :
    clockAfter still entries = true ↔ last.2 = .pause := by
  obtain ⟨before, rfl⟩ := List.getLast?_eq_some_iff.mp ends
  rw [clockAfter_append]
  rcases clock with same | same <;> simp [clockAfter, same, pausing]

/-! ## Moves that are nobody's business -/

/-- A process that is started takes a new number, or nothing has changed. -/
theorem steady_spawnFor {order : LaunchOrder} {pid : UInt32}
    (stays : (s.spawnFor order pid).core.launched = s.core.launched) :
    s.Steady (s.spawnFor order pid) := by
  revert stays
  unfold spawnFor
  simp only
  split
  · exact fun _ => .of_eq (by simp [clocks]) (by simp)
  · exact fun stays => absurd stays (Nat.succ_ne_self _)

theorem onlyTalks_connect (s : System) (id : Nat) : s.OnlyTalks (s.connect id) := by
  unfold connect
  split
  · split
    · exact ⟨_, _, _, rfl⟩
    · exact .refl s
  · exact .refl s

theorem onlyTalks_reply (s : System) (id : Nat) (text : String) :
    s.OnlyTalks (s.reply id text) := by
  unfold reply
  split
  · exact ⟨_, _, _, rfl⟩
  · exact .refl s

/-- **While no process is started, nothing else is done to a guest or said of it** than by
carrying out a command or by its acknowledgement. -/
theorem Sound.steady_of_launched (sound : s.Sound)
    (stays : (s.apply move).core.launched = s.core.launched)
    (notExecute : ∀ id, move ≠ .execute id) (notAcknowledge : ∀ id, move ≠ .acknowledge id) :
    s.Steady (s.apply move) := by
  by_cases other : move.isCommand = false
  · rcases sound.steady_apply other with steady | ⟨order, pid, spawned⟩
    · exact steady
    · rw [spawned] at stays ⊢
      exact steady_spawnFor stays
  · cases move with
    | dispatch expected command =>
      exact sound.steady_status.trans (s.onlyTalks_beginDispatch expected command).steady
    | connect id => exact (s.onlyTalks_connect id).steady
    | reply id text => exact (s.onlyTalks_reply id text).steady
    | fail id error => exact (s.onlyTalks_fail id error).steady
    | execute id => exact absurd rfl (notExecute id)
    | acknowledge id => exact absurd rfl (notAcknowledge id)
    | _ => exact absurd rfl other

theorem Steady.isPaused (steady : s.Steady s') (g : Nat) : s'.isPaused g = s.isPaused g := by
  rw [isPaused_eq_clocks, steady.clocks, ← isPaused_eq_clocks]

/-! ## What the guest does -/

/-- **The latest instance's guest does what is carried out.** -/
theorem Sound.isPaused_apply (sound : s.Sound) (latest : s.core.launched = g)
    (stays : (s.apply move).core.launched = g) :
    (s.apply move).isPaused g = clockAfter (s.isPaused g) (noted executed? s move) := by
  have steady (notExecute : ∀ id, move ≠ .execute id)
      (notAcknowledge : ∀ id, move ≠ .acknowledge id) :=
    (sound.steady_of_launched (stays.trans latest.symm) notExecute notAcknowledge).isPaused g
  cases move with
  | execute id =>
    simp only [System.apply]
    rcases s.execute_cases id with ⟨nothing, same⟩ | ⟨d, peer, notes, -, -, alive, same⟩
    · simp [noted, nothing, same, clockAfter]
    · obtain rfl : peer = g := (sound.eq_launched_of_isAlive alive).trans latest
      rw [noted, notes, same]
      exact isPaused_obey alive d.command
  | acknowledge id =>
    simp only [System.apply]
    rcases s.acknowledge_cases id with ⟨-, same⟩ | ⟨d, text, -, -, -, same⟩
    · rw [same]
      rfl
    · rw [same]
      rfl
  | _ => exact steady (by simp) (by simp)

/-! ## What the supervisor shows -/

/-- **What the supervisor says of the guest**, if it says anything. -/
def Shows (s : System) (g : Nat) (still : Bool) : Prop :=
  ∀ h, s.core.published = some h → h.generation = g →
    h.phase = clockPhase still ∨ h.phase.standsStill? = none

/-- Something is said of the guest of an instance that accepts commands. -/
theorem exists_shows {h : Handle} (published : s.core.published = some h)
    (accepts : h.phase.acceptsCommands) : ∃ still, s.Shows h.generation still := by
  obtain ⟨still, claimed⟩ := Option.ne_none_iff_exists'.mp (standsStill?_ne_none accepts)
  refine ⟨still, fun h' published' _ => ?_⟩
  obtain rfl := Option.some.inj (published.symm.trans published')
  refine .inl (eq_clockPhase claimed ?_)
  intro starts
  rw [starts] at accepts
  cases accepts

theorem Shows.begun (shown : s.Shows g still) {h : Handle} (published : s.core.published = some h)
    (same : h.generation = g) : h.phase ≠ .starting := by
  intro starts
  rcases shown h published same with claimed | nothing
  · rw [starts] at claimed
    cases still <;> cases claimed
  · rw [starts] at nothing
    cases nothing

/-- An instance that has begun does not start again. -/
theorem Sound.begun_changes (sound : s.Sound) (changes : Changes s s')
    (begun : ∀ h, s.core.published = some h → h.generation = g → h.phase ≠ .starting)
    (latest : s.core.launched = g) (stays : s'.core.launched = g) :
    ∀ h, s'.core.published = some h → h.generation = g → h.phase ≠ .starting := by
  induction changes with
  | refl => exact begun
  | @tail t t' earlier last ih =>
    have before := (sound.precedes_changes earlier).launched
    have after := ((sound.changes earlier).precedes_change last).launched
    have begun := ih (by omega)
    cases last with
    | started order pid program host deadline current =>
      have next : (t.started order pid program host deadline).core.launched
          = t.core.launched + 1 := rfl
      omega
    | quiet quiet =>
      rcases (sound.changes earlier).published_quiet quiet with
        same | ⟨h, event, exit, published, same⟩
      · rw [same]
        exact begun
      · rw [same]
        rintro _ ⟨⟩ number
        exact Phase.step_ne_starting (begun h published number) event

/-- What is published when the latest instance's machine was told of an acknowledgement. -/
theorem Sound.published_acknowledged (sound : s.Sound) (command : ControlCommand) :
    (acknowledged s.core s.core.launched command).published = s.core.published.map fun h =>
      { h with phase := ((acknowledgement? command).map h.phase.step).getD h.phase } := by
  unfold acknowledged
  cases acknowledgement? command with
  | none => simp
  | some event =>
    cases published : s.core.published with
    | none => simp [Core.transition, sound.coherent.active_eq_none published, published]
    | some h => simp [sound.coherent.published_transition published]

/-- An acknowledgement makes the supervisor say what its command wants. -/
theorem Sound.shows_acknowledged (sound : s.Sound) (shown : s.Shows s.core.launched still)
    {h : Handle} (published : s.core.published = some h) (command : ControlCommand) :
    ((acknowledgement? command).map h.phase.step).getD h.phase
        = clockPhase (pausing command still) ∨
      (((acknowledgement? command).map h.phase.step).getD h.phase).standsStill? = none := by
  rcases shown h published (sound.coherent.published h published) with claimed | nothing
  · cases means : acknowledgement? command with
    | none => exact .inl (by simp [claimed, pausing_of_silent means])
    | some event => exact .inl (by simp [claimed, step_clockPhase means])
  · cases means : acknowledgement? command with
    | none => exact .inr nothing
    | some event => exact .inr (Phase.standsStill?_step_of_none nothing event)

/-- **What is shown of the latest instance's guest is what is acknowledged.** -/
theorem Sound.shows_apply (sound : s.Sound) (latest : s.core.launched = g)
    (stays : (s.apply move).core.launched = g) (meant : ∀ d ∈ s.dispatches, d.generation = g)
    (shown : s.Shows g still) :
    (s.apply move).Shows g (clockAfter still (noted acknowledged? s move)) := by
  have begun := sound.begun_changes (sound.changes_apply move) (fun _ => shown.begun) latest stays
  have steady (notExecute : ∀ id, move ≠ .execute id)
      (notAcknowledge : ∀ id, move ≠ .acknowledge id) : (s.apply move).Shows g still := by
    intro h' published same
    rcases (sound.steady_of_launched (stays.trans latest.symm) notExecute notAcknowledge).said h'
      published with nothing | ⟨h, before, number, again⟩
    · exact .inr nothing
    · rcases shown h before (number.trans same) with claimed | nothing
      · refine .inl (eq_clockPhase ?_ (begun h' published same))
        rw [again, claimed, standsStill?_clockPhase]
      · exact .inr (again.trans nothing)
  cases move with
  | execute id =>
    simp only [System.apply]
    rcases s.execute_cases id with ⟨-, same⟩ | ⟨d, peer, -, -, -, -, same⟩
    · rw [same]
      exact shown
    · rw [same]
      exact shown
  | acknowledge id =>
    simp only [System.apply]
    rcases s.acknowledge_cases id with ⟨nothing, same⟩ | ⟨d, text, notes, found, -, same⟩
    · rw [noted, nothing, same]
      exact shown
    · rw [noted, notes, same]
      have number := meant d (mem_dispatches_of_dispatch? found).1
      subst latest
      intro h' published' same'
      simp only [endDispatch, number, sound.published_acknowledged] at published'
      obtain ⟨h, published, rfl⟩ := Option.map_eq_some_iff.mp published'
      exact sound.shows_acknowledged shown published d.command
  | _ => exact steady (by simp) (by simp)

/-! ## Whole runs -/

theorem Sound.launched_between (sound : s.Sound) (latest : s.core.launched = g)
    (stays : (s.run (move :: moves)).core.launched = g) : (s.apply move).core.launched = g := by
  have next := sound.changes (sound.changes_apply move)
  have first := (sound.precedes_changes (sound.changes_apply move)).launched
  have rest := (next.precedes_changes (next.changes_run moves)).launched
  rw [run_cons] at stays
  omega

/-- Whoever is checked while one instance is the latest is meant for it. -/
theorem Sound.meant_apply (sound : s.Sound) (latest : s.core.launched = g)
    (meant : ∀ d ∈ s.dispatches, d.generation = g) (move : Move) :
    ∀ d ∈ (s.apply move).dispatches, d.generation = g :=
  forall_dispatches_apply (fun d => d.generation = g) (fun _ _ same => same)
    (fun _ _ _ _ accepted =>
      (sound.generation_of_status (addressee_eq_ok accepted).1).trans latest) meant

/-- **Each order decides its own**: the guest does what is carried out, and what is shown of it is
what is acknowledged. -/
theorem Sound.clocks_run (sound : s.Sound) (latest : s.core.launched = g)
    (stays : (s.run moves).core.launched = g) (meant : ∀ d ∈ s.dispatches, d.generation = g)
    (shown : s.Shows g still) :
    (s.run moves).isPaused g = clockAfter (s.isPaused g) (s.executions moves) ∧
      (s.run moves).Shows g (clockAfter still (s.acknowledgements moves)) := by
  induction moves generalizing s still with
  | nil => exact ⟨rfl, shown⟩
  | cons move moves ih =>
    have between := sound.launched_between latest stays
    have next := sound.changes (sound.changes_apply move)
    have paused := sound.isPaused_apply latest between
    have shows' := sound.shows_apply latest between meant shown
    obtain ⟨guest, said⟩ := ih next between stays (sound.meant_apply latest meant move) shows'
    rw [executions, along_cons, clockAfter_append, acknowledgements, along_cons, clockAfter_append]
    rw [paused] at guest
    exact ⟨guest, said⟩

/-- Whether a command is about the guest's clock. -/
def IsClock (command : ControlCommand) : Prop := command = .pause ∨ command = .resume

/-- **Whoever writes down only commands on their way** writes down only what was sent. -/
theorem forall_mem_along {look : System → Move → Option Dispatch}
    (among : ∀ s move d, look s move = some d → d ∈ s.dispatches)
    (clock : ∀ expected command, .dispatch expected command ∈ moves → IsClock command)
    (all : ∀ d ∈ s.dispatches, IsClock d.command) :
    ∀ entry ∈ along look s moves, IsClock entry.2 := by
  induction moves generalizing s with
  | nil => simp [along]
  | cons move moves ih =>
    have next : ∀ d ∈ (s.apply move).dispatches, IsClock d.command :=
      forall_dispatches_apply (fun d => IsClock d.command) (fun _ _ asks => asks)
        (fun expected command _ same _ => clock expected command (by simp [same])) all
    intro entry member
    rw [along_cons, List.mem_append] at member
    rcases member with now | later
    · obtain ⟨d, notes, rfl⟩ := List.mem_map.mp now
      exact all d (among s move d (Option.mem_toList.mp notes))
    · exact ih (fun expected command asked => clock expected command (List.mem_cons_of_mem _ asked))
        next entry later

theorem mem_of_executed? (s : System) (move : Move) (d : Dispatch)
    (notes : s.executed? move = some d) : d ∈ s.dispatches := by
  cases move with
  | execute id => exact (mem_dispatches_of_dispatch? (Option.filter_eq_some_iff.mp notes).1).1
  | _ => cases notes

theorem mem_of_acknowledged? (s : System) (move : Move) (d : Dispatch)
    (notes : s.acknowledged? move = some d) : d ∈ s.dispatches := by
  cases move with
  | acknowledge id => exact (mem_dispatches_of_dispatch? (Option.filter_eq_some_iff.mp notes).1).1
  | _ => cases notes

/-! ## When all have returned -/

/-- An acknowledgement for an earlier instance is dropped. -/
theorem Sound.acknowledged_of_ne (sound : s.Sound) (older : g ≠ s.core.launched)
    (command : ControlCommand) : acknowledged s.core g command = s.core := by
  unfold acknowledged
  cases acknowledgement? command with
  | none => rfl
  | some event => exact sound.coherent.transition_of_ne older

/-- A command that is acknowledged leaves a live instance live. -/
theorem acceptsCommands_acknowledged {phase : Phase} (accepts : phase.acceptsCommands)
    (command : ControlCommand) :
    (((acknowledgement? command).map phase.step).getD phase).acceptsCommands := by
  cases command <;> cases phase <;> simp_all [acknowledgement?, Phase.step, Phase.liveStep,
    Phase.acceptsCommands]

/-- **A live instance**: its commands are accepted, and its process runs. -/
structure LiveAt (s : System) (g : Nat) : Prop where
  accepts : ∃ h, s.core.published = some h ∧ h.generation = g ∧ h.phase.acceptsCommands
  alive : (s.child? g).any (·.life.isAlive)

theorem LiveAt.onlyTalks (live : s.LiveAt g) (talks : s.OnlyTalks s') : s'.LiveAt g := by
  obtain ⟨_, _, _, rfl⟩ := talks
  exact ⟨live.accepts, live.alive⟩

/-- **A command leaves a live instance live**, whatever step it takes. -/
theorem Sound.liveAt_apply (sound : s.Sound) (live : s.LiveAt g) (own : move.isCommand) :
    (s.apply move).LiveAt g := by
  obtain ⟨⟨h, published, rfl, accepts⟩, alive⟩ := live
  have live : s.LiveAt h.generation := ⟨⟨h, published, rfl, accepts⟩, alive⟩
  cases move with
  | dispatch expected command =>
    have looked := status_of_isAlive published accepts alive
    have talks := s.onlyTalks_beginDispatch expected command
    rw [looked] at talks
    exact live.onlyTalks talks
  | connect id => exact live.onlyTalks (s.onlyTalks_connect id)
  | reply id text => exact live.onlyTalks (s.onlyTalks_reply id text)
  | fail id error => exact live.onlyTalks (s.onlyTalks_fail id error)
  | execute id =>
    simp only [System.apply]
    rcases s.execute_cases id with ⟨-, same⟩ | ⟨d, peer, -, -, -, -, same⟩
    · rw [same]
      exact live
    · rw [same]
      exact ⟨live.accepts, (any_child?_obey (fun _ => rfl) peer h.generation).trans alive⟩
  | acknowledge id =>
    simp only [System.apply]
    rcases s.acknowledge_cases id with ⟨-, same⟩ | ⟨d, text, -, -, -, same⟩
    · rw [same]
      exact live
    · rw [same]
      refine ⟨?_, alive⟩
      by_cases latest : d.generation = s.core.launched
      · simp only [endDispatch, latest, sound.published_acknowledged, published, Option.map_some]
        exact ⟨_, rfl, rfl, acceptsCommands_acknowledged accepts d.command⟩
      · rw [sound.acknowledged_of_ne latest d.command]
        exact live.accepts
  | _ => cases own

/-- **Commands alone leave a live instance live.** -/
theorem Sound.status_of_commands (sound : s.Sound) (live : s.LiveAt g)
    (commands : ∀ move ∈ moves, move.isCommand) :
    ∃ h, (s.run moves).status.1 = some h ∧ h.generation = g ∧ h.phase.acceptsCommands := by
  induction moves generalizing s with
  | nil =>
    obtain ⟨⟨h, published, rfl, accepts⟩, alive⟩ := live
    exact ⟨h, by rw [run_nil, status_of_isAlive published accepts alive], rfl, accepts⟩
  | cons move moves ih =>
    rw [List.forall_mem_cons] at commands
    exact ih (sound.changes (sound.changes_apply move)) (sound.liveAt_apply live commands.1)
      commands.2

/-- **What is shown is what was acknowledged last**, when all of some commands about the guest's
clock have returned, whatever else happened.

* Every command that was sent was acknowledged, and those that were carried out are those that
  were acknowledged, in an order of their own.
* If the process runs and there are no moves but the commands' own, the instance stays live.
* While it stays live it is shown as paused exactly when the command that was acknowledged last is
  one to pause, and its guest stands still exactly when the command that was carried out last is;
  so what is shown is what that command wants exactly when both ask for the same. -/
theorem shown_of_last_acknowledged (s : System) (reachable : s.Reachable) (h : Handle)
    (shown : s.status.1 = some h) (accepts : h.phase.acceptsCommands) (moves : List Move)
    (clock : ∀ expected command, .dispatch expected command ∈ moves → IsClock command)
    (returns : s.AllReturn moves) :
    (∀ id, s.dispatched ≤ id → id < (s.run moves).dispatched →
      ∃ command, (id, command) ∈ s.acknowledgements moves) ∧
    (s.executions moves).Perm (s.acknowledgements moves) ∧
    ((s.child? h.generation).any (·.life.isAlive) → (∀ move ∈ moves, move.isCommand) →
      ∃ h', (s.run moves).status.1 = some h' ∧ h'.generation = h.generation ∧
        h'.phase.acceptsCommands) ∧
    ∀ h', (s.run moves).status.1 = some h' → h'.generation = h.generation →
      h'.phase.acceptsCommands → ∀ executed acknowledged,
        (s.executions moves).getLast? = some executed →
        (s.acknowledgements moves).getLast? = some acknowledged →
          (h'.phase = .paused ↔ acknowledged.2 = .pause) ∧
          ((s.run moves).isPaused h.generation ↔ executed.2 = .pause) ∧
          ((h'.phase = .paused ↔ executed.2 = .pause) ↔ acknowledged.2 = executed.2) := by
  have sound := reachable.sound
  have latest := (sound.generation_of_status shown).symm
  obtain ⟨published, -⟩ := sound.status_of_accepts shown accepts
  obtain ⟨all, balanced⟩ := returns.balanced sound
  refine ⟨all, balanced,
    fun alive own => sound.status_of_commands ⟨⟨h, published, rfl, accepts⟩, alive⟩ own, ?_⟩
  intro h' shown' same accepts' executed acknowledged lastExecuted lastAcknowledged
  have after := (reachable.run moves).sound
  obtain ⟨published', -⟩ := after.status_of_accepts shown' accepts'
  have stays : (s.run moves).core.launched = h.generation :=
    (after.generation_of_status shown').symm.trans same
  obtain ⟨still, claimed⟩ := exists_shows published accepts
  obtain ⟨guest, said⟩ := sound.clocks_run latest stays (by simp [returns.idle]) claimed
  have phase := (said h' published' same).resolve_right (standsStill?_ne_none accepts')
  have nobody : ∀ d ∈ s.dispatches, IsClock d.command := by simp [returns.idle]
  have clockE := forall_mem_along mem_of_executed? clock nobody executed
    (List.mem_of_getLast? lastExecuted)
  have clockA := forall_mem_along mem_of_acknowledged? clock nobody acknowledged
    (List.mem_of_getLast? lastAcknowledged)
  have paused : h'.phase = .paused ↔ acknowledged.2 = .pause := by
    rw [phase, ← clockAfter_of_getLast? lastAcknowledged clockA still]
    cases clockAfter still (s.acknowledgements moves) <;> simp [clockPhase]
  have halted : (s.run moves).isPaused h.generation ↔ executed.2 = .pause := by
    rw [guest]
    exact clockAfter_of_getLast? lastExecuted clockE _
  refine ⟨paused, halted, ?_⟩
  rw [paused]
  rcases clockE with wanted | wanted <;> rcases clockA with told | told <;> simp [wanted, told]

/-! ## Acknowledgements that cross -/

/-- A command to pause and one to resume are carried out in this order and acknowledged in the
other. -/
def crossing : List Move :=
  [.dispatch none .pause, .dispatch none .resume, .connect 0, .connect 1, .execute 0, .execute 1,
    .reply 0 "", .reply 1 "", .acknowledge 1, .acknowledge 0]

theorem isClock_crossing (expected : Option Nat) (command : ControlCommand)
    (asked : .dispatch expected command ∈ crossing) : IsClock command := by
  simp only [crossing, List.mem_cons, Move.dispatch.injEq, List.not_mem_nil, or_false,
    reduceCtorEq] at asked
  exact asked.imp And.right And.right

theorem allReturn_crossing : firstRuns.AllReturn crossing where
  idle := rfl
  returned := rfl
  succeeded := by
    obtain ⟨result, told⟩ : ∃ result, (firstRuns.run crossing).answers
        = [.dispatched 0 (.ok ""), .dispatched 1 (.ok ""), .launched .caller result] := ⟨_, rfl⟩
    rw [told]
    simp

theorem executions_crossing : firstRuns.executions crossing = [(0, .pause), (1, .resume)] := by
  decide

theorem acknowledgements_crossing :
    firstRuns.acknowledgements crossing = [(1, .resume), (0, .pause)] := by
  decide

/-- The instance stays live and is shown as paused, but its guest goes on. -/
theorem shown_of_last_acknowledged_crossing :
    ∃ h', (firstRuns.run crossing).status.1 = some h' ∧ h'.phase = .paused ∧
      ¬ (firstRuns.run crossing).isPaused h'.generation := by
  obtain ⟨h, shown, accepts, alive⟩ : ∃ h, firstRuns.status.1 = some h ∧ h.phase.acceptsCommands ∧
      (firstRuns.child? h.generation).any (·.life.isAlive) := ⟨_, rfl, rfl, rfl⟩
  obtain ⟨-, -, live, decides⟩ := shown_of_last_acknowledged firstRuns reachable_firstRuns h shown
    accepts crossing isClock_crossing allReturn_crossing
  obtain ⟨h', shown', same, accepts'⟩ := live alive (by decide)
  obtain ⟨paused, halted, -⟩ := decides h' shown' same accepts' (1, .resume) (0, .pause)
    (by rw [executions_crossing]; rfl) (by rw [acknowledgements_crossing]; rfl)
  refine ⟨h', shown', paused.mpr rfl, fun still => ?_⟩
  rw [same] at still
  cases halted.mp still

/-- **What is shown need not be what the last command wanted**, even if nothing happens but the
commands' own moves and all return successfully. -/
theorem not_shown_of_last_executed :
    ¬ ∀ s : System, s.Reachable → ∀ h, s.status.1 = some h → h.phase.acceptsCommands →
      ∀ moves, (∀ move ∈ moves, move.isCommand) →
        (∀ expected command, .dispatch expected command ∈ moves → IsClock command) →
        s.AllReturn moves → ∀ h', (s.run moves).status.1 = some h' →
          ∀ last, (s.executions moves).getLast? = some last →
            (h'.phase = .paused ↔ last.2 = .pause) := by
  intro decides
  obtain ⟨h, shown, accepts⟩ : ∃ h, firstRuns.status.1 = some h ∧ h.phase.acceptsCommands :=
    ⟨_, rfl, rfl⟩
  obtain ⟨h', shown', paused⟩ : ∃ h', (firstRuns.run crossing).status.1 = some h' ∧
      h'.phase = .paused := ⟨_, rfl, rfl⟩
  have wanted := decides firstRuns reachable_firstRuns h shown accepts crossing (by decide)
    isClock_crossing allReturn_crossing h' shown' (1, .resume) (by rw [executions_crossing]; rfl)
  cases wanted.mp paused

end System

end GuestSupervisor.Supervisor
