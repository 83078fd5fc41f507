import GuestSupervisor.Proofs.Supervisor.Carried

/-!
# Conversations with an instance

An instance that serves is sent commands one after the other.  Each of them either is refused, and
nothing is written, or it is written to the stand-in, which carries it out.  The supervisor then
shows the instance as paused exactly when the stand-in's guest stands still, and the instance
serves as before.

## Main Definitions

* `Schedule.Possible` — what a schedule may come to when commands are sent one after the other.
* `Schedule.Serves` — an instance accepts commands and listens, and nothing is about to happen.
* `Schedule.Refuses` — what no instance carries out.
* `Schedule.Converses` — what a command comes to, on both sides.
* `Schedule.Conversation` — commands that are sent one after the other.

## Main Statements

* `Schedule.Possible.showsClock` — the guest is always shown as it is.
* `Schedule.Serves.dispatch`, `Schedule.Serves.converses` — one command.
* `Schedule.conversation_agrees` — any number of them.
-/

namespace GuestSupervisor.Supervisor

open Instance Monitor Text

namespace Schedule

variable {w pre : Schedule} {h : Handle} {expected : Option Nat} {command : ControlCommand}
  {exchange : Exchange} {e : ChannelError}

/-! ## Schedules that are possible -/

/-- **What a schedule may come to.**  Anything may happen in it by itself, and commands are sent
one after the other. -/
inductive Possible : Schedule → Prop
  | start (options : SupervisorOptions) (host : Host) (now : Nat) :
      Possible (.start options host now)
  | meanwhile {w w' : Schedule} (before : Possible w) (leads : w.ComesTo w') : Possible w'
  | dispatched {w : Schedule} (before : Possible w) (expected : Option Nat)
      (command : ControlCommand) : Possible (dispatch expected command w).2

/-- Commands about the guest's clock are answered. -/
theorem outcome_of_clock {limit : Milliseconds} (patient : limit.count ≠ 0) {endpoint : String}
    {generation : Nat} (exchanged : exchange = send endpoint limit command
      (.accepted (w.response generation command).peer))
    (clock : command = .pause ∨ command = .resume) : exchange.outcome = .ok [] := by
  rw [exchanged]
  unfold response
  rcases clock with rfl | rfl
  · exact StandIn.send_pause _ _ _ endpoint patient
  · exact StandIn.send_resume _ _ _ endpoint patient

theorem isSome_of_clock {limit : Milliseconds} (patient : limit.count ≠ 0) {endpoint : String}
    {generation : Nat} (exchanged : exchange = send endpoint limit command
      (.accepted (w.response generation command).peer))
    (clock : command = .pause ∨ command = .resume) : exchange.outcome.toOption.isSome = true := by
  rw [outcome_of_clock patient exchanged clock]
  rfl

/-- The status is whether the guest stands still. -/
theorem outcome_of_status {limit : Milliseconds} (patient : limit.count ≠ 0) {endpoint : String}
    {generation : Nat} (exchanged : exchange = send endpoint limit .status
      (.accepted (w.response generation .status).peer)) :
    exchange.outcome = .ok (StandIn.statusText (w.system.isPaused generation)).toList := by
  rw [exchanged]
  unfold response
  exact StandIn.send_status _ _ _ endpoint patient

/-- **What a command comes to is shown as it is.** -/
theorem Conversed.showsClock (conversed : Conversed w expected command exchange pre)
    (sound : w.system.Sound) (honest : w.system.ShowsClock) : pre.system.ShowsClock := by
  cases conversed with
  | refused e outcome written system =>
    exact (sound.steady_status.trans system.steady).showsClock honest
  | carried h line published accepts named notQuit spoken listens patient exchanged written
      system =>
    exact system.steady.showsClock (sound.showsClock_carriedOut honest published accepts
      (System.isAlive_of_listens listens) (isSome_of_clock patient exchanged))

/-- What happens by itself is shown as it is. -/
theorem ComesTo.showsClock {w' : Schedule} (leads : w.ComesTo w')
    (reachable : w.system.Reachable) (honest : w.system.ShowsClock) :
    w'.system.Reachable ∧ w'.system.ShowsClock := by
  obtain ⟨moves, others, same⟩ := leads
  rw [same]
  exact ⟨reachable.run moves, reachable.sound.showsClock_run honest moves others⟩

/-- **What is possible can be reached, and the guest is shown as it is.** -/
theorem Possible.showsClock (possible : w.Possible) :
    w.system.Reachable ∧ w.system.ShowsClock := by
  induction possible with
  | start options host now =>
    exact ⟨System.reachable_start options host now, System.showsClock_start options host now⟩
  | meanwhile before leads ih => exact leads.showsClock ih.1 ih.2
  | dispatched before expected command ih =>
    obtain ⟨pre, settled, -, reachable, conversed⟩ := dispatch_conversed ih.1 expected command
    rw [settled]
    exact (comesTo_runUntil _ _ _ pre).showsClock reachable
      (conversed.showsClock ih.1.sound ih.2)

end Schedule

/-! ## An instance that serves -/

namespace System

variable {s s' s'' : System} {h : Handle} {generation : Nat} {command : ControlCommand}

/-- **An instance accepts commands and listens.** -/
def Listens (s : System) (generation : Nat) : Prop :=
  ∃ h, s.core.published = some h ∧ h.generation = generation ∧ h.phase.acceptsCommands ∧
    s.listenerAt h.endpoint = .ok generation

/-- An instance that listens is shown as it is published. -/
theorem Listens.status (listens : s.Listens generation) :
    ∃ h, s.core.published = some h ∧ h.generation = generation ∧ h.phase.acceptsCommands ∧
      s.status = (some h, s) := by
  obtain ⟨h, published, rfl, accepts, reached⟩ := listens
  exact ⟨h, published, rfl, accepts,
    status_of_isAlive published accepts (isAlive_of_listens reached)⟩

/-- To look at an instance that listens changes nothing. -/
theorem Listens.onlyTalks (listens : s.Listens generation) (talks : s.status.2.OnlyTalks s') :
    s.OnlyTalks s' := by
  obtain ⟨h, -, -, -, looked⟩ := listens.status
  rwa [looked] at talks

theorem Listens.generation_eq (listens : s.Listens generation)
    (published : s.core.published = some h) : h.generation = generation := by
  obtain ⟨h', published', number, -, -⟩ := listens
  obtain rfl : h = h' := Option.some.inj (published.symm.trans published')
  exact number

/-- **What a command leaves of a system**: nobody has more to do, but that something new may have
been published, and the instance still listens. -/
structure Leaves (s s' : System) (generation : Nat) : Prop where
  children : ∃ change : Child → Child,
    (∀ c, (change c).signalled = c.signalled ∧ (change c).life = c.life ∧
      (change c).watcher = c.watcher ∧ (change c).ordered = c.ordered) ∧
    s'.children = s.children.map change
  now : s'.now = s.now
  work : s'.work = s.work
  restarts : s'.restarts = s.restarts
  options : s'.options = s.options
  listens : s'.Listens generation

theorem Listens.leaves (listens : s.Listens generation) : s.Leaves s generation where
  children := ⟨id, fun _ => ⟨rfl, rfl, rfl, rfl⟩, (List.map_id _).symm⟩
  now := rfl
  work := rfl
  restarts := rfl
  options := rfl
  listens := listens

theorem Leaves.talks (leaves : s.Leaves s' generation) (talks : s'.OnlyTalks s'') :
    s.Leaves s'' generation := by
  obtain ⟨_, _, _, rfl⟩ := talks
  exact ⟨leaves.children, leaves.now, leaves.work, leaves.restarts, leaves.options, leaves.listens⟩

/-- **A command that is carried out leaves its instance listening.** -/
theorem Sound.leaves_carriedOut (sound : s.Sound) (honest : s.ShowsClock)
    (published : s.core.published = some h) (accepts : h.phase.acceptsCommands)
    (reached : s.listenerAt h.endpoint = .ok h.generation) {files : FileSystem}
    (retained : s.host.files.Retains files) {answered : Bool}
    (told : command = .pause ∨ command = .resume → answered = true) :
    s.Leaves (s.carriedOut h.generation command files answered) h.generation where
  children := by
    refine ⟨fun c => if c.generation = h.generation then c.obey command else c, fun c => ?_, rfl⟩
    dsimp only
    split <;> exact ⟨rfl, rfl, rfl, rfl⟩
  now := rfl
  work := rfl
  restarts := rfl
  options := rfl
  listens := ⟨_, sound.published_carriedOut honest published accepts told, rfl,
    acceptsCommands_clockPhase _, listenerAt_carriedOut reached retained⟩

end System

namespace Schedule

variable {w pre : Schedule} {h : Handle} {generation : Nat} {expected : Option Nat}
  {command : ControlCommand} {exchange : Exchange}

/-- What a command leaves, carried out or not. -/
theorem Conversed.leaves (conversed : Conversed w expected command exchange pre)
    (sound : w.system.Sound) (honest : w.system.ShowsClock)
    (listens : w.system.Listens generation) : w.system.Leaves pre.system generation := by
  cases conversed with
  | refused e outcome written system => exact listens.leaves.talks (listens.onlyTalks system)
  | carried h line published accepts named notQuit spoken reached patient exchanged written
      system =>
    obtain rfl := listens.generation_eq published
    obtain ⟨-, -, retained⟩ := response_of_line (w := w) spoken notQuit h.generation
    exact (sound.leaves_carriedOut honest published accepts reached retained
      (isSome_of_clock patient exchanged)).talks system

/-- **An instance serves.**  It accepts commands and listens, no launch or stop is in progress,
nothing is due, and commands have time to be answered. -/
structure Serves (w : Schedule) (generation : Nat) : Prop where
  listens : w.system.Listens generation
  idle : w.system.work = none
  rest : w.step? = none
  patient : w.system.options.commandTimeout.count ≠ 0

/-- **After a command the instance still serves**, and nothing has happened but what the command
came to, and perhaps a look of the restart task. -/
theorem Serves.settle (serves : w.Serves generation)
    (leaves : w.system.Leaves pre.system generation) (agenda : pre.agenda = w.agenda) :
    pre.settle.Serves generation ∧
      ∃ restarts, pre.settle = { pre with system := { pre.system with restarts } } := by
  have still := still_of_rest serves.rest serves.idle
  obtain ⟨change, keeps, children⟩ := leaves.children
  have still' : pre.Still := still.of_map change keeps children agenda leaves.now leaves.work
  have waits : ∀ task, pre.system.restarts = some task → task.Waits pre.system.now := by
    intro task current
    rw [leaves.now]
    exact still.waits serves.rest (leaves.restarts ▸ current)
  have live : ∀ h, pre.system.core.published = some h → h.phase ≠ .crashed := by
    intro h published crashed
    obtain ⟨h', published', -, accepts, -⟩ := leaves.listens
    obtain rfl : h = h' := Option.some.inj (published.symm.trans published')
    rw [crashed] at accepts
    cases accepts
  obtain ⟨⟨restarts, settled⟩, rest⟩ := still'.settle waits live
  refine ⟨⟨?_, ?_, rest, ?_⟩, restarts, settled⟩
  · rw [settled]
    exact leaves.listens
  · rw [settled]
    exact still'.idle
  · rw [settled]
    exact leaves.options ▸ serves.patient

/-! ## One command to an instance that serves -/

/-- **What no instance carries out**: the command to quit, a command to another instance, and a
command with a bad argument. -/
def Refuses (generation : Nat) (expected : Option Nat) (command : ControlCommand) : Prop :=
  command = .quit ∨ (∃ g, expected = some g ∧ g ≠ generation) ∨ ∃ e, command.line? = .error e

/-- What is not refused is let through, and has a line. -/
theorem addressee_of_not_refuses (options : SupervisorOptions) (accepts : h.phase.acceptsCommands)
    (proper : ¬ Refuses h.generation expected command) :
    addressee options (some h) expected command = .ok h ∧ ∃ line, command.line? = .ok line := by
  obtain ⟨notQuit, named, spoken⟩ := not_or.mp proper |>.imp_right not_or.mp
  constructor
  · have same : ∀ g, expected = some g → g = h.generation := fun g asked =>
      not_not.mp fun other => named ⟨g, asked, other⟩
    cases expected with
    | none => simp [addressee, notQuit, accepts]
    | some g => simp [addressee, notQuit, accepts, same g rfl, Option.filter]
  · cases said : command.line? with
    | ok line => exact ⟨line, rfl⟩
    | error e => exact absurd ⟨e, said⟩ spoken

/-- **What is refused is not written.** -/
theorem Serves.dispatch_of_refuses (serves : w.Serves generation)
    (refuses : Refuses generation expected command) :
    ∃ e, (dispatch expected command w).1 = ⟨.error e, []⟩ := by
  obtain ⟨h, -, rfl, accepts, looked⟩ := serves.listens.status
  suffices ∀ connection, ∃ e,
      attempt w.system.options w.system.status.1 expected command connection = ⟨.error e, []⟩ by
    obtain ⟨e, refused⟩ := this _
    exact ⟨e, by rw [dispatch_of_refused refused]⟩
  intro connection
  rw [looked]
  cases accepted : addressee w.system.options (some h) expected command with
  | error e => exact ⟨e, by simp only [attempt, accepted]⟩
  | ok h' =>
    obtain ⟨shown, named, -⟩ := System.addressee_eq_ok accepted
    cases shown
    rcases refuses with rfl | ⟨g, asked, other⟩ | ⟨e, unspoken⟩
    · simp [addressee] at accepted
    · exact absurd (named g asked) other
    · exact ⟨e, by simp only [attempt, accepted, send, unspoken]⟩

/-- **What is not refused is written** to the instance. -/
theorem Serves.dispatch_of_not_refuses (serves : w.Serves generation)
    (proper : ¬ Refuses generation expected command) : ∃ endpoint line,
      command.line? = .ok line ∧
      (dispatch expected command w).1 = send endpoint w.system.options.commandTimeout command
        (.accepted (w.response generation command).peer) ∧
      (dispatch expected command w).1.written = lineBytes line := by
  obtain ⟨h, published, rfl, accepts, reached⟩ := serves.listens
  have looked := System.status_of_isAlive published accepts (System.isAlive_of_listens reached)
  obtain ⟨accepted, line, spoken⟩ := addressee_of_not_refuses w.system.options accepts proper
  have exchanged : attempt w.system.options (some h) expected command
      (.accepted (w.response h.generation command).peer)
      = send h.endpoint w.system.options.commandTimeout command
        (.accepted (w.response h.generation command).peer) := by
    simp only [attempt, accepted]
  have written := StandIn.written_send_peer h.endpoint spoken serves.patient
    (w.response h.generation command)
  rw [dispatch_of_written looked reached exchanged (by rw [written]; simp [lineBytes])]
  exact ⟨h.endpoint, line, spoken, rfl, written⟩

/-- **What a command to an instance comes to**, on both sides. -/
structure Converses (before : Schedule) (generation : Nat) (expected : Option Nat)
    (command : ControlCommand) (exchange : Exchange) (after : Schedule) : Prop where
  /-- The instance is shown as paused when the guest stands still, and as running otherwise. -/
  shown : ∃ h, after.system.core.published = some h ∧ after.system.status.1 = some h ∧
    h.generation = generation ∧ h.phase = clockPhase (after.system.isPaused generation)
  /-- What is refused ends with an error and is not written, and nothing comes of it but what is
  said and perhaps a look of the restart task. -/
  refused : Refuses generation expected command →
    (∃ e, exchange.outcome = .error e) ∧ exchange.written = [] ∧
      ∃ restarts, System.OnlyTalks { before.system with restarts } after.system
  /-- What is not refused is written, and the guest does what the stand-in makes of it. -/
  carried : ¬ Refuses generation expected command →
    (∃ line, command.line? = .ok line ∧ exchange.written = lineBytes line) ∧
      after.system.isPaused generation = (before.response generation command).paused
  /-- The status is whether the guest stands still. -/
  status : command = .status → ¬ Refuses generation expected command →
    exchange.outcome = .ok (StandIn.statusText (after.system.isPaused generation)).toList
  /-- An error leaves both sides as they were. -/
  unchanged : ∀ e, exchange.outcome = .error e →
    after.system.core = before.system.core ∧ after.system.children = before.system.children

/-- **Commands sent to an instance one after the other.**  In between anything else may happen that
leaves it serving. -/
inductive Conversation (generation : Nat) (w : Schedule) : Schedule → Prop
  | begins : Conversation generation w w
  | asks {w' : Schedule} (before : Conversation generation w w') (expected : Option Nat)
      (command : ControlCommand) : Conversation generation w (dispatch expected command w').2
  | meanwhile {w' w'' : Schedule} (before : Conversation generation w w') (leads : w'.ComesTo w'')
      (serves : w''.Serves generation) : Conversation generation w w''

/-- **An instance serves after every command.** -/
theorem Serves.dispatch (serves : w.Serves generation) (possible : w.Possible)
    (expected : Option Nat) (command : ControlCommand) :
    (dispatch expected command w).2.Serves generation := by
  obtain ⟨reachable, honest⟩ := possible.showsClock
  obtain ⟨pre, settled, agenda, -, conversed⟩ := dispatch_conversed reachable expected command
  rw [settled]
  exact (serves.settle (conversed.leaves reachable.sound honest serves.listens) agenda).1

/-- The guest does what the stand-in makes of a command that is written. -/
theorem Conversed.isPaused (conversed : Conversed w expected command exchange pre)
    (listens : w.system.Listens generation) (written : exchange.written ≠ []) :
    pre.system.isPaused generation = (w.response generation command).paused := by
  cases conversed with
  | refused e outcome unwritten system => exact absurd unwritten written
  | carried h line published accepts named notQuit spoken reached patient exchanged written
      system =>
    obtain rfl := listens.generation_eq published
    rw [system.isPaused, System.isPaused_carriedOut (System.isAlive_of_listens reached),
      (response_of_line spoken notQuit h.generation).1]

/-- A command that is not written is only talked about. -/
theorem Conversed.onlyTalks (conversed : Conversed w expected command exchange pre)
    (listens : w.system.Listens generation) (unwritten : exchange.written = []) :
    w.system.OnlyTalks pre.system := by
  cases conversed with
  | refused e outcome _ system => exact listens.onlyTalks system
  | carried h line published accepts named notQuit spoken reached patient exchanged written
      system => exact absurd unwritten written

/-- A command that ends with an error leaves both sides as they were. -/
theorem Conversed.unchanged (conversed : Conversed w expected command exchange pre)
    (listens : w.system.Listens generation) {e : ChannelError}
    (failed : exchange.outcome = .error e) :
    pre.system.core = w.system.core ∧ pre.system.children = w.system.children := by
  cases conversed with
  | refused e outcome written system =>
    have talks := listens.onlyTalks system
    exact ⟨talks.core, talks.children⟩
  | carried h line published accepts named notQuit spoken reached patient exchanged written
      system =>
    -- What the clock is told is answered, so nothing was said about it.
    have silent : ∀ c : Child, c.obey command = c := fun c => by
      have noClock : ¬ (command = .pause ∨ command = .resume) := fun clock => by
        rw [outcome_of_clock patient exchanged clock] at failed
        cases failed
      cases command <;> first | rfl | simp at noClock
    have unanswered : exchange.outcome.toOption.isSome = false := by rw [failed]; rfl
    refine ⟨system.core.trans ?_, system.children.trans ?_⟩
    · simp only [unanswered, System.carriedOut, Bool.false_eq_true, if_false]
    · simp [System.carriedOut, System.updateChild, silent]

/-- **One command to an instance that serves.** -/
theorem Serves.converses (serves : w.Serves generation) (possible : w.Possible)
    (expected : Option Nat) (command : ControlCommand) :
    Converses w generation expected command (Schedule.dispatch expected command w).1
      (Schedule.dispatch expected command w).2 := by
  obtain ⟨reachable, honest⟩ := possible.showsClock
  obtain ⟨pre, settled, agenda, -, conversed⟩ := dispatch_conversed reachable expected command
  obtain ⟨served, restarts, same⟩ :=
    serves.settle (conversed.leaves reachable.sound honest serves.listens) agenda
  obtain ⟨h, published, number, accepts, looked⟩ := served.listens.status
  have flag : ¬ Refuses generation expected command →
      pre.settle.system.isPaused generation = (w.response generation command).paused := by
    intro proper
    obtain ⟨endpoint, line, -, -, written⟩ := serves.dispatch_of_not_refuses proper
    rw [same]
    exact conversed.isPaused serves.listens (by rw [written]; simp [lineBytes])
  have honest' := (possible.dispatched expected command).showsClock.2
  rw [settled] at honest' ⊢
  exact {
    shown := ⟨h, published, by rw [looked], number, number ▸ honest'.phase_eq published accepts⟩
    refused := fun refuses => by
      obtain ⟨e, refused⟩ := serves.dispatch_of_refuses refuses
      have talks := conversed.onlyTalks serves.listens (by rw [refused])
      rw [refused, same]
      exact ⟨⟨e, rfl⟩, rfl, restarts, talks.look restarts⟩
    carried := fun proper => by
      obtain ⟨endpoint, line, spoken, -, written⟩ := serves.dispatch_of_not_refuses proper
      exact ⟨⟨line, spoken, written⟩, flag proper⟩
    status := by
      rintro rfl proper
      obtain ⟨endpoint, line, spoken, exchanged, -⟩ := serves.dispatch_of_not_refuses proper
      rw [outcome_of_status serves.patient exchanged, flag proper,
        (response_of_line spoken (by simp) generation).1]
      rfl
    unchanged := fun e failed => by
      rw [same]
      exact conversed.unchanged serves.listens failed }

/-! ## Conversations -/

/-- **Whatever is asked, it was possible, and the instance serves.** -/
theorem Conversation.serves {w' : Schedule} (talk : Conversation generation w w')
    (possible : w.Possible) (serves : w.Serves generation) :
    w'.Possible ∧ w'.Serves generation := by
  induction talk with
  | begins => exact ⟨possible, serves⟩
  | asks before expected command ih =>
    exact ⟨ih.1.dispatched expected command, ih.2.dispatch ih.1 expected command⟩
  | meanwhile before leads serves ih => exact ⟨ih.1.meanwhile leads, serves⟩

/-- **The supervisor and the stand-in agree in every conversation.**  Whatever an instance that
serves was asked before, the next command leaves it shown as paused exactly when its guest stands
still, to ask for the status is answered with that, and an error leaves both sides as they were. -/
theorem conversation_agrees {before : Schedule} (possible : w.Possible)
    (serves : w.Serves generation) (talk : Conversation generation w before)
    (expected : Option Nat) (command : ControlCommand) :
    Converses before generation expected command (Schedule.dispatch expected command before).1
      (Schedule.dispatch expected command before).2 :=
  have ⟨possible, serves⟩ := talk.serves possible serves
  serves.converses possible expected command

/-- The first instance was launched. -/
def firstLaunched : Schedule :=
  ((start System.bareOptions System.bareHost 0).launch System.bareCommand {}).2

/-- It was paused; then another instance was asked to go on, and it was asked to quit. -/
def firstPaused : Schedule :=
  (dispatch none .quit (dispatch (some 7) .resume (dispatch none .pause firstLaunched).2).2).2

theorem possible_firstLaunched : firstLaunched.Possible :=
  (Possible.start _ _ _).meanwhile (comesTo_launch _ _ _)

theorem serves_firstLaunched : firstLaunched.Serves 1 := by
  obtain ⟨shown, reached, idle, rest, patient⟩ :
      (firstLaunched.system.core.published.any fun h =>
          decide (h.generation = 1 ∧ h.phase = .running ∧ h.endpoint = "monitor.sock")) = true ∧
        firstLaunched.system.listenerAt "monitor.sock" = .ok 1 ∧
        firstLaunched.system.work = none ∧ firstLaunched.step?.isNone = true ∧
        firstLaunched.system.options.commandTimeout.count ≠ 0 := by
    decide +kernel
  obtain ⟨h, published, facts⟩ := (Option.any_eq_true _ _).mp shown
  obtain ⟨number, running, endpoint⟩ := of_decide_eq_true facts
  exact {
    listens := ⟨h, published, number, by rw [running]; rfl, by rw [endpoint]; exact reached⟩
    idle := idle
    rest := Option.isNone_iff_eq_none.mp rest
    patient := patient }

/-- The instance that was launched, paused and asked what it refuses is shown as paused, and tells
so when it is asked. -/
theorem conversation_agrees_paused : firstLaunched.Possible ∧ firstLaunched.Serves 1 ∧
    Conversation 1 firstLaunched firstPaused ∧
    (Schedule.dispatch (some 1) .status firstPaused).1.outcome
      = .ok "VM status: paused".toList := by
  have talk : Conversation 1 firstLaunched firstPaused :=
    .asks (.asks (.asks .begins none .pause) (some 7) .resume) none .quit
  have agrees := conversation_agrees possible_firstLaunched serves_firstLaunched talk (some 1)
    .status
  refine ⟨possible_firstLaunched, serves_firstLaunched, talk, ?_⟩
  have proper : ¬ Refuses 1 (some 1) .status := by
    rintro (quit | ⟨g, asked, other⟩ | ⟨e, unspoken⟩)
    · cases quit
    · cases asked
      exact other rfl
    · cases unspoken
  have still : (Schedule.dispatch (some 1) .status firstPaused).2.system.isPaused 1 = true := by
    decide +kernel
  rw [agrees.status rfl proper, still]
  rfl

end Schedule

end GuestSupervisor.Supervisor
