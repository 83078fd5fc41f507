import GuestSupervisor.Proofs.StandIn.Answer
import GuestSupervisor.Proofs.Supervisor.Clock
import GuestSupervisor.Proofs.Supervisor.Schedule

/-!
# What a command comes to

A command that is let through, has a line, finds its instance listening and has any time to be
answered is carried out: the process does what the command says, its files may be others, and the
machine is told of it when it is answered.  Any other command writes nothing, and the system is as
it is after a look at the instance.  Either way something is said, and then everything happens that
is due.

## Main Definitions

* `Child.obey` — a process that carries out a command.
* `clockPhase` — the phase that shows whether the guest stands still.
* `System.OnlyTalks` — nothing is another but what is said.
* `System.carriedOut` — the system in which a command was carried out.
* `Schedule.Conversed` — what a command comes to before anything else happens.

## Main Statements

* `System.execute_of_accepted` — a command that is let through and connected is carried out.
* `System.Sound.published_carriedOut`, `System.Sound.showsClock_carriedOut` — what is shown then.
* `System.listenerAt_carriedOut` — who listened still listens.
* `Schedule.dispatch_conversed` — what every command comes to.
-/

namespace GuestSupervisor.Supervisor

open Instance Monitor Text

/-- A process that carries out a command. -/
def Child.obey (command : ControlCommand) (c : Child) : Child :=
  { c with paused := System.pausing command c.paused }

/-- The phase that shows whether the guest of a live instance stands still. -/
def clockPhase (still : Bool) : Phase := if still then .paused else .running

theorem acceptsCommands_clockPhase (still : Bool) : (clockPhase still).acceptsCommands := by
  cases still <;> rfl

namespace System

variable {s s' s'' : System} {h : Handle} {d : Dispatch} {rest : List Dispatch} {generation : Nat}
  {expected : Option Nat} {command : ControlCommand}

/-! ## Talk -/

/-- **Nothing is another but what is said**: the commands on their way, how many there were, and
what callers were told. -/
def OnlyTalks (s s' : System) : Prop :=
  ∃ dispatches dispatched answers, s' = { s with dispatches, dispatched, answers }

theorem OnlyTalks.refl (s : System) : s.OnlyTalks s := ⟨_, _, _, rfl⟩

theorem OnlyTalks.trans (first : s.OnlyTalks s') (second : s'.OnlyTalks s'') : s.OnlyTalks s'' := by
  obtain ⟨_, _, _, rfl⟩ := first
  obtain ⟨_, _, _, rfl⟩ := second
  exact ⟨_, _, _, rfl⟩

theorem OnlyTalks.steady (talks : s.OnlyTalks s') : s.Steady s' := by
  obtain ⟨_, _, _, rfl⟩ := talks
  exact .of_eq rfl rfl

/-- Whatever the restart task makes of it. -/
theorem OnlyTalks.look (talks : s.OnlyTalks s') (restarts : Option RestartTask) :
    OnlyTalks { s with restarts } { s' with restarts } := by
  obtain ⟨_, _, _, rfl⟩ := talks
  exact ⟨_, _, _, rfl⟩

theorem OnlyTalks.core (talks : s.OnlyTalks s') : s'.core = s.core := by
  obtain ⟨_, _, _, rfl⟩ := talks
  rfl

theorem OnlyTalks.children (talks : s.OnlyTalks s') : s'.children = s.children := by
  obtain ⟨_, _, _, rfl⟩ := talks
  rfl

theorem OnlyTalks.isPaused (talks : s.OnlyTalks s') (generation : Nat) :
    s'.isPaused generation = s.isPaused generation := by
  obtain ⟨_, _, _, rfl⟩ := talks
  rfl

theorem onlyTalks_fail (s : System) (id : Nat) (error : ChannelError) :
    s.OnlyTalks (s.fail id error) := by
  unfold fail
  split
  · exact .refl s
  · exact .refl s
  · exact ⟨_, _, _, rfl⟩

/-- The check of a command looks at the instance. -/
theorem onlyTalks_beginDispatch (s : System) (expected : Option Nat) (command : ControlCommand) :
    s.status.2.OnlyTalks (s.beginDispatch expected command) := by
  unfold beginDispatch
  simp only [status_counted]
  split <;> exact ⟨_, _, _, rfl⟩

/-! ## One command on its way -/

/-- A command that was let through is the first on its way. -/
theorem beginDispatch_of_accepted (looked : s.status = (some h, s))
    (accepted : addressee s.options (some h) expected command = .ok h) {line : String}
    (spoken : command.line? = .ok line) :
    s.beginDispatch expected command
      = { s with
          dispatches := ⟨s.dispatched, expected, command, h.generation, h.endpoint, .checked⟩
            :: s.dispatches
          dispatched := s.dispatched + 1 } := by
  unfold beginDispatch
  simp only [status_counted, looked, accepted, spoken]

theorem dispatch?_of_head (head : s.dispatches = d :: rest) : s.dispatch? d.id = some d := by
  simp [dispatch?, head]

theorem connect_of_head (head : s.dispatches = d :: rest) (checked : d.stage = .checked)
    (listens : s.listenerAt d.endpoint = .ok generation) :
    ∃ rest', s.connect d.id
      = { s with dispatches := { d with stage := .connected generation } :: rest' } := by
  unfold connect
  simp only [dispatch?_of_head head, checked, listens, advance, head, List.map_cons, if_true]
  exact ⟨_, rfl⟩

theorem execute_of_head (head : s.dispatches = d :: rest)
    (connected : d.stage = .connected generation)
    (alive : (s.child? generation).any (·.life.isAlive)) :
    ∃ rest', s.execute d.id
      = { s.updateChild generation fun c => { c with paused := pausing d.command c.paused } with
          dispatches := { d with stage := .executed generation } :: rest' } := by
  unfold execute
  simp only [dispatch?_of_head head, connected, alive, if_true, advance, updateChild, head,
    List.map_cons]
  exact ⟨_, rfl⟩

/-- What the machine is told when a command was answered. -/
def acknowledged (core : Core) (generation : Nat) (command : ControlCommand) : Core :=
  match acknowledgement? command with
  | some event => core.transition generation event none
  | none => core

theorem acknowledge_of_head (head : s.dispatches = d :: rest)
    (executed : d.stage = .executed generation) (text : String) :
    { s with core := acknowledged s.core d.generation d.command }.OnlyTalks
      ((s.reply d.id text).acknowledge d.id) := by
  obtain ⟨rest', replied⟩ : ∃ rest', s.reply d.id text
      = { s with dispatches := { d with stage := .replied text } :: rest' } := by
    unfold reply
    simp only [dispatch?_of_head head, Option.map_some, executed, advance, head, List.map_cons,
      if_true]
    exact ⟨_, rfl⟩
  rw [replied]
  unfold acknowledge
  have found := dispatch?_of_head
    (s := { s with dispatches := { d with stage := .replied text } :: rest' }) rfl
  simp only at found
  simp only [found, acknowledged]
  cases acknowledgement? d.command <;> exact ⟨_, _, _, rfl⟩

/-! ## Who listens -/

/-- Who listens is alive. -/
theorem isAlive_of_listens {endpoint : String} (listens : s.listenerAt endpoint = .ok generation) :
    (s.child? generation).any (·.life.isAlive) := by
  obtain ⟨-, -, alive⟩ := listenerAt_eq_ok_iff.mp listens
  obtain ⟨c, found, runs⟩ := (Option.any_eq_true _ _).mp alive
  rw [Bool.and_eq_true] at runs
  exact (Option.any_eq_true _ _).mpr ⟨c, found, runs.1⟩

theorem not_isTerminal_of_acceptsCommands {phase : Phase} (accepts : phase.acceptsCommands) :
    phase.isTerminal = false := by
  cases phase <;> simp_all [Phase.acceptsCommands, Phase.isTerminal]

/-- An instance whose process is alive is shown as published. -/
theorem status_of_isAlive (published : s.core.published = some h)
    (accepts : h.phase.acceptsCommands) (alive : (s.child? h.generation).any (·.life.isAlive)) :
    s.status = (some h, s) := by
  obtain ⟨c, found, runs⟩ := (Option.any_eq_true _ _).mp alive
  have here : s.isGone h.generation = false := by
    cases life : c.life <;> simp [isGone, found, life, Life.isAlive, Life.isReaped] at runs ⊢
  simp [status, published, not_isTerminal_of_acceptsCommands accepts, here]

/-- **An instance that is shown as accepting commands is published as it is shown.** -/
theorem Sound.status_of_accepts (sound : s.Sound) (shown : s.status.1 = some h)
    (accepts : h.phase.acceptsCommands) :
    s.core.published = some h ∧ s.status = (some h, s) := by
  have live := not_isTerminal_of_acceptsCommands accepts
  rcases s.status_cases with
    ⟨-, same⟩ | ⟨h', published, ⟨-, same⟩ | ⟨-, -, ⟨-, recorded⟩ | ⟨-, same⟩⟩⟩
  · rw [same] at shown
    cases shown
  · rw [same] at shown ⊢
    cases shown
    exact ⟨published, rfl⟩
  · -- What is recorded here is an end.
    rw [recorded, sound.coherent.published h' published] at shown
    have ended : some _ = some h :=
      (sound.coherent.published_transition published (.exited false) none).symm.trans shown
    cases ended
    simp [isTerminal_step_exited] at live
  · rw [same] at shown
    cases shown
    revert accepts
    simp only
    split <;> simp [Phase.acceptsCommands]

/-! ## A command that was carried out -/

/-- Carrying out a command changes nothing of a process but its guest's clock. -/
theorem any_child?_obey {holds : Child → Bool} {command : ControlCommand}
    (keeps : ∀ c, holds (Child.obey command c) = holds c) (obeying peer : Nat) :
    ((s.updateChild obeying (Child.obey command)).child? peer).any holds
      = (s.child? peer).any holds := by
  rw [child?_updateChild (Child.obey command) fun _ _ _ => rfl]
  cases s.child? peer with
  | none => rfl
  | some c => by_cases same : c.generation = obeying <;> simp [same, keeps]

/-- The guest of a process that carries out a command does what it says. -/
theorem isPaused_obey {peer : Nat} (alive : (s.child? peer).any (·.life.isAlive))
    (command : ControlCommand) :
    (s.updateChild peer (Child.obey command)).isPaused peer
      = pausing command (s.isPaused peer) := by
  obtain ⟨c, found, -⟩ := (Option.any_eq_true _ _).mp alive
  have number : c.generation = peer := by simpa using List.find?_some found
  simp [isPaused, child?_updateChild (Child.obey command) fun _ _ _ => rfl, found, number,
    Child.obey]

/-- **The system in which a command was carried out**, and answered if it was. -/
def carriedOut (s : System) (generation : Nat) (command : ControlCommand) (files : FileSystem)
    (answered : Bool) : System :=
  { s.updateChild generation (Child.obey command) with
    host := { s.host with files }
    core := if answered then acknowledged s.core generation command else s.core }

variable {files : FileSystem} {answered : Bool}

/-- The machine is told of nothing but the guest's clock. -/
theorem core_carriedOut (silent : acknowledgement? command = none) :
    (s.carriedOut generation command files answered).core = s.core := by
  simp [carriedOut, acknowledged, silent]

/-- **The guest stands still as the command wants it.** -/
theorem isPaused_carriedOut (alive : (s.child? generation).any (·.life.isAlive)) :
    (s.carriedOut generation command files answered).isPaused generation
      = pausing command (s.isPaused generation) :=
  isPaused_obey alive command

/-- **Who listened still listens.** -/
theorem listenerAt_carriedOut {endpoint : String} {peer : Nat}
    (listens : s.listenerAt endpoint = .ok peer) (retained : s.host.files.Retains files) :
    (s.carriedOut generation command files answered).listenerAt endpoint = .ok peer := by
  obtain ⟨fits, socket, alive⟩ := listenerAt_eq_ok_iff.mp listens
  refine listenerAt_eq_ok_iff.mpr ⟨fits, retained.node? socket (by simp), ?_⟩
  exact (any_child?_obey (fun _ => rfl) generation peer).trans alive

/-- What is shown of a live instance whose guest is shown truly. -/
theorem ShowsClock.phase_eq (honest : s.ShowsClock) (published : s.core.published = some h)
    (accepts : h.phase.acceptsCommands) : h.phase = clockPhase (s.isPaused h.generation) := by
  have claims := honest h published
  cases phase : h.phase with
  | running | paused =>
    rw [claims _ (by rw [phase]; rfl)]
    rfl
  | starting | stopping | stopped | crashed =>
    rw [phase] at accepts
    cases accepts

/-- **What is shown after a command** that was answered if it is about the guest's clock. -/
theorem Sound.published_carriedOut (sound : s.Sound) (honest : s.ShowsClock)
    (published : s.core.published = some h) (accepts : h.phase.acceptsCommands)
    (told : command = .pause ∨ command = .resume → answered = true) :
    (s.carriedOut h.generation command files answered).core.published
      = some { h with phase := clockPhase (pausing command (s.isPaused h.generation)) } := by
  have phase := honest.phase_eq published accepts
  have latest := sound.coherent.published h published
  cases command with
  | pause | resume =>
    obtain rfl := told (by simp)
    simp only [carriedOut, if_true, acknowledged, acknowledgement?, latest,
      sound.coherent.published_transition published, Option.or_none, phase]
    cases s.isPaused s.core.launched <;> rfl
  | quit | reset | status | screendump | usbAttach | usbDetach =>
    rw [core_carriedOut rfl, published]
    simp only [pausing, ← phase]

/-- **What is shown after a command is so.** -/
theorem Sound.showsClock_carriedOut (sound : s.Sound) (honest : s.ShowsClock)
    (published : s.core.published = some h) (accepts : h.phase.acceptsCommands)
    (alive : (s.child? h.generation).any (·.life.isAlive))
    (told : command = .pause ∨ command = .resume → answered = true) :
    (s.carriedOut h.generation command files answered).ShowsClock := by
  intro h' shown still claimed
  rw [sound.published_carriedOut honest published accepts told] at shown
  cases shown
  rw [isPaused_carriedOut alive]
  simp only at claimed
  cases paused : pausing command (s.isPaused h.generation) <;> rw [paused] at claimed <;>
    cases claimed <;> rfl

/-- **A command that is let through and connected is carried out.** -/
theorem execute_of_accepted (looked : s.status = (some h, s))
    (accepted : addressee s.options (some h) expected command = .ok h) {line : String}
    (spoken : command.line? = .ok line) (listens : s.listenerAt h.endpoint = .ok h.generation) :
    ∃ rest, ((s.apply (.dispatch expected command)).apply (.connect s.dispatched)).apply
        (.execute s.dispatched)
      = { s.updateChild h.generation (Child.obey command) with
          dispatches := ⟨s.dispatched, expected, command, h.generation, h.endpoint,
            .executed h.generation⟩ :: rest
          dispatched := s.dispatched + 1 } := by
  let first : Dispatch := ⟨s.dispatched, expected, command, h.generation, h.endpoint, .checked⟩
  let sent : System :=
    { s with dispatches := first :: s.dispatches, dispatched := s.dispatched + 1 }
  obtain ⟨rest, connected⟩ := connect_of_head
    (show sent.dispatches = first :: s.dispatches from rfl) rfl
    (show sent.listenerAt first.endpoint = .ok h.generation from listens)
  let second : Dispatch := { first with stage := .connected h.generation }
  let onItsWay : System := { sent with dispatches := second :: rest }
  obtain ⟨rest', executed⟩ := execute_of_head
    (show onItsWay.dispatches = second :: rest from rfl) rfl (isAlive_of_listens listens)
  refine ⟨rest', ?_⟩
  calc ((s.apply (.dispatch expected command)).apply (.connect s.dispatched)).apply
        (.execute s.dispatched)
      = (sent.connect first.id).execute first.id := by
        simp only [System.apply, beginDispatch_of_accepted looked accepted spoken, sent, first]
    _ = onItsWay.execute second.id := by rw [connected]
    _ = _ := executed

end System

namespace Schedule

variable {w pre : Schedule} {h : Handle} {expected : Option Nat} {command : ControlCommand}
  {exchange : Exchange} {e : ChannelError}

/-! ## What a command comes to -/

/-- **What a command comes to** before anything else happens.  Either nothing is written, or the
published instance has carried it out and is told of if it was answered. -/
inductive Conversed (w : Schedule) (expected : Option Nat) (command : ControlCommand)
    (exchange : Exchange) (pre : Schedule) : Prop
  | refused (e : ChannelError) (outcome : exchange.outcome = .error e)
      (written : exchange.written = []) (system : w.system.status.2.OnlyTalks pre.system)
  | carried (h : Handle) (line : String) (published : w.system.core.published = some h)
      (accepts : h.phase.acceptsCommands) (named : ∀ g, expected = some g → g = h.generation)
      (notQuit : command ≠ .quit) (spoken : command.line? = .ok line)
      (listens : w.system.listenerAt h.endpoint = .ok h.generation)
      (patient : w.system.options.commandTimeout.count ≠ 0)
      (exchanged : exchange = send h.endpoint w.system.options.commandTimeout command
        (.accepted (w.response h.generation command).peer))
      (written : exchange.written ≠ [])
      (system : (w.system.carriedOut h.generation command (w.response h.generation command).files
        exchange.outcome.toOption.isSome).OnlyTalks pre.system)

/-- When nothing is written, the command ends with its error. -/
theorem dispatch_of_refused (refused : attempt w.system.options w.system.status.1 expected command
      (w.connection ((w.system.status.1.map Handle.endpoint).getD w.system.options.monitorSocket)
        command).1 = ⟨.error e, []⟩) :
    dispatch expected command w
      = (⟨.error e, []⟩,
          ((w.act (.dispatch expected command)).act (.fail w.system.dispatched e)).settle) := by
  unfold dispatch
  simp only [refused, List.isEmpty_nil, if_true, conclude]
  split <;> rfl

/-- What the stand-in makes of a command that has a line. -/
theorem response_of_line {line : String} (spoken : command.line? = .ok line)
    (notQuit : command ≠ .quit) (generation : Nat) :
    (w.response generation command).paused
        = System.pausing command (w.system.isPaused generation) ∧
      (w.response generation command).quits = false ∧
      w.system.host.files.Retains (w.response generation command).files := by
  unfold response
  rw [spoken]
  exact StandIn.respond_of_line spoken notQuit _ _ _

/-- The schedule in which a command was carried out and has ended. -/
def concluded (w : Schedule) (h : Handle) (expected : Option Nat) (command : ControlCommand)
    (outcome : Except ChannelError (List Char)) : Schedule :=
  ((((w.act (.dispatch expected command)).act (.connect w.system.dispatched)).act
    (.execute w.system.dispatched)).carryOut h.generation
      (w.response h.generation command)).conclude w.system.dispatched outcome

/-- A command that is written is carried out. -/
theorem dispatch_of_written (looked : w.system.status = (some h, w.system))
    (listens : w.system.listenerAt h.endpoint = .ok h.generation)
    (exchanged : attempt w.system.options (some h) expected command
      (.accepted (w.response h.generation command).peer) = exchange)
    (written : exchange.written ≠ []) :
    dispatch expected command w
      = (exchange, (w.concluded h expected command exchange.outcome).settle) := by
  have connection : w.connection h.endpoint command
      = (.accepted (w.response h.generation command).peer, some h.generation) := by
    unfold Schedule.connection
    rw [listens]
  have unread : exchange.written.isEmpty = false := by simpa using written
  unfold dispatch
  simp only [looked, Option.map_some, Option.getD_some, connection, exchanged, unread,
    Bool.false_eq_true, if_false]
  rfl

/-- **What is left of a command that was carried out.** -/
theorem onlyTalks_concluded (looked : w.system.status = (some h, w.system))
    (accepted : addressee w.system.options (some h) expected command = .ok h) {line : String}
    (spoken : command.line? = .ok line) (notQuit : command ≠ .quit)
    (listens : w.system.listenerAt h.endpoint = .ok h.generation)
    (outcome : Except ChannelError (List Char)) :
    (w.system.carriedOut h.generation command (w.response h.generation command).files
        outcome.toOption.isSome).OnlyTalks (w.concluded h expected command outcome).system ∧
      (w.concluded h expected command outcome).agenda = w.agenda := by
  obtain ⟨rest, executed⟩ := System.execute_of_accepted looked accepted spoken listens
  obtain ⟨-, stays, -⟩ := response_of_line (w := w) spoken notQuit h.generation
  have carried : (((w.act (.dispatch expected command)).act (.connect w.system.dispatched)).act
        (.execute w.system.dispatched)).carryOut h.generation (w.response h.generation command)
      = (((w.act (.dispatch expected command)).act (.connect w.system.dispatched)).act
        (.execute w.system.dispatched)).withFiles (w.response h.generation command).files := by
    simp only [carryOut, stays, Bool.false_eq_true, if_false]
  let after : System :=
    { w.system.updateChild h.generation (Child.obey command) with
      dispatches := ⟨w.system.dispatched, expected, command, h.generation, h.endpoint,
        .executed h.generation⟩ :: rest
      dispatched := w.system.dispatched + 1
      host := { w.system.host with files := (w.response h.generation command).files } }
  unfold concluded conclude
  rw [carried]
  cases outcome with
  | error e =>
    refine ⟨?_, rfl⟩
    simp only [withFiles, withHost, act, executed]
    exact System.OnlyTalks.trans ⟨_, _, _, rfl⟩ (System.onlyTalks_fail after _ e)
  | ok text =>
    refine ⟨?_, rfl⟩
    simp only [withFiles, withHost, act, executed]
    have told := System.acknowledge_of_head (show after.dispatches = _ :: rest from rfl) rfl
      (String.ofList text)
    exact System.OnlyTalks.trans ⟨_, _, _, rfl⟩ told

theorem ComesTo.reachable {w' : Schedule} (leads : w.ComesTo w') (reachable : w.system.Reachable) :
    w'.system.Reachable := by
  obtain ⟨moves, -, same⟩ := leads
  rw [same]
  exact reachable.run moves

theorem reachable_act (reachable : w.system.Reachable) (move : Move) :
    (w.act move).system.Reachable :=
  reachable.run [move]

theorem reachable_concluded (reachable : w.system.Reachable)
    (outcome : Except ChannelError (List Char)) :
    (w.concluded h expected command outcome).system.Reachable := by
  have executed := reachable_act (reachable_act (reachable_act reachable
    (.dispatch expected command)) (.connect w.system.dispatched)) (.execute w.system.dispatched)
  have carried := (comesTo_carryOut _ h.generation (w.response h.generation command)).reachable
    executed
  unfold concluded conclude
  cases outcome with
  | error e => exact reachable_act carried _
  | ok text => exact reachable_act (reachable_act carried _) _

/-- A command that is refused, or reaches nobody. -/
theorem conversed_of_refused (reachable : w.system.Reachable)
    (refused : attempt w.system.options w.system.status.1 expected command
      (w.connection ((w.system.status.1.map Handle.endpoint).getD w.system.options.monitorSocket)
        command).1 = ⟨.error e, []⟩) :
    ∃ pre, (dispatch expected command w).2 = pre.settle ∧ pre.agenda = w.agenda ∧
      pre.system.Reachable ∧ Conversed w expected command (dispatch expected command w).1 pre := by
  have dispatched := dispatch_of_refused refused
  let pre := (w.act (.dispatch expected command)).act (.fail w.system.dispatched e)
  refine ⟨pre, by rw [dispatched], rfl, reachable_act (reachable_act reachable _) _,
    .refused e (by rw [dispatched]) (by rw [dispatched]) ?_⟩
  exact (w.system.onlyTalks_beginDispatch expected command).trans (System.onlyTalks_fail _ _ e)

/-- A command that is let through and finds the instance listening. -/
theorem conversed_of_listens (reachable : w.system.Reachable)
    (looked : w.system.status = (some h, w.system))
    (published : w.system.core.published = some h)
    (accepted : addressee w.system.options (some h) expected command = .ok h) {line : String}
    (spoken : command.line? = .ok line)
    (listens : w.system.listenerAt h.endpoint = .ok h.generation)
    (patient : w.system.options.commandTimeout.count ≠ 0) :
    ∃ pre, (dispatch expected command w).2 = pre.settle ∧ pre.agenda = w.agenda ∧
      pre.system.Reachable ∧ Conversed w expected command (dispatch expected command w).1 pre := by
  obtain ⟨-, named, accepts⟩ := System.addressee_eq_ok accepted
  have notQuit : command ≠ .quit := by
    rintro rfl
    simp [addressee] at accepted
  have exchanged : attempt w.system.options (some h) expected command
      (.accepted (w.response h.generation command).peer)
      = send h.endpoint w.system.options.commandTimeout command
        (.accepted (w.response h.generation command).peer) := by
    simp only [attempt, accepted]
  have written : (send h.endpoint w.system.options.commandTimeout command
      (.accepted (w.response h.generation command).peer)).written ≠ [] := by
    rw [StandIn.written_send_peer h.endpoint spoken patient]
    simp [lineBytes]
  have dispatched := dispatch_of_written looked listens exchanged written
  obtain ⟨system, agenda⟩ := onlyTalks_concluded looked accepted spoken notQuit listens
    (send h.endpoint w.system.options.commandTimeout command
      (.accepted (w.response h.generation command).peer)).outcome
  refine ⟨_, congrArg Prod.snd dispatched, agenda, reachable_concluded reachable _, ?_⟩
  rw [dispatched]
  exact .carried h line published accepts named notQuit spoken listens patient rfl written system

/-- **What a command comes to.** -/
theorem dispatch_conversed (reachable : w.system.Reachable) (expected : Option Nat)
    (command : ControlCommand) :
    ∃ pre, (dispatch expected command w).2 = pre.settle ∧ pre.agenda = w.agenda ∧
      pre.system.Reachable ∧ Conversed w expected command (dispatch expected command w).1 pre := by
  have sound := reachable.sound
  cases accepted : addressee w.system.options w.system.status.1 expected command with
  | error e => exact conversed_of_refused (e := e) reachable (by simp only [attempt, accepted])
  | ok h =>
    obtain ⟨shown, -, accepts⟩ := System.addressee_eq_ok accepted
    obtain ⟨published, looked⟩ := sound.status_of_accepts shown accepts
    rw [shown] at accepted
    cases spoken : command.line? with
    | error e =>
      refine conversed_of_refused (e := e) reachable ?_
      simp only [attempt, shown, accepted, send, spoken]
    | ok line =>
      cases listens : w.system.listenerAt h.endpoint with
      | error failure =>
        refine conversed_of_refused (e := connectError h.endpoint failure) reachable ?_
        simp only [attempt, shown, accepted, send, spoken, Option.map_some, Option.getD_some,
          Schedule.connection, listens]
      | ok peer =>
        obtain rfl : peer = h.generation := by
          rw [sound.eq_launched_of_listens listens, sound.coherent.published h published]
        by_cases patient : w.system.options.commandTimeout.count = 0
        · refine conversed_of_refused (e := .timeout w.system.options.commandTimeout) reachable ?_
          simp only [attempt, shown, accepted, send, spoken, Option.map_some, Option.getD_some,
            Schedule.connection, listens, if_pos patient]
        · exact conversed_of_listens reachable looked published accepted spoken listens patient

end Schedule

end GuestSupervisor.Supervisor
