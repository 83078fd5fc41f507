import GuestSupervisor.Proofs.Monitor.Answered
import GuestSupervisor.Proofs.Supervisor.Delivery

/-!
# What counts as an acknowledgement

The machine is told of a pause or a resume when the command was answered, and answered it is by any
text that was read behind its line.  So the instance is shown as paused or running again once the
monitor has written its prompt, and just as well once the stream has ended without one.

## Main Definitions

* `Core.acknowledged` — what the answer to a command means for the instance.

## Main Statements

* `Schedule.core_conclude` — the machine is told of a command that was answered, and of no other.
* `Schedule.acknowledged_iff_yields` — what a monitor has to do for it.
-/

namespace GuestSupervisor.Supervisor

open Instance Monitor Text

/-- **What the answer to a command means** for the instance that the check has seen. -/
def Core.acknowledged (core : Core) (d : Dispatch) : Core :=
  match acknowledgement? d.command with
  | some event => core.transition d.generation event none
  | none => core

namespace System

variable {s : System} {id served : Nat} {d : Dispatch}

/-- A reply arrives for a command that was carried out. -/
theorem reply_of_executed (sent : s.dispatch? id = some d) (executed : d.stage = .executed served)
    (text : String) :
    s.reply id text = s.advance id (.replied text) ∧
      (s.advance id (.replied text)).dispatch? id = some { d with stage := .replied text } := by
  have number : d.id = id := by simpa using List.find?_some sent
  rw [reply, dispatch?_advance, sent]
  simp [executed, number]

/-- The machine is told of a reply that has arrived. -/
theorem core_acknowledge {text : String} (sent : s.dispatch? id = some d)
    (replied : d.stage = .replied text) : (s.acknowledge id).core = s.core.acknowledged d := by
  unfold acknowledge Core.acknowledged
  simp only [sent, replied]
  cases acknowledgement? d.command <;> rfl

/-- A command that fails on its way leaves the instance alone. -/
theorem core_fail (s : System) (id : Nat) (error : ChannelError) :
    (s.fail id error).core = s.core := by
  unfold fail
  split <;> rfl

end System

namespace Schedule

variable {w : Schedule} {id served : Nat} {d : Dispatch}

/-- **The machine is told of a command that was answered**, and of no other. -/
theorem core_conclude (sent : w.system.dispatch? id = some d)
    (executed : d.stage = .executed served) (outcome : Except ChannelError (List Char)) :
    (w.conclude id outcome).system.core
      = if outcome.toOption.isSome then w.system.core.acknowledged d else w.system.core := by
  cases outcome with
  | error e => exact System.core_fail _ _ e
  | ok text =>
    obtain ⟨arrives, replied⟩ := System.reply_of_executed sent executed (String.ofList text)
    show ((w.system.reply id _).acknowledge id).core = _
    rw [arrives, System.core_acknowledge replied rfl]
    rfl

/-- **What a monitor has to do for an acknowledgement.**

* A command is answered exactly when it has a line, the connection is made, there is time, the
  greeting comes to a text, the line is taken, and what is read behind it comes to a text.
* The answer was completed by the prompt exactly when the stream has not broken off.
* The machine is told of a command that was carried out exactly when it was answered, whichever way
  the text came about. -/
theorem acknowledged_iff_yields (endpoint : String) (limit : Milliseconds)
    (command : ControlCommand) (connection : Connection) :
    (∀ reply, (send endpoint limit command connection).outcome = .ok reply ↔
      ∃ line peer raw, command.line? = .ok line ∧ connection = .accepted peer ∧
        limit.count ≠ 0 ∧ (∃ greeting, peer.greeting.Yields greeting) ∧ peer.writing = .taken ∧
        peer.reply.Yields raw ∧ cleanReply raw line.toList = reply) ∧
    (∀ peer reply, connection = .accepted peer →
      (send endpoint limit command connection).outcome = .ok reply →
        ((∃ read, read <+: peer.reply.pieces ∧ EndsInPrompt read.flatten) ↔
          ∀ raw, ¬ peer.reply.BreaksOff raw)) ∧
    ∀ (w : Schedule) id d served, w.system.dispatch? id = some d → d.stage = .executed served →
      d.endpoint = endpoint → d.command = command →
        let outcome := (send endpoint limit command connection).outcome
        (∀ reply, outcome = .ok reply →
          (w.conclude id outcome).system.core = w.system.core.acknowledged d) ∧
        ∀ e, outcome = .error e → (w.conclude id outcome).system.core = w.system.core := by
  refine ⟨fun _ => send_eq_ok_iff, ?_, ?_⟩
  · intro peer reply accepted answered
    obtain ⟨line, peer', raw, -, accepted', -, -, -, yields, -⟩ := send_eq_ok_iff.mp answered
    obtain rfl : peer = peer' := Connection.accepted.inj (accepted.symm.trans accepted')
    exact yields.prompted_iff
  · intro w id d served sent executed _ _
    constructor
    · intro reply answered
      rw [core_conclude sent executed, answered]
      rfl
    · intro e failed
      rw [core_conclude sent executed, failed]
      rfl

/-! ## A monitor that hangs up -/

/-- A monitor that greets, takes a line and then ends the stream, with no prompt behind the line. -/
def hangingUp : Peer where
  greeting := ⟨[[0x28, 0x71, 0x65, 0x6D, 0x75, 0x29, 0x20]], .silent⟩
  writing := .taken
  answer := ⟨[[0x73, 0x74, 0x6F, 0x70, 0x0D, 0x0A]], .closed⟩

/-- The first instance runs, and a pause was carried out by it. -/
def firstPauses : Schedule :=
  ⟨System.firstRuns.run [.dispatch none .pause, .connect 0, .execute 0], [], [], 1001⟩

/-- The pause on its way to the first instance. -/
def firstPause : Dispatch := ⟨0, none, .pause, 1, "monitor.sock", .executed 1⟩

/-- What the pause comes to at a monitor that hangs up. -/
def hungUp : Exchange := send "monitor.sock" ⟨2000⟩ .pause (.accepted hangingUp)

theorem dispatch?_firstPauses : firstPauses.system.dispatch? 0 = some firstPause := by decide

/-- The pause is answered by the end of the stream, and the machine is told. -/
theorem acknowledged_hungUp :
    hungUp.outcome = .ok [] ∧
      (firstPauses.conclude 0 hungUp.outcome).system.core
        = firstPauses.system.core.acknowledged firstPause := by
  have greets : hangingUp.greeting.Yields [] := Incoming.yields_iff.mpr ⟨true, _, rfl⟩
  have breaksOff : hangingUp.reply.Yields ['s', 't', 'o', 'p', '\r', '\n'] :=
    Incoming.yields_iff.mpr ⟨false, _, rfl⟩
  have answered : hungUp.outcome = .ok [] :=
    ((acknowledged_iff_yields "monitor.sock" ⟨2000⟩ .pause (.accepted hangingUp)).1 []).mpr
      ⟨"stop", hangingUp, _, rfl, rfl, by decide, ⟨_, greets⟩, rfl, breaksOff, by decide⟩
  have told := (acknowledged_iff_yields "monitor.sock" ⟨2000⟩ .pause (.accepted hangingUp)).2.2
    firstPauses 0 firstPause 1 dispatch?_firstPauses rfl rfl rfl
  exact ⟨answered, told.1 _ answered⟩

/-- **No prompt is needed for an acknowledgement**: the pause is answered, and the instance is shown
as paused, when nothing that was read behind the line ends in a prompt. -/
theorem not_answered_only_by_prompt :
    (¬ ∀ endpoint limit command peer reply, command ≠ .quit →
      (send endpoint limit command (.accepted peer)).outcome = .ok reply →
        ∃ read, read <+: peer.reply.pieces ∧ EndsInPrompt read.flatten) ∧
    firstPauses.system.core.published.map Handle.phase = some .running ∧
    (firstPauses.conclude 0 hungUp.outcome).system.core.published.map Handle.phase
      = some .paused := by
  refine ⟨fun onlyByPrompt => ?_, by decide, by decide⟩
  obtain ⟨read, first, prompted⟩ :=
    onlyByPrompt "monitor.sock" ⟨2000⟩ .pause hangingUp [] (by decide) (by decide)
  rw [← List.mem_inits] at first
  revert read
  decide

end Schedule

end GuestSupervisor.Supervisor
