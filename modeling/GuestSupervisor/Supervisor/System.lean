import GuestSupervisor.Supervisor.Core
import GuestSupervisor.Supervisor.Dispatch
import GuestSupervisor.Supervisor.Work

/-!
# The supervised system

The supervisor, its processes and the host they run on, as one value, and every
single thing that can happen to it. What happens when nothing hinders it is a fold
of moves; a move that is not possible changes nothing.

## Main Definitions

* `System`: the state.
* `System.status`: what the supervisor answers at once about its instance.
* `Move`: one step of a caller, of the operation in progress, of a watcher, of the
  restart task, of a process or of the world outside.
* `System.apply`, `System.run`: one move and many.

## Design Notes

Only one launch or stop is in progress at a time; everything else may happen
between any two of its stages. Processes, clocks and files are driven by moves that
say what they do, so a statement about all runs covers every behaviour of them. A
process is known by the number of its instance.
-/

namespace GuestSupervisor.Supervisor

open Instance Monitor

/-- The supervisor with everything around it. -/
structure System where
  options : SupervisorOptions
  host : Host
  /-- The time, in milliseconds from the start of 1970. -/
  now : Nat
  core : Core
  /-- All processes that were ever started, latest first. -/
  children : List Child
  /-- The launch or stop in progress. -/
  work : Option Work
  /-- The commands on their way. -/
  dispatches : List Dispatch
  /-- How many commands were sent on their way, which is the number of the next. -/
  dispatched : Nat
  /-- The restart task, when it runs. -/
  restarts : Option RestartTask
  /-- What callers were told, latest first. -/
  answers : List Answer

/-- How long a killed process may take to end, in milliseconds. -/
def killGrace : Nat := 5000

/-- The pause between two looks during a launch, in milliseconds. -/
def readinessPause : Nat := 50

/-- Removes what is in the way at the place of a new monitor's socket and makes its
directory. Failures are left to the emulator to run into. -/
def prepareSocket (endpoint : String) (fs : FileSystem) : FileSystem :=
  let fs := (fs.removeFile endpoint).toOption.getD fs
  match Path.parent? endpoint with
  | none => fs
  | some directory => (fs.makeDirectories directory).2

/-- The longest path that fits into a socket's address, in bytes. -/
def longestSocketPath : Nat := 107

/-- What is wrong with a path as a socket's address, if anything. -/
def addressProblem? (endpoint : String) : Option IoFailure :=
  if endpoint.toList.contains '\x00' then some .zeroInSocketPath
  else if longestSocketPath < endpoint.utf8ByteSize then some .socketPathTooLong
  else if endpoint.isEmpty then some (.os .invalidArgument)
  else none

/-- A step of somebody. -/
inductive Move where
  -- The world outside.
  /-- Time goes on. -/
  | pass (milliseconds : Nat)
  /-- Files and tools change. -/
  | host (host : Host)
  -- Callers.
  | status
  | launch (command : EmulatorCommand) (configuration : Configuration)
  /-- Launch again what an instance was launched with. -/
  | relaunch (previous : Handle)
  | terminate (graceful : Bool)
  /-- A command is checked and sent on its way. -/
  | dispatch (expected : Option Nat) (command : ControlCommand)
  -- The operation in progress.
  /-- The launch starts its process, which gets a number. -/
  | spawn (pid : UInt32)
  /-- The launch has tried to connect to the monitor. -/
  | probed (accepted : Bool)
  /-- The stop is through with telling the emulator to quit. -/
  | quitTold
  /-- The operation does whatever comes next. -/
  | proceed
  -- Watchers and the restart task.
  /-- The watcher of an instance does whatever comes next. -/
  | watch (generation : Nat)
  | enableRestarts (maxRestarts : UInt32) (backoff : Nat)
  /-- The restart task ends. A launch that it has begun goes on here; that the task
  takes it along, that others may launch at once and that its process is killed is left
  out. -/
  | disableRestarts
  /-- The restart task does whatever comes next. -/
  | restart
  -- Processes.
  /-- A process opens its monitor. -/
  | listen (generation : Nat) (endpoint : String)
  | exit (generation : Nat) (exit : ExitInfo)
  -- Commands on their way.
  | connect (id : Nat)
  | execute (id : Nat)
  | reply (id : Nat) (text : String)
  | fail (id : Nat) (error : ChannelError)
  | acknowledge (id : Nat)

namespace System

/-- A supervisor that has never launched anything. -/
def start (options : SupervisorOptions) (host : Host) (now : Nat) : System :=
  { options, host, now, core := .start, children := [], work := none, dispatches := [],
    dispatched := 0, restarts := none, answers := [] }

/-! ### Parts -/

/-- The process of an instance. -/
def child? (s : System) (generation : Nat) : Option Child :=
  s.children.find? (·.generation == generation)

/-- The system with a changed process. -/
def updateChild (s : System) (generation : Nat) (change : Child → Child) : System :=
  { s with
    children := s.children.map fun c => if c.generation = generation then change c else c }

/-- Whether the process of an instance is gone. -/
def isGone (s : System) (generation : Nat) : Bool :=
  (s.child? generation).all (·.life.isReaped)

/-- Sends the signal that kills; it reaches a process that is not gone. -/
def signal (s : System) (generation : Nat) : System :=
  s.updateChild generation fun c => { c with signalled := c.signalled || !c.life.isReaped }

/-- An event for an instance. -/
def transition (s : System) (generation : Nat) (event : Event) (exit : Option ExitInfo) : System :=
  { s with core := s.core.transition generation event exit }

/-- The system with the operation in progress at a stage. -/
def enter (s : System) (work : Work) : System := { s with work := some work }

/-- The operation in progress ends with an answer. -/
def answer (s : System) (answer : Answer) : System :=
  { s with work := none, answers := answer :: s.answers }

/-! ### Status -/

/-- Whether nobody will ever record the end of an instance's process. -/
def watcherLost (s : System) (generation : Nat) : Bool :=
  !s.core.isWatched generation
    || (s.child? generation).all fun c => c.watcher == .finished

/-- The instance, with its process looked at again. A process that is gone while its
watcher has still to record the end is shown as ended; when nobody will ever record
it, it is recorded here. -/
def status (s : System) : Option Handle × System :=
  match s.core.published with
  | none => (none, s)
  | some h =>
    if h.phase.isTerminal then (some h, s)
    else if !s.isGone h.generation then (some h, s)
    else if s.watcherLost h.generation then
      let s := s.transition h.generation (.exited false) none
      (s.core.published, s)
    else
      (some { h with phase := if h.phase = .stopping then .stopped else .crashed }, s)

/-- The instance, if it is live. -/
def liveStatus (s : System) : Option Handle × System :=
  let (h, s) := s.status
  (h.filter Handle.isLive, s)

/-! ### Launching -/

/-- A launch ends with a result. The restart task goes on once its own launch has
ended. -/
def endLaunch (s : System) (order : LaunchOrder) (result : Except LaunchError Handle) : System :=
  let s := s.answer (.launched order.origin result)
  match order.origin with
  | .caller => s
  | .restart _ => { s with restarts := s.restarts.map fun task => { task with stage := .idle } }

/-- The launch starts its process. A process that could not be started takes no
number. -/
def spawnFor (s : System) (order : LaunchOrder) (pid : UInt32) : System :=
  let files := prepareSocket order.command.monitorSocket s.host.files
  match { s.host with files }.start order.command.program order.command.arguments with
  | (.error failure, host) =>
    { s with host }.endLaunch order (.error (.spawnFailed order.command.program failure))
  | (.ok program, host) =>
    let core := s.core.install pid ⟨s.now⟩ order.restarts order.configuration order.command
    { s with
      host, core
      children := { generation := core.launched, pid, origin := order.origin, program } :: s.children
      work := some (.launching order (.polling (s.now + s.options.launchTimeout.count.toNat))) }

/-- The launch does what comes next. Its instance is the latest one. -/
def proceedLaunch (s : System) (order : LaunchOrder) : LaunchStage → System
  | .checking =>
    match s.liveStatus with
    | (some h, s) => s.endLaunch order (.error (.alreadyRunning h.generation h.phase))
    | (none, s) => s.enter (.launching order .spawning)
  | .spawning => s
  | .polling deadline =>
    match (s.child? s.core.launched).map Child.life with
    | some (.ended exit) =>
      (s.updateChild s.core.launched Child.reap).enter (.launching order (.burying exit))
    | _ => s.enter (.launching order (.probing deadline))
  | .probing _ => s
  | .judging deadline =>
    if deadline ≤ s.now then (s.signal s.core.launched).enter (.launching order .culling)
    else s.enter (.launching order (.resting deadline (s.now + readinessPause)))
  | .resting deadline wake =>
    if wake ≤ s.now then s.enter (.launching order (.polling deadline)) else s
  | .burying exit =>
    (s.transition s.core.launched (.exited exit.success) (some exit)).endLaunch order
      (.error (.exitedDuringStartup exit))
  | .culling =>
    match (s.child? s.core.launched).map Child.life with
    | some (.ended exit) =>
      (s.updateChild s.core.launched Child.reap).enter (.launching order (.aborting exit))
    | _ => s
  | .aborting exit =>
    (s.transition s.core.launched .launchAborted (some exit)).endLaunch order
      (.error (.endpointTimeout s.options.launchTimeout))
  | .marking =>
    (s.transition s.core.launched .endpointReady none).enter (.launching order .watching)
  | .watching =>
    (s.updateChild s.core.launched fun c => { c with watcher := .waiting }).enter
      (.launching order .attaching)
  | .attaching =>
    { s with core := s.core.attach s.core.launched }.enter (.launching order .returning)
  | .returning =>
    match s.status with
    | (some h, s) => s.endLaunch order (.ok h)
    | (none, s) => s

/-! ### Stopping -/

/-- Kills an instance: by its watcher, or directly if there is none to be told. -/
def forceKill (s : System) (generation : Nat) : System :=
  let waits := (s.child? generation).any fun c => c.watcher == .waiting
  let used := { s with core := s.core.useKillSwitch generation }
  if s.core.hasKillSwitch generation && waits then
    used.updateChild generation fun c => { c with ordered := true }
  else used.signal generation

/-- A stop ends with what is published about the instance. -/
def endTerminate (s : System) (graceful : Bool) : System :=
  match s.status with
  | (some h, s) => s.answer (.terminated graceful (.ok h))
  | (none, s) => s

/-- The stop does what comes next. -/
def proceedTerminate (s : System) (graceful : Bool) : TerminateStage → System
  | .checking =>
    match s.liveStatus with
    | (some h, s) => s.enter (.terminating graceful (.requesting h))
    | (none, s) => s.answer (.terminated graceful (.error .notRunning))
  | .requesting h =>
    (s.transition h.generation .stopRequested none).enter
      (.terminating graceful (if graceful then .quitting h else .killing h))
  | .quitting _ => s
  | .awaitingQuit h deadline =>
    if s.core.isOver h.generation then s.endTerminate graceful
    else if deadline ≤ s.now then s.enter (.terminating graceful (.killing h))
    else s
  | .killing h =>
    (s.forceKill h.generation).enter (.terminating graceful (.awaitingKill h (s.now + killGrace)))
  | .awaitingKill h deadline =>
    if s.core.isOver h.generation then
      if graceful then s.answer (.terminated graceful (.error (.escalatedToKill h.generation)))
      else s.endTerminate graceful
    else if deadline ≤ s.now then
      s.answer (.terminated graceful (.error (.killFailed h.generation (some h.pid))))
    else s

/-- The operation in progress does what comes next. -/
def proceed (s : System) : System :=
  match s.work with
  | none => s
  | some (.launching order stage) => s.proceedLaunch order stage
  | some (.terminating graceful stage) => s.proceedTerminate graceful stage

/-- An operation begins, if none is in progress. -/
def begin (s : System) (work : Work) : System :=
  match s.work with
  | none => s.enter work
  | some _ => s

/-! ### Watchers and restarts -/

/-- A watcher does what comes next: it waits for the process to end or to be killed
on order, and then records the end. -/
def watch (s : System) (generation : Nat) : System :=
  match s.child? generation with
  | none => s
  | some c =>
    match c.watcher, c.life with
    | .waiting, .ended exit | .killing, .ended exit =>
      s.updateChild generation fun c => { c.reap with watcher := .holding exit }
    | .waiting, _ =>
      if c.ordered then
        (s.signal generation).updateChild generation fun c => { c with watcher := .killing }
      else s
    | .holding exit, _ =>
      (s.transition generation (.exited exit.success) (some exit)).updateChild generation
        fun c => { c with watcher := .finished }
    | _, _ => s

/-- What the restart task makes of the published instance: the crash of an instance
is handled once, and an instance that has used up its restarts is left. -/
def observe (s : System) (task : RestartTask) : RestartTask :=
  let task := { task with seen := s.core.revision }
  match s.core.published with
  | none => task
  | some h =>
    if h.phase ≠ .crashed ∨ task.handled = some h.generation then task
    else
      let task := { task with handled := some h.generation }
      if task.maxRestarts.toNat ≤ h.restarts then task
      else { task with stage := .sleeping h (s.now + task.backoff) }

/-- The launch that the restart task asks for. -/
def restartOrder (crashed : Handle) : LaunchOrder where
  command := crashed.command
  configuration := crashed.configuration
  restarts := crashed.restarts + 1
  origin := .restart crashed.generation

/-- Whether a launch of the restart task is in progress. -/
def isRelaunching (s : System) : Bool :=
  match s.work with
  | some (.launching order _) => order.origin != .caller
  | _ => false

/-- The restart task begins to watch, unless there is one or what one before it has
begun still goes on. -/
def enableRestarts (s : System) (maxRestarts : UInt32) (backoff : Nat) : System :=
  match s.restarts with
  | some _ => s
  | none =>
    if s.isRelaunching then s
    else { s with restarts := some ⟨maxRestarts, backoff, s.core.revision, none, .idle⟩ }

/-- The restart task does what comes next. -/
def restart (s : System) : System :=
  match s.restarts with
  | none => s
  | some task =>
    match task.stage with
    | .idle =>
      if task.seen = s.core.revision then s else { s with restarts := some (s.observe task) }
    | .sleeping crashed wake =>
      if wake ≤ s.now then { s with restarts := some { task with stage := .queued crashed } } else s
    | .queued crashed =>
      match s.work with
      | some _ => s
      | none =>
        { s with
          restarts := some { task with stage := .relaunching }
          work := some (.launching (restartOrder crashed) .checking) }
    | .relaunching => s

/-! ### Commands -/

/-- The instance whose process listens at a path, or why nobody can be reached. -/
def listenerAt (s : System) (endpoint : String) : Except IoFailure Nat :=
  match addressProblem? endpoint with
  | some failure => .error failure
  | none =>
    match s.host.files.node? endpoint with
    | .error failure => .error failure
    | .ok (.socket generation) =>
      if (s.child? generation).any (fun c => c.life.isAlive && c.listening) then .ok generation
      else .error (.os .connectionRefused)
    | .ok _ => .error (.os .connectionRefused)

/-- The command on its way with a number. -/
def dispatch? (s : System) (id : Nat) : Option Dispatch := s.dispatches.find? (·.id == id)

/-- The system with a command at a new stage. -/
def advance (s : System) (id : Nat) (stage : DispatchStage) : System :=
  { s with dispatches := s.dispatches.map fun d => if d.id = id then { d with stage } else d }

/-- A command ends with a result. -/
def endDispatch (s : System) (id : Nat) (result : Except ChannelError String) : System :=
  { s with
    dispatches := s.dispatches.filter (·.id != id)
    answers := .dispatched id result :: s.answers }

/-- A command is checked against the instance as it is now. -/
def beginDispatch (s : System) (expected : Option Nat) (command : ControlCommand) : System :=
  let id := s.dispatched
  let (current, s) := { s with dispatched := id + 1 }.status
  match addressee s.options current expected command, command.line? with
  | .error e, _ => s.endDispatch id (.error e)
  | .ok _, .error e => s.endDispatch id (.error e)
  | .ok h, .ok _ =>
    { s with
      dispatches := ⟨id, expected, command, h.generation, h.endpoint, .checked⟩ :: s.dispatches }

/-- A command is connected to whoever listens at its path by now. -/
def connect (s : System) (id : Nat) : System :=
  match s.dispatch? id with
  | some d =>
    match d.stage, s.listenerAt d.endpoint with
    | .checked, .ok peer => s.advance id (.connected peer)
    | _, _ => s
  | none => s

/-- What a command makes of the guest's clock. -/
def pausing (command : ControlCommand) (paused : Bool) : Bool :=
  match command with
  | .pause => true
  | .resume => false
  | _ => paused

/-- A process that still runs carries out the command that was sent to it. -/
def execute (s : System) (id : Nat) : System :=
  match s.dispatch? id with
  | some d =>
    match d.stage with
    | .connected peer =>
      if (s.child? peer).any (·.life.isAlive) then
        (s.updateChild peer fun c => { c with paused := pausing d.command c.paused }).advance id
          (.executed peer)
      else s
    | _ => s
  | none => s

/-- The reply to a command arrives. -/
def reply (s : System) (id : Nat) (text : String) : System :=
  match (s.dispatch? id).map Dispatch.stage with
  | some (.executed _) => s.advance id (.replied text)
  | _ => s

/-- A command fails on its way; one whose reply has arrived does not. -/
def fail (s : System) (id : Nat) (error : ChannelError) : System :=
  match (s.dispatch? id).map Dispatch.stage with
  | none | some (.replied _) => s
  | some _ => s.endDispatch id (.error error)

/-- The machine of the instance that the check has seen is told of the reply, and so
is the caller. -/
def acknowledge (s : System) (id : Nat) : System :=
  match s.dispatch? id with
  | some d =>
    match d.stage with
    | .replied text =>
      match acknowledgement? d.command with
      | some event => (s.transition d.generation event none).endDispatch id (.ok text)
      | none => s.endDispatch id (.ok text)
    | _ => s
  | none => s

/-! ### Processes -/

/-- A process opens its monitor: it removes what is in the way and binds a socket. -/
def listen (s : System) (generation : Nat) (endpoint : String) : System :=
  if (s.child? generation).any (·.life.isAlive) then
    let files := (s.host.files.removeFile endpoint).toOption.getD s.host.files
    match (addressProblem? endpoint).elim (files.placeSocket endpoint generation) .error with
    | .error _ => { s with host := { s.host with files } }
    | .ok files =>
      { s with host := { s.host with files } }.updateChild generation
        fun c => { c with listening := true }
  else s

/-! ### Moves -/

/-- The system after a move; one that is not possible changes nothing. -/
def apply (s : System) : Move → System
  | .pass milliseconds => { s with now := s.now + milliseconds }
  | .host host => { s with host }
  | .status => s.status.2
  | .launch command configuration =>
    s.begin (.launching ⟨command, configuration, 0, .caller⟩ .checking)
  | .relaunch previous =>
    s.begin (.launching
      ⟨previous.command, previous.configuration, previous.restarts + 1, .caller⟩ .checking)
  | .terminate graceful => s.begin (.terminating graceful .checking)
  | .dispatch expected command => s.beginDispatch expected command
  | .spawn pid =>
    match s.work with
    | some (.launching order .spawning) => s.spawnFor order pid
    | _ => s
  | .probed accepted =>
    match s.work with
    | some (.launching order (.probing deadline)) =>
      s.enter (.launching order (if accepted then .marking else .judging deadline))
    | _ => s
  | .quitTold =>
    match s.work with
    | some (.terminating graceful (.quitting h)) =>
      s.enter (.terminating graceful (.awaitingQuit h (s.now + s.options.quitTimeout.count.toNat)))
    | _ => s
  | .proceed => s.proceed
  | .watch generation => s.watch generation
  | .enableRestarts maxRestarts backoff => s.enableRestarts maxRestarts backoff
  | .disableRestarts => { s with restarts := none }
  | .restart => s.restart
  | .listen generation endpoint => s.listen generation endpoint
  | .exit generation exit => s.updateChild generation (·.finish exit)
  | .connect id => s.connect id
  | .execute id => s.execute id
  | .reply id text => s.reply id text
  | .fail id error => s.fail id error
  | .acknowledge id => s.acknowledge id

/-- The system after many moves. -/
def run (s : System) (moves : List Move) : System := moves.foldl apply s

@[simp] theorem run_nil (s : System) : s.run [] = s := rfl

@[simp] theorem run_cons (s : System) (move : Move) (moves : List Move) :
    s.run (move :: moves) = (s.apply move).run moves := rfl

theorem run_append (s : System) (first second : List Move) :
    s.run (first ++ second) = (s.run first).run second := by
  simp [run, List.foldl_append]

end System

end GuestSupervisor.Supervisor
