import GuestSupervisor.StandIn.Emulator
import GuestSupervisor.StandIn.Options
import GuestSupervisor.Supervisor.System

/-!
# Running the system

A supervised system whose processes are known programs. What a program does is
planned when it starts; from then on the next thing that happens is always
determined, and time jumps from one due moment to the next.

## Main Definitions

* `Schedule`: the system and what its processes are about to do.
* `Schedule.step?`: the next thing that happens at this moment.
* `Schedule.runUntil`: everything that happens up to a goal or a moment.
* `Schedule.launch`, `relaunch`, `terminate`, `dispatch`: an operation from its
  beginning to its answer.

## Design Notes

The system changes only by moves, so a run of a schedule is a run of its system.
Programs come first, then watchers, then the operation in progress and last the
restart task.
-/

namespace GuestSupervisor.Supervisor

open Instance Monitor

/-- What a process is going to do. -/
inductive Happening where
  /-- It opens its monitor. -/
  | opens (endpoint : String)
  | ends (exit : ExitInfo)
  deriving DecidableEq, Repr, Inhabited

/-- Something that the process of an instance does at a moment. -/
structure Due where
  time : Nat
  generation : Nat
  happening : Happening
  deriving DecidableEq, Repr, Inhabited

/-- A system and what its processes are about to do. -/
structure Schedule where
  system : System
  agenda : List Due
  /-- The instances that run the stand-in, and what it was told. -/
  standIns : List (Nat × StandIn.Options)
  /-- The number of the next process. -/
  nextPid : UInt32

namespace Schedule

/-- How long a program takes to get going, in milliseconds. -/
def startupTime : Nat := 2

/-- How long the stand-in takes to end after it was told to quit, in milliseconds. -/
def shutdownTime : Nat := 1

/-- Nothing has happened yet. -/
def start (options : SupervisorOptions) (host : Host) (now : Nat) : Schedule :=
  ⟨.start options host now, [], [], 1000⟩

/-- The system after a move. -/
def act (w : Schedule) (move : Move) : Schedule := { w with system := w.system.apply move }

/-- The schedule with other files and tools. -/
def withHost (w : Schedule) (host : Host) : Schedule := w.act (.host host)

/-- The schedule with other files. -/
def withFiles (w : Schedule) (files : FileSystem) : Schedule :=
  w.withHost { w.system.host with files }

/-! ### Programs -/

/-- What a program does after it starts. -/
def planned (program : Program) (files : View) (arguments : List String)
    (generation now : Nat) : List Due :=
  let ready := now + startupTime
  match program with
  | .standIn =>
    match StandIn.Options.ofArguments? arguments with
    | none => [⟨ready, generation, .ends (.ofCode 2)⟩]
    | some o =>
      o.exitAfter.toList.map (fun n => ⟨ready + n.toNat, generation, .ends (.ofCode 3)⟩)
        ++ [⟨ready + o.startupDelay.toNat, generation, .opens o.monitor⟩]
  | program => [⟨ready, generation, .ends (.ofCode (program.completed files arguments []).code)⟩]

/-- The launch in progress starts its process, whose program is planned. -/
def spawn (w : Schedule) (order : LaunchOrder) : Schedule :=
  let before := w.system.core.launched
  let w := w.act (.spawn w.nextPid)
  if w.system.core.launched = before then w
  else
    let generation := w.system.core.launched
    match w.system.child? generation with
    | none => w
    | some c =>
      let arguments := order.command.arguments
      { w with
        agenda := w.agenda
          ++ planned c.program w.system.host.files.view arguments generation w.system.now
        standIns :=
          if c.program.isStandIn then
            (StandIn.Options.ofArguments? arguments).toList.map (generation, ·) ++ w.standIns
          else w.standIns
        nextPid := w.nextPid + 1 }

/-- A process does what was planned. One that cannot open its monitor ends. -/
def happen (w : Schedule) (due : Due) : Schedule :=
  match due.happening with
  | .ends exit => w.act (.exit due.generation exit)
  | .opens endpoint =>
    let w := w.act (.listen due.generation endpoint)
    if (w.system.child? due.generation).any fun c => c.listening then w
    else w.act (.exit due.generation (.ofCode 1))

/-- The earliest of what is planned. -/
def earliest? : List Due → Option Due
  | [] => none
  | due :: rest =>
    match earliest? rest with
    | none => some due
    | some other => if due.time ≤ other.time then some due else some other

/-! ### One step -/

/-- What a process does now. -/
def programStep? (w : Schedule) : Option Schedule :=
  match earliest? w.agenda with
  | some due =>
    if due.time ≤ w.system.now then some ({ w with agenda := w.agenda.erase due }.happen due)
    else none
  | none => none

/-- A process that was killed ends. -/
def killStep? (w : Schedule) : Option Schedule :=
  (w.system.children.find? fun c => c.signalled && c.life.isAlive).map fun c =>
    w.act (.exit c.generation (.ofSignal ExitInfo.killSignal))

/-- Whether the watcher of a process has something to do. -/
def watcherIsDue (c : Child) : Bool :=
  match c.watcher, c.life with
  | .waiting, .ended _ => true
  | .killing, .ended _ => true
  | .waiting, _ => c.ordered
  | .holding _, _ => true
  | _, _ => false

/-- What a watcher does now. -/
def watcherStep? (w : Schedule) : Option Schedule :=
  (w.system.children.find? watcherIsDue).map fun c => w.act (.watch c.generation)

/-- What the stand-in of an instance makes of a command. -/
def response (w : Schedule) (generation : Nat) (command : ControlCommand) : StandIn.Response :=
  let ignoreQuit := (w.standIns.lookup generation).any (·.ignoreQuit)
  let paused := (w.system.child? generation).any (·.paused)
  StandIn.respond ignoreQuit paused w.system.host.files (command.line?.toOption.getD "").toList

/-- The stand-in of an instance has carried out a command. -/
def carryOut (w : Schedule) (generation : Nat) (r : StandIn.Response) : Schedule :=
  let w := w.withFiles r.files
  if r.quits then
    { w with
      agenda := ⟨w.system.now + shutdownTime, generation, .ends (.ofCode 0)⟩ :: w.agenda }
  else w

/-- The connection that is made to a socket, and the instance at its other end. -/
def connection (w : Schedule) (endpoint : String) (command : ControlCommand) :
    Connection × Option Nat :=
  match w.system.listenerAt endpoint with
  | .error failure => (.failed failure, none)
  | .ok generation => (.accepted (w.response generation command).peer, some generation)

/-- Sends the command to quit, whatever becomes of it. -/
def tellToQuit (w : Schedule) (endpoint : String) : Schedule :=
  let (connection, peer) := w.connection endpoint .quit
  let exchange := send endpoint w.system.options.commandTimeout .quit connection
  match peer with
  | some generation =>
    if exchange.written.isEmpty then w else w.carryOut generation (w.response generation .quit)
  | none => w

/-- Whether a process has ended and waits to be waited for. -/
def hasEnded (w : Schedule) (generation : Nat) : Bool :=
  (w.system.child? generation).any fun c => !c.life.isAlive

/-- What the operation in progress does now. -/
def workStep? (w : Schedule) : Option Schedule :=
  match w.system.work with
  | none => none
  | some (.launching order stage) =>
    match stage with
    | .spawning => some (w.spawn order)
    | .probing _ =>
      let accepted := (w.system.listenerAt order.command.monitorSocket).toOption.isSome
      some (w.act (.probed accepted))
    | .resting _ wake => if wake ≤ w.system.now then some (w.act .proceed) else none
    | .culling => if w.hasEnded w.system.core.launched then some (w.act .proceed) else none
    | _ => some (w.act .proceed)
  | some (.terminating _ stage) =>
    match stage with
    | .quitting h => some ((w.tellToQuit h.endpoint).act .quitTold)
    | .awaitingQuit h deadline | .awaitingKill h deadline =>
      if w.system.core.isOver h.generation || deadline ≤ w.system.now then some (w.act .proceed)
      else none
    | _ => some (w.act .proceed)

/-- What the restart task does now. -/
def restartStep? (w : Schedule) : Option Schedule :=
  match w.system.restarts with
  | none => none
  | some task =>
    let due := match task.stage with
      | .idle => task.seen != w.system.core.revision
      | .sleeping _ wake => wake ≤ w.system.now
      | .queued _ => w.system.work.isNone
      | .relaunching => false
    if due then some (w.act .restart) else none

/-- The next thing that happens at this moment. -/
def step? (w : Schedule) : Option Schedule :=
  w.programStep? <|> w.killStep? <|> w.watcherStep? <|> w.workStep? <|> w.restartStep?

/-! ### Time -/

/-- The moments at which somebody who sleeps wakes up. -/
def wakeTimes (w : Schedule) : List Nat :=
  let work := match w.system.work with
    | some (.launching _ (.resting _ wake)) => [wake]
    | some (.terminating _ (.awaitingQuit _ deadline)) => [deadline]
    | some (.terminating _ (.awaitingKill _ deadline)) => [deadline]
    | _ => []
  let task := match w.system.restarts.map RestartTask.stage with
    | some (.sleeping _ wake) => [wake]
    | _ => []
  w.agenda.map Due.time ++ work ++ task

/-- The next moment at which something happens. -/
def nextTime? (w : Schedule) : Option Nat := w.wakeTimes.min?

/-- The schedule at a later moment. -/
def passTo (w : Schedule) (time : Nat) : Schedule := w.act (.pass (time - w.system.now))

/-- How many steps a run takes at most. -/
def patience : Nat := 1000000

/-- Lets things happen until a goal is reached, nothing more is due, or what is due
comes after the limit; in the last two cases it is then the limit, if there is one. -/
def runUntil (goal : Schedule → Bool) (limit : Option Nat) : Nat → Schedule → Schedule
  | 0, w => w
  | steps + 1, w =>
    if goal w then w
    else
      match w.step? with
      | some w => runUntil goal limit steps w
      | none =>
        match w.nextTime? with
        | some time =>
          if limit.all (time ≤ ·) then runUntil goal limit steps (w.passTo time)
          else (limit.map w.passTo).getD w
        | none => (limit.map w.passTo).getD w

/-- Everything that happens at this moment. -/
def settle (w : Schedule) : Schedule :=
  runUntil (fun _ => false) (some w.system.now) patience w

/-- So much time goes by. -/
def sleep (w : Schedule) (milliseconds : Nat) : Schedule :=
  runUntil (fun _ => false) (some (w.system.now + milliseconds)) patience w

/-- How long somebody waits for something that may never happen, in milliseconds. -/
def longestWait : Nat := 60000

/-- Waits until something holds, but not for ever. -/
def waitFor (w : Schedule) (goal : Schedule → Bool) : Schedule :=
  runUntil goal (some (w.system.now + longestWait)) patience w

/-! ### Operations -/

/-- An operation from its beginning to its answer. It begins when no other is in
progress. -/
def perform (w : Schedule) (move : Move) : Option Answer × Schedule :=
  let w := (runUntil (·.system.work.isNone) none patience w).act move
  let told := w.system.answers.length
  let w := runUntil (fun w => w.system.answers.length != told) none patience w
  (if w.system.answers.length = told then none else w.system.answers.head?, w.settle)

/-- What a launch was answered. One that was never answered counts as too late. -/
def launchResult (w : Schedule) : Option Answer → Except LaunchError Handle
  | some (.launched _ result) => result
  | _ => .error (.endpointTimeout w.system.options.launchTimeout)

/-- Launches an instance. -/
def launch (w : Schedule) (command : EmulatorCommand) (configuration : Configuration) :
    Except LaunchError Handle × Schedule :=
  let (answer, w) := w.perform (.launch command configuration)
  (w.launchResult answer, w)

/-- Launches again what an instance was launched with. -/
def relaunch (w : Schedule) (previous : Handle) : Except LaunchError Handle × Schedule :=
  let (answer, w) := w.perform (.relaunch previous)
  (w.launchResult answer, w)

/-- Stops the instance. -/
def terminate (w : Schedule) (graceful : Bool) : Except TerminateError Handle × Schedule :=
  let (answer, w) := w.perform (.terminate graceful)
  match answer with
  | some (.terminated _ result) => (result, w)
  | _ => (.error .notRunning, w)

/-- The instance, with its process looked at again. -/
def status (w : Schedule) : Option Handle × Schedule :=
  (w.system.status.1, (w.act .status).settle)

/-- Stops the instance and counts one that had to be killed as stopped. -/
def stop (w : Schedule) : Except TerminateError Handle × Schedule :=
  match w.terminate true with
  | (.error (.escalatedToKill _), w) =>
    let (latest, w) := w.status
    (latest.elim (.error .notRunning) .ok, w)
  | other => other

/-- What became of a command that was carried out or failed on its way. -/
def conclude (w : Schedule) (id : Nat) (outcome : Except ChannelError (List Char)) : Schedule :=
  match outcome with
  | .ok text => (w.act (.reply id (String.ofList text))).act (.acknowledge id)
  | .error e => w.act (.fail id e)

/-- Sends a command to the instance, once. -/
def dispatch (expected : Option Nat) (command : ControlCommand) (w : Schedule) :
    Exchange × Schedule :=
  let current := w.system.status.1
  let endpoint := (current.map Handle.endpoint).getD w.system.options.monitorSocket
  let (connection, peer) := w.connection endpoint command
  let exchange := attempt w.system.options current expected command connection
  let id := w.system.dispatched
  let asked := w.act (.dispatch expected command)
  match peer with
  | none => (exchange, (asked.conclude id exchange.outcome).settle)
  | some generation =>
    if exchange.written.isEmpty then (exchange, (asked.conclude id exchange.outcome).settle)
    else
      let answered := w.response generation command
      let carried :=
        ((asked.act (.connect id)).act (.execute id)).carryOut generation answered
      (exchange, (carried.conclude id exchange.outcome).settle)

/-- Sends a command, and once more after a pause when nobody was reached. -/
def request (w : Schedule) (expected : Option Nat) (command : ControlCommand) :
    Except ChannelError String × Schedule :=
  let (exchanges, w) := withRetry (dispatch expected command) (·.sleep retryPause) w
  match exchanges.getLast? with
  | some exchange => (exchange.outcome.map String.ofList, w)
  | none => (.error (.unreachable w.system.options.monitorSocket), w)

/-- Starts the restart task that a policy asks for. -/
def enable (w : Schedule) : RestartPolicy → Schedule
  | .never => w
  | .onCrash maxRestarts backoff => w.act (.enableRestarts maxRestarts backoff.count.toNat)

/-- Ends the restart task and stops the instance. A launch that the task has begun is
waited for, and not broken off with the task. -/
def shutdown (w : Schedule) : Schedule := ((w.act .disableRestarts).terminate true).2

/-- Somebody else kills the process of the live instance; it is over when that is
recorded. -/
def killOutside (w : Schedule) : Schedule :=
  match w.system.status.1.filter Handle.isLive with
  | none => w
  | some h =>
    let w := w.act (.exit h.generation (.ofSignal ExitInfo.killSignal))
    runUntil (·.system.core.isOver h.generation) none patience w

end Schedule

end GuestSupervisor.Supervisor
