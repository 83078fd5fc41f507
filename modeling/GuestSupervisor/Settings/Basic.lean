import GuestSupervisor.Command.Builder
import GuestSupervisor.Layout
import GuestSupervisor.Screenshot
import GuestSupervisor.Text.Duration

/-!
# Settings

How the program itself behaves: which emulator it runs, how long it waits, what it
does after a crash, where it listens. Settings are apart from the run configuration
and are never changed by the program.

## Main Definitions

* `Settings` and its four sections, each with the defaults of its fields.
* `RestartPolicy`: what the settings say about crashes.
* `Settings.supervisorOptions`, `Settings.commandBuilder`, `Settings.screenshotter`:
  what other parts are told.

## Design Notes

Two of the settings are paths, which need not be text. No document holds such a path,
and the other parts are told of one what can be shown of it.
-/

namespace GuestSupervisor

open Text

/-- Which emulator to run, and how. -/
structure EmulatorSettings where
  binary : OsPath := .text "qemu-system-ppc"
  machine : String := "mac99,via=pmu"
  audioBackend : String := "pa"
  /-- The monitor's socket, in place of the usual one. -/
  monitorSocket : Option OsPath := none
  /-- Whether to keep the guest's screen within the host's. -/
  detectDisplay : Bool := true
  deriving DecidableEq, Repr, Inhabited

/-- What to do when an instance crashes. -/
inductive RestartKind where
  | never
  | onCrash
  deriving DecidableEq, Repr, Inhabited

namespace RestartKind

/-- The word for a kind. -/
def word : RestartKind → String
  | never => "never"
  | onCrash => "on_crash"

/-- The kind that a word means. -/
def ofWord? (value : String) : Option RestartKind :=
  if value = never.word then some never else if value = onCrash.word then some onCrash else none

end RestartKind

/-- Whether, how often and how fast to restart. -/
structure RestartSettings where
  policy : RestartKind := .never
  maxRestarts : UInt32 := 3
  backoffMs : UInt64 := 2000
  deriving DecidableEq, Repr, Inhabited

/-- How long to wait for an emulator, in milliseconds. -/
structure SupervisorSettings where
  launchTimeoutMs : UInt64 := 10000
  quitTimeoutMs : UInt64 := 10000
  commandTimeoutMs : UInt64 := 5000
  restart : RestartSettings := {}
  deriving DecidableEq, Repr, Inhabited

/-- Where to listen. -/
structure WebSettings where
  bind : String := "127.0.0.1:8080"
  /-- Whether to start the emulator with the server. -/
  autostart : Bool := false
  deriving DecidableEq, Repr, Inhabited

/-- How to make pictures of the screen. -/
structure ScreenshotSettings where
  converter : List String := ["pnmtopng"]
  waitMs : UInt64 := 1000
  deriving DecidableEq, Repr, Inhabited

/-- All settings. -/
structure Settings where
  emulator : EmulatorSettings := {}
  supervisor : SupervisorSettings := {}
  web : WebSettings := {}
  screenshot : ScreenshotSettings := {}
  deriving DecidableEq, Repr, Inhabited

/-- The bounds that a supervisor keeps. -/
structure SupervisorOptions where
  /-- How long a new emulator may take to open its monitor. -/
  launchTimeout : Milliseconds
  /-- How long an emulator may take to end after it was told to quit. -/
  quitTimeout : Milliseconds
  /-- How long one exchange with the monitor may take. -/
  commandTimeout : Milliseconds
  /-- The socket that is named when there is no instance. -/
  monitorSocket : String
  deriving DecidableEq, Repr, Inhabited

/-- What is done after a crash. -/
inductive RestartPolicy where
  | never
  /-- Restart, so often in a row at most, each time after a pause. -/
  | onCrash (maxRestarts : UInt32) (backoff : Milliseconds)
  deriving DecidableEq, Repr, Inhabited

namespace Settings

/-- The monitor's socket. -/
def monitorSocket (s : Settings) (l : Layout) : String :=
  (s.emulator.monitorSocket.map OsPath.shown).getD l.monitorSocket

/-- The bounds for the supervisor. -/
def supervisorOptions (s : Settings) (l : Layout) : SupervisorOptions where
  launchTimeout := ⟨s.supervisor.launchTimeoutMs⟩
  quitTimeout := ⟨s.supervisor.quitTimeoutMs⟩
  commandTimeout := ⟨s.supervisor.commandTimeoutMs⟩
  monitorSocket := s.monitorSocket l

/-- What the settings say about crashes. -/
def restartPolicy (s : Settings) : RestartPolicy :=
  match s.supervisor.restart.policy with
  | .never => .never
  | .onCrash => .onCrash s.supervisor.restart.maxRestarts ⟨s.supervisor.restart.backoffMs⟩

/-- The fixed parts of commands. -/
def commandBuilder (s : Settings) (l : Layout) : CommandBuilder where
  emulator := s.emulator.binary.shown
  machine := s.emulator.machine
  monitorSocket := s.monitorSocket l
  diskDirectory := l.disk
  isoDirectory := l.iso
  audioBackend := s.emulator.audioBackend

/-- How pictures are made and where they are kept. -/
def screenshotter (s : Settings) (l : Layout) : Screenshotter where
  directory := l.screenshots
  converter := s.screenshot.converter
  wait := ⟨s.screenshot.waitMs⟩

end Settings

end GuestSupervisor
