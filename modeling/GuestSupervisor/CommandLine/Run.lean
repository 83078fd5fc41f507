import GuestSupervisor.CommandLine.Client
import GuestSupervisor.CommandLine.Listing
import GuestSupervisor.Service.Basic

/-!
# Running commands

Errands go to the server. Chores are done right here on the files of the installation,
and serving begins here.

## Main Definitions

* `Surroundings`: the environment that a command is run in.
* `run`: running a command line.
* `Result`: its outcome, or a service that has begun.

## Design Notes

Errands need no directories. For everything else the environment must name them, and
the settings are read first.
-/

namespace GuestSupervisor.CommandLine

open Supervisor Text

/-- What a command is run in. -/
structure Surroundings where
  environment : Environment
  /-- Whether messages are also written to a file. -/
  logging : Bool
  transport : Transport

/-- What has become of a command line. -/
inductive Result where
  | ended (outcome : Outcome) (host : Host)
  /-- A service that listens at an address until it is told to end. -/
  | serving (service : Service) (address : String) (schedule : Schedule)

/-! ### Configuration -/

/-- The key and the value of an assignment, without blanks around them. -/
def readAssignment? (text : String) : Option (String × String) :=
  (splitOnce '=' text.toList).map fun (name, value) =>
    (String.ofList (trim name), String.ofList (trim value))

/-- The assignments up to the first text that is none, and that text. -/
def readAssignments : List String → List (String × String) × Option String
  | [] => ([], none)
  | text :: rest =>
    match readAssignment? text with
    | none => ([], some text)
    | some assignment =>
      let (assignments, wrong) := readAssignments rest
      (assignment :: assignments, wrong)

/-- Makes assignments in the stored configuration, all of them or none. -/
def editConfigurationIn (store : ConfigurationStore) (texts : List String) (host : Host) :
    Except CommandError Outcome × Host :=
  let (assignments, wrong) := readAssignments texts
  match (store.load host.files).configuration.setAll assignments with
  | .error e => (.error (.configuration e), host)
  | .ok _ =>
    match wrong with
    | some text => (.error (.notAssignment text), host)
    | none =>
      let (result, files) := store.setAll assignments host.files
      let told := result.mapError CommandError.configuration
      (told.map fun _ => .printedLines ["saved " ++ store.path], { host with files })

/-- Shows the stored configuration, and what was passed over in its file. -/
def showConfigurationIn (store : ConfigurationStore) (host : Host) : Outcome :=
  let loaded := store.load host.files
  let warnings := loaded.warnings.map fun e => "warning: " ++ e.message ++ "\n"
  ⟨0, loaded.configuration.render, String.join warnings⟩

/-! ### Chores -/

/-- Shows the command line of the emulator. -/
def argumentsOf (service : Service) (host : Host) : Except CommandError Outcome × Host :=
  let (result, host) := service.buildCommand host
  let told := result.mapError CommandError.build
  (told.map fun (command, _) => .printedLines [command.display], host)

/-- Lists the disks. -/
def disksOf (service : Service) (host : Host) : Except CommandError Outcome × Host :=
  let (result, host) := service.images.listDisks host
  let told := result.mapError CommandError.image
  (told.map fun disks => .printedLines (disks.map diskLine), host)

/-- Lists the discs. -/
def isosOf (service : Service) (host : Host) : Except CommandError Outcome :=
  let told := (service.images.listIsos host).mapError CommandError.image
  told.map fun isos => .printedLines (isos.map isoLine)

/-- Does a chore. -/
def Chore.run (chore : Chore) (service : Service) (host : Host) :
    Except CommandError Outcome × Host :=
  match chore with
  | .showConfiguration => (.ok (showConfigurationIn service.store host), host)
  | .editConfiguration assignments => editConfigurationIn service.store assignments host
  | .showArguments => argumentsOf service host
  | .listDisks => disksOf service host
  | .listIsos => (isosOf service host, host)
  | .showSettings => (.ok (.printed service.settings.toToml), host)

/-! ### Serving -/

/-- Whether nobody can listen at an address: it must be a host, a colon and a number of
sixteen bits. -/
def addressProblem? (address : String) : Option IoFailure :=
  match splitOnce ':' address.toList.reverse with
  | none => some (.other "invalid socket address")
  | some (number, _) =>
    match readUnsigned? 65536 number.reverse with
    | none => some (.other "invalid port value")
    | some _ => none

/-- Begins to serve: the directories are made, and an instance is started if that is
asked for. One that does not start is no failure of the service. -/
def beginService (service : Service) (bind : Option String) (autostart : Bool) (now : Nat)
    (host : Host) : Result :=
  match service.layout.ensure host.files with
  | (.error failure, files) => .ended (.failed (.createDirectories failure)) { host with files }
  | (.ok (), files) =>
    let address := bind.getD service.settings.web.bind
    let w := service.schedule { host with files } now
    let w := if autostart || service.settings.web.autostart then (service.start w).2 else w
    match addressProblem? address with
    | some failure => .ended (.failed (.bind address failure)) w.system.host
    | none => .serving service address w

/-- The host after a service was told to end. -/
def endService (w : Schedule) : Host := w.shutdown.system.host

/-! ### Any command -/

/-- The place of messages when the environment names none. -/
def usualLogDirectory : String := "/tmp"

/-- Opens the file of messages, making it and its directory when they are missing. -/
def openLog (layout : Option Layout) (host : Host) : Option Host :=
  let directory := (layout.map Layout.logs).getD usualLogDirectory
  let files := (host.files.makeDirectories directory).2
  let path := Path.join directory (programName ++ ".log")
  if files.isFile path then some { host with files }
  else
    match files.writeFile path [] with
    | .ok files => some { host with files }
    | .error _ => none

/-- The service in the directories that the environment names, with the settings in
their file. -/
def serviceIn (layout : Option Layout) (host : Host) : Except CommandError Service :=
  match layout with
  | none => .error .noDirectories
  | some layout =>
    match Settings.load layout.settingsFile host.files with
    | .error e => .error (.settings e)
    | .ok settings => .ok ⟨layout, settings⟩

/-- Runs what was asked for. -/
def Invocation.run (invocation : Invocation) (surroundings : Surroundings) (layout : Option Layout)
    (now : Nat) (host : Host) : Result :=
  let told (result : Except CommandError Outcome) (host : Host) : Result :=
    match result with
    | .ok outcome => .ended outcome host
    | .error e => .ended (.failed e) host
  match invocation.command with
  | .errand errand => told (errand.run surroundings.transport invocation.server) host
  | .serve bind autostart =>
    match serviceIn layout host with
    | .error e => told (.error e) host
    | .ok service => beginService service bind autostart now host
  | .chore chore =>
    match serviceIn layout host with
    | .error e => told (.error e) host
    | .ok service =>
      let (result, host) := chore.run service host
      told result host

/-- Runs a command line. -/
def run (surroundings : Surroundings) (words : List String) (now : Nat) (host : Host) : Result :=
  match Invocation.ofWords words with
  | .error .usage => .ended .misused host
  | .error .version => .ended (.printedLines [programName ++ " " ++ version]) host
  | .error .help => .ended (.printed Outcome.misused.errors) host
  | .ok invocation =>
    let layout := Layout.resolve? surroundings.environment
    if surroundings.logging then
      match openLog layout host with
      | some host => invocation.run surroundings layout now host
      | none => .ended ⟨101, "", "the file of messages cannot be opened\n"⟩ host
    else invocation.run surroundings layout now host

end GuestSupervisor.CommandLine
