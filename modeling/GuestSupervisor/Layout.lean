import GuestSupervisor.Host.FileSystem

/-!
# Where things are kept

The directories that the program uses, under one root or at the places that a
desktop's conventions name.

## Main Definitions

* `Layout`: the six directories, and the files in them.
* `Layout.under`, `Layout.resolve?`: from a root, from the environment.
* `Layout.ensure`: making the directories.
-/

namespace GuestSupervisor

/-- The directories of an installation. -/
structure Layout where
  config : String
  disk : String
  iso : String
  screenshots : String
  run : String
  logs : String
  deriving DecidableEq, Repr, Inhabited

/-- The environment variables that decide where things are. -/
structure Environment where
  /-- The root that holds everything. -/
  root : Option String := none
  home : Option String := none
  configHome : Option String := none
  dataHome : Option String := none
  runtimeDirectory : Option String := none
  stateHome : Option String := none
  deriving DecidableEq, Repr, Inhabited

namespace Layout

/-- Everything under one root. -/
def under (root : String) : Layout where
  config := Path.join root "config"
  disk := Path.join root "disk"
  iso := Path.join root "iso"
  screenshots := Path.join root "screenshots"
  run := Path.join root "run"
  logs := Path.join root "logs"

/-- The name of the directories under a user's own. -/
def applicationName : String := "macemu"

/-- A directory for the application: in the one that the environment names, or else at a
place under the home directory. -/
def ownDirectory (named : Option String) (fallback : String) : String :=
  Path.join (named.getD fallback) applicationName

/-- The directories of a user with this home directory. -/
def ofUser (home : String) (e : Environment) : Layout :=
  let data := ownDirectory e.dataHome (Path.join (Path.join home ".local") "share")
  { config := ownDirectory e.configHome (Path.join home ".config")
    disk := Path.join data "disk"
    iso := Path.join data "iso"
    screenshots := Path.join data "screenshots"
    run :=
      match e.runtimeDirectory.filter (!·.isEmpty) with
      | some directory => Path.join directory applicationName
      | none => Path.join data "run"
    logs := ownDirectory e.stateHome (Path.join (Path.join home ".local") "state") }

/-- The directories that an environment asks for: under the root when it names one,
else under the user's home directory, if there is one. -/
def resolve? (e : Environment) : Option Layout :=
  match e.root.filter (!·.isEmpty) with
  | some root => some (under root)
  | none => e.home.map fun home => ofUser home e

/-- The file of the run configuration. -/
def configFile (l : Layout) : String := Path.join l.config "qemu.conf"

/-- The file of the settings. -/
def settingsFile (l : Layout) : String := Path.join l.config "settings.toml"

/-- The monitor's socket, unless the settings name another. -/
def monitorSocket (l : Layout) : String := Path.join l.run "monitor.sock"

/-- All directories, in the order in which they are made. -/
def directories (l : Layout) : List String :=
  [l.config, l.disk, l.iso, l.screenshots, l.run, l.logs]

/-- Makes directories one after the other, up to the first that fails. -/
def ensureAll (fs : FileSystem) : List String → Except IoFailure Unit × FileSystem
  | [] => (.ok (), fs)
  | path :: rest =>
    match fs.makeDirectories path with
    | (.error failure, fs) => (.error failure, fs)
    | (.ok (), fs) => ensureAll fs rest

/-- Makes all directories. -/
def ensure (l : Layout) (fs : FileSystem) : Except IoFailure Unit × FileSystem :=
  ensureAll fs l.directories

end Layout

end GuestSupervisor
