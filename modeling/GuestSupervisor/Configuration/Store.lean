import GuestSupervisor.Configuration.File
import GuestSupervisor.Host.FileSystem

/-!
# The stored configuration

A configuration in a file at a fixed path. Loading always gives a configuration,
whatever is at the path. Writing goes aside and replaces the file in one step, so
a reader sees the old text or the new one.

## Main Definitions

* `ConfigurationStore.load`, `save`, `update`, `set`.
* `ConfigurationStore.setAll`: several assignments in one step.
-/

namespace GuestSupervisor

open Text

/-- The place of a configuration file. -/
structure ConfigurationStore where
  path : String
  deriving DecidableEq, Repr, Inhabited

namespace ConfigurationStore

/-- The stored configuration. A missing file means the defaults; an unreadable one
means the defaults and a warning. -/
def load (store : ConfigurationStore) (fs : FileSystem) : Configuration.Loaded :=
  match fs.readText store.path with
  | .ok text => .ofString text
  | .error failure => ⟨{}, if failure.isMissing then [] else [.io store.path failure]⟩

/-- The directory that the file is written aside in. -/
def directory (store : ConfigurationStore) : String :=
  match Path.parent? store.path with
  | some parent => if parent.isEmpty then "." else parent
  | none => "."

/-- Writes a configuration, making the directory when it is missing. Only what is in the
files is in the way here: a host that refuses a step of its own accord is described where
saving is taken step by step. -/
def save (store : ConfigurationStore) (c : Configuration) (fs : FileSystem) :
    Except ConfigurationError Unit × FileSystem :=
  match fs.makeDirectories store.directory with
  | (.error failure, fs) => (.error (.io store.path failure), fs)
  | (.ok (), fs) =>
    match fs.replaceFile store.path (Utf8.encode c.fileText) with
    | .error failure => (.error (.io store.path failure), fs)
    | .ok fs => (.ok (), fs)

/-- Writes a configuration that is valid. -/
def update (store : ConfigurationStore) (c : Configuration) (fs : FileSystem) :
    Except ConfigurationError Unit × FileSystem :=
  match c.validate with
  | .error e => (.error e, fs)
  | .ok () => store.save c fs

/-- Assigns one key in the stored configuration. -/
def set (store : ConfigurationStore) (name value : String) (fs : FileSystem) :
    Except ConfigurationError Configuration × FileSystem :=
  match (store.load fs).configuration.set name value with
  | .error e => (.error e, fs)
  | .ok c =>
    match store.update c fs with
    | (.error e, fs) => (.error e, fs)
    | (.ok (), fs) => (.ok c, fs)

/-- Makes assignments in the stored configuration, all of them or none. -/
def setAll (store : ConfigurationStore) (assignments : List (String × String)) (fs : FileSystem) :
    Except ConfigurationError Configuration × FileSystem :=
  match (store.load fs).configuration.setAll assignments with
  | .error e => (.error e, fs)
  | .ok c =>
    match store.update c fs with
    | (.error e, fs) => (.error e, fs)
    | (.ok (), fs) => (.ok c, fs)

end ConfigurationStore

end GuestSupervisor
