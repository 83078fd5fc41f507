import GuestSupervisor.Settings.Document

/-!
# The settings file

## Main Definitions

* `Settings.load`: the settings in a file; a missing file means the defaults.
-/

namespace GuestSupervisor

/-- Why a settings file cannot be used. -/
inductive SettingsError where
  /-- The file is not a document of settings. -/
  | parsing (path : String)
  | reading (path : String) (failure : IoFailure)
  deriving DecidableEq, Repr, Inhabited

/-- What went wrong, without its cause. -/
def SettingsError.message : SettingsError → String
  | parsing path => "parsing " ++ path
  | reading path _ => "reading " ++ path

/-- The settings in a file. -/
def Settings.load (path : String) (fs : FileSystem) : Except SettingsError Settings :=
  match fs.readText path with
  | .ok text =>
    match Settings.ofToml? text with
    | some settings => .ok settings
    | none => .error (.parsing path)
  | .error failure => if failure.isMissing then .ok {} else .error (.reading path failure)

end GuestSupervisor
