import GuestSupervisor.Command.Builder
import GuestSupervisor.Configuration.Basic
import GuestSupervisor.Images.Name
import GuestSupervisor.Settings.File
import GuestSupervisor.Text.Quoted

/-!
# Outcomes of commands

What a command leaves behind for its user: a number, what it prints, and what it
complains about.

## Main Definitions

* `Outcome`: the number and the two texts.
* `CommandError`: why a command failed, with its causes.
* `Outcome.failed`: how an error is told.
-/

namespace GuestSupervisor.CommandLine

open Text

/-- The name under which the program speaks. -/
def programName : String := "macemu"

/-- The version of the program. -/
def version : String := "0.7.0"

/-- What a command leaves behind. -/
structure Outcome where
  /-- Zero for success. -/
  code : Nat
  output : String
  errors : String
  deriving DecidableEq, Repr, Inhabited

/-- Why a command failed. -/
inductive CommandError where
  /-- The environment names no place for anything. -/
  | noDirectories
  | settings (cause : SettingsError)
  | createDirectories (failure : IoFailure)
  /-- Nobody can listen at the address. -/
  | bind (address : String) (failure : IoFailure)
  /-- An assignment without an equals sign. -/
  | notAssignment (text : String)
  | configuration (cause : ConfigurationError)
  | build (cause : BuildError)
  | image (cause : ImageError)
  /-- No server was reached at the URL. -/
  | unreachable (url : String)
  /-- The server answered with a status of failure. -/
  | status (code : Nat) (url : String)
  /-- The server's answer is no value. -/
  | undecodable
  /-- The server's answer is no reply to an errand. -/
  | unexpectedReply
  /-- The server did not do what it was asked for. -/
  | refused (message : String)
  deriving DecidableEq, Repr, Inhabited

namespace CommandError

/-- The failure behind an error about the configuration file. -/
def configurationCause : ConfigurationError → List String
  | .io _ failure => [failure.message]
  | _ => []

/-- The failure behind an error about the images. -/
def imageCause : ImageError → List String
  | .io failure => [failure.message]
  | _ => []

/-- The cause behind an error about the settings file. -/
def settingsCause : SettingsError → String
  | .parsing _ => "TOML parse error"
  | .reading _ failure => failure.message

/-- What went wrong, the outermost first and its causes after it. -/
def chain : CommandError → List String
  | noDirectories => ["cannot resolve directories: set MACEMU_HOME or HOME"]
  | settings cause => [cause.message, settingsCause cause]
  | createDirectories failure => ["creating directories", failure.message]
  | bind address failure => ["bind " ++ address, failure.message]
  | notAssignment text => ["expected KEY=VALUE, got " ++ quote text]
  | configuration cause => cause.message :: configurationCause cause
  | build cause => [cause.message]
  | image cause => cause.message :: imageCause cause
  | unreachable url =>
    ["is \x60macemu serve\x60 running? (" ++ url ++ ")",
      "error sending request for url (" ++ url ++ ")"]
  | status code url => ["HTTP status " ++ toString code ++ " for url (" ++ url ++ ")"]
  | undecodable => ["error decoding response body"]
  | unexpectedReply => ["unexpected reply from server", "error decoding response body"]
  | refused message => [message]

/-- The whole chain in one line. -/
def message (e : CommandError) : String := ": ".intercalate e.chain

end CommandError

namespace Outcome

/-- Success that prints a text. -/
def printed (output : String) : Outcome := ⟨0, output, ""⟩

/-- Success that prints lines. -/
def printedLines (lines : List String) : Outcome := printed (String.join (lines.map (· ++ "\n")))

/-- Failure, told in one line. -/
def failed (e : CommandError) : Outcome := ⟨1, "", programName ++ ": " ++ e.message ++ "\n"⟩

/-- A command line that says nothing to do. -/
def misused : Outcome := ⟨1, "", "Usage: " ++ programName ++ " [OPTIONS] <COMMAND>\n"⟩

end Outcome

end GuestSupervisor.CommandLine
