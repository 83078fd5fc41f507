import GuestSupervisor.Command.OptionList
import GuestSupervisor.Configuration.Basic
import GuestSupervisor.Host.Path
import GuestSupervisor.Text.Blank
import GuestSupervisor.Text.Numeral

/-!
# Emulator commands

A complete command line of the emulator, kept as a list of arguments: nothing is
ever joined into one text for a shell to take apart.

## Main Definitions

* `Drive`: an attached image; `Drive.spec` is its option list.
* `EmulatorCommand`: program, arguments and what they were built from.
* `EmulatorCommand.display`: the command as people read it.
-/

namespace GuestSupervisor

open Text

/-- An image attached to the guest. -/
structure Drive where
  index : Nat
  /-- The kind of device that the firmware sees. -/
  media : BootDevice
  path : String
  deriving DecidableEq, Repr, Inhabited

namespace Drive

/-- The format of an image, told from the extension of its name. -/
def format (drive : Drive) : String :=
  if Path.hasExtension drive.path "qcow2" then "qcow2" else "raw"

/-- The option list of a drive. -/
def specText (drive : Drive) : List Char :=
  "file=".toList ++ OptionList.escape drive.path.toList
    ++ ",format=".toList ++ drive.format.toList
    ++ ",media=".toList ++ drive.media.word.toList
    ++ ",index=".toList ++ decimal drive.index

/-- `specText` as a string. -/
def spec (drive : Drive) : String := String.ofList drive.specText

end Drive

/-- A command line of the emulator. -/
structure EmulatorCommand where
  program : String
  arguments : List String
  /-- The device that is booted, which differs from the configured one when only
  the other kind is attached. -/
  boot : BootDevice
  drives : List Drive
  /-- The socket on which the emulator is told to open its monitor. -/
  monitorSocket : String
  deriving DecidableEq, Repr, Inhabited

namespace EmulatorCommand

/-- Whether an argument is shown in quotes. -/
def needsQuotes (argument : List Char) : Bool :=
  argument.any fun c => isBlank c || c == '?' || c == '\''

/-- An argument as it is shown. Inside the quotes, a single quote is written as a
closing quote, an escaped quote and an opening quote. -/
def shown (argument : List Char) : List Char :=
  if needsQuotes argument then '\'' :: replaceAll '\'' ['\'', '\\', '\'', '\''] argument ++ ['\'']
  else argument

/-- The command as people read it; it is not meant to be read back. -/
def display (command : EmulatorCommand) : String :=
  String.ofList
    (command.program.toList ++ command.arguments.flatMap fun a => ' ' :: shown a.toList)

end EmulatorCommand

end GuestSupervisor
