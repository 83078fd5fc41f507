import GuestSupervisor.Configuration.Assignment
import GuestSupervisor.Text.Blank

/-!
# The configuration file

A configuration as text: comments that start with `#`, empty lines, and
assignments. Reading never fails. What cannot be understood leaves the default in
place, and a known key with a bad value is reported.

## Main Definitions

* `Configuration.fileText`: the file of a configuration.
* `Entry.ofLine?`: the assignment on a line.
* `Configuration.Loaded.read`: a configuration from a file's text, with warnings.
-/

namespace GuestSupervisor

open Text

namespace Configuration

/-- The value of a path in the file; none is written as nothing. -/
def pathText (path : Option String) : List Char := (path.getD "").toList

/-- The text of the value that a key has. -/
def valueText (c : Configuration) : Key → List Char
  | .memory => decimal c.memoryMb.toNat
  | .bootDevice => [c.bootDevice.code]
  | .screenWidth => decimal c.screenWidth.toNat
  | .screenHeight => decimal c.screenHeight.toNat
  | .displayIndex => decimal c.displayIndex.toNat
  | .sound => [if c.soundEnabled then '1' else '0']
  | .primaryDisk => pathText c.primaryDisk
  | .secondaryDisk => pathText c.secondaryDisk
  | .cdrom => pathText c.cdrom

/-- One line of the file. -/
inductive FileLine where
  | empty
  | comment (text : String)
  | entry (key : Key)
  deriving DecidableEq, Repr

/-- The lines of the file. -/
def layout : List FileLine :=
  [ .comment "Mac OS 9 emulator configuration",
    .comment "Edit these values and restart the emulator",
    .empty,
    .comment "Memory in MB (128-1024 recommended)",
    .entry .memory,
    .empty,
    .comment "Boot device: d=cdrom, c=hard disk",
    .entry .bootDevice,
    .empty,
    .comment "Display resolution",
    .entry .screenWidth,
    .entry .screenHeight,
    .empty,
    .comment "VNC display number",
    .entry .displayIndex,
    .empty,
    .comment "Sound (0=disabled, 1=enabled)",
    .entry .sound,
    .empty,
    .comment "Disk configuration",
    .entry .primaryDisk,
    .entry .secondaryDisk,
    .entry .cdrom ]

/-- The text of a line, without its end. -/
def lineText (c : Configuration) : FileLine → List Char
  | .empty => []
  | .comment text => '#' :: ' ' :: text.toList
  | .entry key => key.name.toList ++ '=' :: c.valueText key

/-- The whole file; every line ends with a line feed. -/
def fileText (c : Configuration) : List Char := layout.flatMap fun line => c.lineText line ++ ['\n']

/-- The whole file as a string. -/
def render (c : Configuration) : String := String.ofList c.fileText

end Configuration

/-- An assignment as it stands in a file: a name and a value. -/
structure Entry where
  name : String
  value : String
  deriving DecidableEq, Repr

/-- The assignment on a line: what is before and after the first `=`, without the
blanks around them. A comment and a line without `=` have none. -/
def Entry.ofLine? (line : List Char) : Option Entry :=
  let line := trim line
  if line.head? = some '#' then none
  else (splitOnce '=' line).map fun (name, value) =>
    ⟨String.ofList (trim name), String.ofList (trim value)⟩

namespace Configuration

/-- What a file amounts to: a usable configuration, and the values in it that were
passed over. -/
structure Loaded where
  configuration : Configuration
  warnings : List ConfigurationError
  deriving DecidableEq, Repr, Inhabited

namespace Loaded

/-- Takes in one assignment; `warnings` has the latest first here. An unknown key
is passed over in silence. -/
def take (loaded : Loaded) (entry : Entry) : Loaded :=
  match loaded.configuration.set entry.name entry.value with
  | .ok c => { loaded with configuration := c }
  | .error (.unknownKey _) => loaded
  | .error e => { loaded with warnings := e :: loaded.warnings }

/-- What the assignments amount to, on top of the defaults. -/
def ofEntries (entries : List Entry) : Loaded :=
  let loaded := entries.foldl take ⟨{}, []⟩
  { loaded with warnings := loaded.warnings.reverse }

/-- What a file's text amounts to. -/
def read (text : List Char) : Loaded := ofEntries ((lines text).filterMap Entry.ofLine?)

/-- Reads a file's text. -/
def ofString (text : String) : Loaded := read text.toList

end Loaded

end Configuration

end GuestSupervisor
