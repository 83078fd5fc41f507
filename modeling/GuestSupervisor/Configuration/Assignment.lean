import GuestSupervisor.Configuration.Basic
import GuestSupervisor.Text.Numeral

/-!
# Assignments

One `KEY=value` assignment to a configuration. Each key has a small language of
values; a value outside it leaves the configuration as it was.

## Main Definitions

* `readFlag?`, `readPositive?`, `readPath`: the languages of values.
* `Configuration.assign?`: the configuration after an assignment to a key.
* `Configuration.set`: the same by name, with the reason when it is refused.
* `Configuration.setAll`: several assignments, of which none counts if one is refused.
-/

namespace GuestSupervisor

open Text

/-- A number from 1 up to thirty-two bits. -/
def readPositive? (value : List Char) : Option UInt32 := (readUInt32? value).filter (· != 0)

/-- The words for yes and no, in either case. -/
def readFlag? (value : List Char) : Option Bool :=
  let value := asciiLower value
  if value ∈ ["1", "true", "yes", "on"].map String.toList then some true
  else if value ∈ ["0", "false", "no", "off"].map String.toList then some false
  else none

/-- A path, or none for the empty value. -/
def readPath (value : String) : Option String := if value.isEmpty then none else some value

namespace Configuration

/-- The configuration in which `key` has the value, when the value means something
for the key. -/
def assign? (c : Configuration) (key : Key) (value : String) : Option Configuration :=
  match key with
  | .memory => (readPositive? value.toList).map fun n => { c with memoryMb := n }
  | .bootDevice => (BootDevice.read? value.toList).map fun d => { c with bootDevice := d }
  | .screenWidth => (readPositive? value.toList).map fun n => { c with screenWidth := n }
  | .screenHeight => (readPositive? value.toList).map fun n => { c with screenHeight := n }
  | .displayIndex => (readUInt32? value.toList).map fun n => { c with displayIndex := n }
  | .sound => (readFlag? value.toList).map fun b => { c with soundEnabled := b }
  | .primaryDisk => some { c with primaryDisk := readPath value }
  | .secondaryDisk => some { c with secondaryDisk := readPath value }
  | .cdrom => some { c with cdrom := readPath value }

/-- Assigns by name. A value that cannot stand on one line is refused before the
name is looked at. -/
def set (c : Configuration) (name value : String) : Except ConfigurationError Configuration :=
  if hasLineBreak value then .error (.invalidValue name value)
  else match Key.ofName? name with
    | none => .error (.unknownKey name)
    | some key =>
      match c.assign? key value with
      | none => .error (.invalidValue name value)
      | some c => .ok c

/-- Assigns by name one after the other, up to the first that is refused. -/
def setAll (c : Configuration) : List (String × String) → Except ConfigurationError Configuration
  | [] => .ok c
  | (name, value) :: rest =>
    match c.set name value with
    | .error e => .error e
    | .ok c => c.setAll rest

end Configuration

end GuestSupervisor
