import GuestSupervisor.Host.Failure
import GuestSupervisor.Host.Path
import GuestSupervisor.Text.Basic
import GuestSupervisor.Text.Quoted

/-!
# The run configuration

What an emulator run is configured with: memory, screen, boot device, sound and
the images to attach. A configuration is edited key by key and kept in a file of
`KEY=value` lines.

## Main Definitions

* `BootDevice`, `Configuration`: the values, with the defaults of a new guest.
* `Key`: the nine keys and the names they have in the file.
* `ConfigurationError`: why an edit or a file was refused.
* `Configuration.agrees`: equality up to the spelling of paths.
* `Configuration.validate`: numbers that must not be zero and paths that must
  stay on one line.

## Design Notes

Paths are strings. A path that holds a line feed or a carriage return could not
be read back from the file, so validation refuses it before anything is written.
-/

namespace GuestSupervisor

open Text

/-- The device that the guest's firmware boots from. -/
inductive BootDevice where
  | disk
  | cdrom
  deriving DecidableEq, Repr, Inhabited

namespace BootDevice

/-- The letter for a device, in the file and on the emulator's command line. -/
def code : BootDevice → Char
  | disk => 'c'
  | cdrom => 'd'

/-- The word for a device. -/
def word : BootDevice → String
  | disk => "disk"
  | cdrom => "cdrom"

/-- The device that a letter or a word means, in either case. -/
def read? (value : List Char) : Option BootDevice :=
  let value := asciiLower value
  if value = ['c'] ∨ value = ['d', 'i', 's', 'k'] then some disk
  else if value = ['d'] ∨ value = ['c', 'd', 'r', 'o', 'm'] then some cdrom
  else none

/-- The device that exactly its word means. -/
def ofWord? (value : String) : Option BootDevice :=
  if value = disk.word then some disk else if value = cdrom.word then some cdrom else none

end BootDevice

/-- What the emulator is run with. The defaults describe a new guest that boots
from an installation disc. -/
structure Configuration where
  /-- Memory in megabytes. -/
  memoryMb : UInt32 := 512
  bootDevice : BootDevice := .cdrom
  screenWidth : UInt32 := 1024
  screenHeight : UInt32 := 768
  /-- The number of the display that is served over the network. -/
  displayIndex : UInt32 := 0
  soundEnabled : Bool := false
  /-- A relative path lies in the directory of disk images. -/
  primaryDisk : Option String := some "macos9.qcow2"
  secondaryDisk : Option String := none
  /-- A relative path lies in the directory of disc images. -/
  cdrom : Option String := some "macos_921_ppc.iso"
  deriving DecidableEq, Repr, Inhabited

/-- What can be assigned in a configuration. -/
inductive Key where
  | memory
  | bootDevice
  | screenWidth
  | screenHeight
  | displayIndex
  | sound
  | primaryDisk
  | secondaryDisk
  | cdrom
  deriving DecidableEq, Repr, Inhabited

namespace Key

/-- All keys, in the order of the file. -/
def all : List Key :=
  [memory, bootDevice, screenWidth, screenHeight, displayIndex, sound, primaryDisk,
    secondaryDisk, cdrom]

/-- The name of a key in the file. -/
def name : Key → String
  | memory => "RAM_MB"
  | bootDevice => "BOOT_DEVICE"
  | screenWidth => "SCREEN_WIDTH"
  | screenHeight => "SCREEN_HEIGHT"
  | displayIndex => "VNC_DISPLAY"
  | sound => "SOUND_ENABLED"
  | primaryDisk => "PRIMARY_DISK"
  | secondaryDisk => "SECONDARY_DISK"
  | cdrom => "CDROM_ISO"

/-- The key of a name. -/
def ofName? (name : String) : Option Key := all.find? (·.name == name)

@[simp] theorem ofName?_name (key : Key) : ofName? key.name = some key := by
  cases key <;> decide

end Key

/-- Why a configuration could not be edited, read or written. -/
inductive ConfigurationError where
  /-- The value has no meaning for the key. -/
  | invalidValue (key value : String)
  | unknownKey (key : String)
  /-- The file at `path` could not be used. -/
  | io (path : String) (failure : IoFailure)
  deriving DecidableEq, Repr, Inhabited

namespace ConfigurationError

/-- The text that is shown for an error. -/
def message : ConfigurationError → String
  | invalidValue key value => "invalid value " ++ quote value ++ " for " ++ key
  | unknownKey key => "unknown configuration key " ++ key
  | io path failure => "config file " ++ path ++ ": " ++ failure.message

end ConfigurationError

/-- Whether a character would end a line of the file. -/
def breaksLine (c : Char) : Bool := c == '\n' || c == '\r'

/-- Whether a value cannot stand on one line. -/
def hasLineBreak (value : String) : Bool := value.toList.any breaksLine

namespace Configuration

/-- Whether two optional paths are the same path or both absent. -/
def samePath : Option String → Option String → Bool
  | none, none => true
  | some a, some b => Path.same a b
  | _, _ => false

/-- The three paths with their keys. -/
def paths (c : Configuration) : List (Key × Option String) :=
  [(.primaryDisk, c.primaryDisk), (.secondaryDisk, c.secondaryDisk), (.cdrom, c.cdrom)]

/-- The three numbers that must not be zero, with their keys. -/
def positives (c : Configuration) : List (Key × UInt32) :=
  [(.memory, c.memoryMb), (.screenWidth, c.screenWidth), (.screenHeight, c.screenHeight)]

/-- What stands in the way of writing a configuration to its file, if anything. -/
def problems (c : Configuration) : List ConfigurationError :=
  c.paths.filterMap (fun (key, path) =>
    (path.filter hasLineBreak).map fun value => .invalidValue key.name value)
  ++ c.positives.filterMap (fun (key, value) =>
    if value = 0 then some (.invalidValue key.name "0") else none)

/-- Refuses a configuration for its first problem. -/
def validate (c : Configuration) : Except ConfigurationError Unit :=
  match c.problems with
  | [] => .ok ()
  | problem :: _ => .error problem

/-- Whether two configurations say the same. Paths are compared part by part. -/
def agrees (a b : Configuration) : Bool :=
  a.memoryMb == b.memoryMb && a.bootDevice == b.bootDevice
    && a.screenWidth == b.screenWidth && a.screenHeight == b.screenHeight
    && a.displayIndex == b.displayIndex && a.soundEnabled == b.soundEnabled
    && samePath a.primaryDisk b.primaryDisk && samePath a.secondaryDisk b.secondaryDisk
    && samePath a.cdrom b.cdrom

theorem validate_eq_ok_iff (c : Configuration) : c.validate = .ok () ↔ c.problems = [] := by
  unfold validate
  split <;> simp_all

end Configuration

end GuestSupervisor
