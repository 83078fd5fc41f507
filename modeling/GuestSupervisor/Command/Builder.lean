import GuestSupervisor.Command.Basic
import GuestSupervisor.Host.FileSystem

/-!
# Building commands

From a configuration, the files that exist and the size of the host's display to
the emulator's command line.

## Main Definitions

* `CommandBuilder`: what is fixed for all commands.
* `CommandBuilder.attached`: the drives that exist, in boot order.
* `effectiveBoot`: the device that is booted.
* `CommandBuilder.build`: the whole command.

## Design Notes

Drives get their indices by position: primary disk, secondary disk, disc. An image
that is not there is left out, and those behind it move up.
-/

namespace GuestSupervisor

open Text

/-- Why no command can be built. -/
inductive BuildError where
  | noBootableDevice
  deriving DecidableEq, Repr, Inhabited

/-- The text that is shown for an error. -/
def BuildError.message : BuildError → String
  | noBootableDevice => "no bootable device: neither a disk nor a cdrom image exists"

/-- The width and height of a screen. -/
structure Resolution where
  width : UInt32
  height : UInt32
  deriving DecidableEq, Repr, Inhabited

/-- The parts of a command that no configuration changes. -/
structure CommandBuilder where
  emulator : String
  machine : String
  monitorSocket : String
  /-- Where relative paths of disks lie. -/
  diskDirectory : String
  /-- Where relative paths of discs lie. -/
  isoDirectory : String
  /-- The sound backend, for configurations with sound. -/
  audioBackend : String
  deriving DecidableEq, Repr, Inhabited

/-- The images as drives, numbered from `next` on. A number has thirty-two bits. -/
def numberFrom (next : UInt32) : List (BootDevice × String) → List Drive
  | [] => []
  | (media, path) :: images => ⟨next.toNat, media, path⟩ :: numberFrom (next + 1) images

/-- Gives each image its position as its index. -/
def assignIndices (images : List (BootDevice × String)) : List Drive := numberFrom 0 images

/-- Whether a drive of a kind is attached. -/
def hasMedia (drives : List Drive) (media : BootDevice) : Bool := drives.any (·.media == media)

/-- The device that is booted: the wanted one when a drive of its kind is attached,
else the other kind. -/
def effectiveBoot (wanted : BootDevice) (drives : List Drive) : Except BuildError BootDevice :=
  if hasMedia drives wanted then .ok wanted
  else if hasMedia drives .disk then .ok .disk
  else if hasMedia drives .cdrom then .ok .cdrom
  else .error .noBootableDevice

/-- The guest's resolution: the configured one, on either axis no more than the
host's display has, when that is known. -/
def guestResolution (c : Configuration) : Option Resolution → Resolution
  | some ⟨w, h⟩ =>
    if w = 0 ∨ h = 0 then ⟨c.screenWidth, c.screenHeight⟩
    else ⟨min c.screenWidth w, min c.screenHeight h⟩
  | none => ⟨c.screenWidth, c.screenHeight⟩

namespace CommandBuilder

/-- The name of the sound device. -/
def soundDevice : String := "snd0"

/-- The configured images with their resolved paths, in boot order. -/
def configured (builder : CommandBuilder) (c : Configuration) : List (BootDevice × String) :=
  c.primaryDisk.toList.map (fun p => (BootDevice.disk, Path.join builder.diskDirectory p))
  ++ c.secondaryDisk.toList.map (fun p => (BootDevice.disk, Path.join builder.diskDirectory p))
  ++ c.cdrom.toList.map (fun p => (BootDevice.cdrom, Path.join builder.isoDirectory p))

/-- The drives of a configuration: the configured images that are files. -/
def attached (builder : CommandBuilder) (fs : FileSystem) (c : Configuration) : List Drive :=
  assignIndices ((builder.configured c).filter fun (_, path) => fs.isFile path)

/-- The machine with its sound device, if the configuration has sound. -/
def machineArgument (builder : CommandBuilder) (c : Configuration) : String :=
  if c.soundEnabled then builder.machine ++ ",audiodev=" ++ soundDevice else builder.machine

/-- A resolution with the colour depth behind it. -/
def resolutionArgument (r : Resolution) : String :=
  toString r.width.toNat ++ "x" ++ toString r.height.toNat ++ "x32"

/-- The monitor's socket as an option list. -/
def monitorArgument (builder : CommandBuilder) : String :=
  String.ofList ("unix:".toList ++ OptionList.escape builder.monitorSocket.toList
    ++ ",server,nowait".toList)

/-- The arguments of a command. -/
def arguments (builder : CommandBuilder) (c : Configuration) (boot : BootDevice)
    (drives : List Drive) (r : Resolution) : List String :=
  ["-M", builder.machineArgument c, "-m", toString c.memoryMb.toNat, "-boot",
    String.ofList [boot.code], "-g", resolutionArgument r]
  ++ drives.flatMap (fun drive => ["-drive", drive.spec])
  ++ ["-vnc", ":" ++ toString c.displayIndex.toNat, "-monitor", builder.monitorArgument]
  ++ (if c.soundEnabled then ["-audiodev", builder.audioBackend ++ ",id=" ++ soundDevice] else [])
  ++ ["-prom-env", "auto-boot?=true"]

/-- The command for a configuration. -/
def build (builder : CommandBuilder) (fs : FileSystem) (c : Configuration)
    (detected : Option Resolution) : Except BuildError EmulatorCommand := do
  let drives := builder.attached fs c
  let boot ← effectiveBoot c.bootDevice drives
  .ok
    { program := builder.emulator
      arguments := builder.arguments c boot drives (guestResolution c detected)
      boot
      drives
      monitorSocket := builder.monitorSocket }

end CommandBuilder

end GuestSupervisor
