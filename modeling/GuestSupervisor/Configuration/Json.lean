import GuestSupervisor.Configuration.Basic
import GuestSupervisor.Json.Record

/-!
# Configurations in JSON

The form in which the HTTP API shows a configuration and in which a launched
configuration is recorded.

## Main Definitions

* `Configuration.toJson`: the object with all nine members.
* `Configuration.record`: the reading of it, in which a path may be left out.
-/

namespace GuestSupervisor

namespace Configuration

/-- The members of a configuration. -/
def record : Record Configuration where
  start := { primaryDisk := none, cdrom := none }
  fields :=
    [ ⟨"memory_mb", fun v c => v.asUInt32.map fun n => { c with memoryMb := n }, true, true⟩,
      ⟨"boot_device",
        fun v c => (v.asWord Reading.isNull BootDevice.ofWord?).map fun d => { c with bootDevice := d },
        true, true⟩,
      ⟨"screen_width", fun v c => v.asUInt32.map fun n => { c with screenWidth := n }, true, true⟩,
      ⟨"screen_height", fun v c => v.asUInt32.map fun n => { c with screenHeight := n },
        true, true⟩,
      ⟨"display_index", fun v c => v.asUInt32.map fun n => { c with displayIndex := n },
        true, true⟩,
      ⟨"sound_enabled", fun v c => v.asBool.map fun b => { c with soundEnabled := b }, true, true⟩,
      ⟨"primary_disk", fun v c => v.asOptionalString.map fun p => { c with primaryDisk := p },
        false, true⟩,
      ⟨"secondary_disk", fun v c => v.asOptionalString.map fun p => { c with secondaryDisk := p },
        false, true⟩,
      ⟨"cdrom", fun v c => v.asOptionalString.map fun p => { c with cdrom := p }, false, true⟩ ]

/-- A configuration as an object. -/
def toJson (c : Configuration) : Json :=
  .object
    [ ("memory_mb", .ofNat c.memoryMb.toNat),
      ("boot_device", .string c.bootDevice.word),
      ("screen_width", .ofNat c.screenWidth.toNat),
      ("screen_height", .ofNat c.screenHeight.toNat),
      ("display_index", .ofNat c.displayIndex.toNat),
      ("sound_enabled", .bool c.soundEnabled),
      ("primary_disk", .ofOption c.primaryDisk .string),
      ("secondary_disk", .ofOption c.secondaryDisk .string),
      ("cdrom", .ofOption c.cdrom .string) ]

end Configuration

end GuestSupervisor
