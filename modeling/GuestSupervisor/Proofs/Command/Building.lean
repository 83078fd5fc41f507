import GuestSupervisor.Command.Builder
import Mathlib.Data.List.Basic

/-!
# Built commands

Three images may be configured and any of them may be missing, so the indices of the drives,
the options on the command line and the device that is booted all depend on what is there.
This module says what a built command is by the images that are there alone, and shows that
its drives, its arguments and its boot device tell the same.

## Main Definitions

* `optionsIn` — a command line as options with their values.
* `FileSystem.existing` — the image that a configured path leads to.
* `CommandBuilder.NothingThere` — a configuration of which no image is there.

## Main Statements

* `map_numberFrom`, `map_index_numberFrom` — numbering drops no image and counts on.
* `CommandBuilder.build_eq` — a command as a function of the images that are there.
* `CommandBuilder.attached_eq_attached_iff` — when losing files changes a command.
* `CommandBuilder.build_outcomes` — when there is a command, and what is in it.
-/

namespace GuestSupervisor

variable {next : UInt32} {images : List (BootDevice × String)} {drives : List Drive}
  {wanted boot : BootDevice}

/-! ## Numbering -/

/-- What a drive is of, without its index. -/
def Drive.image (drive : Drive) : BootDevice × String := (drive.media, drive.path)

/-- **Numbering drops nothing** and keeps the order. -/
@[simp] theorem map_numberFrom (next : UInt32) (images : List (BootDevice × String)) :
    (numberFrom next images).map Drive.image = images := by
  induction images generalizing next with
  | nil => rfl
  | cons image images ih => simp [numberFrom, Drive.image, ih]

/-- **Numbering counts on**, as long as there are numbers. -/
theorem map_index_numberFrom (room : next.toNat + images.length < UInt32.size) :
    (numberFrom next images).map Drive.index = List.range' next.toNat images.length := by
  induction images generalizing next with
  | nil => rfl
  | cons image images ih =>
    rw [List.length_cons, UInt32.size] at room
    have onwards : (next + 1).toNat = next.toNat + 1 := by
      rw [UInt32.toNat_add, UInt32.toNat_one]
      exact Nat.mod_eq_of_lt (by omega)
    rw [numberFrom, List.map_cons, ih (by rw [UInt32.size]; omega), onwards, List.length_cons,
      List.range'_succ]

/-- The index of a drive is its position. -/
theorem map_index_assignIndices (room : images.length < UInt32.size) :
    (assignIndices images).map Drive.index = List.range images.length := by
  rw [assignIndices, map_index_numberFrom (by simpa using room), List.range_eq_range']
  rfl

theorem length_assignIndices (images : List (BootDevice × String)) :
    (assignIndices images).length = images.length := by
  rw [← List.length_map (f := Drive.image), assignIndices, map_numberFrom]

/-! ## The device that is booted -/

theorem hasMedia_iff {media : BootDevice} :
    hasMedia drives media ↔ media ∈ drives.map Drive.media := by
  simp [hasMedia]

/-- **What is booted**: nothing if no drive is attached, and otherwise a kind of drive that is
attached, the wanted one if it is among them. -/
theorem effectiveBoot_cases (wanted : BootDevice) (drives : List Drive) :
    drives = [] ∧ effectiveBoot wanted drives = .error .noBootableDevice ∨
      ∃ boot, effectiveBoot wanted drives = .ok boot ∧ boot ∈ drives.map Drive.media ∧
        (wanted ∈ drives.map Drive.media → boot = wanted) := by
  unfold effectiveBoot
  simp only [hasMedia_iff]
  split_ifs with configured disk cdrom
  · exact Or.inr ⟨wanted, rfl, configured, fun _ => rfl⟩
  · exact Or.inr ⟨.disk, rfl, disk, fun member => absurd member configured⟩
  · exact Or.inr ⟨.cdrom, rfl, cdrom, fun member => absurd member configured⟩
  · -- A drive of neither kind is none.
    refine Or.inl ⟨List.eq_nil_iff_forall_not_mem.mpr fun drive member => ?_, rfl⟩
    have attached := List.mem_map_of_mem (f := Drive.media) member
    cases media : drive.media with
    | disk => exact disk (media ▸ attached)
    | cdrom => exact cdrom (media ▸ attached)

/-! ## Options -/

/-- **A command line as options with their values.**  Every option of the emulator has one. -/
def optionsIn : List String → List (String × String)
  | option :: value :: rest => (option, value) :: optionsIn rest
  | _ => []

/-- **The values that a command line gives for an option**, in order. -/
def valuesOf (option : String) (arguments : List String) : List String :=
  ((optionsIn arguments).filter (·.1 == option)).map Prod.snd

theorem optionsIn_drives (drives : List Drive) (rest : List String) :
    optionsIn (drives.flatMap (fun drive => ["-drive", drive.spec]) ++ rest)
      = drives.map (fun drive => ("-drive", drive.spec)) ++ optionsIn rest := by
  induction drives with
  | nil => rfl
  | cons drive drives ih => simp [optionsIn, ih]

/-! ## What is there -/

/-- **The image that a configured path leads to**, if it is a file. -/
def FileSystem.existing (fs : FileSystem) (directory : String) (path : Option String) :
    List String :=
  ((path.map (Path.join directory)).filter fs.isFile).toList

theorem FileSystem.existing_eq_nil_iff {fs : FileSystem} {directory : String}
    {path : Option String} :
    fs.existing directory path = [] ↔
      ∀ p, path = some p → fs.isFile (Path.join directory p) = false := by
  cases path <;> simp [existing]

namespace CommandBuilder

variable {builder : CommandBuilder} {fs : FileSystem} {c : Configuration}
  {detected : Option Resolution}

/-- **The options that the builder writes.** -/
theorem optionsIn_arguments (builder : CommandBuilder) (c : Configuration) (boot : BootDevice)
    (drives : List Drive) (r : Resolution) :
    optionsIn (builder.arguments c boot drives r)
      = [("-M", builder.machineArgument c), ("-m", toString c.memoryMb.toNat),
          ("-boot", String.ofList [boot.code]), ("-g", resolutionArgument r)]
        ++ drives.map (fun drive => ("-drive", drive.spec))
        ++ [("-vnc", ":" ++ toString c.displayIndex.toNat), ("-monitor", builder.monitorArgument)]
        ++ (if c.soundEnabled then [("-audiodev", builder.audioBackend ++ ",id=" ++ soundDevice)]
            else [])
        ++ [("-prom-env", "auto-boot?=true")] := by
  unfold arguments
  simp only [List.append_assoc, List.cons_append, List.nil_append, optionsIn, optionsIn_drives]
  cases c.soundEnabled <;> rfl

/-- The drives on the command line are the drives of the command. -/
theorem valuesOf_drive_arguments (builder : CommandBuilder) (c : Configuration)
    (boot : BootDevice) (drives : List Drive) (r : Resolution) :
    valuesOf "-drive" (builder.arguments c boot drives r) = drives.map Drive.spec := by
  rw [valuesOf, optionsIn_arguments]
  cases c.soundEnabled <;> simp [List.filter_map, Function.comp_def]

/-- The device on the command line is the one that is booted. -/
theorem valuesOf_boot_arguments (builder : CommandBuilder) (c : Configuration)
    (boot : BootDevice) (drives : List Drive) (r : Resolution) :
    valuesOf "-boot" (builder.arguments c boot drives r) = [String.ofList [boot.code]] := by
  rw [valuesOf, optionsIn_arguments]
  cases c.soundEnabled <;> simp [List.filter_map, Function.comp_def]

/-- **The images that are there**: the first disk, the second disk and the disc. -/
def existingImages (builder : CommandBuilder) (fs : FileSystem) (c : Configuration) :
    List (BootDevice × String) :=
  (fs.existing builder.diskDirectory c.primaryDisk).map (BootDevice.disk, ·)
    ++ (fs.existing builder.diskDirectory c.secondaryDisk).map (BootDevice.disk, ·)
    ++ (fs.existing builder.isoDirectory c.cdrom).map (BootDevice.cdrom, ·)

theorem filter_configured (builder : CommandBuilder) (fs : FileSystem) (c : Configuration) :
    (builder.configured c).filter (fun image => fs.isFile image.2)
      = builder.existingImages fs c := by
  have one : ∀ (media : BootDevice) (directory : String) (path : Option String),
      (path.toList.map fun p => (media, Path.join directory p)).filter
          (fun image => fs.isFile image.2)
        = (fs.existing directory path).map (media, ·) := by
    intro media directory path
    cases path with
    | none => rfl
    | some p =>
      cases there : fs.isFile (Path.join directory p) <;>
        simp [FileSystem.existing, Option.filter, there]
  simp only [configured, existingImages, List.filter_append, one]

/-- **The drives are the images that are there.** -/
theorem attached_eq (builder : CommandBuilder) (fs : FileSystem) (c : Configuration) :
    builder.attached fs c = assignIndices (builder.existingImages fs c) := by
  rw [attached, filter_configured]

theorem map_image_attached (builder : CommandBuilder) (fs : FileSystem) (c : Configuration) :
    (builder.attached fs c).map Drive.image = builder.existingImages fs c := by
  rw [attached_eq, assignIndices, map_numberFrom]

theorem length_existing_le (fs : FileSystem) (directory : String) (path : Option String) :
    (fs.existing directory path).length ≤ 1 := by
  rw [FileSystem.existing, Option.length_toList]
  split <;> omega

theorem map_index_attached (builder : CommandBuilder) (fs : FileSystem) (c : Configuration) :
    (builder.attached fs c).map Drive.index = List.range (builder.attached fs c).length := by
  have room : (builder.existingImages fs c).length < UInt32.size := by
    have first := length_existing_le fs builder.diskDirectory c.primaryDisk
    have second := length_existing_le fs builder.diskDirectory c.secondaryDisk
    have third := length_existing_le fs builder.isoDirectory c.cdrom
    simp only [existingImages, List.length_append, List.length_map, UInt32.size]
    omega
  rw [attached_eq, map_index_assignIndices room, length_assignIndices]

/-- **A command is built from its drives**: the files decide nothing else. -/
theorem build_eq (builder : CommandBuilder) (fs : FileSystem) (c : Configuration)
    (detected : Option Resolution) :
    builder.build fs c detected
      = (effectiveBoot c.bootDevice (builder.attached fs c)).map fun boot =>
          { program := builder.emulator
            arguments :=
              builder.arguments c boot (builder.attached fs c) (guestResolution c detected)
            boot
            drives := builder.attached fs c
            monitorSocket := builder.monitorSocket } := by
  simp only [build]
  cases effectiveBoot c.bootDevice (builder.attached fs c) <;> rfl

/-- **If an image is there, there is a command**, made of the drives, with a device to boot that
is among them. -/
theorem exists_build (detected : Option Resolution) (some : builder.attached fs c ≠ []) :
    ∃ command, builder.build fs c detected = .ok command
      ∧ command.drives = builder.attached fs c
      ∧ command.arguments = builder.arguments c command.boot command.drives
          (guestResolution c detected)
      ∧ command.boot ∈ command.drives.map Drive.media
      ∧ (c.bootDevice ∈ command.drives.map Drive.media → command.boot = c.bootDevice) := by
  rcases effectiveBoot_cases c.bootDevice (builder.attached fs c) with
    ⟨none, -⟩ | ⟨boot, booted, member, preferred⟩
  · exact absurd none some
  · exact ⟨_, by rw [build_eq, booted]; rfl, rfl, rfl, member, preferred⟩

/-- A command has the drives of its configuration. -/
theorem drives_of_build {command : EmulatorCommand}
    (built : builder.build fs c detected = .ok command) :
    command.drives = builder.attached fs c := by
  rw [build_eq] at built
  cases booted : effectiveBoot c.bootDevice (builder.attached fs c) with
  | error e =>
    rw [booted] at built
    cases built
  | ok boot =>
    rw [booted] at built
    cases built
    rfl

/-- Every drive is of an image that is there. -/
theorem forall_mem_attached_iff (builder : CommandBuilder) (fs : FileSystem) (c : Configuration)
    (good : String → Prop) :
    (∀ drive ∈ builder.attached fs c, good drive.path)
      ↔ ∀ image ∈ builder.existingImages fs c, good image.2 := by
  rw [← map_image_attached, List.forall_mem_map]
  rfl

/-- **A command shows its drives**: two file systems that give the same command attach the same
drives. -/
theorem build_eq_build_iff {fs' : FileSystem} :
    builder.build fs' c detected = builder.build fs c detected
      ↔ builder.attached fs' c = builder.attached fs c := by
  refine ⟨fun same => ?_, fun same => by rw [build_eq, build_eq, same]⟩
  rw [build_eq, build_eq] at same
  rcases effectiveBoot_cases c.bootDevice (builder.attached fs c) with
    ⟨none, failed⟩ | ⟨boot, booted, -, -⟩ <;>
  rcases effectiveBoot_cases c.bootDevice (builder.attached fs' c) with
    ⟨none', failed'⟩ | ⟨boot', booted', -, -⟩
  · rw [none, none']
  · simp [failed, booted', Except.map] at same
  · simp [booted, failed', Except.map] at same
  · simp only [booted, booted', Except.map, Except.ok.injEq, EmulatorCommand.mk.injEq] at same
    exact same.2.2.2.1

/-- **Losing files changes the drives exactly if one of them is lost.** -/
theorem attached_eq_attached_iff {fs' : FileSystem}
    (fewer : ∀ path, fs'.isFile path → fs.isFile path) :
    builder.attached fs' c = builder.attached fs c
      ↔ ∀ drive ∈ builder.attached fs c, fs'.isFile drive.path := by
  have kept : builder.existingImages fs' c
      = (builder.existingImages fs c).filter fun image => fs'.isFile image.2 := by
    rw [← filter_configured, ← filter_configured, List.filter_filter]
    refine List.filter_congr fun image _ => ?_
    cases there : fs'.isFile image.2 with
    | false => rfl
    | true => rw [fewer _ there, Bool.and_true]
  rw [forall_mem_attached_iff builder fs c (fs'.isFile ·), ← List.filter_eq_self, ← kept]
  constructor
  · intro same
    rw [← map_image_attached, same, map_image_attached]
  · intro same
    rw [attached_eq, same, ← attached_eq]

/-- **None of the configured images is there.** -/
def NothingThere (builder : CommandBuilder) (fs : FileSystem) (c : Configuration) : Prop :=
  (∀ path, c.primaryDisk = some path → fs.isFile (Path.join builder.diskDirectory path) = false)
    ∧ (∀ path, c.secondaryDisk = some path →
        fs.isFile (Path.join builder.diskDirectory path) = false)
    ∧ ∀ path, c.cdrom = some path → fs.isFile (Path.join builder.isoDirectory path) = false

theorem attached_eq_nil_iff : builder.attached fs c = [] ↔ builder.NothingThere fs c := by
  rw [← List.map_eq_nil_iff (f := Drive.image), map_image_attached]
  simp [existingImages, FileSystem.existing_eq_nil_iff, NothingThere]

/-- **When there is a command, and what is in it.**  There is none exactly if no configured image
is there.  Otherwise its drives are the images that are there in their order, numbered by their
positions; its arguments name the same drives and the device that is booted; and that device is
one of a drive, the wanted one if there is a drive of that kind.  Numbering is good for any number
of images that thirty-two bits can count. -/
theorem build_outcomes (builder : CommandBuilder) (fs : FileSystem) (c : Configuration)
    (detected : Option Resolution) :
    (builder.build fs c detected = .error .noBootableDevice ↔ builder.NothingThere fs c)
      ∧ (¬builder.NothingThere fs c → ∃ command, builder.build fs c detected = .ok command
        ∧ command.drives.map Drive.image
          = (fs.existing builder.diskDirectory c.primaryDisk).map (BootDevice.disk, ·)
            ++ (fs.existing builder.diskDirectory c.secondaryDisk).map (BootDevice.disk, ·)
            ++ (fs.existing builder.isoDirectory c.cdrom).map (BootDevice.cdrom, ·)
        ∧ command.drives.map Drive.index = List.range command.drives.length
        ∧ valuesOf "-drive" command.arguments = command.drives.map Drive.spec
        ∧ valuesOf "-boot" command.arguments = [String.ofList [command.boot.code]]
        ∧ command.boot ∈ command.drives.map Drive.media
        ∧ (c.bootDevice ∈ command.drives.map Drive.media → command.boot = c.bootDevice))
      ∧ ∀ images : List (BootDevice × String), images.length < UInt32.size →
        (assignIndices images).map Drive.image = images
          ∧ (assignIndices images).map Drive.index = List.range images.length := by
  refine ⟨?_, fun there => ?_, fun images room =>
    ⟨map_numberFrom 0 images, map_index_assignIndices room⟩⟩
  · rw [build_eq, ← attached_eq_nil_iff]
    rcases effectiveBoot_cases c.bootDevice (builder.attached fs c) with
      ⟨none, failed⟩ | ⟨boot, booted, member, -⟩
    · rw [failed]
      simp [none, Except.map]
    · have some : builder.attached fs c ≠ [] := by
        intro none
        simp [none] at member
      simp [booted, some, Except.map]
  · obtain ⟨command, built, drives, arguments, member, preferred⟩ :=
      exists_build detected (attached_eq_nil_iff.not.mpr there)
    refine ⟨command, built, ?_, ?_, ?_, ?_, member, preferred⟩
    · rw [drives]
      exact map_image_attached builder fs c
    · rw [drives]
      exact map_index_attached builder fs c
    · rw [arguments, valuesOf_drive_arguments]
    · rw [arguments, valuesOf_boot_arguments]

/-- A builder with the disks in one directory and the discs in another. -/
def twoShelves : CommandBuilder := ⟨"emulator", "mac99", "monitor", "/disks", "/discs", "none"⟩

/-- A file system in which the first disk is missing. -/
def firstMissing : FileSystem :=
  ⟨[(["disks"], .directory), (["disks", "b"], .file []), (["discs"], .directory),
    (["discs", "i"], .file [])], [], []⟩

/-- The second disk moves up, and the disc is booted as it was wanted. -/
theorem build_outcomes_first_missing :
    ∃ command, twoShelves.build firstMissing
        { primaryDisk := some "a", secondaryDisk := some "b", cdrom := some "i" } none = .ok command
      ∧ command.drives.map Drive.image = [(.disk, "/disks/b"), (.cdrom, "/discs/i")]
      ∧ command.drives.map Drive.index = [0, 1]
      ∧ command.boot = .cdrom
      ∧ (assignIndices [(.cdrom, "x"), (.disk, "y")]).map Drive.index = [0, 1] := by
  obtain ⟨-, built, numbered⟩ := build_outcomes twoShelves firstMissing
    { primaryDisk := some "a", secondaryDisk := some "b", cdrom := some "i" } none
  have there : firstMissing.isFile (Path.join twoShelves.diskDirectory "b") = true := rfl
  obtain ⟨command, outcome, images, indices, -, -, -, preferred⟩ := built fun nothing => by
    rw [nothing.2.1 "b" rfl] at there
    cases there
  have drives : command.drives.map Drive.image = [(.disk, "/disks/b"), (.cdrom, "/discs/i")] :=
    images.trans rfl
  have count : command.drives.length = 2 := by
    simpa using congrArg List.length drives
  have media : command.drives.map Drive.media = [.disk, .cdrom] := by
    simpa [Function.comp_def, Drive.image] using congrArg (List.map Prod.fst) drives
  refine ⟨command, outcome, drives, ?_, ?_, (numbered _ (by decide)).2⟩
  · rw [indices, count]
    rfl
  · exact preferred (by rw [media]; decide)

end CommandBuilder

end GuestSupervisor
