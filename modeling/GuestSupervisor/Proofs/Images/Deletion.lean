import GuestSupervisor.Images.Library
import GuestSupervisor.Proofs.Command.Building
import GuestSupervisor.Proofs.Host.Removal

/-!
# Deleting a disk

A disk is not deleted while the configuration names it.  The library compares the text of the
name with the texts of the two configured disks, part by part; the builder resolves the texts of
all three configured images and looks at what is there.  So a deletion can take a drive away from
the next command: through the disc, through a path with `..` in it, or through a link.  This
module says exactly when.

## Main Definitions

* `Configuration.NamesDisk` — a disk that is configured.

## Main Statements

* `ImageLibrary.isConfigured_iff` — what the library takes for configured.
* `ImageLibrary.deleteDisk_cases` — what a deletion needs and what it does.
* `ImageLibrary.build_after_deleteDisk` — when the next command is the same.
* `ImageLibrary.build_ne_after_deleteDisk` — a disc that is deleted.
-/

namespace GuestSupervisor

/-- **A configuration names a disk**, as its first or as its second. -/
def Configuration.NamesDisk (c : Configuration) (disk : String) : Prop :=
  c.primaryDisk = some disk ∨ c.secondaryDisk = some disk

/-- Configurations that say the same name the same disks, perhaps in other texts. -/
theorem Configuration.NamesDisk.of_agrees {c c' : Configuration} {disk : String}
    (names : c.NamesDisk disk) (alike : c.agrees c') :
    ∃ disk', c'.NamesDisk disk' ∧ Path.same disk disk' := by
  have one : ∀ {path : Option String}, Configuration.samePath (some disk) path →
      ∃ disk', path = some disk' ∧ Path.same disk disk' := by
    intro path same
    cases path with
    | none => cases same
    | some disk' => exact ⟨disk', rfl, same⟩
  simp only [agrees, Bool.and_eq_true] at alike
  obtain ⟨⟨⟨-, first⟩, second⟩, -⟩ := alike
  rcases names with primary | secondary
  · obtain ⟨disk', names', same⟩ := one (primary ▸ first)
    exact ⟨disk', Or.inl names', same⟩
  · obtain ⟨disk', names', same⟩ := one (secondary ▸ second)
    exact ⟨disk', Or.inr names', same⟩

/-- A disk drive of a command is of a disk that the configuration names. -/
theorem CommandBuilder.exists_namesDisk_of_mem_attached {builder : CommandBuilder}
    {fs : FileSystem} {c : Configuration} {drive : Drive} (attached : drive ∈ builder.attached fs c)
    (disk : drive.media = .disk) :
    ∃ text, c.NamesDisk text ∧ drive.path = Path.join builder.diskDirectory text := by
  have image : drive.image ∈ builder.existingImages fs c := by
    rw [← builder.map_image_attached fs c]
    exact List.mem_map_of_mem attached
  have one : ∀ {path : Option String} {found : String},
      found ∈ fs.existing builder.diskDirectory path →
      ∃ text, path = some text ∧ found = Path.join builder.diskDirectory text := by
    intro path found member
    cases path <;> simp_all [FileSystem.existing, Option.filter]
  simp only [existingImages, Drive.image, disk, List.mem_append, List.mem_map, Prod.mk.injEq,
    true_and, exists_eq_right, reduceCtorEq, false_and, and_false, exists_false, or_false] at image
  rcases image with first | second
  · obtain ⟨text, names, same⟩ := one first
    exact ⟨text, Or.inl names, same⟩
  · obtain ⟨text, names, same⟩ := one second
    exact ⟨text, Or.inr names, same⟩

namespace ImageLibrary

variable {library : ImageLibrary} {builder : CommandBuilder} {name path : String}
  {c : Configuration} {fs after : FileSystem}

theorem existingDisk_eq_ok_iff :
    library.existingDisk name fs = .ok path ↔
      ImageName.isPlain name.toList ∧ path = Path.join library.diskDirectory name
        ∧ fs.isFile (Path.join library.diskDirectory name) := by
  unfold existingDisk ImageName.check
  by_cases plain : ImageName.isPlain name.toList = true
  · by_cases there : fs.isFile (Path.join library.diskDirectory name) = true
    · simp [plain, there, bind, Except.bind, eq_comm]
    · simp [there, plain, bind, Except.bind]
  · simp [plain, bind, Except.bind]

/-- **What counts as configured**: a path that is, part by part, the path of a configured disk. -/
theorem isConfigured_iff :
    library.isConfigured path c ↔
      ∃ disk, c.NamesDisk disk ∧ Path.same (Path.join library.diskDirectory disk) path := by
  simp [isConfigured, Configuration.NamesDisk, or_and_right, exists_or]

/-- **What a deletion needs and what it does.** -/
theorem deleteDisk_cases (deleted : library.deleteDisk name c fs = (.ok (), after)) :
    fs.isFile (Path.join library.diskDirectory name)
      ∧ ¬library.isConfigured (Path.join library.diskDirectory name) c
      ∧ ∃ place node, fs.resolve (Path.join library.diskDirectory name) false
          = .ok (place, some node) ∧ node ≠ .directory ∧ after = fs.drop place := by
  unfold deleteDisk at deleted
  cases existing : library.existingDisk name fs with
  | error e => simp [existing] at deleted
  | ok path =>
    obtain ⟨-, rfl, file⟩ := existingDisk_eq_ok_iff.mp existing
    simp only [existing] at deleted
    split at deleted
    · cases deleted
    · rename_i free
      refine ⟨file, free, ?_⟩
      cases removed : fs.removeFile (Path.join library.diskDirectory name) with
      | error e => simp [removed] at deleted
      | ok rest =>
        obtain rfl : rest = after := by simpa [removed] using deleted
        exact FileSystem.removeFile_cases removed

/-- **When a deletion leaves the next command alone**: exactly if no drive of the command is
reached through the entry that is removed.  The texts of the configured disks are not the name's,
whichever way their slashes and dots are written; nothing is said of their links, of `..` or of
the disc. -/
theorem build_after_deleteDisk (shared : builder.diskDirectory = library.diskDirectory)
    (deleted : library.deleteDisk name c fs = (.ok (), after)) (detected : Option Resolution) :
    ∃ place node, fs.resolve (Path.join builder.diskDirectory name) false = .ok (place, some node)
      ∧ node ≠ .directory ∧ after = fs.drop place
      ∧ (builder.build after c detected = builder.build fs c detected ↔
        ∀ drive ∈ builder.attached fs c, ¬fs.LeadsThrough drive.path place)
      ∧ ∀ disk, c.NamesDisk disk →
        ¬Path.same (Path.join builder.diskDirectory disk) (Path.join builder.diskDirectory name)
      := by
  obtain ⟨-, free, place, node, named, notDirectory, rfl⟩ := deleteDisk_cases deleted
  have found : fs.lookup place ≠ some .directory := by
    rw [FileSystem.lookup_of_follow (FileSystem.resolve_eq named fs true).1]
    simpa using notDirectory
  have lost := FileSystem.isFile_drop_iff found
  rw [shared]
  refine ⟨place, node, named, notDirectory, rfl, ?_, fun disk configured => ?_⟩
  · rw [CommandBuilder.build_eq_build_iff,
      CommandBuilder.attached_eq_attached_iff fun path there => ((lost path).mp there).1]
    refine forall₂_congr fun drive attached => ?_
    have there : fs.isFile drive.path := by
      refine (CommandBuilder.forall_mem_attached_iff builder fs c (fs.isFile ·)).mpr
        (fun image member => ?_) drive attached
      rw [← CommandBuilder.filter_configured] at member
      exact (List.mem_filter.mp member).2
    rw [lost, and_iff_right there]
  · rw [isConfigured_iff] at free
    exact fun same => free ⟨disk, configured, same⟩

/-- A library with the directories of `CommandBuilder.twoShelves`. -/
def twoShelves : ImageLibrary := ⟨"/disks", "/discs", "qemu-img"⟩

/-- A file system with one disk. -/
def oneDisk : FileSystem :=
  ⟨[(["disks"], .directory), (["disks", "d"], .file []), (["discs"], .directory)], [], []⟩

/-- The configured disk is deleted, for its text goes up and down again.  The path of the drive
leads through what was removed. -/
theorem build_after_deleteDisk_climbing :
    ∃ after, twoShelves.deleteDisk "d" { primaryDisk := some "../disks/d" } oneDisk
        = (.ok (), after)
      ∧ ∃ drive ∈ CommandBuilder.twoShelves.attached oneDisk { primaryDisk := some "../disks/d" },
        oneDisk.LeadsThrough drive.path ["disks", "d"] := by
  obtain ⟨after, deleted⟩ : ∃ after, twoShelves.deleteDisk "d"
      { primaryDisk := some "../disks/d" } oneDisk = (.ok (), after) := ⟨_, rfl⟩
  obtain ⟨place, node, named, -, rfl, same, -⟩ :=
    build_after_deleteDisk (show CommandBuilder.twoShelves.diskDirectory = _ from rfl) deleted none
  obtain rfl : ["disks", "d"] = place := by
    have resolved : oneDisk.resolve "/disks/d" false = .ok (["disks", "d"], some (.file [])) := rfl
    exact congrArg Prod.fst (Except.ok.inj (resolved.symm.trans named))
  refine ⟨_, deleted, ?_⟩
  by_contra avoided
  have unchanged := same.mpr fun drive attached leads => avoided ⟨drive, attached, leads⟩
  cases unchanged

/-- **A deletion can leave nothing to boot**: the disc that the configuration names by its whole
path is an entry of the directory of disks. -/
theorem build_ne_after_deleteDisk :
    ¬∀ (library : ImageLibrary) (builder : CommandBuilder) (name : String) (c : Configuration)
        (fs : FileSystem) (detected : Option Resolution),
      builder.diskDirectory = library.diskDirectory →
      builder.isoDirectory = library.isoDirectory →
      (library.deleteDisk name c fs).1 = .ok () →
      builder.build (library.deleteDisk name c fs).2 c detected = builder.build fs c detected := by
  intro harmless
  have same := harmless twoShelves .twoShelves "d"
    { primaryDisk := none, cdrom := some "/disks/d" } oneDisk none rfl rfl rfl
  have before : ∃ command, CommandBuilder.twoShelves.build oneDisk
      { primaryDisk := none, cdrom := some "/disks/d" } none = .ok command := ⟨_, rfl⟩
  have after : CommandBuilder.twoShelves.build
      (twoShelves.deleteDisk "d" { primaryDisk := none, cdrom := some "/disks/d" } oneDisk).2
      { primaryDisk := none, cdrom := some "/disks/d" } none = .error .noBootableDevice := rfl
  obtain ⟨command, built⟩ := before
  rw [after, built] at same
  cases same

end ImageLibrary

end GuestSupervisor
