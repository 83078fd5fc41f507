import GuestSupervisor.Proofs.Configuration.Store
import GuestSupervisor.Proofs.Host.Entries
import GuestSupervisor.Proofs.Images.Deletion

/-!
# The names of new disks

The name that a new disk is given is read by four parts of the program: the file of the
configuration takes it for the value of an assignment, the builder for a path and its ending for
a format, and the library for an entry of its directory.  All four understand the same by it.

## Main Definitions

* `ImageName.IsDiskName` — a name that a new disk can have.

## Main Statements

* `ImageName.isDiskName_of_sanitize` — every name that is given is one.
* `ImageName.IsDiskName.isPlain` — it stands in the file of a configuration as it is.
* `ImageName.IsDiskName.isName` — it names an entry.
* `ImageName.IsDiskName.format_eq` — it is that of a disk in the format of new disks.
* `ImageLibrary.sanitized_usable` — what a disk with such a name can be used for.
-/

namespace GuestSupervisor

open Text

namespace ImageName

variable {name : String} {c : Char}

/-- **A name that a new disk can have.** -/
structure IsDiskName (name : String) : Prop where
  allowed : ∀ c ∈ name.toList, isAllowed c
  visible : name.toList.head? ≠ some '.'
  ends : ending <:+ name.toList

theorem ending_suffix_withEnding (chars : List Char) : ending <:+ withEnding chars := by
  unfold withEnding
  split
  · exact List.isSuffixOf_iff_suffix.mp ‹_›
  · exact List.suffix_append _ _

/-- The ending has allowed characters only. -/
theorem isAllowed_of_mem_withEnding {chars : List Char} (allowed : ∀ c ∈ chars, isAllowed c)
    (member : c ∈ withEnding chars) : isAllowed c := by
  unfold withEnding at member
  split at member
  · exact allowed c member
  · rcases List.mem_append.mp member with inside | behind
    · exact allowed c inside
    · exact List.all_eq_true.mp (show ending.all isAllowed from by decide) c behind

/-- **Every name that is given to a new disk is one.** -/
theorem isDiskName_of_sanitize {given : String} (named : sanitize given = .ok name) :
    IsDiskName name := by
  unfold sanitize check at named
  simp only [bind, Except.bind] at named
  split at named
  · cases named
  · split at named
    · cases named
    · rename_i visible
      cases named
      refine ⟨fun c member => ?_, by rwa [String.toList_ofList], ?_⟩
      · rw [String.toList_ofList] at member
        exact isAllowed_of_mem_withEnding (fun c kept => (List.mem_filter.mp kept).2) member
      · rw [String.toList_ofList]
        exact ending_suffix_withEnding _

/-- No character of a name means anything to the readers of names. -/
theorem inert_of_isAllowed (allowed : isAllowed c) :
    isBlank c = false ∧ breaksLine c = false ∧ c ≠ '/' ∧ c ≠ '\\' ∧ c ≠ '\x00' := by
  have visible : 45 ≤ c.toNat ∧ c.toNat ≤ 122 := by
    delta isAllowed Char.isAlphanum Char.isAlpha Char.isUpper Char.isLower Char.isDigit at allowed
    simp only [Bool.or_eq_true, Bool.and_eq_true, decide_eq_true_eq, beq_iff_eq, ge_iff_le,
      UInt32.le_iff_toNat_le] at allowed
    rcases allowed with ((((⟨low, high⟩ | ⟨low, high⟩) | ⟨low, high⟩) | rfl) | rfl) | rfl
    · exact ⟨Nat.le_trans (by decide) low, Nat.le_trans high (by decide)⟩
    · exact ⟨Nat.le_trans (by decide) low, Nat.le_trans high (by decide)⟩
    · exact ⟨Nat.le_trans (by decide) low, Nat.le_trans high (by decide)⟩
    all_goals decide
  refine ⟨?_, ?_, ?_, ?_, ?_⟩
  · simp only [isBlank]
    simp
    omega
  · simp only [breaksLine, Bool.or_eq_false_iff, beq_eq_false_iff_ne]
    constructor <;> rintro rfl <;> revert allowed <;> decide
  all_goals
    rintro rfl
    revert allowed
    decide

namespace IsDiskName

/-- Something stands before the ending. -/
theorem exists_stem (isDisk : IsDiskName name) :
    ∃ stem, stem ≠ [] ∧ name.toList = stem ++ ending := by
  obtain ⟨stem, whole⟩ := isDisk.ends
  refine ⟨stem, ?_, whole.symm⟩
  rintro rfl
  exact isDisk.visible (by rw [← whole]; rfl)

/-- **It names an entry of a directory.** -/
theorem isName (isDisk : IsDiskName name) : Path.IsName name where
  piece :=
    { nonempty := by
        rintro rfl
        exact absurd isDisk.ends (by decide)
      noSlash := fun slash => (inert_of_isAllowed (isDisk.allowed _ slash)).2.2.1 rfl }
  noDot := by
    rintro rfl
    exact isDisk.visible rfl
  noDots := by
    rintro rfl
    exact isDisk.visible rfl

/-- The library takes it for a name. -/
theorem isPlain_toList (isDisk : IsDiskName name) : isPlain name.toList := by
  have inert : ∀ c ∈ name.toList, c ≠ '/' ∧ c ≠ '\\' ∧ c ≠ '\x00' := fun c member =>
    (inert_of_isAllowed (isDisk.allowed c member)).2.2
  have noDot : name.toList ≠ ['.'] := fun dot => isDisk.visible (by rw [dot]; rfl)
  have noDots : name.toList ≠ ['.', '.'] := fun dots => isDisk.visible (by rw [dots]; rfl)
  simpa [isPlain, noDot, noDots, isDisk.isName.toList_ne_nil, and_assoc] using inert

/-- **It stands in the file of a configuration as it is.** -/
theorem isPlain (isDisk : IsDiskName name) : Configuration.IsPlain (some name) where
  oneLine := by
    rintro text ⟨⟩
    exact (Configuration.hasLineBreak_eq_false_iff name).mpr fun c member =>
      (inert_of_isAllowed (isDisk.allowed c member)).2.1
  neat := by
    rintro text ⟨⟩
    exact ⟨isDisk.isName.piece.nonempty, isTrimmed_of_forall fun c member =>
      (inert_of_isAllowed (isDisk.allowed c member)).1⟩

/-- **Its ending is that of the format of new disks.** -/
theorem nameExtension?_eq (isDisk : IsDiskName name) :
    Path.nameExtension? name = some "qcow2" := by
  obtain ⟨stem, visible, whole⟩ := isDisk.exists_stem
  have cut : name = String.ofList (stem ++ '.' :: "qcow2".toList) := by
    rw [← String.toList_inj, whole, String.toList_ofList]
    rfl
  rw [cut, Path.nameExtension?_append visible (by decide)]
  rfl

/-- **A disk with such a name is attached in the format of new disks.** -/
theorem format_eq (isDisk : IsDiskName name) {drive : Drive} {directory : String}
    (path : drive.path = Path.join directory name) : drive.format = "qcow2" := by
  have extension : Path.hasExtension drive.path "qcow2" := by
    rw [path, Path.hasExtension, Path.extension?, Path.fileName?_join directory isDisk.isName,
      Option.bind_some, isDisk.nameExtension?_eq]
    decide
  rw [Drive.format, if_pos extension]

end IsDiskName

end ImageName

/-! ## In the configuration -/

namespace Configuration

variable {c : Configuration} {name : String} {fs fs' : FileSystem} {store : ConfigurationStore}

/-- A plain value of a disk is assigned as it is. -/
theorem set_disk (c : Configuration) (plain : IsPlain (some name)) :
    c.set Key.primaryDisk.name name = .ok { c with primaryDisk := some name }
      ∧ c.set Key.secondaryDisk.name name = .ok { c with secondaryDisk := some name } := by
  have read : readPath name = some name := by
    simp [readPath, (plain.neat name rfl).1]
  simp [set, plain.oneLine name rfl, assign?, read]

/-- A plain value of a disk keeps a configuration normal. -/
theorem IsNormal.disk (normal : c.IsNormal) (plain : IsPlain (some name)) :
    { c with primaryDisk := some name }.IsNormal
      ∧ { c with secondaryDisk := some name }.IsNormal := by
  rw [isNormal_iff] at normal
  simp [isNormal_iff, normal, plain]

/-- **What is loaded after an update**, if the store can rely on its path. -/
theorem load_of_update (usable : store.Usable fs) (updated : store.update c fs = (.ok (), fs')) :
    store.load fs' = Loaded.ofString c.render := by
  unfold ConfigurationStore.update at updated
  split at updated
  · cases updated
  · exact ConfigurationStore.load_of_readBytes (ConfigurationStore.readBytes_of_save usable updated)

end Configuration

/-! ## In the library -/

namespace ImageLibrary

variable {library : ImageLibrary} {builder : CommandBuilder} {name given directory : String}
  {extensions : List String} {c : Configuration} {fs : FileSystem} {host : Host}
  {content : List UInt8} {place : Location}

/-- The disks that are described are those that were found. -/
theorem map_describeAll (library : ImageLibrary) (files : List FoundFile) (host : Host) :
    (library.describeAll files host).1.map (fun disk => (disk.name, disk.path))
      = files.map fun file => (file.name, Path.join library.diskDirectory file.name) := by
  induction files generalizing host with
  | nil => rfl
  | cons file files ih =>
    have one : (library.describe file host).1.name = file.name
        ∧ (library.describe file host).1.path = Path.join library.diskDirectory file.name := by
      unfold describe
      simp only
      split <;> exact ⟨rfl, rfl⟩
    simp only [describeAll, List.map_cons, ih, one]

/-- **A regular file under a directory is found there**, if it has one of the extensions. -/
theorem exists_found (exists_directory : fs.isDirectory directory) (isName : Path.IsName name)
    (named : fs.resolve (Path.join directory name) false = .ok (place, some (.file content)))
    (wanted : hasOneOf extensions name) :
    ∃ files, scan fs directory extensions = .ok files ∧ ∃ file ∈ files, file.name = name := by
  obtain ⟨entries, listed, member⟩ :=
    FileSystem.listDirectory_of_join exists_directory isName named
  refine ⟨select extensions entries, by rw [scan, listed], ?_⟩
  refine ⟨⟨name, UInt64.ofNat content.length⟩, ?_, rfl⟩
  exact List.mem_mergeSort.mpr (List.mem_filterMap.mpr ⟨_, member, if_pos wanted⟩)

/-- **A disk under its own name is listed.** -/
theorem exists_listed (exists_directory : host.files.isDirectory library.diskDirectory)
    (isDisk : ImageName.IsDiskName name)
    (named : host.files.resolve (Path.join library.diskDirectory name) false
      = .ok (place, some (.file content))) :
    ∃ disks after, library.listDisks host = (.ok disks, after)
      ∧ ∃ disk ∈ disks, disk.name = name ∧ disk.path = Path.join library.diskDirectory name := by
  have wanted : hasOneOf diskExtensions name := by
    simp only [hasOneOf, isDisk.nameExtension?_eq, Option.any_some]
    decide
  obtain ⟨files, found, file, member, rfl⟩ := exists_found exists_directory isDisk.isName named wanted
  refine ⟨_, _, by rw [listDisks, found], ?_⟩
  have described := List.mem_map_of_mem
    (f := fun file => (file.name, Path.join library.diskDirectory file.name)) member
  rw [← map_describeAll library files host] at described
  obtain ⟨disk, listed, same⟩ := List.mem_map.mp described
  exact ⟨disk, listed, congrArg Prod.fst same, congrArg Prod.snd same⟩

/-- **A disk that the configuration names is not deleted.** -/
theorem deleteDisk_of_namesDisk (configured : c.NamesDisk name)
    (plain : ImageName.isPlain name.toList)
    (there : fs.isFile (Path.join library.diskDirectory name)) :
    library.deleteDisk name c fs = (.error (.inUse name), fs) := by
  have existing : library.existingDisk name fs = .ok (Path.join library.diskDirectory name) :=
    existingDisk_eq_ok_iff.mpr ⟨plain, rfl, there⟩
  have inUse : library.isConfigured (Path.join library.diskDirectory name) c :=
    isConfigured_iff.mpr ⟨name, configured, beq_self_eq_true _⟩
  simp only [deleteDisk, existing, if_pos inUse]

/-- **What a disk can be used for under the name that it was given.**  Assigning the name to a
disk of a configuration gives a configuration with that value; what is read from the file of the
configuration, and so what a store loads after it was updated, still has it, and is the same
altogether if it was in normal form.  With a regular file of
that name in the directory, every configuration that names the disk has a command with exactly
that drive in its place, in the format of new disks; the disk is listed by its name; and it is not
deleted. -/
theorem sanitized_usable (named : ImageName.sanitize given = .ok name) :
    (∀ c : Configuration,
      c.set Key.primaryDisk.name name = .ok { c with primaryDisk := some name }
        ∧ c.set Key.secondaryDisk.name name = .ok { c with secondaryDisk := some name }
        ∧ (c.IsNormal → { c with primaryDisk := some name }.IsNormal
          ∧ { c with secondaryDisk := some name }.IsNormal))
      ∧ (∀ c : Configuration, c.IsValid →
        ∃ loaded, Configuration.Loaded.ofString c.render = ⟨loaded, []⟩
          ∧ (c.primaryDisk = some name → loaded.primaryDisk = some name)
          ∧ (c.secondaryDisk = some name → loaded.secondaryDisk = some name)
          ∧ (c.IsNormal → loaded = c)
          ∧ ∀ (store : ConfigurationStore) (fs fs' : FileSystem), store.Usable fs →
            store.update c fs = (.ok (), fs') → store.load fs' = ⟨loaded, []⟩)
      ∧ ∀ (library : ImageLibrary) (builder : CommandBuilder) (c : Configuration) (host : Host)
          (place : Location) (content : List UInt8),
        builder.diskDirectory = library.diskDirectory → c.NamesDisk name →
        host.files.isDirectory library.diskDirectory →
        host.files.resolve (Path.join library.diskDirectory name) false
          = .ok (place, some (.file content)) →
        (∀ detected, ∃ command, builder.build host.files c detected = .ok command
          ∧ command.drives.map Drive.image
            = (host.files.existing builder.diskDirectory c.primaryDisk).map (BootDevice.disk, ·)
              ++ (host.files.existing builder.diskDirectory c.secondaryDisk).map
                (BootDevice.disk, ·)
              ++ (host.files.existing builder.isoDirectory c.cdrom).map (BootDevice.cdrom, ·)
          ∧ host.files.existing builder.diskDirectory (some name)
            = [Path.join library.diskDirectory name]
          ∧ valuesOf "-drive" command.arguments = command.drives.map Drive.spec
          ∧ ∀ drive ∈ command.drives, drive.path = Path.join library.diskDirectory name →
            drive.format = "qcow2")
        ∧ (∃ disks after, library.listDisks host = (.ok disks, after)
          ∧ ∃ disk ∈ disks, disk.name = name
            ∧ disk.path = Path.join library.diskDirectory name)
        ∧ library.deleteDisk name c host.files = (.error (.inUse name), host.files) := by
  have isDisk := ImageName.isDiskName_of_sanitize named
  refine ⟨fun c => ?_, fun c valid => ?_,
    fun library builder c host place content shared configured directory entry => ?_⟩
  · obtain ⟨primary, secondary⟩ := c.set_disk isDisk.isPlain
    exact ⟨primary, secondary, fun normal => normal.disk isDisk.isPlain⟩
  · have kept : Configuration.trimPath (some name) = some name :=
      Configuration.trimPath_of_isNeat isDisk.isPlain.neat
    have read := Configuration.Loaded.ofString_render valid
    refine ⟨c.trimmed, read, ?_, ?_, ?_, fun store fs fs' usable updated =>
      (Configuration.load_of_update usable updated).trans read⟩
    · intro primary
      simp only [Configuration.trimmed, primary, kept]
    · intro secondary
      simp only [Configuration.trimmed, secondary, kept]
    · intro normal
      exact (Configuration.trimmed_eq_self_iff c).mpr normal.neat
  · have there := FileSystem.isFile_of_resolve entry
    have existing : host.files.existing builder.diskDirectory (some name)
        = [Path.join library.diskDirectory name] := by
      simp [FileSystem.existing, shared, there]
    refine ⟨fun detected => ?_, exists_listed directory isDisk entry,
      deleteDisk_of_namesDisk configured isDisk.isPlain_toList there⟩
    have some : builder.attached host.files c ≠ [] := by
      intro none
      have images := builder.map_image_attached host.files c
      rw [none, CommandBuilder.existingImages] at images
      rcases configured with primary | secondary
      · simp [primary, existing] at images
      · simp [secondary, existing] at images
    obtain ⟨command, built, drives, arguments, -, -⟩ := CommandBuilder.exists_build detected some
    refine ⟨command, built, ?_, existing, ?_, fun drive _ path => isDisk.format_eq path⟩
    · rw [drives]
      exact builder.map_image_attached host.files c
    · rw [arguments, CommandBuilder.valuesOf_drive_arguments]

/-- A host with one disk under a name that was given to it. -/
def namedDisk : Host :=
  { (default : Host) with
    files := ⟨[(["disks"], .directory), (["disks", "mydisk.qcow2"], .file [])], [], []⟩ }

/-- Of a name with a blank and a mark in it something is left, and the disk can be used by it. -/
theorem sanitized_usable_marked :
    ImageName.sanitize "my disk!" = .ok "mydisk.qcow2"
      ∧ (∃ fs', Configuration.rootStore.update { primaryDisk := some "mydisk.qcow2" } .noFiles
            = (.ok (), fs')
          ∧ Configuration.rootStore.load fs' = ⟨{ primaryDisk := some "mydisk.qcow2" }, []⟩)
      ∧ (∃ command, CommandBuilder.twoShelves.build namedDisk.files
            { primaryDisk := some "mydisk.qcow2" } none = .ok command
          ∧ command.drives.map Drive.image = [(.disk, "/disks/mydisk.qcow2")]
          ∧ ∀ drive ∈ command.drives, drive.path = "/disks/mydisk.qcow2" → drive.format = "qcow2")
      ∧ (∃ disks after, twoShelves.listDisks namedDisk = (.ok disks, after)
          ∧ ∃ disk ∈ disks, disk.name = "mydisk.qcow2" ∧ disk.path = "/disks/mydisk.qcow2")
      ∧ twoShelves.deleteDisk "mydisk.qcow2" { primaryDisk := some "mydisk.qcow2" } namedDisk.files
        = (.error (.inUse "mydisk.qcow2"), namedDisk.files) := by
  have named : ImageName.sanitize "my disk!" = .ok "mydisk.qcow2" := rfl
  obtain ⟨assigned, stored, used⟩ := sanitized_usable named
  obtain ⟨-, -, normal⟩ := assigned {}
  have normal := (normal Configuration.isNormal_default).1
  obtain ⟨loaded, -, -, -, same, reloaded⟩ := stored _ normal.valid
  obtain ⟨fs', updated⟩ : ∃ fs', Configuration.rootStore.update
      { primaryDisk := some "mydisk.qcow2" } .noFiles = (.ok (), fs') := ⟨_, rfl⟩
  obtain ⟨built, listed, kept⟩ := used twoShelves .twoShelves
    { primaryDisk := some "mydisk.qcow2" } namedDisk ["disks", "mydisk.qcow2"] [] rfl (Or.inl rfl)
    rfl rfl
  obtain ⟨command, outcome, images, -, -, formats⟩ := built none
  refine ⟨named, ⟨fs', updated, ?_⟩, ⟨command, outcome, images.trans rfl, formats⟩, listed, kept⟩
  rw [reloaded _ _ _ (ConfigurationStore.usable_noFiles _) updated, same normal]

end ImageLibrary

end GuestSupervisor
