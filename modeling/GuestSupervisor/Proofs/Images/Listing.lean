import GuestSupervisor.Proofs.Host.Entries
import GuestSupervisor.Proofs.Host.Listing
import GuestSupervisor.Proofs.Images.Deletion
import GuestSupervisor.Proofs.Text.ByteOrder

/-!
# What the image library lists

A directory is read in whatever order its entries come, and shown in the order of the names.  Shown
are the regular files with certain endings whose names are text, each of them once, and nothing else;
what is said of each of them depends on the file alone, but for the disks that the tool knows more
of.

## Main Definitions

* `Path.EndsIn` — a name has an ending.
* `ImageLibrary.Answers` — what the tool says about the size of a disk.
* `ImageLibrary.DescribesDisk`, `ImageLibrary.DescribesDisc` — what is said of an image.
* `ImageLibrary.inquiries` — how the tool is asked.

## Main Statements

* `ImageLibrary.hasOneOf_iff` — what counts as an ending.
* `ImageLibrary.mem_select_iff`, `ImageLibrary.ascending_select` — what is found, and its order.
* `ImageLibrary.inquiries_of_hasTool` — with the tool, each disk is asked about in one command line.
* `ImageLibrary.listings_spec` — what is listed.
-/

namespace GuestSupervisor

open Text

/-! ## Endings -/

namespace Path

variable {name extension : String}

/-- **A name has an ending**: behind its last dot, which is not its first character, it has these
letters, large or small. -/
def EndsIn (name extension : String) : Prop :=
  ∃ stem letters, name.toList = stem ++ '.' :: letters ∧ stem ≠ [] ∧ '.' ∉ letters
    ∧ letters.map Char.toLower = extension.toList.map Char.toLower

theorem nameExtension?_eq_some_iff :
    nameExtension? name = some extension ↔
      ∃ stem, stem ≠ [] ∧ name.toList = stem ++ '.' :: extension.toList
        ∧ '.' ∉ extension.toList := by
  constructor
  · intro found
    unfold nameExtension? at found
    simp only at found
    have whole : name.toList.reverse.takeWhile (· != '.') ++ name.toList.reverse.dropWhile (· != '.')
        = name.toList.reverse := List.takeWhile_append_dropWhile
    split at found
    · rename_i dot last front cut
      obtain rfl : dot = '.' := by
        have stopped := List.head?_dropWhile_not (· != '.') name.toList.reverse
        simpa [cut] using stopped
      obtain rfl := Option.some.inj found
      have noDot : '.' ∉ (name.toList.reverse.takeWhile (· != '.')).reverse := by
        rw [List.mem_reverse]
        exact fun dot => by simpa using List.mem_takeWhile_imp dot
      rw [cut] at whole
      rw [String.toList_ofList]
      refine ⟨(last :: front).reverse, by simp, ?_, noDot⟩
      have turned := congrArg List.reverse whole
      rw [List.reverse_reverse] at turned
      exact turned.symm.trans (by simp)
    · cases found
  · rintro ⟨stem, visible, whole, noDot⟩
    rw [← String.ofList_toList (s := name), whole, nameExtension?_append visible noDot,
      String.ofList_toList]

end Path

namespace ImageLibrary

open GuestSupervisor.Path

variable {library : ImageLibrary} {host other : Host} {fs fs' : FileSystem} {name path : String}
  {extensions : List String} {entries : List (OsPath × Node)} {file : FoundFile}
  {there : Location}

/-- **What counts as an ending.** -/
theorem hasOneOf_iff :
    hasOneOf extensions name ↔ ∃ extension ∈ extensions, EndsIn name extension := by
  unfold hasOneOf
  rw [Option.any_eq_true]
  simp only [List.any_eq_true, equalsIgnoringCase, asciiLower, beq_iff_eq]
  constructor
  · rintro ⟨letters, found, extension, wanted, same⟩
    obtain ⟨stem, visible, whole, noDot⟩ := nameExtension?_eq_some_iff.mp found
    exact ⟨extension, wanted, stem, _, whole, visible, noDot, same⟩
  · rintro ⟨extension, wanted, stem, letters, whole, visible, noDot, same⟩
    refine ⟨String.ofList letters, nameExtension?_eq_some_iff.mpr ⟨stem, visible, ?_, ?_⟩,
      extension, wanted, ?_⟩ <;> rwa [String.toList_ofList]

theorem hasOneOf_singleton {extension : String} :
    hasOneOf [extension] name ↔ EndsIn name extension := by
  rw [hasOneOf_iff]
  simp only [List.mem_singleton, exists_eq_left]

instance (name extension : String) : Decidable (EndsIn name extension) :=
  decidable_of_iff _ hasOneOf_singleton

/-! ## What is found -/

theorem found?_eq_some_iff {entry : OsPath × Node} :
    found? extensions entry = some file ↔
      ∃ content, entry = (.text file.name, .file content)
        ∧ (∃ extension ∈ extensions, EndsIn file.name extension)
        ∧ file.size = UInt64.ofNat content.length := by
  obtain ⟨name, size⟩ := file
  rw [← hasOneOf_iff]
  unfold found?
  split
  · rename_i name' content
    rw [Option.ite_none_right_eq_some, Option.some.injEq, FoundFile.mk.injEq]
    constructor
    · rintro ⟨wanted, rfl, rfl⟩
      exact ⟨content, rfl, wanted, rfl⟩
    · rintro ⟨content', same, wanted, rfl⟩
      cases same
      exact ⟨wanted, rfl, rfl⟩
  · rename_i other
    exact iff_of_false (by simp) fun ⟨content, same, _⟩ => other name content same

/-- **What is found**: the regular files with one of the endings whose names are text, with their
sizes. -/
theorem mem_select_iff :
    file ∈ select extensions entries ↔
      ∃ content, (.text file.name, .file content) ∈ entries
        ∧ (∃ extension ∈ extensions, EndsIn file.name extension)
        ∧ file.size = UInt64.ofNat content.length := by
  unfold select
  simp only [List.mem_mergeSort, List.mem_filterMap, found?_eq_some_iff]
  constructor
  · rintro ⟨_, member, content, rfl, wanted, size⟩
    exact ⟨content, member, wanted, size⟩
  · rintro ⟨content, member, wanted, size⟩
    exact ⟨_, member, content, rfl, wanted, size⟩

/-- **What is found is in the order of the names**, and no name comes twice. -/
theorem ascending_select (distinct : (entries.map Prod.fst).Nodup) :
    (select extensions entries).Pairwise fun a b => a.name < b.name := by
  have apart : (select extensions entries).Pairwise fun a b => a.name ≠ b.name := by
    unfold select
    rw [(List.mergeSort_perm _ _).pairwise_iff fun different => different.symm,
      List.pairwise_filterMap]
    refine (List.pairwise_map.mp distinct).imp fun different file found file' found' same => ?_
    obtain ⟨content, rfl, -⟩ := found?_eq_some_iff.mp found
    obtain ⟨content', rfl, -⟩ := found?_eq_some_iff.mp found'
    exact different (congrArg OsPath.text same)
  have sorted : (select extensions entries).Pairwise fun a b => a.name ≤ b.name :=
    (@List.pairwise_mergeSort FoundFile (fun a b => decide (a.name ≤ b.name))
      (by simpa using fun a b c : FoundFile => String.le_trans)
      (by simpa using fun a b : FoundFile => String.le_total _ _) _).imp of_decide_eq_true
  exact (sorted.and apart).imp fun ⟨before, different⟩ => lt_of_le_of_ne before different

/-! ## Directories -/

/-- The files of a directory are found in it. -/
theorem scan_of_directory {directory : String}
    (led : fs.resolve directory true = .ok (there, some .directory)) (extensions : List String) :
    scan fs directory extensions = .ok (select extensions (fs.allChildren there)) := by
  rw [scan, FileSystem.listDirectory_of_directory led]

/-- **Nothing is found in a directory that is missing.** -/
theorem scan_of_misses {directory : String} (missing : fs.Misses directory)
    (extensions : List String) : scan fs directory extensions = .ok [] := by
  rw [scan, FileSystem.listDirectory_of_misses missing]
  rfl

/-- **A file system shows a file**: a regular file in a directory, with one of the endings. -/
structure Shows (fs : FileSystem) (there : Location) (extensions : List String) (name : String)
    (size : UInt64) : Prop where
  file : ∃ content, fs.lookup (there ++ [name]) = some (.file content)
    ∧ size = UInt64.ofNat content.length
  ending : ∃ extension ∈ extensions, EndsIn name extension

/-- **A name that is no text makes no difference** to what is found in a directory. -/
theorem select_allChildren (extensions : List String) (fs : FileSystem) (there : Location) :
    select extensions (fs.allChildren there)
      = select extensions ((fs.children there).map (Prod.map .text id)) := by
  have all : fs.allChildren there = (fs.children there).map (Prod.map .text id)
      ++ (fs.strayChildren there).map (Prod.map .undecodable id) := rfl
  have none : ((fs.strayChildren there).map (Prod.map .undecodable id)).filterMap
      (found? extensions) = [] := by
    rw [List.filterMap_map, List.filterMap_eq_nil_iff]
    exact fun stray _ => rfl
  rw [select, all, List.filterMap_append, none, List.append_nil, select]

/-- What is found in a directory is in the order of the names, and no name comes twice. -/
theorem ascending_children (distinct : fs.Distinct) (extensions : List String)
    (there : Location) :
    (select extensions (fs.allChildren there)).Pairwise fun a b => a.name < b.name := by
  rw [select_allChildren]
  refine ascending_select ?_
  have names := (distinct.nodup_children there).map
    (show Function.Injective OsPath.text from fun _ _ => OsPath.text.inj)
  rw [List.map_map] at names ⊢
  exact names

/-- **What is found in a directory** is what is there. -/
theorem mem_select_children_iff (distinct : fs.Distinct) :
    file ∈ select extensions (fs.allChildren there)
      ↔ Shows fs there extensions file.name file.size := by
  rw [mem_select_iff]
  simp only [FileSystem.mem_allChildren_text_iff, distinct.mem_children_iff]
  constructor
  · rintro ⟨content, found, ending, size⟩
    exact ⟨⟨content, found, size⟩, ending⟩
  · rintro ⟨⟨content, found, size⟩, ending⟩
    exact ⟨content, found, ending, size⟩

/-- **What is found depends on what is where**, and not on the order of the entries. -/
theorem select_of_mirrors (distinct : fs.Distinct) (distinct' : fs'.Distinct)
    (mirrors : fs.Mirrors fs') (extensions : List String) (there : Location) :
    select extensions (fs'.allChildren there) = select extensions (fs.allChildren there) := by
  have ascending := ascending_children distinct extensions there
  have ascending' := ascending_children distinct' extensions there
  have nodup : ∀ {files : List FoundFile}, (files.Pairwise fun a b => a.name < b.name) →
      files.Nodup := fun sorted => sorted.imp fun before =>
        ne_of_apply_ne FoundFile.name (ne_of_lt before)
  refine List.Perm.eq_of_pairwise (fun a b _ _ before after =>
    absurd (before.trans after) (lt_irrefl _)) ascending' ascending ?_
  rw [List.perm_ext_iff_of_nodup (nodup ascending') (nodup ascending)]
  intro file
  rw [mem_select_children_iff distinct', mem_select_children_iff distinct]
  constructor <;> rintro ⟨⟨content, found, size⟩, ending⟩
  · exact ⟨⟨content, mirrors.lookup _ ▸ found, size⟩, ending⟩
  · exact ⟨⟨content, (mirrors.lookup _).trans found, size⟩, ending⟩

theorem scan_of_mirrors (distinct : fs.Distinct) (distinct' : fs'.Distinct)
    (mirrors : fs.Mirrors fs') (directory : String) (extensions : List String) :
    scan fs' directory extensions = scan fs directory extensions := by
  unfold scan FileSystem.listDirectory
  rw [mirrors.resolve]
  cases fs.resolve directory true with
  | error failure => rfl
  | ok found =>
    obtain ⟨place, node⟩ := found
    cases node with
    | none => rfl
    | some node =>
      cases node with
      | directory => exact congrArg Except.ok (select_of_mirrors distinct distinct' mirrors _ place)
      | _ => rfl

/-! ## What is said of a disk -/

attribute [ext] DiskImage

/-- **What the tool answers**: asked about a disk it succeeds, with an object in which this is the
number of the virtual size. -/
def Answers (library : ImageLibrary) (host : Host) (path : String) (size : UInt64) : Prop :=
  ∃ completed text members,
    (host.run library.imageTool ["info", "--output=json", path] []).1 = .ok completed
      ∧ completed.code = 0 ∧ Utf8.decode? completed.output = some text
      ∧ Json.read? text = some (.object members)
      ∧ (members.reverse.find? (·.1 == "virtual-size")).map Prod.snd
        = some (.integer size.toNat)

theorem asUnsigned?_eq_some_iff {value : Json} {size : UInt64} :
    value.asUnsigned? = some size ↔ value = .integer size.toNat := by
  unfold Json.asUnsigned?
  split
  · rename_i n
    rw [Option.ite_none_right_eq_some, Option.some.injEq, Json.integer.injEq]
    constructor
    · rintro ⟨small, rfl⟩
      rw [UInt64.toNat_ofNat_of_lt' small]
      rfl
    · intro same
      obtain rfl : n = size.toNat := Int.ofNat.inj same
      exact ⟨size.toNat_lt, UInt64.ofNat_toNat⟩
  · rename_i other
    refine iff_of_false (by simp) ?_
    rintro rfl
    exact other size.toNat rfl

theorem virtualSizeIn?_eq_some_iff {answer : List UInt8} {size : UInt64} :
    virtualSizeIn? answer = some size ↔
      ∃ text members, Utf8.decode? answer = some text ∧ Json.read? text = some (.object members)
        ∧ (members.reverse.find? (·.1 == "virtual-size")).map Prod.snd
          = some (.integer size.toNat) := by
  unfold virtualSizeIn?
  simp only [Option.bind_eq_bind, Option.bind_eq_some_iff, asUnsigned?_eq_some_iff]
  constructor
  · rintro ⟨text, decoded, info, read, value, found, rfl⟩
    cases info with
    | object members => exact ⟨text, members, decoded, read, found⟩
    | _ => cases found
  · rintro ⟨text, members, decoded, read, found⟩
    exact ⟨text, decoded, _, read, _, found, rfl⟩

/-- **What is said of the size of a disk that the tool is asked about.** -/
theorem askVirtualSize_eq_some_iff {size : UInt64} :
    (library.askVirtualSize path host).1 = some size ↔ library.Answers host path size := by
  unfold askVirtualSize Answers
  split
  · rename_i completed after ran
    rw [ran]
    by_cases success : completed.success
    · have code : completed.code = 0 := by simpa [Completed.success] using success
      simp only [if_pos success, virtualSizeIn?_eq_some_iff, Except.ok.injEq, exists_and_left,
        exists_eq_left', code, true_and]
    · have code : completed.code ≠ 0 := by simpa [Completed.success] using success
      simp [success, code]
  · rename_i failure after ran
    rw [ran]
    simp

/-- What is said of any file. -/
theorem describe_file (library : ImageLibrary) (file : FoundFile) (host : Host) :
    (library.describe file host).1.name = file.name
      ∧ (library.describe file host).1.path = join library.diskDirectory file.name
      ∧ (library.describe file host).1.actualSize = file.size := by
  unfold describe
  simp only
  split <;> exact ⟨rfl, rfl, rfl⟩

theorem askVirtualSize_snd (library : ImageLibrary) (path : String) (host : Host) :
    (library.askVirtualSize path host).2
      = (host.run library.imageTool ["info", "--output=json", path] []).2 := by
  unfold askVirtualSize
  split <;> rename_i ran <;> rw [ran]

/-- What is said of a disk depends on what is where, and on the tool. -/
theorem describe_fst_of_mirrors (mirrors : host.Mirrors other) (file : FoundFile) :
    (library.describe file other).1 = (library.describe file host).1 := by
  have asked : (library.askVirtualSize (join library.diskDirectory file.name) other).1
      = (library.askVirtualSize (join library.diskDirectory file.name) host).1 :=
    Option.ext fun size => by
      rw [askVirtualSize_eq_some_iff, askVirtualSize_eq_some_iff, Answers, Answers,
        mirrors.run_fst]
  unfold describe
  split
  · exact congrArg (DiskImage.mk _ _ _) asked
  · rfl

/-- **How the tool is asked**: about each disk in the format of new disks, in order and once, by a
command line that names the disk. -/
def inquiries (library : ImageLibrary) (host : Host) (disks : List DiskImage) :
    List (List String) :=
  (disks.filter fun disk => EndsIn disk.name "qcow2").flatMap fun disk =>
    host.recorded library.imageTool ["info", "--output=json", disk.path]

/-- With a tool that is installed, each of these disks has one command line. -/
theorem inquiries_of_hasTool {disks : List DiskImage} (installed : host.HasTool library.imageTool)
    (clean : ∀ disk ∈ disks, '\x00' ∉ disk.path.toList) :
    library.inquiries host disks
      = (disks.filter fun disk => EndsIn disk.name "qcow2").map fun disk =>
          [library.imageTool, "info", "--output=json", disk.path] := by
  have words : ∀ word ∈ ["info", "--output=json"], '\x00' ∉ word.toList := by decide
  unfold inquiries
  rw [← List.flatMap_singleton' (l := (disks.filter _).map _), List.flatMap_map]
  refine List.flatMap_congr fun disk member => ?_
  refine Host.recorded_of_hasTool installed fun argument inside => ?_
  rcases List.mem_append.mp (show argument ∈ ["info", "--output=json"] ++ [disk.path] from inside)
    with word | path
  · exact words argument word
  · obtain rfl := List.mem_singleton.mp path
    exact clean disk (List.mem_of_mem_filter member)

theorem inquiries_cons (library : ImageLibrary) (host : Host) (disk : DiskImage)
    (disks : List DiskImage) :
    library.inquiries host (disk :: disks)
      = library.inquiries host [disk] ++ library.inquiries host disks := by
  unfold inquiries
  rw [← List.flatMap_append, ← List.filter_append, List.singleton_append]

/-- What is recorded when a file is described. -/
theorem describe_snd (library : ImageLibrary) (file : FoundFile) (host : Host) :
    (library.describe file host).2 = { host with
      toolRuns := (library.inquiries host [(library.describe file host).1]).reverse
        ++ host.toolRuns } := by
  obtain ⟨name, path, -⟩ := library.describe_file file host
  by_cases ends : EndsIn file.name "qcow2"
  · rw [inquiries, List.filter_cons_of_pos (by simpa [name] using ends), List.filter_nil,
      List.flatMap_singleton, Host.reverse_recorded, path, describe,
      if_pos (hasOneOf_singleton.mpr ends)]
    exact (library.askVirtualSize_snd _ host).trans (host.run_snd _ _ _)
  · rw [inquiries, List.filter_cons_of_neg (by simpa [name] using ends), List.filter_nil,
      describe, if_neg (mt hasOneOf_singleton.mp ends)]
    rfl

theorem mirrors_describe (library : ImageLibrary) (file : FoundFile) (host : Host) :
    host.Mirrors (library.describe file host).2 := by
  rw [describe_snd]
  exact ⟨.refl _, rfl, rfl⟩

/-- **Disks are described one by one**: what was asked about one makes no difference to another. -/
theorem describeAll_fst (mirrors : host.Mirrors other) (files : List FoundFile) :
    (library.describeAll files other).1 = files.map fun file => (library.describe file host).1 := by
  induction files generalizing other with
  | nil => rfl
  | cons file files ih =>
    simp only [describeAll, List.map_cons, describe_fst_of_mirrors mirrors,
      ih (mirrors.trans (library.mirrors_describe file other))]

/-- **Each disk is asked about once.** -/
theorem describeAll_snd (mirrors : host.Mirrors other) (files : List FoundFile) :
    (library.describeAll files other).2 = { other with
      toolRuns := (library.inquiries host (library.describeAll files other).1).reverse
        ++ other.toolRuns } := by
  induction files generalizing other with
  | nil => rfl
  | cons file files ih =>
    have next := mirrors.trans (library.mirrors_describe file other)
    have alike : library.inquiries other [(library.describe file other).1]
        = library.inquiries host [(library.describe file other).1] := by
      simp only [inquiries, mirrors.recorded]
    rw [describeAll, inquiries_cons, ih next, describe_snd]
    simp only [alike, List.reverse_append, List.append_assoc]

/-- **A disk is described**: it is shown under its name, its path is that of the directory and the
name, and its virtual size is what the tool answers if it is in the format of new disks, and the
size of the file if not. -/
structure DescribesDisk (library : ImageLibrary) (host : Host) (there : Location)
    (disk : DiskImage) : Prop where
  shown : Shows host.files there ["qcow2", "img", "raw"] disk.name disk.actualSize
  path : disk.path = join library.diskDirectory disk.name
  virtual : ∀ size, disk.virtualSize = some size ↔
    EndsIn disk.name "qcow2" ∧ library.Answers host disk.path size
      ∨ ¬EndsIn disk.name "qcow2" ∧ size = disk.actualSize

/-- **A disc is described**: it is shown under its name, and its path is that of the directory and
the name. -/
structure DescribesDisc (library : ImageLibrary) (host : Host) (there : Location)
    (disc : IsoImage) : Prop where
  shown : Shows host.files there ["iso"] disc.name disc.size
  path : disc.path = join library.isoDirectory disc.name

/-- What is said of the virtual size. -/
theorem virtualSize_describe {size : UInt64} :
    (library.describe file host).1.virtualSize = some size ↔
      EndsIn file.name "qcow2" ∧ library.Answers host (join library.diskDirectory file.name) size
        ∨ ¬EndsIn file.name "qcow2" ∧ size = file.size := by
  unfold describe
  by_cases ends : EndsIn file.name "qcow2"
  · simp only [if_pos (hasOneOf_singleton.mpr ends), ends, askVirtualSize_eq_some_iff, true_and,
      not_true, false_and, or_false]
  · simp only [if_neg (mt hasOneOf_singleton.mp ends), ends, Option.some.injEq, false_and,
      not_false_eq_true, true_and, false_or]
    exact eq_comm

/-- **A file that is shown is described once**, and in one way. -/
theorem describesDisk_iff {disk : DiskImage} :
    library.DescribesDisk host there disk ↔
      ∃ file, Shows host.files there diskExtensions file.name file.size
        ∧ (library.describe file host).1 = disk := by
  constructor
  · rintro ⟨shown, path, virtual⟩
    obtain ⟨name, place, size⟩ := library.describe_file ⟨disk.name, disk.actualSize⟩ host
    have same : (library.describe ⟨disk.name, disk.actualSize⟩ host).1.virtualSize
        = disk.virtualSize := Option.ext fun size => by
      rw [virtualSize_describe, virtual, path]
    exact ⟨⟨disk.name, disk.actualSize⟩, shown,
      DiskImage.ext name (place.trans path.symm) size same⟩
  · rintro ⟨file, shown, rfl⟩
    obtain ⟨name, path, size⟩ := library.describe_file file host
    refine ⟨?_, by rw [path, name], fun size' => ?_⟩
    · rw [name, size]
      exact shown
    · rw [name, path, size, virtualSize_describe]

/-- A size that is shown is that of the file, as far as a size goes. -/
theorem Shows.size_eq {size : UInt64} (shown : Shows fs there extensions name size)
    {content : List UInt8} (found : fs.lookup (there ++ [name]) = some (.file content))
    (small : content.length < 2 ^ 64) : size.toNat = content.length := by
  obtain ⟨⟨content', found', rfl⟩, -⟩ := shown
  obtain rfl : content' = content := by simpa using found'.symm.trans found
  exact UInt64.toNat_ofNat_of_lt' small

/-! ## What is listed -/

/-- **The disks of a directory.** -/
theorem listDisks_of_directory (distinct : host.files.Distinct)
    (led : host.files.resolve library.diskDirectory true = .ok (there, some .directory)) :
    ∃ disks, library.listDisks host
        = (.ok disks, { host with
            toolRuns := (library.inquiries host disks).reverse ++ host.toolRuns })
      ∧ (disks.Pairwise fun a b => Utf8.encode a.name.toList < Utf8.encode b.name.toList)
      ∧ ∀ disk, disk ∈ disks ↔ library.DescribesDisk host there disk := by
  have found := scan_of_directory led diskExtensions
  have described := library.describeAll_fst (.refl host)
    (select diskExtensions (host.files.allChildren there))
  have noted := library.describeAll_snd (.refl host)
    (select diskExtensions (host.files.allChildren there))
  refine ⟨_, by rw [listDisks, found]; exact Prod.ext rfl noted, ?_, fun disk => ?_⟩
  · rw [described, List.pairwise_map]
    refine (ascending_children distinct _ there).imp fun {a b} before => ?_
    rw [(library.describe_file a host).1, (library.describe_file b host).1]
    exact Utf8.encode_lt_iff.mpr before
  · rw [described, describesDisk_iff, List.mem_map]
    simp only [mem_select_children_iff distinct]

/-- **The discs of a directory.** -/
theorem listIsos_of_directory (distinct : host.files.Distinct)
    (led : host.files.resolve library.isoDirectory true = .ok (there, some .directory)) :
    ∃ discs, library.listIsos host = .ok discs
      ∧ (discs.Pairwise fun a b => Utf8.encode a.name.toList < Utf8.encode b.name.toList)
      ∧ ∀ disc, disc ∈ discs ↔ library.DescribesDisc host there disc := by
  have found := scan_of_directory led isoExtensions
  refine ⟨_, by rw [listIsos, found]; rfl, ?_, fun disc => ?_⟩
  · rw [List.pairwise_map]
    exact (ascending_children distinct _ there).imp Utf8.encode_lt_iff.mpr
  · rw [List.mem_map]
    simp only [mem_select_children_iff distinct]
    constructor
    · rintro ⟨file, shown, rfl⟩
      exact ⟨shown, rfl⟩
    · rintro ⟨shown, path⟩
      exact ⟨⟨disc.name, disc.size⟩, shown, by rw [← path]⟩

/-- What is listed depends on what is where, and on the tool. -/
theorem list_of_mirrors (distinct : host.files.Distinct) (distinct' : other.files.Distinct)
    (mirrors : host.Mirrors other) :
    (library.listDisks other).1 = (library.listDisks host).1
      ∧ library.listIsos other = library.listIsos host := by
  have same := scan_of_mirrors distinct distinct' mirrors.files
  constructor
  · unfold listDisks
    rw [same]
    cases scan host.files library.diskDirectory diskExtensions with
    | error e => rfl
    | ok files =>
      exact congrArg Except.ok ((describeAll_fst mirrors files).trans
        (describeAll_fst (.refl host) files).symm)
  · rw [listIsos, listIsos, same]

/-- **What is listed.**  In a directory that is there, exactly the regular files with one of the
endings whose names are text are listed, each of them once, in the order of the bytes of their names,
and with their sizes.  The tool is asked about each disk in the format of new disks, and nothing else
is done to the host.  A directory that is missing has none.  The order in which the entries are read
makes no difference. -/
theorem listings_spec (library : ImageLibrary) (distinct : host.files.Distinct) :
    (∀ there, host.files.resolve library.diskDirectory true = .ok (there, some .directory) →
      ∃ disks after, library.listDisks host = (.ok disks, after)
        ∧ after = { host with toolRuns := after.toolRuns }
        ∧ after.calls = host.calls ++ library.inquiries host disks
        ∧ (disks.Pairwise fun a b => Utf8.encode a.name.toList < Utf8.encode b.name.toList)
        ∧ (∀ disk, disk ∈ disks ↔ library.DescribesDisk host there disk)
        ∧ ∀ disk ∈ disks, ∀ content, host.files.lookup (there ++ [disk.name])
            = some (.file content) → content.length < 2 ^ 64 →
          disk.actualSize.toNat = content.length)
      ∧ (host.files.Misses library.diskDirectory → library.listDisks host = (.ok [], host))
      ∧ (∀ there, host.files.resolve library.isoDirectory true = .ok (there, some .directory) →
        ∃ discs, library.listIsos host = .ok discs
          ∧ (discs.Pairwise fun a b => Utf8.encode a.name.toList < Utf8.encode b.name.toList)
          ∧ (∀ disc, disc ∈ discs ↔ library.DescribesDisc host there disc)
          ∧ ∀ disc ∈ discs, ∀ content, host.files.lookup (there ++ [disc.name])
              = some (.file content) → content.length < 2 ^ 64 →
            disc.size.toNat = content.length)
      ∧ (host.files.Misses library.isoDirectory → library.listIsos host = .ok [])
      ∧ ∀ other : Host, other.files.entries.Perm host.files.entries →
        other.files.strays.Perm host.files.strays →
        other.files.workingDirectory = host.files.workingDirectory → other.tools = host.tools →
        other.programs = host.programs →
        (library.listDisks other).1 = (library.listDisks host).1
          ∧ library.listIsos other = library.listIsos host := by
  refine ⟨fun there led => ?_, fun missing => ?_, fun there led => ?_, fun missing => ?_,
    fun other entries strays workingDirectory tools programs => ?_⟩
  · obtain ⟨disks, listed, ascending, members⟩ := listDisks_of_directory distinct led
    refine ⟨disks, _, listed, rfl, ?_, ascending, members, fun disk member content =>
      ((members disk).mp member).shown.size_eq⟩
    simp [Host.calls]
  · rw [listDisks, scan_of_misses missing]
    rfl
  · obtain ⟨discs, listed, ascending, members⟩ := listIsos_of_directory distinct led
    exact ⟨discs, listed, ascending, members, fun disc member content =>
      ((members disc).mp member).shown.size_eq⟩
  · rw [listIsos, scan_of_misses missing]
    rfl
  · obtain ⟨distinct', mirrors⟩ :=
      FileSystem.mirrors_of_perm distinct entries strays workingDirectory
    exact list_of_mirrors distinct distinct' ⟨mirrors, tools, programs⟩

/-- A name that is no text, with the ending of a disk. -/
def strayName : Undecodable := ⟨255 :: Utf8.encode ".img".toList, by decide +kernel⟩

/-- A tool that knows of one disk more than of the others. -/
def knowing : Program :=
  .tool fun _ arguments _ =>
    ⟨0, Utf8.encode (if arguments = ["info", "--output=json", "/disks/a.qcow2"]
      then "\x7b\"virtual-size\":7\x7d" else "\x7b\"virtual-size\":9\x7d").toList, []⟩

/-- A host with disks in several formats, a hidden file, a link and a name that is no text. -/
def mixedShelf : Host :=
  { (default : Host) with
    files :=
      ⟨[(["disks"], .directory), (["disks", "b.IMG"], .file [1, 2]), (["disks", ".raw"], .file []),
        (["disks", "d.qcow2"], .file []), (["disks", "a.qcow2"], .file [3]),
        (["disks", "c.raw"], .link "b.IMG")], [], [((["disks"], strayName), .file [1])]⟩
    tools := [("qemu-img", knowing)] }

/-- The tool is asked about two of three disks, about each by its path; the hidden file and the link
are none. -/
theorem listings_spec_mixedShelf :
    mixedShelf.files.Distinct ∧ ∃ disks after, twoShelves.listDisks mixedShelf = (.ok disks, after)
      ∧ after.calls = twoShelves.inquiries mixedShelf disks
      ∧ ⟨"a.qcow2", "/disks/a.qcow2", 1, some 7⟩ ∈ disks
      ∧ ⟨"b.IMG", "/disks/b.IMG", 2, some 2⟩ ∈ disks
      ∧ ⟨"d.qcow2", "/disks/d.qcow2", 0, some 9⟩ ∈ disks
      ∧ ∀ disk ∈ disks, disk.name ≠ ".raw" ∧ disk.name ≠ "c.raw" := by
  have distinct : mixedShelf.files.Distinct := by decide
  obtain ⟨disks, after, listed, -, calls, -, members, -⟩ :=
    (listings_spec twoShelves distinct).1 ["disks"] rfl
  have asked : (twoShelves.askVirtualSize "/disks/a.qcow2" mixedShelf).1 = some 7
      ∧ (twoShelves.askVirtualSize "/disks/d.qcow2" mixedShelf).1 = some 9 := by
    decide +kernel
  have ends : EndsIn "a.qcow2" "qcow2" ∧ EndsIn "d.qcow2" "qcow2" ∧ ¬EndsIn "b.IMG" "qcow2" := by
    decide
  refine ⟨distinct, disks, after, listed, calls,
    (members _).mpr ⟨⟨⟨[3], rfl, rfl⟩, by decide⟩, rfl, fun size => ?_⟩,
    (members _).mpr ⟨⟨⟨[1, 2], rfl, rfl⟩, by decide⟩, rfl, fun size => ?_⟩,
    (members _).mpr ⟨⟨⟨[], rfl, rfl⟩, by decide⟩, rfl, fun size => ?_⟩,
    fun disk member => ⟨?_, ?_⟩⟩
  · rw [← askVirtualSize_eq_some_iff, asked.1]
    simp [ends]
  · simp [ends, eq_comm]
  · rw [← askVirtualSize_eq_some_iff, asked.2]
    simp [ends]
  · rintro hidden
    have unfit : ¬∃ extension ∈ ["qcow2", "img", "raw"], EndsIn ".raw" extension := by decide
    exact unfit (hidden ▸ ((members disk).mp member).shown.ending)
  · rintro link
    obtain ⟨content, found, -⟩ := ((members disk).mp member).shown.file
    rw [link] at found
    cases found

/-- An answer with a number that is too large for a reader. -/
def hugeAnswer : List UInt8 := Utf8.encode "\x7b\"virtual-size\":7,\"x\":1e999\x7d".toList

/-- A host with a disk whose name is no text, and another of which the tool tells too much. -/
def strayShelf : Host :=
  { (default : Host) with
    files := ⟨[(["disks"], .directory), (["disks", "a.qcow2"], .file [3])], [],
      [((["disks"], strayName), .file [1])]⟩
    tools := [("qemu-img", .printing hugeAnswer [] 0 false)] }

/-- **Not every regular file with the ending of a disk is listed, nor is every virtual size in an
answer taken**: a name that is no text is passed over, and so is an answer that holds a number too
large for a reader. -/
theorem stray_unlisted :
    (OsPath.undecodable strayName, .file [1]) ∈ strayShelf.files.allChildren ["disks"]
      ∧ strayName.val = 255 :: Utf8.encode ".img".toList
      ∧ ((strayShelf.run "qemu-img" ["info", "--output=json", "/disks/a.qcow2"] []).1.map fun c =>
          (c.code, c.output)) = .ok (0, hugeAnswer)
      ∧ (twoShelves.listDisks strayShelf).1 = .ok [⟨"a.qcow2", "/disks/a.qcow2", 1, none⟩] := by
  have found : select diskExtensions (strayShelf.files.allChildren ["disks"])
      = [⟨"a.qcow2", 1⟩] := List.mergeSort_singleton _
  have described : (twoShelves.describe ⟨"a.qcow2", 1⟩ strayShelf).1
      = ⟨"a.qcow2", "/disks/a.qcow2", 1, none⟩ := by
    decide +kernel
  have led : strayShelf.files.resolve twoShelves.diskDirectory true
      = .ok (["disks"], some .directory) := rfl
  refine ⟨by decide, rfl, rfl, ?_⟩
  rw [listDisks, scan_of_directory led, found]
  simp only [describeAll, described]

end ImageLibrary

end GuestSupervisor
