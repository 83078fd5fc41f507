import GuestSupervisor.Proofs.Host.Making
import GuestSupervisor.Proofs.Host.Tools
import GuestSupervisor.Proofs.Images.Sanitizing

/-!
# What requests to the image library do

A request brings a name, and perhaps a size, that anybody may have written.  Both are looked at
before anything is done: what is made, resized or deleted is an entry of the directory of disks,
and the tool is given nothing that it could take for something else.

## Main Definitions

* `Capacity.IsSize` — how a size is written.
* `ImageName.IsPlainName` — a name that leads nowhere else.
* `ImageLibrary.Creatable`, `ImageLibrary.Resizable` — the requests that the tool is run for.
* `ImageLibrary.RunsFor` — the tool is run at most once, and only with what is wanted.
* `FileSystem.Houses` — where a directory of the library is.

## Main Statements

* `Capacity.check_eq_ok_iff` — what passes for a size.
* `ImageLibrary.createDisk_of_creatable`, `createDisk_of_not_creatable` — making a disk.
* `ImageLibrary.resizeDisk_of_resizable`, `resizeDisk_of_not_resizable` — resizing a disk.
* `ImageLibrary.deleteDisk_spec` — deleting a disk.
* `ImageLibrary.requests_contained` — nothing outside of the directory is touched.
-/

namespace GuestSupervisor

open Text

/-! ## Sizes -/

namespace Capacity

variable {changes : Bool} {text : List Char} {size : String}

/-- **An amount**: one or more digits of ASCII, with at most one unit behind them. -/
def IsAmount (text : List Char) : Prop :=
  ∃ digits unit, text = digits ++ unit ∧ digits ≠ [] ∧ (∀ c ∈ digits, '0' ≤ c ∧ c ≤ '9')
    ∧ (unit = [] ∨ ∃ letter ∈ ['K', 'M', 'G', 'T'], unit = [letter])

/-- **A size**: an amount, and one sign may stand before it where a change is asked for. -/
def IsSize (changes : Bool) (text : List Char) : Prop :=
  IsAmount text
    ∨ changes ∧ ∃ sign rest, (sign = '+' ∨ sign = '-') ∧ text = sign :: rest ∧ IsAmount rest

theorem isDigit_iff {c : Char} : c.isDigit ↔ '0' ≤ c ∧ c ≤ '9' := by
  simp only [Char.isDigit, Bool.and_eq_true, decide_eq_true_eq, ge_iff_le, Char.le_def]

/-- A unit is no digit. -/
theorem not_mem_units_of_digit {c : Char} (digit : '0' ≤ c ∧ c ≤ '9') : c ∉ units := by
  intro isUnit
  simp only [units, List.mem_cons, List.not_mem_nil, or_false] at isUnit
  rcases isUnit with rfl | rfl | rfl | rfl <;> exact absurd digit.2 (by decide)

theorem dropUnit_concat {letter : Char} (isUnit : letter ∈ units) (text : List Char) :
    dropUnit (text ++ [letter]) = text := by
  have last : (text ++ [letter]).getLast?.any (units.contains ·) := by simpa using isUnit
  rw [dropUnit, if_pos last, List.dropLast_concat]

/-- A text that ends in a digit has no unit to lose. -/
theorem dropUnit_of_digits (isDigits : ∀ c ∈ text, '0' ≤ c ∧ c ≤ '9') : dropUnit text = text := by
  refine if_neg fun ends => ?_
  obtain ⟨letter, last, isUnit⟩ := (Option.any_eq_true _ _).mp ends
  exact not_mem_units_of_digit (isDigits letter (List.mem_of_getLast? last))
    (List.contains_iff_mem.mp isUnit)

/-- A text has a unit to lose, or it is left alone. -/
theorem dropUnit_cases (text : List Char) :
    (∃ letter ∈ units, text = dropUnit text ++ [letter]) ∨ dropUnit text = text := by
  by_cases ends : text.getLast?.any (units.contains ·)
  · obtain ⟨letter, last, isUnit⟩ := (Option.any_eq_true _ _).mp ends
    obtain ⟨front, rfl⟩ := List.getLast?_eq_some_iff.mp last
    have isUnit := List.contains_iff_mem.mp isUnit
    exact Or.inl ⟨letter, isUnit, by rw [dropUnit_concat isUnit]⟩
  · exact Or.inr (if_neg ends)

theorem isAmount_iff : isAmount text ↔ IsAmount text := by
  simp only [isAmount, Bool.and_eq_true, Bool.not_eq_true', List.isEmpty_eq_false_iff,
    List.all_eq_true, isDigit_iff]
  constructor
  · rintro ⟨some, isDigits⟩
    rcases dropUnit_cases text with ⟨letter, isUnit, cut⟩ | same
    · exact ⟨dropUnit text, [letter], cut, some, isDigits, Or.inr ⟨letter, isUnit, rfl⟩⟩
    · rw [same] at some isDigits
      exact ⟨text, [], (List.append_nil text).symm, some, isDigits, Or.inl rfl⟩
  · rintro ⟨digits, unit, rfl, some, isDigits, rfl | ⟨letter, isUnit, rfl⟩⟩
    · rw [List.append_nil, dropUnit_of_digits isDigits]
      exact ⟨some, isDigits⟩
    · rw [dropUnit_concat isUnit]
      exact ⟨some, isDigits⟩

/-- An amount does not begin with a sign. -/
theorem not_isAmount_of_sign {sign : Char} {rest : List Char} (isSign : sign = '+' ∨ sign = '-') :
    ¬IsAmount (sign :: rest) := by
  rintro ⟨digits, unit, cut, some, isDigits, -⟩
  obtain ⟨first, others, rfl⟩ := List.exists_cons_of_ne_nil some
  obtain rfl : sign = first := (List.cons.inj cut).1
  have digit := (isDigits sign List.mem_cons_self).1
  rcases isSign with rfl | rfl <;> exact absurd digit (by decide)

theorem isValid_iff : isValid changes text ↔ IsSize changes text := by
  have signed : ∀ {sign : Char} {rest : List Char}, (sign = '+' ∨ sign = '-') →
      ((changes && isAmount rest) = true ↔ IsSize changes (sign :: rest)) := by
    intro sign rest isSign
    rw [Bool.and_eq_true, isAmount_iff]
    refine ⟨fun ⟨allowed, amount⟩ => Or.inr ⟨allowed, sign, rest, isSign, rfl, amount⟩, ?_⟩
    rintro (amount | ⟨allowed, _, _, -, cut, amount⟩)
    · exact absurd amount (not_isAmount_of_sign isSign)
    · exact ⟨allowed, (List.cons.inj cut).2 ▸ amount⟩
  unfold isValid
  split
  · exact signed (Or.inl rfl)
  · exact signed (Or.inr rfl)
  · rename_i noPlus noMinus
    rw [isAmount_iff]
    refine ⟨Or.inl, ?_⟩
    rintro (amount | ⟨-, sign, rest, rfl | rfl, rfl, -⟩)
    · exact amount
    · exact absurd rfl (noPlus rest)
    · exact absurd rfl (noMinus rest)

/-- **What passes for a size.** -/
theorem check_eq_ok_iff : check changes size = .ok () ↔ IsSize changes size.toList := by
  rw [check, ← isValid_iff]
  split <;> simp_all

theorem check_eq_error (other : ¬IsSize changes size.toList) :
    check changes size = .error (.invalidSize size) := by
  rw [check, if_neg (mt isValid_iff.mp other)]

/-- Nothing in a size ends a text early. -/
theorem IsSize.noZero (sized : IsSize changes text) : '\x00' ∉ text := by
  have amount : ∀ {text}, IsAmount text → '\x00' ∉ text := by
    rintro text ⟨digits, unit, rfl, -, isDigits, noUnit⟩ zero
    rcases List.mem_append.mp zero with inside | behind
    · exact absurd (isDigits _ inside).1 (by decide)
    · rcases noUnit with rfl | ⟨letter, isUnit, rfl⟩
      · cases behind
      · obtain rfl := List.mem_singleton.mp behind
        exact absurd isUnit (by decide)
  rcases sized with plain | ⟨-, sign, rest, isSign, rfl, behind⟩
  · exact amount plain
  · rw [List.mem_cons, not_or]
    refine ⟨?_, amount behind⟩
    rcases isSign with rfl | rfl <;> decide

end Capacity

/-! ## Names -/

namespace ImageName

variable {name : String}

/-- **A plain name**: not empty, neither a dot nor two, and without slashes of either kind or zero
characters. -/
structure IsPlainName (name : String) : Prop where
  nonempty : name ≠ ""
  noDot : name ≠ "."
  noDots : name ≠ ".."
  noSlash : '/' ∉ name.toList
  noBackslash : '\\' ∉ name.toList
  noZero : '\x00' ∉ name.toList

theorem isPlain_iff : isPlain name.toList ↔ IsPlainName name := by
  have texts : name.toList = ['.'] ↔ name = "." := by rw [← String.toList_inj]; rfl
  have texts' : name.toList = ['.', '.'] ↔ name = ".." := by rw [← String.toList_inj]; rfl
  simp only [isPlain, Bool.and_eq_true, Bool.not_eq_true', List.isEmpty_eq_false_iff, bne_iff_ne,
    List.all_eq_true, ne_eq, texts, texts', String.toList_eq_nil_iff]
  constructor
  · rintro ⟨⟨⟨some, noDot⟩, noDots⟩, inert⟩
    exact ⟨some, noDot, noDots, fun slash => (inert _ slash).1.1 rfl,
      fun slash => (inert _ slash).1.2 rfl, fun zero => (inert _ zero).2 rfl⟩
  · rintro ⟨some, noDot, noDots, noSlash, noBackslash, noZero⟩
    refine ⟨⟨⟨some, noDot⟩, noDots⟩, fun c member => ⟨⟨?_, ?_⟩, ?_⟩⟩ <;> rintro rfl <;> contradiction

theorem IsPlainName.isName (plain : IsPlainName name) : Path.IsName name where
  piece := ⟨plain.nonempty, plain.noSlash⟩
  noDot := plain.noDot
  noDots := plain.noDots

end ImageName

/-! ## Places -/

namespace FileSystem

open GuestSupervisor.Path

variable {fs : FileSystem} {base name : String} {place : Location} {node : Node}

/-- **Where a directory is.**  Without a name it is the one in which relative paths start. -/
def Houses (fs : FileSystem) (directory : String) (there : Location) : Prop :=
  directory = "" ∧ there = fs.workingDirectory
    ∨ fs.resolve directory true = .ok (there, some .directory)

/-- **A name under a directory names an entry of that directory.** -/
theorem exists_houses_of_join (isName : IsName name)
    (resolved : fs.resolve (join base name) false = .ok (place, some node)) :
    ∃ there, fs.Houses base there ∧ place = there ++ [name] := by
  by_cases empty : base = ""
  · subst empty
    obtain ⟨reached, -⟩ := resolve_eq resolved fs true
    rw [steps_join "" isName, show join "" name = name by simp [join, isName.isAbsolute],
      origin, isName.isAbsolute] at reached
    have directory : fs.lookup fs.workingDirectory = some .directory := by
      by_contra elsewhere
      obtain ⟨error, stuck⟩ := turn_of_ne elsewhere name
      have walk := fs.descend_cons false fs.workingDirectory name []
      rw [stuck] at walk
      rw [show pieces "" ++ [name] = [name] from rfl] at reached
      simp only [Bool.false_eq_true, if_false] at reached
      rw [follow_of_failed walk] at reached
      cases reached
    exact ⟨_, Or.inl ⟨rfl, rfl⟩, follow_name isName directory reached⟩
  · obtain ⟨there, led, rfl, -⟩ :=
      resolve_directory_of_join (isDirectory_of_join empty isName resolved) isName resolved
    exact ⟨there, Or.inr led, rfl⟩

/-- A path that leads to a directory that could be made has no zero character. -/
theorem noZero_of_makeDirectories (made : (fs.makeDirectories base).1 = .ok ()) :
    '\x00' ∉ base.toList := by
  intro zero
  rw [makeDirectories, if_pos (List.contains_iff_mem.mpr zero)] at made
  cases made

theorem noZero_of_isFile {path : String} (file : fs.isFile path) : '\x00' ∉ path.toList := by
  intro zero
  obtain ⟨place, content, resolved⟩ := isFile_iff.mp file
  rw [resolve, if_pos (List.contains_iff_mem.mpr zero)] at resolved
  cases resolved

end FileSystem

/-! ## What the library does -/

namespace ImageLibrary

open GuestSupervisor.Path

variable {library : ImageLibrary} {given size name : String} {c : Configuration}
  {host after : Host} {arguments : List String}

/-- **A disk can be made**: the name that was asked for gives a name, the size is one, nothing is
there under that name, and the directory is there or can be made. -/
structure Creatable (library : ImageLibrary) (fs : FileSystem) (given size name : String) : Prop where
  named : ImageName.sanitize given = .ok name
  sized : Capacity.IsSize false size.toList
  free : ¬fs.pathExists (join library.diskDirectory name)
  housed : fs.isDirectory library.diskDirectory
    ∨ (fs.makeDirectories library.diskDirectory).1 = .ok ()

/-- **A disk can be resized**: the name is plain, there is a file under it, and the size is one,
perhaps with a sign. -/
structure Resizable (library : ImageLibrary) (fs : FileSystem) (given size : String) : Prop where
  plain : ImageName.IsPlainName given
  there : fs.isFile (join library.diskDirectory given)
  sized : Capacity.IsSize true size.toList

/-- **The tool is run for nothing else**: at most once, and if it is installed, exactly with the
arguments that are wanted. -/
def RunsFor (library : ImageLibrary) (host after : Host) (wanted : List String → Prop) : Prop :=
  ∃ runs, after.calls = host.calls ++ runs ∧ runs.length ≤ 1
    ∧ ∀ run, run ∈ runs ↔ host.HasTool library.imageTool
        ∧ ∃ arguments, wanted arguments ∧ run = library.imageTool :: arguments

/-- The arguments that make a disk. -/
def creation (library : ImageLibrary) (name size : String) : List String :=
  ["create", "-f", "qcow2", join library.diskDirectory name, size]

/-- The arguments that resize a disk. -/
def resizing (library : ImageLibrary) (name size : String) : List String :=
  ["resize", join library.diskDirectory name, size]

/-- The host when the directory of disks was looked after. -/
def housing (library : ImageLibrary) (host : Host) : Host :=
  { host with files := (host.files.makeDirectories library.diskDirectory).2 }

/-! ### Runs -/

theorem runTool_snd (library : ImageLibrary) (arguments : List String) (host : Host) :
    (library.runTool arguments host).2 = (host.run library.imageTool arguments []).2 := by
  unfold runTool
  split
  · rename_i ran
    rw [ran]
  · rename_i ran
    rw [ran]
    split <;> rfl

/-- Without a run, nothing was wanted. -/
theorem runsFor_of_calls {wanted : List String → Prop} (same : after.calls = host.calls)
    (none : ∀ arguments, ¬wanted arguments) : library.RunsFor host after wanted :=
  ⟨[], by simpa using same, by simp, fun run => iff_of_false List.not_mem_nil
    fun ⟨_, arguments, wants, _⟩ => none arguments wants⟩

/-- **One run with clean arguments is a run for them.** -/
theorem runsFor_runTool {wanted : List String → Prop} {ready : Host}
    (tools : ready.tools = host.tools) (calls : ready.calls = host.calls)
    (clean : ∀ argument ∈ arguments, '\x00' ∉ argument.toList)
    (only : ∀ others, wanted others ↔ others = arguments) :
    library.RunsFor host (library.runTool arguments ready).2 wanted := by
  have ran := ready.calls_run library.imageTool arguments []
  rw [← runTool_snd, calls] at ran
  have tool : ready.HasTool library.imageTool ↔ host.HasTool library.imageTool :=
    Host.hasTool_iff_of_tools tools
  by_cases installed : ready.HasTool library.imageTool
  · rw [Host.recorded_of_hasTool installed clean] at ran
    exact ⟨_, ran, le_rfl, fun run => by simp [tool.mp installed, only]⟩
  · rw [Host.recorded_of_not_hasTool installed] at ran
    exact ⟨_, ran, by simp, fun run => by simp [mt tool.mpr installed]⟩

/-- With the tool and with one wish there is one run. -/
theorem RunsFor.calls_eq {wanted : List String → Prop} (runs : library.RunsFor host after wanted)
    (tool : host.HasTool library.imageTool) (wants : wanted arguments) :
    after.calls = host.calls ++ [library.imageTool :: arguments] := by
  obtain ⟨ran, calls, once, members⟩ := runs
  have member := (members _).mpr ⟨tool, arguments, wants, rfl⟩
  have one : ran.length = 1 := le_antisymm once (List.length_pos_of_mem member)
  obtain ⟨run, rfl⟩ := List.length_eq_one_iff.mp one
  rw [calls, List.mem_singleton.mp member]

namespace Creatable

variable {fs : FileSystem}

theorem made (creatable : library.Creatable fs given size name) :
    (fs.makeDirectories library.diskDirectory).1 = .ok () :=
  creatable.housed.elim
    (fun there => by rw [FileSystem.makeDirectories_of_isDirectory there]) id

theorem isDiskName (creatable : library.Creatable fs given size name) :
    ImageName.IsDiskName name :=
  ImageName.isDiskName_of_sanitize creatable.named

/-- There is one name for a disk at most. -/
theorem unique (creatable : library.Creatable fs given size name) {other : String}
    (creatable' : library.Creatable fs given size other) : other = name :=
  Except.ok.inj (creatable'.named.symm.trans creatable.named)

/-- Nothing in the arguments ends one of them early. -/
theorem clean (creatable : library.Creatable fs given size name) :
    ∀ argument ∈ library.creation name size, '\x00' ∉ argument.toList := by
  have path : '\x00' ∉ (join library.diskDirectory name).toList :=
    noZero_join creatable.isDiskName.isName
      (FileSystem.noZero_of_makeDirectories creatable.made) fun zero =>
        (ImageName.inert_of_isAllowed (creatable.isDiskName.allowed _ zero)).2.2.2.2 rfl
  have amount := creatable.sized.noZero
  have words : ∀ word ∈ ["create", "-f", "qcow2"], '\x00' ∉ word.toList := by decide
  intro argument member
  rcases List.mem_append.mp (show argument ∈ ["create", "-f", "qcow2"]
    ++ [join library.diskDirectory name, size] from member) with word | checked
  · exact words argument word
  · rcases List.mem_pair.mp checked with rfl | rfl <;> assumption

end Creatable

/-- Nothing in the arguments ends one of them early. -/
theorem Resizable.clean {fs : FileSystem} (resizable : library.Resizable fs given size) :
    ∀ argument ∈ library.resizing given size, '\x00' ∉ argument.toList := by
  have path := FileSystem.noZero_of_isFile resizable.there
  have amount := resizable.sized.noZero
  have word : '\x00' ∉ "resize".toList := by decide
  intro argument member
  rcases List.mem_cons.mp member with rfl | checked
  · exact word
  · rcases List.mem_pair.mp checked with rfl | rfl <;> assumption

/-! ### Making a disk -/

/-- **A disk that can be made is made by one run** in the directory that is there then. -/
theorem createDisk_of_creatable (creatable : library.Creatable host.files given size name) :
    library.createDisk given size host
      = (((library.runTool (library.creation name size) (library.housing host)).1.map fun _ => name),
        (library.runTool (library.creation name size) (library.housing host)).2) := by
  have prepared : host.files.makeDirectories library.diskDirectory
      = (.ok (), (host.files.makeDirectories library.diskDirectory).2) :=
    Prod.ext creatable.made rfl
  obtain ⟨named, sized, free, -⟩ := creatable
  have sized := Capacity.check_eq_ok_iff.mpr sized
  unfold createDisk
  simp only [named, sized, if_neg free]
  rw [prepared]
  simp only [housing, creation]
  split
  · rename_i ran
    rw [ran]
    rfl
  · rename_i ran
    rw [ran]
    rfl

/-- **Any other request fails without a run.**  Nothing is changed unless name and size were right
and nothing was there; then the directory has been looked after. -/
theorem createDisk_of_not_creatable
    (refused : ∀ name, ¬library.Creatable host.files given size name) :
    ∃ e, library.createDisk given size host = (.error e, host)
      ∨ library.createDisk given size host = (.error e, library.housing host)
        ∧ ∃ name, ImageName.sanitize given = .ok name ∧ Capacity.IsSize false size.toList
          ∧ ¬host.files.pathExists (join library.diskDirectory name) := by
  unfold createDisk
  cases named : ImageName.sanitize given with
  | error e => exact ⟨e, Or.inl rfl⟩
  | ok name =>
    by_cases sized : Capacity.IsSize false size.toList
    · have checked := Capacity.check_eq_ok_iff.mpr sized
      by_cases taken : host.files.pathExists (join library.diskDirectory name)
      · refine ⟨.alreadyExists name, Or.inl ?_⟩
        simp only [checked, if_pos taken]
      · cases made : (host.files.makeDirectories library.diskDirectory).1 with
        | ok => exact absurd ⟨named, sized, taken, Or.inr made⟩ (refused name)
        | error failure =>
          have prepared : host.files.makeDirectories library.diskDirectory
              = (.error failure, (host.files.makeDirectories library.diskDirectory).2) :=
            Prod.ext made rfl
          refine ⟨.io failure, Or.inr ⟨?_, name, rfl, sized, taken⟩⟩
          simp only [checked, if_neg taken]
          rw [prepared, housing]
    · refine ⟨.invalidSize size, Or.inl ?_⟩
      simp only [Capacity.check_eq_error sized]

/-! ### Resizing a disk -/

/-- A disk that exists is a file under a plain name. -/
theorem existingDisk_eq (library : ImageLibrary) (given : String) (fs : FileSystem) :
    (∃ e, library.existingDisk given fs = .error e
        ∧ ¬(ImageName.IsPlainName given ∧ fs.isFile (join library.diskDirectory given)))
      ∨ library.existingDisk given fs = .ok (join library.diskDirectory given)
        ∧ ImageName.IsPlainName given ∧ fs.isFile (join library.diskDirectory given) := by
  cases existing : library.existingDisk given fs with
  | ok path =>
    obtain ⟨plain, rfl, file⟩ := existingDisk_eq_ok_iff.mp existing
    exact Or.inr ⟨rfl, ImageName.isPlain_iff.mp plain, file⟩
  | error e =>
    refine Or.inl ⟨e, rfl, fun ⟨plain, file⟩ => ?_⟩
    rw [existingDisk_eq_ok_iff.mpr ⟨ImageName.isPlain_iff.mpr plain, rfl, file⟩] at existing
    cases existing

/-- **A disk that can be resized is resized by one run.** -/
theorem resizeDisk_of_resizable (resizable : library.Resizable host.files given size) :
    library.resizeDisk given size host = library.runTool (library.resizing given size) host := by
  have existing := existingDisk_eq_ok_iff.mpr
    ⟨ImageName.isPlain_iff.mpr resizable.plain, rfl, resizable.there⟩
  have sized := Capacity.check_eq_ok_iff.mpr resizable.sized
  simp only [resizeDisk, existing, sized, resizing]

/-- **Any other request fails and changes nothing.** -/
theorem resizeDisk_of_not_resizable (refused : ¬library.Resizable host.files given size) :
    ∃ e, library.resizeDisk given size host = (.error e, host) := by
  unfold resizeDisk
  rcases library.existingDisk_eq given host.files with ⟨e, missing, -⟩ | ⟨existing, plain, file⟩
  · exact ⟨e, by rw [missing]⟩
  · have sized : ¬Capacity.IsSize true size.toList := fun sized => refused ⟨plain, file, sized⟩
    exact ⟨.invalidSize size, by simp only [existing, Capacity.check_eq_error sized]⟩

/-! ### Deleting a disk -/

/-- **A deletion fails and changes nothing, or removes the entry of the directory that was
named.** -/
theorem deleteDisk_spec (library : ImageLibrary) (given : String) (c : Configuration)
    (fs : FileSystem) :
    (∃ e, library.deleteDisk given c fs = (.error e, fs))
      ∨ ImageName.IsPlainName given ∧ fs.isFile (join library.diskDirectory given)
        ∧ ∃ there, fs.Houses library.diskDirectory there
          ∧ library.deleteDisk given c fs = (.ok (), fs.drop (there ++ [given])) := by
  unfold deleteDisk
  rcases library.existingDisk_eq given fs with ⟨e, missing, -⟩ | ⟨existing, plain, file⟩
  · exact Or.inl ⟨e, by rw [missing]⟩
  · simp only [existing]
    split
    · exact Or.inl ⟨_, rfl⟩
    · cases removed : fs.removeFile (join library.diskDirectory given) with
      | error failure => exact Or.inl ⟨_, rfl⟩
      | ok after =>
        obtain ⟨place, node, named, -, rfl⟩ := FileSystem.removeFile_cases removed
        obtain ⟨there, houses, rfl⟩ := FileSystem.exists_houses_of_join plain.isName named
        exact Or.inr ⟨plain, file, there, houses, rfl⟩

/-! ### All requests -/

/-- **Requests stay in the directory of disks.**  For a new disk the tool is run exactly if the
disk can be made, and to resize one exactly if it can be resized: once, and with these arguments.
Any other request fails, runs no tool, and changes nothing, but that directories can be new if all
that was wrong was that the directory of disks could not be made.  A deletion takes away the entry
of that directory that was named, or nothing.  The path of every disk that is made, resized or
deleted is that of the directory and one name more. -/
theorem requests_contained (library : ImageLibrary) (given size : String) (c : Configuration)
    (host : Host) :
    (library.RunsFor host (library.createDisk given size host).2 fun arguments =>
        ∃ name, library.Creatable host.files given size name ∧ arguments =
          ["create", "-f", "qcow2", join library.diskDirectory name, size])
      ∧ (∀ name, library.Creatable host.files given size name →
        library.createDisk given size host
            = (((library.runTool (library.creation name size) (library.housing host)).1.map
                fun _ => name),
              (library.runTool (library.creation name size) (library.housing host)).2)
          ∧ host.files.AddsDirectories (library.housing host).files
          ∧ parts (join library.diskDirectory name)
            = parts library.diskDirectory ++ [.name name])
      ∧ ((∀ name, ¬library.Creatable host.files given size name) →
        ∃ e after, library.createDisk given size host = (.error e, after)
          ∧ after.calls = host.calls ∧ host.files.AddsDirectories after.files
          ∧ ((∀ name, ImageName.sanitize given = .ok name → Capacity.IsSize false size.toList →
              host.files.pathExists (join library.diskDirectory name)) → after = host))
      ∧ (library.RunsFor host (library.resizeDisk given size host).2 fun arguments =>
        library.Resizable host.files given size ∧ arguments =
          ["resize", join library.diskDirectory given, size])
      ∧ (library.Resizable host.files given size →
        library.resizeDisk given size host = library.runTool (library.resizing given size) host)
      ∧ (¬library.Resizable host.files given size →
        ∃ e, library.resizeDisk given size host = (.error e, host))
      ∧ ((∃ e, library.deleteDisk given c host.files = (.error e, host.files))
        ∨ ImageName.IsPlainName given ∧ host.files.isFile (join library.diskDirectory given)
          ∧ ∃ there after, host.files.Houses library.diskDirectory there
            ∧ library.deleteDisk given c host.files = (.ok (), after)
            ∧ after.lookup (there ++ [given]) = none
            ∧ ∀ place, place ≠ there ++ [given] → after.lookup place = host.files.lookup place)
      ∧ (ImageName.IsPlainName given →
        parts (join library.diskDirectory given)
          = parts library.diskDirectory ++ [.name given]) := by
  refine ⟨?_, fun name creatable => ?_, fun refused => ?_, ?_, resizeDisk_of_resizable,
    resizeDisk_of_not_resizable, ?_, fun plain => parts_join_name _ plain.isName⟩
  · by_cases accepted : ∃ name, library.Creatable host.files given size name
    · obtain ⟨name, creatable⟩ := accepted
      rw [createDisk_of_creatable creatable]
      refine runsFor_runTool rfl rfl creatable.clean fun others => ⟨?_, ?_⟩
      · rintro ⟨other, creatable', rfl⟩
        rw [creatable.unique creatable', creation]
      · rintro rfl
        exact ⟨name, creatable, rfl⟩
    · have refused := not_exists.mp accepted
      have calls : (library.createDisk given size host).2.calls = host.calls := by
        obtain ⟨e, failed | ⟨failed, -⟩⟩ := createDisk_of_not_creatable refused <;> rw [failed]
        rfl
      exact runsFor_of_calls calls fun _ ⟨name, creatable, _⟩ => refused name creatable
  · exact ⟨createDisk_of_creatable creatable, FileSystem.addsDirectories_makeDirectories _,
      parts_join_name _ creatable.isDiskName.isName⟩
  · obtain ⟨e, failed | ⟨failed, name, named, sized, free⟩⟩ := createDisk_of_not_creatable refused
    · exact ⟨e, host, failed, rfl, .refl _, fun _ => rfl⟩
    · exact ⟨e, _, failed, rfl, FileSystem.addsDirectories_makeDirectories _,
        fun taken => absurd (taken name named sized) free⟩
  · by_cases resizable : library.Resizable host.files given size
    · rw [resizeDisk_of_resizable resizable]
      exact runsFor_runTool rfl rfl resizable.clean fun others => by
        simp only [resizable, true_and, resizing]
    · obtain ⟨e, failed⟩ := resizeDisk_of_not_resizable resizable
      exact runsFor_of_calls (by rw [failed]) fun _ accepted => resizable accepted.1
  · rcases library.deleteDisk_spec given c host.files with
      failed | ⟨plain, file, there, houses, deleted⟩
    · exact Or.inl failed
    · exact Or.inr ⟨plain, file, there, _, houses, deleted,
        FileSystem.lookup_drop_self (by simp), fun place => FileSystem.lookup_drop_of_ne⟩

/-- A host with one disk and a tool that always succeeds. -/
def smallShelf : Host :=
  { (default : Host) with
    files := ⟨[(["disks"], .directory), (["disks", "old.img"], .file [1])], [], []⟩
    tools := [("qemu-img", .printing [] [] 0 false)] }

/-- A disk is made under the name that remains of the one asked for, a disk that is there grows,
and a name that climbs makes nothing. -/
theorem requests_contained_smallShelf :
    let library : ImageLibrary := ⟨"/disks", "/isos", "qemu-img"⟩
    (library.Creatable smallShelf.files " new disk" "20G" "newdisk.qcow2"
        ∧ (library.createDisk " new disk" "20G" smallShelf).2.calls
          = [["qemu-img", "create", "-f", "qcow2", "/disks/newdisk.qcow2", "20G"]])
      ∧ (library.Resizable smallShelf.files "old.img" "+4G"
        ∧ (library.resizeDisk "old.img" "+4G" smallShelf).2.calls
          = [["qemu-img", "resize", "/disks/old.img", "+4G"]])
      ∧ ∃ e, library.resizeDisk "../old.img" "+4G" smallShelf = (.error e, smallShelf) := by
  intro library
  have tool : smallShelf.HasTool library.imageTool :=
    ⟨_, Host.find_eq_tool_iff.mpr ⟨by decide, by decide, by decide, by decide, rfl⟩⟩
  have creatable : library.Creatable smallShelf.files " new disk" "20G" "newdisk.qcow2" :=
    ⟨by decide +kernel, Capacity.check_eq_ok_iff.mp (by decide), by decide, Or.inl (by decide)⟩
  have resizable : library.Resizable smallShelf.files "old.img" "+4G" :=
    ⟨ImageName.isPlain_iff.mp (by decide), by decide, Capacity.check_eq_ok_iff.mp (by decide)⟩
  have climbs : ¬library.Resizable smallShelf.files "../old.img" "+4G" := fun resizable =>
    resizable.plain.noSlash (by decide)
  obtain ⟨made, -⟩ := requests_contained library " new disk" "20G" default smallShelf
  obtain ⟨-, -, -, resized, -⟩ := requests_contained library "old.img" "+4G" default smallShelf
  obtain ⟨-, -, -, -, -, refused, -⟩ :=
    requests_contained library "../old.img" "+4G" default smallShelf
  exact ⟨⟨creatable, made.calls_eq tool ⟨_, creatable, by decide⟩⟩,
    ⟨resizable, resized.calls_eq tool ⟨resizable, by decide⟩⟩, refused climbs⟩

end ImageLibrary

end GuestSupervisor
