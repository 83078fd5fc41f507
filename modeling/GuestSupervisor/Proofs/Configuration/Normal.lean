import GuestSupervisor.CommandLine.Run
import GuestSupervisor.Configuration.Store
import GuestSupervisor.Proofs.Configuration.RoundTrip
import GuestSupervisor.Proofs.Host.Directories
import GuestSupervisor.Proofs.Host.Replacing
import GuestSupervisor.Proofs.Text.Utf8

/-!
# What is read is in normal form

Whatever a text holds, each assignment in it either is passed over or gives one key a value
that the file of a configuration can hold as it is.  So what is read from any text is read
again from its own file, and a store does not change what was loaded from it by saving.

## Main Definitions

* `Configuration.IsNormal` — a configuration that its own file holds as it is.
* `ConfigurationStore.Usable` — a file system in which a store reads what it writes.

## Main Statements

* `Configuration.isNormal_iff_exists_ofString` — what is read from a text is normal, and
  nothing else is.
* `ConfigurationStore.readBytes_of_save` — what saving leaves in the file.
* `ConfigurationStore.load_save` — what a store loads after it saved.
* `Configuration.loaded_stable` — reading, writing and reading again.
-/

namespace GuestSupervisor

open Text

namespace Configuration

variable {c c' : Configuration} {path : Option String} {value : String}

/-! ## Normal configurations -/

/-- **A path stands on its line as it is.** -/
structure IsPlain (path : Option String) : Prop where
  oneLine : OneLine path
  neat : IsNeat path

/-- **A configuration that its own file holds as it is.** -/
structure IsNormal (c : Configuration) : Prop where
  valid : c.IsValid
  neat : ∀ key path, (key, path) ∈ c.paths → IsNeat path

/-- A configuration is normal if its paths are plain and its numbers positive. -/
theorem isNormal_iff (c : Configuration) :
    c.IsNormal ↔ (IsPlain c.primaryDisk ∧ IsPlain c.secondaryDisk ∧ IsPlain c.cdrom) ∧
      c.memoryMb ≠ 0 ∧ c.screenWidth ≠ 0 ∧ c.screenHeight ≠ 0 := by
  constructor
  · rintro ⟨⟨oneLine, positive⟩, neat⟩
    have plain : ∀ key path, (key, path) ∈ c.paths → IsPlain path :=
      fun key path member => ⟨oneLine key path member, neat key path member⟩
    exact ⟨(forall_paths c IsPlain).mp plain, positive .memory _ (by simp [positives]),
      positive .screenWidth _ (by simp [positives]), positive .screenHeight _ (by simp [positives])⟩
  · rintro ⟨plain, memory, width, height⟩
    have plain := (forall_paths c IsPlain).mpr plain
    refine ⟨⟨fun key path member => (plain key path member).oneLine, ?_⟩,
      fun key path member => (plain key path member).neat⟩
    simp [positives, or_imp, forall_and, memory, width, height]

/-- **A normal configuration is read from its own file.** -/
theorem IsNormal.ofString_render (normal : c.IsNormal) : Loaded.ofString c.render = ⟨c, []⟩ := by
  rw [Loaded.ofString_render normal.valid, (trimmed_eq_self_iff c).mpr normal.neat]

/-! ## Assignments -/

theorem isPlain_none : IsPlain none where
  oneLine := by simp [OneLine]
  neat := by simp [IsNeat]

theorem isPlain_readPath (oneLine : hasLineBreak value = false) (trimmed : IsTrimmed value.toList) :
    IsPlain (readPath value) := by
  unfold readPath
  split
  · exact isPlain_none
  · rename_i nonempty
    constructor
    · rintro text ⟨⟩
      exact oneLine
    · rintro text ⟨⟩
      exact ⟨by simpa using nonempty, trimmed⟩

theorem ne_zero_of_readPositive? {text : List Char} {n : UInt32}
    (read : readPositive? text = some n) : n ≠ 0 := by
  have positive := (Option.filter_eq_some_iff.mp read).2
  simpa using positive

/-- **A new guest's configuration is normal.** -/
theorem isNormal_default : ({} : Configuration).IsNormal := by
  have plain : ∀ text : String, hasLineBreak text = false → text ≠ "" →
      trim text.toList = text.toList → IsPlain (some text) := by
    intro text oneLine nonempty trimmed
    constructor
    · rintro _ ⟨⟩
      exact oneLine
    · rintro _ ⟨⟩
      exact ⟨nonempty, trim_eq_self_iff.mp trimmed⟩
  rw [isNormal_iff]
  exact ⟨⟨plain _ (by decide) (by decide) (by decide), isPlain_none,
    plain _ (by decide) (by decide) (by decide)⟩, by decide, by decide, by decide⟩

/-- Each key has values that keep a configuration normal and no others. -/
theorem IsNormal.assign? (normal : c.IsNormal) {key : Key} (oneLine : hasLineBreak value = false)
    (trimmed : IsTrimmed value.toList) (assigned : c.assign? key value = some c') :
    c'.IsNormal := by
  have plain := isPlain_readPath oneLine trimmed
  rw [isNormal_iff] at normal ⊢
  obtain ⟨⟨primary, secondary, cdrom⟩, memory, width, height⟩ := normal
  cases key with
  | memory | screenWidth | screenHeight =>
    obtain ⟨n, read, rfl⟩ := Option.map_eq_some_iff.mp assigned
    have positive := ne_zero_of_readPositive? read
    refine ⟨⟨primary, secondary, cdrom⟩, ?_⟩
    simp [memory, width, height, positive]
  | bootDevice | displayIndex | sound =>
    obtain ⟨_, -, rfl⟩ := Option.map_eq_some_iff.mp assigned
    exact ⟨⟨primary, secondary, cdrom⟩, memory, width, height⟩
  | primaryDisk | secondaryDisk | cdrom =>
    cases assigned
    exact ⟨by simp [primary, secondary, cdrom, plain], memory, width, height⟩

/-- An assignment by name keeps a configuration normal. -/
theorem IsNormal.set (normal : c.IsNormal) {name : String} (trimmed : IsTrimmed value.toList)
    (assigned : c.set name value = .ok c') : c'.IsNormal := by
  unfold Configuration.set at assigned
  split at assigned
  · cases assigned
  · rename_i oneLine
    split at assigned
    · cases assigned
    · split at assigned
      · cases assigned
      · cases assigned
        exact normal.assign? (by simpa using oneLine) trimmed ‹_›

/-! ## Texts -/

/-- The value of an entry has no blanks around it. -/
theorem isTrimmed_of_ofLine? {line : List Char} {entry : Entry}
    (read : Entry.ofLine? line = some entry) : IsTrimmed entry.value.toList := by
  unfold Entry.ofLine? at read
  simp only at read
  split at read
  · cases read
  · obtain ⟨⟨name, value⟩, -, rfl⟩ := Option.map_eq_some_iff.mp read
    rw [String.toList_ofList]
    exact isTrimmed_trim value

namespace Loaded

variable {loaded : Loaded}

/-- **Whatever becomes of an entry, the configuration stays normal.** -/
theorem isNormal_take (normal : loaded.configuration.IsNormal) {entry : Entry}
    (trimmed : IsTrimmed entry.value.toList) : (loaded.take entry).configuration.IsNormal := by
  unfold take
  split
  · exact normal.set trimmed ‹_›
  · exact normal
  · exact normal

theorem isNormal_foldl_take (normal : loaded.configuration.IsNormal) (entries : List Entry)
    (trimmed : ∀ entry ∈ entries, IsTrimmed entry.value.toList) :
    (entries.foldl take loaded).configuration.IsNormal := by
  induction entries generalizing loaded with
  | nil => exact normal
  | cons entry entries ih =>
    exact ih (isNormal_take normal (trimmed entry List.mem_cons_self))
      fun other member => trimmed other (List.mem_cons_of_mem entry member)

/-- **What is read from a text is normal**, whatever the text. -/
theorem isNormal_ofString (text : String) : (ofString text).configuration.IsNormal := by
  refine isNormal_foldl_take isNormal_default _ fun entry member => ?_
  obtain ⟨line, -, read⟩ := List.mem_filterMap.mp member
  exact isTrimmed_of_ofLine? read

end Loaded

/-- **The normal configurations are those that are read from some text.** -/
theorem isNormal_iff_exists_ofString (c : Configuration) :
    c.IsNormal ↔ ∃ text, (Loaded.ofString text).configuration = c := by
  constructor
  · intro normal
    exact ⟨c.render, by rw [normal.ofString_render]⟩
  · rintro ⟨text, rfl⟩
    exact Loaded.isNormal_ofString text

end Configuration

/-! ## The store -/

namespace ConfigurationStore

variable {store : ConfigurationStore} {c : Configuration} {fs fs' : FileSystem} {text : String}
  {bytes : List UInt8}

theorem load_of_readText (read : fs.readText store.path = .ok text) :
    store.load fs = Configuration.Loaded.ofString text := by
  rw [load, read]

/-- **A file system that a store can rely on**: its path does not circle back when the directories
above it are made. -/
def Usable (store : ConfigurationStore) (fs : FileSystem) : Prop :=
  ¬(fs.makeDirectories store.directory).2.CirclesBack store.path

/-- A store can rely on a file system if its path leads to a file. -/
theorem usable_of_readBytes (readable : fs.readBytes store.path = .ok bytes) : store.Usable fs :=
  FileSystem.not_circlesBack_of_readBytes
    ((fs.keeps_makeDirectories store.directory).readBytes readable)

/-- It can rely on one without files. -/
theorem usable_noFiles (store : ConfigurationStore) : store.Usable .noFiles :=
  FileSystem.not_circlesBack_of_noLink FileSystem.lookup_noFiles_ne_link
    (FileSystem.addsDirectories_makeDirectories store.directory)

/-- **What a saved configuration leaves in its file.** -/
theorem readBytes_of_save (usable : store.Usable fs) (saved : store.save c fs = (.ok (), fs')) :
    fs'.readBytes store.path = .ok (Utf8.encode c.fileText) := by
  unfold Usable at usable
  unfold save at saved
  split at saved
  · cases saved
  · rename_i made ready
    rw [ready] at usable
    split at saved
    · cases saved
    · rename_i replaced
      cases saved
      exact FileSystem.readBytes_of_replaceFile replaced usable

/-- The file of a configuration is loaded as what is read from the configuration's text. -/
theorem load_of_readBytes (read : fs.readBytes store.path = .ok (Utf8.encode c.fileText)) :
    store.load fs = Configuration.Loaded.ofString c.render := by
  apply load_of_readText
  rw [FileSystem.readText, read]
  simp [bind, Except.bind, Utf8.toString?, Utf8.decode?_encode, Configuration.render]

/-- **What a saved configuration is loaded as**: what is read from its file's text, if the
path led to a file before. -/
theorem load_save (saved : store.save c fs = (.ok (), fs'))
    (readable : fs.readBytes store.path = .ok bytes) :
    store.load fs' = Configuration.Loaded.ofString c.render := by
  exact load_of_readBytes (readBytes_of_save (usable_of_readBytes readable) saved)

end ConfigurationStore

/-! ## Reading, writing and reading again -/

namespace FileSystem

/-- A text file holds bytes. -/
theorem exists_readBytes_of_readText {fs : FileSystem} {path text : String}
    (read : fs.readText path = .ok text) : ∃ bytes, fs.readBytes path = .ok bytes := by
  unfold readText at read
  cases found : fs.readBytes path with
  | ok bytes => exact ⟨bytes, rfl⟩
  | error failure =>
    rw [found] at read
    cases read

end FileSystem

namespace Configuration

open CommandLine in
/-- **What is read from a text stays what it is**, whatever the text.  Validation lets it
through; what is written for it is read as the same again, without a warning; a store that
loads the text and saves what it loaded, loads the same again; and so does one whose file
holds what was shown for the text. -/
theorem loaded_stable (text : String) :
    (Loaded.ofString text).configuration.validate = .ok ()
      ∧ Loaded.ofString (Loaded.ofString text).configuration.render
          = ⟨(Loaded.ofString text).configuration, []⟩
      ∧ (∀ (store : ConfigurationStore) (fs fs' : FileSystem), fs.readText store.path = .ok text →
          store.save (store.load fs).configuration fs = (.ok (), fs') →
          store.load fs' = ⟨(store.load fs).configuration, []⟩)
      ∧ ∀ (store : ConfigurationStore) (host : Host) (fs' : FileSystem),
          host.files.readText store.path = .ok text →
          fs'.readText store.path = .ok (showConfigurationIn store host).output →
          store.load fs' = ⟨(store.load host.files).configuration, []⟩ := by
  have normal := Loaded.isNormal_ofString text
  refine ⟨(validate_eq_ok_iff_isValid _).mpr normal.valid, normal.ofString_render, ?_, ?_⟩
  · intro store fs fs' read saved
    obtain ⟨bytes, readable⟩ := FileSystem.exists_readBytes_of_readText read
    rw [ConfigurationStore.load_save saved readable, ConfigurationStore.load_of_readText read]
    exact normal.ofString_render
  · intro store host fs' read shown
    rw [ConfigurationStore.load_of_readText shown, ConfigurationStore.load_of_readText read]
    unfold showConfigurationIn
    rw [ConfigurationStore.load_of_readText read]
    exact normal.ofString_render

/-- A text with a value that is refused, a repeated key, line ends of both kinds and a line
that says nothing. -/
def roughText : String := "RAM_MB=0\r\n CDROM_ISO= a=b \nRAM_MB = 2048\r\nnonsense"

/-- A store in the root directory. -/
def rootStore : ConfigurationStore := ⟨"/macemu.conf"⟩

/-- A host whose one file, that of the store, holds a text. -/
def hostOf (text : String) : Host :=
  { (default : Host) with
    files := ⟨[(["macemu.conf"], .file (Utf8.encode text.toList))], [], []⟩ }

theorem readText_hostOf (text : String) :
    (hostOf text).files.readText rootStore.path = .ok text := by
  have bytes : (hostOf text).files.readBytes rootStore.path = .ok (Utf8.encode text.toList) := rfl
  rw [FileSystem.readText, bytes]
  simp [bind, Except.bind, Utf8.toString?, Utf8.decode?_encode]

open CommandLine in
/-- It is loaded, saved and loaded, and shown and loaded, as the same. -/
theorem loaded_stable_rough :
    rootStore.load (hostOf roughText).files
        = ⟨{ memoryMb := 2048, cdrom := some "a=b" }, [.invalidValue "RAM_MB" "0"]⟩
      ∧ (∃ fs', rootStore.save (rootStore.load (hostOf roughText).files).configuration
            (hostOf roughText).files = (.ok (), fs')
          ∧ rootStore.load fs' = ⟨(rootStore.load (hostOf roughText).files).configuration, []⟩)
      ∧ rootStore.load (hostOf (showConfigurationIn rootStore (hostOf roughText)).output).files
          = ⟨(rootStore.load (hostOf roughText).files).configuration, []⟩ := by
  obtain ⟨-, -, save, shown⟩ := loaded_stable roughText
  have read := readText_hostOf roughText
  refine ⟨?_, ⟨_, rfl, save rootStore (hostOf roughText).files _ read rfl⟩,
    shown rootStore (hostOf roughText) _ read (readText_hostOf _)⟩
  rw [ConfigurationStore.load_of_readText read]
  decide

end Configuration

end GuestSupervisor
