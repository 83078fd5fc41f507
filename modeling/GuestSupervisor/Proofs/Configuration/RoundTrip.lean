import GuestSupervisor.Configuration.File
import GuestSupervisor.Proofs.Host.Path

/-!
# A configuration and its file

The file of a configuration is read back line by line: comments and empty lines say
nothing, and each of the nine assignments is taken as the one that was written, whatever
its value holds, as long as the value stays on its line.  All that a path can lose are the
blanks around it.

## Main Definitions

* `Configuration.IsValid` — what validation makes sure of.
* `Configuration.trimmed` — a configuration whose paths have lost the blanks around them.
* `Configuration.IsNeat` — a path that has none to lose.

## Main Statements

* `Configuration.IsValid.entries_fileText` — the assignments in a configuration's file.
* `Configuration.Loaded.ofString_render` — what is read from it.
* `Configuration.loaded_render` — when that is the configuration itself.
-/

namespace GuestSupervisor

open Text

/-! ## Assignments on lines -/

/-- A key's name can neither be trimmed, nor cut, nor taken for a comment. -/
theorem Key.solid_name (key : Key) :
    ∀ c ∈ key.name.toList, isBlank c = false ∧ c ≠ '#' ∧ c ≠ '=' ∧ breaksLine c = false := by
  have solid : key.name.toList.all
      (fun c => !isBlank c && c != '#' && c != '=' && !breaksLine c) = true := by
    cases key <;> rfl
  intro c member
  simpa [and_assoc] using List.all_eq_true.mp solid c member

theorem Key.name_ne_nil (key : Key) : key.name.toList ≠ [] := by
  cases key <;> decide

namespace Entry

/-- **An assignment on a line is read as it was written**, without the blanks around its
value. -/
theorem ofLine?_assignment (key : Key) (value : List Char) :
    ofLine? (key.name.toList ++ '=' :: value)
      = some ⟨key.name, String.ofList (trim value)⟩ := by
  obtain ⟨first, rest, name⟩ := List.exists_cons_of_ne_nil key.name_ne_nil
  obtain ⟨solid, noComment, -, -⟩ := key.solid_name first (by rw [name]; exact List.mem_cons_self)
  have trimmed :
      trim (key.name.toList ++ '=' :: value) = key.name.toList ++ '=' :: trimEnd value := by
    unfold trim
    rw [name, List.cons_append, trimStart_of_head solid, ← List.cons_append,
      trimEnd_append_cons (by decide)]
  have uncut : '=' ∉ key.name.toList := fun member => (key.solid_name _ member).2.2.1 rfl
  have whole : trim key.name.toList = key.name.toList :=
    trim_of_isTrimmed (isTrimmed_of_forall fun c member => (key.solid_name c member).1)
  have noComment' : (key.name.toList ++ '=' :: trimEnd value).head? ≠ some '#' := by
    rw [name]
    simpa using noComment
  simp only [ofLine?, trimmed, if_neg noComment', splitOnce_append uncut, Option.map_some, whole,
    trim_trimEnd, String.ofList_toList]

theorem ofLine?_comment (text : List Char) : ofLine? ('#' :: text) = none := by
  have trimmed : trim ('#' :: text) = '#' :: trimEnd text := by
    unfold trim
    rw [trimStart_of_head (by decide)]
    exact trimEnd_append_cons (by decide) [] text
  simp [ofLine?, trimmed]

end Entry

namespace Configuration

/-! ## The file -/

/-- The key that a line assigns to. -/
def FileLine.key? : FileLine → Option Key
  | .entry key => some key
  | .empty | .comment _ => none

/-- The file assigns to every key once. -/
theorem layout_keys : layout.filterMap FileLine.key? = Key.all := rfl

/-- What a line of the file is read as. -/
theorem ofLine?_lineText (c : Configuration) (line : FileLine) :
    Entry.ofLine? (c.lineText line)
      = line.key?.map fun key => ⟨key.name, String.ofList (trim (c.valueText key))⟩ := by
  cases line with
  | empty => rfl
  | comment text => exact Entry.ofLine?_comment _
  | entry key => exact Entry.ofLine?_assignment key _

theorem hasLineBreak_eq_false_iff (text : String) :
    hasLineBreak text = false ↔ ∀ c ∈ text.toList, breaksLine c = false := by
  simp [hasLineBreak]

/-- The text of a path stays on its line. -/
def OneLine (path : Option String) : Prop := ∀ text, path = some text → hasLineBreak text = false

/-- **What validation makes sure of.** -/
structure IsValid (c : Configuration) : Prop where
  oneLine : ∀ key path, (key, path) ∈ c.paths → OneLine path
  positive : ∀ key value, (key, value) ∈ c.positives → value ≠ 0

theorem oneLine_iff (path : Option String) : OneLine path ↔ path.filter hasLineBreak = none := by
  cases path with
  | none => simp [OneLine]
  | some text => simp [OneLine, Option.filter]

theorem validate_eq_ok_iff_isValid (c : Configuration) : c.validate = .ok () ↔ c.IsValid := by
  rw [validate_eq_ok_iff, problems, List.append_eq_nil_iff, List.filterMap_eq_nil_iff,
    List.filterMap_eq_nil_iff]
  constructor
  · rintro ⟨paths, positives⟩
    refine ⟨fun key path member => ?_, fun key value member zero => ?_⟩
    · exact (oneLine_iff path).mpr (by simpa using paths (key, path) member)
    · simpa [zero] using positives (key, value) member
  · intro valid
    refine ⟨fun ⟨key, path⟩ member => ?_, fun ⟨key, value⟩ member => ?_⟩
    · simp [(oneLine_iff path).mp (valid.oneLine key path member)]
    · simp [valid.positive key value member]

/-- No value of a valid configuration breaks its line. -/
theorem IsValid.valueText {c : Configuration} (valid : c.IsValid) (key : Key) :
    ∀ ch ∈ c.valueText key, breaksLine ch = false := by
  have digits : ∀ n : Nat, ∀ ch ∈ decimal n, breaksLine ch = false := by
    intro n ch member
    have digit := isDigit_of_mem_decimal member
    simp only [breaksLine, Bool.or_eq_false_iff, beq_eq_false_iff_ne]
    constructor <;> rintro rfl <;> simp at digit
  have path : ∀ key path, (key, path) ∈ c.paths → ∀ ch ∈ pathText path, breaksLine ch = false := by
    intro key path member ch inText
    cases path with
    | none => simp [pathText] at inText
    | some text =>
      have oneLine := valid.oneLine key _ member text rfl
      exact (hasLineBreak_eq_false_iff text).mp oneLine ch inText
  cases key with
  | memory | screenWidth | screenHeight | displayIndex => exact digits _
  | bootDevice =>
    cases device : c.bootDevice <;>
      simp [Configuration.valueText, device, BootDevice.code, breaksLine]
  | sound =>
    cases sound : c.soundEnabled <;> simp [Configuration.valueText, sound, breaksLine]
  | primaryDisk => exact path .primaryDisk _ (by simp [paths])
  | secondaryDisk => exact path .secondaryDisk _ (by simp [paths])
  | cdrom => exact path .cdrom _ (by simp [paths])

/-- No line of the file of a valid configuration holds a line break. -/
theorem IsValid.lineText {c : Configuration} (valid : c.IsValid) {line : FileLine}
    (member : line ∈ layout) : ∀ ch ∈ c.lineText line, breaksLine ch = false := by
  have comments : ∀ text, .comment text ∈ layout → hasLineBreak text = false := by
    intro text member
    simp only [layout, List.mem_cons, FileLine.comment.injEq, reduceCtorEq, List.not_mem_nil,
      false_or, or_false] at member
    rcases member with rfl | rfl | rfl | rfl | rfl | rfl | rfl | rfl <;> rfl
  intro ch inLine
  cases line with
  | empty => cases inLine
  | comment text =>
    have places : ch = '#' ∨ ch = ' ' ∨ ch ∈ text.toList := by
      simpa [Configuration.lineText] using inLine
    rcases places with rfl | rfl | inText
    · decide
    · decide
    · exact (hasLineBreak_eq_false_iff text).mp (comments text member) ch inText
  | entry key =>
    have places : ch ∈ key.name.toList ∨ ch = '=' ∨ ch ∈ c.valueText key := by
      simpa [Configuration.lineText] using inLine
    rcases places with inName | rfl | inValue
    · exact (key.solid_name ch inName).2.2.2
    · decide
    · exact valid.valueText key ch inValue

/-- The lines of the file of a valid configuration are those that were written. -/
theorem IsValid.lines_fileText {c : Configuration} (valid : c.IsValid) :
    lines c.fileText = layout.map c.lineText := by
  have written : c.fileText = (layout.map c.lineText).flatMap fun text => text ++ ['\n'] := by
    rw [List.flatMap_map, fileText]
  rw [written]
  refine lines_flatMap _ fun text member => ?_
  obtain ⟨line, inLayout, rfl⟩ := List.mem_map.mp member
  have whole := valid.lineText inLayout
  constructor <;> intro inLine <;> exact absurd (whole _ inLine) (by decide)

/-- The entry that the file of a configuration has for a key. -/
def entry (c : Configuration) (key : Key) : Entry :=
  ⟨key.name, String.ofList (trim (c.valueText key))⟩

/-- **A valid configuration's file has an entry for every key and no other.** -/
theorem IsValid.entries_fileText {c : Configuration} (valid : c.IsValid) :
    (lines c.fileText).filterMap Entry.ofLine? = Key.all.map c.entry := by
  have read : Entry.ofLine? ∘ c.lineText = fun line => line.key?.map c.entry :=
    funext (ofLine?_lineText c)
  rw [valid.lines_fileText, List.filterMap_map, read, ← layout_keys, List.map_filterMap]

/-! ## What an entry is taken for -/

/-- **A path without the blanks around it**, and none if nothing else is there. -/
def trimPath : Option String → Option String
  | none => none
  | some text => if trim text.toList = [] then none else some (String.ofList (trim text.toList))

/-- **The configuration without the blanks around its paths.** -/
def trimmed (c : Configuration) : Configuration :=
  { c with
    primaryDisk := trimPath c.primaryDisk
    secondaryDisk := trimPath c.secondaryDisk
    cdrom := trimPath c.cdrom }

/-- `target` with the value that `source` has for a key. -/
def copy (source target : Configuration) : Key → Configuration
  | .memory => { target with memoryMb := source.memoryMb }
  | .bootDevice => { target with bootDevice := source.bootDevice }
  | .screenWidth => { target with screenWidth := source.screenWidth }
  | .screenHeight => { target with screenHeight := source.screenHeight }
  | .displayIndex => { target with displayIndex := source.displayIndex }
  | .sound => { target with soundEnabled := source.soundEnabled }
  | .primaryDisk => { target with primaryDisk := source.primaryDisk }
  | .secondaryDisk => { target with secondaryDisk := source.secondaryDisk }
  | .cdrom => { target with cdrom := source.cdrom }

/-- A configuration has nothing beside its keys. -/
theorem foldl_copy (source target : Configuration) :
    Key.all.foldl source.copy target = source := by
  cases target
  simp only [Key.all, List.foldl_cons, List.foldl_nil, copy]

/-- The text of a path is read without the blanks around it. -/
theorem readPath_pathText (path : Option String) :
    readPath (String.ofList (trim (pathText path))) = trimPath path := by
  cases path with
  | none => rfl
  | some text => simp [readPath, trimPath, pathText]

theorem trim_decimal (n : Nat) : trim (decimal n) = decimal n := by
  refine trim_of_isTrimmed (isTrimmed_of_forall fun c member => ?_)
  have digit := isDigit_of_mem_decimal member
  simp only [Char.isDigit, Bool.and_eq_true, decide_eq_true_eq] at digit
  have low : 48 ≤ c.toNat := digit.1
  have high : c.toNat ≤ 57 := digit.2
  simp only [isBlank, Bool.or_eq_false_iff, Bool.and_eq_false_iff, beq_eq_false_iff_ne,
    decide_eq_false_iff_not]
  omega

/-- **An entry gives the key the value that was written.** -/
theorem IsValid.assign?_entry {c : Configuration} (valid : c.IsValid) (key : Key)
    (target : Configuration) :
    target.assign? key (c.entry key).value = some (c.trimmed.copy target key) := by
  have positive : ∀ key n, (key, n) ∈ c.positives → readPositive? (decimal n.toNat) = some n := by
    intro key n member
    rw [readPositive?, readUInt32?_decimal]
    exact Option.filter_eq_some_iff.mpr ⟨rfl, by simpa using valid.positive key n member⟩
  have device : ∀ device : BootDevice, BootDevice.read? (trim [device.code]) = some device := by
    intro device
    cases device <;> decide
  have flag : ∀ flag, readFlag? (trim [if flag then '1' else '0']) = some flag := by
    intro flag
    cases flag <;> decide
  have written : (c.entry key).value.toList = trim (c.valueText key) := String.toList_ofList
  cases key with
  | memory =>
    have read := positive .memory c.memoryMb (by simp [positives])
    simp [assign?, written, Configuration.valueText, trim_decimal, read, copy, trimmed]
  | screenWidth =>
    have read := positive .screenWidth c.screenWidth (by simp [positives])
    simp [assign?, written, Configuration.valueText, trim_decimal, read, copy, trimmed]
  | screenHeight =>
    have read := positive .screenHeight c.screenHeight (by simp [positives])
    simp [assign?, written, Configuration.valueText, trim_decimal, read, copy, trimmed]
  | displayIndex =>
    simp [assign?, written, Configuration.valueText, trim_decimal, readUInt32?_decimal, copy,
      trimmed]
  | bootDevice => simp [assign?, written, Configuration.valueText, device, copy, trimmed]
  | sound => simp [assign?, written, Configuration.valueText, flag, copy, trimmed]
  | primaryDisk | secondaryDisk | cdrom =>
    simp only [assign?, entry, Configuration.valueText, readPath_pathText, copy, trimmed]

namespace Loaded

/-- An entry of a valid configuration is taken in without a warning. -/
theorem take_entry {c : Configuration} (valid : c.IsValid) (key : Key) (target : Configuration)
    (warnings : List ConfigurationError) :
    take ⟨target, warnings⟩ (c.entry key) = ⟨c.trimmed.copy target key, warnings⟩ := by
  have written : (c.entry key).value.toList = trim (c.valueText key) := String.toList_ofList
  have whole : hasLineBreak (c.entry key).value = false := by
    rw [hasLineBreak_eq_false_iff, written]
    exact fun ch member => valid.valueText key ch (mem_of_mem_trim member)
  have name : Key.ofName? (c.entry key).name = some key := Key.ofName?_name key
  have assigned :
      target.set (c.entry key).name (c.entry key).value = .ok (c.trimmed.copy target key) := by
    simp only [Configuration.set, whole, Bool.false_eq_true, if_false, name, valid.assign?_entry]
  simp only [take, assigned]

/-- The entries of a valid configuration are taken in one after the other. -/
theorem foldl_take_entries {c : Configuration} (valid : c.IsValid) (keys : List Key)
    (target : Configuration) (warnings : List ConfigurationError) :
    (keys.map c.entry).foldl take ⟨target, warnings⟩
      = ⟨keys.foldl c.trimmed.copy target, warnings⟩ := by
  induction keys generalizing target with
  | nil => rfl
  | cons key keys ih => rw [List.map_cons, List.foldl_cons, List.foldl_cons, take_entry valid, ih]

/-- **What is read from the file of a valid configuration**: the configuration, without the
blanks around its paths, and no warning. -/
theorem ofString_render {c : Configuration} (valid : c.IsValid) :
    ofString c.render = ⟨c.trimmed, []⟩ := by
  rw [ofString, render, String.toList_ofList, read, valid.entries_fileText, ofEntries,
    foldl_take_entries valid, foldl_copy]
  rfl

end Loaded

/-! ## What is lost -/

/-- **A path has nothing to lose**: there is none, or it is a text that is not empty and
has no blanks around it. -/
def IsNeat (path : Option String) : Prop :=
  ∀ text, path = some text → text ≠ "" ∧ IsTrimmed text.toList

theorem trimPath_of_isNeat {path : Option String} (neat : IsNeat path) : trimPath path = path := by
  cases path with
  | none => rfl
  | some text =>
    obtain ⟨nonempty, trimmed⟩ := neat text rfl
    simp [trimPath, trim_of_isTrimmed trimmed, nonempty]

/-- What is read for a path has nothing more to lose. -/
theorem isNeat_trimPath (path : Option String) : IsNeat (trimPath path) := by
  intro text left
  cases path with
  | none => cases left
  | some original =>
    obtain ⟨nonempty, rfl⟩ :
        trim original.toList ≠ [] ∧ String.ofList (trim original.toList) = text := by
      simpa [trimPath] using left
    refine ⟨by simpa using nonempty, ?_⟩
    rw [String.toList_ofList]
    exact isTrimmed_trim original.toList

theorem trimPath_eq_self_iff (path : Option String) : trimPath path = path ↔ IsNeat path := by
  constructor
  · intro same
    rw [← same]
    exact isNeat_trimPath path
  · exact trimPath_of_isNeat

/-- **The blanks around a path tell it from the path without them**, also where only the
parts of paths are compared. -/
theorem samePath_trimPath_iff (path : Option String) :
    samePath (trimPath path) path ↔ IsNeat path := by
  constructor
  · intro same
    cases path with
    | none => simp [IsNeat]
    | some text =>
      have kept : trim text.toList ≠ [] := by
        intro empty
        simp [trimPath, empty, samePath] at same
      have left : trimPath (some text) = some (String.ofList (trim text.toList)) := if_neg kept
      have unchanged : trim text.toList = text.toList := by
        rw [left] at same
        exact (Path.same_trim_iff text).mp same
      rw [unchanged, String.ofList_toList] at left
      rw [← left]
      exact isNeat_trimPath (some text)
  · intro neat
    rw [trimPath_of_isNeat neat]
    cases path <;> simp [samePath, Path.same]

theorem forall_paths (c : Configuration) (p : Option String → Prop) :
    (∀ key path, (key, path) ∈ c.paths → p path)
      ↔ p c.primaryDisk ∧ p c.secondaryDisk ∧ p c.cdrom := by
  simp [paths, or_imp, forall_and]

theorem trimmed_eq_self_iff (c : Configuration) :
    c.trimmed = c ↔ ∀ key path, (key, path) ∈ c.paths → IsNeat path := by
  rw [forall_paths]
  cases c
  simp [trimmed, trimPath_eq_self_iff]

theorem trimmed_agrees_iff (c : Configuration) :
    c.trimmed.agrees c ↔ ∀ key path, (key, path) ∈ c.paths → IsNeat path := by
  simp [forall_paths, agrees, trimmed, samePath_trimPath_iff, and_assoc]

/-- **Reading undoes writing up to the blanks around paths.**  From the file of a valid
configuration the configuration is read without a warning, each path without the blanks
around it and none where nothing else was there.  What is read is the configuration itself,
letter by letter as well as in what paths are compared by, exactly if every path is none or
a text that is not empty and has no blanks around it. -/
theorem loaded_render (c : Configuration) (valid : c.validate = .ok ()) :
    Loaded.ofString c.render = ⟨c.trimmed, []⟩
      ∧ ((Loaded.ofString c.render).configuration = c
          ↔ ∀ key path, (key, path) ∈ c.paths → IsNeat path)
      ∧ ((Loaded.ofString c.render).configuration.agrees c
          ↔ ∀ key path, (key, path) ∈ c.paths → IsNeat path) := by
  have read := Loaded.ofString_render ((validate_eq_ok_iff_isValid c).mp valid)
  refine ⟨read, ?_, ?_⟩
  · rw [read]
    exact trimmed_eq_self_iff c
  · rw [read]
    exact trimmed_agrees_iff c

/-- Paths that look like a comment and like another key's assignment. -/
def misleading : Configuration :=
  { primaryDisk := some " # RAM_MB=1\t", secondaryDisk := some "CDROM_ISO=x", cdrom := some " " }

/-- They are read as paths. -/
theorem loaded_render_misleading :
    misleading.validate = .ok ()
      ∧ Loaded.ofString misleading.render
          = ⟨{ primaryDisk := some "# RAM_MB=1", secondaryDisk := some "CDROM_ISO=x",
               cdrom := none }, []⟩
      ∧ ¬(Loaded.ofString misleading.render).configuration.agrees misleading := by
  obtain ⟨read, -, agrees⟩ := loaded_render misleading rfl
  refine ⟨rfl, ?_, ?_⟩
  · rw [read]
    rfl
  · rw [agrees]
    intro neat
    exact absurd ((neat .cdrom (some " ") (by decide) " " rfl).2.head ' ' rfl) (by decide)

end Configuration

end GuestSupervisor
