import GuestSupervisor.Proofs.Configuration.Normal

/-!
# Edits

Whether an assignment is refused, and what it gives its key otherwise, depends on its name
and its value only and not on the configuration that it is made in.  So an assignment is a
copy of one value, assignments to different keys do not meet, and a list of them comes to the
same in every order.

## Main Definitions

* `Configuration.edit?` — the key of an assignment and a configuration with its value there.
* `Configuration.Holds` — a key has the value that a text stands for when it is read again.
* `Configuration.NeatAt` — a key's value is read from its file as it is.

## Main Statements

* `Configuration.toOption_set` — an assignment is a copy.
* `Configuration.setAll_perm` — assignments to different names come to the same in every order.
* `Configuration.IsNormal.set_trimmed` — what an assignment changes in what is read again.
* `Configuration.forall_neatAt_setAll_iff` — when assignments are read as they were made.
-/

namespace GuestSupervisor

open Text

theorem Key.name_of_ofName? {name : String} {key : Key} (found : Key.ofName? name = some key) :
    key.name = name := by
  simpa using List.find?_some found

/-- Whether the value of a key is a path. -/
def Key.isPath : Key → Bool
  | .primaryDisk | .secondaryDisk | .cdrom => true
  | .memory | .bootDevice | .screenWidth | .screenHeight | .displayIndex | .sound => false

namespace Configuration

variable {c c' source other : Configuration} {key key' : Key} {name value : String}
  {assignments assignments' : List (String × String)}

/-! ## Copies -/

theorem copy_copy_self (source c : Configuration) (key : Key) :
    (source.copy c key).copy c key = source.copy c key := by
  cases key <;> rfl

theorem trimmed_copy (source c : Configuration) (key : Key) :
    (source.copy c key).trimmed = source.trimmed.copy c.trimmed key := by
  cases key <;> rfl

/-! ## What an assignment means -/

/-- A configuration in which a key has the value that a text stands for. -/
def meaning? (key : Key) (value : String) : Option Configuration :=
  ({} : Configuration).assign? key value

/-- **An assignment to a key is a copy** of what its value stands for. -/
theorem assign?_eq (c : Configuration) (key : Key) (value : String) :
    c.assign? key value = (meaning? key value).map fun source => source.copy c key := by
  cases key <;> simp only [meaning?, assign?, Option.map_map, Option.map_some] <;> rfl

/-- **The key of an assignment and a configuration with its value there**, unless it is
refused. -/
def edit? (name value : String) : Option (Key × Configuration) :=
  if hasLineBreak value then none
  else (Key.ofName? name).bind fun key => (meaning? key value).map fun source => (key, source)

/-- **An assignment is a copy**, whatever it is made in. -/
theorem toOption_set (c : Configuration) (name value : String) :
    (c.set name value).toOption = (edit? name value).map fun edit => edit.2.copy c edit.1 := by
  unfold Configuration.set edit?
  split
  · rfl
  · cases Key.ofName? name with
    | none => rfl
    | some key =>
      simp only [assign?_eq, Option.bind_some, Option.map_map]
      cases meaning? key value <;> rfl

theorem set_eq_ok_iff : c.set name value = .ok c' ↔
    ∃ key source, edit? name value = some (key, source) ∧ source.copy c key = c' := by
  have same := toOption_set c name value
  cases assigned : c.set name value with
  | error e =>
    rw [assigned, Except.toOption, eq_comm, Option.map_eq_none_iff] at same
    simp [same]
  | ok result =>
    rw [assigned, Except.toOption, eq_comm, Option.map_eq_some_iff] at same
    obtain ⟨⟨key, source⟩, read, rfl⟩ := same
    simp [read]

theorem edit?_eq_some_iff : edit? name value = some (key, source) ↔
    hasLineBreak value = false ∧ Key.ofName? name = some key ∧
      meaning? key value = some source := by
  unfold edit?
  cases broken : hasLineBreak value with
  | true => simp
  | false =>
    simp only [Bool.false_eq_true, if_false, Option.bind_eq_some_iff, Option.map_eq_some_iff,
      Prod.mk.injEq, true_and]
    constructor
    · rintro ⟨key, found, source, read, rfl, rfl⟩
      exact ⟨found, read⟩
    · rintro ⟨found, read⟩
      exact ⟨key, found, source, read, rfl, rfl⟩

/-! ## Lists of assignments -/

theorem isValid_iff (c : Configuration) :
    c.IsValid ↔ (OneLine c.primaryDisk ∧ OneLine c.secondaryDisk ∧ OneLine c.cdrom) ∧
      c.memoryMb ≠ 0 ∧ c.screenWidth ≠ 0 ∧ c.screenHeight ≠ 0 := by
  rw [← forall_paths]
  constructor
  · rintro ⟨oneLine, positive⟩
    exact ⟨oneLine, positive .memory _ (by simp [positives]),
      positive .screenWidth _ (by simp [positives]), positive .screenHeight _ (by simp [positives])⟩
  · rintro ⟨oneLine, memory, width, height⟩
    refine ⟨oneLine, ?_⟩
    simp [positives, or_imp, forall_and, memory, width, height]

/-- A copy of a valid value keeps a configuration valid. -/
theorem IsValid.copy (given : source.IsValid) (valid : c.IsValid) (key : Key) :
    (source.copy c key).IsValid := by
  rw [isValid_iff] at given valid ⊢
  obtain ⟨⟨primary, secondary, cdrom⟩, memory, width, height⟩ := given
  obtain ⟨⟨primary', secondary', cdrom'⟩, memory', width', height'⟩ := valid
  cases key <;> simp only [Configuration.copy] <;> tauto

/-- What a value on one line stands for is valid. -/
theorem isValid_of_meaning? (oneLine : hasLineBreak value = false)
    (read : meaning? key value = some source) : source.IsValid := by
  have usual := isNormal_default.valid
  have path : OneLine (readPath value) := by
    unfold readPath
    split
    · simp [OneLine]
    · simpa [OneLine] using oneLine
  rw [isValid_iff] at usual ⊢
  obtain ⟨⟨primary, secondary, cdrom⟩, memory, width, height⟩ := usual
  cases key with
  | memory | screenWidth | screenHeight =>
    obtain ⟨n, number, rfl⟩ := Option.map_eq_some_iff.mp read
    have positive := ne_zero_of_readPositive? number
    simp [primary, secondary, cdrom, memory, width, height, positive]
  | bootDevice | displayIndex | sound =>
    obtain ⟨_, -, rfl⟩ := Option.map_eq_some_iff.mp read
    exact ⟨⟨primary, secondary, cdrom⟩, memory, width, height⟩
  | primaryDisk | secondaryDisk | cdrom =>
    cases read
    exact ⟨by simp [primary, secondary, cdrom, path], memory, width, height⟩

/-- **An assignment keeps a configuration valid.** -/
theorem IsValid.set (valid : c.IsValid) (assigned : c.set name value = .ok c') : c'.IsValid := by
  obtain ⟨key, source, read, rfl⟩ := set_eq_ok_iff.mp assigned
  obtain ⟨oneLine, -, meant⟩ := edit?_eq_some_iff.mp read
  exact (isValid_of_meaning? oneLine meant).copy valid key

theorem IsValid.setAll (valid : c.IsValid) (assigned : c.setAll assignments = .ok c') :
    c'.IsValid := by
  induction assignments generalizing c with
  | nil =>
    cases assigned
    exact valid
  | cons first rest ih =>
    obtain ⟨name, value⟩ := first
    rw [Configuration.setAll] at assigned
    split at assigned
    · cases assigned
    · exact ih (valid.set ‹_›) assigned

/-! ## What is read again -/

/-- **A key has the value that a text stands for when it is read again**: a number, a device,
a flag, or a path without the blanks around it, which is none if nothing else is there. -/
def Holds (c : Configuration) (value : String) : Key → Prop
  | .memory => readPositive? value.toList = some c.memoryMb
  | .bootDevice => BootDevice.read? value.toList = some c.bootDevice
  | .screenWidth => readPositive? value.toList = some c.screenWidth
  | .screenHeight => readPositive? value.toList = some c.screenHeight
  | .displayIndex => readUInt32? value.toList = some c.displayIndex
  | .sound => readFlag? value.toList = some c.soundEnabled
  | .primaryDisk => c.primaryDisk = trimPath (some value)
  | .secondaryDisk => c.secondaryDisk = trimPath (some value)
  | .cdrom => c.cdrom = trimPath (some value)

theorem trimPath_readPath (value : String) : trimPath (readPath value) = trimPath (some value) := by
  unfold readPath
  split
  · rename_i empty
    obtain rfl : value = "" := by simpa using empty
    rfl
  · rfl

theorem holds_copy (held : source.Holds value key) (c : Configuration) :
    (source.copy c key).Holds value key := by
  cases key <;> exact held

theorem holds_trimmed_of_meaning? (read : meaning? key value = some source) :
    source.trimmed.Holds value key := by
  cases key with
  | memory | screenWidth | screenHeight | bootDevice | displayIndex | sound =>
    obtain ⟨_, number, rfl⟩ := Option.map_eq_some_iff.mp read
    exact number
  | primaryDisk | secondaryDisk | cdrom =>
    cases read
    exact trimPath_readPath value

/-- **What an assignment changes in what is read again**: the value of its key, which is what
its text stands for, and nothing else. -/
theorem IsNormal.set_trimmed (normal : c.IsNormal) (assigned : c.set name value = .ok c') :
    ∃ key, Key.ofName? name = some key ∧ c'.trimmed.copy c key = c'.trimmed ∧
      c'.trimmed.Holds value key := by
  obtain ⟨key, source, read, rfl⟩ := set_eq_ok_iff.mp assigned
  obtain ⟨-, found, meant⟩ := edit?_eq_some_iff.mp read
  have same : (source.copy c key).trimmed = source.trimmed.copy c key := by
    rw [trimmed_copy, (trimmed_eq_self_iff c).mpr normal.neat]
  rw [same]
  exact ⟨key, found, copy_copy_self source.trimmed c key,
    holds_copy (holds_trimmed_of_meaning? meant) c⟩

/-! ## Values that are read as they are -/

/-- **A key's value is read from its file as it is.** -/
def NeatAt (c : Configuration) (key : Key) : Prop := ∀ path, (key, path) ∈ c.paths → IsNeat path

theorem trimmed_eq_self_iff_neatAt (c : Configuration) : c.trimmed = c ↔ ∀ key, c.NeatAt key :=
  trimmed_eq_self_iff c

theorem neatAt_copy (source c : Configuration) (key : Key) :
    (source.copy c key).NeatAt key ↔ source.NeatAt key := by
  cases key <;> simp [NeatAt, paths, Configuration.copy]

theorem neatAt_copy_of_ne (different : key' ≠ key) (source c : Configuration) :
    (source.copy c key).NeatAt key' ↔ c.NeatAt key' := by
  cases key <;> cases key' <;>
    first
    | exact absurd rfl different
    | simp [NeatAt, paths, Configuration.copy]

theorem isNeat_readPath_iff (value : String) :
    IsNeat (readPath value) ↔ IsTrimmed value.toList := by
  unfold readPath
  split
  · rename_i empty
    obtain rfl : value = "" := by simpa using empty
    have trimmed : IsTrimmed [] := isTrimmed_of_forall (by simp)
    simp [IsNeat, trimmed]
  · rename_i nonempty
    have some_ne : value ≠ "" := by simpa using nonempty
    simp [IsNeat, some_ne]

/-- What an assignment gives its key is read as it is if no blanks are around a path. -/
theorem neatAt_iff_of_meaning? (read : meaning? key value = some source) :
    source.NeatAt key ↔ (key.isPath → IsTrimmed value.toList) := by
  cases key with
  | memory | screenWidth | screenHeight | bootDevice | displayIndex | sound =>
    simp [NeatAt, paths, Key.isPath]
  | primaryDisk | secondaryDisk | cdrom =>
    cases read
    simp [NeatAt, paths, Key.isPath, isNeat_readPath_iff]

/-- **When assignments are read as they were made**: where nothing is assigned, the value was
read as it is before, and where a path is assigned, no blanks are around it. -/
theorem forall_neatAt_setAll_iff (distinct : (assignments.map Prod.fst).Nodup)
    (assigned : c.setAll assignments = .ok c') :
    (∀ key, c'.NeatAt key) ↔
      (∀ key, (∀ a ∈ assignments, Key.ofName? a.1 ≠ some key) → c.NeatAt key) ∧
        ∀ a ∈ assignments, ∀ key, Key.ofName? a.1 = some key → key.isPath →
          IsTrimmed a.2.toList := by
  induction assignments generalizing c with
  | nil =>
    cases assigned
    simp
  | cons first rest ih =>
    obtain ⟨name, value⟩ := first
    rw [List.map_cons, List.nodup_cons] at distinct
    rw [Configuration.setAll] at assigned
    split at assigned
    · cases assigned
    · rename_i middle here
      obtain ⟨key, source, read, rfl⟩ := set_eq_ok_iff.mp here
      obtain ⟨-, found, meant⟩ := edit?_eq_some_iff.mp read
      -- No later assignment is to the key of the first.
      have later : ∀ a ∈ rest, Key.ofName? a.1 ≠ some key := by
        intro a member same
        have names := (Key.name_of_ofName? found).symm.trans (Key.name_of_ofName? same)
        exact distinct.1 (List.mem_map.mpr ⟨a, member, names.symm⟩)
      have copied : (source.copy c key).NeatAt key ↔ (key.isPath → IsTrimmed value.toList) :=
        (neatAt_copy source c key).trans (neatAt_iff_of_meaning? meant)
      rw [ih distinct.2 assigned]
      constructor
      · rintro ⟨kept, trimmed⟩
        refine ⟨fun other free => ?_, List.forall_mem_cons.mpr ⟨fun other same => ?_, trimmed⟩⟩
        · obtain ⟨apart, free⟩ := List.forall_mem_cons.mp free
          have different : other ≠ key := by
            rintro rfl
            exact apart found
          exact (neatAt_copy_of_ne different source c).mp (kept other free)
        · obtain rfl : key = other := Option.some.inj (found.symm.trans same)
          exact copied.mp (kept key later)
      · rintro ⟨kept, trimmed⟩
        obtain ⟨own, trimmed⟩ := List.forall_mem_cons.mp trimmed
        refine ⟨fun other free => ?_, trimmed⟩
        by_cases same : other = key
        · subst same
          exact copied.mpr (own other found)
        · have apart : Key.ofName? name ≠ some other := fun found' =>
            same (Option.some.inj (found'.symm.trans found))
          exact (neatAt_copy_of_ne same source c).mpr
            (kept other (List.forall_mem_cons.mpr ⟨apart, free⟩))

end Configuration

end GuestSupervisor
