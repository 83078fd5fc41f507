import GuestSupervisor.Proofs.Configuration.Edit

/-!
# Saving step by step

The directories above the file of a store are made, the new content is written aside, and the file
that was written aside is renamed over the old one.  The host may refuse each of these steps.
Whatever it refuses, the directories that were made stay and nothing else is done, or the file is
replaced.  On a host that refuses nothing the steps together are what a store does in one go.

## Main Definitions

* `ConfigurationStore.Refusals` — what the host refuses.
* `ConfigurationStore.saveIn`, `setIn` — saving and editing step by step.
* `ConfigurationStore.setEachIn` — edits one after the other.
* `ConfigurationStore.write` — what an edit does to the files.

## Main Statements

* `ConfigurationStore.write_cases` — what an edit comes to.
* `ConfigurationStore.saveIn_cases`, `setIn_cases` — what the steps come to.
* `ConfigurationStore.setIn_unrefused` — with nothing refused, the steps are one.
-/

namespace GuestSupervisor

open FileSystem Text

namespace ConfigurationStore

variable {store : ConfigurationStore} {c : Configuration} {fs fs' : FileSystem}
  {e : ConfigurationError} {edited : Except ConfigurationError Configuration}
  {save : Configuration → FileSystem → Except ConfigurationError Unit × FileSystem}

/-! ## Edits -/

/-- What an edit does once it is known what becomes of it in memory: a configuration is
validated and saved, and anything else is left at that. -/
def write (save : Configuration → FileSystem → Except ConfigurationError Unit × FileSystem)
    (edited : Except ConfigurationError Configuration) (fs : FileSystem) :
    Except ConfigurationError Configuration × FileSystem :=
  match edited with
  | .error e => (.error e, fs)
  | .ok c =>
    match c.validate with
    | .error e => (.error e, fs)
    | .ok () =>
      match save c fs with
      | (.error e, fs) => (.error e, fs)
      | (.ok (), fs) => (.ok c, fs)

theorem write_save (store : ConfigurationStore)
    (edited : Except ConfigurationError Configuration) (fs : FileSystem) :
    write store.save edited fs =
      match edited with
      | .error e => (.error e, fs)
      | .ok c =>
        match store.update c fs with
        | (.error e, fs) => (.error e, fs)
        | (.ok (), fs) => (.ok c, fs) := by
  cases edited with
  | error e => rfl
  | ok c =>
    simp only [write, update]
    cases c.validate <;> rfl

theorem set_eq_write (store : ConfigurationStore) (name value : String) (fs : FileSystem) :
    store.set name value fs
      = write store.save ((store.load fs).configuration.set name value) fs :=
  (write_save ..).symm

theorem setAll_eq_write (store : ConfigurationStore) (assignments : List (String × String))
    (fs : FileSystem) :
    store.setAll assignments fs
      = write store.save ((store.load fs).configuration.setAll assignments) fs :=
  (write_save ..).symm

/-- **What an edit comes to**: what was edited in memory is saved, and nothing is done to the
files otherwise. -/
theorem write_cases
    (save : Configuration → FileSystem → Except ConfigurationError Unit × FileSystem)
    (edited : Except ConfigurationError Configuration) (fs : FileSystem) :
    match write save edited fs with
    | (.ok c, fs') => edited = .ok c ∧ save c fs = (.ok (), fs')
    | (.error _, fs') => fs' = fs ∨ ∃ c e, save c fs = (.error e, fs') := by
  unfold write
  cases edited with
  | error e => exact Or.inl rfl
  | ok c =>
    cases validated : c.validate with
    | error problem => simp only [validated, true_or]
    | ok =>
      simp only [validated]
      cases saved : save c fs with
      | mk result after =>
        cases result with
        | ok => exact ⟨rfl, saved⟩
        | error e => exact Or.inr ⟨c, e, saved⟩

/-! ## Steps -/

/-- **What the host refuses** when a configuration is saved, and the mark in the name of the file
that is written aside. -/
structure Refusals where
  directory : FileSystem → String → Option IoFailure := fun _ _ => none
  replace : FileSystem → Circumstances

/-- A host that refuses nothing of its own accord. -/
def Refusals.none (mark : FileSystem → String) : Refusals :=
  { replace := fun fs => { mark := mark fs } }

/-- **Saves a configuration step by step.** -/
def saveIn (store : ConfigurationStore) (refusals : Refusals) (c : Configuration)
    (fs : FileSystem) : Except ConfigurationError Unit × FileSystem :=
  match makeDirectoriesUnless refusals.directory fs store.directory with
  | (.error failure, fs) => (.error (.io store.path failure), fs)
  | (.ok (), fs) =>
    let r := fs.replaceAside (refusals.replace fs) store.directory store.path
      (Utf8.encode c.fileText)
    (r.result.mapError fun failure => .io store.path failure.cause, r.settled)

/-- **Assigns one key in the stored configuration step by step.** -/
def setIn (store : ConfigurationStore) (refusals : Refusals) (name value : String)
    (fs : FileSystem) : Except ConfigurationError Configuration × FileSystem :=
  write (store.saveIn refusals) ((store.load fs).configuration.set name value) fs

/-- The file system after edits one after the other, whatever becomes of each. -/
def setEachIn (store : ConfigurationStore) (edits : List (Refusals × String × String))
    (fs : FileSystem) : FileSystem :=
  edits.foldl (fun fs (refusals, name, value) => (store.setIn refusals name value fs).2) fs

/-- The files when the directories above the file have been made, as far as they could be. -/
def prepared (store : ConfigurationStore) (refusals : Refusals) (fs : FileSystem) : FileSystem :=
  (makeDirectoriesUnless refusals.directory fs store.directory).2

/-- **What saving comes to**, whatever is refused: the way of the file is prepared, and that is all
or the file is replaced. -/
theorem saveIn_cases (store : ConfigurationStore) (refusals : Refusals) (c : Configuration)
    (fs : FileSystem) :
    match store.saveIn refusals c fs with
    | (.error _, fs') => fs' = store.prepared refusals fs
    | (.ok (), fs') =>
      (store.prepared refusals fs).replaceFile store.path (Utf8.encode c.fileText) = .ok fs' := by
  unfold saveIn prepared
  cases makeDirectoriesUnless refusals.directory fs store.directory with
  | mk result made =>
    cases result with
    | error failure => rfl
    | ok =>
      have cases := made.replaceAside_cases (refusals.replace made) store.directory store.path
        (Utf8.encode c.fileText)
      simp only at cases ⊢
      generalize made.replaceAside (refusals.replace made) store.directory store.path
        (Utf8.encode c.fileText) = r at cases ⊢
      obtain ⟨result, files, held⟩ := r
      cases result <;> exact cases

/-- **What an edit comes to**, whatever is refused. -/
theorem setIn_cases (store : ConfigurationStore) (refusals : Refusals) (name value : String)
    (fs : FileSystem) :
    match store.setIn refusals name value fs with
    | (.error _, fs') => fs' = fs ∨ fs' = store.prepared refusals fs
    | (.ok c, fs') => (store.load fs).configuration.set name value = .ok c ∧
      (store.prepared refusals fs).replaceFile store.path (Utf8.encode c.fileText) = .ok fs' := by
  have cases := write_cases (store.saveIn refusals)
    ((store.load fs).configuration.set name value) fs
  rw [setIn]
  generalize write (store.saveIn refusals) ((store.load fs).configuration.set name value) fs
    = outcome at cases ⊢
  obtain ⟨result, after⟩ := outcome
  cases result with
  | error e =>
    refine cases.imp id ?_
    rintro ⟨c, e, saved⟩
    simpa only [saved] using store.saveIn_cases refusals c fs
  | ok c =>
    obtain ⟨assigned, saved⟩ := cases
    exact ⟨assigned, by simpa only [saved] using store.saveIn_cases refusals c fs⟩

/-! ## What the steps keep -/

theorem addsDirectories_prepared (store : ConfigurationStore) (refusals : Refusals)
    (fs : FileSystem) : fs.AddsDirectories (store.prepared refusals fs) :=
  addsDirectories_makeDirectoriesUnless refusals.directory store.directory

/-- Everything is still in a directory when directories have been made. -/
theorem grounded_prepared (grounded : fs.Grounded) (refusals : Refusals) :
    (store.prepared refusals fs).Grounded :=
  makeDirectoriesUnless_induction refusals.directory grounded fun _ _ grounded made => by
    obtain ⟨place, resolved, rfl⟩ := makeDirectory_cases made
    exact grounded.put_of_resolve resolved (by simp)

/-- **Everything stays in a directory**, whatever becomes of an edit. -/
theorem grounded_setIn (grounded : fs.Grounded) (refusals : Refusals) (name value : String) :
    (store.setIn refusals name value fs).2.Grounded := by
  have cases := store.setIn_cases refusals name value fs
  generalize store.setIn refusals name value fs = outcome at cases ⊢
  obtain ⟨result, after⟩ := outcome
  have ready : (store.prepared refusals fs).Grounded := grounded_prepared grounded refusals
  cases result with
  | error e =>
    rcases cases with same | same
    · exact same ▸ grounded
    · exact same ▸ ready
  | ok c =>
    obtain ⟨place, old, resolved, notDirectory, same⟩ := replaceFile_cases cases.2
    rw [same]
    refine ready.put_of_resolve resolved ?_
    rwa [← lookup_of_follow (resolve_eq resolved fs true).1]

theorem grounded_setEachIn (grounded : fs.Grounded) (edits : List (Refusals × String × String)) :
    (store.setEachIn edits fs).Grounded := by
  induction edits generalizing fs with
  | nil => exact grounded
  | cons edit edits ih => exact ih (grounded_setIn grounded edit.1 edit.2.1 edit.2.2)

/-! ## With nothing refused -/

/-- The path of the directory is written by its parts. -/
theorem ofParts_directory (store : ConfigurationStore) :
    Path.ofParts (Path.parts store.directory) = store.directory := by
  unfold directory
  split
  · rename_i parent found
    split
    · rfl
    · unfold Path.parent? at found
      split at found
      · cases found
      · cases found
      · cases found
        have proper : Path.Proper (Path.parts store.path).dropLast :=
          (Path.proper_parts store.path).of_initial (List.dropLast_prefix _)
        rw [proper.parts_ofParts]
  · rfl

theorem directory_ne_empty (store : ConfigurationStore) : store.directory ≠ "" := by
  unfold directory
  split
  · split
    · decide
    · rename_i nonempty
      simpa using nonempty
  · decide

/-- **With nothing refused, saving step by step is saving.** -/
theorem saveIn_unrefused {mark : FileSystem → String} (fresh : FreshMarks mark)
    (store : ConfigurationStore) (c : Configuration) (fs : FileSystem) :
    store.saveIn (.none mark) c fs = store.save c fs := by
  unfold saveIn save
  rw [show (Refusals.none mark).directory = fun _ _ => Option.none from rfl,
    makeDirectoriesUnless_none]
  cases made : fs.makeDirectories store.directory with
  | mk result made' =>
    cases result with
    | error failure => rfl
    | ok =>
      have there := isDirectory_of_makeDirectories store.directory_ne_empty made
      rw [ofParts_directory] at there
      obtain ⟨place, resolved⟩ := isDirectory_iff.mp there
      have steps := settled_replaceAside (fresh made') store.directory store.path
        (Utf8.encode c.fileText)
      have listed : made'.listDirectory store.directory = .ok (made'.allChildren place) := by
        simp [listDirectory, resolved, bind, Except.bind]
      simp only [listed] at steps
      cases replaced : made'.replaceFile store.path (Utf8.encode c.fileText) with
      | error failure =>
        obtain ⟨result, settled⟩ := Prod.mk.inj (steps.trans (by rw [replaced]))
        simp only [Refusals.none, result, settled, replaced]
        rfl
      | ok files =>
        obtain ⟨result, settled⟩ := Prod.mk.inj (steps.trans (by rw [replaced]))
        simp only [Refusals.none, result, settled, replaced]
        rfl

/-- **With nothing refused, editing step by step is editing.** -/
theorem setIn_unrefused {mark : FileSystem → String} (fresh : FreshMarks mark)
    (store : ConfigurationStore) (name value : String) (fs : FileSystem) :
    store.setIn (.none mark) name value fs = store.set name value fs := by
  rw [set_eq_write, setIn, funext fun c => funext (store.saveIn_unrefused fresh c)]

end ConfigurationStore

end GuestSupervisor
