import GuestSupervisor.Proofs.Configuration.Saving

/-!
# Edits of the stored configuration

An edit loads the configuration, changes one value in memory and writes the file anew.  What
is loaded is in normal form whatever the file holds, so nothing but the edited value can be
another when the file is read again, and whatever goes wrong goes wrong before the file is
replaced.

What can go wrong is the path.  It may lead up again out of a directory that has yet to be
made, and then making the directory may put it where the path leads; and it may name a link
and go on through the link, which is gone when the file has taken its place.

## Main Statements

* `ConfigurationStore.prepares_of_setIn` — what a failed edit does.
* `ConfigurationStore.load_of_valid` — how the file of an edited configuration is loaded.
* `ConfigurationStore.set_after_edits` — what an edit does after any others.
-/

namespace GuestSupervisor

open FileSystem Text

namespace ConfigurationStore

variable {store : ConfigurationStore} {c : Configuration} {fs fs' : FileSystem}
  {e : ConfigurationError} {edited : Except ConfigurationError Configuration}
  {refusals : Refusals} {name value : String}

/-- **What is loaded is normal**, whatever is at the path. -/
theorem isNormal_load (store : ConfigurationStore) (fs : FileSystem) :
    (store.load fs).configuration.IsNormal := by
  unfold load
  split
  · exact Configuration.Loaded.isNormal_ofString _
  · exact Configuration.isNormal_default

/-! ## Edits on a host that refuses nothing -/

/-- A successful edit was possible in memory, and the file holds its result. -/
theorem readBytes_of_write (usable : store.Usable fs)
    (done : write store.save edited fs = (.ok c, fs')) :
    edited = .ok c ∧ fs'.readBytes store.path = .ok (Utf8.encode c.fileText) := by
  have cases := write_cases store.save edited fs
  rw [done] at cases
  exact ⟨cases.1, readBytes_of_save usable cases.2⟩

/-- **The file of an edited configuration is loaded without its blanks and without a
warning.** -/
theorem load_of_valid (valid : c.IsValid)
    (read : fs.readBytes store.path = .ok (Utf8.encode c.fileText)) :
    store.load fs = ⟨c.trimmed, []⟩ := by
  rw [load_of_readBytes read, Configuration.Loaded.ofString_render valid]

/-! ## Edits on any host -/

/-- What a failed edit did was to make directories. -/
theorem addsDirectories_of_setIn (failed : store.setIn refusals name value fs = (.error e, fs')) :
    fs.AddsDirectories fs' := by
  have cases := store.setIn_cases refusals name value fs
  rw [failed] at cases
  rcases cases with rfl | rfl
  · exact .refl _
  · exact store.addsDirectories_prepared refusals fs

/-- **What a failed edit does**: it has prepared the way of the file at most. -/
theorem prepares_of_setIn (grounded : fs.Grounded) (climbs : fs.ClimbsKnown store.path)
    (failed : store.setIn refusals name value fs = (.error e, fs')) :
    Prepares store.path fs fs' := by
  have cases := store.setIn_cases refusals name value fs
  rw [failed] at cases
  rcases cases with rfl | rfl
  · exact .refl grounded
  · exact store.prepares_makeDirectories refusals.directory grounded climbs

/-- A failed edit changes nothing where something is at the path. -/
theorem eq_of_setIn (grounded : fs.Grounded) (there : ¬fs.NamesNothing store.path)
    (failed : store.setIn refusals name value fs = (.error e, fs')) : fs' = fs := by
  obtain ⟨place, node, resolved⟩ : ∃ place node,
      fs.resolve store.path false = .ok (place, some node) := by
    simpa [NamesNothing] using there
  have prepared := prepares_of_setIn grounded (climbsKnown_of_resolve resolved) failed
  exact prepared.outcome.resolve_right fun nothing => there nothing.1

/-- **What an edit does after any others**, from any file system in which everything is in a
directory, and whatever the host refuses of this edit and of those before it.

If it fails, then nothing is changed where something is at the path.  Where nothing is, nothing but
directories is made, and still nothing is at the path, unless the path takes a step up out of a
directory that is missing.

If it succeeds, then directories are made and the configuration that was returned is put where the
path leads.  It is read there unless the path circles back.  Then too what is loaded next has no
warnings and is what was loaded before, but for the key of the edit, which has the value that its
text stands for.

Where nothing is refused, this is what the program does. -/
theorem set_after_edits (store : ConfigurationStore) (fs : FileSystem) (grounded : fs.Grounded)
    (edits : List (Refusals × String × String)) (refusals : Refusals) (name value : String) :
    let before := store.setEachIn edits fs
    (∀ e after, store.setIn refusals name value before = (.error e, after) →
      before.AddsDirectories after
        ∧ (¬before.NamesNothing store.path → after = before)
        ∧ (before.NamesNothing store.path → before.ClimbsKnown store.path →
          after.NamesNothing store.path))
      ∧ (∀ c after, store.setIn refusals name value before = (.ok c, after) →
        ∃ made place, before.AddsDirectories made
          ∧ (∃ old, made.resolve store.path false = .ok (place, old))
          ∧ after = made.put place (.file (Utf8.encode c.fileText))
          ∧ (after.readBytes store.path = .ok (Utf8.encode c.fileText)
            ↔ ¬made.CirclesBack store.path)
          ∧ (¬made.CirclesBack store.path → ∃ key loaded, Key.ofName? name = some key
            ∧ store.load after = ⟨loaded, []⟩
            ∧ loaded.copy (store.load before).configuration key = loaded
            ∧ loaded.Holds value key))
      ∧ ∀ mark, FreshMarks mark →
        store.setIn (.none mark) name value before = store.set name value before := by
  intro before
  have grounded : before.Grounded := grounded_setEachIn grounded edits
  refine ⟨fun e after failed => ⟨addsDirectories_of_setIn failed, fun there =>
    eq_of_setIn grounded there failed, fun nothing climbs => ?_⟩, fun c after done => ?_,
    fun mark fresh => setIn_unrefused fresh store name value before⟩
  · rcases (prepares_of_setIn grounded climbs failed).outcome with rfl | ⟨-, still⟩
    · exact nothing
    · exact still
  · have cases := store.setIn_cases refusals name value before
    rw [done] at cases
    obtain ⟨assigned, replaced⟩ := cases
    obtain ⟨place, old, resolved, -, put⟩ := replaceFile_cases replaced
    refine ⟨store.prepared refusals before, place, store.addsDirectories_prepared refusals before,
      ⟨old, resolved⟩, put, readBytes_of_replaceFile_iff replaced, fun direct => ?_⟩
    have normal := store.isNormal_load before
    obtain ⟨key, found, others, held⟩ := normal.set_trimmed assigned
    exact ⟨key, c.trimmed, found,
      load_of_valid (normal.valid.set assigned) (readBytes_of_replaceFile replaced direct), others,
      held⟩

open GuestSupervisor.Configuration in
/-- A file that is missing, an edit that fails in memory, and one that fails when the file that was
written aside is renamed.  Then one that gives a path blanks around it, and one that fails when only
a part of the file could be written. -/
theorem set_after_edits_missing :
    let edits : List (Refusals × String × String) :=
      [(.none freshMark, "RAM_MB", "0"),
        ({ replace := fun fs => { mark := freshMark fs, rename := some (.os .busy) } },
          "RAM_MB", "256")]
    noFiles.Grounded
      ∧ (∃ c after, rootStore.setIn (.none freshMark) "PRIMARY_DISK" " a b "
            (rootStore.setEachIn edits noFiles) = (.ok c, after)
          ∧ (rootStore.load after).configuration.primaryDisk = some "a b")
      ∧ ∃ e after, rootStore.setIn
            { replace := fun fs => { mark := freshMark fs, write := some (7, .os .busy) } }
            "SOUND" "true" (rootStore.setEachIn edits noFiles) = (.error e, after)
          ∧ after.NamesNothing rootStore.path := by
  intro edits
  have resolved : (rootStore.setEachIn edits noFiles).resolve rootStore.path false
      = .ok (["macemu.conf"], none) := rfl
  have nothing : (rootStore.setEachIn edits noFiles).NamesNothing rootStore.path := by
    intro place node found
    rw [resolved] at found
    cases found
  obtain ⟨-, done, -⟩ := set_after_edits rootStore noFiles grounded_noFiles edits (.none freshMark)
    "PRIMARY_DISK" " a b "
  obtain ⟨failed, -, -⟩ := set_after_edits rootStore noFiles grounded_noFiles edits
    { replace := fun fs => { mark := freshMark fs, write := some (7, .os .busy) } } "SOUND" "true"
  refine ⟨grounded_noFiles, ⟨_, _, rfl, ?_⟩, _, _, rfl,
    (failed _ _ rfl).2.2 nothing (climbsKnown_of_resolve resolved)⟩
  obtain ⟨made, place, adds, ⟨old, found⟩, -, -, reads⟩ := done _ _ rfl
  have direct : ¬made.CirclesBack rootStore.path :=
    not_circlesBack_of_noLink lookup_noFiles_ne_link adds
  obtain ⟨key, loaded, found, same, -, held⟩ := reads direct
  obtain rfl : Key.primaryDisk = key := Option.some.inj found
  rw [same]
  exact held.trans (by decide)

/-- A path that leads up again out of a directory that saving has to make. -/
def climbing : ConfigurationStore := ⟨"a/../a"⟩

/-- A path that leads through the link that it names. -/
def circling : ConfigurationStore := ⟨"l/l"⟩

/-- **Not every path of a store is safe.**  A failed edit makes a directory where nothing was
at the one, and at the other no file can be read after an edit that succeeded. -/
theorem set_not_contained :
    (∃ e after, climbing.set "RAM_MB" "256" .noFiles = (.error e, after)
        ∧ FileSystem.noFiles.node? climbing.path = .error (.os .noEntry)
        ∧ after.node? climbing.path = .ok .directory)
      ∧ ∃ c after, circling.set "RAM_MB" "256" (FileSystem.noFiles.put ["l"] (.link "."))
          = (.ok c, after)
        ∧ after.readBytes circling.path = .error (.os .notDirectory) :=
  ⟨⟨_, _, rfl, rfl, rfl⟩, ⟨_, _, rfl, rfl⟩⟩

end ConfigurationStore

end GuestSupervisor
