import GuestSupervisor.Proofs.Host.Making
import Mathlib.Algebra.Order.BigOperators.Group.List

/-!
# Files that are written aside

A file is replaced in three steps: an empty file of a new name is made in the same directory, it is
written, and it is renamed over the old one.  Each step may be refused.  Whoever failed to write
removes the new file at once; whoever failed to rename hands it back with the error, and it is
removed when the error is.  After that nothing has changed, or the old file is replaced and nothing
else has changed.  That a file which was written aside can be removed is taken for granted.

## Main Definitions

* `FileSystem.Circumstances` — what the steps depend on besides the files.
* `FileSystem.FreshMarks` — marks for names that are free.
* `FileSystem.replaceAside` — replacing a file step by step.
* `FileSystem.Replacing` — how that may end.
* `FileSystem.without` — what is left when the file that a path names is removed.

## Main Statements

* `FileSystem.resolve_join` — where a name under a directory leads.
* `FileSystem.replaceAside_cases` — nothing is done in the end, or the file is replaced.
* `FileSystem.replacing_replaceAside` — nothing is done, or the new file is still there, or the old
  one is replaced.
* `FileSystem.settled_replaceAside` — with nothing refused, the steps are one.
* `FileSystem.drop_without` — a file that is handed back does not get in the way of a removal.
-/

namespace GuestSupervisor.FileSystem

open GuestSupervisor.Path

variable {fs : FileSystem} {place aside here there : Location} {node : Node} {base name : String}
  {content : List UInt8}

/-! ## Putting and dropping -/

@[simp] theorem put_workingDirectory (fs : FileSystem) (place : Location) (node : Node) :
    (fs.put place node).workingDirectory = fs.workingDirectory := rfl

@[simp] theorem put_put (fs : FileSystem) (place : Location) (node node' : Node) :
    (fs.put place node).put place node' = fs.put place node' := by
  simp [put]

theorem ne_nil_of_absent (absent : fs.lookup place = none) : place ≠ [] :=
  ne_nil_of_lookup (by rw [absent]; nofun)

/-- Nothing is dropped where nothing is. -/
theorem drop_of_absent (absent : fs.lookup place = none) : fs.drop place = fs := by
  rw [lookup, if_neg (ne_nil_of_absent absent), Option.map_eq_none_iff, List.find?_eq_none] at absent
  have kept : fs.entries.filter (·.1 != place) = fs.entries :=
    List.filter_eq_self.mpr fun entry member => by simpa using absent entry member
  rw [drop, kept]

/-- **What is put where nothing was can be dropped again.** -/
theorem drop_put (absent : fs.lookup place = none) (node : Node) :
    (fs.put place node).drop place = fs := by
  rw [← drop_of_absent absent]
  simp [put, drop]

theorem drop_put_of_ne (other : here ≠ place) (fs : FileSystem) (node : Node) :
    (fs.put here node).drop place = (fs.drop place).put here node := by
  simp [put, drop, List.filter_filter, other, Bool.and_comm]

theorem drop_comm (fs : FileSystem) (here place : Location) :
    (fs.drop here).drop place = (fs.drop place).drop here := by
  simp [drop, List.filter_filter, Bool.and_comm]

/-- What is left when something is dropped was there before. -/
theorem keeps_drop (fs : FileSystem) (place : Location) : (fs.drop place).Keeps fs where
  lookup := by
    intro here node found
    by_cases itself : here = place
    · subst itself
      by_cases root : here = []
      · subst root
        exact found
      · rw [lookup_drop_self root] at found
        cases found
    · rwa [lookup_drop_of_ne itself] at found
  workingDirectory := rfl

/-! ## Names under a directory -/

/-- **A walk goes on from the directory that it came to**, if what comes then needs no links. -/
theorem follow_append_of_directory {followLast : Bool} {rest steps : List String} {budget : Nat}
    {here there : Location} {outcome : Except OsError (Location × Option Node)} (more : rest ≠ [])
    (reached : fs.follow true budget here steps = .ok (there, some .directory))
    (onwards : ∀ left, fs.follow followLast left there rest = outcome) :
    fs.follow followLast budget here (steps ++ rest) = outcome := by
  have whole := fs.descend_append more followLast here steps
  cases walked : fs.descend true here steps with
  | failed error =>
    rw [follow_of_failed walked] at reached
    cases reached
  | arrived last node =>
    rw [follow_of_arrived walked] at reached
    cases reached
    rw [walked] at whole
    rw [← onwards budget, follow, follow, whole]
  | atLink directory target remaining =>
    rw [walked] at whole
    cases budget with
    | zero =>
      rw [(follow_of_atLink walked).1] at reached
      cases reached
    | succ budget =>
      rw [(follow_of_atLink walked).2] at reached
      rw [(follow_of_atLink whole).2, ← List.append_assoc]
      exact follow_append_of_directory more reached onwards

/-- What a base that can be opened asks for. -/
theorem undotted_steps_orHere (base : String) : Undotted (pieces base) (steps (orHere base)) := by
  unfold orHere
  split
  · rename_i empty
    obtain rfl : base = "" := by simpa using empty
    exact .dot .nil
  · exact undotted_steps base

theorem isAbsolute_join_orHere (base : String) (isName : IsName name) :
    isAbsolute (join base name) = isAbsolute (orHere base) := by
  unfold orHere
  split
  · rename_i empty
    obtain rfl : base = "" := by simpa using empty
    rw [show join "" name = name by simp [join, isName.isAbsolute], isName.isAbsolute]
    decide
  · rename_i nonempty
    exact isAbsolute_join (by simpa using nonempty) isName.isAbsolute

theorem noZero_of_resolve {path : String} {followLast : Bool} {found : Location × Option Node}
    (resolved : fs.resolve path followLast = .ok found) : '\x00' ∉ path.toList := by
  intro zero
  rw [resolve, if_pos (List.contains_iff_mem.mpr zero)] at resolved
  cases resolved

theorem join_ne_empty (base : String) (isName : IsName name) : join base name ≠ "" := by
  intro empty
  have cut := pieces_join base isName.isAbsolute
  rw [empty, isName.piece.pieces_eq] at cut
  simpa [pieces, Text.segments] using congrArg List.length cut

/-- **Where a name under a directory leads**: to that entry of the directory, if neither the path
nor the name is too long. -/
theorem resolve_join (led : fs.resolve (orHere base) true = .ok (there, some .directory))
    (isName : IsName name) (clean : '\x00' ∉ name.toList) :
    fs.resolve (join base name) false =
      if longestPath < (join base name).utf8ByteSize ∨ longestName < name.utf8ByteSize then
        .error (.os .nameTooLong)
      else .ok (there ++ [name], fs.lookup (there ++ [name])) := by
  obtain ⟨reached, -⟩ := resolve_eq led fs true
  have onWay := follow_undotted (undotted_steps_orHere base) reached
  have walk : fs.follow false linkBudget _ (_ ++ [name]) = _ :=
    follow_append_of_directory (List.cons_ne_nil name []) onWay
      (follow_entry isName (lookup_of_follow reached))
  have clean' : '\x00' ∉ base.toList := by
    have cleanHere := noZero_of_resolve led
    unfold orHere at cleanHere
    split at cleanHere
    · rename_i empty
      simp [show base = "" by simpa using empty]
    · exact cleanHere
  have noZero : ¬(join base name).toList.contains '\x00' :=
    mt List.contains_iff_mem.mp (noZero_join isName clean' clean)
  have nonempty : ¬(join base name).isEmpty := by simpa using join_ne_empty base isName
  rw [resolve, if_neg noZero, if_neg nonempty, steps_join base isName]
  change (if _ then _ else (fs.follow false linkBudget (origin _ _) _).mapError _) = _
  rw [origin_congr (isAbsolute_join_orHere base isName), walk]
  by_cases longPath : longestPath < (join base name).utf8ByteSize
  · rw [if_pos longPath, if_pos (.inl longPath)]
  · by_cases longName : longestName < name.utf8ByteSize
    · rw [if_neg longPath, if_pos longName, if_pos (.inr longName)]
      rfl
    · rw [if_neg longPath, if_neg longName, if_neg (not_or.mpr ⟨longPath, longName⟩)]
      rfl

/-- Names lead to the same in the same directory, if the same is there. -/
theorem resolve_join_congr {fs' : FileSystem}
    (led : fs.resolve (orHere base) true = .ok (there, some .directory))
    (led' : fs'.resolve (orHere base) true = .ok (there, some .directory))
    (isName : IsName name) (clean : '\x00' ∉ name.toList)
    (same : fs'.lookup (there ++ [name]) = fs.lookup (there ++ [name])) :
    fs'.resolve (join base name) false = fs.resolve (join base name) false := by
  rw [resolve_join led' isName clean, resolve_join led isName clean, same]

/-- What a name under a base leads to lies in a directory. -/
theorem exists_directory_of_join (isName : IsName name) {found : Location × Option Node}
    (resolved : fs.resolve (join base name) false = .ok found) :
    ∃ there, fs.resolve (orHere base) true = .ok (there, some .directory) := by
  by_cases empty : base = ""
  · subst empty
    obtain ⟨reached, -⟩ := resolve_eq resolved fs true
    rw [steps_join "" isName] at reached
    obtain ⟨there, -, first, -⟩ := follow_append (List.cons_ne_nil _ _) reached
    rw [origin_congr (isAbsolute_join_orHere "" isName)] at first
    refine ⟨there, ?_⟩
    change (fs.follow true linkBudget (origin _ _) _).mapError _ = _
    rw [follow_of_undotted (undotted_steps_orHere "") first]
    rfl
  · have itself : orHere base = base := if_neg (by simpa using empty)
    rw [itself]
    exact isDirectory_iff.mp (isDirectory_of_join empty isName resolved)

/-! ## Directories beside a file -/

theorem put_drop (fs : FileSystem) (place : Location) (node : Node) :
    (fs.drop place).put place node = fs.put place node := by
  simp [put, drop]

/-- A walk to a directory does not come by a file that is put where nothing was. -/
theorem follow_of_put (absent : fs.lookup place = none) {budget : Nat} {here : Location}
    {steps : List String}
    (reached : (fs.put place (.file content)).follow true budget here steps
      = .ok (there, some .directory)) :
    fs.follow true budget here steps = .ok (there, some .directory) := by
  have file : (fs.put place (.file content)).lookup place = some (.file content) :=
    lookup_put_self (ne_nil_of_absent absent)
  have directory' := directory_of_follow reached
  have off : here ≠ place := by
    rintro rfl
    rw [file] at directory'
    cases directory'
  have directory : fs.lookup here = some .directory := by rwa [lookup_put_of_ne off] at directory'
  cases steps with
  | nil =>
    rw [follow_nil, directory'] at reached
    rw [follow_nil, directory, reached]
  | cons step rest =>
    have same : (fs.put place (.file content)).turn here step = fs.turn here step := by
      rcases turn_cases here step with ⟨there, same⟩ | ⟨error, same⟩ | same
      · rw [same _ directory, same _ directory']
      · rw [same _ directory, same _ directory']
      · rw [same _ directory, same _ directory']
        by_cases itself : here ++ [step] = place
        · -- Then the walk would go on from the file.
          rw [follow_cons, same _ directory', itself] at reached
          simp only [named, file] at reached
          have onwards := directory_of_follow reached
          rw [file] at onwards
          cases onwards
        · rw [named, named, lookup_put_of_ne itself]
    rw [follow_cons, same] at reached
    rw [follow_cons]
    cases turned : fs.turn here step with
    | stuck error =>
      rw [turned] at reached
      cases reached
    | on next =>
      rw [turned] at reached
      exact follow_of_put absent reached
    | missing next =>
      simp only [turned] at reached
      split at reached <;> cases reached
    | link next target =>
      rw [turned] at reached
      cases budget with
      | zero => cases reached
      | succ budget => exact follow_of_put absent reached
termination_by (budget, steps.length)

/-- **A directory that is found beside a file was found before**, whatever the file replaced. -/
theorem resolve_of_put {path : String} (notDirectory : fs.lookup place ≠ some .directory)
    (led : (fs.put place (.file content)).resolve path true = .ok (there, some .directory)) :
    fs.resolve path true = .ok (there, some .directory) := by
  obtain ⟨reached, again⟩ := resolve_eq led fs true
  rw [put_workingDirectory, ← put_drop] at reached
  have before := follow_of_put (lookup_drop_self (ne_nil_of_lookup notDirectory)) reached
  rw [again, (keeps_drop fs place).follow before]
  rfl

/-- **A directory is found again when something is replaced** that its path does not lead
through. -/
theorem resolve_put_of_avoids {path : String} (notDirectory : fs.lookup place ≠ some .directory)
    (avoids : ¬fs.LeadsThrough path place)
    (led : fs.resolve path true = .ok (there, some .directory)) :
    (fs.put place node).resolve path true = .ok (there, some .directory) := by
  obtain ⟨reached, again⟩ := resolve_eq led (fs.put place node) true
  have without := (follow_drop notDirectory avoids there .directory).mpr reached
  have kept : (fs.drop place).Keeps ((fs.drop place).put place node) :=
    keeps_put (lookup_drop_self (ne_nil_of_lookup notDirectory))
  rw [put_drop] at kept
  rw [again, put_workingDirectory, kept.follow without]
  rfl

/-- **A directory is found again when something is dropped** that its path does not lead
through. -/
theorem resolve_drop_of_avoids {path : String} (notDirectory : fs.lookup place ≠ some .directory)
    (avoids : ¬fs.LeadsThrough path place)
    (led : fs.resolve path true = .ok (there, some .directory)) :
    (fs.drop place).resolve path true = .ok (there, some .directory) := by
  obtain ⟨reached, again⟩ := resolve_eq led (fs.drop place) true
  rw [again, show (fs.drop place).workingDirectory = fs.workingDirectory from rfl,
    (follow_drop notDirectory avoids there .directory).mpr reached]
  rfl

/-- What a walk comes to when something was dropped, it came to before. -/
theorem passes_of_drop {dropped : Location} {steps : List String}
    (notDirectory : fs.lookup dropped ≠ some .directory)
    (passes : (fs.drop dropped).Passes place here steps) : fs.Passes place here steps := by
  have same : ∀ {here : Location} {step : String} {turned : Turn},
      (fs.drop dropped).turn here step = turned → (∀ error, turned ≠ .stuck error) →
        (∀ there, turned ≠ .missing there) → fs.turn here step = turned := by
    intro here step turned after going there
    rcases turn_drop notDirectory here step with ⟨_, error, -, stuck⟩ | ⟨-, -, missing⟩ | ⟨-, same⟩
    · exact absurd (after.symm.trans stuck) (going error)
    · exact absurd (after.symm.trans missing) (there dropped)
    · rw [← same, after]
  induction passes with
  | ends => exact .ends
  | on turned _ ih => exact .on (same turned (by simp) (by simp)) ih
  | through turned => exact .through (same turned (by simp) (by simp))
  | behind turned _ ih => exact .behind (same turned (by simp) (by simp)) ih

/-- A walk that comes to something that is no link ends there, if it ends. -/
theorem Passes.eq_of_follow {steps : List String}
    {budget : Nat} {node : Option Node} (passes : fs.Passes place here steps)
    (noLink : ∀ target, fs.lookup place ≠ some (.link target))
    (reached : fs.follow true budget here steps = .ok (there, node)) : there = place := by
  induction passes generalizing budget with
  | ends =>
    rw [follow_nil] at reached
    exact (Prod.mk.inj (Except.ok.inj reached)).1.symm
  | on turned _ ih =>
    rw [follow_cons, turned] at reached
    exact ih reached
  | through turned => exact absurd (lookup_of_turn_link turned).2 (noLink _)
  | behind turned _ ih =>
    rw [follow_cons, turned] at reached
    cases budget with
    | zero => cases reached
    | succ budget => exact ih reached

/-- The content of the file that a path names is read. -/
theorem readBytes_of_resolve {path : String}
    (resolved : fs.resolve path false = .ok (place, some (.file content))) :
    fs.readBytes path = .ok content :=
  readBytes_eq_ok_iff.mpr ⟨place, resolve_true_of_noLink (by simp) resolved⟩

/-! ## Steps -/

/-- **What the steps of replacing a file depend on besides the files**: the mark in the name of the
new file, and what the host refuses for reasons of its own. -/
structure Circumstances where
  mark : String
  create : Option IoFailure := none
  /-- Writing is refused after so many bytes.  Where what was written is made sure of, that may be
  refused, too: then after all of them. -/
  write : Option (Nat × IoFailure) := none
  rename : Option IoFailure := none

/-- The name of a file that is written aside. -/
def asideName (mark : String) : String := ".tmp" ++ mark

/-- Why a file was not replaced. -/
inductive AsideFailure where
  | writing (failure : IoFailure)
  | renaming (failure : IoFailure)

/-- What went wrong, whichever step it was. -/
def AsideFailure.cause : AsideFailure → IoFailure
  | .writing failure | .renaming failure => failure

/-- **How replacing a file ended**, and where the new file is if it is handed back. -/
structure Replaced where
  result : Except AsideFailure Unit
  files : FileSystem
  held : Option Location := none

/-- The files when what was handed back is removed. -/
def Replaced.settled (r : Replaced) : FileSystem := r.held.elim r.files r.files.drop

/-- Makes an empty file in a directory, under a name that nothing has there. -/
def createAside (fs : FileSystem) (circumstances : Circumstances) (directory : String) :
    Except IoFailure (Location × FileSystem) :=
  match fs.resolve directory true with
  | .error failure => .error failure
  | .ok (there, some .directory) =>
    match circumstances.create with
    | some failure => .error failure
    | none =>
      let aside := there ++ [asideName circumstances.mark]
      match fs.lookup aside with
      | none => .ok (aside, fs.put aside (.file []))
      | some _ => .error (.os .alreadyExists)
  | .ok (_, some _) => .error (.os .notDirectory)
  | .ok (_, none) => .error (.os .noEntry)

/-- Renames the file at a place: it is gone from there and replaces what a path names, perhaps
itself. -/
def renameAside (fs : FileSystem) (circumstances : Circumstances) (aside : Location)
    (path : String) : Except IoFailure FileSystem :=
  match circumstances.rename, fs.lookup aside with
  | some failure, _ => .error failure
  | none, some (.file content) => (fs.drop aside).replaceFile path content
  | none, _ => .error (.os .noEntry)

/-- **Replaces a file step by step.**  The new file is removed when it could not be written, and
handed back when it could not be renamed. -/
def replaceAside (fs : FileSystem) (circumstances : Circumstances) (directory path : String)
    (content : List UInt8) : Replaced :=
  match fs.createAside circumstances directory with
  | .error failure => ⟨.error (.writing failure), fs, none⟩
  | .ok (aside, made) =>
    match circumstances.write with
    | some (count, failure) =>
      let begun := made.put aside (.file (content.take count))
      ⟨.error (.writing failure), begun.drop aside, none⟩
    | none =>
      let written := made.put aside (.file content)
      match written.renameAside circumstances aside path with
      | .error failure => ⟨.error (.renaming failure), written, some aside⟩
      | .ok files => ⟨.ok (), files, none⟩

/-! ## Names that are free -/

/-- **Marks for names that are free** wherever a file is written aside. -/
def FreshMarks (mark : FileSystem → String) : Prop :=
  ∀ (fs : FileSystem) (there : Location), fs.lookup (there ++ [asideName (mark fs)]) = none

/-- A mark that makes a name longer than all others. -/
def freshMark (fs : FileSystem) : String :=
  let lengths := fs.entries.map fun entry => (entry.1.getLast?.getD "").length
  String.ofList (List.replicate lengths.sum 'x')

theorem freshMarks_freshMark : FreshMarks freshMark := by
  intro fs there
  rw [Option.eq_none_iff_forall_not_mem]
  intro node found
  rw [lookup, if_neg (by simp)] at found
  obtain ⟨entry, first, -⟩ := Option.map_eq_some_iff.mp found
  have place : entry.1 = there ++ [asideName (freshMark fs)] := by
    simpa using List.find?_some first
  have short := List.le_sum_of_mem (List.mem_map_of_mem
    (f := fun entry : Location × Node => (entry.1.getLast?.getD "").length)
    (List.mem_of_find?_eq_some first))
  simp [place, asideName, freshMark] at short

/-! ## What the steps come to -/

/-- **How replacing the entry `name` of a directory may end.** -/
inductive Replacing (fs : FileSystem) (base name : String) (content : List UInt8) : Replaced → Prop
  /-- Nothing is done. -/
  | undone (failure : AsideFailure) : Replacing fs base name content ⟨.error failure, fs, none⟩
  /-- The new file is handed back, and nothing else is done. -/
  | held (failure : AsideFailure) {there : Location} {mark : String}
      (led : fs.resolve (orHere base) true = .ok (there, some .directory))
      (absent : fs.lookup (there ++ [asideName mark]) = none) :
      Replacing fs base name content
        ⟨.error failure, fs.put (there ++ [asideName mark]) (.file content),
          some (there ++ [asideName mark])⟩
  /-- The entry is replaced, and nothing else is done. -/
  | done {there : Location}
      (led : fs.resolve (orHere base) true = .ok (there, some .directory))
      (named : fs.resolve (join base name) false
        = .ok (there ++ [name], fs.lookup (there ++ [name])))
      (notDirectory : fs.lookup (there ++ [name]) ≠ some .directory) :
      Replacing fs base name content ⟨.ok (), fs.put (there ++ [name]) (.file content), none⟩

/-- **A file that is put where nothing was does not change where other names lead.** -/
theorem resolve_join_put (led : fs.resolve (orHere base) true = .ok (there, some .directory))
    (absent : fs.lookup aside = none) (isName : IsName name) (clean : '\x00' ∉ name.toList)
    (other : there ++ [name] ≠ aside) (node : Node) :
    (fs.put aside node).resolve (join base name) false = fs.resolve (join base name) false :=
  resolve_join_congr led ((keeps_put absent).resolve led) isName clean (lookup_put_of_ne other)

theorem ne_asideName (there : Location) (visible : name.toList.head? ≠ some '.')
    (mark : String) : there ++ [name] ≠ there ++ [asideName mark] := by
  intro same
  obtain rfl : name = asideName mark := by simpa using same
  exact visible (by simp [asideName])

/-- What is made aside is an empty file where nothing was. -/
theorem createAside_cases {circumstances : Circumstances} {directory : String}
    {made : FileSystem} (created : fs.createAside circumstances directory = .ok (aside, made)) :
    ∃ there, fs.resolve directory true = .ok (there, some .directory)
      ∧ aside = there ++ [asideName circumstances.mark] ∧ fs.lookup aside = none
      ∧ made = fs.put aside (.file []) := by
  unfold createAside at created
  split at created
  · cases created
  · rename_i there led
    split at created
    · cases created
    · simp only at created
      split at created
      · rename_i absent
        cases created
        exact ⟨there, led, rfl, absent, rfl⟩
      · cases created
  · cases created
  · cases created

/-- **A rename replaces a file as if nothing had been put aside.** -/
theorem renameAside_put (circumstances : Circumstances) (absent : fs.lookup aside = none)
    (path : String) (content : List UInt8) :
    (fs.put aside (.file content)).renameAside circumstances aside path =
      match circumstances.rename with
      | some failure => .error failure
      | none => fs.replaceFile path content := by
  unfold renameAside
  rw [lookup_put_self (ne_nil_of_absent absent), drop_put absent]
  cases circumstances.rename <;> rfl

/-- **Replacing a file does nothing in the end, or it replaces the file**, whatever the
circumstances are. -/
theorem replaceAside_cases (fs : FileSystem) (circumstances : Circumstances)
    (directory path : String) (content : List UInt8) :
    let r := fs.replaceAside circumstances directory path content
    match r.result with
    | .error _ => r.settled = fs
    | .ok () => fs.replaceFile path content = .ok r.settled := by
  unfold replaceAside
  cases created : fs.createAside circumstances directory with
  | error failure => rfl
  | ok found =>
    obtain ⟨aside, made⟩ := found
    obtain ⟨-, -, -, absent, rfl⟩ := createAside_cases created
    cases circumstances.write with
    | some refused => exact (congrArg (·.drop aside) (put_put ..)).trans (drop_put absent _)
    | none =>
      simp only [put_put, renameAside_put circumstances absent]
      cases circumstances.rename with
      | some failure => exact drop_put absent _
      | none =>
        cases replaced : fs.replaceFile path content with
        | error failure => exact drop_put absent _
        | ok files => rfl

/-- **Replacing a file ends in one of three ways**, whatever the circumstances are. -/
theorem replacing_replaceAside (circumstances : Circumstances) (isName : IsName name)
    (clean : '\x00' ∉ name.toList) (visible : name.toList.head? ≠ some '.') :
    Replacing fs base name content
      (fs.replaceAside circumstances (orHere base) (join base name) content) := by
  unfold replaceAside
  cases created : fs.createAside circumstances (orHere base) with
  | error failure => exact .undone _
  | ok found =>
    obtain ⟨aside, made⟩ := found
    obtain ⟨there, led, rfl, absent, rfl⟩ := createAside_cases created
    have other := ne_asideName there visible circumstances.mark
    cases circumstances.write with
    | some refused =>
      simp only [put_put, drop_put absent]
      exact .undone _
    | none =>
      simp only [put_put, renameAside_put circumstances absent]
      cases circumstances.rename with
      | some failure => exact .held _ led absent
      | none =>
        simp only
        cases replaced : fs.replaceFile (join base name) content with
        | error failure => exact .held _ led absent
        | ok files =>
          obtain ⟨place, old, resolved, notDirectory, rfl⟩ := replaceFile_cases replaced
          have named := resolved
          rw [resolve_join led isName clean] at resolved
          split_ifs at resolved
          cases resolved
          exact .done led named notDirectory

/-- **With nothing refused, the steps are one.** -/
theorem settled_replaceAside {mark : String}
    (free : ∀ there, fs.lookup (there ++ [asideName mark]) = none) (directory path : String)
    (content : List UInt8) :
    let r := fs.replaceAside { mark } directory path content
    (r.result, r.settled) =
      match fs.listDirectory directory with
      | .error failure => (.error (.writing failure), fs)
      | .ok _ =>
        match fs.replaceFile path content with
        | .error failure => (.error (.renaming failure), fs)
        | .ok files => (.ok (), files) := by
  intro r
  have unfolded : r = fs.replaceAside { mark } directory path content := rfl
  unfold replaceAside createAside at unfolded
  unfold listDirectory
  cases led : fs.resolve directory true with
  | error failure => simp [unfolded, led, Replaced.settled, bind, Except.bind]
  | ok found =>
    obtain ⟨there, node⟩ := found
    cases node with
    | none => simp [unfolded, led, Replaced.settled, bind, Except.bind]
    | some node =>
      cases node with
      | file | link | socket => simp [unfolded, led, Replaced.settled, bind, Except.bind]
      | directory =>
        simp only [led, free there, put_put, renameAside_put { mark } (free there)] at unfolded
        simp only [bind, Except.bind]
        cases replaced : fs.replaceFile path content with
        | error failure => simp [unfolded, replaced, Replaced.settled, drop_put (free there)]
        | ok files => simp [unfolded, replaced, Replaced.settled]

/-! ## Removing a file -/

/-- **What is left when the file that a path names is removed**, if it can be. -/
def without (fs : FileSystem) (path : String) : FileSystem :=
  (fs.removeFile path).toOption.getD fs

/-- What is removed is what the path names, unless it is a directory. -/
theorem without_eq (fs : FileSystem) (path : String) :
    fs.without path =
      match fs.resolve path false with
      | .ok (place, some node) => if node = .directory then fs else fs.drop place
      | _ => fs := by
  unfold without removeFile
  cases fs.resolve path false with
  | error failure => rfl
  | ok found =>
    obtain ⟨place, node⟩ := found
    cases node with
    | none => rfl
    | some node => cases node <;> rfl

/-- **A file that is handed back does not get in the way of a removal.** -/
theorem drop_without (led : fs.resolve (orHere base) true = .ok (there, some .directory))
    (absent : fs.lookup aside = none) (isName : IsName name) (clean : '\x00' ∉ name.toList)
    (other : there ++ [name] ≠ aside) (node : Node) :
    ((fs.put aside node).without (join base name)).drop aside = fs.without (join base name) := by
  rw [without_eq, without_eq, resolve_join_put led absent isName clean other]
  split
  · split
    · exact drop_put absent node
    · rw [drop_comm, drop_put absent]
  · exact drop_put absent node

end GuestSupervisor.FileSystem
