import GuestSupervisor.Proofs.Host.Entries
import GuestSupervisor.Proofs.Text.Lines
import Mathlib.Data.String.Basic

/-!
# Making directories

Before something is put in a directory, the directory is made if it is missing.  If it is there,
nothing happens, however the path to it is written; and if it is not, nothing but directories are
made, also when the last of them cannot be made.

## Main Definitions

* `FileSystem.AddsDirectories` — a file system in which nothing but directories is new.

## Main Statements

* `Path.toList_ofParts_sublist` — a path written by its parts is no longer than it was.
* `FileSystem.follow_of_undotted` — dots do not keep a walk from a directory.
* `FileSystem.isDirectory_of_join` — what something lies under is a directory.
* `FileSystem.makeDirectories_of_isDirectory` — a directory that is there is left alone.
* `FileSystem.isDirectory_of_makeDirectories` — a directory that was made is there.
* `FileSystem.addsDirectories_makeDirectories` — what is made are directories.
-/

namespace GuestSupervisor

/-! ## Texts of paths -/

namespace Text

/-- Fewer texts with marks between them are less text. -/
theorem intercalate_sublist {mark : Char} {fewer texts : List (List Char)}
    (sublist : fewer.Sublist texts) :
    ([mark].intercalate fewer).Sublist ([mark].intercalate texts) := by
  induction sublist with
  | slnil => exact .refl _
  | @cons fewer texts text sublist ih =>
    cases texts with
    | nil =>
      rw [List.sublist_nil.mp sublist]
      exact List.nil_sublist _
    | cons next texts =>
      rw [List.intercalate_cons_cons]
      exact ih.trans (List.sublist_append_right _ _)
  | @cons_cons fewer texts text sublist ih =>
    cases texts with
    | nil => rw [List.sublist_nil.mp sublist]
    | cons next texts =>
      rw [List.intercalate_cons_cons]
      cases fewer with
      | nil => simp
      | cons first fewer =>
        rw [List.intercalate_cons_cons]
        exact ih.append_left _

/-- The segments of a text with the marks between them are the text. -/
theorem intercalate_segments (mark : Char) (text : List Char) :
    [mark].intercalate (segments mark text) = text := by
  induction text with
  | nil => rfl
  | cons c rest ih =>
    obtain ⟨piece, pieces, cut⟩ := List.exists_cons_of_ne_nil (segments_ne_nil mark rest)
    rw [cut] at ih
    by_cases same : c = mark
    · subst same
      rw [segments_cons_mark, cut, List.intercalate_cons_cons, ih]
      rfl
    · rw [segments_cons_of_ne same cut]
      cases pieces with
      | nil => simpa using ih
      | cons next pieces =>
        rw [List.intercalate_cons_cons] at ih ⊢
        rw [← ih]
        rfl

/-- Texts with marks between them end with the last text. -/
theorem exists_intercalate_concat (mark : Char) (texts : List (List Char)) (text : List Char) :
    ∃ front, [mark].intercalate (texts ++ [text]) = front ++ text := by
  induction texts with
  | nil => exact ⟨[], by simp⟩
  | cons first texts ih =>
    obtain ⟨front, same⟩ := ih
    obtain ⟨next, others, cut⟩ : ∃ next others, texts ++ [text] = next :: others :=
      List.exists_cons_of_ne_nil (by simp)
    refine ⟨first ++ [mark] ++ front, ?_⟩
    rw [List.cons_append, cut, List.intercalate_cons_cons, ← cut, same]
    simp

end Text

namespace Path

open Text

variable {path base name : String}

theorem parts_ne_nil (nonempty : path ≠ "") : parts path ≠ [] := by
  unfold parts
  simp only
  split
  · simp
  · rename_i relative
    obtain ⟨part, others, first⟩ := List.exists_cons_of_ne_nil
      (show (pieces path).map Part.ofPiece ≠ [] by
        simpa using pieces_ne_nil nonempty (Bool.eq_false_iff.mpr relative))
    rw [first]
    cases part <;> simp

/-- The pieces of a path are among its segments. -/
theorem pieces_sublist (segments : List (List Char)) :
    ((segments.filterMap fun piece =>
      if piece.isEmpty then none else some (String.ofList piece)).map String.toList).Sublist
        segments := by
  induction segments with
  | nil => exact .slnil
  | cons segment segments ih =>
    cases segment with
    | nil => exact ih.cons []
    | cons c segment => simpa using ih

/-- The parts of a path are among its segments. -/
theorem parts_sublist (path : String) :
    ((parts path).map fun part => part.text.toList).Sublist (segments '/' path.toList) := by
  -- What is left without the dots are pieces.
  have kept : ∀ texts : List String,
      (((texts.map Part.ofPiece).filter (· != .current)).map Part.text).Sublist texts := by
    intro texts
    have all : (texts.map Part.ofPiece).map Part.text = texts := by
      rw [List.map_map]
      exact (List.map_congr_left fun text _ => text_ofPiece text).trans (List.map_id texts)
    have fewer := (List.filter_sublist (p := (· != Part.current))
      (l := texts.map Part.ofPiece)).map Part.text
    rwa [all] at fewer
  obtain ⟨first, lead, absolute, rest, opening, start, cut, same⟩ := exists_opening path
  have texts : ((parts path).map fun part => part.text.toList)
      = (first.map fun part => part.text.toList)
        ++ ((((rest.map Part.ofPiece).filter (· != .current)).map Part.text).map String.toList) := by
    rw [same, List.map_append, List.map_map]
    rfl
  have rest_sublist := (kept rest).map String.toList
  rw [texts]
  cases opening with
  | absolute =>
    obtain ⟨tail, whole⟩ : ∃ tail, path.toList = '/' :: tail := by
      cases chars : path.toList with
      | nil => simp [isAbsolute, chars] at start
      | cons c tail => exact ⟨tail, by simpa [isAbsolute, chars] using start⟩
    have behind : pieces path = (segments '/' tail).filterMap fun piece =>
        if piece.isEmpty then none else some (String.ofList piece) := by
      rw [pieces, whole, segments_cons_mark]
      rfl
    rw [List.nil_append, behind] at cut
    rw [whole, segments_cons_mark]
    rw [← cut] at rest_sublist ⊢
    exact (rest_sublist.trans (pieces_sublist _)).cons_cons []
  | current =>
    refine List.Sublist.trans ?_ (pieces_sublist (segments '/' path.toList))
    rw [show ((segments '/' path.toList).filterMap _) = pieces path from rfl, cut]
    exact rest_sublist.cons_cons _
  | other =>
    refine List.Sublist.trans ?_ (pieces_sublist (segments '/' path.toList))
    rw [show ((segments '/' path.toList).filterMap _) = pieces path from rfl, cut]
    exact rest_sublist

/-- **A path written by its parts is no longer than it was.** -/
theorem toList_ofParts_sublist (path : String) :
    (ofParts (parts path)).toList.Sublist path.toList := by
  unfold ofParts
  split
  · rename_i root
    have absolute : isAbsolute path := (isAbsolute_iff path).mpr (by rw [root]; rfl)
    cases chars : path.toList with
    | nil => simp [isAbsolute, chars] at absolute
    | cons c tail =>
      obtain rfl : c = '/' := by simpa [isAbsolute, chars] using absolute
      exact (List.nil_sublist tail).cons_cons '/'
  · have shorter : (['/'].intercalate ((parts path).map fun part => part.text.toList)).Sublist
        (['/'].intercalate (segments '/' path.toList)) := intercalate_sublist (parts_sublist path)
    rw [intercalate_segments] at shorter
    rw [String.toList_intercalate, List.map_map]
    exact shorter

theorem ofParts_ne_empty (nonempty : path ≠ "") : ofParts (parts path) ≠ "" := by
  intro empty
  have again := (proper_parts path).parts_ofParts
  rw [empty] at again
  exact parts_ne_nil nonempty again.symm

/-- **A text that was written for parts has no slash at its end**, but for that of the root
directory, which stays. -/
theorem withoutFinalSlashes_ofParts {route : List Part} (proper : Proper route) :
    FileSystem.withoutFinalSlashes (ofParts route) = ofParts route := by
  rcases List.eq_nil_or_concat route with rfl | ⟨before, last, rfl⟩
  · rfl
  rw [List.concat_eq_append] at proper ⊢
  by_cases root : before ++ [last] = [.root]
  · rw [root]
    rfl
  have piece : IsPiece last.text := by
    obtain ⟨first, lead, absolute, rest, opening, steps, same⟩ := proper
    rcases List.eq_nil_or_concat rest with rfl | ⟨rest, part, rfl⟩
    · cases opening with
      | absolute => exact absurd (by simpa using same) root
      | current =>
        obtain ⟨-, rfl⟩ : before = [] ∧ last = .current := by
          simpa [List.append_eq_singleton_iff] using same
        exact ⟨by decide, by decide⟩
      | other => simp at same
    · obtain rfl : last = part := by
        rw [List.concat_eq_append, ← List.append_assoc] at same
        simpa using (List.append_inj' same rfl).2
      exact (steps last (by simp)).isPiece
  have text : (ofParts (before ++ [last])).toList
      = ['/'].intercalate (before.map (fun part => part.text.toList) ++ [last.text.toList]) := by
    rw [ofParts, if_neg root, String.toList_intercalate]
    simp [Function.comp_def]
  obtain ⟨front, same⟩ :=
    exists_intercalate_concat '/' (before.map fun part => part.text.toList) last.text.toList
  refine FileSystem.withoutFinalSlashes_eq fun slash => piece.noSlash ?_
  have some : last.text.toList ≠ [] := by simpa using piece.nonempty
  rw [text, same, List.getLast?_append_of_ne_nil _ some] at slash
  exact List.mem_of_getLast? slash

theorem isAbsolute_ofParts (path : String) : isAbsolute (ofParts (parts path)) = isAbsolute path := by
  rw [Bool.eq_iff_iff, isAbsolute_iff, isAbsolute_iff, (proper_parts path).parts_ofParts]

/-- A path written by its parts asks for the same steps but for dots. -/
theorem undotted_pieces_ofParts (path : String) :
    Undotted (pieces (ofParts (parts path))) (pieces path) := by
  obtain ⟨first, lead, absolute, rest, opening, -, cut, same⟩ := exists_opening path
  have steps : ∀ part ∈ (rest.map Part.ofPiece).filter (· != .current), part.IsStep := by
    refine fun part member => isStep_of_mem_filter (fun text inRest => ?_) member
    exact isPiece_of_mem_pieces (cut ▸ List.mem_append_right lead inRest)
  rw [same, (opening.ofParts steps).1, cut]
  exact (undotted_of_filter rest).append_left lead

/-- **A name under a base is one part more.** -/
theorem parts_join_name (base : String) (isName : IsName name) :
    parts (join base name) = parts base ++ [.name name] := by
  have own : parts name = [.name name] := by
    have named : Part.ofPiece name = .name name := by
      simp [Part.ofPiece, isName.noDot, isName.noDots]
    simp [parts, isName.isAbsolute, isName.piece.pieces_eq, named]
  by_cases empty : base = ""
  · subst empty
    rw [show parts "" = [] from rfl, join, isName.isAbsolute]
    simpa using own
  · rw [parts_join empty isName.isAbsolute, own]
    rfl

theorem base_sublist_join (base : String) (isName : IsName name) :
    base.toList.Sublist (join base name).toList := by
  rcases join_cases base isName.isAbsolute with ⟨rfl, -⟩ | ⟨front, rfl, same⟩ | ⟨-, same⟩
  · exact List.nil_sublist _
  · rw [same, String.toList_append (s := front ++ "/")]
    exact List.sublist_append_left _ _
  · rw [same, String.append_assoc, String.toList_append]
    exact List.sublist_append_left _ _

end Path

namespace FileSystem

open GuestSupervisor.Path

variable {fs fs' fs'' : FileSystem} {path base name : String} {place here there : Location}

/-! ## Walks to directories -/

/-- A walk to a directory is in a directory all the time. -/
theorem directory_of_follow {budget : Nat} {steps : List String}
    (reached : fs.follow true budget here steps = .ok (there, some .directory)) :
    fs.lookup here = some .directory := by
  cases steps with
  | nil =>
    rw [follow_nil] at reached
    exact congrArg Prod.snd (Except.ok.inj reached)
  | cons step rest =>
    by_contra elsewhere
    obtain ⟨error, stuck⟩ := turn_of_ne elsewhere step
    rw [follow_cons, stuck] at reached
    cases reached

/-- **Dots do not keep a walk from a directory.** -/
theorem follow_of_undotted {budget : Nat} {here : Location} {fewer steps : List String}
    (undotted : Undotted fewer steps)
    (reached : fs.follow true budget here fewer = .ok (there, some .directory)) :
    fs.follow true budget here steps = .ok (there, some .directory) := by
  cases undotted with
  | nil => exact reached
  | @dot fewer steps rest =>
    have stays : fs.turn here "." = .on here := by
      simp [turn, directory_of_follow reached]
    rw [follow_cons, stays]
    exact follow_of_undotted rest reached
  | @step fewer steps step rest =>
    rw [follow_cons] at reached ⊢
    cases turned : fs.turn here step with
    | stuck error =>
      rw [turned] at reached
      cases reached
    | on next =>
      rw [turned] at reached
      exact follow_of_undotted rest reached
    | missing next =>
      simp only [turned] at reached
      split at reached <;> cases reached
    | link next target =>
      rw [turned] at reached
      cases budget with
      | zero => cases reached
      | succ budget => exact follow_of_undotted (rest.append_left _) reached
termination_by (budget, steps.length)

/-- A walk that follows its last link comes as far as the one that does not. -/
theorem exists_follow_false {budget : Nat} {here : Location} {steps : List String}
    {found : Location × Option Node} (reached : fs.follow true budget here steps = .ok found) :
    ∃ found', fs.follow false budget here steps = .ok found' := by
  rcases fs.descend_true here steps with same | ⟨last, target, arrived, -⟩
  · cases walked : fs.descend true here steps with
    | failed error =>
      rw [follow_of_failed walked] at reached
      cases reached
    | arrived last seen => exact ⟨_, follow_of_arrived (same ▸ walked) budget⟩
    | atLink directory target remaining =>
      cases budget with
      | zero =>
        rw [(follow_of_atLink walked).1] at reached
        cases reached
      | succ budget =>
        rw [(follow_of_atLink walked).2] at reached
        rw [(follow_of_atLink (same ▸ walked)).2]
        exact exists_follow_false reached
  · exact ⟨_, follow_of_arrived arrived budget⟩

/-- A shorter text passes the checks that a path has passed. -/
theorem resolve_of_sublist {path' : String} {followLast : Bool} {found : Location × Option Node}
    (resolved : fs.resolve path followLast = .ok found)
    (shorter : path'.toList.Sublist path.toList) (nonempty : path' ≠ "") (last : Bool) :
    fs.resolve path' last = (fs.follow last linkBudget (origin fs.workingDirectory path')
      (steps path')).mapError .os := by
  have length : path'.utf8ByteSize ≤ path.utf8ByteSize := by
    rw [← String.ofList_toList (s := path'), ← String.ofList_toList (s := path),
      String.utf8ByteSize_ofList, String.utf8ByteSize_ofList]
    exact String.utf8Len_le_of_sublist shorter
  unfold resolve at resolved
  split at resolved
  · cases resolved
  · rename_i noZero
    split at resolved
    · cases resolved
    · split at resolved
      · cases resolved
      · rename_i fits
        have noZero' : path'.toList.contains '\x00' = false := by
          rw [Bool.eq_false_iff]
          intro zero
          exact noZero (List.contains_iff_mem.mpr (shorter.mem (List.contains_iff_mem.mp zero)))
        have some : path'.isEmpty = false := by simpa using nonempty
        have fits' : ¬longestPath < path'.utf8ByteSize := by omega
        rw [resolve, noZero', some, if_neg fits']
        rfl

/-- **What something lies under is a directory.** -/
theorem isDirectory_of_join (nonempty : base ≠ "") (isName : IsName name) {followLast : Bool}
    {found : Location × Option Node}
    (resolved : fs.resolve (join base name) followLast = .ok found) : fs.isDirectory base := by
  obtain ⟨reached, -⟩ := resolve_eq resolved fs true
  rw [steps_join base isName] at reached
  obtain ⟨there, -, first, -⟩ := follow_append (List.cons_ne_nil _ _) reached
  rw [origin_congr (isAbsolute_join nonempty isName.isAbsolute)] at first
  refine isDirectory_iff.mpr ⟨there, ?_⟩
  rw [resolve_of_sublist resolved (base_sublist_join base isName) nonempty,
    follow_of_undotted (undotted_steps base) first]
  rfl

/-! ## Directories that are there -/

/-- A path written by its parts leads to the same directory. -/
theorem isDirectory_ofParts (directory : fs.isDirectory path) :
    fs.isDirectory (ofParts (parts path)) := by
  obtain ⟨place, resolved⟩ := isDirectory_iff.mp directory
  have nonempty := ofParts_ne_empty (ne_empty_of_resolve resolved)
  obtain ⟨reached, -⟩ := resolve_eq resolved fs true
  have fewer := follow_undotted (undotted_pieces_ofParts path)
    (follow_undotted (undotted_steps path) reached)
  refine isDirectory_iff.mpr ⟨place, ?_⟩
  rw [resolve_of_sublist resolved (toList_ofParts_sublist path) nonempty,
    origin_congr (isAbsolute_ofParts path), follow_of_undotted (undotted_steps _) fewer]
  rfl

/-- **A directory that is there is not made again.** -/
theorem makeDirectory_of_isDirectory (directory : fs.isDirectory path) :
    fs.makeDirectory path = .error (.os .alreadyExists) := by
  obtain ⟨place, resolved⟩ := isDirectory_iff.mp directory
  obtain ⟨reached, -⟩ := resolve_eq resolved fs true
  have onWay := follow_undotted (undotted_steps path) reached
  have shorter : (withoutFinalSlashes path).toList.Sublist path.toList
      ∧ withoutFinalSlashes path ≠ "" := by
    rcases exists_withoutFinalSlashes path with ⟨same, -⟩ | ⟨slashes, -, whole, some, -⟩
    · rw [same]
      exact ⟨.refl _, ne_empty_of_resolve resolved⟩
    · rw [whole]
      exact ⟨List.sublist_append_left _ _, by simpa using some⟩
  obtain ⟨⟨there, seen⟩, found⟩ := exists_follow_false onWay
  have named : fs.resolve (withoutFinalSlashes path) false = .ok (there, seen) := by
    rw [resolve_of_sublist resolved shorter.1 shorter.2, steps_withoutFinalSlashes,
      origin_congr (isAbsolute_withoutFinalSlashes path), found]
    rfl
  cases seen with
  | none =>
    -- Then nothing would be where the path leads either.
    rw [follow_true_of_noLink (by simp) found] at onWay
    cases onWay
  | some node =>
    rw [makeDirectory, named]
    rfl

theorem exists_ancestors_eq (nonempty : path ≠ "") :
    ∃ others, ancestors path = ofParts (parts path) :: others := by
  obtain ⟨count, length⟩ : ∃ count, (parts path).length = count + 1 :=
    Nat.exists_eq_succ_of_ne_zero (by simpa using parts_ne_nil nonempty)
  have whole : (parts path).take (count + 1) = parts path := by rw [← length, List.take_length]
  have some : (parts path).isEmpty = false := by simpa using parts_ne_nil nonempty
  unfold ancestors
  simp [length, List.range_succ_eq_map, whole, some]

/-- **A directory that is there is left alone.** -/
theorem makeDirectories_of_isDirectory (directory : fs.isDirectory path) :
    fs.makeDirectories path = (.ok (), fs) := by
  obtain ⟨place, resolved⟩ := isDirectory_iff.mp directory
  obtain ⟨others, aboves⟩ := exists_ancestors_eq (ne_empty_of_resolve resolved)
  have noZero : ¬path.toList.contains '\x00' := by
    intro zero
    rw [resolve, if_pos zero] at resolved
    cases resolved
  have there := isDirectory_ofParts directory
  have made := makeDirectory_of_isDirectory there
  rw [makeDirectories, if_neg noZero, aboves]
  simp [makeDirectories.upwards, made, there, IoFailure.isMissing]

/-! ## Directories that are made -/

/-- A directory that was made is there. -/
theorem isDirectory_of_makeDirectory (plain : withoutFinalSlashes path = path)
    (made : fs.makeDirectory path = .ok fs') : fs'.isDirectory path := by
  obtain ⟨place, resolved, rfl⟩ := makeDirectory_cases made
  rw [plain] at resolved
  obtain ⟨reached, again⟩ := resolve_eq resolved (fs.put place .directory) true
  have absent : fs.lookup place = none := lookup_of_follow reached
  have notLink : ∀ target, Node.directory ≠ .link target := nofun
  rcases follow_put (by simp [absent]) notLink reached with led | ⟨target, ⟨⟩, -⟩
  refine isDirectory_iff.mpr ⟨place, ?_⟩
  rw [again]
  exact congrArg (Except.mapError IoFailure.os) led

/-- **A directory that was made with those above it is there.** -/
theorem isDirectory_of_makeDirectories (nonempty : path ≠ "")
    (made : fs.makeDirectories path = (.ok (), fs')) :
    fs'.isDirectory (ofParts (parts path)) := by
  obtain ⟨others, aboves⟩ := exists_ancestors_eq nonempty
  have plain := withoutFinalSlashes_ofParts (proper_parts path)
  unfold makeDirectories at made
  split at made
  · cases made
  rw [aboves] at made
  unfold makeDirectories.upwards at made
  split at made
  · cases made
    exact isDirectory_of_makeDirectory plain ‹_›
  · split at made
    · split at made
      · cases made
      · split at made
        · cases made
          exact isDirectory_of_makeDirectory plain ‹_›
        · split at made
          · cases made
            assumption
          · cases made
    · split at made
      · cases made
        assumption
      · cases made

/-- **Nothing but directories is new**, and nothing is gone. -/
structure AddsDirectories (fs fs' : FileSystem) : Prop where
  kept : fs.Keeps fs'
  added : ∀ place node, fs'.lookup place = some node →
    fs.lookup place = some node ∨ node = .directory

namespace AddsDirectories

theorem refl (fs : FileSystem) : fs.AddsDirectories fs where
  kept := Keeps.refl fs
  added := fun _ _ found => Or.inl found

theorem trans (first : fs.AddsDirectories fs') (second : fs'.AddsDirectories fs'') :
    fs.AddsDirectories fs'' where
  kept := first.kept.trans second.kept
  added := fun place node found =>
    (second.added place node found).elim (first.added place node) Or.inr

end AddsDirectories

theorem addsDirectories_makeDirectory (made : fs.makeDirectory path = .ok fs') :
    fs.AddsDirectories fs' where
  kept := keeps_makeDirectory made
  added := by
    obtain ⟨place, -, rfl⟩ := makeDirectory_cases made
    intro here node found
    by_cases itself : here = place
    · subst itself
      by_cases root : here = []
      · subst root
        exact Or.inl found
      · rw [lookup_put_self root] at found
        exact Or.inr (Option.some.inj found).symm
    · rw [lookup_put_of_ne itself] at found
      exact Or.inl found

/-- **What is made are directories**, whatever is refused. -/
theorem addsDirectories_makeDirectoriesUnless (refused : FileSystem → String → Option IoFailure)
    (path : String) : fs.AddsDirectories (makeDirectoriesUnless refused fs path).2 :=
  makeDirectoriesUnless_induction refused (.refl fs) fun _ _ adds made =>
    adds.trans (addsDirectories_makeDirectory made)

theorem addsDirectories_makeDirectories (path : String) :
    fs.AddsDirectories (fs.makeDirectories path).2 :=
  addsDirectories_makeDirectoriesUnless (fun _ _ => none) path

end FileSystem

end GuestSupervisor
