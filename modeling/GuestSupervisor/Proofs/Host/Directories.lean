import GuestSupervisor.Proofs.Host.Ancestors
import GuestSupervisor.Proofs.Host.FileSystem

/-!
# Directories on the way

A file is written aside in the directory above it, and that directory and those above it are
made when they are missing.  None of them is made where the path itself leads: what is made
is missing before, a step to a name comes behind it, and in a new directory there are no
names.  Only a step up can lead out of a new directory again.

## Main Definitions

* `FileSystem.Grounded` — everything is in a directory.
* `FileSystem.NamesNothing` — a path that has nothing where it leads.
* `FileSystem.ClimbsKnown` — a path whose steps up are all taken in directories that are there.

## Main Statements

* `Path.Undotted.follow` — a walk without some of its dots leads to the same place.
* `FileSystem.namesNothing_of_makeDirectory` — a path leads nowhere before and after a
  directory is made on its way.
* `FileSystem.Prepares.makeDirectoriesUnless` — what making a directory and those above it does
  for a path.
-/

namespace GuestSupervisor

open GuestSupervisor.Path

namespace FileSystem

variable {fs fs' fs'' : FileSystem} {place here : Location} {node : Node} {path above : String}

/-! ## Dots -/

/-- A walk without some of its dots ends where the walk ends, or comes to the same link. -/
theorem descend_undotted {fewer steps : List String} (undotted : Undotted fewer steps)
    (here : Location) :
    match fs.descend true here steps with
    | .arrived there found => fs.descend true here fewer = .arrived there found
    | .atLink directory target remaining =>
      ∃ others, fs.descend true here fewer = .atLink directory target others ∧
        Undotted others remaining
    | .failed _ => True := by
  induction undotted generalizing here with
  | nil => rfl
  | @step fewer steps step rest ih =>
    rw [descend_cons, descend_cons]
    cases fs.turn here step with
    | stuck error => trivial
    | on there => exact ih there
    | missing there =>
      cases rest with
      | nil => rfl
      | step | dot => trivial
    | link there target => simpa using rest
  | @dot fewer steps rest ih =>
    rw [descend_cons]
    by_cases directory : fs.lookup here = some .directory
    · have stays : fs.turn here "." = .on here := by simp [turn, directory]
      rw [stays]
      exact ih here
    · obtain ⟨error, stuck⟩ := turn_of_ne directory "."
      rw [stuck]
      trivial

/-- **A walk without some of its dots leads to the same place**, if the walk leads anywhere. -/
theorem follow_undotted {here : Location} {fewer steps : List String}
    (undotted : Undotted fewer steps) {budget : Nat} {found : Location × Option Node}
    (reached : fs.follow true budget here steps = .ok found) :
    fs.follow true budget here fewer = .ok found := by
  have same := fs.descend_undotted undotted here
  cases walked : fs.descend true here steps with
  | failed error =>
    rw [follow_of_failed walked] at reached
    cases reached
  | arrived there seen =>
    rw [walked] at same
    rw [follow_of_arrived walked] at reached
    rw [follow_of_arrived same, reached]
  | atLink directory target remaining =>
    rw [walked] at same
    obtain ⟨others, linked, undotted⟩ := same
    cases budget with
    | zero =>
      rw [(follow_of_atLink walked).1] at reached
      cases reached
    | succ budget =>
      rw [(follow_of_atLink walked).2] at reached
      rw [(follow_of_atLink linked).2]
      exact follow_undotted (undotted.append_left _) reached

/-! ## What is in what -/

/-- **Everything is in a directory**, and the working directory is one. -/
structure Grounded (fs : FileSystem) : Prop where
  parent : ∀ place name, fs.lookup (place ++ [name]) ≠ none → fs.lookup place = some .directory
  working : fs.lookup fs.workingDirectory = some .directory

/-- No files but the root directory. -/
def noFiles : FileSystem := ⟨[], [], []⟩

theorem lookup_noFiles_ne_link (place : Location) (target : String) :
    noFiles.lookup place ≠ some (.link target) := by
  cases place <;> nofun

theorem grounded_noFiles : noFiles.Grounded where
  parent := by
    intro place name there
    simp [lookup, noFiles] at there
  working := rfl

/-- What is above something that is there is a directory. -/
theorem Grounded.dropLast (grounded : fs.Grounded) (there : fs.lookup here ≠ none) :
    fs.lookup here.dropLast ≠ none := by
  rcases List.eq_nil_or_concat here with rfl | ⟨above, name, rfl⟩
  · exact there
  · rw [List.concat_eq_append, List.dropLast_concat]
    rw [List.concat_eq_append] at there
    rw [grounded.parent above name there]
    simp

/-- A step leads to something, or to where nothing is in a directory. -/
theorem Grounded.turn (grounded : fs.Grounded) (here : Location) (step : String) :
    match fs.turn here step with
    | .on there => fs.lookup there ≠ none
    | .missing there =>
      ∃ above name, there = above ++ [name] ∧ fs.lookup above = some .directory
    | .link _ _ => fs.lookup here ≠ none
    | .stuck _ => True := by
  unfold FileSystem.turn
  cases found : fs.lookup here with
  | none => trivial
  | some node =>
    cases node with
    | file | link | socket => trivial
    | directory =>
      have there : fs.lookup here ≠ none := by simp [found]
      simp only
      split_ifs
      · exact there
      · exact grounded.dropLast there
      · trivial
      · unfold named
        cases next : fs.lookup (here ++ [step]) with
        | none => exact ⟨here, step, rfl, found⟩
        | some node =>
          cases node with
          | link => simp
          | directory | file | socket => simp [next]

/-- **Where a walk ends at nothing, that is in a directory**, and the walk comes to every link
in a directory that is there. -/
theorem Grounded.descend (grounded : fs.Grounded) (followLast : Bool) {here : Location}
    (there : fs.lookup here ≠ none) (steps : List String) :
    match fs.descend followLast here steps with
    | .arrived last found =>
      found = none → ∃ above name, last = above ++ [name] ∧ fs.lookup above = some .directory
    | .atLink directory _ _ => fs.lookup directory ≠ none
    | .failed _ => True := by
  induction steps generalizing here with
  | nil => exact fun nothing => absurd nothing there
  | cons step rest ih =>
    have next := grounded.turn here step
    rw [descend_cons]
    cases turned : fs.turn here step with
    | stuck error => trivial
    | on onwards =>
      rw [turned] at next
      exact ih next
    | missing last =>
      rw [turned] at next
      cases rest with
      | nil => exact fun _ => next
      | cons => trivial
    | link last target =>
      by_cases stops : (rest.isEmpty && !followLast) = true
      · simp only [if_pos stops]
        rintro ⟨⟩
      · simp only [if_neg stops]
        exact there

/-- **What a path leads to is in a directory**, if nothing is there. -/
theorem Grounded.follow (grounded : fs.Grounded) {followLast : Bool} {budget : Nat}
    {here place : Location} {steps : List String} (there : fs.lookup here ≠ none)
    (reached : fs.follow followLast budget here steps = .ok (place, none)) :
    ∃ above name, place = above ++ [name] ∧ fs.lookup above = some .directory := by
  have ends := grounded.descend followLast there steps
  cases walked : fs.descend followLast here steps with
  | failed error =>
    rw [follow_of_failed walked] at reached
    cases reached
  | arrived last seen =>
    rw [walked] at ends
    rw [follow_of_arrived walked] at reached
    cases reached
    exact ends rfl
  | atLink directory target remaining =>
    rw [walked] at ends
    cases budget with
    | zero =>
      rw [(follow_of_atLink walked).1] at reached
      cases reached
    | succ budget =>
      rw [(follow_of_atLink walked).2] at reached
      refine grounded.follow ?_ reached
      unfold origin
      split
      · simp [lookup]
      · exact ends

/-- **Putting something where nothing or no directory is leaves everything in directories.** -/
theorem Grounded.put (grounded : fs.Grounded) (notDirectory : fs.lookup place ≠ some .directory)
    (inDirectory : ∀ above name, place = above ++ [name] → fs.lookup above = some .directory) :
    (fs.put place node).Grounded where
  parent := by
    intro above name there
    have directory : fs.lookup above = some .directory := by
      by_cases itself : above ++ [name] = place
      · exact inDirectory above name itself.symm
      · rw [lookup_put_of_ne itself] at there
        exact grounded.parent above name there
    have other : above ≠ place := by
      rintro rfl
      exact notDirectory directory
    rw [lookup_put_of_ne other, directory]
  working := by
    have other : fs.workingDirectory ≠ place := by
      rintro same
      exact notDirectory (same ▸ grounded.working)
    rw [show (fs.put place node).workingDirectory = fs.workingDirectory from rfl,
      lookup_put_of_ne other, grounded.working]

/-- Where a path leads, something can be put, unless a directory is there. -/
theorem Grounded.put_of_resolve (grounded : fs.Grounded) {followLast : Bool} {old : Option Node}
    (resolved : fs.resolve path followLast = .ok (place, old)) (other : old ≠ some .directory) :
    (fs.put place node).Grounded := by
  obtain ⟨reached, -⟩ := resolve_eq resolved fs true
  have found : fs.lookup place = old := lookup_of_follow reached
  refine grounded.put (found ▸ other) fun above name same => ?_
  cases old with
  | some old =>
    refine grounded.parent above name ?_
    rw [← same, found]
    simp
  | none =>
    have start : fs.lookup (origin fs.workingDirectory path) ≠ none := by
      unfold origin
      split
      · simp [lookup]
      · simp [grounded.working]
    obtain ⟨above', name', same', directory⟩ := grounded.follow start reached
    rw [same] at same'
    obtain ⟨rfl, -⟩ := List.append_inj' same' rfl
    exact directory

/-! ## Directories above a path -/

/-- **A path has nothing where it leads**, not even a link. -/
def NamesNothing (fs : FileSystem) (path : String) : Prop :=
  ∀ place node, fs.resolve path false ≠ .ok (place, some node)

/-- **Every step up in a path is taken in a directory that is there.** -/
def ClimbsKnown (fs : FileSystem) (path : String) : Prop :=
  ∀ before after, steps path = before ++ ".." :: after →
    ∃ there, fs.follow true linkBudget (origin fs.workingDirectory path) before
      = .ok (there, some .directory)

theorem ClimbsKnown.keeps (climbs : fs.ClimbsKnown path) (kept : fs.Keeps fs') :
    fs'.ClimbsKnown path := by
  intro before after cut
  obtain ⟨there, reached⟩ := climbs before after cut
  exact ⟨there, by rw [kept.workingDirectory, kept.follow reached]⟩

/-- A path that leads anywhere takes no step in a directory that is missing. -/
theorem climbsKnown_of_resolve {followLast : Bool} {found : Location × Option Node}
    (resolved : fs.resolve path followLast = .ok found) : fs.ClimbsKnown path := by
  intro before after cut
  obtain ⟨reached, -⟩ := resolve_eq resolved fs true
  rw [cut] at reached
  obtain ⟨there, -, first, -⟩ := follow_append (List.cons_ne_nil _ _) reached
  exact ⟨there, first⟩

/-- A path that names no link leads to what it names. -/
theorem follow_true_of_noLink {budget : Nat} {here : Location} {steps : List String}
    {found : Option Node} (noLink : ∀ target, found ≠ some (.link target))
    (reached : fs.follow false budget here steps = .ok (place, found)) :
    fs.follow true budget here steps = .ok (place, found) := by
  cases walked : fs.descend false here steps with
  | failed error =>
    rw [follow_of_failed walked] at reached
    cases reached
  | arrived last seen =>
    rw [follow_of_arrived walked] at reached
    rcases fs.descend_true here steps with same | ⟨last, target, arrived, -⟩
    · rw [follow_of_arrived (same.trans walked), reached]
    · rw [walked] at arrived
      cases arrived
      cases reached
      exact absurd rfl (noLink target)
  | atLink directory target remaining =>
    rcases fs.descend_true here steps with same | ⟨last, target, arrived, -⟩
    · cases budget with
      | zero =>
        rw [(follow_of_atLink walked).1] at reached
        cases reached
      | succ budget =>
        rw [(follow_of_atLink walked).2] at reached
        rw [(follow_of_atLink (same.trans walked)).2]
        exact follow_true_of_noLink noLink reached
    · rw [walked] at arrived
      cases arrived

/-- A step to a name that is missing in a directory leads nowhere. -/
theorem follow_of_missing {here there : Location} {step : String} {rest : List String}
    (noDot : step ≠ ".") (noClimb : step ≠ "..") (directory : fs.lookup here = some .directory)
    (missing : fs.lookup (here ++ [step]) = none) (followLast : Bool) (budget : Nat) :
    fs.follow followLast budget here (step :: rest) ≠ .ok (there, some node) := by
  intro reached
  have walk := fs.descend_cons followLast here step rest
  by_cases long : longestName < step.utf8ByteSize
  · have stuck : fs.turn here step = .stuck .nameTooLong := by
      simp [turn, directory, noDot, noClimb, long]
    rw [stuck] at walk
    rw [follow_of_failed walk] at reached
    cases reached
  · have absent : fs.turn here step = .missing (here ++ [step]) := by
      simp [turn, directory, noDot, noClimb, long, named, missing]
    rw [absent] at walk
    cases rest with
    | nil =>
      rw [follow_of_arrived walk] at reached
      cases reached
    | cons =>
      rw [follow_of_failed walk] at reached
      cases reached

/-- What is missing above a path is missing on the way of its first steps. -/
theorem follow_of_isAbove
    (absent : fs.resolve (withoutFinalSlashes above) false = .ok (place, none))
    (isAbove : IsAbove above path) :
    fs.follow false linkBudget (origin fs.workingDirectory path) (pieces above)
      = .ok (place, none) := by
  obtain ⟨reached, -⟩ := resolve_eq absent fs true
  rw [steps_withoutFinalSlashes] at reached
  rw [← reached, origin, origin, isAbsolute_withoutFinalSlashes, isAbove.sameStart]

/-- **A path leads nowhere before and after a directory is made on its way.**  Before, the
directory is missing; afterwards it is empty. -/
theorem namesNothing_of_makeDirectory (grounded : fs.Grounded) (climbs : fs.ClimbsKnown path)
    (isAbove : IsAbove above path) (made : fs.makeDirectory above = .ok fs') :
    fs.NamesNothing path ∧ fs'.NamesNothing path := by
  obtain ⟨place, resolved, rfl⟩ := makeDirectory_cases made
  have absent := follow_of_isAbove resolved isAbove
  have nothing : fs.lookup place = none := lookup_of_follow absent
  obtain ⟨before, step, after, cut, noDot, undotted⟩ := isAbove.way
  -- No directory is reached along the first steps as long as what is above is missing.
  have missing : ∀ there, fs.follow true linkBudget (origin fs.workingDirectory path) before
      ≠ .ok (there, some .directory) := by
    intro there reached
    have reached := follow_undotted undotted reached
    rw [follow_true_of_noLink (by simp) absent] at reached
    cases reached
  constructor
  · intro there node found
    obtain ⟨reached, -⟩ := resolve_eq found fs true
    rw [cut] at reached
    obtain ⟨last, -, first, -⟩ := follow_append (List.cons_ne_nil _ _) reached
    exact missing last first
  · intro there node found
    obtain ⟨reached, -⟩ := resolve_eq found fs true
    rw [cut] at reached
    obtain ⟨last, left, first, second⟩ := follow_append (List.cons_ne_nil _ _) reached
    have noClimb : step ≠ ".." := by
      rintro rfl
      obtain ⟨there, known⟩ := climbs before after cut
      exact missing there known
    have arrives : (fs.put place .directory).follow true linkBudget
        (origin fs.workingDirectory path) (pieces above) = .ok (place, some .directory) := by
      have notLink : ∀ target, Node.directory ≠ .link target := by simp
      have led := follow_put (by simp [nothing]) notLink absent
      rcases led with led | ⟨target, ⟨⟩, -⟩
      exact led
    have last_eq : last = place := by
      have walked := follow_undotted undotted first
      rw [show (fs.put place .directory).workingDirectory = fs.workingDirectory from rfl,
        arrives] at walked
      cases walked
      rfl
    subst last_eq
    have empty : (fs.put last .directory).lookup (last ++ [step]) = none := by
      rw [lookup_put_of_ne (by simp)]
      by_contra there
      rw [grounded.parent last step there] at nothing
      cases nothing
    have notDirectory : fs.lookup last ≠ some .directory := by simp [nothing]
    have itself : (fs.put last .directory).lookup last = some .directory :=
      lookup_put_self (ne_nil_of_lookup notDirectory)
    exact follow_of_missing noDot noClimb itself empty false left second

/-- **What preparing the way of a path does**: either nothing, or directories are made while
nothing is where the path leads, before and afterwards. -/
structure Prepares (path : String) (fs fs' : FileSystem) : Prop where
  grounded : fs'.Grounded
  kept : fs.Keeps fs'
  outcome : fs' = fs ∨ fs.NamesNothing path ∧ fs'.NamesNothing path

namespace Prepares

theorem refl (grounded : fs.Grounded) : Prepares path fs fs where
  grounded := grounded
  kept := Keeps.refl fs
  outcome := Or.inl rfl

theorem trans (first : Prepares path fs fs') (second : Prepares path fs' fs'') :
    Prepares path fs fs'' where
  grounded := second.grounded
  kept := first.kept.trans second.kept
  outcome := by
    rcases first.outcome with rfl | ⟨before, between⟩
    · exact second.outcome
    · rcases second.outcome with rfl | ⟨-, after⟩
      · exact Or.inr ⟨before, between⟩
      · exact Or.inr ⟨before, after⟩

/-- The directory that paths start in is not made. -/
theorem not_makeDirectory_dot (grounded : fs.Grounded) : fs.makeDirectory "." ≠ .ok fs' := by
  intro made
  obtain ⟨place, resolved, -⟩ := makeDirectory_cases made
  obtain ⟨reached, -⟩ := resolve_eq resolved fs true
  have stays : fs.descend false fs.workingDirectory ["."]
      = .arrived fs.workingDirectory (some .directory) := by
    simp [FileSystem.descend, grounded.working]
  have arrives := follow_of_arrived stays linkBudget
  rw [show FileSystem.origin fs.workingDirectory (withoutFinalSlashes ".") = fs.workingDirectory
      from rfl, show FileSystem.steps (withoutFinalSlashes ".") = ["."] from rfl, arrives] at reached
  cases reached

/-- **Making one directory above a path.** -/
theorem makeDirectory (grounded : fs.Grounded) (climbs : fs.ClimbsKnown path)
    (onWay : above = "." ∨ IsAbove above path) (made : fs.makeDirectory above = .ok fs') :
    Prepares path fs fs' := by
  rcases onWay with rfl | isAbove
  · exact absurd made (not_makeDirectory_dot grounded)
  · refine ⟨?_, keeps_makeDirectory made,
      Or.inr (namesNothing_of_makeDirectory grounded climbs isAbove made)⟩
    obtain ⟨place, resolved, rfl⟩ := makeDirectory_cases made
    exact grounded.put_of_resolve resolved (by simp)

/-- **Making a directory and those above it**, whatever is refused. -/
theorem makeDirectoriesUnless (refused : FileSystem → String → Option IoFailure)
    (grounded : fs.Grounded) (climbs : fs.ClimbsKnown path) {directory : String}
    (onWay : ∀ above ∈ ancestors directory, above = "." ∨ IsAbove above path) :
    Prepares path fs (makeDirectoriesUnless refused fs directory).2 :=
  makeDirectoriesUnless_induction refused (refl grounded) fun above member prepares made =>
    prepares.trans (makeDirectory prepares.grounded (climbs.keeps prepares.kept)
      (onWay above member) made)

end Prepares

end FileSystem

/-- **What a store prepares for its file**, whatever is refused. -/
theorem ConfigurationStore.prepares_makeDirectories (store : ConfigurationStore) {fs : FileSystem}
    (refused : FileSystem → String → Option IoFailure) (grounded : fs.Grounded)
    (climbs : fs.ClimbsKnown store.path) :
    FileSystem.Prepares store.path fs
      (FileSystem.makeDirectoriesUnless refused fs store.directory).2 :=
  .makeDirectoriesUnless refused grounded climbs fun _ member =>
    store.isAbove_of_mem_ancestors member

end GuestSupervisor
