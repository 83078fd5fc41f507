import GuestSupervisor.Host.FileSystem
import Mathlib.Data.List.DropRight
import Mathlib.Data.List.Find
import Mathlib.Tactic.SplitIfs

/-!
# What is written is read

A file that was put in the place that a path names is what the path leads to afterwards.
The way there is as it was, for nothing on it was a file, with one exception: a path may
go on through the very link that it names, and then the link led to a directory.

## Main Definitions

* `FileSystem.turn` — the first step of a walk on its own.
* `FileSystem.Keeps` — a file system in which everything is there that is there in another.
* `FileSystem.Retains` — one in which every file may hold something else.

## Main Statements

* `FileSystem.descend_cons` — a walk takes its steps one after the other.
* `FileSystem.follow_append` — what leads on leads to a directory first.
* `FileSystem.Keeps.readBytes` — what is kept can be read as before.
* `FileSystem.Retains.follow` — in either a path leads to the same place as before.
* `FileSystem.keeps_makeDirectories` — making directories keeps everything.
* `FileSystem.makeDirectoriesUnless_induction` — making directories is making one after the other.
-/

namespace GuestSupervisor.FileSystem

variable {fs fs' : FileSystem} {place here : Location} {node : Node} {content : List UInt8}

theorem lookup_put_self (nonempty : place ≠ []) : (fs.put place node).lookup place = some node := by
  simp [lookup, put, nonempty]

/-- A name that is text is listed with what it is. -/
@[simp] theorem mem_allChildren_text_iff {name : String} :
    (.text name, node) ∈ fs.allChildren place ↔ (name, node) ∈ fs.children place := by
  simp [allChildren]

/-- Leaving out what is at one place hides nothing at another. -/
theorem find?_filter_of_ne (other : here ≠ place) (entries : List (Location × Node)) :
    (entries.filter (·.1 != place)).find? (·.1 == here) = entries.find? (·.1 == here) := by
  rw [List.find?_filter]
  refine List.find?_congr fun entry _ => ?_
  by_cases same : entry.1 = here
  · simp [same, other]
  · simp [same]

theorem lookup_put_of_ne (other : here ≠ place) :
    (fs.put place node).lookup here = fs.lookup here := by
  have notFirst : (place == here) = false := beq_false_of_ne other.symm
  unfold lookup put
  simp only [List.find?_cons, notFirst, find?_filter_of_ne other]

/-- The root directory is always there. -/
theorem ne_nil_of_lookup (notDirectory : fs.lookup place ≠ some .directory) : place ≠ [] := by
  rintro rfl
  exact notDirectory rfl

/-! ## One step -/

/-- Where one step leads. -/
inductive Turn where
  | stuck (error : OsError)
  | on (there : Location)
  | missing (there : Location)
  | link (there : Location) (target : String)

/-- Where a step to a name in a directory leads. -/
def named (fs : FileSystem) (there : Location) : Turn :=
  match fs.lookup there with
  | none => .missing there
  | some (.link target) => .link there target
  | some _ => .on there

/-- **The first step of a walk**, whatever comes behind it. -/
def turn (fs : FileSystem) (here : Location) (step : String) : Turn :=
  match fs.lookup here with
  | none => .stuck .noEntry
  | some .directory =>
    if step = "." then .on here
    else if step = ".." then .on here.dropLast
    else if longestName < step.utf8ByteSize then .stuck .nameTooLong
    else fs.named (here ++ [step])
  | some _ => .stuck .notDirectory

/-- A step in a directory leads to the same place in every file system that has the
directory, unless it is a step to a name. -/
theorem turn_cases (here : Location) (step : String) :
    (∃ there, ∀ fs : FileSystem, fs.lookup here = some .directory →
      fs.turn here step = .on there) ∨
    (∃ error, ∀ fs : FileSystem, fs.lookup here = some .directory →
      fs.turn here step = .stuck error) ∨
    ∀ fs : FileSystem, fs.lookup here = some .directory →
      fs.turn here step = fs.named (here ++ [step]) := by
  by_cases current : step = "."
  · refine Or.inl ⟨here, fun fs found => ?_⟩
    simp only [turn, found, if_pos current]
  by_cases above : step = ".."
  · refine Or.inl ⟨here.dropLast, fun fs found => ?_⟩
    simp only [turn, found, if_neg current, if_pos above]
  by_cases long : longestName < step.utf8ByteSize
  · refine Or.inr (Or.inl ⟨.nameTooLong, fun fs found => ?_⟩)
    simp only [turn, found, if_neg current, if_neg above, if_pos long]
  · refine Or.inr (Or.inr fun fs found => ?_)
    simp only [turn, found, if_neg current, if_neg above, if_neg long]

/-- A step is taken in a directory only. -/
theorem turn_of_ne (elsewhere : fs.lookup here ≠ some .directory) (step : String) :
    ∃ error, fs.turn here step = .stuck error := by
  unfold turn
  split
  · exact ⟨_, rfl⟩
  · exact absurd ‹_› elsewhere
  · exact ⟨_, rfl⟩

/-- What a step that does not simply go on has come to. -/
theorem named_of_turn {step : String} {turned : Turn} (found : fs.turn here step = turned) :
    (∃ error, turned = .stuck error) ∨ (∃ there, turned = .on there) ∨
      fs.named (here ++ [step]) = turned := by
  by_cases directory : fs.lookup here = some .directory
  · rcases turn_cases here step with ⟨there, same⟩ | ⟨error, same⟩ | same
    · exact Or.inr (Or.inl ⟨there, by rw [← found, same fs directory]⟩)
    · exact Or.inl ⟨error, by rw [← found, same fs directory]⟩
    · exact Or.inr (Or.inr (by rw [← found, same fs directory]))
  · obtain ⟨error, stuck⟩ := turn_of_ne directory step
    exact Or.inl ⟨error, by rw [← found, stuck]⟩

theorem lookup_of_turn_missing {step : String} {there : Location}
    (turned : fs.turn here step = .missing there) : fs.lookup there = none := by
  rcases named_of_turn turned with ⟨_, ⟨⟩⟩ | ⟨_, ⟨⟩⟩ | named
  unfold FileSystem.named at named
  split at named
  · cases named
    assumption
  · cases named
  · cases named

theorem lookup_of_turn_link {step target : String} {there : Location}
    (turned : fs.turn here step = .link there target) :
    there = here ++ [step] ∧ fs.lookup there = some (.link target) := by
  rcases named_of_turn turned with ⟨_, ⟨⟩⟩ | ⟨_, ⟨⟩⟩ | named
  unfold FileSystem.named at named
  split at named
  · cases named
  · cases named
    exact ⟨rfl, ‹_›⟩
  · cases named

/-! ## Walks -/

/-- **A walk takes its steps one after the other.** -/
theorem descend_cons (fs : FileSystem) (followLast : Bool) (here : Location) (step : String)
    (rest : List String) :
    fs.descend followLast here (step :: rest) =
      match fs.turn here step with
      | .stuck error => .failed error
      | .on there => fs.descend followLast there rest
      | .missing there => if rest.isEmpty then .arrived there none else .failed .noEntry
      | .link there target =>
        if rest.isEmpty && !followLast then .arrived there (some (.link target))
        else .atLink here target rest := by
  cases found : fs.lookup here with
  | none => simp only [descend, turn, found]
  | some node =>
    cases node with
    | file | link | socket => simp only [descend, turn, found]
    | directory =>
      by_cases current : step = "."
      · simp only [descend, turn, found, if_pos current]
      by_cases above : step = ".."
      · simp only [descend, turn, found, if_neg current, if_pos above]
      by_cases long : longestName < step.utf8ByteSize
      · simp only [descend, turn, found, if_neg current, if_neg above, if_pos long]
      simp only [descend, turn, named, found, if_neg current, if_neg above, if_neg long]
      cases fs.lookup (here ++ [step]) with
      | none => rfl
      | some node => cases node <;> rfl

/-- What is found at the end of a walk is what is there. -/
theorem lookup_of_descend {followLast : Bool} {steps : List String} {there : Location}
    {found : Option Node} (arrived : fs.descend followLast here steps = .arrived there found) :
    fs.lookup there = found := by
  induction steps generalizing here with
  | nil =>
    simp only [descend, Descent.arrived.injEq] at arrived
    rw [← arrived.1, ← arrived.2]
  | cons step rest ih =>
    rw [descend_cons] at arrived
    cases turned : fs.turn here step with
    | stuck error =>
      rw [turned] at arrived
      cases arrived
    | on next =>
      rw [turned] at arrived
      exact ih arrived
    | missing next =>
      simp only [turned] at arrived
      split at arrived
      · cases arrived
        exact lookup_of_turn_missing turned
      · cases arrived
    | link next target =>
      simp only [turned] at arrived
      split at arrived
      · cases arrived
        exact (lookup_of_turn_link turned).2
      · cases arrived

/-- Where a path starts that is read in a directory. -/
def origin (directory : Location) (path : String) : Location :=
  if Path.isAbsolute path then [] else directory

theorem follow_of_arrived {followLast : Bool} {steps : List String} {there : Location}
    {found : Option Node} (walked : fs.descend followLast here steps = .arrived there found)
    (budget : Nat) : fs.follow followLast budget here steps = .ok (there, found) := by
  unfold follow
  rw [walked]

theorem follow_of_failed {followLast : Bool} {steps : List String} {error : OsError}
    (walked : fs.descend followLast here steps = .failed error) (budget : Nat) :
    fs.follow followLast budget here steps = .error error := by
  unfold follow
  rw [walked]

/-- **A link is followed from the directory that it is in.** -/
theorem follow_of_atLink {followLast : Bool} {steps remaining : List String} {target : String}
    {directory : Location}
    (walked : fs.descend followLast here steps = .atLink directory target remaining) :
    fs.follow followLast 0 here steps = .error .tooManyLinks ∧
      ∀ budget, fs.follow followLast (budget + 1) here steps
        = fs.follow followLast budget (origin directory target)
          (FileSystem.steps target ++ remaining) := by
  constructor
  · unfold follow
    rw [walked]
  · intro budget
    rw [follow, walked]
    rfl

theorem lookup_of_follow {followLast : Bool} {budget : Nat} {here : Location}
    {steps : List String} {there : Location} {found : Option Node}
    (arrived : fs.follow followLast budget here steps = .ok (there, found)) :
    fs.lookup there = found := by
  cases walked : fs.descend followLast here steps with
  | failed error =>
    rw [follow_of_failed walked] at arrived
    cases arrived
  | arrived last seen =>
    rw [follow_of_arrived walked] at arrived
    cases arrived
    exact lookup_of_descend walked
  | atLink directory target remaining =>
    cases budget with
    | zero =>
      rw [(follow_of_atLink walked).1] at arrived
      cases arrived
    | succ budget =>
      rw [(follow_of_atLink walked).2] at arrived
      exact lookup_of_follow arrived

/-- **A walk goes on from where it ends.** -/
theorem descend_append {rest : List String} (more : rest ≠ []) (followLast : Bool)
    (here : Location) (steps : List String) :
    fs.descend followLast here (steps ++ rest) =
      match fs.descend true here steps with
      | .arrived there _ => fs.descend followLast there rest
      | .atLink directory target remaining => .atLink directory target (remaining ++ rest)
      | .failed error => .failed error := by
  induction steps generalizing here with
  | nil => simp only [descend, List.nil_append]
  | cons step steps ih =>
    rw [List.cons_append, descend_cons, descend_cons]
    cases turned : fs.turn here step with
    | stuck error => rfl
    | on there => exact ih there
    | missing there =>
      cases steps with
      | nil =>
        obtain ⟨first, others, rfl⟩ := List.exists_cons_of_ne_nil more
        simp [descend, lookup_of_turn_missing turned]
      | cons => rfl
    | link there target => simp [more]

/-- A walk that follows its last link goes on where the other walk ends with it. -/
theorem descend_true (here : Location) (steps : List String) :
    fs.descend true here steps = fs.descend false here steps ∨
      ∃ there target, fs.descend false here steps = .arrived there (some (.link target)) ∧
        fs.descend true here steps = .atLink there.dropLast target [] := by
  induction steps generalizing here with
  | nil => exact Or.inl rfl
  | cons step steps ih =>
    rw [descend_cons, descend_cons]
    cases turned : fs.turn here step with
    | stuck error => exact Or.inl rfl
    | on there => exact ih there
    | missing there => exact Or.inl rfl
    | link there target =>
      obtain ⟨rfl, -⟩ := lookup_of_turn_link turned
      cases steps with
      | nil => exact Or.inr ⟨here ++ [step], target, rfl, by simp⟩
      | cons => exact Or.inl rfl

/-- A walk goes on from a directory only. -/
theorem directory_of_descend {followLast : Bool} {steps : List String} (more : steps ≠ [])
    (going : ∀ error, fs.descend followLast here steps ≠ .failed error) :
    fs.lookup here = some .directory := by
  obtain ⟨step, rest, rfl⟩ := List.exists_cons_of_ne_nil more
  by_contra elsewhere
  obtain ⟨error, stuck⟩ := turn_of_ne elsewhere step
  exact going error (by rw [descend_cons, stuck])

/-- **Only a directory has a way on**: what leads on along more steps leads to a directory
first, and on from there. -/
theorem follow_append {rest : List String} (more : rest ≠ []) {followLast : Bool}
    {budget : Nat} {here : Location} {steps : List String} {found : Location × Option Node}
    (reached : fs.follow followLast budget here (steps ++ rest) = .ok found) :
    ∃ there left, fs.follow true budget here steps = .ok (there, some .directory) ∧
      fs.follow followLast left there rest = .ok found := by
  have whole := fs.descend_append more followLast here steps
  cases walked : fs.descend true here steps with
  | failed error =>
    rw [walked] at whole
    rw [follow_of_failed whole] at reached
    cases reached
  | arrived there node =>
    rw [walked] at whole
    have onwards : fs.follow followLast budget there rest = .ok found := by
      rw [← reached, follow, follow, whole]
    have directory : fs.lookup there = some .directory := by
      refine directory_of_descend more fun error (failed : fs.descend followLast _ _ = _) => ?_
      rw [follow_of_failed failed] at onwards
      cases onwards
    obtain rfl : node = some .directory := (lookup_of_descend walked).symm.trans directory
    exact ⟨there, budget, follow_of_arrived walked budget, onwards⟩
  | atLink directory target remaining =>
    rw [walked] at whole
    cases budget with
    | zero =>
      rw [(follow_of_atLink whole).1] at reached
      cases reached
    | succ budget =>
      rw [(follow_of_atLink whole).2, ← List.append_assoc] at reached
      obtain ⟨there, left, first, second⟩ := follow_append more reached
      exact ⟨there, left, by rw [(follow_of_atLink walked).2, first], second⟩

/-- What a walk finds does not depend on how many links it may follow, if they are enough. -/
theorem follow_budget {followLast : Bool} {budget : Nat} {here : Location} {steps : List String}
    {found : Location × Option Node} (reached : fs.follow followLast budget here steps = .ok found)
    (other : Nat) :
    fs.follow followLast other here steps = .ok found ∨
      fs.follow followLast other here steps = .error .tooManyLinks := by
  cases walked : fs.descend followLast here steps with
  | failed error =>
    rw [follow_of_failed walked] at reached
    cases reached
  | arrived there node =>
    rw [follow_of_arrived walked] at reached ⊢
    exact Or.inl reached
  | atLink directory target remaining =>
    cases other with
    | zero => exact Or.inr (follow_of_atLink walked).1
    | succ other =>
      cases budget with
      | zero =>
        rw [(follow_of_atLink walked).1] at reached
        cases reached
      | succ budget =>
        rw [(follow_of_atLink walked).2] at reached ⊢
        exact follow_budget reached other

/-- **A path that names a link leads where the link leads.** -/
theorem follow_link {budget : Nat} {here place : Location} {steps : List String} {target : String}
    (found : fs.follow false budget here steps = .ok (place, some (.link target))) :
    fs.follow true budget here steps = .ok (place, some (.link target)) ∨
      fs.follow true budget here steps = .error .tooManyLinks ∨
      ∃ left, fs.follow true budget here steps
        = fs.follow true left (origin place.dropLast target) (FileSystem.steps target) := by
  cases walked : fs.descend false here steps with
  | failed error =>
    rw [follow_of_failed walked] at found
    cases found
  | arrived last seen =>
    rw [follow_of_arrived walked] at found
    cases found
    rcases fs.descend_true here steps with same | ⟨last, target', arrived, linked⟩
    · exact Or.inl (follow_of_arrived (same.trans walked) budget)
    · rw [walked] at arrived
      cases arrived
      cases budget with
      | zero => exact Or.inr (Or.inl (follow_of_atLink linked).1)
      | succ budget =>
        refine Or.inr (Or.inr ⟨budget, ?_⟩)
        rw [(follow_of_atLink linked).2, List.append_nil]
  | atLink directory target' remaining =>
    rcases fs.descend_true here steps with same | ⟨last, target', arrived, -⟩
    · cases budget with
      | zero =>
        rw [(follow_of_atLink walked).1] at found
        cases found
      | succ budget =>
        rw [(follow_of_atLink walked).2] at found
        rw [(follow_of_atLink (same.trans walked)).2]
        exact follow_link found
    · rw [walked] at arrived
      cases arrived

/-! ## Reading -/

/-- A path that is resolved passes the checks of its text, which do not look at the files. -/
theorem resolve_eq {path : String} {followLast : Bool} {found : Location × Option Node}
    (resolved : fs.resolve path followLast = .ok found) (other : FileSystem) (last : Bool) :
    fs.follow followLast linkBudget (origin fs.workingDirectory path) (steps path) = .ok found ∧
      other.resolve path last =
        (other.follow last linkBudget (origin other.workingDirectory path) (steps path)).mapError
          .os := by
  unfold resolve at resolved ⊢
  unfold origin
  split at resolved
  · cases resolved
  · split at resolved
    · cases resolved
    · split at resolved
      · cases resolved
      · refine ⟨?_, ?_⟩
        · cases walked : fs.follow followLast linkBudget
              (if Path.isAbsolute path then [] else fs.workingDirectory) (steps path) with
          | error e =>
            rw [walked] at resolved
            cases resolved
          | ok there =>
            rw [walked] at resolved
            cases resolved
            rfl
        · simp only [*]
          simp

/-- The content that a path leads to stands at the end of a walk. -/
theorem readBytes_eq_ok_iff {path : String} {bytes : List UInt8} :
    fs.readBytes path = .ok bytes ↔
      ∃ there, fs.resolve path true = .ok (there, some (.file bytes)) := by
  unfold readBytes node?
  cases resolved : fs.resolve path true with
  | error e => simp [bind, Except.bind]
  | ok found =>
    obtain ⟨there, node⟩ := found
    cases node with
    | none => simp [bind, Except.bind]
    | some node => cases node <;> simp [bind, Except.bind]

/-! ## What stays -/

/-- Two nodes are the same, or files with different contents. -/
def Alike (node node' : Node) : Prop :=
  node = node' ∨ ∃ content content', node = .file content ∧ node' = .file content'

/-- **What is there in one file system is there in the other**, files perhaps with different
contents. -/
structure Retains (fs fs' : FileSystem) : Prop where
  lookup : ∀ place node, fs.lookup place = some node →
    ∃ node', fs'.lookup place = some node' ∧ Alike node node'
  workingDirectory : fs'.workingDirectory = fs.workingDirectory

namespace Retains

/-- A directory and a link stay what they are. -/
theorem lookup_of_ne (retained : fs.Retains fs') (found : fs.lookup place = some node)
    (notFile : ∀ content, node ≠ .file content) : fs'.lookup place = some node := by
  obtain ⟨node', found', rfl | ⟨content, -, file, -⟩⟩ := retained.lookup place node found
  · exact found'
  · exact absurd file (notFile content)

/-- A step leads to the same place, unless nothing is there. -/
theorem turn (retained : fs.Retains fs') (here : Location) (step : String) :
    (∃ error, fs.turn here step = .stuck error) ∨
      (∃ there, fs.turn here step = .missing there) ∨ fs'.turn here step = fs.turn here step := by
  by_cases directory : fs.lookup here = some .directory
  · have directory' := retained.lookup_of_ne directory (by simp)
    rcases turn_cases here step with ⟨there, same⟩ | ⟨error, same⟩ | same
    · exact Or.inr (Or.inr (by rw [same fs directory, same fs' directory']))
    · exact Or.inl ⟨error, same fs directory⟩
    · rw [same fs directory, same fs' directory']
      cases found : fs.lookup (here ++ [step]) with
      | none => exact Or.inr (Or.inl ⟨here ++ [step], by simp only [named, found]⟩)
      | some node =>
        refine Or.inr (Or.inr ?_)
        obtain ⟨node', found', rfl | ⟨content, content', rfl, rfl⟩⟩ :=
          retained.lookup _ node found
        · simp only [named, found, found']
        · simp only [named, found, found']
  · exact Or.inl (turn_of_ne directory step)

/-- A walk goes the same way, unless it ends where nothing is. -/
theorem descend (retained : fs.Retains fs') (followLast : Bool) (here : Location)
    (steps : List String) :
    match fs.descend followLast here steps with
    | .failed _ => True
    | .arrived there found => ∀ node, found = some node →
      ∃ node', fs'.descend followLast here steps = .arrived there (some node')
    | .atLink directory target remaining =>
      fs'.descend followLast here steps = .atLink directory target remaining := by
  induction steps generalizing here with
  | nil =>
    intro node found
    obtain ⟨node', found', -⟩ := retained.lookup here node found
    exact ⟨node', by rw [FileSystem.descend, found']⟩
  | cons step rest ih =>
    rw [descend_cons, descend_cons]
    rcases retained.turn here step with ⟨error, stuck⟩ | ⟨there, missing⟩ | same
    · rw [stuck]
      trivial
    · simp only [missing]
      cases rest with
      | nil => simp
      | cons => trivial
    · rw [same]
      cases fs.turn here step with
      | stuck error => trivial
      | on there => exact ih there
      | missing there =>
        cases rest with
        | nil => simp
        | cons => trivial
      | link there target =>
        by_cases stops : (rest.isEmpty && !followLast) = true
        · simp [stops]
        · simp [stops]

/-- **A path leads to the same place.** -/
theorem follow (retained : fs.Retains fs') {followLast : Bool} {budget : Nat}
    {here there : Location} {steps : List String} {node : Node}
    (reached : fs.follow followLast budget here steps = .ok (there, some node)) :
    ∃ node', fs'.follow followLast budget here steps = .ok (there, some node') ∧
      Alike node node' := by
  have way := retained.descend followLast here steps
  cases walked : fs.descend followLast here steps with
  | failed error =>
    rw [follow_of_failed walked] at reached
    cases reached
  | arrived last seen =>
    rw [walked] at way
    rw [follow_of_arrived walked] at reached
    cases reached
    obtain ⟨node', walked'⟩ := way node rfl
    obtain ⟨node'', found, alike⟩ := retained.lookup there node (lookup_of_descend walked)
    obtain rfl : node' = node'' := Option.some.inj ((lookup_of_descend walked').symm.trans found)
    exact ⟨node', follow_of_arrived walked' budget, alike⟩
  | atLink directory target remaining =>
    rw [walked] at way
    cases budget with
    | zero =>
      rw [(follow_of_atLink walked).1] at reached
      cases reached
    | succ budget =>
      rw [(follow_of_atLink walked).2] at reached
      rw [(follow_of_atLink way).2]
      exact follow retained reached

theorem resolve (retained : fs.Retains fs') {path : String} {followLast : Bool} {place : Location}
    {node : Node} (resolved : fs.resolve path followLast = .ok (place, some node)) :
    ∃ node', fs'.resolve path followLast = .ok (place, some node') ∧ Alike node node' := by
  obtain ⟨reached, again⟩ := resolve_eq resolved fs' followLast
  obtain ⟨node', reached', alike⟩ := retained.follow reached
  exact ⟨node', by rw [again, retained.workingDirectory, reached']; rfl, alike⟩

/-- **What a path leads to is what it was**, unless that is a file. -/
theorem node? (retained : fs.Retains fs') {path : String} {node : Node}
    (found : fs.node? path = .ok node) (notFile : ∀ content, node ≠ .file content) :
    fs'.node? path = .ok node := by
  unfold FileSystem.node? at found ⊢
  cases resolved : fs.resolve path true with
  | error e =>
    rw [resolved] at found
    cases found
  | ok there =>
    obtain ⟨place, seen⟩ := there
    rw [resolved] at found
    cases seen with
    | none => cases found
    | some seen =>
      cases found
      obtain ⟨node', resolved', rfl | ⟨content, -, file, -⟩⟩ := retained.resolve resolved
      · rw [resolved']
        rfl
      · exact absurd file (notFile content)

end Retains

/-- A file is put where nothing is, or another file. -/
theorem retains_put (replaced : ∀ old, fs.lookup place = some old → ∃ before, old = .file before) :
    fs.Retains (fs.put place (.file content)) where
  lookup := by
    intro here node found
    by_cases same : here = place
    · subst same
      obtain ⟨before, rfl⟩ := replaced node found
      have notDirectory : fs.lookup here ≠ some .directory := by simp [found]
      exact ⟨.file content, lookup_put_self (ne_nil_of_lookup notDirectory),
        Or.inr ⟨before, content, rfl, rfl⟩⟩
    · exact ⟨node, by rw [lookup_put_of_ne same, found], Or.inl rfl⟩
  workingDirectory := rfl

/-- **Writing a file leaves everything else where it is.** -/
theorem retains_writeFile {path : String} (written : fs.writeFile path content = .ok fs') :
    fs.Retains fs' := by
  unfold writeFile at written
  cases resolved : fs.resolve path true with
  | error e =>
    rw [resolved] at written
    cases written
  | ok found =>
    obtain ⟨place, node⟩ := found
    have there := lookup_of_follow (resolve_eq resolved fs true).1
    rw [resolved] at written
    cases node with
    | none =>
      cases written
      exact retains_put (by simp [there])
    | some node =>
      cases node with
      | file before =>
        cases written
        exact retains_put (by simp [there])
      | directory | link | socket => cases written

/-- **Everything that is there in one file system is there in the other.** -/
structure Keeps (fs fs' : FileSystem) : Prop where
  lookup : ∀ place node, fs.lookup place = some node → fs'.lookup place = some node
  workingDirectory : fs'.workingDirectory = fs.workingDirectory

namespace Keeps

variable {fs'' : FileSystem}

theorem refl (fs : FileSystem) : fs.Keeps fs where
  lookup := fun _ _ found => found
  workingDirectory := rfl

theorem trans (first : fs.Keeps fs') (second : fs'.Keeps fs'') : fs.Keeps fs'' where
  lookup := fun place node found => second.lookup place node (first.lookup place node found)
  workingDirectory := second.workingDirectory.trans first.workingDirectory

theorem retains (kept : fs.Keeps fs') : fs.Retains fs' where
  lookup := fun place node found => ⟨node, kept.lookup place node found, Or.inl rfl⟩
  workingDirectory := kept.workingDirectory

/-- What a path leads to stays. -/
theorem follow (kept : fs.Keeps fs') {followLast : Bool} {budget : Nat} {here there : Location}
    {steps : List String} {node : Node}
    (reached : fs.follow followLast budget here steps = .ok (there, some node)) :
    fs'.follow followLast budget here steps = .ok (there, some node) := by
  obtain ⟨node', reached', -⟩ := kept.retains.follow reached
  have there := kept.lookup there node (lookup_of_follow reached)
  rw [lookup_of_follow reached'] at there
  rw [reached', there]

theorem resolve (kept : fs.Keeps fs') {path : String} {followLast : Bool} {place : Location}
    {node : Node} (resolved : fs.resolve path followLast = .ok (place, some node)) :
    fs'.resolve path followLast = .ok (place, some node) := by
  obtain ⟨reached, again⟩ := resolve_eq resolved fs' followLast
  rw [again, kept.workingDirectory, kept.follow reached]
  rfl

/-- **What is kept can be read as before.** -/
theorem readBytes (kept : fs.Keeps fs') {path : String} {bytes : List UInt8}
    (readable : fs.readBytes path = .ok bytes) : fs'.readBytes path = .ok bytes := by
  obtain ⟨there, resolved⟩ := readBytes_eq_ok_iff.mp readable
  exact readBytes_eq_ok_iff.mpr ⟨there, kept.resolve resolved⟩

end Keeps

theorem keeps_put (absent : fs.lookup place = none) : fs.Keeps (fs.put place node) where
  lookup := by
    intro here found there
    have other : here ≠ place := by
      rintro rfl
      rw [absent] at there
      cases there
    rw [lookup_put_of_ne other, there]
  workingDirectory := rfl

/-- **What making a directory does.** -/
theorem makeDirectory_cases {path : String} (made : fs.makeDirectory path = .ok fs') :
    ∃ place, fs.resolve (withoutFinalSlashes path) false = .ok (place, none) ∧
      fs' = fs.put place .directory := by
  unfold makeDirectory at made
  cases resolved : fs.resolve (withoutFinalSlashes path) false with
  | error e =>
    rw [resolved] at made
    cases made
  | ok found =>
    obtain ⟨place, node⟩ := found
    rw [resolved] at made
    cases node with
    | some node => cases made
    | none =>
      cases made
      exact ⟨place, rfl, rfl⟩

theorem keeps_makeDirectory {path : String} (made : fs.makeDirectory path = .ok fs') :
    fs.Keeps fs' := by
  obtain ⟨place, resolved, rfl⟩ := makeDirectory_cases made
  exact keeps_put (lookup_of_follow (resolve_eq resolved fs false).1)

/-- **Making directories is making one after the other**: what is true at the beginning, and stays
true when one of them is made, is true at the end, also when the last of them cannot be made. -/
theorem upwards_induction {make : FileSystem → String → Except IoFailure FileSystem}
    {motive : FileSystem → Prop} {paths : List String} (start : motive fs)
    (step : ∀ {fs' fs'' : FileSystem}, ∀ path ∈ paths, motive fs' →
      make fs' path = .ok fs'' → motive fs'') :
    motive (makeDirectories.upwards make fs paths).2 := by
  induction paths with
  | nil => exact start
  | cons path ancestors ih =>
    have above := ih fun other member => step other (List.mem_cons_of_mem path member)
    unfold makeDirectories.upwards
    split
    · exact step path List.mem_cons_self start ‹_›
    · split
      · split
        · rename_i failed
          rw [failed] at above
          exact above
        · rename_i made
          rw [made] at above
          split
          · exact step path List.mem_cons_self above ‹_›
          · split <;> exact above
      · split <;> exact start

/-- Makes one directory, unless the host refuses it for reasons of its own. -/
def makeDirectoryUnless (refused : FileSystem → String → Option IoFailure) (fs : FileSystem)
    (path : String) : Except IoFailure FileSystem :=
  match refused fs path with
  | some failure => .error failure
  | none => fs.makeDirectory path

/-- **Makes a directory and those above it on a host that may refuse each of them.** -/
def makeDirectoriesUnless (refused : FileSystem → String → Option IoFailure) (fs : FileSystem)
    (path : String) : Except IoFailure Unit × FileSystem :=
  if path.toList.contains '\x00' then (.error .zeroInPath, fs)
  else makeDirectories.upwards (makeDirectoryUnless refused) fs (ancestors path)

/-- With nothing refused they are made as ever. -/
theorem makeDirectoriesUnless_none (fs : FileSystem) (path : String) :
    makeDirectoriesUnless (fun _ _ => none) fs path = fs.makeDirectories path := rfl

theorem makeDirectory_of_unless {refused : FileSystem → String → Option IoFailure} {path : String}
    (made : makeDirectoryUnless refused fs path = .ok fs') : fs.makeDirectory path = .ok fs' := by
  unfold makeDirectoryUnless at made
  split at made
  · cases made
  · exact made

/-- **What is true of making directories one after the other**, whatever is refused. -/
theorem makeDirectoriesUnless_induction (refused : FileSystem → String → Option IoFailure)
    {motive : FileSystem → Prop} {path : String} (start : motive fs)
    (step : ∀ {fs' fs'' : FileSystem}, ∀ above ∈ ancestors path, motive fs' →
      fs'.makeDirectory above = .ok fs'' → motive fs'') :
    motive (makeDirectoriesUnless refused fs path).2 := by
  unfold makeDirectoriesUnless
  split
  · exact start
  · exact upwards_induction start fun above member kept made =>
      step above member kept (makeDirectory_of_unless made)

/-- **Making directories keeps everything that is there.** -/
theorem keeps_makeDirectories (path : String) : fs.Keeps (fs.makeDirectories path).2 :=
  makeDirectoriesUnless_induction (fun _ _ => none) (Keeps.refl fs) fun _ _ kept made =>
    kept.trans (keeps_makeDirectory made)

/-! ## The way to something new -/

/-- **What becomes of a step when something is put in a place**: a step to the place goes on
to it, whatever was there before, unless it is a link itself. -/
theorem turn_put (notDirectory : fs.lookup place ≠ some .directory)
    (notLink : ∀ target, node ≠ .link target) (here : Location) (step : String) :
    match fs.turn here step with
    | .stuck _ => True
    | .on there => (fs.put place node).turn here step = .on there
    | .missing there => there = place → (fs.put place node).turn here step = .on place
    | .link there target =>
      (fs.put place node).turn here step
        = if there = place then .on place else .link there target := by
  by_cases directory : fs.lookup here = some .directory
  · have off : here ≠ place := by
      rintro rfl
      exact notDirectory directory
    have directory' : (fs.put place node).lookup here = some .directory := by
      rw [lookup_put_of_ne off, directory]
    rcases turn_cases here step with ⟨there, same⟩ | ⟨error, same⟩ | same
    · rw [same _ directory, same _ directory']
    · rw [same _ directory]
      trivial
    · rw [same _ directory, same _ directory']
      by_cases itself : here ++ [step] = place
      · rw [itself]
        have on : (fs.put place node).named place = .on place := by
          simp only [named, lookup_put_self (ne_nil_of_lookup notDirectory)]
        rw [on]
        cases found : fs.lookup place with
        | none => simp [named, found]
        | some node => cases node <;> simp [named, found]
      · have unchanged : (fs.put place node).named (here ++ [step]) = fs.named (here ++ [step]) := by
          unfold named
          rw [lookup_put_of_ne itself]
        rw [unchanged]
        cases found : fs.lookup (here ++ [step]) with
        | none => simp [named, found, itself]
        | some node => cases node <;> simp [named, found, itself]
  · obtain ⟨error, stuck⟩ := turn_of_ne directory step
    rw [stuck]
    trivial

/-- **What becomes of a walk when something is put in a place.**  A walk that ended at the
place ends there with what was put; one that came to a link comes there again, unless the
link was in the place and is gone. -/
def Descent.Redirected (fs : FileSystem) (place : Location) (node : Node)
    (before after : Descent) : Prop :=
  match before with
  | .arrived there _ => there = place → after = .arrived place (some node)
  | .atLink directory target remaining =>
    after = before ∨
      remaining ≠ [] ∧ directory = place.dropLast ∧ fs.lookup place = some (.link target)
  | .failed _ => True

/-- A walk that does not follow its last link, and the same walk to the end after something
was put in a place where no directory is. -/
theorem redirected_descend (notDirectory : fs.lookup place ≠ some .directory)
    (notLink : ∀ target, node ≠ .link target) (here : Location) (steps : List String) :
    Descent.Redirected fs place node (fs.descend false here steps)
      ((fs.put place node).descend true here steps) := by
  have itself : (fs.put place node).lookup place = some node :=
    lookup_put_self (ne_nil_of_lookup notDirectory)
  induction steps generalizing here with
  | nil =>
    rintro rfl
    simp only [descend, itself]
  | cons step rest ih =>
    have after := turn_put notDirectory notLink here step
    rw [descend_cons, descend_cons]
    cases turned : fs.turn here step with
    | stuck error => trivial
    | on there =>
      simp only [turned] at after
      rw [after]
      exact ih there
    | missing there =>
      simp only [turned] at after
      cases rest with
      | cons => trivial
      | nil =>
        rintro rfl
        rw [after rfl]
        simp only [descend, itself]
    | link there target =>
      obtain ⟨name, link⟩ := lookup_of_turn_link turned
      simp only [turned] at after
      rw [after]
      cases rest with
      | nil =>
        rintro rfl
        simp only [if_pos, descend, itself]
      | cons =>
        by_cases replaced : there = place
        · subst replaced
          exact Or.inr ⟨by simp, by simp [name], link⟩
        · rw [if_neg replaced]
          exact Or.inl rfl

/-- **A link that is on its own way**: the path that names it goes on through it. -/
def OnItsOwnWay (fs : FileSystem) (place : Location) (target : String) : Prop :=
  ∃ there left, fs.follow true left (origin place.dropLast target) (FileSystem.steps target)
    = .ok (there, some .directory)

/-- **Where a path leads after something was put in the place that it names**: there, unless
a link was in that place that the path goes on through. -/
theorem follow_put (notDirectory : fs.lookup place ≠ some .directory)
    (notLink : ∀ target, node ≠ .link target) {budget : Nat} {here : Location}
    {steps : List String} {old : Option Node}
    (found : fs.follow false budget here steps = .ok (place, old)) :
    (fs.put place node).follow true budget here steps = .ok (place, some node) ∨
      ∃ target, old = some (.link target) ∧ fs.OnItsOwnWay place target := by
  have walk : Descent.Redirected fs place node (fs.descend false here steps)
      ((fs.put place node).descend true here steps) :=
    redirected_descend notDirectory notLink here steps
  have old_eq : fs.lookup place = old := lookup_of_follow found
  cases walked : fs.descend false here steps with
  | failed error =>
    rw [follow_of_failed walked] at found
    cases found
  | arrived there seen =>
    rw [follow_of_arrived walked] at found
    rw [walked] at walk
    cases found
    exact Or.inl (follow_of_arrived (walk rfl) budget)
  | atLink directory target remaining =>
    rw [walked] at walk
    cases budget with
    | zero =>
      rw [(follow_of_atLink walked).1] at found
      cases found
    | succ budget =>
      rw [(follow_of_atLink walked).2] at found
      rcases walk with same | ⟨more, named, link⟩
      · rw [(follow_of_atLink same).2]
        exact follow_put notDirectory notLink found
      · obtain ⟨there, left, reached, -⟩ := follow_append more found
        refine Or.inr ⟨target, old_eq.symm.trans link, there, budget, ?_⟩
        rwa [named] at reached

/-! ## Replacing a file -/

theorem withoutFinalSlashes_eq {path : String} (noSlash : path.toList.getLast? ≠ some '/') :
    withoutFinalSlashes path = path := by
  have kept : path.toList.rdropWhile (· == '/') = path.toList := by
    refine List.rdropWhile_eq_self_iff.mpr fun nonempty slash => noSlash ?_
    rw [List.getLast?_eq_some_getLast nonempty, beq_iff_eq.mp slash]
  unfold withoutFinalSlashes
  rw [show (path.toList.reverse.dropWhile (· == '/')).reverse = path.toList from kept]
  simp

/-- **What replacing a file does.** -/
theorem replaceFile_cases {path : String} (replaced : fs.replaceFile path content = .ok fs') :
    ∃ place old, fs.resolve path false = .ok (place, old) ∧ fs.lookup place ≠ some .directory ∧
      fs' = fs.put place (.file content) := by
  unfold replaceFile at replaced
  cases resolved : fs.resolve (withoutFinalSlashes path) false with
  | error e =>
    rw [resolved] at replaced
    cases replaced
  | ok found =>
    obtain ⟨place, old⟩ := found
    rw [resolved] at replaced
    simp only [bind, Except.bind] at replaced
    split_ifs at replaced with unnamed slash directory
    cases replaced
    rw [withoutFinalSlashes_eq slash] at resolved
    refine ⟨place, old, resolved, ?_, rfl⟩
    rwa [lookup_of_follow (resolve_eq resolved fs false).1]

end GuestSupervisor.FileSystem
