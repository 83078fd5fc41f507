import GuestSupervisor.Proofs.Host.FileSystem

/-!
# What a removed entry takes away

A file or a link is removed from one place, and the paths that led through that place lead
nowhere afterwards.  Every other path leads where it led before.

A path leads through a place in two ways: it ends there, or it goes on from there because a
link is there.  Which of them it is does not matter to the path: it is broken either way.

## Main Definitions

* `FileSystem.Passes` — a walk that comes to a place.
* `FileSystem.LeadsThrough` — a path that leads through a place.

## Main Statements

* `FileSystem.follow_cons` — a walk through links takes its steps one after the other.
* `FileSystem.follow_drop`, `FileSystem.follow_drop_of_passes` — what becomes of a walk.
* `FileSystem.isFile_drop_iff` — the files that can still be reached.
-/

namespace GuestSupervisor.FileSystem

variable {fs fs' : FileSystem} {place here there : Location} {steps rest : List String}
  {path step : String} {budget : Nat}

/-! ## Dropping an entry -/

theorem lookup_drop_self (nonempty : place ≠ []) : (fs.drop place).lookup place = none := by
  simp [lookup, drop, nonempty, List.find?_filter]

theorem lookup_drop_of_ne (other : here ≠ place) :
    (fs.drop place).lookup here = fs.lookup here := by
  unfold lookup drop
  simp only [find?_filter_of_ne other]

/-- **What becomes of a step when an entry is dropped**: a step to the entry finds nothing, and
every other step is what it was, but for the reason when it is no step at all. -/
theorem turn_drop (notDirectory : fs.lookup place ≠ some .directory) (here : Location)
    (step : String) :
    (∃ error error', fs.turn here step = .stuck error ∧
        (fs.drop place).turn here step = .stuck error') ∨
      here ++ [step] = place ∧ fs.turn here step = fs.named place ∧
        (fs.drop place).turn here step = .missing place ∨
      (∀ target, fs.turn here step ≠ .link place target) ∧
        (fs.drop place).turn here step = fs.turn here step := by
  by_cases directory : fs.lookup here = some .directory
  · have off : here ≠ place := by
      rintro rfl
      exact notDirectory directory
    have directory' : (fs.drop place).lookup here = some .directory := by
      rw [lookup_drop_of_ne off, directory]
    rcases turn_cases here step with ⟨there, same⟩ | ⟨error, same⟩ | same
    · rw [same _ directory, same _ directory']
      exact Or.inr (Or.inr ⟨by simp, rfl⟩)
    · exact Or.inl ⟨error, error, same _ directory, same _ directory'⟩
    · rw [same _ directory, same _ directory']
      by_cases itself : here ++ [step] = place
      · refine Or.inr (Or.inl ⟨itself, by rw [itself], ?_⟩)
        rw [itself, named, lookup_drop_self (ne_nil_of_lookup notDirectory)]
      · refine Or.inr (Or.inr ⟨fun target linked => ?_, ?_⟩)
        · rw [← same _ directory] at linked
          exact itself (lookup_of_turn_link linked).1.symm
        · unfold named
          rw [lookup_drop_of_ne itself]
  · obtain ⟨error, stuck⟩ := turn_of_ne directory step
    have directory' : (fs.drop place).lookup here ≠ some .directory := by
      by_cases itself : here = place
      · subst itself
        rw [lookup_drop_self (ne_nil_of_lookup notDirectory)]
        simp
      · rwa [lookup_drop_of_ne itself]
    obtain ⟨error', stuck'⟩ := turn_of_ne directory' step
    exact Or.inl ⟨error, error', stuck, stuck'⟩

/-! ## Walks through links -/

@[simp] theorem follow_nil (fs : FileSystem) (followLast : Bool) (budget : Nat) (here : Location) :
    fs.follow followLast budget here [] = .ok (here, fs.lookup here) :=
  follow_of_arrived rfl budget

/-- **A walk through links takes its steps one after the other**: a link puts the steps of its
target in its place. -/
theorem follow_cons (fs : FileSystem) (budget : Nat) (here : Location) (step : String)
    (rest : List String) :
    fs.follow true budget here (step :: rest) =
      match fs.turn here step with
      | .stuck error => .error error
      | .on there => fs.follow true budget there rest
      | .missing there => if rest.isEmpty then .ok (there, none) else .error .noEntry
      | .link _ target =>
        match budget with
        | 0 => .error .tooManyLinks
        | budget + 1 => fs.follow true budget (origin here target) (FileSystem.steps target ++ rest)
    := by
  have walk := fs.descend_cons true here step rest
  cases turned : fs.turn here step with
  | stuck error =>
    rw [turned] at walk
    exact follow_of_failed walk budget
  | on there =>
    rw [turned] at walk
    unfold follow
    rw [walk]
  | missing there =>
    simp only [turned] at walk ⊢
    split
    · rename_i last
      rw [if_pos last] at walk
      exact follow_of_arrived walk budget
    · rename_i more
      rw [if_neg more] at walk
      exact follow_of_failed walk budget
  | link there target =>
    simp only [turned, Bool.not_true, Bool.and_false, Bool.false_eq_true, if_false] at walk
    cases budget with
    | zero => exact (follow_of_atLink walk).1
    | succ budget => exact (follow_of_atLink walk).2 budget

/-! ## Coming to a place -/

/-- **A walk comes to a place**: it ends there, or a link is there and the walk goes on through
it. -/
inductive Passes (fs : FileSystem) (place : Location) : Location → List String → Prop
  | ends : Passes fs place place []
  | on {here there : Location} {step : String} {rest : List String}
      (turned : fs.turn here step = .on there) (later : Passes fs place there rest) :
      Passes fs place here (step :: rest)
  | through {here : Location} {step target : String} {rest : List String}
      (turned : fs.turn here step = .link place target) : Passes fs place here (step :: rest)
  | behind {here there : Location} {step target : String} {rest : List String}
      (turned : fs.turn here step = .link there target)
      (later : Passes fs place (origin here target) (FileSystem.steps target ++ rest)) :
      Passes fs place here (step :: rest)

/-- A step to something that is missing ends nowhere. -/
theorem follow_of_missing_turn {missing : Location} (turned : fs.turn here step = .missing missing)
    (there : Location) (node : Node) :
    fs.follow true budget here (step :: rest) ≠ .ok (there, some node) := by
  rw [follow_cons, turned]
  simp only
  split <;> simp

/-- **A walk that comes to a dropped entry ends nowhere.** -/
theorem follow_drop_of_passes (notDirectory : fs.lookup place ≠ some .directory)
    (passes : fs.Passes place here steps) (budget : Nat) (there : Location) (node : Node) :
    (fs.drop place).follow true budget here steps ≠ .ok (there, some node) := by
  induction passes generalizing budget with
  | ends => simp [lookup_drop_self (ne_nil_of_lookup notDirectory)]
  | on turned _ ih =>
    rcases turn_drop notDirectory _ _ with ⟨_, _, stuck, -⟩ | ⟨-, -, missing⟩ | ⟨-, same⟩
    · rw [turned] at stuck
      cases stuck
    · exact follow_of_missing_turn missing there node
    · rw [follow_cons, same, turned]
      exact ih budget
  | through turned =>
    rcases turn_drop notDirectory _ _ with ⟨_, _, stuck, -⟩ | ⟨-, -, missing⟩ | ⟨other, -⟩
    · rw [turned] at stuck
      cases stuck
    · exact follow_of_missing_turn missing there node
    · exact absurd turned (other _)
  | behind turned _ ih =>
    rcases turn_drop notDirectory _ _ with ⟨_, _, stuck, -⟩ | ⟨-, -, missing⟩ | ⟨-, same⟩
    · rw [turned] at stuck
      cases stuck
    · exact follow_of_missing_turn missing there node
    · rw [follow_cons, same, turned]
      cases budget with
      | zero => simp
      | succ budget => exact ih budget

/-- A walk that steps to the dropped entry without coming to it found nothing there before. -/
theorem follow_named (notDirectory : fs.lookup place ≠ some .directory)
    (turned : fs.turn here step = fs.named place) (avoids : ¬fs.Passes place here (step :: rest)) :
    (∃ error, fs.follow true budget here (step :: rest) = .error error) ∨
      fs.turn here step = .missing place := by
  cases there : fs.lookup place with
  | none =>
    refine Or.inr (turned.trans ?_)
    simp only [named, there]
  | some node =>
    cases node with
    | directory => exact absurd there notDirectory
    | link target =>
      rw [named, there] at turned
      exact absurd (.through turned) avoids
    | file | socket =>
      simp only [named, there] at turned
      cases rest with
      | nil => exact absurd (.on turned .ends) avoids
      | cons next rest =>
        obtain ⟨error, stuck⟩ := turn_of_ne notDirectory next
        exact Or.inl ⟨error, by rw [follow_cons, turned]; simp only [follow_cons, stuck]⟩

/-- **A walk that does not come to a dropped entry ends where it ended before.** -/
theorem follow_drop (notDirectory : fs.lookup place ≠ some .directory) {budget : Nat}
    {here : Location} {steps : List String} (avoids : ¬fs.Passes place here steps)
    (there : Location) (node : Node) :
    (fs.drop place).follow true budget here steps = .ok (there, some node) ↔
      fs.follow true budget here steps = .ok (there, some node) := by
  match steps with
  | [] =>
    have other : here ≠ place := by
      rintro rfl
      exact avoids .ends
    rw [follow_nil, follow_nil, lookup_drop_of_ne other]
  | step :: rest =>
    rcases turn_drop notDirectory here step with
      ⟨error, error', stuck, stuck'⟩ | ⟨-, found, missing⟩ | ⟨-, same⟩
    · simp [follow_cons, stuck, stuck']
    · refine iff_of_false (follow_of_missing_turn missing there node) ?_
      rcases follow_named notDirectory found avoids with ⟨error, failed⟩ | missing
      · rw [failed]
        simp
      · exact follow_of_missing_turn missing there node
    · rw [follow_cons, follow_cons, same]
      cases turned : fs.turn here step with
      | stuck error => rfl
      | on next =>
        exact follow_drop notDirectory (fun passes => avoids (.on turned passes)) there node
      | missing next => rfl
      | link next target =>
        match budget with
        | 0 => rfl
        | budget + 1 =>
          exact follow_drop notDirectory (fun passes => avoids (.behind turned passes)) there node
termination_by (budget, steps.length)

/-! ## Paths -/

/-- **A path leads through a place.** -/
def LeadsThrough (fs : FileSystem) (path : String) (place : Location) : Prop :=
  fs.Passes place (origin fs.workingDirectory path) (FileSystem.steps path)

theorem isFile_iff {path : String} :
    fs.isFile path ↔ ∃ place content, fs.resolve path true = .ok (place, some (.file content)) := by
  unfold isFile node?
  cases resolved : fs.resolve path true with
  | error e => simp [bind, Except.bind]
  | ok found =>
    obtain ⟨place, node⟩ := found
    cases node with
    | none => simp [bind, Except.bind]
    | some node => cases node <;> simp [bind, Except.bind]

/-- **The files that can be reached when an entry was dropped** are those to which a path leads
that does not lead through its place. -/
theorem isFile_drop_iff (notDirectory : fs.lookup place ≠ some .directory) (path : String) :
    (fs.drop place).isFile path ↔ fs.isFile path ∧ ¬fs.LeadsThrough path place := by
  simp only [isFile_iff]
  constructor
  · rintro ⟨there, content, resolved⟩
    obtain ⟨reached, again⟩ := resolve_eq resolved fs true
    have avoids : ¬fs.LeadsThrough path place := fun passes =>
      follow_drop_of_passes notDirectory passes linkBudget there (.file content) reached
    have before := (follow_drop notDirectory avoids there (.file content)).mp reached
    exact ⟨⟨there, content, by rw [again, before]; rfl⟩, avoids⟩
  · rintro ⟨⟨there, content, resolved⟩, avoids⟩
    obtain ⟨reached, again⟩ := resolve_eq resolved (fs.drop place) true
    have after := (follow_drop notDirectory avoids there (.file content)).mpr reached
    refine ⟨there, content, ?_⟩
    rw [again, show (fs.drop place).workingDirectory = fs.workingDirectory from rfl, after]
    rfl

/-- **What removing a file does.** -/
theorem removeFile_cases {path : String} (removed : fs.removeFile path = .ok fs') :
    ∃ place node, fs.resolve path false = .ok (place, some node) ∧ node ≠ .directory ∧
      fs' = fs.drop place := by
  unfold removeFile at removed
  cases resolved : fs.resolve path false with
  | error e =>
    rw [resolved] at removed
    cases removed
  | ok found =>
    obtain ⟨place, node⟩ := found
    rw [resolved] at removed
    cases node with
    | none => cases removed
    | some node =>
      cases node with
      | directory => cases removed
      | file | link | socket =>
        cases removed
        exact ⟨place, _, rfl, by simp, rfl⟩

end GuestSupervisor.FileSystem
