import GuestSupervisor.Proofs.Host.Aside

/-!
# What is written is read

A file that was put in the place that a path names is what the path leads to afterwards.  The way
there is as it was, for nothing on it was a file, with one exception: a path may go on through the
very link that it names.  That link is gone when the file is there, and the path leads nowhere.

## Main Definitions

* `FileSystem.CirclesBack` — a path that goes on through the link that it names.

## Main Statements

* `FileSystem.readBytes_of_replaceFile_iff` — what was written is read unless the path circles back.
* `FileSystem.not_circlesBack_of_readBytes` — a path that leads to a file does not.
-/

namespace GuestSupervisor.FileSystem

open GuestSupervisor.Path

variable {fs fs' : FileSystem} {place here there : Location} {content : List UInt8}
  {path : String}

/-- A file is put under a name. -/
theorem exists_name_of_replaceFile (replaced : fs.replaceFile path content = .ok fs') :
    ∃ before name, steps path = before ++ [name] ∧ IsName name := by
  unfold replaceFile at replaced
  cases resolved : fs.resolve (withoutFinalSlashes path) false with
  | error e =>
    rw [resolved] at replaced
    cases replaced
  | ok found =>
    rw [resolved] at replaced
    simp only [bind, Except.bind] at replaced
    split_ifs at replaced with unnamed slash directory
    cases last : (pieces path).getLast? with
    | none => simp [last] at unnamed
    | some name =>
      obtain ⟨before, cut⟩ := List.getLast?_eq_some_iff.mp last
      have piece : IsPiece name := isPiece_of_mem_pieces (List.mem_of_getLast? last)
      refine ⟨before, name, ?_, piece, ?_, ?_⟩
      · simp [steps, slash, cut]
      · rintro rfl
        simp [last, Part.ofPiece] at unnamed
      · rintro rfl
        simp [last, Part.ofPiece] at unnamed

/-- **A path circles back**: it names a link, and on the way to its last step it comes to that
link. -/
def CirclesBack (fs : FileSystem) (path : String) : Prop :=
  ∃ place target, fs.resolve path false = .ok (place, some (.link target)) ∧
    fs.Passes place (origin fs.workingDirectory path) (steps path).dropLast

/-- **What was written is read**, unless the path circles back: then it leads to no file. -/
theorem readBytes_of_replaceFile_iff (replaced : fs.replaceFile path content = .ok fs') :
    fs'.readBytes path = .ok content ↔ ¬fs.CirclesBack path := by
  obtain ⟨place, old, resolved, notDirectory, rfl⟩ := replaceFile_cases replaced
  obtain ⟨before, name, cut, isName⟩ := exists_name_of_replaceFile replaced
  obtain ⟨found, again⟩ := resolve_eq resolved (fs.put place (.file content)) true
  rw [cut] at found again
  obtain ⟨there, left, first, second⟩ := follow_append (List.cons_ne_nil _ _) found
  have directory := lookup_of_follow first
  have fits : ¬longestName < name.utf8ByteSize ∧ place = there ++ [name] := by
    rw [follow_entry isName directory] at second
    split_ifs at second with long
    exact ⟨long, (Prod.mk.inj (Except.ok.inj second)).1.symm⟩
  obtain ⟨fits, rfl⟩ := fits
  have initial : (steps path).dropLast = before := by simp [cut]
  constructor
  · rintro readable ⟨place, target, link, passes⟩
    rw [resolved] at link
    cases link
    obtain ⟨last, resolved'⟩ := readBytes_eq_ok_iff.mp readable
    obtain ⟨reached, -⟩ := resolve_eq resolved' fs true
    rw [put_workingDirectory, cut, ← put_drop] at reached
    obtain ⟨above, left, first', -⟩ := follow_append (List.cons_ne_nil _ _) reached
    rw [initial] at passes
    -- The way to the last step is there without the link, although it comes to the link.
    exact follow_drop_of_passes notDirectory passes _ _ _
      (follow_of_put (lookup_drop_self (ne_nil_of_lookup notDirectory)) first')
  · intro direct
    have avoids : ¬fs.Passes (there ++ [name]) (origin fs.workingDirectory path) before := by
      intro passes
      by_cases link : ∃ target, old = some (.link target)
      · obtain ⟨target, rfl⟩ := link
        exact direct ⟨_, target, resolved, by rwa [initial]⟩
      · have noLink : ∀ target, fs.lookup (there ++ [name]) ≠ some (.link target) :=
          fun target linked => link ⟨target, (lookup_of_follow found).symm.trans linked⟩
        simpa using congrArg List.length (passes.eq_of_follow noLink first)
    have off : there ≠ there ++ [name] := by simp
    have kept : (fs.drop (there ++ [name])).Keeps (fs.put (there ++ [name]) (.file content)) := by
      rw [← put_drop]
      exact keeps_put (lookup_drop_self (ne_nil_of_lookup notDirectory))
    have led := kept.follow ((follow_drop notDirectory avoids there .directory).mpr first)
    have itself : (fs.put (there ++ [name]) (.file content)).lookup (there ++ [name])
        = some (.file content) := lookup_put_self (ne_nil_of_lookup notDirectory)
    have last : ∀ left, (fs.put (there ++ [name]) (.file content)).follow true left there [name]
        = .ok (there ++ [name], some (.file content)) := by
      intro left
      refine follow_true_of_noLink (by simp) ?_
      rw [follow_entry isName (by rwa [lookup_put_of_ne off]), if_neg fits, itself]
    refine readBytes_eq_ok_iff.mpr ⟨there ++ [name], ?_⟩
    rw [again, put_workingDirectory, follow_append_of_directory (List.cons_ne_nil _ _) led last]
    rfl

/-- What was written is read, if the path does not circle back. -/
theorem readBytes_of_replaceFile (replaced : fs.replaceFile path content = .ok fs')
    (direct : ¬fs.CirclesBack path) : fs'.readBytes path = .ok content :=
  (readBytes_of_replaceFile_iff replaced).mpr direct

/-! ## Paths that do not circle back -/

/-- A walk to a directory that comes to a link goes on through it. -/
theorem Passes.onItsOwnWay {steps : List String} {target : String} {budget : Nat}
    (passes : fs.Passes place here steps) (link : fs.lookup place = some (.link target))
    (reached : fs.follow true budget here steps = .ok (there, some .directory)) :
    fs.OnItsOwnWay place target := by
  induction passes generalizing budget with
  | ends =>
    rw [follow_nil, link] at reached
    cases reached
  | on turned _ ih =>
    rw [follow_cons, turned] at reached
    exact ih reached
  | @through here step target' rest turned =>
    obtain ⟨rfl, link'⟩ := lookup_of_turn_link turned
    rw [link] at link'
    cases link'
    rw [follow_cons, turned] at reached
    cases budget with
    | zero => cases reached
    | succ budget =>
      cases rest with
      | nil => exact ⟨there, budget, by simpa using reached⟩
      | cons =>
        obtain ⟨above, left, first, -⟩ := follow_append (List.cons_ne_nil _ _) reached
        exact ⟨above, budget, by simpa using first⟩
  | behind turned _ ih =>
    rw [follow_cons, turned] at reached
    cases budget with
    | zero => cases reached
    | succ budget => exact ih reached

/-- A path that names a link that is on its own way leads to no file. -/
theorem readBytes_ne_of_onItsOwnWay {target : String} {bytes : List UInt8}
    (resolved : fs.resolve path false = .ok (place, some (.link target)))
    (onWay : fs.OnItsOwnWay place target) : fs.readBytes path ≠ .ok bytes := by
  intro readable
  obtain ⟨last, resolved'⟩ := readBytes_eq_ok_iff.mp readable
  obtain ⟨reached, -⟩ := resolve_eq resolved' fs true
  obtain ⟨found, -⟩ := resolve_eq resolved fs true
  obtain ⟨there, left, onwards⟩ := onWay
  rcases follow_link found with itself | failed | ⟨other, same⟩
  · rw [reached] at itself
    cases itself
  · rw [reached] at failed
    cases failed
  · rw [same] at reached
    rcases follow_budget onwards other with directory | failed
    · rw [reached] at directory
      cases directory
    · rw [reached] at failed
      cases failed

/-- **A path that leads to a file does not circle back.** -/
theorem not_circlesBack_of_readBytes {bytes : List UInt8}
    (readable : fs.readBytes path = .ok bytes) : ¬fs.CirclesBack path := by
  rintro ⟨place, target, resolved, passes⟩
  obtain ⟨last, resolved'⟩ := readBytes_eq_ok_iff.mp readable
  obtain ⟨reached, -⟩ := resolve_eq resolved' fs true
  have link : fs.lookup place = some (.link target) :=
    lookup_of_follow (resolve_eq resolved fs true).1
  rcases List.eq_nil_or_concat (steps path) with none | ⟨before, name, cut⟩
  · rw [none] at passes reached
    cases passes
    rw [follow_nil, link] at reached
    cases reached
  · rw [List.concat_eq_append] at cut
    rw [cut, List.dropLast_concat] at passes
    rw [cut] at reached
    obtain ⟨above, left, first, -⟩ := follow_append (List.cons_ne_nil _ _) reached
    exact readBytes_ne_of_onItsOwnWay resolved (passes.onItsOwnWay link first) readable

/-- Where there are no links no path circles back, also when directories have been made. -/
theorem not_circlesBack_of_noLink (noLink : ∀ place target, fs.lookup place ≠ some (.link target))
    (adds : fs.AddsDirectories fs') : ¬fs'.CirclesBack path := by
  rintro ⟨place, target, resolved, -⟩
  have link := lookup_of_follow (resolve_eq resolved fs true).1
  rcases adds.added place _ link with there | directory
  · exact noLink place target there
  · cases directory

end GuestSupervisor.FileSystem
