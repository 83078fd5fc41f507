import GuestSupervisor.Configuration.Store
import GuestSupervisor.Proofs.Host.Path
import Mathlib.Data.List.DropRight

/-!
# What is above a path

The text of a path is cut into pieces, its parts are what is left when the dots are taken
out, and a prefix of the parts, written as a text again, names a directory above the path.
Such a text asks for the first steps of the path, up to dots.

## Main Definitions

* `Path.IsPiece` — a text between two slashes.
* `Path.Proper` — parts in the order in which paths have them.
* `Path.Undotted` — the same steps without some of the dots.
* `Path.IsAbove` — a text that asks for the first steps of a path.

## Main Statements

* `Path.parts_ofParts` — the parts of a text that was written for parts.
* `FileSystem.steps_withoutFinalSlashes` — without the slashes at its end a path asks for its
  pieces.
* `ConfigurationStore.isAbove_of_mem_ancestors` — the directories that a store may have to
  make are above its path.
-/

namespace GuestSupervisor

open Text

namespace Path

variable {path text : String} {route above : List Part} {part : Part}

/-! ## Pieces -/

/-- **A text between two slashes.** -/
structure IsPiece (text : String) : Prop where
  nonempty : text ≠ ""
  noSlash : '/' ∉ text.toList

/-- The pieces of two texts with a slash in between are those of the one and of the other. -/
theorem pieces_append_slash (a b : String) : pieces (a ++ "/" ++ b) = pieces a ++ pieces b := by
  have cut : (a ++ "/" ++ b).toList = a.toList ++ '/' :: b.toList := by simp
  unfold pieces
  rw [cut, segments_append_mark, List.filterMap_append]

/-- A text of slashes has no pieces. -/
theorem pieces_of_forall_slash (slashes : ∀ c ∈ path.toList, c = '/') : pieces path = [] := by
  unfold pieces
  generalize path.toList = text at slashes
  induction text with
  | nil => rfl
  | cons c text ih =>
    obtain rfl : c = '/' := slashes c List.mem_cons_self
    rw [segments_cons_mark]
    exact ih fun other member => slashes other (List.mem_cons_of_mem _ member)

theorem isPiece_of_mem_pieces (member : text ∈ pieces path) : IsPiece text := by
  obtain ⟨segment, inPath, kept⟩ := List.mem_filterMap.mp member
  split at kept
  · cases kept
  · rename_i nonempty
    cases kept
    refine ⟨by simpa using nonempty, ?_⟩
    rw [String.toList_ofList]
    exact not_mem_of_mem_segments inPath

theorem IsPiece.pieces_eq (piece : IsPiece text) : pieces text = [text] := by
  have nonempty : text.toList ≠ [] := by simpa using piece.nonempty
  simp [pieces, segments_of_not_mem piece.noSlash, nonempty]

/-- **Pieces with slashes in between are found again.** -/
theorem pieces_intercalate (texts : List String) (whole : ∀ text ∈ texts, IsPiece text) :
    pieces ("/".intercalate texts) = texts := by
  induction texts with
  | nil => rfl
  | cons text rest ih =>
    have first := (whole text List.mem_cons_self).pieces_eq
    cases rest with
    | nil => rw [String.intercalate_singleton, first]
    | cons second rest =>
      rw [String.intercalate_cons_cons, pieces_append_slash, first,
        ih fun other member => whole other (List.mem_cons_of_mem _ member)]
      rfl

/-! ## Parts -/

/-- **A part that can stand behind others**: a step up or to a name. -/
inductive Part.IsStep : Part → Prop where
  | above : IsStep .above
  | name {text : String} (piece : IsPiece text) (noDot : text ≠ ".") (noDots : text ≠ "..") :
      IsStep (.name text)

theorem Part.IsStep.isPiece (step : part.IsStep) : IsPiece part.text := by
  cases step with
  | above => exact ⟨by decide, by decide⟩
  | name piece => exact piece

theorem Part.IsStep.ofPiece_text (step : part.IsStep) : Part.ofPiece part.text = part := by
  cases step with
  | above => rfl
  | name piece noDot noDots => simp [Part.ofPiece, Part.text, noDot, noDots]

theorem Part.IsStep.text_ne_dot (step : part.IsStep) : part.text ≠ "." := by
  cases step with
  | above => decide
  | name piece noDot noDots => exact noDot

theorem Part.IsStep.ne_current (step : part.IsStep) : part ≠ .current := by
  rintro rfl
  cases step

/-- What is left of the pieces of a path without the dots are steps. -/
theorem isStep_of_mem_filter {texts : List String} (whole : ∀ text ∈ texts, IsPiece text)
    (member : part ∈ (texts.map Part.ofPiece).filter (· != .current)) : part.IsStep := by
  obtain ⟨inMap, solid⟩ := List.mem_filter.mp member
  obtain ⟨text, inTexts, rfl⟩ := List.mem_map.mp inMap
  by_cases dot : text = "."
  · simp [Part.ofPiece, dot] at solid
  · by_cases dots : text = ".."
    · rw [show Part.ofPiece text = .above by simp [Part.ofPiece, dots]]
      exact .above
    · rw [show Part.ofPiece text = .name text by simp [Part.ofPiece, dot, dots]]
      exact .name (whole text inTexts) dot dots

/-- **How a path begins**: what its first part stands for, and the pieces that say so. -/
inductive Opening : List Part → List String → Bool → Prop where
  | absolute : Opening [.root] [] true
  | current : Opening [.current] ["."] false
  | other : Opening [] [] false

/-- **The parts of a path are its pieces without the dots**, behind what it begins with. -/
theorem Opening.parts_eq {first : List Part} {lead rest : List String} {absolute : Bool}
    (opening : Opening first lead absolute) (start : isAbsolute path = absolute)
    (cut : pieces path = lead ++ rest)
    (noDot : first = [] → (rest.map Part.ofPiece).head? ≠ some .current) :
    parts path = first ++ (rest.map Part.ofPiece).filter (· != .current) := by
  unfold parts
  simp only [start, cut, List.map_append]
  cases opening with
  | absolute => rfl
  | current => rfl
  | other =>
    have noDot := noDot rfl
    simp only [List.map_nil, List.nil_append, Bool.false_eq_true, if_false]
    split
    · rename_i same
      simp [same] at noDot
    · rfl

theorem exists_opening (path : String) :
    ∃ first lead absolute rest, Opening first lead absolute ∧ isAbsolute path = absolute ∧
      pieces path = lead ++ rest ∧
      parts path = first ++ (rest.map Part.ofPiece).filter (· != .current) := by
  cases absolute : isAbsolute path with
  | true =>
    exact ⟨_, _, _, pieces path, .absolute, rfl, rfl,
      Opening.absolute.parts_eq absolute rfl (by simp)⟩
  | false =>
    by_cases dot : ((pieces path).map Part.ofPiece).head? = some .current
    · cases cut : pieces path with
      | nil => simp [cut] at dot
      | cons piece rest =>
        have first : Part.ofPiece piece = .current := by simpa [cut] using dot
        obtain rfl : piece = "." := by
          rw [← text_ofPiece piece, first]
          rfl
        exact ⟨_, _, _, rest, .current, rfl, rfl, Opening.current.parts_eq absolute cut (by simp)⟩
    · exact ⟨_, _, _, pieces path, .other, rfl, rfl,
        Opening.other.parts_eq absolute rfl fun _ => dot⟩

/-- **Parts in the order in which paths have them.** -/
def Proper (route : List Part) : Prop :=
  ∃ first lead absolute rest, Opening first lead absolute ∧ (∀ part ∈ rest, part.IsStep) ∧
    route = first ++ rest

theorem proper_parts (path : String) : Proper (parts path) := by
  obtain ⟨first, lead, absolute, rest, opening, -, cut, same⟩ := exists_opening path
  refine ⟨first, lead, absolute, _, opening, fun part member => ?_, same⟩
  refine isStep_of_mem_filter (fun text inRest => ?_) member
  exact isPiece_of_mem_pieces (cut ▸ List.mem_append_right lead inRest)

theorem Proper.of_initial (proper : Proper route) (pre : above <+: route) : Proper above := by
  obtain ⟨first, lead, absolute, rest, opening, steps, rfl⟩ := proper
  have empty : Proper [] := ⟨[], [], false, [], .other, by simp, rfl⟩
  cases opening with
  | absolute =>
    rcases List.prefix_cons_iff.mp pre with rfl | ⟨others, rfl, inRest⟩
    · exact empty
    · exact ⟨_, _, _, others, .absolute, fun part member => steps part (inRest.mem member), rfl⟩
  | current =>
    rcases List.prefix_cons_iff.mp pre with rfl | ⟨others, rfl, inRest⟩
    · exact empty
    · exact ⟨_, _, _, others, .current, fun part member => steps part (inRest.mem member), rfl⟩
  | other => exact ⟨_, _, _, above, .other, fun part member => steps part (pre.mem member), rfl⟩

/-! ## Parts as a text -/

theorem isAbsolute_intercalate (texts : List String) (nonempty : text ≠ "") :
    isAbsolute ("/".intercalate (text :: texts)) = isAbsolute text := by
  have first : text.toList ≠ [] := by simpa using nonempty
  obtain ⟨c, others, same⟩ := List.exists_cons_of_ne_nil first
  cases texts with
  | nil => rw [String.intercalate_singleton]
  | cons second texts => simp [isAbsolute, String.intercalate_cons_cons, same]

theorem IsPiece.isAbsolute (piece : IsPiece text) : isAbsolute text = false := by
  have other : text.toList.head? ≠ some '/' := fun slash =>
    piece.noSlash (List.mem_of_head? slash)
  simpa [Path.isAbsolute] using other

/-- **The text of parts has their texts for pieces**, and begins as they do. -/
theorem Opening.ofParts {first : List Part} {lead : List String} {absolute : Bool}
    (opening : Opening first lead absolute) {rest : List Part}
    (steps : ∀ part ∈ rest, part.IsStep) :
    pieces (ofParts (first ++ rest)) = lead ++ rest.map Part.text ∧
      isAbsolute (ofParts (first ++ rest)) = absolute := by
  have whole : ∀ text ∈ rest.map Part.text, IsPiece text := by
    intro text member
    obtain ⟨part, inRest, rfl⟩ := List.mem_map.mp member
    exact (steps part inRest).isPiece
  cases opening with
  | absolute =>
    cases rest with
    | nil => exact ⟨rfl, rfl⟩
    | cons part rest =>
      have text : Path.ofParts ([.root] ++ part :: rest)
          = "" ++ "/" ++ "/".intercalate ((part :: rest).map Part.text) := by
        simp [Path.ofParts, Part.text, String.intercalate_cons_cons]
      rw [text, pieces_append_slash, pieces_intercalate _ whole]
      exact ⟨rfl, by simp [isAbsolute]⟩
  | current =>
    have text : Path.ofParts ([.current] ++ rest)
        = "/".intercalate ("." :: rest.map Part.text) := by
      simp [Path.ofParts, Part.text]
    have dot : IsPiece "." := ⟨by decide, by decide⟩
    rw [text, pieces_intercalate _ (List.forall_mem_cons.mpr ⟨dot, whole⟩),
      isAbsolute_intercalate _ dot.nonempty, dot.isAbsolute]
    exact ⟨rfl, rfl⟩
  | other =>
    have noRoot : rest ≠ [.root] := by
      rintro rfl
      cases steps .root (by simp)
    have text : Path.ofParts ([] ++ rest) = "/".intercalate (rest.map Part.text) := by
      simp [Path.ofParts, noRoot]
    rw [text, pieces_intercalate _ whole]
    refine ⟨rfl, ?_⟩
    cases rest with
    | nil => rfl
    | cons part rest =>
      have piece := whole part.text (by simp)
      rw [List.map_cons, isAbsolute_intercalate _ piece.nonempty, piece.isAbsolute]

/-- **The parts of a text that was written for parts** are those parts. -/
theorem Proper.parts_ofParts (proper : Proper route) : parts (ofParts route) = route := by
  obtain ⟨first, lead, absolute, rest, opening, steps, rfl⟩ := proper
  obtain ⟨cut, start⟩ := opening.ofParts steps
  have again : (rest.map Part.text).map Part.ofPiece = rest := by
    rw [List.map_map]
    exact (List.map_congr_left fun part member => (steps part member).ofPiece_text).trans
      (List.map_id rest)
  have solid : ∀ part ∈ rest, part ≠ .current := fun part member => (steps part member).ne_current
  have noDot : rest.head? ≠ some .current := fun dot => solid _ (List.mem_of_head? dot) rfl
  rw [opening.parts_eq start cut fun _ => by rwa [again], again,
    List.filter_eq_self.mpr fun part member => by simpa using solid part member]

/-! ## Steps without dots -/

/-- **The same steps without some of the dots.** -/
inductive Undotted : List String → List String → Prop where
  | nil : Undotted [] []
  | step {fewer steps : List String} (step : String) (rest : Undotted fewer steps) :
      Undotted (step :: fewer) (step :: steps)
  | dot {fewer steps : List String} (rest : Undotted fewer steps) : Undotted fewer ("." :: steps)

theorem Undotted.append_left {fewer steps : List String} (lead : List String)
    (rest : Undotted fewer steps) : Undotted (lead ++ fewer) (lead ++ steps) := by
  induction lead with
  | nil => exact rest
  | cons step lead ih => exact .step step ih

/-- The parts of a path are its steps without dots. -/
theorem undotted_of_filter (texts : List String) :
    Undotted (((texts.map Part.ofPiece).filter (· != .current)).map Part.text) texts := by
  induction texts with
  | nil => exact .nil
  | cons text texts ih =>
    by_cases dot : Part.ofPiece text = .current
    · obtain rfl : text = "." := by
        rw [← text_ofPiece text, dot]
        rfl
      simpa [Part.ofPiece] using Undotted.dot ih
    · simpa [dot, text_ofPiece] using Undotted.step text ih

end Path

namespace FileSystem

open GuestSupervisor.Path

/-- A path is its text without the slashes at its end, and slashes. -/
theorem exists_withoutFinalSlashes (path : String) :
    withoutFinalSlashes path = path ∧ pieces path = [] ∨
      ∃ slashes : List Char, (∀ c ∈ slashes, c = '/') ∧
        path.toList = (withoutFinalSlashes path).toList ++ slashes ∧
        (withoutFinalSlashes path).toList ≠ [] ∧
        (withoutFinalSlashes path).toList.getLast? ≠ some '/' := by
  have whole : path.toList
      = path.toList.rdropWhile (· == '/') ++ path.toList.rtakeWhile (· == '/') :=
    List.rdropWhile_append_rtakeWhile.symm
  have slashes : ∀ c ∈ path.toList.rtakeWhile (· == '/'), c = '/' := fun c member => by
    simpa using List.mem_rtakeWhile_imp member
  have same : withoutFinalSlashes path = if path.toList.rdropWhile (· == '/') = [] then path
      else String.ofList (path.toList.rdropWhile (· == '/')) := by
    simp [withoutFinalSlashes, List.rdropWhile]
  rw [same]
  split
  · rename_i nothing
    rw [nothing, List.nil_append] at whole
    exact Or.inl ⟨rfl, pieces_of_forall_slash (whole ▸ slashes)⟩
  · rename_i something
    refine Or.inr ⟨_, slashes, by rwa [String.toList_ofList], by rwa [String.toList_ofList], ?_⟩
    rw [String.toList_ofList, List.getLast?_eq_some_getLast something]
    have last := List.rdropWhile_last_not (· == '/') path.toList something
    simpa using last

/-- **Without the slashes at its end a path asks for its pieces.** -/
theorem steps_withoutFinalSlashes (path : String) :
    steps (withoutFinalSlashes path) = pieces path := by
  rcases exists_withoutFinalSlashes path with ⟨same, empty⟩ | ⟨slashes, only, whole, -, last⟩
  · simp [steps, same, empty]
  · have cut : pieces path = pieces (withoutFinalSlashes path) := by
      cases slashes with
      | nil => exact congrArg pieces (String.toList_inj.mp (whole.trans (List.append_nil _)))
      | cons c slashes =>
        obtain rfl : c = '/' := only c List.mem_cons_self
        have behind : pieces (String.ofList slashes) = [] :=
          pieces_of_forall_slash fun c member =>
            only c (List.mem_cons_of_mem _ (by rwa [String.toList_ofList] at member))
        have slashed : path = withoutFinalSlashes path ++ "/" ++ String.ofList slashes := by
          rw [← String.toList_inj, whole]
          simp
        nth_rewrite 1 [slashed]
        rw [pieces_append_slash, behind, List.append_nil]
    simp [steps, last, cut]

theorem isAbsolute_withoutFinalSlashes (path : String) :
    isAbsolute (withoutFinalSlashes path) = isAbsolute path := by
  rcases exists_withoutFinalSlashes path with ⟨same, -⟩ | ⟨slashes, -, whole, nonempty, -⟩
  · rw [same]
  · rw [isAbsolute, isAbsolute, whole, List.head?_append_of_ne_nil _ nonempty]

/-- A path asks for its pieces, and for a directory if a slash is at its end. -/
theorem exists_steps_eq (path : String) : ∃ dots, steps path = pieces path ++ dots := by
  unfold steps
  simp only
  split
  · exact ⟨_, rfl⟩
  · exact ⟨[], (List.append_nil _).symm⟩

end FileSystem

/-! ## Above a path -/

/-- **A text asks for the first steps of a path**, up to dots, and a step to another place
comes behind them. -/
structure Path.IsAbove (above path : String) : Prop where
  sameStart : isAbsolute above = isAbsolute path
  way : ∃ before step after, FileSystem.steps path = before ++ step :: after ∧ step ≠ "." ∧
    Undotted (pieces above) before

namespace Path

/-- Where a part stands in a path's parts, there its text stands in the path's pieces. -/
theorem exists_pieces_eq {rest : List String} {others : List Part}
    (kept : (rest.map Part.ofPiece).filter (· != .current) = above ++ part :: others) :
    ∃ before after, rest = before ++ part.text :: after ∧
      Undotted (above.map Part.text) before := by
  obtain ⟨left, right, cut, leftKept, rightKept⟩ := List.filter_eq_append_iff.mp kept
  obtain ⟨dots, after, cutRight, onlyDots, -, -⟩ := List.filter_eq_cons_iff.mp rightKept
  rw [cutRight, ← List.append_assoc] at cut
  obtain ⟨before, remaining, rfl, lead, tail⟩ := List.map_eq_append_iff.mp cut
  obtain ⟨text, after, rfl, rfl, -⟩ := List.map_eq_cons_iff.mp tail
  refine ⟨before, after, by rw [text_ofPiece], ?_⟩
  have same : (before.map Part.ofPiece).filter (· != .current) = above := by
    rw [lead, List.filter_append, leftKept, List.filter_eq_nil_iff.mpr onlyDots, List.append_nil]
  rw [← same]
  exact undotted_of_filter before

/-- **The text of the first parts of a path is above the path.** -/
theorem isAbove_of_initial {others : List Part} (nonempty : above ≠ [])
    (whole : parts path = above ++ part :: others) : IsAbove (ofParts above) path := by
  obtain ⟨first, lead, absolute, rest, opening, start, cut, same⟩ := exists_opening path
  -- What the path begins with is at most one part, and so it belongs to what is above.
  obtain ⟨remaining, rfl, kept⟩ : ∃ remaining, above = first ++ remaining ∧
      (rest.map Part.ofPiece).filter (· != .current) = remaining ++ part :: others := by
    rw [same] at whole
    cases opening with
    | other => exact ⟨above, rfl, whole⟩
    | absolute | current =>
      obtain ⟨head, remaining, rfl⟩ := List.exists_cons_of_ne_nil nonempty
      obtain ⟨rfl, kept⟩ := List.cons.inj whole
      exact ⟨remaining, rfl, kept⟩
  have steps : ∀ step ∈ remaining ++ part :: others, step.IsStep := by
    rw [← kept]
    intro step member
    refine isStep_of_mem_filter (fun text inRest => ?_) member
    exact isPiece_of_mem_pieces (cut ▸ List.mem_append_right lead inRest)
  obtain ⟨before, after, rfl, undotted⟩ := exists_pieces_eq kept
  obtain ⟨cutAbove, startAbove⟩ :=
    opening.ofParts fun step member => steps step (List.mem_append_left _ member)
  obtain ⟨dots, asked⟩ := FileSystem.exists_steps_eq path
  refine ⟨startAbove.trans start.symm, lead ++ before, part.text, after ++ dots, ?_, ?_, ?_⟩
  · rw [asked, cut]
    simp
  · exact (steps part (by simp)).text_ne_dot
  · rw [cutAbove]
    exact undotted.append_left lead

end Path

/-! ## The directories of a store -/

namespace FileSystem

/-- What is above a path or is the path has the first parts of the path. -/
theorem exists_prefix_of_mem_ancestors {path text : String} (member : text ∈ ancestors path) :
    ∃ above, above ≠ [] ∧ above <+: Path.parts path ∧ text = Path.ofParts above := by
  unfold ancestors at member
  obtain ⟨above, shorter, rfl⟩ := List.mem_map.mp member
  obtain ⟨inRange, nonempty⟩ := List.mem_filter.mp shorter
  obtain ⟨k, -, rfl⟩ := List.mem_map.mp inRange
  exact ⟨_, by simpa using nonempty, List.take_prefix _ _, rfl⟩

end FileSystem

open GuestSupervisor.Path in
/-- **The directories that a store may have to make are above its path**, or the directory
that it works in is all that it needs. -/
theorem ConfigurationStore.isAbove_of_mem_ancestors (store : ConfigurationStore) {above : String}
    (member : above ∈ FileSystem.ancestors store.directory) :
    above = "." ∨ IsAbove above store.path := by
  have here : ∀ text ∈ FileSystem.ancestors ".", text = "." := by
    rw [show FileSystem.ancestors "." = ["."] from rfl]
    simp
  unfold directory at member
  cases found : parent? store.path with
  | none =>
    rw [found] at member
    exact Or.inl (here above member)
  | some parent =>
    rw [found] at member
    simp only at member
    split at member
    · exact Or.inl (here above member)
    · rename_i nonempty
      unfold parent? at found
      split at found
      · cases found
      · cases found
      · rename_i last _ isLast
        cases found
        have proper := (proper_parts store.path).of_initial (List.dropLast_prefix _)
        obtain ⟨route, some, pre, rfl⟩ := FileSystem.exists_prefix_of_mem_ancestors member
        rw [proper.parts_ofParts] at pre
        obtain ⟨between, dropped⟩ := pre
        obtain ⟨part, others, behind⟩ : ∃ part others, between ++ [last] = part :: others :=
          List.exists_cons_of_ne_nil (by simp)
        have whole : parts store.path = route ++ part :: others := by
          rw [← behind, ← List.append_assoc, dropped, List.dropLast_append_getLast? last isLast]
        exact Or.inr (isAbove_of_initial some whole)

end GuestSupervisor
