import GuestSupervisor.Host.Path
import GuestSupervisor.Proofs.Text.Lines
import GuestSupervisor.Proofs.Text.Blank
import Mathlib.Algebra.GroupWithZero.Nat

/-!
# Blanks in paths

Two texts may be one path: slashes may be doubled and interior dots left out.  What is
left out holds no blanks, so all texts of one path hold equally many, and a text is never
the same path as the text that trimming makes of it, unless trimming leaves it alone.

## Main Statements

* `Path.same_trim_iff` — when a trimmed text is the same path.
-/

namespace GuestSupervisor.Path

open Text

/-- How many blanks a part holds. -/
def Part.blanks (part : Part) : Nat := part.text.toList.countP isBlank

/-- The blanks of a text are those of its segments, if the mark is no blank. -/
theorem sum_countP_segments (mark : Char) (solid : isBlank mark = false) (text : List Char) :
    ((segments mark text).map (List.countP isBlank)).sum = text.countP isBlank := by
  induction text with
  | nil => rfl
  | cons c rest ih =>
    by_cases same : c = mark
    · subst same
      rw [segments_cons_mark, List.map_cons, List.sum_cons, ih]
      simp [solid]
    · obtain ⟨piece, pieces, cut⟩ := List.exists_cons_of_ne_nil (segments_ne_nil mark rest)
      rw [segments_cons_of_ne same cut]
      rw [cut] at ih
      simp only [List.map_cons, List.sum_cons, List.countP_cons] at ih ⊢
      omega

theorem text_ofPiece (piece : String) : (Part.ofPiece piece).text = piece := by
  unfold Part.ofPiece
  split
  · simp_all [Part.text]
  · split
    · simp_all [Part.text]
    · rfl

/-- The pieces that are left out are empty. -/
theorem sum_blanks_pieces (path : String) :
    (((pieces path).map Part.ofPiece).map Part.blanks).sum = path.toList.countP isBlank := by
  rw [← sum_countP_segments '/' (by decide)]
  unfold pieces
  generalize segments '/' path.toList = cut
  induction cut with
  | nil => rfl
  | cons piece rest ih =>
    cases piece with
    | nil => simpa using ih
    | cons c piece =>
      have counted : (Part.ofPiece (String.ofList (c :: piece))).blanks
          = (c :: piece).countP isBlank := by
        rw [Part.blanks, text_ofPiece, String.toList_ofList]
      simp only [List.filterMap_cons, List.isEmpty_cons, Bool.false_eq_true, if_false,
        List.map_cons, List.sum_cons, counted, ih]

/-- The parts that are left out hold no blanks. -/
theorem sum_blanks_filter (parts : List Part) :
    ((parts.filter (· != .current)).map Part.blanks).sum = (parts.map Part.blanks).sum := by
  induction parts with
  | nil => rfl
  | cons part rest ih =>
    by_cases current : part = .current
    · subst current
      simp [ih, Part.blanks, Part.text, isBlank]
    · simp [current, ih]

/-- **A path holds the blanks of its text.** -/
theorem sum_blanks_parts (path : String) :
    ((parts path).map Part.blanks).sum = path.toList.countP isBlank := by
  rw [← sum_blanks_pieces]
  unfold parts
  simp only
  generalize (pieces path).map Part.ofPiece = all
  split
  · rw [List.map_cons, List.sum_cons, sum_blanks_filter, Part.blanks]
    exact Nat.zero_add _
  · split
    · rw [List.map_cons, List.map_cons, List.sum_cons, List.sum_cons, sum_blanks_filter]
    · exact sum_blanks_filter all

/-- **A trimmed text is the same path only if there was nothing to trim.** -/
theorem same_trim_iff (path : String) :
    same (String.ofList (trim path.toList)) path ↔ trim path.toList = path.toList := by
  constructor
  · intro same
    have blanks := congrArg (fun parts => (parts.map Part.blanks).sum) (beq_iff_eq.mp same)
    simp only [sum_blanks_parts, String.toList_ofList] at blanks
    exact trim_eq_self_of_countP blanks
  · intro unchanged
    simp [same, unchanged]

end GuestSupervisor.Path
