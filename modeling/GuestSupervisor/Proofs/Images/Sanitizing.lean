import GuestSupervisor.Proofs.Images.Naming

/-!
# Which name a new disk is given

Whoever asks for a new disk may ask for it by any text.  Of the text only the usual characters
are looked at, and they decide everything: whether there is a name at all, and which.  What comes
out is in a form in which nothing is left to be changed.

## Main Definitions

* `ImageName.IsUsual` — the characters of new names.
* `ImageName.usual` — what is looked at of a text.
* `ImageName.Unnamable` — a text that no name is made of.
* `ImageName.formed` — the name that is made of any other text.

## Main Statements

* `ImageName.sanitize_eq` — a text is refused, or it gives the name that is made of it.
* `ImageName.check_withEnding` — names that are made are plain, so they are never refused as such.
* `ImageName.IsDiskName.formed_eq` — a name that a new disk can have is made of itself.
* `ImageName.sanitize_spec` — all of it.
-/

namespace GuestSupervisor.ImageName

open Text

variable {given name : String} {c : Char} {chars : List Char}

/-- **A character of new names**: a letter or a digit of ASCII, a dot, an underscore or a dash. -/
def IsUsual (c : Char) : Prop :=
  'A' ≤ c ∧ c ≤ 'Z' ∨ 'a' ≤ c ∧ c ≤ 'z' ∨ '0' ≤ c ∧ c ≤ '9' ∨ c = '.' ∨ c = '_' ∨ c = '-'

instance : DecidablePred IsUsual := fun c => inferInstanceAs (Decidable
  ('A' ≤ c ∧ c ≤ 'Z' ∨ 'a' ≤ c ∧ c ≤ 'z' ∨ '0' ≤ c ∧ c ≤ '9' ∨ c = '.' ∨ c = '_' ∨ c = '-'))

/-- **What is looked at of a text**: its usual characters, in their order. -/
def usual (given : String) : List Char := given.toList.filter (IsUsual ·)

/-- **No name is made of a text**: there is nothing to look at, or it would be hidden. -/
def Unnamable (given : String) : Prop := usual given = [] ∨ (usual given).head? = some '.'

instance (given : String) : Decidable (Unnamable given) :=
  inferInstanceAs (Decidable (_ ∨ _))

/-- **The name that is made of a text**: what is looked at, and the ending of disks unless it is
there. -/
def formed (given : String) : String :=
  if ".qcow2".toList <:+ usual given then String.ofList (usual given)
  else String.ofList (usual given ++ ".qcow2".toList)

/-! ## What is looked at -/

theorem isAllowed_iff : isAllowed c ↔ IsUsual c := by
  delta isAllowed IsUsual Char.isAlphanum Char.isAlpha Char.isUpper Char.isLower Char.isDigit
  simp only [Bool.or_eq_true, Bool.and_eq_true, decide_eq_true_eq, beq_iff_eq, ge_iff_le,
    Char.le_def, or_assoc]

theorem isAllowed_of_mem_usual (member : c ∈ usual given) : isAllowed c := by
  obtain ⟨-, isUsual⟩ := List.mem_filter.mp member
  exact isAllowed_iff.mpr (of_decide_eq_true isUsual)

/-- Blanks are not looked at, so it makes no difference that they are trimmed. -/
theorem filter_trim_eq_usual (given : String) :
    (trim given.toList).filter isAllowed = usual given := by
  rw [filter_trim fun c allowed => (inert_of_isAllowed allowed).1]
  refine List.filter_congr fun c _ => ?_
  rw [Bool.eq_iff_iff, isAllowed_iff, decide_eq_true_eq]

/-! ## With the ending -/

/-- **A name that is made is plain.**  It is longer than two dots. -/
theorem check_withEnding (allowed : ∀ c ∈ chars, isAllowed c) :
    check (String.ofList (withEnding chars)) = .ok () := by
  have inert : ∀ c ∈ withEnding chars, c ≠ '/' ∧ c ≠ '\\' ∧ c ≠ '\x00' := fun c member =>
    (inert_of_isAllowed (isAllowed_of_mem_withEnding allowed member)).2.2
  have long : 6 ≤ (withEnding chars).length := (ending_suffix_withEnding chars).length_le
  have plain : isPlain (withEnding chars) := by
    have some : withEnding chars ≠ [] := by
      rintro empty
      simp [empty] at long
    have noDot : withEnding chars ≠ ['.'] := by
      rintro dot
      simp [dot] at long
    have noDots : withEnding chars ≠ ['.', '.'] := by
      rintro dots
      simp [dots] at long
    simpa [isPlain, some, noDot, noDots, and_assoc] using inert
  rw [check, String.toList_ofList, if_pos plain]

/-- The ending shows in front only of what would be empty. -/
theorem head?_withEnding (chars : List Char) :
    (withEnding chars).head? = some '.' ↔ chars = [] ∨ chars.head? = some '.' := by
  cases chars with
  | nil => decide
  | cons c rest =>
    have first : (withEnding (c :: rest)).head? = some c := by
      unfold withEnding
      split <;> rfl
    simp [first]

theorem formed_eq (given : String) : formed given = String.ofList (withEnding (usual given)) := by
  unfold formed withEnding
  simp only [List.isSuffixOf_iff_suffix, apply_ite String.ofList]
  rfl

/-! ## The name -/

/-- **A text is refused, or it gives the name that is made of it.** -/
theorem sanitize_eq (given : String) :
    sanitize given
      = if Unnamable given then .error (.invalidName given) else .ok (formed given) := by
  have plain : check (String.ofList (withEnding (usual given))) = .ok () :=
    check_withEnding fun c => isAllowed_of_mem_usual
  unfold sanitize
  simp only [filter_trim_eq_usual, plain, bind, Except.bind, head?_withEnding, formed_eq]
  rfl

theorem sanitize_eq_ok_iff :
    sanitize given = .ok name ↔ ¬Unnamable given ∧ name = formed given := by
  rw [sanitize_eq]
  split_ifs with refused <;> simp [refused, eq_comm]

theorem sanitize_eq_error_iff {e : ImageError} :
    sanitize given = .error e ↔ Unnamable given ∧ e = .invalidName given := by
  rw [sanitize_eq]
  split_ifs with refused <;> simp [refused, eq_comm]

namespace IsDiskName

theorem usual_eq (isDisk : IsDiskName name) : usual name = name.toList :=
  List.filter_eq_self.mpr fun c member =>
    decide_eq_true (isAllowed_iff.mp (isDisk.allowed c member))

/-- **A name that a new disk can have is made of itself.** -/
theorem formed_eq (isDisk : IsDiskName name) : formed name = name := by
  have ends : ".qcow2".toList <:+ usual name := isDisk.usual_eq ▸ isDisk.ends
  rw [formed, if_pos ends, isDisk.usual_eq, String.ofList_toList]

theorem not_unnamable (isDisk : IsDiskName name) : ¬Unnamable name := by
  rw [Unnamable, isDisk.usual_eq]
  rintro (empty | dot)
  · exact isDisk.isName.toList_ne_nil empty
  · exact isDisk.visible dot

/-- **Sanitizing a name again changes nothing.** -/
theorem sanitize_eq (isDisk : IsDiskName name) : sanitize name = .ok name :=
  sanitize_eq_ok_iff.mpr ⟨isDisk.not_unnamable, isDisk.formed_eq.symm⟩

theorem check_eq (isDisk : IsDiskName name) : check name = .ok () :=
  if_pos isDisk.isPlain_toList

end IsDiskName

/-- **Which name a new disk is given.**  A text is refused exactly when its usual characters are
none or begin with a dot, and then the error names the text as it was given; the check for plain
names that is made on the way never fails.  Every other text gives its usual characters, with the
ending behind them unless they have it.  Every name that is given has only usual characters, is a
plain name and no dot or two, is not hidden, has something before the ending, and is given to
itself. -/
theorem sanitize_spec (given : String) :
    (∀ e, sanitize given = .error e ↔
        (usual given = [] ∨ (usual given).head? = some '.') ∧ e = .invalidName given)
      ∧ check (String.ofList (withEnding ((trim given.toList).filter isAllowed))) = .ok ()
      ∧ (∀ name, sanitize given = .ok name ↔
        usual given ≠ [] ∧ (usual given).head? ≠ some '.'
          ∧ name.toList = if ".qcow2".toList <:+ usual given then usual given
            else usual given ++ ".qcow2".toList)
      ∧ ∀ name, sanitize given = .ok name →
        (∀ c ∈ name.toList, IsUsual c)
          ∧ check name = .ok () ∧ Path.IsName name ∧ name ≠ "." ∧ name ≠ ".."
          ∧ name.toList.head? ≠ some '.'
          ∧ (∃ stem, stem ≠ [] ∧ name.toList = stem ++ ".qcow2".toList)
          ∧ sanitize name = .ok name := by
  refine ⟨fun e => sanitize_eq_error_iff, ?_, fun name => ?_, fun name named => ?_⟩
  · exact check_withEnding fun c member => (List.mem_filter.mp member).2
  · have text : name = formed given ↔ name.toList = if ".qcow2".toList <:+ usual given
        then usual given else usual given ++ ".qcow2".toList := by
      rw [formed, ← apply_ite String.ofList, ← String.toList_inj, String.toList_ofList]
    rw [sanitize_eq_ok_iff, Unnamable, not_or, and_assoc, text]
  · have isDisk := isDiskName_of_sanitize named
    exact ⟨fun c member => isAllowed_iff.mp (isDisk.allowed c member), isDisk.check_eq,
      isDisk.isName, isDisk.isName.noDot, isDisk.isName.noDots, isDisk.visible,
      isDisk.exists_stem, isDisk.sanitize_eq⟩

/-- Blanks, a slash and a letter with an accent are passed over, and a dot that was not the first
character of the text is the first that is looked at. -/
example : sanitize " a/b é.qcow2" = .ok "ab.qcow2" ∧ sanitize "é.img" = .error (.invalidName "é.img")
    := ⟨rfl, rfl⟩

end GuestSupervisor.ImageName
