import GuestSupervisor.Text.Blank
import Mathlib.Data.List.DropRight
import Mathlib.Data.List.TakeWhile

/-!
# Trimming

A text is some blanks, a text without blanks around it, and some blanks again, and
trimming finds the middle one.  Everything that is known about trimming follows from that
it is the only one.

## Main Definitions

* `IsTrimmed` — a text that neither begins nor ends with a blank.

## Main Statements

* `trim_append` — trimming takes exactly the blanks around away.
* `trim_eq_self_iff` — the texts that trimming leaves alone.
-/

namespace GuestSupervisor.Text

variable {text lead core tail : List Char} {c : Char}

/-- **A text neither begins nor ends with a blank.** -/
structure IsTrimmed (text : List Char) : Prop where
  head : ∀ c, text.head? = some c → isBlank c = false
  last : ∀ c, text.getLast? = some c → isBlank c = false

/-- That a text has no blanks in it can be computed. -/
theorem solid_of_all (all : text.all fun c => !isBlank c) : ∀ c ∈ text, isBlank c = false := by
  simpa using all

/-- A text without blanks. -/
theorem isTrimmed_of_forall (solid : ∀ c ∈ text, isBlank c = false) : IsTrimmed text where
  head := fun c first => solid c (List.mem_of_head? first)
  last := fun c last => solid c (List.mem_of_getLast? last)

theorem trimStart_of_head (solid : isBlank c = false) (rest : List Char) :
    trimStart (c :: rest) = c :: rest := by
  simp [trimStart, solid]

/-- Blanks at the end are no part of the text. -/
theorem trimEnd_append (blank : ∀ c ∈ tail, isBlank c) :
    trimEnd (text ++ tail) = trimEnd text := by
  simp only [trimEnd, List.reverse_append]
  rw [List.dropWhile_append_of_pos fun c member => blank c (by simpa using member)]

/-- What stands before a character that is no blank stays. -/
theorem trimEnd_append_cons (solid : isBlank c = false) (before after : List Char) :
    trimEnd (before ++ c :: after) = before ++ c :: trimEnd after := by
  simp only [trimEnd, List.reverse_append, List.reverse_cons, List.append_assoc,
    List.dropWhile_append]
  split
  · simp_all
  · simp

theorem trimEnd_of_last (solid : ∀ c, text.getLast? = some c → isBlank c = false) :
    trimEnd text = text := by
  refine List.rdropWhile_eq_self_iff.mpr fun nonempty => ?_
  rw [solid _ (List.getLast?_eq_some_getLast nonempty)]
  simp

/-- **Trimming takes exactly the blanks around a text away.** -/
theorem trim_append (before : ∀ c ∈ lead, isBlank c) (after : ∀ c ∈ tail, isBlank c)
    (trimmed : IsTrimmed core) : trim (lead ++ core ++ tail) = core := by
  have start : trimStart (lead ++ core ++ tail) = trimStart (core ++ tail) := by
    simp only [trimStart, List.append_assoc]
    rw [List.dropWhile_append_of_pos before]
  unfold trim
  rw [start]
  cases core with
  | nil =>
    rw [show trimStart ([] ++ tail) = [] from List.dropWhile_eq_nil_iff.mpr after]
    rfl
  | cons c rest =>
    rw [List.cons_append, trimStart_of_head (trimmed.head c rfl), ← List.cons_append,
      trimEnd_append after, trimEnd_of_last trimmed.last]

theorem isTrimmed_trim (text : List Char) : IsTrimmed (trim text) where
  head := by
    intro c first
    -- The first character of what is left is that of what was left at the start.
    have kept : (trimStart text).head? = some c := by
      obtain ⟨rest, same⟩ := List.rdropWhile_prefix isBlank (trimStart text)
      rw [← same, List.head?_append, show (List.rdropWhile isBlank (trimStart text)).head? = some c
        from first]
      rfl
    have solid := List.head?_dropWhile_not isBlank text
    rw [show List.dropWhile isBlank text = trimStart text from rfl, kept] at solid
    exact solid
  last := by
    intro c last
    have nonempty : trim text ≠ [] := by
      rintro empty
      simp [empty] at last
    have solid : ¬isBlank ((trim text).getLast nonempty) :=
      List.rdropWhile_last_not isBlank (trimStart text) nonempty
    rw [List.getLast?_eq_some_getLast nonempty] at last
    rw [← Option.some.inj last]
    simpa using solid

/-- A text is what trimming leaves with blanks around it. -/
theorem exists_append_trim (text : List Char) :
    ∃ lead tail, text = lead ++ trim text ++ tail ∧ (∀ c ∈ lead, isBlank c) ∧
      ∀ c ∈ tail, isBlank c := by
  refine ⟨text.takeWhile isBlank, (trimStart text).rtakeWhile isBlank, ?_, ?_, ?_⟩
  · rw [List.append_assoc, show trim text = (trimStart text).rdropWhile isBlank from rfl,
      List.rdropWhile_append_rtakeWhile]
    exact List.takeWhile_append_dropWhile.symm
  · exact fun c member => List.mem_takeWhile_imp member
  · exact fun c member => List.mem_rtakeWhile_imp member

theorem trim_of_isTrimmed (trimmed : IsTrimmed text) : trim text = text := by
  have whole : trim ([] ++ text ++ []) = text := trim_append (by simp) (by simp) trimmed
  simpa using whole

/-- **The texts that trimming leaves alone.** -/
theorem trim_eq_self_iff : trim text = text ↔ IsTrimmed text := by
  constructor
  · intro same
    rw [← same]
    exact isTrimmed_trim text
  · exact trim_of_isTrimmed

theorem mem_of_mem_trim (member : c ∈ trim text) : c ∈ text := by
  obtain ⟨lead, tail, same, -, -⟩ := exists_append_trim text
  rw [same]
  simp [member]

/-- **Trimming does not show where no blanks are looked for.** -/
theorem filter_trim {p : Char → Bool} (solid : ∀ c, p c → isBlank c = false) (text : List Char) :
    (trim text).filter p = text.filter p := by
  obtain ⟨lead, tail, same, before, after⟩ := exists_append_trim text
  have none : ∀ blanks : List Char, (∀ c ∈ blanks, isBlank c) → blanks.filter p = [] := by
    intro blanks blank
    refine List.filter_eq_nil_iff.mpr fun c member kept => ?_
    exact Bool.noConfusion ((blank c member).symm.trans (solid c kept))
  nth_rewrite 2 [same]
  rw [List.filter_append, List.filter_append, none lead before, none tail after, List.nil_append,
    List.append_nil]

/-- Blanks behind a text are taken away with those that it ends with. -/
theorem trim_append_of_blank (blank : ∀ c ∈ tail, isBlank c) : trim (text ++ tail) = trim text := by
  obtain ⟨lead, rest, same, before, after⟩ := exists_append_trim text
  nth_rewrite 1 [same]
  rw [List.append_assoc]
  refine trim_append before (fun c member => ?_) (isTrimmed_trim text)
  rcases List.mem_append.mp member with inner | outer
  · exact after c inner
  · exact blank c outer

/-- Blanks at the end that are taken away before are not missed. -/
theorem trim_trimEnd (text : List Char) : trim (trimEnd text) = trim text := by
  have whole : trimEnd text ++ text.rtakeWhile isBlank = text :=
    List.rdropWhile_append_rtakeWhile
  nth_rewrite 2 [← whole]
  exact (trim_append_of_blank fun c member => List.mem_rtakeWhile_imp member).symm

/-- Trimming a text takes at least one blank away, or it changes nothing. -/
theorem trim_eq_self_of_countP (same : (trim text).countP isBlank = text.countP isBlank) :
    trim text = text := by
  obtain ⟨lead, tail, whole, before, after⟩ := exists_append_trim text
  have counts := congrArg (List.countP isBlank) whole
  rw [List.countP_append, List.countP_append, same, List.countP_eq_length.mpr before,
    List.countP_eq_length.mpr after] at counts
  have lead' : lead = [] := List.length_eq_zero_iff.mp (by omega)
  have tail' : tail = [] := List.length_eq_zero_iff.mp (by omega)
  rw [lead', tail', List.nil_append, List.append_nil] at whole
  exact whole.symm

end GuestSupervisor.Text
