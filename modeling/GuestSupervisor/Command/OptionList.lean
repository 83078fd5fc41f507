import GuestSupervisor.Text.Basic

/-!
# Option lists

The emulator takes several options in one argument, separated by commas. A comma
that belongs to a value is written twice.

## Main Definitions

* `OptionList.escape`: a value as it stands in a list.
* `OptionList.firstField`: the first field of a list, and what follows it.
* `OptionList.fields`: all fields of a list.
-/

namespace GuestSupervisor.OptionList

open Text

/-- A value with every comma written twice. -/
def escape (value : List Char) : List Char := replaceAll ',' [',', ','] value

/-- The first field, with doubled commas read as one, and what follows the comma
that ends it. -/
def firstField : List Char → List Char × Option (List Char)
  | [] => ([], none)
  | ',' :: ',' :: rest =>
    let (field, after) := firstField rest
    (',' :: field, after)
  | ',' :: rest => ([], some rest)
  | c :: rest =>
    let (field, after) := firstField rest
    (c :: field, after)

theorem firstField_after_length {text field after : List Char}
    (h : firstField text = (field, some after)) : after.length < text.length := by
  fun_induction firstField text generalizing field with
  | case1 => simp at h
  | case2 rest field' after' hf ih =>
    simp only [Prod.mk.injEq] at h
    obtain ⟨_, rfl⟩ := h
    have := ih hf
    simp only [List.length_cons]
    omega
  | case3 rest _ =>
    simp only [Prod.mk.injEq, Option.some.injEq] at h
    obtain ⟨_, rfl⟩ := h
    simp
  | case4 c rest _ _ field' after' hf ih =>
    simp only [Prod.mk.injEq] at h
    obtain ⟨_, rfl⟩ := h
    have := ih hf
    simp only [List.length_cons]
    omega

/-- The fields of a list, read one after the other. -/
def fields (text : List Char) : List (List Char) :=
  match _h : firstField text with
  | (field, none) => [field]
  | (field, some after) => field :: fields after
termination_by text.length
decreasing_by exact firstField_after_length _h

end GuestSupervisor.OptionList
