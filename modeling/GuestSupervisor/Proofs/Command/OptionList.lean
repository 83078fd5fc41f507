import GuestSupervisor.Command.Builder
import GuestSupervisor.Proofs.Text.Lines
import Mathlib.Data.List.Infix

/-!
# Option lists are read back

A comma that belongs to a value is written twice and the comma behind a value once, so the commas
of a value are read in pairs, from its first one on, and the one that ends it is left over.  That
goes wrong only where the next value is empty or begins with a comma itself; the options of a drive
all begin with their names.

## Main Definitions

* `OptionList.ofValues` — values as one list.
* `OptionList.Opens` — a value may follow another one.

## Main Statements

* `OptionList.firstField_escape_append` — a value is read back from the front of a list.
* `OptionList.fields_ofValues` — all values of a list are read back.
* `Drive.fields_spec` — a drive's option list has four fields, whatever its path.
-/

namespace GuestSupervisor

open Text

namespace OptionList

variable {text field after value : List Char}

/-! ## Values -/

/-- **Values as one list**, with one comma between any two of them. -/
def ofValues (values : List (List Char)) : List Char := [','].intercalate (values.map escape)

/-- **A value may follow another one**: it begins with something else than a comma. -/
def Opens (value : List Char) : Prop := ∃ c rest, value = c :: rest ∧ c ≠ ','

@[simp] theorem escape_append (a b : List Char) : escape (a ++ b) = escape a ++ escape b :=
  replaceAll_append ..

theorem escape_cons_comma (value : List Char) :
    escape (',' :: value) = ',' :: ',' :: escape value :=
  rfl

theorem escape_cons_of_ne {c : Char} (other : c ≠ ',') (value : List Char) :
    escape (c :: value) = c :: escape value := by
  simp [escape, replaceAll, other]

/-- A value without commas stands in a list as it is. -/
theorem escape_of_not_mem (plain : ',' ∉ value) : escape value = value := by
  induction value with
  | nil => rfl
  | cons c value ih =>
    rw [List.mem_cons, not_or] at plain
    rw [escape_cons_of_ne (Ne.symm plain.1), ih plain.2]

/-! ## The first field -/

theorem firstField_cons_of_ne {c : Char} (other : c ≠ ',') (rest : List Char) :
    firstField (c :: rest) = (c :: (firstField rest).1, (firstField rest).2) := by
  rw [firstField] <;> simp [other]

/-- A single comma ends a field. -/
theorem firstField_comma (apart : after.head? ≠ some ',') :
    firstField (',' :: after) = ([], some after) := by
  cases after with
  | nil => rfl
  | cons c after =>
    have other : c ≠ ',' := fun same => apart (by rw [same]; rfl)
    simp [firstField, other]

/-- **A value is read back from the front of a list**, wherever its commas stand, if what is
behind it ends it. -/
theorem firstField_escape_append {tail : List Char} {left : Option (List Char)}
    (ends : firstField tail = ([], left)) (value : List Char) :
    firstField (escape value ++ tail) = (value, left) := by
  induction value with
  | nil => exact ends
  | cons c value ih =>
    by_cases comma : c = ','
    · -- Both commas are read at once, so the parity in front of the rest is even again.
      subst comma
      rw [escape_cons_comma, List.cons_append, List.cons_append, firstField, ih]
    · rw [escape_cons_of_ne comma, List.cons_append, firstField_cons_of_ne comma, ih]

/-- A value in front of a single comma is read back. -/
theorem firstField_escape (value : List Char) (apart : after.head? ≠ some ',') :
    firstField (escape value ++ ',' :: after) = (value, some after) :=
  firstField_escape_append (firstField_comma apart) value

/-! ## All fields -/

theorem fields_of_last (last : firstField text = (field, none)) : fields text = [field] := by
  rw [fields]
  split
  · rename_i found
    rw [(Prod.mk.inj (last.symm.trans found)).1]
  · rename_i found
    cases last.symm.trans found

theorem fields_of_more (more : firstField text = (field, some after)) :
    fields text = field :: fields after := by
  rw [fields]
  split
  · rename_i found
    cases more.symm.trans found
  · rename_i found
    obtain ⟨rfl, same⟩ := Prod.mk.inj (more.symm.trans found)
    rw [Option.some.inj same]

theorem Opens.head?_ofValues (opens : Opens value) (values : List (List Char)) :
    (ofValues (value :: values)).head? ≠ some ',' := by
  obtain ⟨c, rest, rfl, other⟩ := opens
  cases values <;> simp [ofValues, escape_cons_of_ne other, other]

/-- **All values of a list are read back**, if those behind the first one open. -/
theorem fields_ofValues (first : List Char) {values : List (List Char)}
    (opens : ∀ value ∈ values, Opens value) :
    fields (ofValues (first :: values)) = first :: values := by
  induction values generalizing first with
  | nil =>
    have read := firstField_escape_append (show firstField [] = ([], none) from rfl) first
    rw [List.append_nil] at read
    simpa [ofValues] using fields_of_last read
  | cons value values ih =>
    rw [List.forall_mem_cons] at opens
    have written : ofValues (first :: value :: values)
        = escape first ++ ',' :: ofValues (value :: values) := by
      simp [ofValues]
    rw [written, fields_of_more (firstField_escape first (opens.1.head?_ofValues values)),
      ih value opens.2]

end OptionList

/-! ## Drives -/

namespace Drive

open OptionList

/-- **The options of a drive.** -/
def options (drive : Drive) : List (List Char) :=
  ["file=".toList ++ drive.path.toList, "format=".toList ++ drive.format.toList,
    "media=".toList ++ drive.media.word.toList, "index=".toList ++ decimal drive.index]

theorem comma_not_mem_decimal (n : Nat) : ',' ∉ decimal n := by
  intro member
  have digit := isDigit_of_mem_decimal member
  simp at digit

/-- A drive's option list holds its options as values. -/
theorem specText_eq (drive : Drive) : drive.specText = ofValues drive.options := by
  have file : escape "file=".toList = "file=".toList := by decide
  have format : escape ("format=".toList ++ drive.format.toList)
      = "format=".toList ++ drive.format.toList := by
    unfold Drive.format
    split <;> decide
  have media : escape ("media=".toList ++ drive.media.word.toList)
      = "media=".toList ++ drive.media.word.toList := by
    cases drive.media <;> decide
  have index : escape ("index=".toList ++ decimal drive.index)
      = "index=".toList ++ decimal drive.index := by
    rw [escape_append, escape_of_not_mem (comma_not_mem_decimal drive.index)]
    rfl
  have formatName : ",format=".toList = ',' :: "format=".toList := by decide
  have mediaName : ",media=".toList = ',' :: "media=".toList := by decide
  have indexName : ",index=".toList = ',' :: "index=".toList := by decide
  unfold specText ofValues options
  simp only [List.map_cons, List.map_nil, List.intercalate_cons_cons, List.intercalate_singleton]
  rw [escape_append, file, format, media, index, formatName, mediaName, indexName]
  simp only [List.append_assoc, List.cons_append, List.nil_append]

/-- Every option of a drive begins with its name. -/
theorem opens_options (drive : Drive) : ∀ option ∈ drive.options.tail, Opens option := by
  have format : "format=".toList = 'f' :: "ormat=".toList := by decide
  have media : "media=".toList = 'm' :: "edia=".toList := by decide
  have index : "index=".toList = 'i' :: "ndex=".toList := by decide
  unfold options
  rw [format, media, index]
  simp only [List.tail_cons, List.forall_mem_cons]
  exact ⟨⟨_, _, rfl, by decide⟩, ⟨_, _, rfl, by decide⟩, ⟨_, _, rfl, by decide⟩, by simp⟩

/-- A drive is known from its options. -/
theorem eq_of_options_eq {drive other : Drive} (same : drive.options = other.options) :
    drive = other := by
  obtain ⟨index, media, path⟩ := drive
  obtain ⟨index', media', path'⟩ := other
  simp only [options, List.cons.injEq, List.append_cancel_left_eq, String.toList_inj, and_true]
    at same
  obtain ⟨rfl, -, word, number⟩ := same
  have kind : media = media' := by
    cases media <;> cases media' <;> first | rfl | exact absurd word (by decide)
  rw [kind, decimal_inj number]

/-- **No image path injects an option.**  Read field by field, with doubled commas as one, a
drive's option list is its path behind `file=`, its format, its medium and its index, whatever the
path is; so drives with one option list are one drive. -/
theorem fields_spec (drive : Drive) :
    fields drive.spec.toList
      = ["file=".toList ++ drive.path.toList, "format=".toList ++ drive.format.toList,
          "media=".toList ++ drive.media.word.toList, "index=".toList ++ decimal drive.index] ∧
    ∀ other : Drive, other.spec = drive.spec ↔ other = drive := by
  have read (d : Drive) : fields d.spec.toList = d.options := by
    rw [spec, String.toList_ofList, specText_eq]
    exact fields_ofValues _ d.opens_options
  refine ⟨read drive, fun other => ⟨fun same => ?_, fun same => by rw [same]⟩⟩
  refine eq_of_options_eq ?_
  rw [← read other, same, read drive]

end Drive

end GuestSupervisor
