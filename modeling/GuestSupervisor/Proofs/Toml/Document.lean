import GuestSupervisor.Proofs.Toml.Values
import Mathlib.Data.List.Forall2

/-!
# Documents that are read back

A document is written as lines: the values of a table first, then its tables, each under a header
with the whole path to it.  Read line by line, gathered under the headers and put together, they are
the table that was written.

## Main Definitions

* `Arranged` — tables with distinct keys in which values come before tables.
* `Reads` — what a text says, line by line.
* `sections` — the headers of a document with the values under them.

## Main Statements

* `reads_parts` — what is written is read line by line.
* `gather_sections` — the lines are gathered under their headers again.
-/

namespace GuestSupervisor.Toml

open Value

/-- **Tables in the arrangement of documents**: distinct keys, plain values before tables, and no
table deeper than `room`. -/
inductive Arranged : Nat → List (String × Value) → Prop
  | nil {room} : Arranged room []
  | plain {room key value rest} (plain : value.isPlain deepest) (once : key ∉ rest.map Prod.fst)
      (others : Arranged room rest) : Arranged room ((key, value) :: rest)
  | table {room key entries rest} (once : key ∉ rest.map Prod.fst)
      (last : ∀ entry ∈ rest, entry.2.isTable) (inner : Arranged room entries)
      (others : Arranged (room + 1) rest) : Arranged (room + 1) ((key, .table entries) :: rest)

variable {c : Char} {text rest : List Char} {path : List String} {key : String} {value : Value}
  {entries : List (String × Value)} {said : List Statement}

theorem skipSpaces_cons (noSpace : c ≠ ' ') (noTab : c ≠ '\t') (text : List Char) :
    skipSpaces (c :: text) = c :: text :=
  List.dropWhile_cons_of_neg (by simp [isSpace, noSpace, noTab])

/-! ## Lines -/

/-- **What a text says**, line by line. -/
def Reads (text : List Char) (said : List Statement) : Prop :=
  ∀ budget, text.length < budget → statements? budget text = some said

/-- **What a part of a text says**, whatever the text says behind it. -/
def Says (part : List Char) (lines : List Statement) : Prop :=
  ∀ rest more, Reads rest more → Reads (part ++ rest) (lines ++ more)

theorem Reads.nil : Reads [] [] := by
  intro budget enough
  obtain ⟨budget, rfl⟩ : ∃ b, budget = b + 1 := ⟨budget - 1, by simp at enough; omega⟩
  rfl

/-- An empty line says nothing. -/
theorem Reads.feed (reads : Reads text said) : Reads ('\n' :: text) said := by
  intro budget enough
  obtain ⟨budget, rfl⟩ : ∃ b, budget = b + 1 := ⟨budget - 1, by simp at enough; omega⟩
  exact reads budget (by simpa using enough)

/-- A line in front of what is read. -/
theorem Reads.cons {statement : Statement} {text : List Char}
    (other : c ∉ [' ', '\t', '\n', '\r', '#'])
    (read : statement? (c :: text) = some (statement, rest)) (shorter : rest.length ≤ text.length)
    (reads : Reads rest said) : Reads (c :: text) (statement :: said) := by
  intro budget enough
  obtain ⟨budget, rfl⟩ : ∃ b, budget = b + 1 := ⟨budget - 1, by simp at enough; omega⟩
  simp only [List.mem_cons, List.not_mem_nil, or_false, not_or] at other
  have behind : statements? budget rest = some said :=
    reads budget (by simp at enough; omega)
  obtain ⟨noSpace, noTab, noFeed, noReturn, noComment⟩ := other
  rw [statements?, skipSpaces_cons noSpace noTab]
  simp only
  split
  · rename_i same
    cases same
  · rename_i same
    exact absurd (List.cons.inj same).1 noComment
  · rename_i same
    exact absurd (List.cons.inj same).1 noFeed
  · rename_i same
    exact absurd (List.cons.inj same).1 noReturn
  · simp only [read, Option.bind_eq_bind, Option.bind_some, behind]

/-! ### Keys in a line -/

/-- A key begins with a character of its own. -/
theorem exists_keyText (key : String) :
    ∃ c more, keyText key = c :: more
      ∧ c ∉ [' ', '\t', '\n', '\r', '#', '[', '\uFEFF'] := by
  unfold keyText
  split
  · rename_i bare
    simp only [Bool.and_eq_true, Bool.not_eq_true', List.all_eq_true] at bare
    obtain ⟨nonempty, bare⟩ := bare
    cases letters : key.toList with
    | nil => simp_all
    | cons c more =>
      refine ⟨c, more, rfl, fun gap => ?_⟩
      have letter := bare c (letters ▸ List.mem_cons_self)
      simp only [List.mem_cons, List.not_mem_nil, or_false] at gap
      rcases gap with rfl | rfl | rfl | rfl | rfl | rfl | rfl <;> exact absurd letter (by decide)
  · exact ⟨'"', _, rfl, by decide⟩

/-- **Keys joined by dots are read back**, up to what begins with no dot. -/
theorem keyPath?_intercalate {limit : Nat} (nonempty : path ≠ []) (short : path.length ≤ limit)
    (other : ∀ c, rest.head? = some c → isBareKeyChar c = false)
    (noDot : ∀ more, skipSpaces rest ≠ '.' :: more) :
    keyPath? limit (['.'].intercalate (path.map keyText) ++ rest)
      = some (path, skipSpaces rest) := by
  induction path generalizing limit with
  | nil => exact absurd rfl nonempty
  | cons key path ih =>
    obtain ⟨limit, rfl⟩ : ∃ l, limit = l + 1 := ⟨limit - 1, by simp at short; omega⟩
    have stays (more : List Char) : skipSpaces (keyText key ++ more) = keyText key ++ more := by
      obtain ⟨c, tail, written, gap⟩ := exists_keyText key
      simp only [List.mem_cons, List.not_mem_nil, or_false, not_or] at gap
      rw [written]
      exact skipSpaces_cons gap.1 gap.2.1 (tail ++ more)
    cases path with
    | nil =>
      rw [List.map_singleton, List.intercalate_singleton, keyPath?, stays, key?_keyText key other]
      simp only [Option.bind_eq_bind, Option.bind_some]
    | cons next path =>
      have inner := @ih limit (List.cons_ne_nil _ _) (by simpa using short)
      have dot (more : List Char) :
          key? (keyText key ++ '.' :: more) = some (key, '.' :: more) :=
        key?_keyText key (by rintro _ ⟨⟩; decide)
      have whole : ['.'].intercalate ((key :: next :: path).map keyText) ++ rest
          = keyText key ++ '.' :: (['.'].intercalate ((next :: path).map keyText) ++ rest) := by
        simp [List.intercalate_cons_cons]
      rw [whole, keyPath?, stays, dot]
      simp only [Option.bind_eq_bind, Option.bind_some]
      rw [show ∀ more, skipSpaces ('.' :: more) = '.' :: more from fun _ => rfl]
      simp only [inner, Option.bind_some]

/-! ### Lines of a document -/

/-- **A header is read back.** -/
theorem reads_headerText (nonempty : path ≠ []) (short : path.length ≤ longestPath)
    (reads : Reads rest said) :
    Reads (headerText path ++ rest) (.header path :: said) := by
  have names : keyPath? longestPath (['.'].intercalate (path.map keyText) ++ ']' :: '\n' :: rest)
      = some (path, ']' :: '\n' :: rest) :=
    keyPath?_intercalate nonempty short (by rintro _ ⟨⟩; decide) fun more same => by cases same
  have whole : headerText path ++ rest
      = '[' :: (['.'].intercalate (path.map keyText) ++ ']' :: '\n' :: rest) := by
    simp [headerText]
  -- A key does not begin with a bracket, so the header is no row of a list.
  obtain ⟨c, tail, begins, gap⟩ : ∃ c tail,
      ['.'].intercalate (path.map keyText) ++ ']' :: '\n' :: rest = c :: tail ∧ c ≠ '[' := by
    obtain ⟨key, others, rfl⟩ := List.exists_cons_of_ne_nil nonempty
    obtain ⟨c, tail, written, gap⟩ := exists_keyText key
    have other : c ≠ '[' := by
      rintro rfl
      exact gap (by decide)
    cases others with
    | nil =>
      rw [List.map_singleton, List.intercalate_singleton, written]
      exact ⟨c, _, rfl, other⟩
    | cons next others =>
      rw [List.map_cons, List.map_cons, List.intercalate_cons_cons, written]
      exact ⟨c, _, rfl, other⟩
  rw [whole]
  refine Reads.cons (by decide) ?_ (by simp; omega) reads
  rw [begins] at names ⊢
  unfold statement?
  split
  · rename_i same
    exact absurd (List.cons.inj (List.cons.inj same).2).1 gap
  · rename_i same
    cases same
    simp only [names]
    rfl
  · rename_i noHeader
    exact absurd rfl (noHeader _)

/-- **An assignment is read back.** -/
theorem reads_assignment (key : String) (plain : value.isPlain deepest) (reads : Reads rest said) :
    Reads (keyText key ++ " = ".toList ++ valueText value ++ ['\n'] ++ rest)
      (.assignment [key] value :: said) := by
  obtain ⟨c, tail, begins, gap⟩ := exists_keyText key
  have names (more : List Char) :
      keyPath? longestPath (keyText key ++ ' ' :: '=' :: more) = some ([key], '=' :: more) := by
    have read : keyPath? longestPath (['.'].intercalate ([key].map keyText) ++ ' ' :: '=' :: more)
        = some ([key], '=' :: more) :=
      keyPath?_intercalate (List.cons_ne_nil key []) (show 1 ≤ longestPath by decide)
        (by rintro _ ⟨⟩; decide) fun more same => by cases same
    rwa [List.map_singleton, List.intercalate_singleton] at read
  obtain ⟨d, digits, written, other⟩ := exists_valueText plain
  have stays (more : List Char) :
      skipSpaces (' ' :: (valueText value ++ more)) = valueText value ++ more := by
    simp only [gaps, List.mem_cons, List.not_mem_nil, or_false, not_or] at other
    rw [written]
    exact skipSpaces_cons other.1 other.2.1 (digits ++ more)
  have whole : keyText key ++ " = ".toList ++ valueText value ++ ['\n'] ++ rest
      = keyText key ++ ' ' :: '=' :: ' ' :: (valueText value ++ '\n' :: rest) := by
    simp
  have read : value? deepest (2 * (' ' :: (valueText value ++ '\n' :: rest)).length + 2)
      (valueText value ++ '\n' :: rest) = some (value, '\n' :: rest) :=
    value?_valueText value plain (ends_cons (by decide)) (by simp; omega)
  have line : statement? (keyText key ++ ' ' :: '=' :: ' ' :: (valueText value ++ '\n' :: rest))
      = some (.assignment [key] value, rest) := by
    have names := names (' ' :: (valueText value ++ '\n' :: rest))
    rw [begins, List.cons_append] at names ⊢
    unfold statement?
    split
    · rename_i same
      exact absurd (by simp [(List.cons.inj same).1]) gap
    · rename_i same
      exact absurd (by simp [(List.cons.inj same).1]) gap
    · simp only [names]
      simp only [stays, read, Option.bind_eq_bind, Option.bind_some]
      rfl
  rw [whole]
  rw [begins, List.cons_append] at line ⊢
  refine Reads.cons (fun blank => gap ?_) line (by simp; omega) reads
  simp at blank ⊢
  tauto

/-! ## Sections -/

/-- The entries that are no tables, as assignments under one heading. -/
def ownBody (entries : List (String × Value)) : List (List String × Value) :=
  (entries.filter fun entry => !entry.2.isTable).map fun entry => ([entry.1], entry.2)

mutual

/-- **The sections of a document**: a header for each table among the entries, with the values under
it. -/
def sections (path : List String) : List (String × Value) → List Section
  | [] => []
  | (key, value) :: rest => sectionsUnder path key value ++ sections path rest

/-- The sections for an entry, if it is a table. -/
def sectionsUnder (path : List String) (key : String) : Value → List Section
  | .table entries =>
    ⟨.table (path ++ [key]), ownBody entries⟩ :: sections (path ++ [key]) entries
  | _ => []

end

/-- The lines for assignments. -/
def assignments (body : List (List String × Value)) : List Statement :=
  body.map fun entry => .assignment entry.1 entry.2

/-- The lines of a section. -/
def Section.statements (part : Section) : List Statement :=
  match part.heading with
  | .root => assignments part.body
  | .table path => .header path :: assignments part.body
  | .row path => .row path :: assignments part.body

@[simp] theorem Value.isTable_table (entries : List (String × Value)) :
    (Value.table entries).isTable = true := rfl

theorem isTable_of_isPlain {depth : Nat} (plain : value.isPlain depth) : value.isTable = false := by
  cases value with
  | table => cases depth <;> cases plain
  | _ => rfl

theorem sections_plain (plain : value.isPlain deepest) (path : List String) :
    sections path ((key, value) :: entries) = sections path entries := by
  rw [sections]
  cases value with
  | table => cases plain
  | _ => rfl

/-! ### The lines of sections -/

/-- The plain values of a table are read line by line. -/
theorem says_plainLines {room : Nat} (arranged : Arranged room entries) :
    Says (plainLines entries) (assignments (ownBody entries)) := by
  intro rest said reads
  induction arranged with
  | nil => exact reads
  | @plain room key value others plain _ _ ih =>
    have line := reads_assignment key plain ih
    have own := isTable_of_isPlain plain
    simpa [plainLines, ownBody, assignments, own] using line
  | table _ last _ _ _ ih =>
    simpa [plainLines, ownBody] using ih

/-- **The tables of a document are read line by line**, each behind an empty line or at the start. -/
theorem says_tableParts {room : Nat} (arranged : Arranged room entries) (path : List String)
    (short : path.length + room ≤ longestPath) :
    List.Forall₂ (fun part (s : Section) => Says part s.statements)
      (tableParts path entries) (sections path entries) := by
  induction arranged generalizing path with
  | nil => exact .nil
  | @plain room key value others plain _ _ ih =>
    rw [sections_plain plain]
    have same : tableParts path ((key, value) :: others) = tableParts path others := by
      rw [tableParts]
      cases value with
      | table => cases plain
      | _ => rfl
    rw [same]
    exact ih path short
  | @table room key inner others _ last innerArranged _ ihInner ih =>
    have inside := ihInner (path ++ [key]) (by simp; omega)
    have behind := ih path short
    rw [tableParts, tablePart, sections, sectionsUnder, List.cons_append, List.cons_append]
    refine .cons (fun rest said reads => ?_) (List.rel_append inside behind)
    have lines := reads_headerText (List.concat_ne_nil key path) (by simp; omega)
      (says_plainLines innerArranged rest said reads)
    simpa [Section.statements] using lines

/-- **The parts of a document are read one after the other**, an empty line between them. -/
theorem reads_intercalate {parts : List (List Char)} {said : List (List Statement)}
    (reads : List.Forall₂ Says parts said) :
    Reads (['\n'].intercalate parts) said.flatten := by
  induction reads with
  | nil => exact .nil
  | @cons part lines parts said first others ih =>
    cases others with
    | nil => simpa using first [] [] .nil
    | cons =>
      rw [List.intercalate_cons_cons]
      simpa using first _ _ ih.feed

/-- **A document is read line by line.** -/
theorem reads_parts {room : Nat} (arranged : Arranged room entries) (short : room ≤ longestPath) :
    Reads (['\n'].intercalate (parts entries))
      (assignments (ownBody entries) ++ (sections [] entries).flatMap Section.statements) := by
  have tables : List.Forall₂ Says (tableParts [] entries)
      ((sections [] entries).map Section.statements) :=
    List.forall₂_map_right_iff.mpr (says_tableParts arranged [] (by simpa using short))
  have own := says_plainLines arranged
  rw [List.flatMap_def]
  unfold parts
  simp only
  cases empty : (plainLines entries).isEmpty with
  | true =>
    -- What has no lines says nothing.
    have said := own [] [] .nil
    rw [List.isEmpty_iff.mp empty, List.append_nil, List.append_nil] at said
    have none : assignments (ownBody entries) = [] :=
      Option.some.inj (said 1 Nat.one_pos).symm
    rw [none]
    exact reads_intercalate tables
  | false => exact reads_intercalate (.cons own tables)

/-! ## Putting the sections together -/

/-- The assignments in front of the first header. -/
theorem gather_assignments (body : List (List String × Value)) (more : List Statement) :
    gather (assignments body ++ more) = (body ++ (gather more).1, (gather more).2) := by
  induction body with
  | nil => rfl
  | cons entry body ih =>
    rw [assignments, List.map_cons, List.cons_append, gather]
    exact congrArg (fun r => (entry :: r.1, r.2)) ih

/-- Every section of a document has a header with a path of its own. -/
theorem exists_heading {room : Nat} (arranged : Arranged room entries) (path : List String) :
    ∀ part ∈ sections path entries, ∃ names, names ≠ [] ∧ part.heading = .table (path ++ names) := by
  induction arranged generalizing path with
  | nil => exact fun _ none => nomatch none
  | plain plain _ _ ih =>
    rw [sections_plain plain]
    exact ih path
  | @table room key inner others _ _ _ _ ihInner ih =>
    intro part member
    rw [sections, sectionsUnder, List.cons_append, List.mem_cons, List.mem_append] at member
    rcases member with rfl | inside | behind
    · exact ⟨[key], by simp, rfl⟩
    · obtain ⟨names, -, same⟩ := ihInner (path ++ [key]) part inside
      exact ⟨key :: names, by simp, by simpa using same⟩
    · exact ih path part behind

/-- **The lines of a document are gathered under its headers.** -/
theorem gather_sections (body : List (List String × Value)) {parts : List Section}
    (headed : ∀ part ∈ parts, ∃ names, part.heading = .table names) :
    gather (assignments body ++ parts.flatMap Section.statements) = (body, parts) := by
  rw [gather_assignments]
  suffices same : gather (parts.flatMap Section.statements) = ([], parts) by
    rw [same, List.append_nil]
  induction parts with
  | nil => rfl
  | cons part parts ih =>
    rw [List.forall_mem_cons] at headed
    obtain ⟨⟨names, heading⟩, headed⟩ := headed
    obtain ⟨_, inner⟩ := part
    subst heading
    rw [List.flatMap_cons, Section.statements]
    simp only [List.cons_append]
    rw [gather, gather_assignments, ih headed]
    simp

end GuestSupervisor.Toml
