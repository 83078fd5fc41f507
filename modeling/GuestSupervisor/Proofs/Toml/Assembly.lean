import GuestSupervisor.Proofs.Toml.Document
import GuestSupervisor.Proofs.Toml.Sound

/-!
# Tables that are put together again

The sections of a document are put together one after the other.  The sections inside a table change
only that table, in the same way as they would change a document of its own, so what is put together
is the table that was written.

## Main Statements

* `addAll_under` — sections inside a table change only that table.
* `exists_addAll_sections` — the sections of a table give its tables back.
* `exists_write?_of_arranged` — a document is written, and read back as the table it was.
-/

namespace GuestSupervisor.Toml

open Value

variable {path : List String} {key : String} {done nodes inner : Entries}
  {entries : List (String × Value)}

/-! ## Finished tables -/

namespace Node

/-- A finished table has the entries of its parts. -/
theorem toEntries_append (done nodes : Entries) :
    toEntries (done ++ nodes) = toEntries done ++ toEntries nodes := by
  simp only [toEntries_eq, List.map_append]

end Node

/-! ## Arranged tables -/

namespace Arranged

variable {room : Nat}

theorem nodup_keys (arranged : Arranged room entries) : (entries.map Prod.fst).Nodup := by
  induction arranged with
  | nil => exact List.nodup_nil
  | plain _ once _ ih => exact List.nodup_cons.mpr ⟨once, ih⟩
  | table once _ _ _ _ ih => exact List.nodup_cons.mpr ⟨once, ih⟩

/-- The values come first and the tables behind them. -/
theorem filter_append_filter (arranged : Arranged room entries) :
    (entries.filter fun entry => !entry.2.isTable) ++ (entries.filter fun entry => entry.2.isTable)
      = entries := by
  induction arranged with
  | nil => rfl
  | plain plain _ _ ih => simpa [isTable_of_isPlain plain] using ih
  | @table room key inner others _ last _ _ _ _ =>
    have none : others.filter (fun entry => !entry.2.isTable) = [] := by
      simpa [List.filter_eq_nil_iff] using last
    have all : others.filter (fun entry => entry.2.isTable) = others :=
      List.filter_eq_self.mpr last
    rw [List.filter_cons_of_neg (by simp), List.filter_cons_of_pos (by simp), none, all,
      List.nil_append]

/-- The tables are new behind the values. -/
theorem fresh_of_toEntries (arranged : Arranged room entries)
    (own : Node.toEntries nodes = entries.filter fun entry => !entry.2.isTable) :
    ∀ entry ∈ entries, entry.2.isTable → entry.1 ∉ nodes.map Prod.fst := by
  intro entry member table inside
  rw [← Node.map_fst_toEntries, own] at inside
  obtain ⟨other, otherMember, same⟩ := List.mem_map.mp inside
  obtain ⟨otherMember, plain⟩ := List.mem_filter.mp otherMember
  obtain rfl := List.inj_on_of_nodup_map arranged.nodup_keys otherMember member same
  simp [table] at plain

end Arranged

/-! ## Finding and replacing -/

namespace Node

theorem find?_concat (fresh : key ∉ done.map Prod.fst) (node : Node) :
    find? (done ++ [(key, node)]) key = some node := by
  have before : done.find? (·.1 == key) = none := by
    simp only [List.find?_eq_none, beq_iff_eq]
    rintro entry member rfl
    exact fresh (List.mem_map_of_mem member)
  simp [find?, List.find?_append, before]

theorem find?_eq_none (fresh : key ∉ done.map Prod.fst) : find? done key = none := by
  simp only [find?, Option.map_eq_none_iff, List.find?_eq_none, beq_iff_eq]
  rintro entry member rfl
  exact fresh (List.mem_map_of_mem member)

theorem replace_concat (fresh : key ∉ done.map Prod.fst) (node node' : Node) :
    replace (done ++ [(key, node)]) key node' = done ++ [(key, node')] := by
  have before : done.map (fun entry => if entry.1 == key then (key, node') else entry) = done := by
    refine (List.map_congr_left fun entry member => ?_).trans (List.map_id done)
    rw [if_neg]
    · rfl
    · rw [beq_iff_eq]
      rintro rfl
      exact fresh (List.mem_map_of_mem member)
  simpa [replace] using before

/-! ## Assignments -/

/-- A new key is assigned behind the others. -/
theorem assign_singleton (fresh : key ∉ done.map Prod.fst) (value : Value) :
    assign done [key] value = some (done ++ [(key, leaf value)]) := by
  simp [assign, update, find?_eq_none fresh]

end Node

open GuestSupervisor.Toml.Node

/-- The other keys of a table are new behind its first one. -/
theorem fresh_concat {rest : List (String × Value)} (once : key ∉ rest.map Prod.fst)
    (fresh : ∀ entry ∈ rest, entry.1 ∉ done.map Prod.fst) (node : Node) :
    ∀ entry ∈ rest, entry.1 ∉ (done ++ [(key, node)]).map Prod.fst := by
  intro entry member
  simp only [List.map_append, List.map_cons, List.map_nil, List.mem_append, List.mem_singleton]
  rintro (before | rfl)
  · exact fresh entry member before
  · exact once (List.mem_map_of_mem member)

/-- **The values of a table are assigned in their order.** -/
theorem exists_assignAll (done : Entries) {room : Nat} (arranged : Arranged room entries)
    (fresh : ∀ entry ∈ entries, entry.1 ∉ done.map Prod.fst) :
    ∃ nodes, assignAll done (ownBody entries) = some (done ++ nodes)
      ∧ toEntries nodes = entries.filter fun entry => !entry.2.isTable := by
  induction arranged generalizing done with
  | nil => exact ⟨[], by simp [ownBody, assignAll], rfl⟩
  | @plain room key value others plain once _ ih =>
    rw [List.forall_mem_cons] at fresh
    have own := isTable_of_isPlain plain
    obtain ⟨nodes, assigned, finished⟩ := ih _ (fresh_concat once fresh.2 (.leaf value))
    refine ⟨(key, .leaf value) :: nodes, ?_, ?_⟩
    · have body : ownBody ((key, value) :: others) = ([key], value) :: ownBody others := by
        simp [ownBody, own]
      rw [body, assignAll, assign_singleton fresh.1]
      simpa using assigned
    · simp [toEntries, toValue, finished, own]
  | table _ _ _ _ _ ih =>
    obtain ⟨nodes, assigned, finished⟩ := ih done (List.forall_mem_cons.mp fresh).2
    exact ⟨nodes, by simpa [ownBody] using assigned, by simpa using finished⟩

/-! ## Sections inside a table -/

/-- A document with more parts. -/
def addAll (root : Entries) (parts : List Section) : Option Entries :=
  parts.foldlM (fun root part => part.addTo root) root

theorem addAll_cons (root : Entries) (part : Section) (parts : List Section) :
    addAll root (part :: parts) = (part.addTo root).bind (addAll · parts) := by
  rw [addAll, List.foldlM_cons]
  rfl

theorem addAll_append (root : Entries) (parts more : List Section) :
    addAll root (parts ++ more) = (addAll root parts).bind (addAll · more) := by
  rw [addAll, List.foldlM_append]
  rfl

/-- A section inside the table with a key. -/
def Section.under (key : String) (part : Section) : Section :=
  match part.heading with
  | .table path => ⟨.table (key :: path), part.body⟩
  | _ => part

/-- The sections inside a table are those of a document, each inside the table. -/
theorem sections_cons {room : Nat} (arranged : Arranged room entries) (key : String)
    (path : List String) :
    sections (key :: path) entries = (sections path entries).map (Section.under key) := by
  induction arranged generalizing path with
  | nil => rfl
  | plain plain _ _ ih => rw [sections_plain plain, sections_plain plain, ih]
  | @table room name inner others _ _ _ _ ihInner ih =>
    have inside := ihInner (path ++ [name])
    rw [← List.cons_append] at inside
    simp only [sections, sectionsUnder, List.map_append, List.map_cons, inside, ih path]
    rfl

/-- **A section inside a table changes only that table**, as it would change a document. -/
theorem addTo_under (fresh : key ∉ done.map Prod.fst) {part : Section} {names : List String}
    (heading : part.heading = .table names) (nonempty : names ≠ []) :
    (part.under key).addTo (done ++ [(key, .table .header inner)])
      = (part.addTo inner).map fun inner => done ++ [(key, .table .header inner)] := by
  obtain ⟨_, body⟩ := part
  subst heading
  obtain ⟨name, others, rfl⟩ := List.exists_cons_of_ne_nil nonempty
  have last : (key :: name :: others).getLast? = (name :: others).getLast? := rfl
  have front : (key :: name :: others).dropLast = key :: (name :: others).dropLast := rfl
  simp only [Section.under, Section.addTo, openTable, last, front]
  cases (name :: others).getLast? with
  | none => rfl
  | some final =>
    simp only [update, find?_concat fresh]
    rw [if_neg (by simp)]
    generalize update .implied _ (name :: others).dropLast .header inner = changed
    cases changed with
    | none => rfl
    | some inner => simp [replace_concat fresh]

/-- **Sections inside a table change only that table.** -/
theorem addAll_under (fresh : key ∉ done.map Prod.fst) {parts : List Section}
    (headed : ∀ part ∈ parts, ∃ names, names ≠ [] ∧ part.heading = .table names) :
    addAll (done ++ [(key, .table .header inner)]) (parts.map (Section.under key))
      = (addAll inner parts).map fun inner => done ++ [(key, .table .header inner)] := by
  induction parts generalizing inner with
  | nil => rfl
  | cons part parts ih =>
    rw [List.forall_mem_cons] at headed
    obtain ⟨⟨names, nonempty, heading⟩, headed⟩ := headed
    rw [List.map_cons, addAll_cons, addAll_cons, addTo_under fresh heading nonempty]
    cases part.addTo inner with
    | none => rfl
    | some inner => exact ih headed

/-- **The sections of a table give its tables back.** -/
theorem exists_addAll_sections {room : Nat} (arranged : Arranged room entries)
    (fresh : ∀ entry ∈ entries, entry.2.isTable → entry.1 ∉ done.map Prod.fst) :
    ∃ nodes, addAll done (sections [] entries) = some (done ++ nodes)
      ∧ toEntries nodes = entries.filter fun entry => entry.2.isTable := by
  induction arranged generalizing done with
  | nil => exact ⟨[], by simp [sections, addAll], rfl⟩
  | plain plain _ _ ih =>
    obtain ⟨nodes, added, finished⟩ := ih (List.forall_mem_cons.mp fresh).2
    rw [sections_plain plain]
    exact ⟨nodes, added, by simpa [isTable_of_isPlain plain] using finished⟩
  | @table room key inner others once last arranged _ ihInner ih =>
    rw [List.forall_mem_cons] at fresh
    have new : key ∉ done.map Prod.fst := fresh.1 rfl
    have opened : ∀ own, assignAll [] (ownBody inner) = some own →
        openTable done [key] (ownBody inner) = some (done ++ [(key, .table .header own)]) := by
      intro own assigned
      simp [openTable, update, find?_eq_none new, assigned]
    -- First the values of the table, then the tables inside it, then those behind it.
    obtain ⟨own, assigned, ownEntries⟩ := exists_assignAll [] arranged (by simp)
    rw [List.nil_append] at assigned
    obtain ⟨tables, inside, tableEntries⟩ :=
      ihInner (arranged.fresh_of_toEntries ownEntries)
    obtain ⟨nodes, behind, finished⟩ := ih fun entry member _ =>
      fresh_concat once (fun entry member => fresh.2 entry member (last entry member))
        (.table .header (own ++ tables)) entry member
    have headed : ∀ part ∈ sections [] inner, ∃ names, names ≠ [] ∧ part.heading = .table names :=
      fun part member => by simpa using exists_heading arranged [] part member
    refine ⟨(key, .table .header (own ++ tables)) :: nodes, ?_, ?_⟩
    · rw [sections, sectionsUnder, List.nil_append, List.cons_append, addAll_cons, Section.addTo]
      simp only [opened own assigned, Option.bind_some]
      rw [addAll_append, sections_cons arranged, addAll_under new headed, inside]
      simpa using behind
    · simp only [toEntries, toValue, toEntries_append, ownEntries, tableEntries,
        arranged.filter_append_filter, finished]
      rfl

/-- **A document is put together to the table that was written.** -/
theorem exists_assemble? {room : Nat} (arranged : Arranged room entries) :
    ∃ nodes, assemble? (assignments (ownBody entries)
        ++ (sections [] entries).flatMap Section.statements) = some nodes
      ∧ toEntries nodes = entries := by
  obtain ⟨own, assigned, ownEntries⟩ := exists_assignAll [] arranged (by simp)
  rw [List.nil_append] at assigned
  obtain ⟨tables, added, tableEntries⟩ :=
    exists_addAll_sections arranged (arranged.fresh_of_toEntries ownEntries)
  refine ⟨own ++ tables, ?_, ?_⟩
  · have headed : ∀ part ∈ sections [] entries, ∃ names, part.heading = .table names :=
      fun part member => by
        obtain ⟨names, -, same⟩ := exists_heading arranged [] part member
        exact ⟨_, same⟩
    have start : (⟨.root, ownBody entries⟩ : Section).addTo [] = some own := assigned
    rw [assemble?, gather_sections _ headed]
    refine (addAll_cons [] _ _).trans ?_
    rw [start]
    exact added
  · rw [toEntries_append, ownEntries, tableEntries, arranged.filter_append_filter]

/-! ## Whole documents -/

mutual

/-- Plain values can be written. -/
theorem fits_of_isPlain : ∀ (v : Value) {depth : Nat}, v.isPlain depth → v.fits
  | .string _, _, _ => rfl
  | .integer _, _, plain => plain
  | .boolean _, _, _ => rfl
  | .array items, depth + 1, plain => by
    rw [isPlain] at plain
    exact allFit_of_allPlain items plain

theorem allFit_of_allPlain :
    ∀ (items : List Value) {depth : Nat}, allPlain depth items → allFit items
  | [], _, _ => rfl
  | item :: items, depth, plain => by
    rw [allPlain, Bool.and_eq_true] at plain
    rw [allFit, Bool.and_eq_true]
    exact ⟨fits_of_isPlain item plain.1, allFit_of_allPlain items plain.2⟩

end

/-- Arranged tables can be written. -/
theorem Arranged.entriesFit {room : Nat} (arranged : Arranged room entries) :
    entriesFit entries := by
  induction arranged with
  | nil => rfl
  | plain plain _ _ ih => simp [Value.entriesFit, fits_of_isPlain _ plain, ih]
  | table _ _ _ _ ihInner ih => simp [Value.entriesFit, fits, ihInner, ih]

/-- What can be read begins with no mark that tells its byte order. -/
theorem Reads.dropMark_eq {text : List Char} {said : List Statement} (reads : Reads text said) :
    dropMark text = text := by
  unfold dropMark
  split
  · rename_i rest
    have refused : statements? (rest.length + 2) ('\uFEFF' :: rest) = none := rfl
    have read := reads (rest.length + 2) (Nat.lt_succ_self _)
    rw [refused] at read
    cases read
  · rfl

/-- **A document is read back** as the table that was written. -/
theorem exists_write?_of_arranged (arranged : Arranged longestPath entries) :
    ∃ text, write? (.table entries) = some text ∧ read? text = some (.table entries) := by
  have reads := reads_parts arranged (Nat.le_refl longestPath)
  obtain ⟨nodes, assembled, finished⟩ := exists_assemble? arranged
  refine ⟨_, if_pos arranged.entriesFit, ?_⟩
  rw [read?, reads.dropMark_eq, reads _ (Nat.lt_succ_self _)]
  simp only [Option.bind_eq_bind, Option.bind_some, assembled, finished]

end GuestSupervisor.Toml
