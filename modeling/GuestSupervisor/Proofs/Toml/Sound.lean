import GuestSupervisor.Toml.Reader
import Mathlib.Data.List.Nodup

/-!
# Values that are read

An integer that is out of range is refused where it stands, and a key that a table has already is
refused where it is given again.  Nothing else that a document does to its tables makes an integer or
a second entry for a key.  So whatever is read can be written, and each of its tables has one value
for a key at most.

## Main Definitions

* `Value.Sound` — all integers in a tree are in range, and all keys of a table are distinct.
* `Node.Sound` — the same for a table under construction.

## Main Statements

* `sound_of_value?` — a value that is read is sound.
* `sound_of_update` — changing a sound table gives a sound table.
* `sound_of_read?` — so is a whole document.
* `fits_of_read?` — its integers are in range.
-/

namespace GuestSupervisor.Toml

open Value

variable {text rest : List Char} {value : Value} {entries : Entries} {key : String} {node : Node}

/-! ## Sound trees -/

/-- **All integers in a tree are in range, and all keys of a table are distinct.** -/
inductive Value.Sound : Value → Prop
  | string (text : String) : Sound (.string text)
  | integer {n : Int} (ranged : inRange n) : Sound (.integer n)
  | float (text : String) : Sound (.float text)
  | boolean (b : Bool) : Sound (.boolean b)
  | datetime (text : String) : Sound (.datetime text)
  | array {items : List Value} (inner : ∀ item ∈ items, Sound item) : Sound (.array items)
  | table {entries : List (String × Value)} (distinct : (entries.map Prod.fst).Nodup)
      (inner : ∀ entry ∈ entries, Sound entry.2) : Sound (.table entries)

theorem allFit_iff {items : List Value} : allFit items ↔ ∀ item ∈ items, item.fits := by
  induction items with
  | nil => simp [allFit]
  | cons item items ih => simp [allFit, ih]

theorem entriesFit_iff {entries : List (String × Value)} :
    entriesFit entries ↔ ∀ entry ∈ entries, entry.2.fits := by
  induction entries with
  | nil => simp [entriesFit]
  | cons entry entries ih => simp [entriesFit, ih]

/-- The integers in a sound tree are in range. -/
theorem Value.Sound.fits (sound : value.Sound) : value.fits := by
  induction sound with
  | integer ranged => exact ranged
  | array _ ih => exact allFit_iff.mpr ih
  | table _ _ ih => exact entriesFit_iff.mpr ih
  | _ => rfl

namespace Node

/-- **All integers in a table under construction are in range, and all keys are distinct.** -/
structure Sound (entries : Entries) : Prop where
  distinct : (entries.map Prod.fst).Nodup
  inner : ∀ entry ∈ entries, entry.2.toValue.Sound

theorem sound_nil : Sound [] := ⟨List.nodup_nil, List.forall_mem_nil _⟩

theorem not_mem_of_find? (absent : find? entries key = none) : key ∉ entries.map Prod.fst := by
  rintro member
  obtain ⟨entry, inside, rfl⟩ := List.mem_map.mp member
  simp only [find?, Option.map_eq_none_iff, List.find?_eq_none, beq_iff_eq] at absent
  exact absent entry inside rfl

theorem sound_concat (sound : Sound entries) (absent : find? entries key = none)
    (new : node.toValue.Sound) : Sound (entries ++ [(key, node)]) where
  distinct := by
    rw [List.map_append]
    exact sound.distinct.append (List.nodup_singleton key)
      (List.disjoint_singleton.mpr (not_mem_of_find? absent))
  inner := by
    intro entry member
    rcases List.mem_append.mp member with before | last
    · exact sound.inner entry before
    · rw [List.mem_singleton.mp last]
      exact new

theorem toEntries_eq (entries : Entries) :
    toEntries entries = entries.map fun entry => (entry.1, entry.2.toValue) := by
  induction entries with
  | nil => rfl
  | cons entry entries ih => rw [toEntries, ih, List.map_cons]

theorem toItems_eq (rows : List Node) : toItems rows = rows.map toValue := by
  induction rows with
  | nil => rfl
  | cons row rows ih => rw [toItems, ih, List.map_cons]

/-- A finished table has the keys that it had. -/
theorem map_fst_toEntries (nodes : Entries) :
    (toEntries nodes).map Prod.fst = nodes.map Prod.fst := by
  rw [toEntries_eq, List.map_map]
  rfl

/-- A finished table is sound if it was so under construction. -/
theorem sound_toEntries : (Value.table (toEntries entries)).Sound ↔ Sound entries := by
  constructor
  · rintro (_ | _ | _ | _ | _ | _ | ⟨distinct, inner⟩)
    rw [map_fst_toEntries] at distinct
    refine ⟨distinct, fun entry member => inner (entry.1, entry.2.toValue) ?_⟩
    rw [toEntries_eq]
    exact List.mem_map_of_mem member
  · rintro ⟨distinct, inner⟩
    refine .table (by rwa [map_fst_toEntries]) fun entry member => ?_
    rw [toEntries_eq] at member
    obtain ⟨entry, inside, rfl⟩ := List.mem_map.mp member
    exact inner entry inside

theorem sound_table {origin : Origin} : (table origin entries).toValue.Sound ↔ Sound entries := by
  rw [toValue, sound_toEntries]

theorem sound_rows {items : List Node} :
    (rows items).toValue.Sound ↔ ∀ row ∈ items, row.toValue.Sound := by
  rw [toValue, toItems_eq]
  constructor
  · rintro (_ | _ | _ | _ | _ | inner | _) row member
    exact inner _ (List.mem_reverse.mpr (List.mem_map_of_mem member))
  · refine fun inner => .array fun item member => ?_
    obtain ⟨row, inside, rfl⟩ := List.mem_map.mp (List.mem_reverse.mp member)
    exact inner row inside

theorem sound_of_find? (sound : Sound entries) (found : find? entries key = some node) :
    node.toValue.Sound := by
  obtain ⟨entry, first, rfl⟩ := Option.map_eq_some_iff.mp found
  exact sound.inner entry (List.mem_of_find?_eq_some first)

theorem sound_replace (sound : Sound entries) (key : String) (new : node.toValue.Sound) :
    Sound (replace entries key node) where
  distinct := by
    have keys : (replace entries key node).map Prod.fst = entries.map Prod.fst := by
      rw [replace, List.map_map]
      refine List.map_congr_left fun entry _ => ?_
      simp only [Function.comp_apply]
      split
      · rename_i same
        exact (beq_iff_eq.mp same).symm
      · rfl
    exact keys ▸ sound.distinct
  inner := by
    intro entry member
    obtain ⟨old, inside, rfl⟩ := List.mem_map.mp member
    split
    · exact new
    · exact sound.inner old inside

/-! ## Changes to tables -/

/-- **A change somewhere in a table keeps it sound**, if it keeps the table that it is made to
sound. -/
theorem sound_of_update {made : Origin} {change : Origin → Entries → Option Entries}
    (keeps : ∀ origin inner out, Sound inner → change origin inner = some out → Sound out)
    {path : List String} {origin : Origin} {out : Entries} (sound : Sound entries)
    (updated : update made change path origin entries = some out) : Sound out := by
  induction path generalizing origin entries out with
  | nil => exact keeps origin entries out sound updated
  | cons key path ih =>
    rw [update] at updated
    split at updated
    · -- The table is missing, and is made.
      rename_i absent
      simp only [Option.bind_eq_bind, Option.bind_eq_some_iff, Option.some.injEq] at updated
      obtain ⟨inner, changed, rfl⟩ := updated
      exact sound_concat sound absent (sound_table.mpr (ih sound_nil changed))
    · cases updated
    · cases updated
    · rename_i latest earlier found
      split at updated
      · simp only [Option.bind_eq_bind, Option.bind_eq_some_iff, Option.some.injEq] at updated
        obtain ⟨inner, changed, rfl⟩ := updated
        have old := sound_rows.mp (sound_of_find? sound found)
        rw [List.forall_mem_cons] at old
        refine sound_replace sound key (sound_rows.mpr (List.forall_mem_cons.mpr ⟨?_, old.2⟩))
        exact sound_table.mpr (ih (sound_table.mp old.1) changed)
      · cases updated
    · rename_i found
      split at updated
      · cases updated
      · simp only [Option.bind_eq_bind, Option.bind_eq_some_iff, Option.some.injEq] at updated
        obtain ⟨inner, changed, rfl⟩ := updated
        exact sound_replace sound key
          (sound_table.mpr (ih (sound_table.mp (sound_of_find? sound found)) changed))

theorem sound_of_assign {path : List String} {out : Entries} (sound : Sound entries)
    (new : value.Sound) (assigned : assign entries path value = some out) : Sound out := by
  unfold assign at assigned
  split at assigned
  · cases assigned
  · refine sound_of_update (fun origin inner out sound changed => ?_) sound assigned
    split at changed
    · cases changed
    · split at changed
      · cases changed
      · rename_i absent
        cases changed
        exact sound_concat sound (Option.not_isSome_iff_eq_none.mp absent) new

theorem sound_of_assignAll {body : List (List String × Value)} {out : Entries}
    (sound : Sound entries) (new : ∀ entry ∈ body, entry.2.Sound)
    (assigned : assignAll entries body = some out) : Sound out := by
  induction body generalizing entries with
  | nil =>
    cases assigned
    exact sound
  | cons entry body ih =>
    rw [List.forall_mem_cons] at new
    rw [assignAll] at assigned
    simp only [Option.bind_eq_bind, Option.bind_eq_some_iff] at assigned
    obtain ⟨after, first, others⟩ := assigned
    exact ih (sound_of_assign sound new.1 first) new.2 others

end Node

open GuestSupervisor.Toml.Node

/-- **A sound section keeps a document sound.** -/
theorem Section.sound_of_addTo {part : Section} {out : Entries} (sound : Node.Sound entries)
    (new : ∀ entry ∈ part.body, entry.2.Sound) (added : part.addTo entries = some out) :
    Node.Sound out := by
  unfold addTo at added
  split at added
  · exact sound_of_assignAll sound new added
  · unfold openTable at added
    split at added
    · cases added
    · refine sound_of_update (fun origin inner out sound changed => ?_) sound added
      split at changed
      · rename_i absent
        obtain ⟨filled, assigned, rfl⟩ := Option.map_eq_some_iff.mp changed
        exact sound_concat sound absent
          (sound_table.mpr (sound_of_assignAll sound_nil new assigned))
      · rename_i found
        obtain ⟨filled, assigned, rfl⟩ := Option.map_eq_some_iff.mp changed
        have old := sound_table.mp (sound_of_find? sound found)
        exact sound_replace sound _ (sound_table.mpr (sound_of_assignAll old new assigned))
      · cases changed
  · unfold appendRow at added
    split at added
    · cases added
    · refine sound_of_update (fun origin inner out sound changed => ?_) sound added
      obtain ⟨filled, assigned, changed⟩ := Option.bind_eq_some_iff.mp changed
      have row : (Node.table .header filled).toValue.Sound :=
        sound_table.mpr (sound_of_assignAll sound_nil new assigned)
      split at changed
      · rename_i absent
        cases changed
        exact sound_concat sound absent (sound_rows.mpr (by simpa using row))
      · rename_i found
        cases changed
        have old := sound_rows.mp (sound_of_find? sound found)
        exact sound_replace sound _ (sound_rows.mpr (List.forall_mem_cons.mpr ⟨row, old⟩))
      · cases changed

/-! ## Values -/

theorem inRange_of_ranged {n m : Int} (read : ranged n text = some (m, rest)) : inRange m := by
  unfold ranged at read
  split at read
  · rename_i fits
    cases read
    exact fits
  · cases read

/-- **An integer that is read is in range**, in whatever base. -/
theorem inRange_of_integer? {n : Int} (read : integer? text = some (n, rest)) : inRange n := by
  have based (base : Nat) (text : List Char) (read : basedInteger? base text = some (n, rest)) :
      inRange n := by
    simp only [basedInteger?, Option.bind_eq_bind, Option.bind_eq_some_iff] at read
    obtain ⟨_, _, read⟩ := read
    exact inRange_of_ranged read
  unfold integer? at read
  split at read
  iterate 3 exact based _ _ read
  · simp only [Option.bind_eq_bind, Option.bind_eq_some_iff] at read
    obtain ⟨_, _, read⟩ := read
    exact inRange_of_ranged read

theorem sound_of_number? (read : number? text = some (value, rest)) : value.Sound := by
  unfold number? at read
  split at read
  · cases read
    exact .datetime _
  · split at read
    · cases read
      exact .float _
    · obtain ⟨⟨n, _⟩, integer, same⟩ := Option.map_eq_some_iff.mp read
      cases same
      exact .integer (inRange_of_integer? integer)

theorem sound_of_word? {letters : String} {word : Value} (sound : word.Sound)
    (read : word? letters word text = some (value, rest)) : value.Sound := by
  obtain ⟨_, _, same⟩ := Option.map_eq_some_iff.mp read
  cases same
  exact sound

mutual

/-- **A value that is read is sound.** -/
theorem sound_of_value? : ∀ (budget : Nat) {depth : Nat} {text : List Char} {value : Value}
    {rest : List Char}, value? depth budget text = some (value, rest) → value.Sound
  | 0, _, _, _, _, read => by simp [value?] at read
  | budget + 1, _, [], _, _, read => by simp [value?] at read
  | budget + 1, depth, c :: text, value, rest, read => by
    rw [value?.eq_def] at read
    simp only at read
    split at read
    · obtain ⟨_, _, same⟩ := Option.map_eq_some_iff.mp read
      cases same
      exact .string _
    · split at read
      · split at read
        · cases read
        · exact sound_of_arrayItems? budget (List.forall_mem_nil _) read
      · split at read
        · split at read
          · cases read
          · split at read
            · cases read
              exact sound_toEntries.mpr sound_nil
            · exact sound_of_inlineEntries? budget sound_nil read
        · split at read
          · exact sound_of_word? (.boolean true) read
          · split at read
            · exact sound_of_word? (.boolean false) read
            · split at read
              · exact sound_of_word? (.float "inf") read
              · split at read
                · exact sound_of_word? (.float "nan") read
                · split at read
                  · exact sound_of_number? read
                  · cases read

theorem sound_of_arrayItems? : ∀ (budget : Nat) {depth : Nat} {seen : List Value}
    {text : List Char} {value : Value} {rest : List Char}, (∀ item ∈ seen, item.Sound) →
    arrayItems? depth budget seen text = some (value, rest) → value.Sound
  | 0, _, _, _, _, _, _, read => by simp [arrayItems?] at read
  | budget + 1, depth, seen, text, value, rest, sound, read => by
    rw [arrayItems?.eq_def] at read
    simp only at read
    split at read
    · cases read
      exact .array fun item member => sound item (List.mem_reverse.mp member)
    · split at read
      · cases read
      · rename_i item _ found
        have all : ∀ v ∈ item :: seen, v.Sound :=
          List.forall_mem_cons.mpr ⟨sound_of_value? budget found, sound⟩
        split at read
        · exact sound_of_arrayItems? budget all read
        · cases read
          exact .array fun item member => all item (List.mem_reverse.mp member)
        · cases read

theorem sound_of_inlineEntries? : ∀ (budget : Nat) {depth : Nat} {entries : Entries}
    {text : List Char} {value : Value} {rest : List Char}, Node.Sound entries →
    inlineEntries? depth budget entries text = some (value, rest) → value.Sound
  | 0, _, _, _, _, _, _, read => by simp [inlineEntries?] at read
  | budget + 1, depth, entries, text, value, rest, sound, read => by
    rw [inlineEntries?.eq_def] at read
    simp only at read
    split at read
    · split at read
      · cases read
      · rename_i found
        have new := sound_of_value? budget found
        split at read
        · cases read
        · rename_i assigned
          have after := sound_of_assign sound new assigned
          split at read
          · exact sound_of_inlineEntries? budget after read
          · cases read
            exact sound_toEntries.mpr after
          · cases read
    · cases read

end

/-! ## Documents -/

/-- The value in a line, if there is one, is sound. -/
def Statement.Sound : Statement → Prop
  | .assignment _ value => value.Sound
  | _ => True

theorem Statement.sound_of_statement? {statement : Statement}
    (read : statement? text = some (statement, rest)) : statement.Sound := by
  unfold statement? at read
  split at read
  · split at read
    · obtain ⟨_, _, same⟩ := Option.map_eq_some_iff.mp read
      cases same
      trivial
    · cases read
  · split at read
    · obtain ⟨_, _, same⟩ := Option.map_eq_some_iff.mp read
      cases same
      trivial
    · cases read
  · split at read
    · simp only [Option.bind_eq_bind, Option.bind_eq_some_iff, Option.some.injEq] at read
      obtain ⟨⟨value, _⟩, found, _, _, same⟩ := read
      cases same
      exact sound_of_value? _ found
    · cases read

theorem Statement.sound_of_statements? {budget : Nat} {said : List Statement}
    (read : statements? budget text = some said) : ∀ statement ∈ said, statement.Sound := by
  induction budget generalizing text said with
  | zero => cases read
  | succ budget ih =>
    rw [statements?] at read
    split at read
    · cases read
      exact List.forall_mem_nil _
    · simp only [Option.bind_eq_bind, Option.bind_eq_some_iff] at read
      obtain ⟨_, _, read⟩ := read
      exact ih read
    · exact ih read
    · simp only [Option.bind_eq_bind, Option.bind_eq_some_iff] at read
      obtain ⟨_, _, read⟩ := read
      exact ih read
    · simp only [Option.bind_eq_bind, Option.bind_eq_some_iff, Option.some.injEq] at read
      obtain ⟨⟨statement, _⟩, first, others, behind, rfl⟩ := read
      exact List.forall_mem_cons.mpr ⟨sound_of_statement? first, ih behind⟩

/-- What is gathered under the headers is what the lines say. -/
theorem sound_of_gather {said : List Statement} (sound : ∀ statement ∈ said, statement.Sound) :
    (∀ entry ∈ (gather said).1, entry.2.Sound)
      ∧ ∀ part ∈ (gather said).2, ∀ entry ∈ part.body, entry.2.Sound := by
  induction said with
  | nil => exact ⟨List.forall_mem_nil _, List.forall_mem_nil _⟩
  | cons statement said ih =>
    rw [List.forall_mem_cons] at sound
    obtain ⟨own, others⟩ := ih sound.2
    cases statement with
    | header path | row path =>
      exact ⟨List.forall_mem_nil _, List.forall_mem_cons.mpr ⟨own, others⟩⟩
    | assignment path value => exact ⟨List.forall_mem_cons.mpr ⟨sound.1, own⟩, others⟩

/-- Sound sections make a sound document. -/
theorem sound_of_foldlM {parts : List Section} {out : Entries} (sound : Node.Sound entries)
    (new : ∀ part ∈ parts, ∀ entry ∈ part.body, entry.2.Sound)
    (added : parts.foldlM (fun root part => part.addTo root) entries = some out) :
    Node.Sound out := by
  induction parts generalizing entries with
  | nil =>
    cases added
    exact sound
  | cons part parts ih =>
    rw [List.forall_mem_cons] at new
    rw [List.foldlM_cons] at added
    obtain ⟨after, first, others⟩ := Option.bind_eq_some_iff.mp added
    exact ih (part.sound_of_addTo sound new.1 first) new.2 others

/-- **Whatever is read is sound.** -/
theorem sound_of_read? (read : read? text = some value) : value.Sound := by
  simp only [read?, Option.bind_eq_bind, Option.bind_eq_some_iff, Option.some.injEq] at read
  obtain ⟨said, lines, entries, assembled, rfl⟩ := read
  obtain ⟨own, others⟩ := sound_of_gather (Statement.sound_of_statements? lines)
  refine sound_toEntries.mpr (sound_of_foldlM sound_nil ?_ assembled)
  exact List.forall_mem_cons.mpr ⟨own, others⟩

/-- **Whatever is read has its integers in range.** -/
theorem fits_of_read? (read : read? text = some value) : value.fits := (sound_of_read? read).fits

end GuestSupervisor.Toml
