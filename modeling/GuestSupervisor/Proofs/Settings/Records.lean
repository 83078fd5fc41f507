import GuestSupervisor.Proofs.Toml.Sound
import GuestSupervisor.Settings.Document

/-!
# Records that are read

A record is read from a table field by field in the order of the text.  Reading keeps what every
field keeps.  Since a table has one entry for a key at most, every part of the record is in the end
what the entry with its name says, and as before where there is none: the order does not matter, and
neither do entries with names that mean nothing.

## Main Definitions

* `Record.Keeps` — a field keeps a property of the record.
* `Record.Puts`, `Record.Leaves` — a field fills a part of the record, or does not touch it.
* `Record.Part` — the part of a record with a name.

## Main Statements

* `Record.holds_of_read` — what every field of a record keeps, reading the record keeps.
* `Record.exists_read` — a table is read if each field takes what its entry holds.
* `Record.Part.of_read` — what a part of the record is then.
-/

namespace GuestSupervisor

open Toml (Value)

/-! ## Trees in documents -/

namespace Toml.Value

theorem itemsToReading_eq (items : List Value) :
    itemsToReading items = items.map toReading := by
  induction items with
  | nil => rfl
  | cons item items ih => rw [itemsToReading, ih, List.map_cons]

theorem entriesToReading_eq (entries : List (String × Value)) :
    entriesToReading entries = entries.map fun entry => (some entry.1, entry.2.toReading) := by
  induction entries with
  | nil => rfl
  | cons entry entries ih => rw [entriesToReading, ih, List.map_cons]

mutual

/-- Nothing in a document is damaged. -/
theorem checkIntact_toReading : ∀ v : Value, v.toReading.checkIntact = .ok ()
  | string _ | integer _ | float _ | boolean _ => rfl
  | datetime _ => rfl
  | array items => by
    rw [toReading, Reading.checkIntact, checkItems_itemsToReading items]
    rfl
  | table entries => by
    rw [toReading, Reading.checkIntact, checkMembers_entriesToReading entries]
    rfl

theorem checkItems_itemsToReading :
    ∀ items : List Value, Reading.checkItems (itemsToReading items) = .ok ()
  | [] => rfl
  | item :: items => by
    rw [itemsToReading, Reading.checkItems, checkIntact_toReading item]
    exact checkItems_itemsToReading items

theorem checkMembers_entriesToReading :
    ∀ entries : List (String × Value), Reading.checkMembers (entriesToReading entries) = .ok ()
  | [] => rfl
  | (_, value) :: entries => by
    rw [entriesToReading, Reading.checkMembers, checkIntact_toReading value]
    exact checkMembers_entriesToReading entries

end

end Toml.Value

/-- The trees right below a tree. -/
def Reading.children : Reading → List Reading
  | .object members _ => members.map Prod.snd
  | .array items _ => items
  | _ => []

namespace Record

variable {σ : Type} {holds : σ → Prop} {allowed : Reading → Prop}

/-- A field keeps something if it is given what is allowed. -/
def Keeps (holds : σ → Prop) (allowed : Reading → Prop) (field : RecordField σ) : Prop :=
  ∀ v state state', allowed v → holds state → field.take v state = .ok state' → holds state'

variable {record : Record σ}

/-- A member that gives a field is taken in. -/
theorem readMembers_cons {given : List String} {name : String} {value : Reading}
    {rest : List (Option String × Reading)} {state next : σ} {field : RecordField σ}
    (found : record.fields.find? (·.name == name) = some field) (new : given.contains name = false)
    (taken : field.take value state = .ok next) :
    record.readMembers given state ((some name, value) :: rest)
      = record.readMembers (name :: given) next rest := by
  simp only [readMembers, found, new, taken]
  rfl

/-- An object is read if its members are, and no field must be there. -/
theorem read_object {members : List (Option String × Reading)} {state : σ} (given : List String)
    (met : record.readMembers [] record.start members = .ok (state, given))
    (free : record.fields.all fun field => !field.needed) :
    record.read (.object members true) = .ok state := by
  have all : record.fields.all (fun field => !field.needed || given.contains field.name) := by
    simp only [List.all_eq_true, Bool.or_eq_true] at free ⊢
    exact fun field member => .inl (free field member)
  simp only [Record.read, met]
  exact if_pos all

theorem holds_of_readMembers (keeps : ∀ field ∈ record.fields, Keeps holds allowed field)
    {members : List (Option String × Reading)} (inside : ∀ member ∈ members, allowed member.2)
    {given : List String} {state : σ} (start : holds state) {result : σ × List String}
    (read : record.readMembers given state members = .ok result) : holds result.1 := by
  induction members generalizing given state with
  | nil =>
    cases read
    exact start
  | cons member members ih =>
    rw [List.forall_mem_cons] at inside
    obtain ⟨_ | name, value⟩ := member
    · cases read
    · rw [readMembers] at read
      split at read
      · cases intact : value.checkIntact with
        | error =>
          rw [intact] at read
          cases read
        | ok =>
          rw [intact] at read
          exact ih inside.2 start read
      · rename_i field found
        split at read
        · cases read
        · cases taken : field.take value state with
          | error =>
            rw [taken] at read
            cases read
          | ok next =>
            rw [taken] at read
            have kept := keeps field (List.mem_of_find?_eq_some found) value state next inside.1
            exact ih inside.2 (kept start taken) read

theorem holds_of_readItems {goesOn : Bool} {fields : List (RecordField σ)}
    (keeps : ∀ field ∈ fields, Keeps holds allowed field) {items : List Reading}
    (inside : ∀ item ∈ items, allowed item) {closed : Bool} {state state' : σ}
    (start : holds state) (read : readItems goesOn state fields items closed = .ok state') :
    holds state' := by
  induction fields generalizing items state with
  | nil =>
    cases items with
    | nil => cases closed <;> cases read; exact start
    | cons => cases goesOn <;> cases read; exact start
  | cons field fields ih =>
    rw [List.forall_mem_cons] at keeps
    cases items with
    | nil =>
      simp only [readItems] at read
      split at read
      · cases read
      · split at read <;> cases read
        exact start
    | cons item items =>
      rw [List.forall_mem_cons] at inside
      rw [readItems] at read
      cases taken : field.take item state with
      | error =>
        rw [taken] at read
        cases read
      | ok next =>
        rw [taken] at read
        exact ih keeps.2 inside.2 (keeps.1 item state next inside.1 start taken) read

/-- **What every field keeps, reading a record keeps**, if only what is allowed is in the tree. -/
theorem holds_of_read (keeps : ∀ field ∈ record.fields, Keeps holds allowed field)
    (start : holds record.start) {tree : Reading} (inside : ∀ child ∈ tree.children, allowed child)
    {state : σ} (read : record.read tree = .ok state) : holds state := by
  unfold Record.read at read
  split at read
  · rename_i members closed
    cases met : record.readMembers [] record.start members with
    | error =>
      rw [met] at read
      cases read
    | ok result =>
      rw [met] at read
      have kept : holds result.1 := holds_of_readMembers keeps
        (fun member among => inside _ (List.mem_map_of_mem among)) start met
      change (if !closed then _ else _) = _ at read
      split at read
      · cases read
      · split at read
        · cases read
          exact kept
        · cases read
  · exact holds_of_readItems keeps inside start read
  · cases read

/-! ## Taking in a value -/

theorem taken {α : Type} {result : Except Problem α} {value : α} (read : result = .ok value)
    (f : α → σ) : result.map f = .ok (f value) := by
  rw [read]
  rfl

theorem exists_of_taken {α : Type} {result : Except Problem α} {f : α → σ} {state : σ}
    (read : result.map f = .ok state) : ∃ value, result = .ok value ∧ f value = state := by
  cases result with
  | error => cases read
  | ok value => exact ⟨value, rfl, Except.ok.inj read⟩

/-! ## Parts of a record -/

/-- **A field takes a value in**, whatever was read before. -/
def Takes (field : RecordField σ) (value : Reading) : Prop :=
  ∀ state, ∃ next, field.take value state = .ok next

variable {α β : Type} {get : σ → α}

/-- **A field puts what it reads into a part of the record.** -/
def Puts (get : σ → α) (read : Reading → Except Problem α) (field : RecordField σ) : Prop :=
  ∀ value state x, read value = .ok x → ∃ next, field.take value state = .ok next ∧ get next = x

/-- **A field leaves a part of the record** as it is. -/
def Leaves (get : σ → α) (field : RecordField σ) : Prop :=
  ∀ value state next, field.take value state = .ok next → get next = get state

theorem puts_field {read : Reading → Except Problem α} {put : α → σ → σ} (name : String)
    (get_put : ∀ x state, get (put x state) = x) :
    Puts get read (SettingsFormat.field name fun v s => (read v).map fun x => put x s) :=
  fun _ state x fits => ⟨put x state, taken fits _, get_put x state⟩

theorem leaves_field {read : Reading → Except Problem β} {put : β → σ → σ} (name : String)
    (get_put : ∀ x state, get (put x state) = get state) :
    Leaves get (SettingsFormat.field name fun v s => (read v).map fun x => put x s) := by
  intro value state next done
  obtain ⟨x, -, rfl⟩ := exists_of_taken done
  exact get_put x state

/-- **A part of a record**: the field with the name puts there what it reads, and no other field
changes it. -/
structure Part (record : Record σ) (name : String) (get : σ → α)
    (read : Reading → Except Problem α) : Prop where
  known : (record.fields.map (·.name)).contains name
  own : ∀ field ∈ record.fields, field.name = name → Puts get read field
  others : ∀ field ∈ record.fields, field.name ≠ name → Leaves get field

variable {name : String} {read : Reading → Except Problem α} {entries : List (String × Value)}

theorem Part.of_fields (known : (record.fields.map (·.name)).contains name)
    (fields : ∀ field ∈ record.fields,
      field.name = name ∧ Puts get read field ∨ field.name ≠ name ∧ Leaves get field) :
    Part record name get read where
  known := known
  own field member same := ((fields field member).resolve_right fun other => other.1 same).2
  others field member other := ((fields field member).resolve_left fun own => other own.1).2

theorem Part.takes (part : Part record name get read) {field : RecordField σ}
    (member : field ∈ record.fields) (same : field.name = name) {value : Reading} {x : α}
    (fits : read value = .ok x) : Takes field value := fun state =>
  let ⟨next, taken, _⟩ := part.own field member same value state x fits
  ⟨next, taken⟩

/-- A member of another name is passed over. -/
theorem readMembers_cons_of_unknown {given : List String} {state : σ} {key : String} {v : Value}
    (unknown : record.fields.find? (·.name == key) = none) :
    record.readMembers given state (Value.entriesToReading ((key, v) :: entries))
      = record.readMembers given state (Value.entriesToReading entries) := by
  rw [Value.entriesToReading, readMembers, unknown]
  simp only [Value.checkIntact_toReading]
  rfl

/-- The entries of a table are read if each field takes what its entry holds. -/
theorem exists_readMembers (distinct : (entries.map Prod.fst).Nodup)
    (takes : ∀ field ∈ record.fields, ∀ v, (field.name, v) ∈ entries → Takes field v.toReading)
    (given : List String) (new : ∀ key ∈ entries.map Prod.fst, key ∉ given) (state : σ) :
    ∃ result, record.readMembers given state (Value.entriesToReading entries) = .ok result := by
  induction entries generalizing given state with
  | nil => exact ⟨_, rfl⟩
  | cons entry entries ih =>
    obtain ⟨key, v⟩ := entry
    rw [List.map_cons, List.nodup_cons] at distinct
    rw [List.map_cons, List.forall_mem_cons] at new
    have others : ∀ field ∈ record.fields, ∀ v, (field.name, v) ∈ entries →
        Takes field v.toReading := fun field member v inside =>
      takes field member v (List.mem_cons_of_mem _ inside)
    cases found : record.fields.find? (·.name == key) with
    | none =>
      rw [readMembers_cons_of_unknown found]
      exact ih distinct.2 others given new.2 state
    | some field =>
      have same : field.name = key := by simpa using List.find?_some found
      obtain ⟨next, taken⟩ := takes field (List.mem_of_find?_eq_some found) v
        (by simp [same]) state
      rw [Value.entriesToReading, readMembers_cons found (by simpa using new.1) taken]
      refine ih distinct.2 others _ (fun other member => ?_) next
      rw [List.mem_cons, not_or]
      exact ⟨fun equal => distinct.1 (equal ▸ member), new.2 other member⟩

/-- **What a part of the record is** once the entries of a table were read: what the entry with its
name says, or what it was. -/
theorem Part.of_readMembers (part : Part record name get read)
    (distinct : (entries.map Prod.fst).Nodup) {given : List String} {state : σ}
    {result : σ × List String}
    (done : record.readMembers given state (Value.entriesToReading entries) = .ok result) :
    (∀ v x, (name, v) ∈ entries → read v.toReading = .ok x → get result.1 = x)
      ∧ (name ∉ entries.map Prod.fst → get result.1 = get state) := by
  induction entries generalizing given state with
  | nil =>
    cases done
    exact ⟨fun v x member => absurd member (List.not_mem_nil), fun _ => rfl⟩
  | cons entry entries ih =>
    obtain ⟨key, v⟩ := entry
    rw [List.map_cons, List.nodup_cons] at distinct
    cases found : record.fields.find? (·.name == key) with
    | none =>
      rw [readMembers_cons_of_unknown found] at done
      obtain ⟨named, unnamed⟩ := ih distinct.2 done
      have other : name ≠ key := by
        rintro rfl
        obtain ⟨field, member, same⟩ := List.mem_map.mp (List.contains_iff_mem.mp part.known)
        exact absurd (List.find?_eq_none.mp found field member) (by simp [same])
      refine ⟨fun v' x member => named v' x ?_, fun absent => unnamed ?_⟩
      · exact (List.mem_cons.mp member).resolve_left fun same => other (Prod.mk.inj same).1
      · exact fun member => absent (List.mem_cons_of_mem _ member)
    | some field =>
      have member := List.mem_of_find?_eq_some found
      have same : field.name = key := by simpa using List.find?_some found
      rw [Value.entriesToReading, readMembers, found] at done
      simp only at done
      split at done
      · cases done
      · cases taken : field.take v.toReading state with
        | error =>
          rw [taken] at done
          cases done
        | ok next =>
          rw [taken] at done
          obtain ⟨named, unnamed⟩ := ih distinct.2 done
          by_cases own : key = name
          · -- The entry is the only one with this name, so what it says stays.
            subst own
            have stays := unnamed distinct.1
            refine ⟨fun v' x inside fits => ?_, fun absent => absurd List.mem_cons_self absent⟩
            rcases List.mem_cons.mp inside with first | later
            · obtain ⟨-, rfl⟩ := Prod.mk.inj first
              obtain ⟨next', taken', shows⟩ := part.own field member same _ state x fits
              rw [taken] at taken'
              cases taken'
              rw [stays, shows]
            · exact absurd (List.mem_map_of_mem later) distinct.1
          · have kept := part.others field member (same ▸ own) _ state next taken
            refine ⟨fun v' x inside => named v' x ?_, fun absent => ?_⟩
            · exact (List.mem_cons.mp inside).resolve_left fun first =>
                own (Prod.mk.inj first).1.symm
            · rw [unnamed fun inside => absent (List.mem_cons_of_mem _ inside), kept]

/-- **A table is read** if each field takes what its entry holds and no field must be there. -/
theorem exists_read (free : record.fields.all fun field => !field.needed)
    (distinct : (entries.map Prod.fst).Nodup)
    (takes : ∀ field ∈ record.fields, ∀ v, (field.name, v) ∈ entries → Takes field v.toReading) :
    ∃ state, record.read (Value.table entries).toReading = .ok state := by
  obtain ⟨⟨state, given⟩, met⟩ :=
    exists_readMembers distinct takes [] (by simp) record.start
  exact ⟨state, read_object given met free⟩

/-- **What a part of the record is** once a table was read. -/
theorem Part.of_read (part : Part record name get read) (distinct : (entries.map Prod.fst).Nodup)
    {state : σ} (done : record.read (Value.table entries).toReading = .ok state) :
    (∀ v x, (name, v) ∈ entries → read v.toReading = .ok x → get state = x)
      ∧ (name ∉ entries.map Prod.fst → get state = get record.start) := by
  rw [Value.toReading, Record.read] at done
  cases met : record.readMembers [] record.start (Value.entriesToReading entries) with
  | error =>
    rw [met] at done
    cases done
  | ok result =>
    obtain ⟨last, given⟩ := result
    rw [met] at done
    have same : last = state := by
      change (if _ then Except.ok last else Except.error Problem.mismatch) = _ at done
      split at done
      · exact Except.ok.inj done
      · cases done
    exact same ▸ part.of_readMembers distinct met

end Record

end GuestSupervisor
