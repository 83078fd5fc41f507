import GuestSupervisor.Proofs.Settings.Records

/-!
# Settings that a document names

A document of settings names some of them, in whatever order and in tables of whatever spelling, and
may hold much else.  What it names has the value that it gives, and everything else has its default,
inside a section that is named in part as well as outside.  So the parts of the program that are made
from settings differ from what they would be without a document only where it names what feeds them.

## Main Definitions

* `Settings.Section`, `Settings.Field` — the sections and the settings in them.
* `Settings.Field.content?` — what a value of the right kind says about a setting.
* `Settings.WellTyped` — sections are tables, and settings have values of the right kind.
* `Settings.Derived` — what is made from settings, and which of them feed it.
* `Settings.Derived.made` — how it is made.

## Main Statements

* `Settings.exists_ofValue?` — a document of the right kinds is read, and what it is read as.
* `Settings.Derived.congr` — what is made from settings depends on those that feed it.
* `Settings.Derived.all_made` — its parts are all that is made.
* `Settings.ofToml?_overrides` — both, for documents.
-/

namespace GuestSupervisor

open Toml (Value)

/-! ## Places in a document -/

namespace Toml.Value

/-- What a table says for a key. -/
def child? : Value → String → Option Value
  | table entries, key => entries.lookup key
  | _, _ => none

/-- **What a document says at a path** of keys. -/
def at? : Value → List String → Option Value
  | v, [] => some v
  | v, key :: path => (v.child? key).bind fun inner => at? inner path

section

variable {v inner : Value} {key : String} {entries : List (String × Value)}

theorem child?_eq_none_iff :
    (table entries).child? key = none ↔ key ∉ entries.map Prod.fst := by
  rw [child?, List.lookup_eq_none_iff, List.mem_map, not_exists]
  refine ⟨fun absent entry ⟨member, same⟩ => ?_, fun absent entry member => ?_⟩
  · exact absurd (absent entry member) (by simp [same])
  · exact bne_iff_ne.mpr fun same => absent entry ⟨member, same.symm⟩

theorem mem_of_child? (found : (table entries).child? key = some inner) :
    (key, inner) ∈ entries := by
  obtain ⟨before, behind, rfl, -⟩ := List.lookup_eq_some_iff.mp found
  exact List.mem_append_right _ List.mem_cons_self

/-- If the keys are distinct, a table says for a key what the entry with it holds. -/
theorem child?_eq_some_iff (distinct : (entries.map Prod.fst).Nodup) :
    (table entries).child? key = some inner ↔ (key, inner) ∈ entries := by
  refine ⟨mem_of_child?, fun member => ?_⟩
  cases found : (table entries).child? key with
  | none => exact absurd (List.mem_map_of_mem member) (child?_eq_none_iff.mp found)
  | some other =>
    have same := List.inj_on_of_nodup_map distinct member (mem_of_child? found) rfl
    rw [(Prod.mk.inj same).2]

theorem Sound.child? (sound : v.Sound) (found : v.child? key = some inner) : inner.Sound := by
  cases sound with
  | table _ all => exact all _ (mem_of_child? found)
  | _ => cases found

/-- What a sound document says is sound. -/
theorem Sound.at? (sound : v.Sound) {path : List String} (found : v.at? path = some inner) :
    inner.Sound := by
  induction path generalizing v with
  | nil =>
    cases found
    exact sound
  | cons key path ih =>
    obtain ⟨next, first, later⟩ := Option.bind_eq_some_iff.mp found
    exact ih (sound.child? first) later

end

theorem at?_append (v : Value) (path more : List String) :
    v.at? (path ++ more) = (v.at? path).bind fun inner => inner.at? more := by
  induction path generalizing v with
  | nil => rfl
  | cons key path ih =>
    rw [List.cons_append, at?, at?, Option.bind_assoc]
    simp only [ih]

end Toml.Value

namespace Settings

/-! ## The settings one by one -/

/-- The sections of a document of settings, and the document. -/
inductive Section where
  | root
  | emulator
  | supervisor
  | restart
  | web
  | screenshot
  deriving DecidableEq, Repr

namespace Section

/-- All sections. -/
def all : List Section := [root, emulator, supervisor, restart, web, screenshot]

theorem mem_all (part : Section) : part ∈ all := by cases part <;> decide

/-- What a section holds. -/
def Content : Section → Type
  | root => Settings
  | emulator => EmulatorSettings
  | supervisor => SupervisorSettings
  | restart => RestartSettings
  | web => WebSettings
  | screenshot => ScreenshotSettings

/-- Where a section is in a document. -/
def path : Section → List String
  | root => []
  | emulator => ["emulator"]
  | supervisor => ["supervisor"]
  | restart => ["supervisor", "restart"]
  | web => ["web"]
  | screenshot => ["screenshot"]

/-- The section of some settings. -/
def get : (part : Section) → Settings → part.Content
  | root => id
  | emulator => Settings.emulator
  | supervisor => Settings.supervisor
  | restart => fun s => s.supervisor.restart
  | web => Settings.web
  | screenshot => Settings.screenshot

/-- How a section is read. -/
def record : (part : Section) → Record part.Content
  | root => Settings.record .toml
  | emulator => EmulatorSettings.record .toml
  | supervisor => SupervisorSettings.record .toml
  | restart => RestartSettings.record .toml
  | web => WebSettings.record .toml
  | screenshot => ScreenshotSettings.record .toml

/-- A section right inside another. -/
structure Inner (outer : Section) where
  name : String
  part : Section
  get : outer.Content → part.Content

/-- The sections right inside a section. -/
def inner : (part : Section) → List part.Inner
  | root =>
    [ ⟨"emulator", emulator, Settings.emulator⟩,
      ⟨"supervisor", supervisor, Settings.supervisor⟩,
      ⟨"web", web, Settings.web⟩,
      ⟨"screenshot", screenshot, Settings.screenshot⟩ ]
  | supervisor => [⟨"restart", restart, SupervisorSettings.restart⟩]
  | emulator | restart | web | screenshot => []

end Section

/-- The settings. -/
inductive Field where
  | binary
  | machine
  | audioBackend
  | monitorSocket
  | detectDisplay
  | launchTimeoutMs
  | quitTimeoutMs
  | commandTimeoutMs
  | policy
  | maxRestarts
  | backoffMs
  | bind
  | autostart
  | converter
  | waitMs
  deriving DecidableEq, Repr

namespace Field

/-- The section of a setting. -/
def home : Field → Section
  | binary | machine | audioBackend | monitorSocket | detectDisplay => .emulator
  | launchTimeoutMs | quitTimeoutMs | commandTimeoutMs => .supervisor
  | policy | maxRestarts | backoffMs => .restart
  | bind | autostart => .web
  | converter | waitMs => .screenshot

/-- The name of a setting in its section. -/
def name : Field → String
  | binary => "binary"
  | machine => "machine"
  | audioBackend => "audio_backend"
  | monitorSocket => "monitor_socket"
  | detectDisplay => "detect_display"
  | launchTimeoutMs => "launch_timeout_ms"
  | quitTimeoutMs => "quit_timeout_ms"
  | commandTimeoutMs => "command_timeout_ms"
  | policy => "policy"
  | maxRestarts => "max_restarts"
  | backoffMs => "backoff_ms"
  | bind => "bind"
  | autostart => "autostart"
  | converter => "converter"
  | waitMs => "wait_ms"

/-- Where a setting is in a document. -/
def path (field : Field) : List String := field.home.path ++ [field.name]

/-- What a setting is. -/
def Content : Field → Type
  | binary => OsPath
  | machine | audioBackend | bind => String
  | monitorSocket => Option OsPath
  | detectDisplay | autostart => Bool
  | launchTimeoutMs | quitTimeoutMs | commandTimeoutMs | backoffMs | waitMs => UInt64
  | policy => RestartKind
  | maxRestarts => UInt32
  | converter => List String

/-- A setting in its section. -/
def get : (field : Field) → field.home.Content → field.Content
  | binary => EmulatorSettings.binary
  | machine => EmulatorSettings.machine
  | audioBackend => EmulatorSettings.audioBackend
  | monitorSocket => EmulatorSettings.monitorSocket
  | detectDisplay => EmulatorSettings.detectDisplay
  | launchTimeoutMs => SupervisorSettings.launchTimeoutMs
  | quitTimeoutMs => SupervisorSettings.quitTimeoutMs
  | commandTimeoutMs => SupervisorSettings.commandTimeoutMs
  | policy => RestartSettings.policy
  | maxRestarts => RestartSettings.maxRestarts
  | backoffMs => RestartSettings.backoffMs
  | bind => WebSettings.bind
  | autostart => WebSettings.autostart
  | converter => ScreenshotSettings.converter
  | waitMs => ScreenshotSettings.waitMs

/-- **A setting among all.** -/
def of (field : Field) (s : Settings) : field.Content := field.get (field.home.get s)

/-- How a setting is read. -/
def read : (field : Field) → Reading → Except Problem field.Content
  | binary => Reading.asPath
  | machine | audioBackend | bind => Reading.asString
  | monitorSocket => Reading.asOptionalPath
  | detectDisplay | autostart => Reading.asBool
  | launchTimeoutMs | quitTimeoutMs | commandTimeoutMs | backoffMs | waitMs => Reading.asUInt64
  | policy => Reading.asWord SettingsFormat.toml.isNothing RestartKind.ofWord?
  | maxRestarts => Reading.asUInt32
  | converter => Reading.asStrings

/-- All settings. -/
def all : List Field :=
  [ binary, machine, audioBackend, monitorSocket, detectDisplay, launchTimeoutMs, quitTimeoutMs,
    commandTimeoutMs, policy, maxRestarts, backoffMs, bind, autostart, converter, waitMs ]

theorem mem_all (field : Field) : field ∈ all := by cases field <;> decide

end Field

/-- The settings right in a section. -/
def Section.fields (part : Section) : List Field := Field.all.filter (·.home = part)

/-- A section knows the names of its settings and of the sections in it. -/
theorem Section.names (part : Section) :
    part.record.fields.map (·.name)
      = part.fields.map Field.name ++ part.inner.map Inner.name := by
  cases part <;> rfl

/-- A section of which nothing is said is as in no document. -/
theorem Section.read_nothing (part : Section) :
    part.record.read (Value.table []).toReading = .ok part.record.start := by
  cases part <;> rfl

theorem Section.all_free (part : Section) : part.record.fields.all fun field => !field.needed := by
  cases part <;> rfl

/-! ## Values of the right kind -/

/-- The text of a string. -/
def text? : Value → Option String
  | .string text => some text
  | _ => none

/-- A boolean. -/
def truth? : Value → Option Bool
  | .boolean b => some b
  | _ => none

/-- An integer from zero up to a bound. -/
def count? (bound : Nat) : Value → Option Nat
  | .integer (.ofNat n) => if n < bound then some n else none
  | _ => none

/-- The texts in a list of strings. -/
def texts? : Value → Option (List String)
  | .array items => items.mapM text?
  | _ => none

/-- What to do when an instance crashes: a word, or a table with the word alone and nothing in
it. -/
def kind? : Value → Option RestartKind
  | .string word => RestartKind.ofWord? word
  | .table [(word, .table [])] => RestartKind.ofWord? word
  | .table [(word, .array [])] => RestartKind.ofWord? word
  | _ => none

/-- **What a value of the right kind says about a setting.** -/
def Field.content? : (field : Field) → Value → Option field.Content
  | binary => fun v => (text? v).map .text
  | machine | audioBackend | bind => text?
  | monitorSocket => fun v => (text? v).map fun path => some (.text path)
  | detectDisplay | autostart => truth?
  | launchTimeoutMs | quitTimeoutMs | commandTimeoutMs | backoffMs | waitMs =>
    fun v => (count? UInt64.size v).map UInt64.ofNat
  | policy => kind?
  | maxRestarts => fun v => (count? UInt32.size v).map UInt32.ofNat
  | converter => texts?

/-- **A document of the right kinds**: the sections that it names are tables, and the settings that
it names have values of their kind. -/
structure WellTyped (v : Value) : Prop where
  sections : ∀ part : Section, (v.at? part.path).all Value.isTable
  contents : ∀ field : Field, (v.at? field.path).all fun given => (field.content? given).isSome

theorem asString_of_text? {v : Value} {x : String} (told : text? v = some x) :
    v.toReading.asString = .ok x := by
  cases v <;> cases told
  rfl

theorem asBool_of_truth? {v : Value} {x : Bool} (told : truth? v = some x) :
    v.toReading.asBool = .ok x := by
  cases v <;> cases told
  rfl

theorem count?_eq_some {bound n : Nat} {v : Value} (told : count? bound v = some n) :
    v.toReading = .integer n ∧ n < bound := by
  unfold count? at told
  split at told
  · split at told
    · rename_i small
      cases told
      exact ⟨rfl, small⟩
    · cases told
  · cases told

theorem asStrings_of_texts? {v : Value} {x : List String} (told : texts? v = some x) :
    v.toReading.asStrings = .ok x := by
  cases v with
  | array items =>
    have all : (Value.itemsToReading items).mapM Reading.asString = .ok x := by
      induction items generalizing x with
      | nil =>
        cases told
        rfl
      | cons item items ih =>
        simp only [texts?, List.mapM_cons, Option.bind_eq_bind, Option.bind_eq_some_iff] at told
        obtain ⟨first, text, others, texts, same⟩ := told
        cases same
        rw [Value.itemsToReading, List.mapM_cons, asString_of_text? text, ih texts]
        rfl
    rw [Value.toReading, Reading.asStrings, all]
    rfl
  | _ => cases told

theorem asWord_of_kind? {v : Value} {x : RestartKind} (told : kind? v = some x) :
    v.toReading.asWord SettingsFormat.toml.isNothing RestartKind.ofWord? = .ok x := by
  unfold kind? at told
  split at told
  · simp only [Value.toReading, Reading.asWord, Reading.asString, bind, Except.bind, told]
  · simp only [Value.toReading, Value.entriesToReading, Reading.asWord, told]
    rfl
  · simp only [Value.toReading, Value.entriesToReading, Value.itemsToReading, Reading.asWord, told]
    rfl
  · cases told

/-- A value of the right kind is read as what it says. -/
theorem Field.read_of_content? {field : Field} {v : Value} {x : field.Content}
    (told : field.content? v = some x) : field.read v.toReading = .ok x := by
  cases field with
  | machine | audioBackend | bind => exact asString_of_text? told
  | binary | monitorSocket =>
    obtain ⟨text, same, rfl⟩ := Option.map_eq_some_iff.mp told
    cases v <;> cases same
    rfl
  | detectDisplay | autostart => exact asBool_of_truth? told
  | launchTimeoutMs | quitTimeoutMs | commandTimeoutMs | maxRestarts | backoffMs | waitMs =>
    obtain ⟨n, same, rfl⟩ := Option.map_eq_some_iff.mp told
    obtain ⟨integer, small⟩ := count?_eq_some same
    rw [integer]
    exact if_pos small
  | policy => exact asWord_of_kind? told
  | converter => exact asStrings_of_texts? told

instance (v : Value) : Decidable (WellTyped v) :=
  decidable_of_iff
    ((∀ part ∈ Section.all, (v.at? part.path).all Value.isTable)
      ∧ ∀ field ∈ Field.all, (v.at? field.path).all fun given => (field.content? given).isSome)
    ⟨fun ⟨sections, contents⟩ =>
        ⟨fun part => sections part part.mem_all, fun field => contents field field.mem_all⟩,
      fun typed => ⟨fun part _ => typed.sections part, fun field _ => typed.contents field⟩⟩

theorem Field.exists_content (field : Field) {v given : Value} (typed : WellTyped v)
    (found : v.at? field.path = some given) : ∃ x, field.content? given = some x := by
  have kind := typed.contents field
  rw [found] at kind
  exact Option.isSome_iff_exists.mp kind

/-! ## The parts of records -/

/-- **Each setting is a part of its section.** -/
theorem Field.part (field : Field) :
    Record.Part field.home.record field.name field.get field.read := by
  cases field
  all_goals
    refine .of_fields (by decide) ?_
    repeat' first
      | exact List.forall_mem_nil _
      | refine List.forall_mem_cons.mpr ⟨?_, ?_⟩
  -- Of the fields of the section one has the name, and the others leave the setting as it is.
  all_goals first
    | exact .inl ⟨rfl, Record.puts_field _ fun _ _ => rfl⟩
    | exact .inr ⟨by decide, Record.leaves_field _ fun _ _ => rfl⟩

/-- **Each section is a part of the one around it.** -/
theorem Section.part_of_mem_inner (outer : Section) : ∀ own ∈ outer.inner,
    Record.Part outer.record own.name own.get own.part.record.read
      ∧ own.part.path = outer.path ++ [own.name]
      ∧ (∀ s, own.get (outer.get s) = own.part.get s)
      ∧ own.get outer.record.start = own.part.record.start := by
  cases outer
  all_goals
    repeat' first
      | exact List.forall_mem_nil _
      | refine List.forall_mem_cons.mpr ⟨?_, ?_⟩
  all_goals
    refine ⟨.of_fields (by decide) ?_, rfl, fun _ => rfl, rfl⟩
    repeat' first
      | exact List.forall_mem_nil _
      | refine List.forall_mem_cons.mpr ⟨?_, ?_⟩
  all_goals first
    | exact .inl ⟨rfl, Record.puts_field _ fun _ _ => rfl⟩
    | exact .inr ⟨by decide, Record.leaves_field _ fun _ _ => rfl⟩

/-! ## Tables of sections -/

/-- The table of a section, which is empty where a document does not name it. -/
def Section.table (part : Section) (v : Value) : Value := (v.at? part.path).getD (.table [])

theorem Section.child?_table (part : Section) (v : Value) (key : String) :
    (part.table v).child? key = v.at? (part.path ++ [key]) := by
  rw [table, Value.at?_append]
  cases v.at? part.path with
  | none => rfl
  | some inner => exact (Option.bind_fun_some _).symm

variable {v : Value}

theorem Section.exists_table (part : Section) (typed : WellTyped v) (sound : v.Sound) :
    ∃ entries, part.table v = .table entries ∧ (entries.map Prod.fst).Nodup := by
  have shape := typed.sections part
  rw [table]
  cases found : v.at? part.path with
  | none => exact ⟨[], rfl, List.nodup_nil⟩
  | some inner =>
    rw [found] at shape
    cases inner with
    | table entries =>
      cases sound.at? found with
      | table distinct => exact ⟨entries, rfl, distinct⟩
    | _ => cases shape

/-- What a section is read as. -/
def Section.IsReadAs (part : Section) (v : Value) (x : part.Content) : Prop :=
  part.record.read (part.table v).toReading = .ok x

/-- **A setting in a section that was read** is what the document says, or is as in no document. -/
theorem Field.of_isReadAs (field : Field) (typed : WellTyped v) (sound : v.Sound)
    {x : field.home.Content} (done : field.home.IsReadAs v x) :
    (∀ given, v.at? field.path = some given → field.content? given = some (field.get x))
      ∧ (v.at? field.path = none → field.get x = field.get field.home.record.start) := by
  obtain ⟨entries, shape, distinct⟩ := field.home.exists_table typed sound
  have entry := field.home.child?_table v field.name
  rw [Section.IsReadAs, shape] at done
  rw [shape] at entry
  obtain ⟨named, unnamed⟩ := field.part.of_read distinct done
  refine ⟨fun given found => ?_, fun absent => unnamed ?_⟩
  · obtain ⟨content, told⟩ := field.exists_content typed found
    rw [told, named given content _ (field.read_of_content? told)]
    exact (Value.child?_eq_some_iff distinct).mp (entry.trans found)
  · exact Value.child?_eq_none_iff.mp (entry.trans absent)

/-- The sections in a section that was read are what they are read as. -/
theorem Section.of_isReadAs {outer : Section} (typed : WellTyped v) (sound : v.Sound)
    {x : outer.Content} (done : outer.IsReadAs v x) {own : outer.Inner} (among : own ∈ outer.inner)
    {y : own.part.Content} (inside : own.part.IsReadAs v y) : own.get x = y := by
  obtain ⟨part, place, -, start⟩ := outer.part_of_mem_inner own among
  obtain ⟨entries, shape, distinct⟩ := outer.exists_table typed sound
  have entry := outer.child?_table v own.name
  rw [IsReadAs, shape] at done
  rw [shape, ← place] at entry
  obtain ⟨named, unnamed⟩ := part.of_read distinct done
  cases found : v.at? own.part.path with
  | none =>
    have empty : own.part.table v = .table [] := by rw [table, found, Option.getD_none]
    rw [IsReadAs, empty, own.part.read_nothing] at inside
    rw [unnamed (Value.child?_eq_none_iff.mp (entry.trans found)), start]
    exact Except.ok.inj inside
  | some given =>
    have whole : own.part.table v = given := by rw [table, found, Option.getD_some]
    rw [IsReadAs, whole] at inside
    exact named given y ((Value.child?_eq_some_iff distinct).mp (entry.trans found)) inside

/-- **A section is read** if those in it are. -/
theorem Section.exists_isReadAs_of_inner (part : Section) (typed : WellTyped v) (sound : v.Sound)
    (inner : ∀ own ∈ part.inner, ∃ y, own.part.IsReadAs v y) : ∃ x, part.IsReadAs v x := by
  obtain ⟨entries, shape, distinct⟩ := part.exists_table typed sound
  have entry := part.child?_table v
  rw [shape] at entry
  simp only [IsReadAs, shape]
  refine Record.exists_read part.all_free distinct fun f member given inside => ?_
  have found := (entry f.name).symm.trans ((Value.child?_eq_some_iff distinct).mpr inside)
  have known : f.name ∈ part.record.fields.map (·.name) := List.mem_map_of_mem member
  rw [part.names, List.mem_append, List.mem_map, List.mem_map] at known
  rcases known with ⟨field, among, same⟩ | ⟨own, among, same⟩
  · obtain rfl : field.home = part := by simpa using (List.mem_filter.mp among).2
    obtain ⟨content, told⟩ := field.exists_content typed (same ▸ found)
    exact field.part.takes member same.symm (field.read_of_content? told)
  · obtain ⟨own_part, place, -⟩ := part.part_of_mem_inner own among
    obtain ⟨y, read⟩ := inner own among
    have whole : own.part.table v = given := by rw [table, place, same, found, Option.getD_some]
    rw [IsReadAs, whole] at read
    exact own_part.takes member same.symm read

/-- **In a document of the right kinds every section is read.** -/
theorem Section.exists_isReadAs (part : Section) (typed : WellTyped v) (sound : v.Sound) :
    ∃ x, part.IsReadAs v x := by
  have leaf (part : Section) (alone : part.inner = []) : ∃ x, part.IsReadAs v x :=
    part.exists_isReadAs_of_inner typed sound (alone ▸ List.forall_mem_nil _)
  have supervisor : ∃ x, Section.supervisor.IsReadAs v x :=
    Section.supervisor.exists_isReadAs_of_inner typed sound
      (List.forall_mem_singleton.mpr (leaf .restart rfl))
  cases part with
  | root =>
    refine Section.root.exists_isReadAs_of_inner typed sound ?_
    simp only [inner, List.forall_mem_cons]
    exact ⟨leaf _ rfl, supervisor, leaf _ rfl, leaf _ rfl, List.forall_mem_nil _⟩
  | supervisor => exact supervisor
  | emulator | restart | web | screenshot => exact leaf _ rfl

/-- The sections of settings that a document is read as. -/
theorem Section.isReadAs_get (typed : WellTyped v) (sound : v.Sound) {s : Settings}
    (done : Section.root.IsReadAs v s) (part : Section) : part.IsReadAs v (part.get s) := by
  have below (outer : Section) (done : outer.IsReadAs v (outer.get s)) :
      ∀ own ∈ outer.inner, own.part.IsReadAs v (own.part.get s) := by
    intro own among
    obtain ⟨-, -, get, -⟩ := outer.part_of_mem_inner own among
    obtain ⟨y, read⟩ := own.part.exists_isReadAs typed sound
    rwa [← get, of_isReadAs typed sound done among read]
  have sections := below .root done
  simp only [inner, List.forall_mem_cons] at sections
  obtain ⟨emulator, supervisor, web, screenshot, -⟩ := sections
  have restart := below .supervisor supervisor _ List.mem_cons_self
  cases part with
  | root => exact done
  | emulator => exact emulator
  | supervisor => exact supervisor
  | restart => exact restart
  | web => exact web
  | screenshot => exact screenshot

/-- **A document of the right kinds is read**, and so are all of its sections. -/
theorem exists_ofValue? (typed : WellTyped v) (sound : v.Sound) :
    ∃ s, ofValue? v = some s ∧ ∀ part : Section, part.IsReadAs v (part.get s) := by
  obtain ⟨s, done⟩ := Section.root.exists_isReadAs typed sound
  refine ⟨s, ?_, Section.isReadAs_get typed sound done⟩
  exact congrArg Except.toOption done

/-! ## What is made from settings -/

/-- The parts of what is made from settings. -/
inductive Derived where
  | launchTimeout
  | quitTimeout
  | commandTimeout
  | endpoint
  | restartPolicy
  | emulator
  | machine
  | monitorSocket
  | diskDirectory
  | isoDirectory
  | audioBackend
  deriving DecidableEq, Repr

namespace Derived

/-- What a part is. -/
def Content : Derived → Type
  | launchTimeout | quitTimeout | commandTimeout => Text.Milliseconds
  | restartPolicy => RestartPolicy
  | endpoint | emulator | machine | monitorSocket | diskDirectory | isoDirectory
  | audioBackend => String

/-- A part of the bounds for the supervisor, of what is done after a crash or of the fixed parts of
commands. -/
def of : (part : Derived) → Settings → Layout → part.Content
  | launchTimeout => fun s l => (s.supervisorOptions l).launchTimeout
  | quitTimeout => fun s l => (s.supervisorOptions l).quitTimeout
  | commandTimeout => fun s l => (s.supervisorOptions l).commandTimeout
  | endpoint => fun s l => (s.supervisorOptions l).monitorSocket
  | restartPolicy => fun s _ => s.restartPolicy
  | emulator => fun s l => (s.commandBuilder l).emulator
  | machine => fun s l => (s.commandBuilder l).machine
  | monitorSocket => fun s l => (s.commandBuilder l).monitorSocket
  | diskDirectory => fun s l => (s.commandBuilder l).diskDirectory
  | isoDirectory => fun s l => (s.commandBuilder l).isoDirectory
  | audioBackend => fun s l => (s.commandBuilder l).audioBackend

/-- The settings that a part is made from. -/
def fedBy : Derived → List Field
  | launchTimeout => [.launchTimeoutMs]
  | quitTimeout => [.quitTimeoutMs]
  | commandTimeout => [.commandTimeoutMs]
  | endpoint | monitorSocket => [.monitorSocket]
  | restartPolicy => [.policy, .maxRestarts, .backoffMs]
  | emulator => [.binary]
  | machine => [.machine]
  | diskDirectory | isoDirectory => []
  | audioBackend => [.audioBackend]

/-- **How a part is made** from what the settings hold. -/
def made (content : (field : Field) → field.Content) (layout : Layout) :
    (part : Derived) → part.Content
  | launchTimeout => Text.Milliseconds.mk (content .launchTimeoutMs)
  | quitTimeout => Text.Milliseconds.mk (content .quitTimeoutMs)
  | commandTimeout => Text.Milliseconds.mk (content .commandTimeoutMs)
  | endpoint | monitorSocket =>
    (Option.map OsPath.shown (content .monitorSocket)).getD layout.monitorSocket
  | restartPolicy =>
    match (content .policy : RestartKind) with
    | .never => RestartPolicy.never
    | .onCrash =>
      RestartPolicy.onCrash (content .maxRestarts) (Text.Milliseconds.mk (content .backoffMs))
  | emulator => OsPath.shown (content .binary)
  | machine => content .machine
  | diskDirectory => layout.disk
  | isoDirectory => layout.iso
  | audioBackend => content .audioBackend

variable {s s' : Settings}

theorem of_eq_made (part : Derived) (s : Settings) (layout : Layout) :
    part.of s layout = part.made (fun field => field.of s) layout := by
  cases part <;> rfl

/-- **A part is made from the settings that feed it**, and from nothing else in them. -/
theorem congr (part : Derived) (same : ∀ field ∈ part.fedBy, field.of s = field.of s')
    (layout : Layout) : part.of s layout = part.of s' layout := by
  rw [of_eq_made, of_eq_made]
  cases part with
  | launchTimeout | quitTimeout | commandTimeout =>
    exact congrArg Text.Milliseconds.mk (same _ List.mem_cons_self)
  | endpoint | monitorSocket =>
    exact congrArg (fun socket : Option OsPath => (socket.map OsPath.shown).getD _)
      (same .monitorSocket List.mem_cons_self)
  | restartPolicy =>
    have policy := same .policy (by decide)
    have maxRestarts := same .maxRestarts (by decide)
    have backoffMs := same .backoffMs (by decide)
    simp only [made, policy, maxRestarts, backoffMs]
  | emulator => exact congrArg OsPath.shown (same .binary List.mem_cons_self)
  | machine | audioBackend => exact same _ List.mem_cons_self
  | diskDirectory | isoDirectory => rfl

/-- The parts are all that is made. -/
theorem all_made {layout : Layout} (same : ∀ part : Derived, part.of s layout = part.of s' layout) :
    s.supervisorOptions layout = s'.supervisorOptions layout ∧ s.restartPolicy = s'.restartPolicy
      ∧ s.commandBuilder layout = s'.commandBuilder layout := by
  refine ⟨?_, same .restartPolicy, ?_⟩
  · simp only [supervisorOptions, SupervisorOptions.mk.injEq]
    exact ⟨same .launchTimeout, same .quitTimeout, same .commandTimeout, same .endpoint⟩
  · simp only [commandBuilder, CommandBuilder.mk.injEq]
    exact ⟨same .emulator, same .machine, same .monitorSocket, trivial, trivial,
      same .audioBackend⟩

end Derived

/-! ## Documents -/

/-- **What a document says about a setting**: what it names has the value that it gives, and all else
its default. -/
def Field.said (field : Field) (v : Value) : field.Content :=
  ((v.at? field.path).bind field.content?).getD (field.of {})

/-- **A document overrides what it names.**  If what it names has the right kinds, it is read.  Then
each setting that it names is what it says, each other setting, in whatever section, has its default,
and what is made from the settings is made from these.  Of it only that differs from what an empty
document makes which is fed by a setting with a name in it. -/
theorem ofToml?_overrides {text : String} (document : Toml.read? text.toList = some v)
    (typed : WellTyped v) : ∃ s, ofToml? text = some s
      ∧ (∀ (field : Field) given, v.at? field.path = some given →
          field.content? given = some (field.of s))
      ∧ (∀ field : Field, v.at? field.path = none → field.of s = field.of {})
      ∧ ofToml? "" = some {}
      ∧ (∀ (part : Derived) layout,
          part.of s layout = part.made (fun field => field.said v) layout)
      ∧ ∀ (part : Derived) layout, part.of s layout ≠ part.of {} layout →
          ∃ field ∈ part.fedBy, (v.at? field.path).isSome := by
  obtain ⟨s, read, sections⟩ := exists_ofValue? typed (Toml.sound_of_read? document)
  have settings (field : Field) :=
    field.of_isReadAs typed (Toml.sound_of_read? document) (sections field.home)
  have unnamed (field : Field) (absent : v.at? field.path = none) : field.of s = field.of {} := by
    have start : field.get field.home.record.start = field.of {} := by cases field <;> rfl
    exact ((settings field).2 absent).trans start
  have said : (fun field => field.said v) = fun field : Field => field.of s := by
    funext field
    cases found : v.at? field.path with
    | none => rw [Field.said, found, unnamed field found, Option.bind_none, Option.getD_none]
    | some given =>
      rw [Field.said, found, Option.bind_some, (settings field).1 given found]
      rfl
  refine ⟨s, ?_, fun field => (settings field).1, unnamed, rfl, fun part layout => ?_,
    fun part layout differs => ?_⟩
  · rw [ofToml?, document]
    exact read
  · rw [said, part.of_eq_made]
  · by_contra silent
    refine differs (part.congr (fun field feeds => unnamed field ?_) layout)
    exact Option.not_isSome_iff_eq_none.mp fun named => silent ⟨field, feeds, named⟩

/-- A document with some of the settings in tables of several spellings, and with other names. -/
def mixedText : String :=
  "web.autostart = true\nscreenshot = { size = 2, wait_ms = 5 }\n[supervisor.restart]\n"
    ++ "policy = \"on_crash\"\n[other]\npolicy = 1\n[supervisor]\nquit_timeout_ms = 2500\n"

/-- In it the section about restarts keeps its other defaults, and so does the one around it. -/
theorem ofToml?_overrides_mixed : ∃ v s, Toml.read? mixedText.toList = some v ∧ WellTyped v
    ∧ ofToml? mixedText = some s ∧ s.supervisor.quitTimeoutMs = 2500
    ∧ s.supervisor.launchTimeoutMs = 10000 ∧ s.restartPolicy = .onCrash 3 ⟨2000⟩ := by
  have known : (Toml.read? mixedText.toList).any fun v => WellTyped v
      ∧ (v.at? Field.policy.path).bind kind? = some .onCrash
      ∧ ((v.at? Field.quitTimeoutMs.path).bind fun given =>
          (count? UInt64.size given).map UInt64.ofNat) = some 2500
      ∧ ∀ field ∈ [Field.maxRestarts, .backoffMs, .launchTimeoutMs],
          (v.at? field.path).isNone := by
    decide +kernel
  obtain ⟨v, document, holds⟩ := (Option.any_eq_true _ _).mp known
  obtain ⟨typed, policy, quitTimeoutMs, silent⟩ := of_decide_eq_true holds
  obtain ⟨s, read, named, unnamed, -⟩ := ofToml?_overrides document typed
  have told (field : Field) {x : field.Content}
      (content : (v.at? field.path).bind field.content? = some x) : field.of s = x := by
    obtain ⟨given, found, same⟩ := Option.bind_eq_some_iff.mp content
    exact Option.some.inj ((named field given found).symm.trans same)
  have usual (field : Field) (listed : field ∈ [Field.maxRestarts, .backoffMs, .launchTimeoutMs]) :
      field.of s = field.of {} := unnamed field (Option.isNone_iff_eq_none.mp (silent field listed))
  have kind : s.supervisor.restart.policy = .onCrash := told .policy policy
  have maxRestarts : s.supervisor.restart.maxRestarts = 3 := usual .maxRestarts (by decide)
  have backoffMs : s.supervisor.restart.backoffMs = 2000 := usual .backoffMs (by decide)
  refine ⟨v, s, document, typed, read, told .quitTimeoutMs quitTimeoutMs,
    usual .launchTimeoutMs (by decide), ?_⟩
  rw [restartPolicy, kind, maxRestarts, backoffMs]

end Settings

end GuestSupervisor
