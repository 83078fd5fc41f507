import GuestSupervisor.Proofs.Configuration.Language

/-!
# What the lines of a file give

A line of a file that assigns something gives a key a value, or is reported, or does nothing.
Reading goes through the lines once and remembers nothing but the configuration so far.  So each
key has the value that the last line with one gave it, whatever the other lines are, and the reports
are in the order of the lines.

## Main Definitions

* `Assigns` — the name and the value on a line.
* `Gives` — a line gives a key a value.
* `Complains` — a line is reported.
* `IsIdle` — the lines that do neither.
* `LastGiven` — the value that the last line with one gives a key.
* `Reported` — the reports for some lines.
* `Loaded.takeLine` — reading one line.

## Main Statements

* `Loaded.takeLine_cases` — what one line changes.
* `LastGiven.unique`, `Reported.unique` — lines amount to one thing.
* `Loaded.lastGiven_foldl`, `Loaded.reported_foldl` — what all lines change.
* `Loaded.lastGiven_ofString` — what is read from a text.
-/

namespace GuestSupervisor

open Text

namespace Configuration

variable {line : List Char} {before : List (List Char)} {name other value value' : String}
  {key key' : Key} {e : ConfigurationError}

/-! ## Assignments on lines -/

/-- **The name and the value on a line**: what is before and behind the first `=`, each without the
blanks around it, unless the line is a comment. -/
def Assigns (line : List Char) (name value : String) : Prop :=
  ∃ before behind, trim line = before ++ '=' :: behind ∧ '=' ∉ before ∧
    (trim line).head? ≠ some '#' ∧ name.toList = trim before ∧ value.toList = trim behind

theorem ofLine?_eq_some_iff :
    Entry.ofLine? line = some ⟨name, value⟩ ↔ Assigns line name value := by
  unfold Entry.ofLine?
  constructor
  · intro read
    dsimp only at read
    split at read
    · cases read
    · obtain ⟨⟨before, behind⟩, cut, same⟩ := Option.map_eq_some_iff.mp read
      obtain ⟨whole, uncut⟩ := splitOnce_eq_some_iff.mp cut
      obtain ⟨rfl, rfl⟩ := Entry.mk.inj same
      exact ⟨before, behind, whole, uncut, ‹_›, String.toList_ofList, String.toList_ofList⟩
  · rintro ⟨before, behind, whole, uncut, noComment, named, valued⟩
    have entry : (⟨String.ofList (trim before), String.ofList (trim behind)⟩ : Entry)
        = ⟨name, value⟩ := by
      rw [← named, ← valued, String.ofList_toList, String.ofList_toList]
    rw [if_neg noComment, whole, splitOnce_append uncut, Option.map_some]
    exact congrArg some entry

/-- A line assigns one value to one name at most. -/
theorem Assigns.unique (first : Assigns line name value) (second : Assigns line other value') :
    other = name ∧ value' = value := by
  rw [← ofLine?_eq_some_iff] at first second
  exact Entry.mk.inj (Option.some.inj (second.symm.trans first))

/-- What is assigned stands on the line. -/
theorem Assigns.mem_of_mem_value (assigns : Assigns line name value) {c : Char}
    (member : c ∈ value.toList) : c ∈ line := by
  obtain ⟨before, behind, whole, -, -, -, valued⟩ := assigns
  refine mem_of_mem_trim ?_
  rw [valued] at member
  rw [whole]
  simp [mem_of_mem_trim member]

/-- **A line gives a key a value**: it assigns a value on one line that denotes it. -/
def Gives (line : List Char) (key : Key) (v : key.Value) : Prop :=
  ∃ value, Assigns line key.name value ∧ '\r' ∉ value.toList ∧ key.Denotes value v

/-- **A line is reported**: what it assigns holds a carriage return, or it is assigned to a key for
which it denotes nothing. -/
def Complains (line : List Char) (e : ConfigurationError) : Prop :=
  ∃ name value, Assigns line name value ∧
    ('\r' ∈ value.toList ∨ ∃ key : Key, key.name = name ∧ ∀ v, ¬key.Denotes value v) ∧
    e = .invalidValue name value

/-- A line is reported in one way. -/
theorem Complains.unique {e' : ConfigurationError} (first : Complains line e)
    (second : Complains line e') : e = e' := by
  obtain ⟨name, value, assigns, -, rfl⟩ := first
  obtain ⟨name', value', assigns', -, rfl⟩ := second
  obtain ⟨rfl, rfl⟩ := assigns.unique assigns'
  rfl

theorem Gives.key_eq {v : key.Value} {w : key'.Value} (first : Gives line key v)
    (second : Gives line key' w) : key' = key := by
  obtain ⟨value, assigns, -, -⟩ := first
  obtain ⟨value', assigns', -, -⟩ := second
  exact Key.name_inj (assigns.unique assigns').1

theorem Gives.unique {v w : key.Value} (first : Gives line key v) (second : Gives line key w) :
    v = w := by
  obtain ⟨value, assigns, -, denotes⟩ := first
  obtain ⟨value', assigns', -, denotes'⟩ := second
  obtain ⟨-, rfl⟩ := assigns.unique assigns'
  exact denotes.unique denotes'

/-- A line that gives a value is not reported. -/
theorem Gives.not_complains {v : key.Value} (gives : Gives line key v) : ¬Complains line e := by
  rintro ⟨name, value, assigns, reason, -⟩
  obtain ⟨value', assigns', whole, denotes⟩ := gives
  obtain ⟨rfl, rfl⟩ := assigns.unique assigns'
  rcases reason with broken | ⟨key', named, nothing⟩
  · exact whole broken
  · obtain rfl := Key.name_inj named
    exact nothing v denotes

/-- **The lines that give nothing and are not reported**: blanks, comments, lines that assign
nothing, and lines that assign something on one line to a name that no key has. -/
inductive IsIdle (line : List Char) : Prop
  | blank (empty : ∀ c ∈ line, isBlank c)
  | comment (mark : (trim line).head? = some '#')
  | unassigned (absent : '=' ∉ line)
  | unknown {name value : String} (assigns : Assigns line name value) (whole : '\r' ∉ value.toList)
      (stranger : ∀ key : Key, key.name ≠ name)

/-- What an idle line assigns is on one line, and no key has the name. -/
theorem IsIdle.of_assigns (idle : IsIdle line) (assigns : Assigns line name value) :
    '\r' ∉ value.toList ∧ ∀ key : Key, key.name ≠ name := by
  have ⟨before, behind, whole, _, noComment, _, _⟩ := assigns
  have member : '=' ∈ line := mem_of_mem_trim (by simp [whole])
  cases idle with
  | blank empty => exact absurd (empty '=' member) (by decide)
  | comment mark => exact absurd mark noComment
  | unassigned absent => exact absurd member absent
  | unknown assigns' whole stranger =>
    obtain ⟨rfl, rfl⟩ := assigns'.unique assigns
    exact ⟨whole, stranger⟩

theorem IsIdle.not_gives (idle : IsIdle line) {v : key.Value} : ¬Gives line key v := by
  rintro ⟨value, assigns, -, -⟩
  exact (idle.of_assigns assigns).2 key rfl

theorem IsIdle.not_complains (idle : IsIdle line) : ¬Complains line e := by
  rintro ⟨name, value, assigns, broken | ⟨key, named, -⟩, -⟩
  · exact (idle.of_assigns assigns).1 broken
  · exact (idle.of_assigns assigns).2 key named

/-! ## All lines -/

/-- **The value that the last line with one gives a key**, or the one of a new guest if no line
gives it any. -/
def LastGiven (lines : List (List Char)) (key : Key) (v : key.Value) : Prop :=
  (∃ before line behind, lines = before ++ line :: behind ∧ Gives line key v ∧
      ∀ later ∈ behind, ∀ w, ¬Gives later key w) ∨
    (∀ line ∈ lines, ∀ w, ¬Gives line key w) ∧ v = ({} : Configuration).get key

theorem LastGiven.concat {v : key.Value} (gives : Gives line key v) :
    LastGiven (before ++ [line]) key v :=
  .inl ⟨before, line, [], rfl, gives, by simp⟩

/-- A line without a value for the key leaves the last one standing. -/
theorem LastGiven.concat_of_not_gives {v : key.Value} (last : LastGiven before key v)
    (nothing : ∀ w, ¬Gives line key w) : LastGiven (before ++ [line]) key v := by
  rcases last with ⟨first, line', behind, rfl, gives, later⟩ | ⟨none, new⟩
  · refine .inl ⟨first, line', behind ++ [line], by simp, gives, fun next member => ?_⟩
    rcases List.mem_append.mp member with inner | last
    · exact later next inner
    · rw [List.mem_singleton.mp last]
      exact nothing
  · refine .inr ⟨fun next member => ?_, new⟩
    rcases List.mem_append.mp member with inner | last
    · exact none next inner
    · rw [List.mem_singleton.mp last]
      exact nothing

/-- What the last line gives is one value. -/
theorem LastGiven.unique {lines : List (List Char)} {v w : key.Value}
    (first : LastGiven lines key v) (second : LastGiven lines key w) : v = w := by
  rcases first with ⟨before, line, behind, rfl, gives, later⟩ | ⟨none, rfl⟩
  · rcases second with ⟨before', line', behind', same, gives', later'⟩ | ⟨none', -⟩
    · -- If one of the two lines stood behind the other, it would have given nothing.
      rcases List.append_eq_append_iff.mp same with
        ⟨_ | ⟨_, between⟩, -, rest⟩ | ⟨_ | ⟨_, between⟩, -, rest⟩
      · obtain ⟨rfl, -⟩ := List.cons.inj rest
        exact gives.unique gives'
      · obtain ⟨-, rfl⟩ := List.cons.inj rest
        exact absurd gives' (later line' (by simp) w)
      · obtain ⟨rfl, -⟩ := List.cons.inj rest
        exact gives.unique gives'
      · obtain ⟨-, rfl⟩ := List.cons.inj rest
        exact absurd gives (later' line (by simp) v)
    · exact absurd gives (none' line (by simp) v)
  · rcases second with ⟨before', line', behind', rfl, gives', -⟩ | ⟨-, rfl⟩
    · exact absurd gives' (none line' (by simp) w)
    · rfl

/-- **The reports for some lines**: one for each line that is reported, in order. -/
inductive Reported : List (List Char) → List ConfigurationError → Prop
  | nil : Reported [] []
  | report {line e lines errors} (complains : Complains line e) (rest : Reported lines errors) :
      Reported (line :: lines) (e :: errors)
  | pass {line lines errors} (silent : ∀ e, ¬Complains line e) (rest : Reported lines errors) :
      Reported (line :: lines) errors

/-- Lines are reported in one way. -/
theorem Reported.unique {lines : List (List Char)} {errors errors' : List ConfigurationError}
    (first : Reported lines errors) (second : Reported lines errors') : errors = errors' := by
  induction first generalizing errors' with
  | nil =>
    cases second
    rfl
  | report complains _ ih =>
    cases second with
    | report complains' rest' => rw [complains.unique complains', ih rest']
    | pass silent _ => exact absurd complains (silent _)
  | pass silent _ ih =>
    cases second with
    | report complains' _ => exact absurd complains' (silent _)
    | pass _ rest' => exact ih rest'

namespace Loaded

variable {loaded : Loaded} {lines : List (List Char)}

/-- **Reading one line.** -/
def takeLine (loaded : Loaded) (line : List Char) : Loaded :=
  match Entry.ofLine? line with
  | some entry => loaded.take entry
  | none => loaded

theorem foldl_take (lines : List (List Char)) (loaded : Loaded) :
    (lines.filterMap Entry.ofLine?).foldl take loaded = lines.foldl takeLine loaded := by
  rw [List.foldl_filterMap]
  congr
  funext loaded line
  unfold takeLine
  cases Entry.ofLine? line <;> rfl

/-- **What one line changes**: it gives a key a value, or it is reported, or it does nothing. -/
theorem takeLine_cases (loaded : Loaded) (oneLine : '\n' ∉ line) :
    (∃ (key : Key) (v : key.Value), Gives line key v ∧
        loaded.takeLine line = ⟨loaded.configuration.put key v, loaded.warnings⟩) ∨
      (∃ e, Complains line e ∧
        loaded.takeLine line = ⟨loaded.configuration, e :: loaded.warnings⟩) ∨
      ((∀ (key : Key) (v : key.Value), ¬Gives line key v) ∧ ∀ e, ¬Complains line e) ∧
        loaded.takeLine line = loaded := by
  cases read : Entry.ofLine? line with
  | none =>
    have nothing : ∀ name value, ¬Assigns line name value := by
      simp [← ofLine?_eq_some_iff, read]
    refine .inr (.inr ⟨⟨fun key v => ?_, fun e => ?_⟩, by rw [takeLine, read]⟩)
    · rintro ⟨value, assigns, -, -⟩
      exact nothing _ _ assigns
    · rintro ⟨name, value, assigns, -, -⟩
      exact nothing _ _ assigns
  | some entry =>
    obtain ⟨name, value⟩ := entry
    have assigns := ofLine?_eq_some_iff.mp read
    have taken : loaded.takeLine line = loaded.take ⟨name, value⟩ := by rw [takeLine, read]
    have onOneLine : OnOneLine value ↔ '\r' ∉ value.toList :=
      and_iff_left fun member => oneLine (assigns.mem_of_mem_value member)
    rw [taken, take]
    rcases loaded.configuration.set_cases name value with
      ⟨key, v, whole, rfl, denotes, assigned⟩ | ⟨rejects, refused⟩ | ⟨⟨whole, unknown⟩, refused⟩
    · exact .inl ⟨key, v, ⟨value, assigns, onOneLine.mp whole, denotes⟩, by rw [assigned]⟩
    · rw [Rejects, onOneLine, not_not] at rejects
      exact .inr (.inl ⟨_, ⟨name, value, assigns, rejects, rfl⟩, by rw [refused]⟩)
    · have idle : IsIdle line := .unknown assigns (onOneLine.mp whole) unknown
      exact .inr (.inr ⟨⟨fun _ _ => idle.not_gives, fun _ => idle.not_complains⟩, by rw [refused]⟩)

/-- **A key has the value that a line gives it**, and keeps its own at every other line. -/
theorem get_takeLine (loaded : Loaded) (oneLine : '\n' ∉ line) (key : Key) :
    Gives line key ((loaded.takeLine line).configuration.get key) ∨
      (∀ v, ¬Gives line key v) ∧
        (loaded.takeLine line).configuration.get key = loaded.configuration.get key := by
  rcases loaded.takeLine_cases oneLine with ⟨key', v, gives, taken⟩ | ⟨e, complains, taken⟩ |
    ⟨⟨nothing, -⟩, taken⟩
  · by_cases same : key = key'
    · subst same
      rw [taken, get_put_self]
      exact .inl gives
    · rw [taken, get_put_of_ne same]
      exact .inr ⟨fun w gives' => same (gives.key_eq gives'), rfl⟩
  · rw [taken]
    exact .inr ⟨fun v gives => gives.not_complains complains, rfl⟩
  · rw [taken]
    exact .inr ⟨nothing key, rfl⟩

/-- **A line that is reported is reported once**, and no other line is. -/
theorem warnings_takeLine (loaded : Loaded) (oneLine : '\n' ∉ line) :
    (∃ e, Complains line e ∧ (loaded.takeLine line).warnings = e :: loaded.warnings) ∨
      (∀ e, ¬Complains line e) ∧ (loaded.takeLine line).warnings = loaded.warnings := by
  rcases loaded.takeLine_cases oneLine with ⟨key, v, gives, taken⟩ | ⟨e, complains, taken⟩ |
    ⟨⟨-, silent⟩, taken⟩
  · rw [taken]
    exact .inr ⟨fun e => gives.not_complains, rfl⟩
  · rw [taken]
    exact .inl ⟨e, complains, rfl⟩
  · rw [taken]
    exact .inr ⟨silent, rfl⟩

/-- **Each key has the value that the last line with one gave it.** -/
theorem lastGiven_foldl (oneLine : ∀ line ∈ lines, '\n' ∉ line) (key : Key) :
    LastGiven lines key ((lines.foldl takeLine ⟨{}, []⟩).configuration.get key) := by
  induction lines using List.reverseRecOn with
  | nil => exact .inr ⟨by simp, rfl⟩
  | append_singleton before line ih =>
    rw [List.foldl_concat]
    rcases get_takeLine (before.foldl takeLine ⟨{}, []⟩) (oneLine line (by simp)) key with
      gives | ⟨nothing, same⟩
    · exact .concat gives
    · rw [same]
      exact (ih fun line member => oneLine line (by simp [member])).concat_of_not_gives nothing

/-- **The reports are those for the lines**, the latest first, before those of earlier. -/
theorem reported_foldl (oneLine : ∀ line ∈ lines, '\n' ∉ line) (loaded : Loaded) :
    ∃ errors, Reported lines errors ∧
      (lines.foldl takeLine loaded).warnings = errors.reverse ++ loaded.warnings := by
  induction lines generalizing loaded with
  | nil => exact ⟨[], .nil, rfl⟩
  | cons line lines ih =>
    obtain ⟨errors, rest, same⟩ :=
      ih (fun later member => oneLine later (by simp [member])) (loaded.takeLine line)
    rw [List.foldl_cons, same]
    rcases loaded.warnings_takeLine (oneLine line (by simp)) with
      ⟨e, complains, first⟩ | ⟨silent, first⟩
    · exact ⟨e :: errors, .report complains rest, by simp [first]⟩
    · exact ⟨errors, .pass silent rest, by rw [first]⟩

/-- **What is read from a text.**  Each key has the value that the last line with one gives it, or
the one of a new guest, and the reports are those of the lines, in order.  Blanks, comments, lines
that assign nothing and other names change nothing. -/
theorem lastGiven_ofString (text : String) :
    (∀ (key : Key) (v : key.Value), LastGiven (Text.lines text.toList) key v ↔
        (ofString text).configuration.get key = v)
      ∧ (∀ errors, Reported (Text.lines text.toList) errors ↔ (ofString text).warnings = errors)
      ∧ ∀ line, IsIdle line →
          (∀ (key : Key) (v : key.Value), ¬Gives line key v) ∧ ∀ e, ¬Complains line e := by
  have oneLine : ∀ line ∈ Text.lines text.toList, '\n' ∉ line := fun line =>
    not_mem_of_mem_lines
  have read : (Text.lines text.toList).foldl takeLine ⟨{}, []⟩
      = ⟨(ofString text).configuration, (ofString text).warnings.reverse⟩ := by
    simp [ofString, Loaded.read, ofEntries, foldl_take]
  have last (key : Key) :
      LastGiven (Text.lines text.toList) key ((ofString text).configuration.get key) := by
    have found := lastGiven_foldl oneLine key
    rwa [read] at found
  have reported : Reported (Text.lines text.toList) (ofString text).warnings := by
    obtain ⟨errors, found, same⟩ := reported_foldl oneLine ⟨{}, []⟩
    rw [read, List.append_nil, List.reverse_inj] at same
    rwa [same]
  refine ⟨fun key v => ⟨(last key).unique, ?_⟩, fun errors => ⟨reported.unique, ?_⟩,
    fun line idle => ⟨fun _ _ => idle.not_gives, fun _ => idle.not_complains⟩⟩
  · rintro rfl
    exact last key
  · rintro rfl
    exact reported

/-- A value that is refused leaves the one before it, and is reported; a carriage return is reported
at any name, and a comment is none. -/
theorem lastGiven_ofString_refused :
    LastGiven (Text.lines "RAM_MB=256\n#RAM_MB=1\n RAM_MB = 0\nX=a\rb".toList) .memory 256
      ∧ Reported (Text.lines "RAM_MB=256\n#RAM_MB=1\n RAM_MB = 0\nX=a\rb".toList)
          [.invalidValue "RAM_MB" "0", .invalidValue "X" "a\rb"]
      ∧ ∀ e, ¬Complains "#RAM_MB=1".toList e := by
  obtain ⟨last, reported, idle⟩ :=
    lastGiven_ofString "RAM_MB=256\n#RAM_MB=1\n RAM_MB = 0\nX=a\rb"
  have read : ofString "RAM_MB=256\n#RAM_MB=1\n RAM_MB = 0\nX=a\rb"
      = ⟨{ memoryMb := 256 }, [.invalidValue "RAM_MB" "0", .invalidValue "X" "a\rb"]⟩ := by
    decide +kernel
  exact ⟨(last .memory 256).mpr (by rw [read]; rfl), (reported _).mpr (by rw [read]),
    (idle _ (.comment (by decide))).2⟩

end Loaded

end Configuration

end GuestSupervisor
