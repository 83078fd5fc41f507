import GuestSupervisor.Proofs.Configuration.Edit
import GuestSupervisor.Proofs.Text.Numeral
import Mathlib.Data.List.Forall2
import Mathlib.Tactic.SplitIfs

/-!
# The values of keys

Every key has a language of its own: numerals within bounds, a few words in capitals or not, or any
text.  An assignment is accepted if its value is on one line and in the language of its key, and
then it gives the key what the value denotes and leaves the other keys alone.

## Main Definitions

* `Spells` — a text is a word, in capitals or not.
* `Key.Denotes` — what a text denotes as the value of a key.
* `Configuration.get`, `Configuration.put` — the value of one key.
* `Rejects` — a name and a value that are reported.
* `Configuration.after` — the configuration after an assignment, accepted or not.

## Main Statements

* `Key.read?_eq_some_iff` — what is read for a key is what the text denotes.
* `Configuration.set_cases` — what becomes of an assignment.
* `Configuration.set_accepts` — which assignments are accepted, and what they change.
-/

namespace GuestSupervisor

open Text

/-! ## Words -/

namespace Text

variable {text : List Char}

/-- **A text spells a word**: letter by letter, in capitals or not. -/
def Spells (text : List Char) (word : String) : Prop :=
  List.Forall₂ (fun c w => c = w ∨ c = w.toUpper) text word.toList

/-- What becomes a small letter is this letter or its capital. -/
theorem toLower_eq_iff {c w : Char} (small : w.toLower = w) :
    c.toLower = w ↔ c = w ∨ c = w.toUpper := by
  have bounded := c.val.toNat_lt
  have bounded' := w.val.toNat_lt
  -- The letters are told from each other by their numbers.
  delta Char.toLower Char.toUpper at *
  simp only [Char.ext_iff, ← UInt32.toNat_inj, UInt32.le_iff_toNat_le, ge_iff_le] at small ⊢
  split_ifs at small ⊢ <;> simp only [UInt32.toNat_add] at small ⊢ <;> simp at * <;> omega

/-- **A text spells a word** if it is the word once its letters are small ones. -/
theorem spells_iff {word : String} (small : word.toList.all fun w => w.toLower = w) :
    Spells text word ↔ asciiLower text = word.toList := by
  simp only [List.all_eq_true, decide_eq_true_eq] at small
  unfold Spells asciiLower
  generalize word.toList = letters at small
  induction text generalizing letters with
  | nil => cases letters <;> simp
  | cons c text ih =>
    cases letters with
    | nil => simp
    | cons w letters =>
      rw [List.forall_mem_cons] at small
      rw [List.forall₂_cons, ih letters small.2, List.map_cons, List.cons.injEq,
        toLower_eq_iff small.1]

/-- A text spells one of some words if it is one of them once its letters are small ones. -/
theorem exists_spells_iff {words : List String}
    (small : words.all fun word => word.toList.all fun w => w.toLower = w) :
    (∃ word ∈ words, Spells text word) ↔ asciiLower text ∈ words.map String.toList := by
  rw [List.all_eq_true] at small
  rw [List.mem_map]
  exact exists_congr fun word => and_congr_right fun member =>
    (spells_iff (small word member)).trans eq_comm

end Text

/-- The words for a device. -/
def BootDevice.words : BootDevice → List String
  | disk => ["c", "disk"]
  | cdrom => ["d", "cdrom"]

/-- The words for yes and no. -/
def flagWords : Bool → List String
  | true => ["1", "true", "yes", "on"]
  | false => ["0", "false", "no", "off"]

/-- **A device is read from its words**, and from nothing else. -/
theorem BootDevice.read?_eq_some_iff {value : List Char} {device : BootDevice} :
    read? value = some device ↔ ∃ word ∈ device.words, Spells value word := by
  have apart : ∀ text ∈ disk.words.map String.toList, text ∉ cdrom.words.map String.toList := by
    decide
  have read : read? value = if asciiLower value ∈ disk.words.map String.toList then some disk
      else if asciiLower value ∈ cdrom.words.map String.toList then some cdrom else none := by
    simp [read?, words]
  rw [exists_spells_iff (by cases device <;> decide), read]
  by_cases first : asciiLower value ∈ disk.words.map String.toList
  · cases device <;> simp [first, apart _ first, -List.mem_map]
  · cases device <;> simp [first, -List.mem_map]

/-- **A flag is read from its words**, and from nothing else. -/
theorem readFlag?_eq_some_iff {value : List Char} {flag : Bool} :
    readFlag? value = some flag ↔ ∃ word ∈ flagWords flag, Spells value word := by
  have apart : ∀ text ∈ (flagWords true).map String.toList,
      text ∉ (flagWords false).map String.toList := by
    decide
  have read : readFlag? value
      = if asciiLower value ∈ (flagWords true).map String.toList then some true
        else if asciiLower value ∈ (flagWords false).map String.toList then some false
        else none :=
    rfl
  rw [exists_spells_iff (by cases flag <;> decide), read]
  by_cases first : asciiLower value ∈ (flagWords true).map String.toList
  · cases flag <;> simp [first, apart _ first, -List.mem_map]
  · cases flag <;> simp [first, -List.mem_map]

/-! ## What a text denotes -/

namespace Key

variable {key other : Key} {value : String}

/-- **The values of a key.** -/
@[reducible] def Value : Key → Type
  | .memory | .screenWidth | .screenHeight | .displayIndex => UInt32
  | .bootDevice => BootDevice
  | .sound => Bool
  | .primaryDisk | .secondaryDisk | .cdrom => Option String

/-- **A text is a numeral within the bounds** from `least` to the largest number of thirty-two
bits. -/
def NumeralFrom (least : Nat) (value : String) (n : UInt32) : Prop :=
  IsNumeral value.toList n.toNat ∧ least ≤ n.toNat ∧ n.toNat ≤ 4294967295

/-- **What a text denotes as the value of a key**, if it is in the language of the key. -/
def Denotes : (key : Key) → String → key.Value → Prop
  | .memory, value, n => NumeralFrom 1 value n
  | .bootDevice, value, device => ∃ word ∈ device.words, Spells value.toList word
  | .screenWidth, value, n => NumeralFrom 1 value n
  | .screenHeight, value, n => NumeralFrom 1 value n
  | .displayIndex, value, n => NumeralFrom 0 value n
  | .sound, value, flag => ∃ word ∈ flagWords flag, Spells value.toList word
  | .primaryDisk, value, path => path = if value = "" then none else some value
  | .secondaryDisk, value, path => path = if value = "" then none else some value
  | .cdrom, value, path => path = if value = "" then none else some value

/-- What is read for a key. -/
def read? : (key : Key) → String → Option key.Value
  | .memory, value => readPositive? value.toList
  | .bootDevice, value => BootDevice.read? value.toList
  | .screenWidth, value => readPositive? value.toList
  | .screenHeight, value => readPositive? value.toList
  | .displayIndex, value => readUInt32? value.toList
  | .sound, value => readFlag? value.toList
  | .primaryDisk, value => some (readPath value)
  | .secondaryDisk, value => some (readPath value)
  | .cdrom, value => some (readPath value)

theorem readUInt32?_eq_some_iff_numeralFrom {n : UInt32} :
    readUInt32? value.toList = some n ↔ NumeralFrom 0 value n := by
  have bounded : n.toNat ≤ 4294967295 := Nat.le_of_lt_succ n.toNat_lt
  simp [readUInt32?_eq_some_iff, NumeralFrom, bounded]

theorem readPositive?_eq_some_iff {n : UInt32} :
    readPositive? value.toList = some n ↔ NumeralFrom 1 value n := by
  have positive : (n != 0) = true ↔ 1 ≤ n.toNat := by
    rw [bne_iff_ne, ne_eq, ← UInt32.toNat_inj]
    exact Nat.pos_iff_ne_zero.symm
  rw [readPositive?, Option.filter_eq_some_iff, readUInt32?_eq_some_iff_numeralFrom, positive]
  simp only [NumeralFrom, Nat.zero_le, true_and]
  tauto

theorem readPath_eq_iff {path : Option String} :
    some (readPath value) = some path ↔ path = if value = "" then none else some value := by
  rw [Option.some.injEq, eq_comm, readPath]
  simp

/-- **What is read for a key is what the text denotes.** -/
theorem read?_eq_some_iff {v : key.Value} : key.read? value = some v ↔ key.Denotes value v := by
  cases key with
  | memory | screenWidth | screenHeight => exact readPositive?_eq_some_iff
  | bootDevice => exact BootDevice.read?_eq_some_iff
  | displayIndex => exact readUInt32?_eq_some_iff_numeralFrom
  | sound => exact readFlag?_eq_some_iff
  | primaryDisk | secondaryDisk | cdrom => exact readPath_eq_iff

/-- A text denotes one value of a key at most. -/
theorem Denotes.unique {v w : key.Value} (first : key.Denotes value v)
    (second : key.Denotes value w) : v = w :=
  Option.some.inj ((read?_eq_some_iff.mpr first).symm.trans (read?_eq_some_iff.mpr second))

/-- Keys are known from their names. -/
theorem name_inj (same : key.name = other.name) : key = other := by
  have found := ofName?_name key
  rw [same, ofName?_name] at found
  exact (Option.some.inj found).symm

theorem read?_eq_none_iff : key.read? value = none ↔ ∀ v, ¬key.Denotes value v := by
  simp [← read?_eq_some_iff, Option.eq_none_iff_forall_ne_some]

end Key

/-! ## One key of a configuration -/

namespace Configuration

variable {c c' : Configuration} {key other : Key} {name value : String}

/-- **The value of a key.** -/
def get (c : Configuration) : (key : Key) → key.Value
  | .memory => c.memoryMb
  | .bootDevice => c.bootDevice
  | .screenWidth => c.screenWidth
  | .screenHeight => c.screenHeight
  | .displayIndex => c.displayIndex
  | .sound => c.soundEnabled
  | .primaryDisk => c.primaryDisk
  | .secondaryDisk => c.secondaryDisk
  | .cdrom => c.cdrom

/-- **The configuration with another value of a key.** -/
def put (c : Configuration) : (key : Key) → key.Value → Configuration
  | .memory, n => { c with memoryMb := n }
  | .bootDevice, device => { c with bootDevice := device }
  | .screenWidth, n => { c with screenWidth := n }
  | .screenHeight, n => { c with screenHeight := n }
  | .displayIndex, n => { c with displayIndex := n }
  | .sound, flag => { c with soundEnabled := flag }
  | .primaryDisk, path => { c with primaryDisk := path }
  | .secondaryDisk, path => { c with secondaryDisk := path }
  | .cdrom, path => { c with cdrom := path }

@[simp] theorem get_put_self (c : Configuration) (key : Key) (v : key.Value) :
    (c.put key v).get key = v := by
  cases key <;> rfl

theorem get_put_of_ne (different : other ≠ key) (c : Configuration) (v : key.Value) :
    (c.put key v).get other = c.get other := by
  cases key <;> cases other <;> first | rfl | exact absurd rfl different

/-- What is assigned is what is read for the key. -/
theorem assign?_eq_put (c : Configuration) (key : Key) (value : String) :
    c.assign? key value = (key.read? value).map (c.put key) := by
  cases key <;> rfl

/-! ## Assignments -/

/-- **A text is on one line.** -/
def OnOneLine (value : String) : Prop := '\r' ∉ value.toList ∧ '\n' ∉ value.toList

theorem onOneLine_iff : OnOneLine value ↔ hasLineBreak value = false := by
  rw [hasLineBreak_eq_false_iff]
  constructor
  · rintro ⟨noReturn, noFeed⟩ ch member
    have other : ch ≠ '\n' ∧ ch ≠ '\r' :=
      ⟨fun same => noFeed (same ▸ member), fun same => noReturn (same ▸ member)⟩
    simp [breaksLine, other]
  · intro whole
    exact ⟨fun member => absurd (whole _ member) (by decide),
      fun member => absurd (whole _ member) (by decide)⟩

/-- **A name and a value are reported**: the value is not on one line, or the name is that of a key
and the value denotes nothing there. -/
def Rejects (name value : String) : Prop :=
  ¬OnOneLine value ∨ ∃ key : Key, key.name = name ∧ ∀ v, ¬key.Denotes value v

/-- **What becomes of an assignment**: its key gets what the value denotes, or it is refused for the
value, or for the name. -/
theorem set_cases (c : Configuration) (name value : String) :
    (∃ (key : Key) (v : key.Value), OnOneLine value ∧ key.name = name ∧ key.Denotes value v ∧
        c.set name value = .ok (c.put key v)) ∨
      Rejects name value ∧ c.set name value = .error (.invalidValue name value) ∨
      (OnOneLine value ∧ ∀ key : Key, key.name ≠ name) ∧
        c.set name value = .error (.unknownKey name) := by
  by_cases whole : OnOneLine value
  · have unbroken := onOneLine_iff.mp whole
    cases found : Key.ofName? name with
    | none =>
      refine .inr (.inr ⟨⟨whole, fun key named => ?_⟩,
        by simp [Configuration.set, unbroken, found]⟩)
      rw [← named, Key.ofName?_name] at found
      cases found
    | some key =>
      have named := Key.name_of_ofName? found
      cases read : key.read? value with
      | none =>
        exact .inr (.inl ⟨.inr ⟨key, named, Key.read?_eq_none_iff.mp read⟩,
          by simp [Configuration.set, unbroken, found, assign?_eq_put, read]⟩)
      | some v =>
        exact .inl ⟨key, v, whole, named, Key.read?_eq_some_iff.mp read,
          by simp [Configuration.set, unbroken, found, assign?_eq_put, read]⟩
  · have broken : hasLineBreak value = true := by
      simpa using fun unbroken => whole (onOneLine_iff.mpr unbroken)
    exact .inr (.inl ⟨.inl whole, by simp [Configuration.set, broken]⟩)

/-- **The configuration after an assignment**, which is the one before if it is refused. -/
def after (c : Configuration) (name value : String) : Configuration :=
  (c.set name value).toOption.getD c

theorem after_of_set_eq_ok (assigned : c.set name value = .ok c') : c.after name value = c' := by
  rw [after, assigned]
  rfl

theorem after_of_set_eq_error {e : ConfigurationError} (refused : c.set name value = .error e) :
    c.after name value = c := by
  rw [after, refused]
  rfl

/-- An entry that is taken in is an assignment, accepted or not. -/
theorem Loaded.configuration_take (loaded : Loaded) (entry : Entry) :
    (loaded.take entry).configuration = loaded.configuration.after entry.name entry.value := by
  unfold take
  split
  · rename_i assigned
    exact (after_of_set_eq_ok assigned).symm
  · rename_i refused
    exact (after_of_set_eq_error refused).symm
  · rename_i refused
    exact (after_of_set_eq_error refused).symm

/-- A valid configuration stays valid, whatever is assigned. -/
theorem IsValid.after (valid : c.IsValid) (name value : String) : (c.after name value).IsValid := by
  cases outcome : c.set name value with
  | ok c' =>
    rw [after_of_set_eq_ok outcome]
    exact valid.set outcome
  | error e =>
    rw [after_of_set_eq_error outcome]
    exact valid

/-- **Which assignments are accepted, and what they change.**  The value has to be on one line and
to denote something as a value of the key with this name.  Then the key has what it denotes and all
other keys have what they had.  A refused assignment changes nothing, and is refused for its value
or because no key has the name.  A valid configuration stays valid either way. -/
theorem set_accepts (c : Configuration) (name value : String) :
    ((∃ c', c.set name value = .ok c') ↔
        OnOneLine value ∧ ∃ (key : Key) (v : key.Value), key.name = name ∧ key.Denotes value v)
      ∧ (∀ c', c.set name value = .ok c' → c.after name value = c' ∧
          ∃ (key : Key) (v : key.Value), key.name = name ∧ key.Denotes value v ∧ c'.get key = v ∧
            ∀ other, other ≠ key → c'.get other = c.get other)
      ∧ (∀ e, c.set name value = .error e → c.after name value = c ∧
          (e = .invalidValue name value ∧ Rejects name value ∨
            e = .unknownKey name ∧ ∀ key : Key, key.name ≠ name))
      ∧ (c.validate = .ok () → (c.after name value).validate = .ok ())
      ∧ ∀ warnings,
          (Loaded.take ⟨c, warnings⟩ ⟨name, value⟩).configuration = c.after name value := by
  refine ⟨?_, fun c' assigned => ⟨after_of_set_eq_ok assigned, ?_⟩,
    fun e refused => ⟨after_of_set_eq_error refused, ?_⟩, fun valid => ?_,
    fun warnings => Loaded.configuration_take _ _⟩
  · rcases c.set_cases name value with
      ⟨key, v, whole, named, denotes, assigned⟩ | ⟨rejects, refused⟩ | ⟨⟨-, unknown⟩, refused⟩
    · exact iff_of_true ⟨_, assigned⟩ ⟨whole, key, v, named, denotes⟩
    · refine iff_of_false (by simp [refused]) ?_
      rintro ⟨whole, key, v, named, denotes⟩
      rcases rejects with broken | ⟨key', named', nothing⟩
      · exact broken whole
      · obtain rfl := Key.name_inj (named'.trans named.symm)
        exact nothing v denotes
    · refine iff_of_false (by simp [refused]) ?_
      rintro ⟨-, key, -, named, -⟩
      exact unknown key named
  · rcases c.set_cases name value with
      ⟨key, v, -, named, denotes, assigned'⟩ | ⟨-, refused⟩ | ⟨-, refused⟩
    · obtain rfl := Except.ok.inj (assigned'.symm.trans assigned)
      exact ⟨key, v, named, denotes, get_put_self c key v,
        fun other different => get_put_of_ne different c v⟩
    · cases refused.symm.trans assigned
    · cases refused.symm.trans assigned
  · rcases c.set_cases name value with
      ⟨key, v, -, named, denotes, assigned⟩ | ⟨rejects, refused'⟩ | ⟨⟨-, unknown⟩, refused'⟩
    · cases assigned.symm.trans refused
    · obtain rfl := Except.error.inj (refused'.symm.trans refused)
      exact .inl ⟨rfl, rejects⟩
    · obtain rfl := Except.error.inj (refused'.symm.trans refused)
      exact .inr ⟨rfl, unknown⟩
  · rw [validate_eq_ok_iff_isValid] at valid ⊢
    exact valid.after name value

/-- A sign and zeros do no harm, and the largest number is accepted. -/
theorem set_accepts_largest :
    ({} : Configuration).set "RAM_MB" "+0004294967295" = .ok { memoryMb := 4294967295 }
      ∧ Key.memory.Denotes "+0004294967295" 4294967295
      ∧ (({} : Configuration).after "RAM_MB" "+0004294967295").validate = .ok () := by
  have assigned : ({} : Configuration).set "RAM_MB" "+0004294967295"
      = .ok { memoryMb := 4294967295 } := by decide +kernel
  obtain ⟨-, accepted, -, valid, -⟩ := set_accepts {} "RAM_MB" "+0004294967295"
  obtain ⟨-, key, v, named, denotes, given, -⟩ := accepted _ assigned
  obtain rfl : key = .memory := Key.name_inj named
  obtain rfl : v = 4294967295 := given.symm
  exact ⟨assigned, denotes, valid (by decide)⟩

end Configuration

end GuestSupervisor
