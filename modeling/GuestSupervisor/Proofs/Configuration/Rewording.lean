import GuestSupervisor.Configuration.Store
import GuestSupervisor.Proofs.Configuration.Reading

/-!
# Files that say the same

A file of a configuration can be written in many ways.  Lines that give no value may come and go, a
line may give its value in other words, and a path may be written in another way.  What is read says
the same, by which a configuration is compared with another.

## Main Definitions

* `Key.Alike` — two values of a key that say the same.
* `ConfigurationStore.lines` — the lines that are stored.
* `Configuration.Reworded` — lines that differ in nothing but how they say it.

## Main Statements

* `Configuration.agrees_iff` — configurations agree if they do so at every key.
* `ConfigurationStore.lastGiven_load` — what is loaded is what the stored lines give.
* `ConfigurationStore.agrees_load_of_reworded` — what is loaded from lines that say the same.
-/

namespace GuestSupervisor

variable {key : Key} {a b : Configuration}

/-! ## Values -/

/-- **Two values of a key say the same**: they are equal, or they are texts of one path. -/
def Key.Alike : (key : Key) → key.Value → key.Value → Prop
  | .memory, n, n' | .screenWidth, n, n' | .screenHeight, n, n' | .displayIndex, n, n' => n = n'
  | .bootDevice, device, device' => device = device'
  | .sound, flag, flag' => flag = flag'
  | .primaryDisk, path, path' | .secondaryDisk, path, path' | .cdrom, path, path' =>
    Configuration.samePath path path'

theorem Configuration.samePath_self (path : Option String) : samePath path path := by
  cases path <;> simp [samePath, Path.same]

theorem Key.Alike.refl (v : key.Value) : key.Alike v v := by
  cases key with
  | primaryDisk | secondaryDisk | cdrom => exact Configuration.samePath_self v
  | _ => exact Eq.refl v

namespace Configuration

/-- **Configurations agree if they do so at every key.** -/
theorem agrees_iff : a.agrees b ↔ ∀ key : Key, key.Alike (a.get key) (b.get key) := by
  simp only [agrees, Bool.and_eq_true, beq_iff_eq]
  constructor
  · rintro ⟨⟨⟨⟨⟨⟨⟨⟨memory, boot⟩, width⟩, height⟩, display⟩, sound⟩, first⟩, second⟩, disc⟩ key
    cases key <;> assumption
  · intro alike
    exact ⟨⟨⟨⟨⟨⟨⟨⟨alike .memory, alike .bootDevice⟩, alike .screenWidth⟩, alike .screenHeight⟩,
      alike .displayIndex⟩, alike .sound⟩, alike .primaryDisk⟩, alike .secondaryDisk⟩, alike .cdrom⟩

theorem agrees_self (c : Configuration) : c.agrees c := agrees_iff.mpr fun _ => .refl _

/-- Values that say the same keep configurations in agreement. -/
theorem agrees_put (same : a.agrees b) {v v' : key.Value} (alike : key.Alike v v') :
    (a.put key v).agrees (b.put key v') := by
  rw [agrees_iff] at same ⊢
  intro other
  by_cases this : other = key
  · subst this
    rwa [get_put_self, get_put_self]
  · rw [get_put_of_ne this, get_put_of_ne this]
    exact same other

/-! ## Lines -/

variable {line : List Char} {lines lines' : List (List Char)} {loaded loaded' : Loaded}

/-- **A line gives nothing**: no key has a value from it. -/
def GivesNothing (line : List Char) : Prop := ∀ (key : Key) (v : key.Value), ¬Gives line key v

/-- **Lines that say the same in other words**: lines that give nothing, such as comments and unknown
names, are added or removed, and others are written in another way. -/
inductive Reworded : List (List Char) → List (List Char) → Prop
  | nil : Reworded [] []
  | respelt {line line' : List Char} {lines lines' : List (List Char)} {key : Key}
    {v v' : key.Value} (gives : Gives line key v) (gives' : Gives line' key v')
    (alike : key.Alike v v') (rest : Reworded lines lines') :
    Reworded (line :: lines) (line' :: lines')
  | added {line : List Char} {lines lines' : List (List Char)} (nothing : GivesNothing line)
    (rest : Reworded lines lines') : Reworded lines (line :: lines')
  | removed {line : List Char} {lines lines' : List (List Char)} (nothing : GivesNothing line)
    (rest : Reworded lines lines') : Reworded (line :: lines) lines'

@[refl] theorem Reworded.refl (lines : List (List Char)) : Reworded lines lines := by
  induction lines with
  | nil => exact .nil
  | cons line lines ih =>
    by_cases something : ∃ (key : Key) (v : key.Value), Gives line key v
    · obtain ⟨key, v, gives⟩ := something
      exact .respelt gives gives (.refl v) ih
    · have nothing : GivesNothing line := fun key v gives => something ⟨key, v, gives⟩
      exact .removed nothing (.added nothing ih)

namespace Loaded

/-- A line that gives a value puts it in. -/
theorem configuration_takeLine_of_gives {v : key.Value} (oneLine : '\n' ∉ line)
    (gives : Gives line key v) (loaded : Loaded) :
    (loaded.takeLine line).configuration = loaded.configuration.put key v := by
  rcases loaded.takeLine_cases oneLine with
    ⟨key', v', gives', taken⟩ | ⟨e, complains, -⟩ | ⟨⟨nothing, -⟩, -⟩
  · obtain rfl := gives.key_eq gives'
    rw [taken, gives.unique gives']
  · exact absurd complains gives.not_complains
  · exact absurd gives (nothing key v)

/-- A line that gives nothing leaves the configuration alone. -/
theorem configuration_takeLine_of_givesNothing (oneLine : '\n' ∉ line)
    (nothing : GivesNothing line) (loaded : Loaded) :
    (loaded.takeLine line).configuration = loaded.configuration := by
  rcases loaded.takeLine_cases oneLine with ⟨key, v, gives, -⟩ | ⟨e, -, taken⟩ | ⟨-, taken⟩
  · exact absurd gives (nothing key v)
  · rw [taken]
  · rw [taken]

/-- **Lines that say the same keep configurations in agreement.** -/
theorem agrees_foldl_takeLine (reworded : Reworded lines lines')
    (oneLine : ∀ line ∈ lines, '\n' ∉ line) (oneLine' : ∀ line ∈ lines', '\n' ∉ line)
    (same : loaded.configuration.agrees loaded'.configuration) :
    (lines.foldl takeLine loaded).configuration.agrees
      (lines'.foldl takeLine loaded').configuration := by
  induction reworded generalizing loaded loaded' with
  | nil => exact same
  | respelt gives gives' alike rest ih =>
    rw [List.forall_mem_cons] at oneLine oneLine'
    refine ih oneLine.2 oneLine'.2 ?_
    rw [configuration_takeLine_of_gives oneLine.1 gives,
      configuration_takeLine_of_gives oneLine'.1 gives']
    exact agrees_put same alike
  | added nothing rest ih =>
    rw [List.forall_mem_cons] at oneLine'
    refine ih oneLine oneLine'.2 ?_
    rwa [configuration_takeLine_of_givesNothing oneLine'.1 nothing]
  | removed nothing rest ih =>
    rw [List.forall_mem_cons] at oneLine
    refine ih oneLine.2 oneLine' ?_
    rwa [configuration_takeLine_of_givesNothing oneLine.1 nothing]

/-- A text is read line by line. -/
theorem configuration_ofString (text : String) :
    (ofString text).configuration
      = ((Text.lines text.toList).foldl takeLine ⟨{}, []⟩).configuration := by
  simp [ofString, Loaded.read, ofEntries, foldl_take]

end Loaded

end Configuration

/-! ## What is stored -/

namespace ConfigurationStore

open GuestSupervisor.Configuration

variable {store : ConfigurationStore} {fs fs' : FileSystem}

/-- **The lines that are stored**; there are none if there is no file that can be read. -/
def lines (store : ConfigurationStore) (fs : FileSystem) : List (List Char) :=
  ((fs.readText store.path).toOption.elim [] fun text => Text.lines text.toList)

theorem not_mem_of_mem_lines {line : List Char} (member : line ∈ store.lines fs) : '\n' ∉ line := by
  unfold lines at member
  cases read : fs.readText store.path with
  | error failure => simp [read, Except.toOption] at member
  | ok text =>
    rw [read] at member
    exact Text.not_mem_of_mem_lines member

/-- What is loaded is read line by line. -/
theorem configuration_load (store : ConfigurationStore) (fs : FileSystem) :
    (store.load fs).configuration
      = ((store.lines fs).foldl Loaded.takeLine ⟨{}, []⟩).configuration := by
  unfold load lines
  cases fs.readText store.path with
  | error failure => rfl
  | ok text => exact Loaded.configuration_ofString text

/-- **What is loaded is what the stored lines give.** -/
theorem lastGiven_load (store : ConfigurationStore) (fs : FileSystem) (key : Key) :
    LastGiven (store.lines fs) key ((store.load fs).configuration.get key) := by
  rw [configuration_load]
  exact Loaded.lastGiven_foldl (fun _ => not_mem_of_mem_lines) key

/-- **Stored lines that say the same are loaded as configurations that agree.** -/
theorem agrees_load_of_reworded (reworded : Reworded (store.lines fs) (store.lines fs')) :
    (store.load fs).configuration.agrees (store.load fs').configuration := by
  rw [configuration_load, configuration_load]
  exact Loaded.agrees_foldl_takeLine reworded (fun _ => not_mem_of_mem_lines)
    (fun _ => not_mem_of_mem_lines) (agrees_self _)

end ConfigurationStore

end GuestSupervisor
