import GuestSupervisor.Proofs.Host.FileSystem
import GuestSupervisor.Proofs.Host.Tools
import Mathlib.Data.List.Nodup

/-!
# What is listed

The files of a host are a list of entries, and it is nobody's business in which order they stand.
With one entry for every place, a listing of a directory shows exactly what is there, and neither a
walk nor a tool depends on anything but what is where.

## Main Definitions

* `FileSystem.Distinct` — every place has one entry.
* `FileSystem.Misses` — a directory is missing.
* `FileSystem.Mirrors`, `Host.Mirrors` — the same things are in the same places.

## Main Statements

* `FileSystem.Distinct.put`, `Distinct.drop` — changes leave one entry for every place.
* `FileSystem.Distinct.mem_children_iff` — a directory shows what is there.
* `FileSystem.mirrors_of_perm` — the order of the entries makes no difference.
* `FileSystem.Mirrors.resolve` — where a path leads.
* `Host.Mirrors.run_fst` — what comes out of a run.
-/

namespace GuestSupervisor

namespace FileSystem

variable {fs fs' : FileSystem} {place there : Location} {name : String} {node : Node}

/-! ## One entry for every place -/

/-- **Keys that are all different** stand for one entry each, wherever it stands. -/
theorem find?_eq_some_iff_of_nodup {α β : Type} [BEq α] [LawfulBEq α] {entries : List (α × β)}
    (distinct : (entries.map Prod.fst).Nodup) {key : α} {value : β} :
    (entries.find? (·.1 == key)).map (·.2) = some value ↔ (key, value) ∈ entries := by
  rw [Option.map_eq_some_iff]
  constructor
  · rintro ⟨⟨here, found⟩, first, rfl⟩
    obtain rfl : here = key := by simpa using List.find?_some first
    exact List.mem_of_find?_eq_some first
  · intro member
    have some : (entries.find? (·.1 == key)).isSome :=
      List.find?_isSome.mpr ⟨_, member, beq_self_eq_true key⟩
    obtain ⟨entry, first⟩ := Option.isSome_iff_exists.mp some
    have here : entry.1 = key := by simpa using List.find?_some first
    -- There is no other entry for the key.
    have same := List.inj_on_of_nodup_map distinct (List.mem_of_find?_eq_some first) member here
    exact ⟨entry, first, by rw [same]⟩

/-- **Every place has one entry**, whether its name is text or not. -/
structure Distinct (fs : FileSystem) : Prop where
  entries : (fs.entries.map Prod.fst).Nodup
  strays : (fs.strays.map Prod.fst).Nodup

instance (fs : FileSystem) : Decidable fs.Distinct :=
  decidable_of_iff (_ ∧ _) ⟨fun ⟨entries, strays⟩ => ⟨entries, strays⟩,
    fun distinct => ⟨distinct.entries, distinct.strays⟩⟩

theorem Distinct.drop (distinct : fs.Distinct) (place : Location) : (fs.drop place).Distinct where
  entries := distinct.entries.sublist (List.filter_sublist.map Prod.fst)
  strays := distinct.strays

theorem Distinct.put (distinct : fs.Distinct) (place : Location) (node : Node) :
    (fs.put place node).Distinct where
  entries := by
    refine List.nodup_cons.mpr ⟨fun member => ?_, (distinct.drop place).entries⟩
    obtain ⟨entry, kept, same⟩ := List.mem_map.mp member
    exact absurd same (by simpa using (List.mem_filter.mp kept).2)
  strays := distinct.strays

/-- What is at a place is its entry. -/
theorem Distinct.lookup_eq_some_iff (distinct : fs.Distinct) (below : place ≠ []) :
    fs.lookup place = some node ↔ (place, node) ∈ fs.entries := by
  rw [lookup, if_neg below, find?_eq_some_iff_of_nodup distinct.entries]

/-- The entry of a name that a directory shows. -/
theorem mem_children_iff_mem_entries :
    (name, node) ∈ fs.children there ↔ (there ++ [name], node) ∈ fs.entries := by
  unfold children
  rw [List.mem_filterMap]
  constructor
  · rintro ⟨⟨place, found⟩, member, shown⟩
    rcases List.eq_nil_or_concat place with rfl | ⟨above, last, rfl⟩
    · cases shown
    · simp only [List.concat_eq_append, List.getLast?_concat, List.dropLast_concat,
        Option.ite_none_right_eq_some, Option.some.injEq, Prod.mk.injEq] at shown
      obtain ⟨rfl, rfl, rfl⟩ := shown
      rwa [← List.concat_eq_append]
  · intro member
    exact ⟨_, member, by simp⟩

/-- **A directory shows what is there.** -/
theorem Distinct.mem_children_iff (distinct : fs.Distinct) :
    (name, node) ∈ fs.children there ↔ fs.lookup (there ++ [name]) = some node := by
  rw [mem_children_iff_mem_entries, distinct.lookup_eq_some_iff (by simp)]

/-- **A directory shows every name once.** -/
theorem Distinct.nodup_children (distinct : fs.Distinct) (there : Location) :
    ((fs.children there).map Prod.fst).Nodup := by
  have places : ((fs.children there).map fun shown => there ++ [shown.1]).Sublist
      (fs.entries.map Prod.fst) := by
    unfold children
    induction fs.entries with
    | nil => exact .slnil
    | cons entry entries ih =>
      obtain ⟨place, found⟩ := entry
      rcases List.eq_nil_or_concat place with rfl | ⟨above, last, rfl⟩
      · exact ih.cons _
      · rw [List.concat_eq_append]
        by_cases here : above = there
        · subst here
          simpa using ih
        · simpa [here] using ih.cons (above ++ [last])
  have whole := distinct.entries.sublist places
  rw [show (fun shown : String × Node => there ++ [shown.1])
    = (fun name => there ++ [name]) ∘ Prod.fst from rfl, ← List.map_map] at whole
  exact whole.of_map _

/-! ## Directories by their paths -/

theorem listDirectory_of_directory {path : String}
    (led : fs.resolve path true = .ok (there, some .directory)) :
    fs.listDirectory path = .ok (fs.allChildren there) := by
  rw [listDirectory, led]
  rfl

/-- **A directory is missing**, or something above it is. -/
def Misses (fs : FileSystem) (directory : String) : Prop :=
  fs.resolve directory true = .error (.os .noEntry)
    ∨ ∃ place, fs.resolve directory true = .ok (place, none)

theorem listDirectory_of_misses {path : String} (missing : fs.Misses path) :
    fs.listDirectory path = .error (.os .noEntry) := by
  unfold listDirectory
  rcases missing with failed | ⟨place, nothing⟩
  · rw [failed]
    rfl
  · rw [nothing]
    rfl

/-! ## The same things in the same places -/

/-- **File systems with the same things in the same places**: a program finds no difference. -/
def Mirrors (fs fs' : FileSystem) : Prop := fs'.view = fs.view

/-- **The order of the entries makes no difference.** -/
theorem mirrors_of_perm (distinct : fs.Distinct) (entries : fs'.entries.Perm fs.entries)
    (strays : fs'.strays.Perm fs.strays)
    (workingDirectory : fs'.workingDirectory = fs.workingDirectory) :
    fs'.Distinct ∧ fs.Mirrors fs' := by
  have distinct' : fs'.Distinct :=
    ⟨(entries.map Prod.fst).nodup_iff.mpr distinct.entries,
      (strays.map Prod.fst).nodup_iff.mpr distinct.strays⟩
  have nodes : fs'.lookup = fs.lookup := by
    funext place
    by_cases root : place = []
    · rw [FileSystem.lookup, FileSystem.lookup, if_pos root, if_pos root]
    · refine Option.ext fun node => ?_
      rw [distinct'.lookup_eq_some_iff root, distinct.lookup_eq_some_iff root, entries.mem_iff]
  refine ⟨distinct', ?_⟩
  unfold Mirrors view
  rw [nodes, workingDirectory]
  congr 1
  funext place
  refine Option.ext fun node => ?_
  rw [find?_eq_some_iff_of_nodup distinct'.strays, find?_eq_some_iff_of_nodup distinct.strays,
    strays.mem_iff]

theorem Mirrors.refl (fs : FileSystem) : fs.Mirrors fs := rfl

theorem Mirrors.trans {fs'' : FileSystem} (first : fs.Mirrors fs') (second : fs'.Mirrors fs'') :
    fs.Mirrors fs'' := Eq.trans second first

namespace Mirrors

variable (mirrors : fs.Mirrors fs')

include mirrors

theorem lookup (place : Location) : fs'.lookup place = fs.lookup place :=
  congrFun (congrArg View.node mirrors) place

theorem workingDirectory : fs'.workingDirectory = fs.workingDirectory :=
  congrArg View.workingDirectory mirrors

theorem descend (followLast : Bool) (here : Location) (steps : List String) :
    fs'.descend followLast here steps = fs.descend followLast here steps := by
  induction steps generalizing here with
  | nil => simp only [FileSystem.descend, mirrors.lookup]
  | cons step rest ih => simp only [FileSystem.descend, mirrors.lookup, ih]

theorem follow (followLast : Bool) (budget : Nat) (here : Location) (steps : List String) :
    fs'.follow followLast budget here steps = fs.follow followLast budget here steps := by
  induction budget generalizing here steps with
  | zero =>
    unfold FileSystem.follow
    rw [mirrors.descend]
  | succ budget ih =>
    unfold FileSystem.follow
    rw [mirrors.descend]
    simp only [ih]

/-- **Where a path leads.** -/
theorem resolve (path : String) (followLast : Bool) :
    fs'.resolve path followLast = fs.resolve path followLast := by
  simp only [FileSystem.resolve, mirrors.follow, mirrors.workingDirectory]

end Mirrors

end FileSystem

/-! ## Hosts -/

namespace Host

variable {host other third : Host}

/-- **Hosts with the same things in the same places** and the same tools and programs. -/
structure Mirrors (host other : Host) : Prop where
  files : host.files.Mirrors other.files
  tools : other.tools = host.tools
  programs : other.programs = host.programs

namespace Mirrors

theorem refl (host : Host) : host.Mirrors host := ⟨.refl _, rfl, rfl⟩

theorem trans (first : host.Mirrors other) (second : other.Mirrors third) :
    host.Mirrors third where
  files := first.files.trans second.files
  tools := second.tools.trans first.tools
  programs := second.programs.trans first.programs

/-- What a run adds to the record is the same. -/
theorem recorded (mirrors : host.Mirrors other) (name : String) (arguments : List String) :
    other.recorded name arguments = host.recorded name arguments := by
  unfold Host.recorded
  rw [find_congr (fun path => mirrors.files.resolve path true) mirrors.tools mirrors.programs]

/-- **What comes out of a run** is the same. -/
theorem run_fst (mirrors : host.Mirrors other) (name : String) (arguments : List String)
    (input : List UInt8) :
    (other.run name arguments input).1 = (host.run name arguments input).1 :=
  run_fst_congr (fun path => mirrors.files.resolve path true) mirrors.files mirrors.tools
    mirrors.programs

end Mirrors

end Host

end GuestSupervisor
