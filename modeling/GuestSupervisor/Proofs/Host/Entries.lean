import GuestSupervisor.Proofs.Host.Directories
import GuestSupervisor.Proofs.Host.Removal

/-!
# Entries of a directory

A name under a directory and an entry of the directory are the same thing: where the path of the
one leads, the listing of the other shows what is there.  The name must be a name: neither empty,
nor a dot or two, nor with a slash in it.

## Main Definitions

* `Path.IsName` — a text that names an entry.

## Main Statements

* `Path.same_join` — texts of one path are texts of one path under a base.
* `Path.fileName?_join` — the last part of a name under a base.
* `FileSystem.steps_join` — a name under a directory asks for one step more.
* `FileSystem.resolve_directory_of_join` — what it leads to is an entry of the directory.
* `FileSystem.listDirectory_of_join` — the listing of the directory shows it.
-/

namespace GuestSupervisor

namespace Path

open Text

variable {base name path path' : String}

/-- **A text that names an entry.** -/
structure IsName (name : String) : Prop where
  piece : IsPiece name
  noDot : name ≠ "."
  noDots : name ≠ ".."

theorem IsName.toList_ne_nil (isName : IsName name) : name.toList ≠ [] := by
  simpa using isName.piece.nonempty

theorem IsName.isAbsolute (isName : IsName name) : isAbsolute name = false :=
  isName.piece.isAbsolute

/-! ## Under a base -/

/-- A relative path is written behind its base, with a slash in between if the base needs
one. -/
theorem join_cases (base : String) (relative : isAbsolute path = false) :
    base = "" ∧ join base path = path
      ∨ (∃ front, base = front ++ "/" ∧ join base path = front ++ "/" ++ path)
      ∨ base ≠ "" ∧ join base path = base ++ "/" ++ path := by
  unfold join
  rw [relative]
  simp only [Bool.false_eq_true, if_false]
  cases last : base.toList.getLast? with
  | none =>
    obtain rfl : base = "" := by simpa using last
    exact Or.inl ⟨rfl, by simp⟩
  | some c =>
    have nonempty : base ≠ "" := by
      rintro rfl
      cases last
    by_cases slash : c = '/'
    · subst slash
      obtain ⟨front, whole⟩ := List.getLast?_eq_some_iff.mp last
      have slashed : base = String.ofList front ++ "/" := by
        rw [← String.toList_inj, whole]
        simp
      exact Or.inr (Or.inl ⟨_, slashed, by simp [← slashed]⟩)
    · exact Or.inr (Or.inr ⟨nonempty, by simp [slash]⟩)

/-- **A path under a base has the pieces of the base and its own.** -/
theorem pieces_join (base : String) (relative : isAbsolute path = false) :
    pieces (join base path) = pieces base ++ pieces path := by
  rcases join_cases base relative with ⟨rfl, same⟩ | ⟨front, rfl, same⟩ | ⟨-, same⟩
  · rw [same]
    rfl
  · rw [same, pieces_append_slash, ← String.append_empty (s := front ++ "/"), pieces_append_slash]
    simp [pieces]
  · rw [same, pieces_append_slash]

theorem isAbsolute_join (nonempty : base ≠ "") (relative : isAbsolute path = false) :
    isAbsolute (join base path) = isAbsolute base := by
  have some : base.toList ≠ [] := by simpa using nonempty
  rcases join_cases base relative with ⟨rfl, -⟩ | ⟨front, rfl, same⟩ | ⟨-, same⟩
  · exact absurd rfl nonempty
  · simp only [isAbsolute, same, String.toList_append]
    rw [← String.toList_append, List.head?_append_of_ne_nil _ some]
  · simp only [isAbsolute, same, String.toList_append, List.append_assoc]
    rw [List.head?_append_of_ne_nil _ some]

/-- A name under a base has no zero character if neither of them has one. -/
theorem noZero_join (isName : IsName name) (clean : '\x00' ∉ base.toList)
    (clean' : '\x00' ∉ name.toList) : '\x00' ∉ (join base name).toList := by
  rcases join_cases base isName.isAbsolute with ⟨-, same⟩ | ⟨front, rfl, same⟩ | ⟨-, same⟩
  · rwa [same]
  · rw [same, String.toList_append (s := front ++ "/"), List.mem_append]
    exact not_or.mpr ⟨clean, clean'⟩
  · rw [same, String.toList_append, String.toList_append, List.mem_append, List.mem_append]
    exact not_or.mpr ⟨not_or.mpr ⟨clean, by decide⟩, clean'⟩

theorem join_of_isAbsolute (base : String) (absolute : isAbsolute path) : join base path = path :=
  if_pos absolute

/-- A relative path has a piece before its first slash. -/
theorem pieces_ne_nil (nonempty : path ≠ "") (relative : isAbsolute path = false) :
    pieces path ≠ [] := by
  have some : path.toList ≠ [] := by simpa using nonempty
  obtain ⟨c, rest, whole⟩ := List.exists_cons_of_ne_nil some
  have other : c ≠ '/' := by simpa [isAbsolute, whole] using relative
  obtain ⟨piece, others, cut⟩ := List.exists_cons_of_ne_nil (segments_ne_nil '/' rest)
  rw [pieces, whole, segments_cons_of_ne other cut]
  simp

/-- The root directory is the first part of an absolute path and no part of another. -/
theorem isAbsolute_iff (path : String) : isAbsolute path ↔ (parts path).head? = some .root := by
  have never : ∀ part ∈ (pieces path).map Part.ofPiece, part ≠ .root := by
    intro part member
    obtain ⟨piece, -, rfl⟩ := List.mem_map.mp member
    unfold Part.ofPiece
    split_ifs <;> simp
  unfold parts
  simp only
  split
  · rename_i absolute
    simp [absolute]
  · rename_i relative
    refine iff_of_false relative fun first => ?_
    split at first
    · cases first
    · exact never _ (List.mem_filter.mp (List.mem_of_head? first)).1 rfl

/-- **A path under a base has the parts of the base and its own**, without the dot that it may
begin with. -/
theorem parts_join (nonempty : base ≠ "") (relative : isAbsolute path = false) :
    parts (join base path) = parts base ++ (parts path).filter (· != .current) := by
  have own : (parts path).filter (· != .current)
      = ((pieces path).map Part.ofPiece).filter (· != .current) := by
    simp only [parts, relative, Bool.false_eq_true, if_false]
    split <;> simp_all
  rw [own]
  unfold parts
  simp only [isAbsolute_join nonempty relative, pieces_join base relative, List.map_append]
  cases absolute : isAbsolute base with
  | true => simp
  | false =>
    -- The base begins with a piece, which may be a dot that stays.
    obtain ⟨part, others, first⟩ := List.exists_cons_of_ne_nil
      (show (pieces base).map Part.ofPiece ≠ [] by simpa using pieces_ne_nil nonempty absolute)
    simp only [first, Bool.false_eq_true, if_false, List.cons_append]
    cases part <;> simp

/-- **Texts of one path are texts of one path under a base.** -/
theorem same_join (base : String) (alike : same path path') :
    same (join base path) (join base path') := by
  have equal : parts path = parts path' := by simpa [same] using alike
  have together : isAbsolute path = isAbsolute path' :=
    Bool.eq_iff_iff.mpr (by rw [isAbsolute_iff, isAbsolute_iff, equal])
  cases absolute : isAbsolute path with
  | true =>
    rw [join_of_isAbsolute base absolute, join_of_isAbsolute base (together ▸ absolute)]
    exact alike
  | false =>
    have relative := together ▸ absolute
    by_cases empty : base = ""
    · subst empty
      simpa [join, absolute, relative] using alike
    · simp [same, parts_join empty absolute, parts_join empty relative, equal]

/-! ## Names under a base -/

/-- A name has an extension if a dot is in it that is not its first character. -/
theorem nameExtension?_append {stem ending : List Char} (visible : stem ≠ [])
    (noDot : '.' ∉ ending) :
    nameExtension? (String.ofList (stem ++ '.' :: ending)) = some (String.ofList ending) := by
  have others : ∀ c ∈ ending.reverse, (c != '.') = true := by
    intro c member
    rw [bne_iff_ne]
    rintro rfl
    exact noDot (List.mem_reverse.mp member)
  obtain ⟨first, rest, turned⟩ := List.exists_cons_of_ne_nil
    (show stem.reverse ≠ [] by simpa using visible)
  simp [nameExtension?, List.dropWhile_append_of_pos others, List.takeWhile_append_of_pos others,
    turned]

/-- **The last part of a name under a base is the name.** -/
theorem fileName?_join (base : String) (isName : IsName name) :
    fileName? (join base name) = some name := by
  have named : Part.ofPiece name = .name name := by
    simp [Part.ofPiece, isName.noDot, isName.noDots]
  have last : (parts (join base name)).getLast? = some (.name name) := by
    unfold parts
    simp only [pieces_join base isName.isAbsolute, isName.piece.pieces_eq, List.map_append,
      List.map_singleton, named]
    generalize (pieces base).map Part.ofPiece = before
    cases isAbsolute (join base name) with
    | true => simp [List.getLast?_cons]
    | false =>
      cases before with
      | nil => simp
      | cons part before => cases part <;> simp [List.getLast?_cons]
  rw [fileName?, last]

end Path

namespace FileSystem

open GuestSupervisor.Path

variable {fs : FileSystem} {path base name : String} {place here there : Location} {node : Node}

/-! ## Where a name leads -/

/-- A path does not end in a slash behind a name. -/
theorem getLast?_join (base : String) (isName : IsName name) :
    (join base name).toList.getLast? ≠ some '/' := by
  have last : (join base name).toList.getLast? = name.toList.getLast? := by
    rcases join_cases base isName.isAbsolute with ⟨-, same⟩ | ⟨front, -, same⟩ | ⟨-, same⟩
    · rw [same]
    all_goals
      rw [same, String.toList_append, List.getLast?_append_of_ne_nil _ isName.toList_ne_nil]
  rw [last]
  exact fun slash => isName.piece.noSlash (List.mem_of_getLast? slash)

/-- **A name under a directory asks for one step more.** -/
theorem steps_join (base : String) (isName : IsName name) :
    steps (join base name) = pieces base ++ [name] := by
  simp [steps, getLast?_join base isName, pieces_join base isName.isAbsolute,
    isName.piece.pieces_eq]

/-- What a directory without its slash at the end asks for. -/
theorem undotted_steps (path : String) : Undotted (pieces path) (steps path) := by
  have refl : ∀ texts : List String, Undotted texts texts := fun texts => by
    simpa using Undotted.nil.append_left texts
  unfold steps
  simp only
  split
  · simpa using (Undotted.dot .nil).append_left (pieces path)
  · exact refl _

/-- A walk to an entry of a directory. -/
theorem follow_entry (isName : IsName name) (directory : fs.lookup here = some .directory)
    (budget : Nat) :
    fs.follow false budget here [name] =
      if longestName < name.utf8ByteSize then .error .nameTooLong
      else .ok (here ++ [name], fs.lookup (here ++ [name])) := by
  have walk := fs.descend_cons false here name []
  split
  · rename_i long
    have stuck : fs.turn here name = .stuck .nameTooLong := by
      simp [turn, directory, isName.noDot, isName.noDots, long]
    rw [stuck] at walk
    exact follow_of_failed walk budget
  · rename_i fits
    have named : fs.turn here name = fs.named (here ++ [name]) := by
      simp [turn, directory, isName.noDot, isName.noDots, fits]
    refine follow_of_arrived ?_ budget
    rw [walk, named]
    cases found : fs.lookup (here ++ [name]) with
    | none => simp [FileSystem.named, found]
    | some node => cases node <;> simp [FileSystem.named, found, descend]

/-- **The last step of a path is to an entry of a directory**, when a link there is not
followed. -/
theorem follow_name (isName : IsName name) {budget : Nat}
    (directory : fs.lookup here = some .directory)
    (reached : fs.follow false budget here [name] = .ok (place, some node)) :
    place = here ++ [name] := by
  rw [follow_entry isName directory] at reached
  split_ifs at reached
  exact (congrArg Prod.fst (Except.ok.inj reached)).symm

/-- Where a path starts is seen from its first character. -/
theorem origin_congr {path' : String} (same : isAbsolute path' = isAbsolute path)
    (directory : Location) : origin directory path' = origin directory path := by
  rw [origin, origin, same]

theorem isDirectory_iff :
    fs.isDirectory path ↔ ∃ place, fs.resolve path true = .ok (place, some .directory) := by
  unfold isDirectory node?
  cases led : fs.resolve path true with
  | error e => simp [bind, Except.bind]
  | ok found =>
    obtain ⟨place, seen⟩ := found
    cases seen with
    | none => simp [bind, Except.bind]
    | some seen => cases seen <;> simp [bind, Except.bind]

theorem ne_empty_of_resolve {followLast : Bool} {found : Location × Option Node}
    (resolved : fs.resolve path followLast = .ok found) : path ≠ "" := by
  rintro rfl
  cases resolved

/-- **What a name under a directory leads to is an entry of the directory.** -/
theorem resolve_directory_of_join (directory : fs.isDirectory base) (isName : IsName name)
    (resolved : fs.resolve (join base name) false = .ok (place, some node)) :
    ∃ there, fs.resolve base true = .ok (there, some .directory) ∧ place = there ++ [name]
      ∧ fs.lookup place = some node := by
  obtain ⟨there, found⟩ := isDirectory_iff.mp directory
  have start := isAbsolute_join (ne_empty_of_resolve found) isName.isAbsolute
  obtain ⟨reached, -⟩ := resolve_eq resolved fs false
  rw [steps_join base isName, origin_congr start] at reached
  obtain ⟨there', left, first, last⟩ := follow_append (by simp) reached
  -- The slash at the end of the directory, if it has one, makes no difference.
  have same := follow_undotted (undotted_steps base) (resolve_eq found fs true).1
  rw [first] at same
  cases same
  exact ⟨there, found, follow_name isName (lookup_of_follow first) last, lookup_of_follow last⟩

/-! ## What is listed -/

/-- What is there is listed. -/
theorem mem_children (found : fs.lookup (there ++ [name]) = some node) :
    (name, node) ∈ fs.children there := by
  unfold lookup at found
  rw [if_neg (by simp)] at found
  obtain ⟨entry, first, rfl⟩ := Option.map_eq_some_iff.mp found
  have place : entry.1 = there ++ [name] := by simpa using List.find?_some first
  refine List.mem_filterMap.mpr ⟨entry, List.mem_of_find?_eq_some first, ?_⟩
  simp [place]

/-- **The listing of a directory shows what a name under it leads to.** -/
theorem listDirectory_of_join (directory : fs.isDirectory base) (isName : IsName name)
    (resolved : fs.resolve (join base name) false = .ok (place, some node)) :
    ∃ entries, fs.listDirectory base = .ok entries ∧ (.text name, node) ∈ entries := by
  obtain ⟨there, led, rfl, found⟩ := resolve_directory_of_join directory isName resolved
  exact ⟨fs.allChildren there, by rw [listDirectory, led]; rfl,
    mem_allChildren_text_iff.mpr (mem_children found)⟩

/-- A path that names something else than a link leads to it. -/
theorem resolve_true_of_noLink (noLink : ∀ target, node ≠ .link target)
    (resolved : fs.resolve path false = .ok (place, some node)) :
    fs.resolve path true = .ok (place, some node) := by
  obtain ⟨reached, again⟩ := resolve_eq resolved fs true
  rw [again, follow_true_of_noLink (by simpa using noLink) reached]
  rfl

/-- A path that names a file leads to the file. -/
theorem isFile_of_resolve {content : List UInt8}
    (resolved : fs.resolve path false = .ok (place, some (.file content))) : fs.isFile path :=
  isFile_iff.mpr ⟨place, content, resolve_true_of_noLink (by simp) resolved⟩

end FileSystem

end GuestSupervisor
