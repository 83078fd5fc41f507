import GuestSupervisor.Text.Basic
import GuestSupervisor.Text.Utf8

/-!
# Paths

A path is a string; what it means is the list of its parts. Empty parts and
interior `.` parts mean nothing, so `a//./b/` and `a/b` are the same path. The
operating system has paths and names that are no text, too; nothing is done with
these but to refuse them, to pass them over or to show them.

## Main Definitions

* `OsPath`: a path or a name as the operating system has it.

* `Path.join`: a path under a base directory.
* `Path.parts`: the parts of a path, and `Path.same`, equality of parts.
* `Path.parent?`, `Path.fileName?`, `Path.extension?`.
-/

namespace GuestSupervisor

open Text

/-- Bytes that are no text. -/
abbrev Undecodable := { bytes : List UInt8 // Utf8.toString? bytes = none }

/-- A path or a name as the operating system has it. -/
inductive OsPath where
  | text (path : String)
  | undecodable (bytes : Undecodable)
  deriving DecidableEq, Repr, Inhabited

namespace OsPath

/-- The path that the given bytes name. -/
def ofBytes (bytes : List UInt8) : OsPath :=
  match text : Utf8.toString? bytes with
  | some path => .text path
  | none => .undecodable ⟨bytes, text⟩

/-- The path, if it is text. -/
def text? : OsPath → Option String
  | text path => some path
  | undecodable _ => none

/-- The path as messages show it: what is no text in it is replaced. -/
def shown : OsPath → String
  | text path => path
  | undecodable bytes => Utf8.toStringLossy bytes

end OsPath

namespace Path

/-- Whether a path starts at the root directory. -/
def isAbsolute (path : String) : Bool := path.toList.head? == some '/'

/-- `path` under `base`: an absolute path stands alone, any other is written after
the base and a slash. -/
def join (base path : String) : String :=
  if isAbsolute path then path
  else if base.toList.getLast?.all (· == '/') then base ++ path
  else base ++ "/" ++ path

/-- A path as one that can be opened: the empty path means the working directory. -/
def orHere (path : String) : String := if path.isEmpty then "." else path

/-- One step of a path. -/
inductive Part where
  /-- The root directory. -/
  | root
  /-- The directory itself; only the first part of a relative path. -/
  | current
  /-- The directory above. -/
  | above
  /-- An entry of the directory. -/
  | name (text : String)
  deriving DecidableEq, Repr

/-- The pieces of a path between its slashes, the empty ones left out. -/
def pieces (path : String) : List String :=
  (segments '/' path.toList).filterMap fun piece =>
    if piece.isEmpty then none else some (String.ofList piece)

/-- A piece as a part. -/
def Part.ofPiece (piece : String) : Part :=
  if piece = "." then .current else if piece = ".." then .above else .name piece

/-- The parts of a path. -/
def parts (path : String) : List Part :=
  let all := (pieces path).map Part.ofPiece
  if isAbsolute path then .root :: all.filter (· != .current)
  else match all with
    | .current :: rest => .current :: rest.filter (· != .current)
    | all => all.filter (· != .current)

/-- Whether two texts are the same path. -/
def same (a b : String) : Bool := parts a == parts b

/-- The text of one part. -/
def Part.text : Part → String
  | .root => ""
  | .current => "."
  | .above => ".."
  | .name text => text

/-- A path with the given parts. -/
def ofParts (parts : List Part) : String :=
  if parts = [.root] then "/" else "/".intercalate (parts.map Part.text)

/-- The path without its last part; the root directory and the empty path have
none. -/
def parent? (path : String) : Option String :=
  match (parts path).getLast? with
  | none | some .root => none
  | some _ => some (ofParts (parts path).dropLast)

/-- The last part of a path, when it is a name. -/
def fileName? (path : String) : Option String :=
  match (parts path).getLast? with
  | some (.name text) => some text
  | _ => none

/-- What follows the last dot of a name, unless that dot is its first
character. -/
def nameExtension? (name : String) : Option String :=
  let reversed := name.toList.reverse
  match reversed.dropWhile (· != '.') with
  | _ :: _ :: _ => some (String.ofList (reversed.takeWhile (· != '.')).reverse)
  | _ => none

/-- The extension of a path's last name. -/
def extension? (path : String) : Option String := (fileName? path).bind nameExtension?

/-- Whether a path has the extension, up to the case of ASCII letters. -/
def hasExtension (path extension : String) : Bool :=
  (extension? path).any fun e => equalsIgnoringCase e.toList extension.toList

end Path

end GuestSupervisor
