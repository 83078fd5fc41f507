import GuestSupervisor.Host.Failure
import GuestSupervisor.Host.Path
import GuestSupervisor.Text.Utf8

/-!
# File system

The host's files as a value: a list of entries by location, a location being the
names from the root directory down. Paths are resolved the way the operating
system does, link by link, and every operation is a function from file systems
to file systems.

## Main Definitions

* `Location`, `Node`, `FileSystem`: entries and what they are.
* `FileSystem.view`: what is where, in whatever order the entries stand.
* `FileSystem.resolve`: where a path leads and what is there.
* `readBytes`, `readText`, `listDirectory`, `isFile`: looking.
* `makeDirectories`, `writeFile`, `replaceFile`, `removeFile`, `makeLink`,
  `placeSocket`: changing.
* `FileSystem.tree`: everything below a directory, in byte order.

## Design Notes

Resolution is two structural recursions: `descend` walks down until a symbolic
link stops it, `follow` spends one unit of a budget of forty for each link and
descends again. Nobody but this library changes the file system while an
operation runs, so where the host refuses nothing of its own accord, writing a file
aside and renaming it over the old one is one step, `replaceFile`. An entry whose
name is no text is seen only by those who list the directory.
-/

namespace GuestSupervisor

open Text

/-- The names that lead to an entry from the root directory. -/
abbrev Location := List String

/-- What an entry of the file system is. -/
inductive Node where
  | directory
  | file (content : List UInt8)
  | link (target : String)
  /-- A socket that the process with this number listens on, or listened on. -/
  | socket (listener : Nat)
  deriving DecidableEq, Repr, Inhabited

/-- The files of a host. -/
structure FileSystem where
  /-- Every entry but the root directory, which is always there. -/
  entries : List (Location × Node)
  /-- Where relative paths start. -/
  workingDirectory : Location
  /-- The entries whose names are no text, each with the directory it is in. -/
  strays : List ((Location × Undecodable) × Node) := []
  deriving Repr, Inhabited

/-- The files of a host as a program finds them: what is where. -/
structure View where
  node : Location → Option Node
  stray : Location × Undecodable → Option Node
  workingDirectory : Location

namespace FileSystem

/-! ### Entries -/

/-- What is at a location. -/
def lookup (fs : FileSystem) (place : Location) : Option Node :=
  if place = [] then some .directory else (fs.entries.find? (·.1 == place)).map (·.2)

/-- The file system with `node` at a location. -/
def put (fs : FileSystem) (place : Location) (node : Node) : FileSystem :=
  { fs with entries := (place, node) :: fs.entries.filter (·.1 != place) }

/-- The file system with nothing at a location. -/
def drop (fs : FileSystem) (place : Location) : FileSystem :=
  { fs with entries := fs.entries.filter (·.1 != place) }

/-- The file system as a program finds it. -/
def view (fs : FileSystem) : View where
  node := fs.lookup
  stray := fun place => (fs.strays.find? (·.1 == place)).map (·.2)
  workingDirectory := fs.workingDirectory

/-- The names in a directory and what they are, in no particular order. -/
def children (fs : FileSystem) (directory : Location) : List (String × Node) :=
  fs.entries.filterMap fun (place, node) =>
    match place.getLast? with
    | some name => if place.dropLast = directory then some (name, node) else none
    | none => none

/-- The names in a directory that are no text, and what they are. -/
def strayChildren (fs : FileSystem) (directory : Location) : List (Undecodable × Node) :=
  fs.strays.filterMap fun ((place, name), node) =>
    if place = directory then some (name, node) else none

/-- All names in a directory and what they are. -/
def allChildren (fs : FileSystem) (directory : Location) : List (OsPath × Node) :=
  (fs.children directory).map (fun (name, node) => (.text name, node))
    ++ (fs.strayChildren directory).map fun (name, node) => (.undecodable name, node)

/-! ### Resolution -/

/-- How many symbolic links one path may lead through. -/
def linkBudget : Nat := 40

/-- The longest name of an entry, in bytes. -/
def longestName : Nat := 255

/-- The longest path, in bytes. -/
def longestPath : Nat := 4095

/-- The steps that a path asks for. A slash at the end asks for a directory. -/
def steps (path : String) : List String :=
  let pieces := Path.pieces path
  if path.toList.getLast? = some '/' && !pieces.isEmpty then pieces ++ ["."] else pieces

/-- Where walking down a path ended. -/
inductive Descent where
  /-- At this location, with what is there, if anything. -/
  | arrived (place : Location) (node : Option Node)
  /-- At a link in directory `place`, with the steps that remain behind it. -/
  | atLink (place : Location) (target : String) (remaining : List String)
  | failed (error : OsError)

/-- Walks from a location along the given steps, up to the first link that has to
be followed. The last step's link is followed only if `followLast` says so. -/
def descend (fs : FileSystem) (followLast : Bool) (place : Location) : List String → Descent
  | [] => .arrived place (fs.lookup place)
  | step :: rest =>
    match fs.lookup place with
    | none => .failed .noEntry
    | some .directory =>
      if step = "." then descend fs followLast place rest
      else if step = ".." then descend fs followLast place.dropLast rest
      else if longestName < step.utf8ByteSize then .failed .nameTooLong
      else
        let there := place ++ [step]
        match fs.lookup there with
        | none => if rest.isEmpty then .arrived there none else .failed .noEntry
        | some (.link target) =>
          if rest.isEmpty && !followLast then .arrived there (some (.link target))
          else .atLink place target rest
        | some _ => descend fs followLast there rest
    | some _ => .failed .notDirectory

/-- Walks along the steps, following at most `budget` links. -/
def follow (fs : FileSystem) (followLast : Bool) :
    Nat → Location → List String → Except OsError (Location × Option Node)
  | budget, place, todo =>
    match descend fs followLast place todo with
    | .arrived there node => .ok (there, node)
    | .failed error => .error error
    | .atLink directory target remaining =>
      match budget with
      | 0 => .error .tooManyLinks
      | budget + 1 =>
        follow fs followLast budget (if Path.isAbsolute target then [] else directory)
          (steps target ++ remaining)

/-- Where a path leads and what is there. All but the last step must exist. -/
def resolve (fs : FileSystem) (path : String) (followLast : Bool) :
    Except IoFailure (Location × Option Node) :=
  if path.toList.contains '\x00' then .error .zeroInPath
  else if path.isEmpty then .error (.os .noEntry)
  else if longestPath < path.utf8ByteSize then .error (.os .nameTooLong)
  else
    (follow fs followLast linkBudget (if Path.isAbsolute path then [] else fs.workingDirectory)
      (steps path)).mapError .os

/-! ### Looking -/

/-- What a path leads to, through links. -/
def node? (fs : FileSystem) (path : String) : Except IoFailure Node := do
  match ← fs.resolve path true with
  | (_, some node) => .ok node
  | (_, none) => .error (.os .noEntry)

/-- Whether a path leads to a regular file. -/
def isFile (fs : FileSystem) (path : String) : Bool :=
  match fs.node? path with
  | .ok (.file _) => true
  | _ => false

/-- Whether a path leads to a directory. -/
def isDirectory (fs : FileSystem) (path : String) : Bool :=
  match fs.node? path with
  | .ok .directory => true
  | _ => false

/-- Whether a path leads to anything. -/
def pathExists (fs : FileSystem) (path : String) : Bool := (fs.node? path).toOption.isSome

/-- The bytes of the file that a path leads to. -/
def readBytes (fs : FileSystem) (path : String) : Except IoFailure (List UInt8) := do
  match ← fs.node? path with
  | .file content => .ok content
  | .directory => .error (.os .isDirectory)
  | .socket _ => .error (.os .noDevice)
  | .link _ => .error (.os .tooManyLinks)

/-- The text of the file that a path leads to. -/
def readText (fs : FileSystem) (path : String) : Except IoFailure String := do
  match Utf8.toString? (← fs.readBytes path) with
  | some text => .ok text
  | none => .error .notUtf8

/-- The size that a directory is reported with. -/
def directorySize : Nat := 4096

/-- The size that is reported for what a path leads to. -/
def reportedSize? (fs : FileSystem) (path : String) : Option Nat :=
  match fs.node? path with
  | .ok (.file content) => some content.length
  | .ok .directory => some directorySize
  | .ok _ => some 0
  | .error _ => none

/-- The entries of the directory that a path leads to. -/
def listDirectory (fs : FileSystem) (path : String) : Except IoFailure (List (OsPath × Node)) := do
  match ← fs.resolve path true with
  | (place, some .directory) => .ok (fs.allChildren place)
  | (_, some _) => .error (.os .notDirectory)
  | (_, none) => .error (.os .noEntry)

/-! ### Changing -/

/-- A path without the slashes at its end. -/
def withoutFinalSlashes (path : String) : String :=
  let kept := (path.toList.reverse.dropWhile (· == '/')).reverse
  if kept.isEmpty then path else String.ofList kept

/-- Makes one directory. -/
def makeDirectory (fs : FileSystem) (path : String) : Except IoFailure FileSystem := do
  match ← fs.resolve (withoutFinalSlashes path) false with
  | (place, none) => .ok (fs.put place .directory)
  | (_, some _) => .error (.os .alreadyExists)

/-- Makes the directories named by the given ancestors of a path, the path itself
first and then upwards: a missing ancestor is made before what is under it. How one
directory is made is given. -/
def makeDirectories.upwards (make : FileSystem → String → Except IoFailure FileSystem)
    (fs : FileSystem) : List String → Except IoFailure Unit × FileSystem
  | [] => (.ok (), fs)
  | path :: ancestors =>
    match make fs path with
    | .ok made => (.ok (), made)
    | .error failure =>
      if failure.isMissing then
        match makeDirectories.upwards make fs ancestors with
        | (.error failure, fs) => (.error failure, fs)
        | (.ok (), fs) =>
          match make fs path with
          | .ok made => (.ok (), made)
          | .error failure =>
            if fs.isDirectory path then (.ok (), fs) else (.error failure, fs)
      else if fs.isDirectory path then (.ok (), fs)
      else (.error failure, fs)

/-- A path and its ancestors, nearest first; the empty path is not among them. -/
def ancestors (path : String) : List String :=
  let parts := Path.parts path
  let shorter := (List.range parts.length).map fun k => parts.take (parts.length - k)
  (shorter.filter (!·.isEmpty)).map Path.ofParts

/-- Makes a directory and all directories above it that are missing. Those made
before a failure stay. -/
def makeDirectories (fs : FileSystem) (path : String) : Except IoFailure Unit × FileSystem :=
  if path.toList.contains '\x00' then (.error .zeroInPath, fs)
  else makeDirectories.upwards makeDirectory fs (ancestors path)

/-- Writes a file, making it when there is none. -/
def writeFile (fs : FileSystem) (path : String) (content : List UInt8) :
    Except IoFailure FileSystem := do
  match ← fs.resolve path true with
  | (place, none) => .ok (fs.put place (.file content))
  | (place, some (.file _)) => .ok (fs.put place (.file content))
  | (_, some .directory) => .error (.os .isDirectory)
  | (_, some _) => .error (.os .noDevice)

/-- Puts a finished file in the place that a path names, as a rename does: over a
file or a link, but not over a directory. The path has to end in a name, and since
the file is no directory, without a slash behind it. -/
def replaceFile (fs : FileSystem) (path : String) (content : List UInt8) :
    Except IoFailure FileSystem := do
  let (place, node) ← fs.resolve (withoutFinalSlashes path) false
  let last := ((Path.pieces path).getLast?.map Path.Part.ofPiece).getD .root
  if last matches .root | .current | .above then .error (.os .busy)
  else if path.toList.getLast? = some '/' then .error (.os .notDirectory)
  else if node = some .directory then .error (.os .isDirectory)
  else .ok (fs.put place (.file content))

/-- Removes what a path names, a link itself and not what it leads to. -/
def removeFile (fs : FileSystem) (path : String) : Except IoFailure FileSystem := do
  match ← fs.resolve path false with
  | (_, none) => .error (.os .noEntry)
  | (_, some .directory) => .error (.os .isDirectory)
  | (place, some _) => .ok (fs.drop place)

/-- Makes a symbolic link. -/
def makeLink (fs : FileSystem) (path target : String) : Except IoFailure FileSystem := do
  match ← fs.resolve path false with
  | (place, none) => .ok (fs.put place (.link target))
  | (_, some _) => .error (.os .alreadyExists)

/-- Binds a socket for a listener. -/
def placeSocket (fs : FileSystem) (path : String) (listener : Nat) :
    Except IoFailure FileSystem := do
  match ← fs.resolve path false with
  | (place, none) => .ok (fs.put place (.socket listener))
  | (_, some _) => .error (.os .addressInUse)

/-! ### Everything at once -/

/-- The text of a location below `root`, with a slash at the end of a directory. -/
def relativeText (root : Location) (place : Location) (node : Node) : String :=
  let text := "/".intercalate (place.drop root.length)
  match node with
  | .directory => text ++ "/"
  | _ => text

/-- Everything below a directory that has a path, in ascending order of the bytes of the
paths. -/
def tree (fs : FileSystem) (root : Location) : List String :=
  let below := fs.entries.filter fun (place, _) =>
    root.isPrefixOf place && root.length < place.length
  (below.map fun (place, node) => relativeText root place node).mergeSort (fun a b => a ≤ b)

end FileSystem

end GuestSupervisor
