import GuestSupervisor.Host.Failure
import GuestSupervisor.Text.Blank
import GuestSupervisor.Text.Quoted

/-!
# Image names and sizes

A request to the image library brings a name and sometimes a size. Both are checked
here, before any tool is run: a name must be that of an entry right inside the
library's directory, a size must be one the image tool cannot take for anything
else.

## Main Definitions

* `ImageError`: why the library refused.
* `ImageName.sanitize`: a usable name for a new disk.
* `ImageName.check`: refuses a name that could lead outside.
* `Capacity.isValid`: digits with an optional unit and, for changes, a sign.
-/

namespace GuestSupervisor

open Text

/-- Why the image library refused a request. -/
inductive ImageError where
  | invalidName (name : String)
  | invalidSize (size : String)
  | alreadyExists (name : String)
  | notFound (name : String)
  /-- The configuration attaches this disk. -/
  | inUse (name : String)
  /-- The image tool failed. -/
  | tool (text : String)
  | io (failure : IoFailure)
  deriving DecidableEq, Repr, Inhabited

/-- The text that is shown for an error. -/
def ImageError.message : ImageError → String
  | invalidName name => "invalid image name " ++ quote name
  | invalidSize size => "invalid size " ++ quote size ++ " (expected e.g. 10G, 512M, +2G)"
  | alreadyExists name => "disk " ++ name ++ " already exists"
  | notFound name => "disk " ++ name ++ " not found"
  | inUse name => "disk " ++ name ++ " is currently configured"
  | tool text => "qemu-img failed: " ++ text
  | io failure => "image library i/o: " ++ failure.message

namespace ImageName

/-- Whether a character may stand in the name of a new disk. -/
def isAllowed (c : Char) : Bool := c.isAlphanum || c == '.' || c == '_' || c == '-'

/-- The ending of a new disk's name. -/
def ending : List Char := ".qcow2".toList

/-- A name with the ending of a new disk. -/
def withEnding (name : List Char) : List Char :=
  if ending.isSuffixOf name then name else name ++ ending

/-- Whether a name is that of an entry: not empty, no dots alone, no separator of
paths and no zero character. -/
def isPlain (name : List Char) : Bool :=
  !name.isEmpty && name != ['.'] && name != ['.', '.']
    && name.all fun c => c != '/' && c != '\\' && c != '\x00'

/-- Refuses a name that is not plain. -/
def check (name : String) : Except ImageError Unit :=
  if isPlain name.toList then .ok () else .error (.invalidName name)

/-- The name of a new disk: the allowed characters of what was asked for, with the
ending of a disk. A name that would be hidden is refused. -/
def sanitize (name : String) : Except ImageError String := do
  let clean := withEnding ((trim name.toList).filter isAllowed)
  check (String.ofList clean)
  if clean.head? = some '.' then .error (.invalidName name) else .ok (String.ofList clean)

end ImageName

namespace Capacity

/-- The letters that stand for a unit. -/
def units : List Char := ['K', 'M', 'G', 'T']

/-- A text without the unit at its end. -/
def dropUnit (text : List Char) : List Char :=
  if text.getLast?.any (units.contains ·) then text.dropLast else text

/-- Whether a text is a number with at most one unit. -/
def isAmount (text : List Char) : Bool :=
  let digits := dropUnit text
  !digits.isEmpty && digits.all Char.isDigit

/-- Whether a text is a size. A size that changes a disk may have a sign. -/
def isValid (changes : Bool) (text : List Char) : Bool :=
  match text with
  | '+' :: rest => changes && isAmount rest
  | '-' :: rest => changes && isAmount rest
  | text => isAmount text

/-- Refuses what is not a size. -/
def check (changes : Bool) (size : String) : Except ImageError Unit :=
  if isValid changes size.toList then .ok () else .error (.invalidSize size)

end Capacity

end GuestSupervisor
