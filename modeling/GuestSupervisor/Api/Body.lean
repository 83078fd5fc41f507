import GuestSupervisor.Api.MediaType
import GuestSupervisor.Api.Message
import GuestSupervisor.Json.Record
import GuestSupervisor.Text.Blank

/-!
# What requests carry

The values that the bodies of requests hold, and how a body is read.

## Main Definitions

* `Request.read`: the value in a body, or the status that refuses it.
* `DiskRequest`, `UsbRequest`: an image or a device to do something with.
* `readAssignments`: assignments to a configuration, each key once.
-/

namespace GuestSupervisor.Api

open Text

/-- How large a body can be, in bytes. -/
def largestBody : Nat := 2097152

/-- The value that the body of a request holds. The kind of content is looked at
first, then the size, then the text. -/
def Request.read (request : Request) (value : List Char → Except Problem α) : Except Status α :=
  let kind := request.contentType.bind fun text => MediaType.ofText? text.toList
  if !kind.any MediaType.isJson then .error .unsupportedMediaType
  else if largestBody < request.body.utf8ByteSize then .error .contentTooLarge
  else
    match value request.body.toList with
    | .ok value => .ok value
    | .error .malformed => .error .badRequest
    | .error .mismatch => .error .unprocessable

/-! ### Images -/

/-- An image, and perhaps a size for it. -/
structure DiskRequest where
  name : String := ""
  size : Option String := none
  deriving DecidableEq, Repr, Inhabited

namespace DiskRequest

/-- Both members may be missing, and the size may be null. -/
def record : Record DiskRequest where
  start := {}
  fields :=
    [ ⟨"name", fun v r => v.asString.map fun name => { r with name }, false, false⟩,
      ⟨"size", fun v r => v.asOptionalString.map fun size => { r with size }, false, false⟩ ]

/-- The name without blanks around it. -/
def trimmedName (r : DiskRequest) : String := String.ofList (trim r.name.toList)

/-- The size without blanks around it. -/
def trimmedSize? (r : DiskRequest) : Option String :=
  r.size.map fun size => String.ofList (trim size.toList)

end DiskRequest

/-! ### Devices -/

/-- A device of the host. -/
structure UsbRequest where
  vendorId : String := ""
  productId : String := ""
  deriving DecidableEq, Repr, Inhabited

namespace UsbRequest

/-- Both members may be missing. -/
def record : Record UsbRequest where
  start := {}
  fields :=
    [ ⟨"vendor_id", fun v r => v.asString.map fun vendorId => { r with vendorId }, false, false⟩,
      ⟨"product_id", fun v r => v.asString.map fun productId => { r with productId },
        false, false⟩ ]

/-- An id in the spelling that commands use: without blanks around it and in lower
case. -/
def canonicalId (id : String) : String := String.ofList (asciiLower (trim id.toList))

/-- Vendor and product, unless one of them is missing. -/
def ids? (r : UsbRequest) : Option (String × String) :=
  let vendor := canonicalId r.vendorId
  let product := canonicalId r.productId
  if vendor.isEmpty || product.isEmpty then none else some (vendor, product)

end UsbRequest

/-! ### Assignments -/

/-- Members whose values are strings. -/
def readStringMembers : List (Option String × Reading) → Except Problem (List (String × String))
  | [] => .ok []
  | (none, _) :: _ => .error .malformed
  | (some name, value) :: rest => do
    let text ← value.asString
    let others ← readStringMembers rest
    .ok ((name, text) :: others)

/-- The assignments sorted by key. Of two to one key the later one counts. -/
def sortAssignments (assignments : List (String × String)) : List (String × String) :=
  let last := assignments.foldr
    (fun a kept => if kept.any (·.1 == a.1) then kept else a :: kept) []
  last.mergeSort fun a b => a.1 ≤ b.1

/-- The assignments that a tree holds: an object of strings. -/
def assignmentsOf : Reading → Except Problem (List (String × String))
  | .object members closed => do
    let assignments ← readStringMembers members
    if closed then .ok (sortAssignments assignments) else .error .malformed
  | other => .error other.refusal

/-- The assignments that a text holds, with nothing but blanks behind it. -/
def readAssignments (text : List Char) : Except Problem (List (String × String)) :=
  let (tree, atEnd) := Reading.ofText text
  match assignmentsOf tree with
  | .error problem => .error problem
  | .ok assignments => if atEnd then .ok assignments else .error .malformed

end GuestSupervisor.Api
