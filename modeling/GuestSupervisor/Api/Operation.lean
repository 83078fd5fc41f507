import GuestSupervisor.Api.Message
import GuestSupervisor.Api.Target

/-!
# Operations of the API

What a request can ask for. A path leads to at most one operation that only looks
and at most one that changes something; the method chooses between them.

## Main Definitions

* `Operation`: what can be asked for.
* `Resource.ofPath?`: the operations at a path.
* `Operation.ofRequest`: the operation that a request asks for.
-/

namespace GuestSupervisor.Api

/-- What the API can do. -/
inductive Operation where
  | showStatus
  | showConfiguration
  | editConfiguration
  | start
  | restart
  /-- Stop, reset, pause or resume; the action is still encoded. -/
  | control (action : String)
  | takeScreenshot
  | latestScreenshot
  | listDisks
  | createDisk
  | deleteDisk
  | resizeDisk
  | listIsos
  | listUsbDevices
  | attachUsbDevice
  | detachUsbDevice
  deriving DecidableEq, Repr, Inhabited

/-- The operations at one path. -/
structure Resource where
  look : Option Operation
  change : Option Operation
  deriving DecidableEq, Repr, Inhabited

namespace Resource

/-- A resource to look at. -/
def view (operation : Operation) : Resource := ⟨some operation, none⟩

/-- A resource that does something. -/
def action (operation : Operation) : Resource := ⟨none, some operation⟩

/-- The resource at a path below the API's own. -/
def below? : List String → Option Resource
  | ["status"] => some (view .showStatus)
  | ["config"] => some ⟨some .showConfiguration, some .editConfiguration⟩
  | ["start"] => some (action .start)
  | ["restart"] => some (action .restart)
  | ["control", name] => if name.isEmpty then none else some (action (.control name))
  | ["screenshot"] => some (action .takeScreenshot)
  | ["screenshot", "latest"] => some (view .latestScreenshot)
  | ["disks"] => some (view .listDisks)
  | ["disks", "create"] => some (action .createDisk)
  | ["disks", "delete"] => some (action .deleteDisk)
  | ["disks", "resize"] => some (action .resizeDisk)
  | ["isos"] => some (view .listIsos)
  | ["iso"] => some (view .listIsos)
  | ["usb"] => some (view .listUsbDevices)
  | ["usb", "attach"] => some (action .attachUsbDevice)
  | ["usb", "detach"] => some (action .detachUsbDevice)
  | _ => none

/-- The resource at a path. -/
def ofPath? : List String → Option Resource
  | "" :: "api" :: rest => below? rest
  | _ => none

/-- The operation of a resource that a method asks for. -/
def operation? (r : Resource) (method : String) : Option Operation :=
  match method with
  | "GET" | "HEAD" => r.look
  | "POST" => r.change
  | _ => none

end Resource

/-- The operation that a method at a path asks for, or the status that refuses it. -/
def Operation.ofRequest (method : String) (path : List String) : Except Status Operation :=
  match Resource.ofPath? path with
  | none => .error .notFound
  | some resource =>
    match resource.operation? method with
    | none => .error .methodNotAllowed
    | some operation => .ok operation

end GuestSupervisor.Api
