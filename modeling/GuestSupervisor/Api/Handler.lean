import GuestSupervisor.Api.Body
import GuestSupervisor.Api.Error
import GuestSupervisor.Api.Operation
import GuestSupervisor.Service.Capture
import GuestSupervisor.Text.Numeral
import GuestSupervisor.Usb

/-!
# Handling requests

The service answers requests: each is taken apart, its operation is carried out, and
what came of it is told.

## Main Definitions

* `Service.handle`: the response to a request, and everything after it.
* `Service.perform`: the response of one operation.

## Design Notes

A request is refused as a whole before its operation touches anything. The response
to someone who asks for the head alone is made like any other and loses its content
at the end.
-/

namespace GuestSupervisor

open Api Supervisor

namespace Service

/-- What is answered, and everything after it. -/
abbrev Answered := Response × Schedule

/-- The answer to a value, or to the error in its place. -/
def answer (tell : α → Response) : Except ApiError α → Response
  | .ok value => tell value
  | .error e => e.response

/-! ### Configuration -/

/-- Shows the stored configuration. -/
def showConfiguration (service : Service) (w : Schedule) : Response :=
  let loaded := service.store.load w.system.host.files
  .value (.object
    [ ("config", loaded.configuration.toJson),
      ("warnings", .array (loaded.warnings.map fun e => .string e.message)),
      ("path", .string service.store.path) ])

/-- Makes assignments in the stored configuration, in the order of their keys. -/
def editConfiguration (service : Service) (assignments : List (String × String)) (w : Schedule) :
    Answered :=
  let (result, files) := service.store.setAll assignments w.system.host.files
  let w := w.withFiles files
  match result with
  | .error e => ((ApiError.ofConfiguration e).response, w)
  | .ok c =>
    let (report, w) := service.status w
    (.value (.object
      [ ("success", .bool true), ("config", c.toJson),
        ("restart_required", .bool report.running) ]), w)

/-! ### The instance -/

/-- Tells that an instance was started, and its process if that is asked for. -/
def startedText (withPid : Bool) (h : Handle) : String :=
  let pid := if withPid then " (pid " ++ toString h.pid.toNat ++ ")" else ""
  "instance " ++ toString h.generation ++ " started" ++ pid

/-- Starts an instance. -/
def startInstance (service : Service) (w : Schedule) : Answered :=
  let (result, w) := service.start w
  (answer (.done ∘ startedText true) (result.mapError .ofStart), w)

/-- Starts an instance in the place of the one that runs. -/
def restartInstance (service : Service) (w : Schedule) : Answered :=
  let (result, w) := service.restart w
  (answer (.done ∘ startedText false) (result.mapError .ofStart), w)

/-- Stops the instance. -/
def stopInstance (w : Schedule) : Answered :=
  let (result, w) := w.stop
  let tell (h : Handle) : Response :=
    .done ("instance " ++ toString h.generation ++ " " ++ h.phase.word)
  (answer tell (result.mapError .ofTerminate), w)

/-- Sends a command to the instance and tells what the monitor said. -/
def send (expected : Option Nat) (command : ControlCommand) (w : Schedule) : Answered :=
  let (result, w) := w.request expected command
  (answer .done (result.mapError .ofChannel), w)

/-- The command of an action. -/
def actionCommand? : String → Option ControlCommand
  | "reset" => some .reset
  | "pause" => some .pause
  | "resume" => some .resume
  | _ => none

/-- The generation that a query names, if it names one; a query that names it twice or
not by a number of sixty-four bits is refused. -/
def generationOf? (query : List (String × String)) : Option (Option Nat) :=
  match query.filter (·.1 == "generation") with
  | [] => some none
  | [(_, value)] => (Text.readUInt64? value.toList).map fun n => some n.toNat
  | _ => none

/-- Carries out an action on the instance. Stopping asks for no generation. -/
def control (action : String) (query : List (String × String)) (w : Schedule) : Answered :=
  match decodePiece? action.toList, generationOf? query with
  | some action, some expected =>
    if action = "stop" then stopInstance w
    else
      match actionCommand? action with
      | some command => send expected command w
      | none => (.failed .badRequest ("invalid action: " ++ action), w)
  | _, _ => (.rejection .badRequest, w)

/-! ### Pictures -/

/-- Takes a picture of the guest's screen. -/
def takeScreenshot (service : Service) (w : Schedule) : Answered :=
  let (result, w) := service.capture w
  (answer .done (result.mapError fun e => .ofFailure (.ofScreenshot e)), w)

/-- Shows the latest picture. -/
def latestScreenshot (service : Service) (w : Schedule) : Response :=
  let files := w.system.host.files
  match service.screenshots.latest? files with
  | none => .failed .notFound "no screenshot available"
  | some path =>
    match files.readBytes path with
    | .ok content => ⟨.ok, .png content⟩
    | .error failure =>
      (ApiError.ofFailure (.during ("read " ++ path) (.text failure.message))).response

/-! ### Images -/

/-- Lists the disks. -/
def listDisks (service : Service) (w : Schedule) : Answered :=
  let (result, host) := service.images.listDisks w.system.host
  let tell disks : Response := .value (.object [("disks", .array (disks.map DiskImage.toJson))])
  (answer tell (result.mapError .ofImage), w.withHost host)

/-- Lists the discs. -/
def listIsos (service : Service) (w : Schedule) : Response :=
  let tell isos : Response := .value (.object [("isos", .array (isos.map IsoImage.toJson))])
  answer tell ((service.images.listIsos w.system.host).mapError .ofImage)

/-- How large a disk becomes when nobody says it. -/
def usualCapacity : String := "10G"

/-- Makes a disk. -/
def createDisk (service : Service) (r : DiskRequest) (w : Schedule) : Answered :=
  if r.trimmedName.isEmpty then (.failed .badRequest "disk name required", w)
  else
    let size := r.trimmedSize?.getD usualCapacity
    let (result, host) := service.images.createDisk r.name size w.system.host
    (answer .done (result.mapError .ofImage), w.withHost host)

/-- Deletes a disk that the stored configuration does not attach. -/
def deleteDisk (service : Service) (r : DiskRequest) (w : Schedule) : Answered :=
  let name := r.trimmedName
  if name.isEmpty then (.failed .badRequest "disk name required", w)
  else
    let files := w.system.host.files
    let c := (service.store.load files).configuration
    let (result, files) := service.images.deleteDisk name c files
    (answer (fun _ => .done "") (result.mapError .ofImage), w.withFiles files)

/-- Resizes a disk. -/
def resizeDisk (service : Service) (r : DiskRequest) (w : Schedule) : Answered :=
  let name := r.trimmedName
  let size := r.trimmedSize?.getD ""
  if name.isEmpty || size.isEmpty then (.failed .badRequest "disk name and size required", w)
  else
    let (result, host) := service.images.resizeDisk name size w.system.host
    (answer (fun _ => .done "") (result.mapError .ofImage), w.withHost host)

/-! ### Devices -/

/-- Lists the devices of the host. -/
def listUsbDevices (w : Schedule) : Answered :=
  let (devices, host) := UsbDevice.ofHost w.system.host
  (.value (.object [("devices", .array (devices.map UsbDevice.toJson))]), w.withHost host)

/-- Sends a command about a device. -/
def sendAboutDevice (command : String → String → ControlCommand) (r : UsbRequest) (w : Schedule) :
    Answered :=
  match r.ids? with
  | none => (.failed .badRequest "vendor and product id required", w)
  | some (vendor, product) => send none (command vendor product) w

/-! ### Requests -/

/-- Does something with the value in a request's body, unless there is none. -/
def withBody (request : Request) (read : List Char → Except Problem α) (w : Schedule)
    (act : α → Answered) : Answered :=
  match request.read read with
  | .ok value => act value
  | .error status => (.rejection status, w)

/-- Carries out an operation. -/
def perform (service : Service) (operation : Operation) (query : List (String × String))
    (request : Request) (w : Schedule) : Answered :=
  match operation with
  | .showStatus => let (report, w) := service.status w; (.value report.toJson, w)
  | .showConfiguration => (service.showConfiguration w, w)
  | .editConfiguration =>
    withBody request readAssignments w fun assignments => service.editConfiguration assignments w
  | .start => service.startInstance w
  | .restart => service.restartInstance w
  | .control action => control action query w
  | .takeScreenshot => service.takeScreenshot w
  | .latestScreenshot => (service.latestScreenshot w, w)
  | .listDisks => service.listDisks w
  | .createDisk => withBody request DiskRequest.record.readText w fun r => service.createDisk r w
  | .deleteDisk => withBody request DiskRequest.record.readText w fun r => service.deleteDisk r w
  | .resizeDisk => withBody request DiskRequest.record.readText w fun r => service.resizeDisk r w
  | .listIsos => (service.listIsos w, w)
  | .listUsbDevices => listUsbDevices w
  | .attachUsbDevice =>
    withBody request UsbRequest.record.readText w fun r => sendAboutDevice .usbAttach r w
  | .detachUsbDevice =>
    withBody request UsbRequest.record.readText w fun r => sendAboutDevice .usbDetach r w

/-- The response to a request. -/
def handle (service : Service) (request : Request) (w : Schedule) : Answered :=
  let target := Target.ofText request.target.toList
  let (response, w) := match Operation.ofRequest request.method target.path with
    | .error status => (Response.rejection status, w)
    | .ok operation => service.perform operation target.query request w
  (if request.method = "HEAD" then response.withoutContent else response, w)

end Service

end GuestSupervisor
