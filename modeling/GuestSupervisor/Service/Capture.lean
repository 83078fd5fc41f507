import GuestSupervisor.Monitor.Watch
import GuestSupervisor.Service.Basic

/-!
# Taking a picture

The emulator is asked for a raw picture, which is waited for, converted and removed
again, whatever becomes of it.

## Main Definitions

* `Service.capture`: a new latest picture.
* `Schedule.waitForFile`: the wait for the raw one.
-/

namespace GuestSupervisor

open Supervisor Text

/-- Waits until a file is written, looking at it again and again. -/
def Supervisor.Schedule.waitForFile (w : Schedule) (path : String) (bound : Milliseconds) :
    Bool × Schedule :=
  let files time := (w.sleep (time / Watch.millisecond)).system.host.files
  -- The unit comes first: a product is taken apart at its second factor.
  let limit := Watch.millisecond * bound.count.toNat
  let (seen, looks) := Watch.poll (Watch.timelineOf files path) limit fun _ => 0
  (seen, w.sleep ((looks - 1) * Watch.pause))

namespace Service

/-- The path of a raw picture that is taken at a moment. -/
def rawPicture (shots : Screenshotter) (moment : Timestamp) : String :=
  Path.join shots.directory ("screen-" ++ moment.compact ++ ".ppm")

/-- Has the emulator write a raw picture and makes the latest one from it. -/
def captureFrom (shots : Screenshotter) (raw : String) (w : Schedule) :
    Except ScreenshotError String × Schedule :=
  match w.dispatch none (.screendump (.text raw)) with
  | (exchange, w) =>
    match exchange.outcome with
    | .error e => (.error (.screendump e), w)
    | .ok _ =>
      match w.waitForFile raw shots.wait with
      | (false, w) => (.error (.notWritten raw shots.wait), w)
      | (true, w) =>
        let (result, host) := shots.convert raw w.system.host
        (result, w.withHost host)

/-- Takes a picture of the guest's screen and returns the path of the latest one. The
raw picture is removed. -/
def capture (service : Service) (w : Schedule) : Except ScreenshotError String × Schedule :=
  let shots := service.screenshots
  match w.system.host.files.makeDirectories shots.directory with
  | (.error failure, files) => (.error (.createDirectory shots.directory failure), w.withFiles files)
  | (.ok (), files) =>
    let raw := rawPicture shots ⟨w.system.now⟩
    let (result, w) := captureFrom shots raw (w.withFiles files)
    let files := w.system.host.files
    (result, w.withFiles ((files.removeFile raw).toOption.getD files))

end Service

end GuestSupervisor
