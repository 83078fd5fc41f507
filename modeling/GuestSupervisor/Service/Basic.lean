import GuestSupervisor.Display
import GuestSupervisor.Images.Library
import GuestSupervisor.Service.Status
import GuestSupervisor.Supervisor.Schedule

/-!
# The service

Everything an installation has to offer, built from its directories and settings:
the stored configuration, the images, pictures of the screen and the one instance.

## Main Definitions

* `Service`: directories and settings.
* `Service.buildCommand`: the command for the stored configuration.
* `Service.start`, `Service.restart`: the instance.
* `StartError`: why no instance was started.

## Design Notes

A service is fixed; what changes is the schedule that its operations take and give
back.
-/

namespace GuestSupervisor

open Supervisor

/-- Why no instance was started. -/
inductive StartError where
  | build (cause : BuildError)
  | launch (cause : LaunchError)
  deriving DecidableEq, Repr, Inhabited

/-- The text that is shown for an error. -/
def StartError.message : StartError → String
  | build cause => cause.message
  | launch cause => cause.message

/-- An installation. -/
structure Service where
  layout : Layout
  settings : Settings
  deriving Repr, Inhabited

namespace Service

/-- Where the configuration is stored. -/
def store (service : Service) : ConfigurationStore := ⟨service.layout.configFile⟩

/-- How commands are built. -/
def builder (service : Service) : CommandBuilder := service.settings.commandBuilder service.layout

/-- The images. -/
def images (service : Service) : ImageLibrary :=
  { diskDirectory := service.layout.disk, isoDirectory := service.layout.iso }

/-- How pictures are made. -/
def screenshots (service : Service) : Screenshotter :=
  service.settings.screenshotter service.layout

/-- The service before anything happens, with its restart task. -/
def schedule (service : Service) (host : Host) (now : Nat) : Schedule :=
  (Schedule.start (service.settings.supervisorOptions service.layout) host now).enable
    service.settings.restartPolicy

/-- The command for the stored configuration, and that configuration. The host's
display is asked for only if the settings say so. -/
def buildCommand (service : Service) (host : Host) :
    Except BuildError (EmulatorCommand × Configuration) × Host :=
  let c := (service.store.load host.files).configuration
  let (detected, host) :=
    if service.settings.emulator.detectDisplay then Resolution.ofHost? host else (none, host)
  ((service.builder.build host.files c detected).map (·, c), host)

/-- What is running and what is configured. -/
def status (service : Service) (w : Schedule) : StatusReport × Schedule :=
  let (latest, after) := w.status
  (.of (service.store.load w.system.host.files) latest, after)

/-- Starts an instance with the stored configuration. -/
def start (service : Service) (w : Schedule) : Except StartError Handle × Schedule :=
  match service.buildCommand w.system.host with
  | (.error e, host) => (.error (.build e), w.withHost host)
  | (.ok (command, c), host) =>
    let (result, w) := (w.withHost host).launch command c
    (result.mapError .launch, w)

/-- Stops whatever runs and starts an instance, even if stopping failed. -/
def restart (service : Service) (w : Schedule) : Except StartError Handle × Schedule :=
  service.start w.stop.2

end Service

end GuestSupervisor
