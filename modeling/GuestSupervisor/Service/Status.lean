import GuestSupervisor.Configuration.Store
import GuestSupervisor.Supervisor.Handle

/-!
# The status report

What is running, and what is configured for the next run. The report asks the
configuration file and the published instance, never the monitor.

## Main Definitions

* `StatusReport`: the report, `StatusReport.of` its making.
-/

namespace GuestSupervisor

open Supervisor

/-- What is running and what is configured. -/
structure StatusReport where
  /-- Whether there is an instance that has not ended. -/
  running : Bool
  /-- The process of the running instance. -/
  pid : Option UInt32
  /-- The latest instance, even when it has ended. -/
  latest : Option Handle
  /-- The stored configuration. -/
  configuration : Configuration
  /-- What was passed over in its file. -/
  warnings : List ConfigurationError
  /-- Whether the running instance has another configuration. -/
  changed : Bool
  deriving DecidableEq, Repr, Inhabited

namespace StatusReport

/-- The report on the stored configuration and the latest instance. -/
def of (loaded : Configuration.Loaded) (latest : Option Handle) : StatusReport :=
  let live := latest.filter Handle.isLive
  { running := live.isSome
    pid := live.map Handle.pid
    latest
    configuration := loaded.configuration
    warnings := loaded.warnings
    changed := live.any fun h => !h.configuration.agrees loaded.configuration }

/-- The report as the API shows it. -/
def toJson (r : StatusReport) : Json :=
  .object
    [ ("running", .bool r.running),
      ("pid", .ofOption r.pid fun pid => .ofNat pid.toNat),
      ("instance", .ofOption r.latest Handle.toJson),
      ("config", r.configuration.toJson),
      ("config_warnings", .array (r.warnings.map fun e => .string e.message)),
      ("config_changed", .bool r.changed) ]

end StatusReport

end GuestSupervisor
