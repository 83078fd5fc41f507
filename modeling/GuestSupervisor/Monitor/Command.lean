import GuestSupervisor.Host.Failure
import GuestSupervisor.Host.Path
import GuestSupervisor.Text.Duration
import GuestSupervisor.Text.Quoted
import GuestSupervisor.Text.Utf8
import GuestSupervisor.Usb

/-!
# Monitor commands

The commands that the emulator's monitor understands, each written as one line.

## Main Definitions

* `ControlCommand`: the commands, `ControlCommand.line?` their lines.
* `ChannelError`: why a command could not be sent or was not answered.

## Design Notes

An argument that holds a line break could smuggle a second command onto the line,
so `line?` refuses it. So it does a path that is no text, which is shown in the
refusal as far as it can be.
-/

namespace GuestSupervisor

open Text

/-- What the monitor can be asked to do. -/
inductive ControlCommand where
  | quit
  | reset
  | pause
  | resume
  | status
  /-- Write what the guest's screen shows to a file. -/
  | screendump (path : OsPath)
  /-- Hand a device of the host to the guest. -/
  | usbAttach (vendorId productId : String)
  | usbDetach (vendorId productId : String)
  deriving DecidableEq, Repr, Inhabited

/-- Why a command failed. -/
inductive ChannelError where
  /-- Nobody listens on the monitor's socket. -/
  | unreachable (endpoint : String)
  | timeout (limit : Milliseconds)
  /-- The caller meant an instance that is not the current one. -/
  | stale (expected : Nat) (current : Option Nat)
  | invalidArgument (text : String)
  | io (failure : IoFailure)
  deriving DecidableEq, Repr, Inhabited

namespace ChannelError

/-- A number that may be missing, as messages show it. -/
def optionText : Option Nat → String
  | none => "None"
  | some n => "Some(" ++ toString n ++ ")"

/-- The text that is shown for an error. -/
def message : ChannelError → String
  | unreachable endpoint => "monitor endpoint " ++ endpoint ++ " unreachable"
  | timeout limit => "monitor did not answer within " ++ limit.render
  | stale expected current =>
    "instance generation " ++ toString expected ++ " is stale (current: "
      ++ optionText current ++ ")"
  | invalidArgument text => "invalid command argument: " ++ text
  | io failure => "monitor i/o: " ++ failure.message

end ChannelError

namespace ControlCommand

/-- The name of a command. -/
def name : ControlCommand → String
  | quit => "quit"
  | reset => "reset"
  | pause => "pause"
  | resume => "resume"
  | status => "status"
  | screendump _ => "screendump"
  | usbAttach .. => "usb-attach"
  | usbDetach .. => "usb-detach"

/-- Whether a path can be an argument on a command line. -/
def pathOnLine? : OsPath → Option String
  | .text path => if path.toList.any (fun c => c == '\n' || c == '\r') then none else some path
  | .undecodable _ => none

/-- Refuses an id that is not four hexadecimal digits. -/
def checkUsbId (id : String) : Except ChannelError Unit :=
  if isUsbId id.toList then .ok () else .error (.invalidArgument ("usb id " ++ quote id))

/-- The name under which an attached device is known to the emulator. -/
def usbDeviceName (vendorId productId : String) : String :=
  "usbdev_" ++ vendorId ++ "_" ++ productId

/-- The line of a command, without its end. -/
def line? : ControlCommand → Except ChannelError String
  | quit => .ok "quit"
  | reset => .ok "system_reset"
  | pause => .ok "stop"
  | resume => .ok "cont"
  | status => .ok "info status"
  | screendump path =>
    match pathOnLine? path with
    | some path => .ok ("screendump " ++ path)
    | none => .error (.invalidArgument ("screendump path " ++ path.shown))
  | usbAttach vendorId productId => do
    checkUsbId vendorId
    checkUsbId productId
    .ok ("device_add usb-host,vendorid=0x" ++ vendorId ++ ",productid=0x" ++ productId ++ ",id="
      ++ usbDeviceName vendorId productId)
  | usbDetach vendorId productId => do
    checkUsbId vendorId
    checkUsbId productId
    .ok ("device_del " ++ usbDeviceName vendorId productId)

end ControlCommand

end GuestSupervisor
