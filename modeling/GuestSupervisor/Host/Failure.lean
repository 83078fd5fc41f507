/-!
# Failures of the host

What the operating system refuses, and what this library refuses on its behalf
before asking. Each failure is a cause; the wording is in one function.

## Main Definitions

* `OsError`: the error numbers that the library can meet.
* `IoFailure`: an error number, or a failure without one.
* `IoFailure.message`: the text that is shown.
-/

namespace GuestSupervisor

/-- The operating system's refusals, by their conventional names. -/
inductive OsError where
  | noEntry
  | noDevice
  | permissionDenied
  | busy
  | alreadyExists
  | notDirectory
  | isDirectory
  | invalidArgument
  | brokenPipe
  | nameTooLong
  | tooManyLinks
  | addressInUse
  | connectionRefused
  deriving DecidableEq, Repr, Inhabited

namespace OsError

/-- The error number. -/
def code : OsError → Nat
  | noEntry => 2
  | noDevice => 6
  | permissionDenied => 13
  | busy => 16
  | alreadyExists => 17
  | notDirectory => 20
  | isDirectory => 21
  | invalidArgument => 22
  | brokenPipe => 32
  | nameTooLong => 36
  | tooManyLinks => 40
  | addressInUse => 98
  | connectionRefused => 111

/-- What the operating system says about the number. -/
def text : OsError → String
  | noEntry => "No such file or directory"
  | noDevice => "No such device or address"
  | permissionDenied => "Permission denied"
  | busy => "Device or resource busy"
  | alreadyExists => "File exists"
  | notDirectory => "Not a directory"
  | isDirectory => "Is a directory"
  | invalidArgument => "Invalid argument"
  | brokenPipe => "Broken pipe"
  | nameTooLong => "File name too long"
  | tooManyLinks => "Too many levels of symbolic links"
  | addressInUse => "Address already in use"
  | connectionRefused => "Connection refused"

/-- The text with the number behind it. -/
def message (e : OsError) : String := e.text ++ " (os error " ++ toString e.code ++ ")"

end OsError

/-- Why an operation on the host failed. -/
inductive IoFailure where
  /-- The operating system refused. -/
  | os (error : OsError)
  /-- A text file held bytes that are not UTF-8. -/
  | notUtf8
  /-- A path held a zero character. -/
  | zeroInPath
  /-- A program's name or argument held a zero character. -/
  | zeroInArgument
  /-- A socket path did not fit into a socket address. -/
  | socketPathTooLong
  /-- A socket path held a zero character. -/
  | zeroInSocketPath
  /-- A monitor wrote more than the limit without a prompt. -/
  | replyTooLong
  /-- A failure that is known by its text alone. -/
  | other (text : String)
  deriving DecidableEq, Repr, Inhabited

namespace IoFailure

/-- The text that is shown for a failure. -/
def message : IoFailure → String
  | os error => error.message
  | notUtf8 => "stream did not contain valid UTF-8"
  | zeroInPath => "file name contained an unexpected NUL byte"
  | zeroInArgument => "nul byte found in provided data"
  | socketPathTooLong => "path must be shorter than SUN_LEN"
  | zeroInSocketPath => "paths must not contain interior null bytes"
  | replyTooLong => "monitor reply exceeds 1 MiB"
  | other text => text

/-- Whether the failure says that something is not there. -/
def isMissing (failure : IoFailure) : Bool := failure == .os .noEntry

end IoFailure

end GuestSupervisor
