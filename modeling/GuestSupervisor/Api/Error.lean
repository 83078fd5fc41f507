import GuestSupervisor.Api.Message
import GuestSupervisor.Service.Basic

/-!
# Errors of the API

Every cause that an operation can fail with has one status, and the message is the
cause's own.

## Main Definitions

* `ApiError`: a status and a message.
* `ApiError.ofChannel`, `ofStart`, `ofTerminate`, `ofConfiguration`, `ofImage`: the
  statuses of the causes.
* `Failure`: a failure with what was being done when it happened.
* `ApiError.ofFailure`: a failure whose root is a monitor's counts as that one.
-/

namespace GuestSupervisor.Api

open Supervisor

/-- What an operation that failed is answered with. -/
structure ApiError where
  status : Status
  message : String
  deriving DecidableEq, Repr, Inhabited

/-- A failure and what was being done when it happened. -/
inductive Failure where
  /-- The monitor was not reached or did not take a command. -/
  | channel (cause : ChannelError)
  | text (cause : String)
  /-- It happened while something larger was being done. -/
  | during (activity : String) (cause : Failure)
  deriving DecidableEq, Repr, Inhabited

namespace Failure

/-- The monitor's error at the root, if that is where it lies. -/
def channelError? : Failure → Option ChannelError
  | channel cause => some cause
  | text _ => none
  | during _ cause => cause.channelError?

/-- What was being done and why it failed, the largest first. -/
def message : Failure → String
  | channel cause => cause.message
  | text cause => cause
  | during activity cause => activity ++ ": " ++ cause.message

/-- The failure of a picture. -/
def ofScreenshot : ScreenshotError → Failure
  | .screendump cause => .during "screendump" (.channel cause)
  | e => .text e.message

end Failure

namespace ApiError

/-- The instance is not there or not the one that was meant, is too slow, refuses the
argument, or its monitor fails. -/
def ofChannel (e : ChannelError) : ApiError :=
  let status : Status := match e with
    | .unreachable _ | .stale .. => .conflict
    | .timeout _ => .gatewayTimeout
    | .invalidArgument _ => .badRequest
    | .io _ => .badGateway
  ⟨status, e.message⟩

/-- Nothing to start from is the caller's error, and so is a live instance. -/
def ofStart (e : StartError) : ApiError :=
  let status : Status := match e with
    | .build .noBootableDevice => .badRequest
    | .launch (.alreadyRunning ..) => .conflict
    | .launch _ => .serverError
  ⟨status, e.message⟩

/-- Nothing to stop is the caller's error. -/
def ofTerminate (e : TerminateError) : ApiError :=
  let status : Status := match e with
    | .notRunning => .conflict
    | _ => .serverError
  ⟨status, e.message⟩

/-- A refused assignment is the caller's error, a file that cannot be written is not. -/
def ofConfiguration (e : ConfigurationError) : ApiError :=
  let status : Status := match e with
    | .io .. => .serverError
    | _ => .badRequest
  ⟨status, e.message⟩

/-- A refused name or size is the caller's error, a failing tool or file is not. -/
def ofImage (e : ImageError) : ApiError :=
  let status : Status := match e with
    | .notFound _ => .notFound
    | .tool _ | .io _ => .serverError
    | _ => .badRequest
  ⟨status, e.message⟩

/-- What the monitor refused keeps its own status and message, whatever it was a part
of. -/
def ofFailure (failure : Failure) : ApiError :=
  match failure.channelError? with
  | some cause => ofChannel cause
  | none => ⟨.serverError, failure.message⟩

/-- The response that tells the error. -/
def response (e : ApiError) : Response := .failed e.status e.message

end ApiError

end GuestSupervisor.Api
