import GuestSupervisor.Json.Basic

/-!
# Requests and responses

The messages of the HTTP API, without what carries them.

## Main Definitions

* `Request`: a method, a target and a body.
* `Response`: a status and a body.
* `Response.withoutContent`: what is answered to someone who asks for the head alone.
-/

namespace GuestSupervisor.Api

/-- The statuses that the API answers with. -/
inductive Status where
  | ok
  | badRequest
  | notFound
  | methodNotAllowed
  | conflict
  | contentTooLarge
  | unsupportedMediaType
  | unprocessable
  | serverError
  | badGateway
  | gatewayTimeout
  deriving DecidableEq, Repr, Inhabited

/-- The number of a status. -/
def Status.code : Status → Nat
  | ok => 200
  | badRequest => 400
  | notFound => 404
  | methodNotAllowed => 405
  | conflict => 409
  | contentTooLarge => 413
  | unsupportedMediaType => 415
  | unprocessable => 422
  | serverError => 500
  | badGateway => 502
  | gatewayTimeout => 504

/-- A request. -/
structure Request where
  method : String
  /-- The path and the query, still encoded. -/
  target : String
  /-- What kind of content the body claims to be. -/
  contentType : Option String
  body : String
  deriving DecidableEq, Repr, Inhabited

/-- The body of a response. -/
inductive Body where
  /-- A message for people; its wording is nobody's business. -/
  | notice
  /-- A value, which is left out when only the head was asked for. -/
  | json (value : Option Json)
  /-- The bytes of a picture. -/
  | png (content : List UInt8)
  deriving Repr, Inhabited

/-- The body with its content left out. -/
def Body.withoutContent : Body → Body
  | notice => notice
  | json _ => json none
  | png _ => png []

/-- A response. -/
structure Response where
  status : Status
  body : Body
  deriving Repr, Inhabited

namespace Response

/-- The answer to a request that no operation took. -/
def rejection (status : Status) : Response := ⟨status, .notice⟩

/-- A value with the status of success. -/
def value (value : Json) : Response := ⟨.ok, .json (some value)⟩

/-- The reply of an operation that has done what it was asked for. What it has to say
is left out when that is nothing. -/
def done (output : String) : Response :=
  let said := if output.isEmpty then [] else [("output", .string output)]
  value (.object (("success", .bool true) :: said))

/-- The reply of an operation that has failed. -/
def failed (status : Status) (message : String) : Response :=
  ⟨status, .json (some (.object [("success", .bool false), ("error", .string message)]))⟩

/-- The response with its content left out. -/
def withoutContent (r : Response) : Response := { r with body := r.body.withoutContent }

end Response

end GuestSupervisor.Api
