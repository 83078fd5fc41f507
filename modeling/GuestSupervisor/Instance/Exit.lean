import GuestSupervisor.Json.Basic

/-!
# How a process ended

A process ends with a code or by a signal. The operating system packs both into
one number.

## Main Definitions

* `ExitInfo`: code and signal, where known.
* `ExitInfo.ofWaitStatus`: unpacking the operating system's number.
* `ExitInfo.success`, `ExitInfo.text`, `ExitInfo.toJson`.
-/

namespace GuestSupervisor.Instance

/-- How a process ended, as far as it is known. -/
structure ExitInfo where
  code : Option Int
  signal : Option Int
  deriving DecidableEq, Repr, Inhabited

namespace ExitInfo

/-- An end with a code. -/
def ofCode (code : Int) : ExitInfo := ⟨some code, none⟩

/-- An end by a signal. -/
def ofSignal (signal : Int) : ExitInfo := ⟨none, some signal⟩

/-- The number of the signal that kills without warning. -/
def killSignal : Int := 9

/-- The end that the operating system reports: the low seven bits are the signal,
zero when the process ended by itself, and the next byte but one bit is its code.
All seven bits set mean that the process was only halted. -/
def ofWaitStatus (status : UInt32) : ExitInfo :=
  let low := status.toNat % 128
  if low = 0 then ofCode (status.toNat / 256 % 256 : Nat)
  else if low = 127 then ⟨none, none⟩
  else ofSignal low

/-- Only exit code zero is a success. -/
def success (e : ExitInfo) : Bool := e.code == some 0

/-- The text for an end. -/
def text (e : ExitInfo) : String :=
  match e.code, e.signal with
  | some code, _ => "exit code " ++ toString code
  | none, some signal => "signal " ++ toString signal
  | none, none => "unknown exit"

/-- An end as the API shows it. -/
def toJson (e : ExitInfo) : Json :=
  .object [("code", .ofOption e.code .integer), ("signal", .ofOption e.signal .integer)]

end ExitInfo

end GuestSupervisor.Instance
