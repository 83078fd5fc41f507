import GuestSupervisor.Text.Basic
import GuestSupervisor.Text.Utf8

/-!
# Targets of requests

A target is a path and perhaps a query behind a question mark. Bytes that have a
meaning there, or none at all, are written as a percent sign and two hexadecimal
digits.

## Main Definitions

* `percentDecode`: the bytes that a text stands for.
* `Target`: the pieces of the path, and the fields of the query.
* `Target.ofText`: taking a target apart.

## Design Notes

The pieces of the path stay encoded: an encoded slash divides nothing, and a piece
with an encoded letter is not the piece without.
-/

namespace GuestSupervisor.Api

open Text

/-- The byte of two hexadecimal digits. -/
def hexByte? (high low : UInt8) : Option UInt8 := do
  let high ← hexValue? (Char.ofNat high.toNat)
  let low ← hexValue? (Char.ofNat low.toNat)
  some (UInt8.ofNat (high * 16 + low))

/-- The bytes in which each percent sign with two hexadecimal digits behind it is the
byte they name. Any other percent sign stands for itself. -/
def percentDecode : List UInt8 → List UInt8
  | [] => []
  | 37 :: high :: low :: rest =>
    match hexByte? high low with
    | some byte => byte :: percentDecode rest
    | none => 37 :: percentDecode (high :: low :: rest)
  | byte :: rest => byte :: percentDecode rest

/-- The text that a piece of a path stands for, if it stands for one. -/
def decodePiece? (piece : List Char) : Option String :=
  Utf8.toString? (percentDecode (Utf8.encode piece))

/-- The text that a name or a value in a query stands for. A plus sign is a space, and
what is no text is replaced. -/
def decodeFormText (text : List Char) : String :=
  Utf8.toStringLossy (percentDecode (Utf8.encode (replaceAll '+' [' '] text)))

/-- The name and the value of one field. Without an equals sign the value is empty. -/
def formField (text : List Char) : String × String :=
  let (name, value) := (splitOnce '=' text).getD (text, [])
  (decodeFormText name, decodeFormText value)

/-- The fields of a query in their order. -/
def formFields (query : List Char) : List (String × String) :=
  ((segments '&' query).filter (!·.isEmpty)).map formField

/-- What a request is about. -/
structure Target where
  /-- The pieces of the path between its slashes, still encoded. The first one stands
  before the first slash. -/
  path : List String
  /-- The fields of the query. -/
  query : List (String × String)
  deriving DecidableEq, Repr, Inhabited

namespace Target

/-- The path and the query of a target that may also name a scheme and a host. -/
def withoutHost (text : List Char) : List Char :=
  if text.head? = some '/' then text
  else
    match splitOnceOn "://".toList text with
    | some (_, rest) => rest.dropWhile fun c => c != '/' && c != '?'
    | none => text

/-- The target that a text names. What follows a number sign is not part of it. -/
def ofText (text : List Char) : Target :=
  let text := withoutHost (text.takeWhile (· != '#'))
  let (path, query) := (splitOnce '?' text).getD (text, [])
  ⟨(segments '/' path).map String.ofList, formFields query⟩

end Target

end GuestSupervisor.Api
