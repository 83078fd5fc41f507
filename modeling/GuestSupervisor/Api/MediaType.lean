import GuestSupervisor.Text.Basic

/-!
# Media types

What kind of content a body is said to be: a type, a subtype that may end in a
suffix, and parameters, such as `application/merge+json; charset=utf-8`.

## Main Definitions

* `MediaType.ofText?`: reading the text of a header.
* `MediaType.isJson`: whether the content is JSON.
-/

namespace GuestSupervisor.Api

open Text

/-- Whether a character can be part of a name in a media type. -/
def isNameChar (c : Char) : Bool :=
  c.isAlphanum || c ∈ ['!', '#', '$', '%', '&', '\'', '+', '-', '.', '^', '_', '\x60', '|', '~']

/-- A media type without its parameters, in lower case. -/
structure MediaType where
  main : String
  sub : String
  /-- What follows the last plus sign of the subtype. -/
  ending : Option String
  deriving DecidableEq, Repr, Inhabited

namespace MediaType

/-- Whether a character can stand between the quotes around a value. -/
def isQuotable (c : Char) : Bool := 31 < c.toNat && c.toNat < 127

/-- The rest of a text after the semicolon that ends a value in quotes. -/
def afterQuoted? (text : List Char) : Option (List Char) :=
  match text.dropWhile (· = ' ') with
  | [] => some []
  | ';' :: rest => some rest
  | _ => none

/-- The rest of a text behind one parameter, if it starts with one. -/
def afterParameter? (text : List Char) : Option (List Char) :=
  match text.takeWhile isNameChar, text.dropWhile isNameChar with
  | _ :: _, '=' :: '"' :: rest =>
    match rest.takeWhile (· != '"'), rest.dropWhile (· != '"') with
    | value, _ :: rest => if value.all isQuotable then afterQuoted? rest else none
    | _, [] => none
  | _ :: _, '=' :: rest =>
    match rest.takeWhile isNameChar, rest.dropWhile isNameChar with
    | _, [] => some []
    | _ :: _, ';' :: rest => some rest
    | _, _ => none
  | _, _ => none

/-- Whether a text is parameters with semicolons between them. There are no more of
them than characters. -/
def areParameters : Nat → List Char → Bool
  | 0, text => text.isEmpty
  | bound + 1, text =>
    match text.dropWhile (· = ' ') with
    | [] => true
    | text => (afterParameter? text).any (areParameters bound)

/-- Splits a subtype at its last plus sign, unless that is its first character. -/
def splitEnding (sub : List Char) : List Char × Option (List Char) :=
  match splitOnce '+' sub.reverse with
  | some (ending, before) =>
    if before.isEmpty then (sub, none) else (before.reverse, some ending.reverse)
  | none => (sub, none)

/-- The media type that a text names. Parameters follow a semicolon or a space. -/
def ofText? (text : List Char) : Option MediaType := do
  let (main, rest) ← splitOnce '/' (asciiLower text)
  let sub := rest.takeWhile isNameChar
  let fits := match rest.dropWhile isNameChar with
    | [] => true
    | c :: parameters =>
      (c = ';' || c = ' ') && !sub.isEmpty && areParameters (parameters.length + 1) parameters
  if !main.isEmpty && main.all isNameChar && fits then
    let (sub, ending) := splitEnding sub
    some ⟨String.ofList main, String.ofList sub, ending.map String.ofList⟩
  else none

/-- Whether the content is JSON. -/
def isJson (m : MediaType) : Bool :=
  m.main == "application" && (m.sub == "json" || m.ending == some "json")

end MediaType

end GuestSupervisor.Api
