import GuestSupervisor.Text.Numeral

/-!
# JSON values

The values that the HTTP API speaks and the image tool answers with, and their
compact text.

## Main Definitions

* `Json`: a value. Numbers are whole; a number with a fraction, an exponent or a
  magnitude beyond sixty-four bits keeps its text and has no integer value.
* `Json.member?`, `Json.asString?`, `Json.asUnsigned?`: looking inside.
* `Json.render`: the text without blanks.
-/

namespace GuestSupervisor

open Text

/-- A JSON value. The members of an object stand in the order of their text. -/
inductive Json where
  | null
  | bool (value : Bool)
  | integer (value : Int)
  | fraction (text : String)
  | string (text : String)
  | array (items : List Json)
  | object (members : List (String × Json))
  deriving Repr, Inhabited

namespace Json

/-! ### Looking inside -/

/-- The value of a member; of two members with one name the later counts. -/
def member? (value : Json) (name : String) : Option Json :=
  match value with
  | .object members => (members.reverse.find? (·.1 == name)).map (·.2)
  | _ => none

/-- The value of a member, null when there is none. -/
def get (value : Json) (name : String) : Json := (value.member? name).getD .null

/-- The text of a string. -/
def asString? : Json → Option String
  | .string text => some text
  | _ => none

/-- The value of a whole number from 0 up to sixty-four bits. -/
def asUnsigned? : Json → Option UInt64
  | .integer (.ofNat n) => if n < UInt64.size then some (UInt64.ofNat n) else none
  | _ => none

/-- The items of an array. -/
def asArray? : Json → Option (List Json)
  | .array items => some items
  | _ => none

/-- Whether a value is null. -/
def isNull : Json → Bool
  | .null => true
  | _ => false

/-! ### Building -/

/-- A number from a natural number. -/
def ofNat (n : Nat) : Json := .integer n

/-- The value inside, or null. -/
def ofOption (value : Option α) (write : α → Json) : Json := (value.map write).getD .null

/-! ### Text -/

/-- One character inside a string. -/
def charText (c : Char) : List Char :=
  match c with
  | '"' => ['\\', '"']
  | '\\' => ['\\', '\\']
  | '\n' => ['\\', 'n']
  | '\r' => ['\\', 'r']
  | '\t' => ['\\', 't']
  | '\x08' => ['\\', 'b']
  | '\x0c' => ['\\', 'f']
  | c =>
    if c.toNat < 0x20 then
      ['\\', 'u', '0', '0', Nat.digitChar (c.toNat / 16), Nat.digitChar (c.toNat % 16)]
    else [c]

/-- A string with its quotes. -/
def stringText (s : String) : String :=
  String.ofList ('"' :: s.toList.flatMap charText ++ ['"'])

mutual

/-- The text of a value, without blanks. -/
def render : Json → String
  | .null => "null"
  | .bool value => if value then "true" else "false"
  | .integer value => toString value
  | .fraction text => text
  | .string text => stringText text
  | .array items => "[" ++ renderItems items ++ "]"
  | .object members => "\x7b" ++ renderMembers members ++ "\x7d"

/-- The texts of items with commas between them. -/
def renderItems : List Json → String
  | [] => ""
  | [item] => render item
  | item :: rest => render item ++ "," ++ renderItems rest

/-- The texts of members with commas between them. -/
def renderMembers : List (String × Json) → String
  | [] => ""
  | [(name, value)] => stringText name ++ ":" ++ render value
  | (name, value) :: rest => stringText name ++ ":" ++ render value ++ "," ++ renderMembers rest

end

end Json

end GuestSupervisor
