import GuestSupervisor.Json.Basic
import GuestSupervisor.Text.Basic

/-!
# Reading JSON

A text is read into a tree that also records damage: where the text stops being
JSON, the tree has a damaged place or a container that was never closed. Whoever
looks through the tree from its start therefore meets problems in the order of
the text, and can tell a malformed text from a value of the wrong kind by which
of them comes first.

## Main Definitions

* `Reading`: the tree, and `Reading.ofText`, which never fails.
* `Problem`: malformed text, or a value that does not fit.
* `Reading.checkIntact`: the tree has no damage.
* `Json.read?`: the value of a text that is JSON from end to end.

## Design Notes

A string may hold half of a surrogate pair. Whether that matters depends on
whether anyone asks for the string, so its text is an option.
-/

namespace GuestSupervisor

open Text

/-- What was read, up to the first damage. -/
inductive Reading where
  | null
  | bool (value : Bool)
  | integer (value : Int)
  /-- A number that is no integer of sixty-four bits; `finite` unless it is beyond
  every floating-point number. -/
  | fraction (text : String) (finite : Bool)
  /-- A string, without text when an escape in it stands for no character. -/
  | string (text : Option String)
  | array (items : List Reading) (closed : Bool)
  | object (members : List (Option String × Reading)) (closed : Bool)
  | damaged
  deriving Repr, Inhabited

/-- What is wrong with a text that was to hold a certain value. -/
inductive Problem where
  /-- The text is not JSON. -/
  | malformed
  /-- The text goes on as JSON but does not hold such a value. -/
  | mismatch
  deriving DecidableEq, Repr, Inhabited

namespace Reading

/-! ### Characters -/

/-- The text without the blanks that JSON allows between its parts. -/
def skipBlanks (text : List Char) : List Char :=
  text.dropWhile fun c => c == ' ' || c == '\n' || c == '\t' || c == '\r'

/-- The value of four hexadecimal digits. -/
def fourDigits? : List Char → Option (Nat × List Char)
  | a :: b :: c :: d :: rest => do
    let a ← hexValue? a
    let b ← hexValue? b
    let c ← hexValue? c
    let d ← hexValue? d
    some (((a * 16 + b) * 16 + c) * 16 + d, rest)
  | _ => none

/-- The character that a letter after a backslash stands for. -/
def shortEscape? : Char → Option Char
  | '"' => some '"'
  | '\\' => some '\\'
  | '/' => some '/'
  | 'b' => some '\x08'
  | 'f' => some '\x0c'
  | 'n' => some '\n'
  | 'r' => some '\r'
  | 't' => some '\t'
  | _ => none

/-- Whether a code unit is the first half of a pair. -/
def isHighHalf (n : Nat) : Bool := 0xD800 ≤ n && n ≤ 0xDBFF

/-- Whether a code unit is the second half of a pair. -/
def isLowHalf (n : Nat) : Bool := 0xDC00 ≤ n && n ≤ 0xDFFF

/-- The second half that an escape right here stands for. -/
def lowHalf? : List Char → Option (Nat × List Char)
  | '\\' :: 'u' :: rest => (fourDigits? rest).filter fun (n, _) => isLowHalf n
  | _ => none

/-- The rest of a string after its opening quote. `seen` holds the characters so
far, last first, and `sound` whether every escape stood for a character. Nothing
when the string is not closed or has a character that must be escaped. -/
def stringBody (seen : List Char) (sound : Bool) :
    Nat → List Char → Option (Option String × List Char)
  | 0, _ => none
  | _, [] => none
  | fuel + 1, '"' :: rest =>
    let _ := fuel
    some (if sound then some (String.ofList seen.reverse) else none, rest)
  | fuel + 1, '\\' :: 'u' :: rest => do
    let (n, rest) ← fourDigits? rest
    if isHighHalf n then
      match lowHalf? rest with
      | some (low, rest) =>
        let c := Char.ofNat (0x10000 + (n - 0xD800) * 0x400 + (low - 0xDC00))
        stringBody (c :: seen) sound fuel rest
      | none => stringBody seen false fuel rest
    else if isLowHalf n then stringBody seen false fuel rest
    else stringBody (Char.ofNat n :: seen) sound fuel rest
  | fuel + 1, '\\' :: letter :: rest => do
    let c ← shortEscape? letter
    stringBody (c :: seen) sound fuel rest
  | fuel + 1, c :: rest =>
    if c.toNat < 0x20 || c = '\\' then none else stringBody (c :: seen) sound fuel rest

/-! ### Numbers -/

/-- A run of digits and what follows it. -/
def digits (text : List Char) : List Char × List Char :=
  (text.takeWhile Char.isDigit, text.dropWhile Char.isDigit)

/-- The parts of a number: its whole digits, the digits after the point and the
exponent, where there is one. -/
structure NumberParts where
  negative : Bool
  whole : List Char
  places : Option (List Char)
  exponent : Option Int
  rest : List Char

/-- The exponent after an `e`. -/
def exponentPart? : List Char → Option (Int × List Char)
  | text =>
    let (negative, body) := match text with
      | '-' :: rest => (true, rest)
      | '+' :: rest => (false, rest)
      | rest => (false, rest)
    let (ds, rest) := digits body
    if ds.isEmpty then none
    else
      let n : Int := digitsValue ds
      some (if negative then -n else n, rest)

/-- Cuts a number into its parts: no zero before another digit, a digit on either
side of the point, a digit in the exponent. -/
def numberParts? (text : List Char) : Option NumberParts := do
  let (negative, body) := match text with
    | '-' :: rest => (true, rest)
    | rest => (false, rest)
  let (whole, rest) := digits body
  if whole.isEmpty || (whole.head? = some '0' && 1 < whole.length) then none
  else
    let (places, rest) ← match rest with
      | '.' :: rest =>
        let (ds, rest) := digits rest
        if ds.isEmpty then none else some (some ds, rest)
      | rest => some (none, rest)
    let (exponent, rest) ← match rest with
      | 'e' :: rest => (exponentPart? rest).map fun (n, rest) => (some n, rest)
      | 'E' :: rest => (exponentPart? rest).map fun (n, rest) => (some n, rest)
      | rest => some (none, rest)
    some ⟨negative, whole, places, exponent, rest⟩

/-- Whether `mantissa * 10 ^ exponent` rounds to a finite floating-point number. -/
def isFinite (mantissa : Nat) (exponent : Int) : Bool :=
  let size : Int := (decimal mantissa).length
  if mantissa = 0 || size + exponent < 300 then true
  else if 400 < size + exponent then false
  else
    let limit := Nat.pow 2 1024 - Nat.pow 2 970
    if 0 ≤ exponent then mantissa * Nat.pow 10 exponent.toNat < limit
    else mantissa < limit * Nat.pow 10 (-exponent).toNat

/-- A number as a node of the tree. Only digits make an integer, and minus zero is
none. -/
def ofNumber (parts : NumberParts) (text : String) : Reading :=
  let n := digitsValue parts.whole
  let places := parts.places.getD []
  let fraction :=
    Reading.fraction text
      (isFinite (digitsValue (parts.whole ++ places)) (parts.exponent.getD 0 - places.length))
  if parts.places.isSome || parts.exponent.isSome then fraction
  else if parts.negative then
    if n = 0 || Nat.pow 2 63 < n then fraction else .integer (-(n : Int))
  else if n < Nat.pow 2 64 then .integer n
  else fraction

/-! ### Values -/

/-- A number at the start of the text. -/
def number (text : List Char) : Reading × List Char :=
  match numberParts? text with
  | none => (.damaged, [])
  | some parts =>
    (ofNumber parts (String.ofList (text.take (text.length - parts.rest.length))), parts.rest)

/-- A literal word at the start of the text. -/
def word (letters : String) (value : Reading) (text : List Char) : Reading × List Char :=
  match letters.toList.isPrefixOf? text with
  | some rest => (value, rest)
  | none => (.damaged, [])

/-- Whether a node is damaged or was never closed, so that nothing can follow. -/
def endsInDamage : Reading → Bool
  | .damaged => true
  | .array _ closed => !closed
  | .object _ closed => !closed
  | _ => false

mutual

/-- A value at the start of the text, blanks before it allowed, and what follows. -/
def value : Nat → List Char → Reading × List Char
  | 0, _ => (.damaged, [])
  | fuel + 1, text =>
    match skipBlanks text with
    | [] => (.damaged, [])
    | '"' :: rest =>
      match stringBody [] true (rest.length + 1) rest with
      | some (s, rest) => (.string s, rest)
      | none => (.damaged, [])
    | '[' :: rest =>
      match skipBlanks rest with
      | ']' :: rest => (.array [] true, rest)
      | rest =>
        let (items, closed, rest) := items fuel [] rest
        (.array items closed, rest)
    | '\x7b' :: rest =>
      match skipBlanks rest with
      | '\x7d' :: rest => (.object [] true, rest)
      | rest =>
        let (members, closed, rest) := members fuel [] rest
        (.object members closed, rest)
    | 't' :: rest => word "rue" (.bool true) rest
    | 'f' :: rest => word "alse" (.bool false) rest
    | 'n' :: rest => word "ull" .null rest
    | c :: rest => if c = '-' || c.isDigit then number (c :: rest) else (.damaged, [])

/-- The items of an array from the first one on; `seen` holds those before, last
first. -/
def items : Nat → List Reading → List Char → List Reading × Bool × List Char
  | 0, seen, _ => (seen.reverse, false, [])
  | fuel + 1, seen, text =>
    let (item, rest) := value fuel text
    if item.endsInDamage then ((item :: seen).reverse, false, [])
    else
      match skipBlanks rest with
      | ',' :: rest => items fuel (item :: seen) rest
      | ']' :: rest => ((item :: seen).reverse, true, rest)
      | _ => ((item :: seen).reverse, false, [])

/-- The members of an object from the first one on. -/
def members : Nat → List (Option String × Reading) → List Char →
    List (Option String × Reading) × Bool × List Char
  | 0, seen, _ => (seen.reverse, false, [])
  | fuel + 1, seen, text =>
    match skipBlanks text with
    | '"' :: rest =>
      match stringBody [] true (rest.length + 1) rest with
      | none => (seen.reverse, false, [])
      | some (name, rest) =>
        match skipBlanks rest with
        | ':' :: rest =>
          let (value, rest) := value fuel rest
          let seen := (name, value) :: seen
          if value.endsInDamage then (seen.reverse, false, [])
          else
            match skipBlanks rest with
            | ',' :: rest => members fuel seen rest
            | '\x7d' :: rest => (seen.reverse, true, rest)
            | _ => (seen.reverse, false, [])
        | _ => (((name, .damaged) :: seen).reverse, false, [])
    | _ => (seen.reverse, false, [])

end

/-- The tree of a text, and whether nothing but blanks follows the value. -/
def ofText (text : List Char) : Reading × Bool :=
  let (tree, rest) := value (2 * text.length + 2) text
  (tree, (skipBlanks rest).isEmpty)

/-! ### Looking through a tree -/

mutual

/-- Passes over a value of no interest: only damage in it matters. -/
def checkIntact : Reading → Except Problem Unit
  | .damaged => .error .malformed
  | .array items closed => do
    checkItems items
    if closed then .ok () else .error .malformed
  | .object members closed => do
    checkMembers members
    if closed then .ok () else .error .malformed
  | _ => .ok ()

/-- Passes over the items of an array. -/
def checkItems : List Reading → Except Problem Unit
  | [] => .ok ()
  | item :: rest => do
    checkIntact item
    checkItems rest

/-- Passes over the members of an object. -/
def checkMembers : List (Option String × Reading) → Except Problem Unit
  | [] => .ok ()
  | (_, value) :: rest => do
    checkIntact value
    checkMembers rest

end

/-- What stands in the way of a value of another kind: damage and numbers beyond
all bounds are noticed before the kind is. -/
def refusal : Reading → Problem
  | .damaged => .malformed
  | .string none => .malformed
  | .fraction _ false => .malformed
  | _ => .mismatch

/-- The text of a string. -/
def asString : Reading → Except Problem String
  | .string (some text) => .ok text
  | other => .error other.refusal

/-- The text of a string, or nothing for null. -/
def asOptionalString : Reading → Except Problem (Option String)
  | .null => .ok none
  | other => other.asString.map some

/-- A boolean. -/
def asBool : Reading → Except Problem Bool
  | .bool value => .ok value
  | other => .error other.refusal

/-- The texts of an array of strings. -/
def asStrings : Reading → Except Problem (List String)
  | .array items closed => do
    let texts ← items.mapM asString
    if closed then .ok texts else .error .malformed
  | other => .error other.refusal

/-- A number of sixty-four bits without sign. -/
def asUInt64 : Reading → Except Problem UInt64
  | .integer (.ofNat n) => if n < UInt64.size then .ok (UInt64.ofNat n) else .error .mismatch
  | other => .error other.refusal

/-- Reads an enumerated value: its word, or an object whose only member is the word
with nothing for its content. What stands for nothing is up to the format. -/
def asWord (isNothing : Reading → Bool) (read? : String → Option α) (tree : Reading) :
    Except Problem α :=
  match tree with
  | .string _ => do
    match read? (← tree.asString) with
    | some value => .ok value
    | none => .error .mismatch
  | .object [] _ => .error .malformed
  | .object ((name, content) :: rest) closed =>
    match name with
    | none => .error .malformed
    | some name =>
      match read? name with
      | none => .error .mismatch
      | some value =>
        if isNothing content then
          (if closed && rest.isEmpty then .ok value else .error .malformed)
        else .error content.refusal
  | _ => .error .malformed

/-- Whether a node is null. -/
def isNull : Reading → Bool
  | .null => true
  | _ => false

/-- Whether a node is an array or an object with nothing in it. -/
def isHollow : Reading → Bool
  | .array [] closed => closed
  | .object [] closed => closed
  | _ => false

/-- A number of thirty-two bits without sign. -/
def asUInt32 : Reading → Except Problem UInt32
  | .integer (.ofNat n) => if n < UInt32.size then .ok (UInt32.ofNat n) else .error .mismatch
  | other => .error other.refusal

mutual

/-- The value of an intact tree whose containers nest no deeper than `depth`. -/
def toJson? (depth : Nat) : Reading → Option Json
  | .null => some .null
  | .bool value => some (.bool value)
  | .integer value => some (.integer value)
  | .fraction text finite => if finite then some (.fraction text) else none
  | .string text => text.map .string
  | .array items closed =>
    match depth with
    | 0 => none
    | depth + 1 => if closed then (itemsToJson? depth items).map .array else none
  | .object members closed =>
    match depth with
    | 0 => none
    | depth + 1 => if closed then (membersToJson? depth members).map .object else none
  | .damaged => none

/-- The values of intact items. -/
def itemsToJson? (depth : Nat) : List Reading → Option (List Json)
  | [] => some []
  | item :: rest => do
    let item ← toJson? depth item
    let rest ← itemsToJson? depth rest
    some (item :: rest)

/-- The values of intact members. -/
def membersToJson? (depth : Nat) : List (Option String × Reading) → Option (List (String × Json))
  | [] => some []
  | (name, value) :: rest => do
    let name ← name
    let value ← toJson? depth value
    let rest ← membersToJson? depth rest
    some ((name, value) :: rest)

end

end Reading

namespace Json

/-- How deep the containers of a text may nest. -/
def deepest : Nat := 127

/-- The value of a text that is JSON from end to end. -/
def read? (text : List Char) : Option Json :=
  match Reading.ofText text with
  | (tree, true) => tree.toJson? deepest
  | (_, false) => none

end Json

end GuestSupervisor
