import GuestSupervisor.Text.Numeral
import GuestSupervisor.Toml.Strings
import GuestSupervisor.Toml.Value

/-!
# Writing TOML

A table as a document for people: each string in the plainest quotes that can hold
it, an array of several items on several lines, each table under a header.

## Main Definitions

* `StringStyle.choose`: the quotes for a string.
* `stringText`: a string in its quotes.
* `valueText`: a value behind an equals sign.
* `write?`: a whole document; nothing when an integer is out of range.
-/

namespace GuestSupervisor.Toml

open Text

/-! ### Strings -/

/-- The four kinds of quotes. -/
inductive StringStyle where
  | basic
  | literal
  | longBasic
  | longLiteral
  deriving DecidableEq, Repr, Inhabited

/-- Whether a character must be escaped wherever it stands. -/
def isControl (c : Char) : Bool :=
  c != '\t' && c != '\n' && (c.toNat < 0x20 || c.toNat == 0x7F)

/-- The length of the longest run of a character; `here` is the length of the run
that ends right before the text. -/
def longestRunFrom (mark : Char) (here : Nat) : List Char → Nat
  | [] => here
  | c :: rest =>
    if c = mark then longestRunFrom mark (here + 1) rest
    else max here (longestRunFrom mark 0 rest)

/-- The length of the longest run of a character in a text. -/
def longestRun (mark : Char) (text : List Char) : Nat := longestRunFrom mark 0 text

namespace StringStyle

/-- The quotes for a string: the first kind that holds it without an escape, else
escapes in double quotes. -/
def choose (text : List Char) : StringStyle :=
  let control := text.any isControl
  let backslash := text.contains '\\'
  let newline := text.contains '\n'
  let doubles := longestRun '"' text
  let singles := longestRun '\'' text
  if !control && !backslash && doubles = 0 && !newline then basic
  else if !control && singles = 0 && !newline then literal
  else if !control && !backslash && doubles ≤ 2 then longBasic
  else if !control && singles ≤ 2 then longLiteral
  else if newline then longBasic
  else basic

/-- The quotes at either end. -/
def delimiter : StringStyle → List Char
  | basic => ['"']
  | literal => ['\'']
  | longBasic => ['"', '"', '"']
  | longLiteral => ['\'', '\'', '\'']

/-- Whether a string of this style can stand on several lines. -/
def isLong : StringStyle → Bool
  | longBasic | longLiteral => true
  | _ => false

end StringStyle

/-- A hexadecimal digit in upper case. -/
def upperHex (n : Nat) : Char := (Nat.digitChar n).toUpper

/-- An escape for a character in double quotes, when it needs one. -/
def escapeIn (style : StringStyle) (c : Char) : Option (List Char) :=
  match c with
  | '\x08' => some ['\\', 'b']
  | '\t' => some ['\\', 't']
  | '\n' => if style = .longBasic then none else some ['\\', 'n']
  | '\x0c' => some ['\\', 'f']
  | '\r' => some ['\\', 'r']
  | '\\' => some ['\\', '\\']
  | c =>
    if isControl c then
      some ['\\', 'u', '0', '0', upperHex (c.toNat / 16), upperHex (c.toNat % 16)]
    else none

/-- How many double quotes may stand in a row without an escape. -/
def quotesAllowed (style : StringStyle) : Nat := if style = .longBasic then 2 else 0

/-- The characters of a string in double quotes; `quotes` counts the quotes that
stand right before the text without an escape between them. -/
def escapedText (style : StringStyle) (quotes : Nat) : List Char → List Char
  | [] => []
  | c :: rest =>
    if c = '"' then
      if quotesAllowed style ≤ quotes then '\\' :: '"' :: escapedText style 0 rest
      else '"' :: escapedText style (quotes + 1) rest
    else
      match escapeIn style c with
      | some written => written ++ escapedText style 0 rest
      | none => c :: escapedText style 0 rest

/-- The characters of a string in its quotes. -/
def bodyText (style : StringStyle) (text : List Char) : List Char :=
  match style with
  | .basic | .longBasic => escapedText style 0 text
  | .literal | .longLiteral => text

/-- A string in its quotes. Long quotes are followed by a line end when the string
has one itself. -/
def stringText (text : List Char) : List Char :=
  let style := StringStyle.choose text
  let opening :=
    if style.isLong && text.contains '\n' then style.delimiter ++ ['\n'] else style.delimiter
  opening ++ bodyText style text ++ style.delimiter

/-- A key, bare where that is possible. -/
def keyText (key : String) : List Char :=
  if !key.isEmpty && key.toList.all isBareKeyChar then key.toList
  else ['"'] ++ escapedText .basic 0 key.toList ++ ['"']

/-! ### Values -/

mutual

/-- A value behind an equals sign. -/
def valueText : Value → List Char
  | .string text => stringText text.toList
  | .integer n => (toString n).toList
  | .float text => text.toList
  | .boolean b => if b then "true".toList else "false".toList
  | .datetime text => text.toList
  | .array [] => ['[', ']']
  | .array [item] => '[' :: valueText item ++ [']']
  | .array items => '[' :: itemsText items ++ ['\n', ']']
  | .table [] => ['\x7b', '\x7d']
  | .table entries => ['\x7b', ' '] ++ entriesText entries ++ [' ', '\x7d']

/-- The items of an array, each on a line of its own. -/
def itemsText : List Value → List Char
  | [] => []
  | item :: rest => "\n    ".toList ++ valueText item ++ ',' :: itemsText rest

/-- The entries of a table on one line. -/
def entriesText : List (String × Value) → List Char
  | [] => []
  | [(key, value)] => keyText key ++ " = ".toList ++ valueText value
  | (key, value) :: rest =>
    keyText key ++ " = ".toList ++ valueText value ++ ", ".toList ++ entriesText rest

end

/-! ### Documents -/

/-- The lines for the entries of a table that are no tables themselves. -/
def plainLines (entries : List (String × Value)) : List Char :=
  (entries.filter fun entry => !entry.2.isTable).flatMap fun (key, value) =>
    keyText key ++ " = ".toList ++ valueText value ++ ['\n']

/-- A header for the table with a path. -/
def headerText (path : List String) : List Char :=
  '[' :: ['.'].intercalate (path.map keyText) ++ [']', '\n']

mutual

/-- The parts of a document for the tables among the entries, each under its
header. -/
def tableParts (path : List String) : List (String × Value) → List (List Char)
  | [] => []
  | (key, value) :: rest => tablePart path key value ++ tableParts path rest

/-- The parts for an entry, if it is a table. -/
def tablePart (path : List String) (key : String) : Value → List (List Char)
  | .table entries =>
    (headerText (path ++ [key]) ++ plainLines entries) :: tableParts (path ++ [key]) entries
  | _ => []

end

/-- The parts of a document: what has no header, if there is anything, and the
tables. -/
def parts (entries : List (String × Value)) : List (List Char) :=
  let own := plainLines entries
  (if own.isEmpty then [] else [own]) ++ tableParts [] entries

/-- A whole document, an empty line between its parts. Integers have sixty-four bits
with a sign; a table that holds a greater one has no document. -/
def write? : Value → Option (List Char)
  | .table entries =>
    if Value.entriesFit entries then some (['\n'].intercalate (parts entries)) else none
  | _ => none

end GuestSupervisor.Toml
