import GuestSupervisor.Toml.Numbers
import GuestSupervisor.Toml.Strings
import GuestSupervisor.Toml.Table

/-!
# Reading TOML

A document is a sequence of lines: headers, rows of lists and assignments. They are
read one after the other, gathered under their headers, and put together to one
table.

## Main Definitions

* `value?`: a value at the start of a text.
* `Statement`, `statements?`: the lines of a document.
* `Section`, `assemble?`: the table that they describe.
* `read?`: the table of a whole document.

## Design Notes

Readers of nested values have a budget of text that each call spends, and a limit
on how deep containers nest.
-/

namespace GuestSupervisor.Toml

/-! ### Values -/

/-- What follows a comment, which reaches to the end of its line. -/
def comment? : List Char → Option (List Char)
  | '#' :: rest => some (rest.dropWhile isPrintable)
  | _ => none

/-- A text without blanks, line ends and comments at its start. -/
def skipBetween : Nat → List Char → List Char
  | 0, text => text
  | budget + 1, text =>
    let text := skipBlankLines text
    match comment? text with
    | some rest => skipBetween budget rest
    | none => text

/-- How deep arrays and inline tables may nest. -/
def deepest : Nat := 79

/-- A word at the start of a text. -/
def word? (letters : String) (value : Value) (text : List Char) : Option (Value × List Char) :=
  (letters.toList.isPrefixOf? text).map fun rest => (value, rest)

mutual

/-- A value at the start of a text. -/
def value? (depth : Nat) : Nat → List Char → Option (Value × List Char)
  | 0, _ => none
  | _ + 1, [] => none
  | budget + 1, c :: rest =>
    if c = '"' ∨ c = '\'' then (string? (c :: rest)).map fun (s, rest) => (.string s, rest)
    else if c = '[' then
      match depth with
      | 0 => none
      | depth + 1 => arrayItems? depth budget [] rest
    else if c = '\x7b' then
      match depth with
      | 0 => none
      | depth + 1 =>
        match skipSpaces rest with
        | '\x7d' :: rest => some (.table [], rest)
        | rest => inlineEntries? depth budget [] rest
    else if c = 't' then word? "true" (.boolean true) (c :: rest)
    else if c = 'f' then word? "false" (.boolean false) (c :: rest)
    else if c = 'i' then word? "inf" (.float "inf") (c :: rest)
    else if c = 'n' then word? "nan" (.float "nan") (c :: rest)
    else if c.isDigit || c = '+' || c = '-' then number? (c :: rest)
    else none

/-- The items of an array up to its end; `seen` holds those before, last first. -/
def arrayItems? (depth : Nat) : Nat → List Value → List Char → Option (Value × List Char)
  | 0, _, _ => none
  | budget + 1, seen, text =>
    match skipBetween text.length text with
    | ']' :: rest => some (.array seen.reverse, rest)
    | text =>
      match value? depth budget text with
      | none => none
      | some (item, rest) =>
        match skipBetween rest.length rest with
        | ',' :: rest => arrayItems? depth budget (item :: seen) rest
        | ']' :: rest => some (.array (item :: seen).reverse, rest)
        | _ => none

/-- The entries of an inline table up to its end. -/
def inlineEntries? (depth : Nat) : Nat → Entries → List Char → Option (Value × List Char)
  | 0, _, _ => none
  | budget + 1, entries, text =>
    match keyPath? longestPath text with
    | some (path, '=' :: rest) =>
      match value? depth budget (skipSpaces rest) with
      | none => none
      | some (value, rest) =>
        match Node.assign entries path value with
        | none => none
        | some entries =>
          match skipSpaces rest with
          | ',' :: rest => inlineEntries? depth budget entries rest
          | '\x7d' :: rest => some (.table (Node.toEntries entries), rest)
          | _ => none
    | _ => none

end

/-! ### Lines -/

/-- What a line of a document says. -/
inductive Statement where
  /-- The assignments that follow belong to this table. -/
  | header (path : List String)
  /-- The assignments that follow belong to a new row of this list. -/
  | row (path : List String)
  | assignment (path : List String) (value : Value)
  deriving Repr

/-- What follows the end of a line: blanks and a comment may stand before it, and
the last line may go without. -/
def endLine? (text : List Char) : Option (List Char) :=
  let text := skipSpaces text
  match (comment? text).getD text with
  | [] => some []
  | text => lineEnd? text

/-- A header or an assignment at the start of a text, and what follows its line. -/
def statement? (text : List Char) : Option (Statement × List Char) :=
  match text with
  | '[' :: '[' :: rest =>
    match keyPath? longestPath rest with
    | some (path, ']' :: ']' :: rest) => (endLine? rest).map fun rest => (.row path, rest)
    | _ => none
  | '[' :: rest =>
    match keyPath? longestPath rest with
    | some (path, ']' :: rest) => (endLine? rest).map fun rest => (.header path, rest)
    | _ => none
  | text =>
    match keyPath? longestPath text with
    | some (path, '=' :: rest) => do
      let (value, rest) ← value? deepest (2 * rest.length + 2) (skipSpaces rest)
      let rest ← endLine? rest
      some (.assignment path value, rest)
    | _ => none

/-- The statements of a text, within a budget of turns. -/
def statements? : Nat → List Char → Option (List Statement)
  | 0, _ => none
  | budget + 1, text =>
    match skipSpaces text with
    | [] => some []
    | '#' :: rest => do
      let rest ← endLine? ('#' :: rest)
      statements? budget rest
    | '\n' :: rest => statements? budget rest
    | '\r' :: rest => do
      let rest ← lineEnd? ('\r' :: rest)
      statements? budget rest
    | text => do
      let (statement, rest) ← statement? text
      let statements ← statements? budget rest
      some (statement :: statements)

/-! ### Documents -/

/-- What a part of a document fills. -/
inductive Heading where
  | root
  | table (path : List String)
  | row (path : List String)
  deriving Repr

/-- A heading with the assignments under it. -/
structure Section where
  heading : Heading
  body : List (List String × Value)
  deriving Repr

/-- The statements gathered under their headings: what stands before the first, and
the parts from there on. -/
def gather : List Statement → List (List String × Value) × List Section
  | [] => ([], [])
  | .assignment path value :: rest =>
    let (body, sections) := gather rest
    ((path, value) :: body, sections)
  | .header path :: rest =>
    let (body, sections) := gather rest
    ([], ⟨.table path, body⟩ :: sections)
  | .row path :: rest =>
    let (body, sections) := gather rest
    ([], ⟨.row path, body⟩ :: sections)

/-- A document with one more part. -/
def Section.addTo (part : Section) (root : Entries) : Option Entries :=
  match part.heading with
  | .root => Node.assignAll root part.body
  | .table path => Node.openTable root path part.body
  | .row path => Node.appendRow root path part.body

/-- The table that statements describe. -/
def assemble? (statements : List Statement) : Option Entries :=
  let (body, sections) := gather statements
  (⟨.root, body⟩ :: sections).foldlM (fun root part => part.addTo root) []

/-- A text without the mark that may stand at its start to tell its byte order. -/
def dropMark : List Char → List Char
  | '\uFEFF' :: rest => rest
  | text => text

/-- The table of a whole document. -/
def read? (text : List Char) : Option Value := do
  let statements ← statements? (text.length + 1) (dropMark text)
  let entries ← assemble? statements
  some (.table (Node.toEntries entries))

end GuestSupervisor.Toml
