import GuestSupervisor.Text.Printable

/-!
# Quoted text

Messages quote what a user wrote, so that blanks and control characters can be
seen: in double quotes, with short escapes for the common cases and the code
point in hexadecimal for every other character that does not show.

## Main Definitions

* `quotedChar`: one character as it stands between the quotes.
* `quoted`: the whole text.
-/

namespace GuestSupervisor.Text

/-- A code point as `\u` and its hexadecimal digits in braces. -/
def codePoint (c : Char) : List Char :=
  ['\\', 'u', '\x7b'] ++ Nat.toDigits 16 c.toNat ++ ['\x7d']

/-- One character of a quoted text. The single quote needs no escape between
double quotes. -/
def quotedChar (c : Char) : List Char :=
  match c with
  | '\x00' => ['\\', '0']
  | '\t' => ['\\', 't']
  | '\n' => ['\\', 'n']
  | '\r' => ['\\', 'r']
  | '"' => ['\\', '"']
  | '\\' => ['\\', '\\']
  | c => if isShown c then [c] else codePoint c

/-- A text between double quotes. -/
def quoted (text : List Char) : List Char := '"' :: text.flatMap quotedChar ++ ['"']

/-- `quoted` on strings. -/
def quote (s : String) : String := String.ofList (quoted s.toList)

end GuestSupervisor.Text
