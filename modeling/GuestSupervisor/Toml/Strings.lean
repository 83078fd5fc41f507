import GuestSupervisor.Text.Basic

/-!
# TOML strings and keys

The four kinds of strings, in double or single quotes, on one line or several, and
the keys that name values.

## Main Definitions

* `string?`: a string at the start of a text.
* `key?`: a key at the start of a text, bare or quoted.
* `keyPath?`: keys joined by dots.

## Design Notes

Every reader takes the text from where it stands and returns what it read with the
text behind it. A reader that loops ends because each turn leaves less text.
-/

namespace GuestSupervisor.Toml

open Text

/-! ### Characters -/

/-- Whether a character separates words on a line. -/
def isSpace (c : Char) : Bool := c == ' ' || c == '\t'

/-- A text without the spaces at its start. -/
def skipSpaces (text : List Char) : List Char := text.dropWhile isSpace

/-- Whether a character may stand in strings and comments as it is. -/
def isPrintable (c : Char) : Bool := c == '\t' || (0x20 ≤ c.toNat && c.toNat != 0x7F)

/-- Whether a character may stand in a bare key. -/
def isBareKeyChar (c : Char) : Bool := c.isAlphanum || c == '-' || c == '_'

/-- What follows the end of a line right here. -/
def lineEnd? : List Char → Option (List Char)
  | '\n' :: rest => some rest
  | '\r' :: '\n' :: rest => some rest
  | _ => none

/-- A text without the end of a line at its start, if there is one. -/
def dropLineEnd (text : List Char) : List Char := (lineEnd? text).getD text

/-- A text without the spaces and line ends at its start. -/
def skipBlankLines : List Char → List Char
  | '\n' :: rest => skipBlankLines rest
  | '\r' :: '\n' :: rest => skipBlankLines rest
  | ' ' :: rest => skipBlankLines rest
  | '\t' :: rest => skipBlankLines rest
  | text => text

theorem skipBlankLines_length_le (text : List Char) :
    (skipBlankLines text).length ≤ text.length := by
  fun_induction skipBlankLines text <;> grind

theorem skipSpaces_length_le (text : List Char) : (skipSpaces text).length ≤ text.length :=
  (List.dropWhile_sublist _).length_le

theorem lineEnd?_length {text rest : List Char} (h : lineEnd? text = some rest) :
    rest.length < text.length := by
  unfold lineEnd? at h
  split at h
  · cases h
    exact Nat.lt_succ_self _
  · cases h
    simp only [List.length_cons]
    omega
  · cases h

/-! ### Escapes -/

/-- The value of hexadecimal digits, if they are all digits. -/
def hexDigitsValue? (digits : List Char) : Option Nat :=
  digits.foldlM (fun n c => (hexValue? c).map fun d => 16 * n + d) 0

/-- The character with a number, if there is one. -/
def charOf? (n : Nat) : Option Char := if h : n.isValidChar then some (Char.ofNatAux n h) else none

/-- The character that exactly `count` hexadecimal digits stand for. -/
def codePoint? (count : Nat) (text : List Char) : Option (Char × List Char) :=
  if text.length < count then none
  else do
    let n ← hexDigitsValue? (text.take count)
    let c ← charOf? n
    some (c, text.drop count)

/-- The character that a letter after a backslash stands for. -/
def letterEscape? : Char → Option Char
  | 'b' => some '\x08'
  | 't' => some '\t'
  | 'n' => some '\n'
  | 'f' => some '\x0c'
  | 'r' => some '\r'
  | '"' => some '"'
  | '\\' => some '\\'
  | _ => none

/-- The character that an escape stands for, read behind its backslash. -/
def escape? : List Char → Option (Char × List Char)
  | 'u' :: rest => codePoint? 4 rest
  | 'U' :: rest => codePoint? 8 rest
  | letter :: rest => (letterEscape? letter).map fun c => (c, rest)
  | [] => none

theorem codePoint?_length {count : Nat} {text rest : List Char} {c : Char}
    (h : codePoint? count text = some (c, rest)) : rest.length ≤ text.length := by
  unfold codePoint? at h
  split at h
  · simp at h
  · simp only [bind, Option.bind_eq_some_iff, Option.some.injEq, Prod.mk.injEq] at h
    obtain ⟨_, _, _, _, _, rfl⟩ := h
    simp

theorem escape?_length {text rest : List Char} {c : Char} (h : escape? text = some (c, rest)) :
    rest.length < text.length := by
  unfold escape? at h
  split at h
  · have := codePoint?_length h
    simp only [List.length_cons]
    omega
  · have := codePoint?_length h
    simp only [List.length_cons]
    omega
  · simp only [Option.map_eq_some_iff, Prod.mk.injEq] at h
    obtain ⟨_, _, _, rfl⟩ := h
    simp
  · simp at h

/-! ### Strings -/

/-- The rest of a basic string on one line, after its opening quote. `seen` holds
the characters so far, last first. -/
def basicBody (seen : List Char) (text : List Char) : Option (String × List Char) :=
  match text with
  | [] => none
  | '"' :: rest => some (String.ofList seen.reverse, rest)
  | '\\' :: rest =>
    match _h : escape? rest with
    | some (c, after) => basicBody (c :: seen) after
    | none => none
  | c :: rest => if isPrintable c then basicBody (c :: seen) rest else none
termination_by text.length
decreasing_by
  · have := escape?_length _h
    simp only [List.length_cons]
    omega
  · simp

/-- The end of a string of several lines, read behind three closing quotes: up to
two more quotes belong to the string. -/
def closeLong (quote : Char) (seen : List Char) (text : List Char) : String × List Char :=
  match text with
  | a :: b :: rest =>
    if a = quote ∧ b = quote then (String.ofList (quote :: quote :: seen).reverse, rest)
    else if a = quote then (String.ofList (quote :: seen).reverse, b :: rest)
    else (String.ofList seen.reverse, text)
  | [a] =>
    if a = quote then (String.ofList (quote :: seen).reverse, [])
    else (String.ofList seen.reverse, text)
  | [] => (String.ofList seen.reverse, [])

/-- What follows a backslash at the end of a line: the next line that is not
blank. -/
def continued? (text : List Char) : Option (List Char) :=
  (lineEnd? (skipSpaces text)).map skipBlankLines

theorem continued?_length {text rest : List Char} (h : continued? text = some rest) :
    rest.length < text.length := by
  simp only [continued?, Option.map_eq_some_iff] at h
  obtain ⟨after, ha, rfl⟩ := h
  have h1 := lineEnd?_length ha
  have h2 := skipBlankLines_length_le after
  have h3 := skipSpaces_length_le text
  omega

/-- The rest of a basic string of several lines, after its opening quotes. -/
def longBasicBody (seen : List Char) (text : List Char) : Option (String × List Char) :=
  match text with
  | [] => none
  | '"' :: '"' :: '"' :: rest => some (closeLong '"' seen rest)
  | '\\' :: rest =>
    match _h : continued? rest with
    | some after => longBasicBody seen after
    | none =>
      match _h' : escape? rest with
      | some (c, after) => longBasicBody (c :: seen) after
      | none => none
  | '\r' :: '\n' :: rest => longBasicBody ('\n' :: seen) rest
  | c :: rest =>
    if c = '\n' || isPrintable c then longBasicBody (c :: seen) rest else none
termination_by text.length
decreasing_by
  · have := continued?_length _h
    simp only [List.length_cons]
    omega
  · have := escape?_length _h'
    simp only [List.length_cons]
    omega
  · simp only [List.length_cons]
    omega
  · simp

/-- The rest of a literal string on one line, after its opening quote. -/
def literalBody (seen : List Char) : List Char → Option (String × List Char)
  | [] => none
  | '\'' :: rest => some (String.ofList seen.reverse, rest)
  | c :: rest => if isPrintable c then literalBody (c :: seen) rest else none

/-- The rest of a literal string of several lines, after its opening quotes. -/
def longLiteralBody (seen : List Char) : List Char → Option (String × List Char)
  | [] => none
  | '\'' :: '\'' :: '\'' :: rest => some (closeLong '\'' seen rest)
  | '\r' :: '\n' :: rest => longLiteralBody ('\n' :: seen) rest
  | c :: rest =>
    if c = '\n' || isPrintable c then longLiteralBody (c :: seen) rest else none

/-- A string on one line at the start of a text. -/
def lineString? : List Char → Option (String × List Char)
  | '"' :: rest => basicBody [] rest
  | '\'' :: rest => literalBody [] rest
  | _ => none

/-- A string at the start of a text. A line end right behind the opening quotes of
several lines does not belong to the string. -/
def string? : List Char → Option (String × List Char)
  | '"' :: '"' :: '"' :: rest => longBasicBody [] (dropLineEnd rest)
  | '\'' :: '\'' :: '\'' :: rest => longLiteralBody [] (dropLineEnd rest)
  | text => lineString? text

/-! ### Keys -/

/-- A key at the start of a text. -/
def key? (text : List Char) : Option (String × List Char) :=
  match text with
  | c :: rest =>
    if isBareKeyChar c then
      some (String.ofList (c :: rest.takeWhile isBareKeyChar), rest.dropWhile isBareKeyChar)
    else lineString? text
  | [] => none

/-- The most keys that dots may join. -/
def longestPath : Nat := 79

/-- At most so many keys joined by dots, spaces allowed around each. -/
def keyPath? : Nat → List Char → Option (List String × List Char)
  | 0, _ => none
  | limit + 1, text => do
    let (key, rest) ← key? (skipSpaces text)
    match skipSpaces rest with
    | '.' :: rest =>
      let (keys, rest) ← keyPath? limit rest
      some (key :: keys, rest)
    | rest => some ([key], rest)

end GuestSupervisor.Toml
