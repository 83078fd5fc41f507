/-!
# Text as characters

The readers of this library work on lists of characters. This module holds the
operations they share: cutting a text at a character or at a word, cutting it
into lines, and replacing a character.

## Main Definitions

* `splitOnce`, `splitOnceOn`: cut at the first character, at the first word.
* `segments`: cut at every occurrence of a character.
* `lines`: cut into lines, as files and terminal output are.
* `replaceAll`: write a list of characters for one character.

## Design Notes

Everything is stated with the list operations of the core library, so a text of
a megabyte is handled without deep recursion.
-/

namespace GuestSupervisor.Text

/-- The text before and after the first `mark`, or nothing when `mark` does not
occur. -/
def splitOnce (mark : Char) (text : List Char) : Option (List Char × List Char) :=
  match text.dropWhile (· != mark) with
  | _ :: after => some (text.takeWhile (· != mark), after)
  | [] => none

/-- Walks `text` for the first place where `word` starts; `before` holds the
characters already passed, the last one first. -/
def splitOnceOn.seek (word before : List Char) : List Char → Option (List Char × List Char)
  | [] => if word.isEmpty then some (before.reverse, []) else none
  | c :: rest =>
    match word.isPrefixOf? (c :: rest) with
    | some after => some (before.reverse, after)
    | none => splitOnceOn.seek word (c :: before) rest

/-- The text before and after the first occurrence of `word`. -/
def splitOnceOn (word text : List Char) : Option (List Char × List Char) :=
  splitOnceOn.seek word [] text

/-- The pieces between the occurrences of `mark`: always one more than there
are marks. -/
def segments (mark : Char) (text : List Char) : List (List Char) :=
  text.foldr
    (fun c pieces =>
      if c = mark then [] :: pieces
      else match pieces with
        | [] => [[c]]
        | piece :: others => (c :: piece) :: others)
    [[]]

/-- A line without the carriage return that ends it. -/
def dropReturn (line : List Char) : List Char :=
  if line.getLast? = some '\r' then line.dropLast else line

/-- The lines of a text. A line ends with a line feed, before which one carriage
return is dropped; what follows the last line feed is a line unless it is
empty, and keeps a carriage return at its end. -/
def lines (text : List Char) : List (List Char) :=
  let pieces := segments '\n' text
  pieces.dropLast.map dropReturn ++ pieces.getLast?.toList.filter (fun rest => !rest.isEmpty)

/-- The text with `written` in the place of every `mark`. -/
def replaceAll (mark : Char) (written text : List Char) : List Char :=
  text.flatMap fun c => if c = mark then written else [c]

/-- The value of a hexadecimal digit. -/
def hexValue? (c : Char) : Option Nat :=
  if '0' ≤ c ∧ c ≤ '9' then some (c.toNat - '0'.toNat)
  else if 'a' ≤ c ∧ c ≤ 'f' then some (c.toNat - 'a'.toNat + 10)
  else if 'A' ≤ c ∧ c ≤ 'F' then some (c.toNat - 'A'.toNat + 10)
  else none

/-- Whether a character is one of the sixteen hexadecimal digits, in either
case. -/
def isHexDigit (c : Char) : Bool := (hexValue? c).isSome

/-- ASCII letters in lower case, all other characters as they are. -/
def asciiLower (text : List Char) : List Char := text.map Char.toLower

/-- Equality up to the case of ASCII letters. -/
def equalsIgnoringCase (a b : List Char) : Bool := asciiLower a == asciiLower b

/-! ### First facts -/

/-- What was cut is the text again when the mark is put back. -/
theorem append_of_splitOnce {mark : Char} {text before after : List Char}
    (h : splitOnce mark text = some (before, after)) : before ++ mark :: after = text := by
  unfold splitOnce at h
  split at h
  · next c rest hd =>
    simp only [Option.some.injEq, Prod.mk.injEq] at h
    obtain ⟨rfl, rfl⟩ := h
    have hc := List.head?_dropWhile_not (fun d : Char => d != mark) text
    rw [hd] at hc
    have : c = mark := by simpa using hc
    subst this
    rw [← hd, List.takeWhile_append_dropWhile]
  · simp at h

@[simp] theorem segments_nil (mark : Char) : segments mark [] = [[]] := rfl

theorem segments_ne_nil (mark : Char) (text : List Char) : segments mark text ≠ [] := by
  cases text with
  | nil => simp
  | cons c rest =>
    unfold segments
    rw [List.foldr_cons]
    split
    · simp
    · split <;> simp

@[simp] theorem lines_nil : lines [] = [] := rfl

@[simp] theorem replaceAll_nil (mark : Char) (written : List Char) :
    replaceAll mark written [] = [] := rfl

@[simp] theorem replaceAll_append (mark : Char) (written a b : List Char) :
    replaceAll mark written (a ++ b) = replaceAll mark written a ++ replaceAll mark written b := by
  simp [replaceAll]

end GuestSupervisor.Text
