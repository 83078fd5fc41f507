import GuestSupervisor.Text.Transducer

/-!
# UTF-8

Characters as bytes and back. Reading comes in two strengths: `decode?` refuses
what is not UTF-8, `decodeLossy` writes U+FFFD for each ill-formed piece, where a
piece is the longest start of a well-formed sequence, or one byte.

## Main Definitions

* `encode`: the bytes of a text.
* `decoder`: the machine both readings run on, one byte at a time.
* `decodeLossy`, `decode?`: the two readings of a whole sequence.

## Design Notes

The machine knows, between bytes, how many continuation bytes are owed and
between which bounds the next one must lie. The bounds of the second byte exclude
overlong forms, surrogates and values above U+10FFFF, so every completed value is
a character.
-/

namespace GuestSupervisor.Text.Utf8

/-- The bytes of one character. -/
def encodeChar (c : Char) : List UInt8 := String.utf8EncodeChar c

/-- The bytes of a text. -/
def encode (text : List Char) : List UInt8 := text.flatMap encodeChar

/-- Where the decoder stands between two bytes. -/
inductive State where
  /-- Between characters. -/
  | ready
  /-- Inside a character: `owed` more bytes are due, the next one between `low`
  and `high`, and `value` is what the bytes so far amount to. -/
  | inside (owed low high value : Nat)
  deriving DecidableEq, Repr

/-- What the decoder writes: a character, or the mark of an ill-formed piece. -/
inductive Item where
  | char (c : Char)
  | illFormed
  deriving DecidableEq, Repr

/-- The character a decoded item stands for; ill-formed pieces become U+FFFD. -/
def Item.toChar : Item → Char
  | .char c => c
  | .illFormed => '\uFFFD'

/-- The state and output after the first byte of a sequence. -/
def lead (byte : UInt8) : State × List Item :=
  let n := byte.toNat
  if n < 0x80 then (.ready, [.char (Char.ofNat n)])
  else if n < 0xC2 then (.ready, [.illFormed])
  else if n < 0xE0 then (.inside 1 0x80 0xBF (n - 0xC0), [])
  else if n = 0xE0 then (.inside 2 0xA0 0xBF 0, [])
  else if n = 0xED then (.inside 2 0x80 0x9F (n - 0xE0), [])
  else if n < 0xF0 then (.inside 2 0x80 0xBF (n - 0xE0), [])
  else if n = 0xF0 then (.inside 3 0x90 0xBF 0, [])
  else if n < 0xF4 then (.inside 3 0x80 0xBF (n - 0xF0), [])
  else if n = 0xF4 then (.inside 3 0x80 0x8F 4, [])
  else (.ready, [.illFormed])

/-- One byte. A byte that cannot continue a sequence ends it as ill-formed and is
read again as a first byte. -/
def step : State → UInt8 → State × List Item
  | .ready, byte => lead byte
  | .inside owed low high value, byte =>
    let n := byte.toNat
    if low ≤ n ∧ n ≤ high then
      let value' := value * 64 + (n - 0x80)
      if owed ≤ 1 then (.ready, [.char (Char.ofNat value')])
      else (.inside (owed - 1) 0x80 0xBF value', [])
    else
      let (state, out) := lead byte
      (state, .illFormed :: out)

/-- A sequence that the input cuts short is ill-formed. -/
def finish : State → List Item
  | .ready => []
  | .inside .. => [.illFormed]

/-- The decoder as a machine. -/
def itemDecoder : Transducer State UInt8 Item := ⟨.ready, step, finish⟩

/-- The decoder that writes U+FFFD for what is ill-formed. -/
def decoder : Transducer State UInt8 Char where
  start := .ready
  step state byte :=
    let (next, out) := step state byte
    (next, out.map Item.toChar)
  finish state := (finish state).map Item.toChar

/-- The text of a byte sequence, with U+FFFD for each ill-formed piece. -/
def decodeLossy (bytes : List UInt8) : List Char := decoder.complete bytes

/-- The text of a byte sequence that is UTF-8 throughout. -/
def decode? (bytes : List UInt8) : Option (List Char) :=
  let items := itemDecoder.complete bytes
  if items.all (· != .illFormed) then some (items.map Item.toChar) else none

/-- The bytes of a string. -/
def ofString (s : String) : List UInt8 := s.toUTF8.toList

/-- The string of a byte sequence, with U+FFFD for each ill-formed piece. -/
def toStringLossy (bytes : List UInt8) : String := String.ofList (decodeLossy bytes)

/-- The string of a byte sequence that is UTF-8 throughout. -/
def toString? (bytes : List UInt8) : Option String := (decode? bytes).map String.ofList

end GuestSupervisor.Text.Utf8
