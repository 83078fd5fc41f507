import GuestSupervisor.Text.Utf8
import Mathlib.Tactic.SplitIfs

/-!
# What is encoded is decoded

The bytes of a character lead the decoder from between characters back to between
characters, and on the way that character is written.  So a text survives being written
as bytes and read again.

## Main Statements

* `Utf8.decode?_encode` — the bytes of a text are UTF-8 and mean that text.
-/

namespace GuestSupervisor.Text.Utf8

variable {byte : UInt8} {n : Nat}

/-! ## First bytes -/

theorem lead_ascii (same : byte.toNat = n) (small : n < 0x80) :
    lead byte = (.ready, [.char (Char.ofNat n)]) := by
  simp only [lead, same, if_pos small]

theorem lead_two (same : byte.toNat = n) (low : 0xC2 ≤ n) (high : n < 0xE0) :
    lead byte = (.inside 1 0x80 0xBF (n - 0xC0), []) := by
  simp only [lead, same, if_neg (show ¬n < 0x80 by omega), if_neg (show ¬n < 0xC2 by omega),
    if_pos high]

/-- The first of three bytes leaves the second one less room where a shorter form or a
surrogate would come out. -/
theorem lead_three (same : byte.toNat = n) (low : 0xE0 ≤ n) (high : n < 0xF0) :
    lead byte = (.inside 2 (if n = 0xE0 then 0xA0 else 0x80) (if n = 0xED then 0x9F else 0xBF)
      (n - 0xE0), []) := by
  simp only [lead, same, if_neg (show ¬n < 0x80 by omega), if_neg (show ¬n < 0xC2 by omega),
    if_neg (show ¬n < 0xE0 by omega), if_pos high]
  by_cases first : n = 0xE0
  · simp [first]
  · by_cases surrogate : n = 0xED
    · simp [surrogate]
    · simp [first, surrogate]

/-- The first of four bytes leaves the second one less room where a shorter form or a value
that is no character would come out. -/
theorem lead_four (same : byte.toNat = n) (low : 0xF0 ≤ n) (high : n ≤ 0xF4) :
    lead byte = (.inside 3 (if n = 0xF0 then 0x90 else 0x80) (if n = 0xF4 then 0x8F else 0xBF)
      (n - 0xF0), []) := by
  simp only [lead, same, if_neg (show ¬n < 0x80 by omega), if_neg (show ¬n < 0xC2 by omega),
    if_neg (show ¬n < 0xE0 by omega), if_neg (show ¬n = 0xE0 by omega),
    if_neg (show ¬n = 0xED by omega), if_neg (show ¬n < 0xF0 by omega)]
  by_cases first : n = 0xF0
  · simp [first]
  · by_cases last : n = 0xF4
    · simp [last]
    · simp [first, last, show n < 0xF4 by omega]

/-! ## Later bytes -/

theorem step_last {low high : Nat} (value : Nat) (same : byte.toNat = n)
    (fits : low ≤ n ∧ n ≤ high) :
    step (.inside 1 low high value) byte
      = (.ready, [.char (Char.ofNat (value * 64 + (n - 0x80)))]) := by
  simp [step, same, fits]

theorem step_inner {owed low high : Nat} (value : Nat) (more : 1 < owed) (same : byte.toNat = n)
    (fits : low ≤ n ∧ n ≤ high) :
    step (.inside owed low high value) byte
      = (.inside (owed - 1) 0x80 0xBF (value * 64 + (n - 0x80)), []) := by
  simp [step, same, fits, Nat.not_le.mpr more]

/-! ## Characters -/

theorem toNat_ofNat_of_lt (small : n < 256) : (UInt8.ofNat n).toNat = n := by
  simp [Nat.mod_eq_of_lt small]

section

variable {v : Nat}

/-- Two bytes are read as the value that they were made from. -/
theorem runFrom_two (low : 0x80 ≤ v) (high : v < 0x800) (written : List Item) :
    itemDecoder.runFrom (.ready, written)
        [.ofNat (v / 64 % 32 + 192), .ofNat (v % 64 + 128)]
      = (.ready, .char (Char.ofNat v) :: written) := by
  have first : step .ready (.ofNat (v / 64 % 32 + 192)) = _ :=
    lead_two (toNat_ofNat_of_lt (by omega)) (by omega) (by omega)
  have second := fun value => step_last value
    (toNat_ofNat_of_lt (show v % 64 + 128 < 256 by omega))
    (show 0x80 ≤ v % 64 + 128 ∧ v % 64 + 128 ≤ 0xBF by omega)
  have value : (v / 64 % 32 + 192 - 0xC0) * 64 + (v % 64 + 128 - 0x80) = v := by omega
  simp only [Transducer.runFrom_cons, Transducer.runFrom_nil, Transducer.feed, itemDecoder, first,
    second, value]
  rfl

/-- Three bytes are read as the value that they were made from, unless it is a surrogate. -/
theorem runFrom_three (low : 0x800 ≤ v) (high : v < 0x10000) (valid : v < 0xD800 ∨ 0xDFFF < v)
    (written : List Item) :
    itemDecoder.runFrom (.ready, written)
        [.ofNat (v / 4096 % 16 + 224), .ofNat (v / 64 % 64 + 128), .ofNat (v % 64 + 128)]
      = (.ready, .char (Char.ofNat v) :: written) := by
  have first : step .ready (.ofNat (v / 4096 % 16 + 224)) = _ :=
    lead_three (toNat_ofNat_of_lt (by omega)) (by omega) (by omega)
  have second := fun value => step_inner value (show 1 < 2 by omega)
    (toNat_ofNat_of_lt (show v / 64 % 64 + 128 < 256 by omega))
    (show (if v / 4096 % 16 + 224 = 0xE0 then 0xA0 else 0x80) ≤ v / 64 % 64 + 128 ∧
      v / 64 % 64 + 128 ≤ (if v / 4096 % 16 + 224 = 0xED then 0x9F else 0xBF) by
        split_ifs <;> omega)
  have third := fun value => step_last value
    (toNat_ofNat_of_lt (show v % 64 + 128 < 256 by omega))
    (show 0x80 ≤ v % 64 + 128 ∧ v % 64 + 128 ≤ 0xBF by omega)
  have value : ((v / 4096 % 16 + 224 - 0xE0) * 64 + (v / 64 % 64 + 128 - 0x80)) * 64
      + (v % 64 + 128 - 0x80) = v := by omega
  simp only [Transducer.runFrom_cons, Transducer.runFrom_nil, Transducer.feed, itemDecoder, first,
    second, third, value]
  rfl

/-- Four bytes are read as the value that they were made from, if it is a character's. -/
theorem runFrom_four (low : 0x10000 ≤ v) (high : v < 0x110000) (written : List Item) :
    itemDecoder.runFrom (.ready, written)
        [.ofNat (v / 262144 % 8 + 240), .ofNat (v / 4096 % 64 + 128), .ofNat (v / 64 % 64 + 128),
          .ofNat (v % 64 + 128)]
      = (.ready, .char (Char.ofNat v) :: written) := by
  have first : step .ready (.ofNat (v / 262144 % 8 + 240)) = _ :=
    lead_four (toNat_ofNat_of_lt (by omega)) (by omega) (by omega)
  have second := fun value => step_inner value (show 1 < 3 by omega)
    (toNat_ofNat_of_lt (show v / 4096 % 64 + 128 < 256 by omega))
    (show (if v / 262144 % 8 + 240 = 0xF0 then 0x90 else 0x80) ≤ v / 4096 % 64 + 128 ∧
      v / 4096 % 64 + 128 ≤ (if v / 262144 % 8 + 240 = 0xF4 then 0x8F else 0xBF) by
        split_ifs <;> omega)
  have third := fun value => step_inner value (show 1 < 2 by omega)
    (toNat_ofNat_of_lt (show v / 64 % 64 + 128 < 256 by omega))
    (show 0x80 ≤ v / 64 % 64 + 128 ∧ v / 64 % 64 + 128 ≤ 0xBF by omega)
  have fourth := fun value => step_last value
    (toNat_ofNat_of_lt (show v % 64 + 128 < 256 by omega))
    (show 0x80 ≤ v % 64 + 128 ∧ v % 64 + 128 ≤ 0xBF by omega)
  have value : (((v / 262144 % 8 + 240 - 0xF0) * 64 + (v / 4096 % 64 + 128 - 0x80)) * 64
      + (v / 64 % 64 + 128 - 0x80)) * 64 + (v % 64 + 128 - 0x80) = v := by omega
  simp only [Transducer.runFrom_cons, Transducer.runFrom_nil, Transducer.feed, itemDecoder, first,
    second, third, fourth, value]
  rfl

end

/-- **The bytes of a character are read as that character.** -/
theorem runFrom_encodeChar (c : Char) (written : List Item) :
    itemDecoder.runFrom (.ready, written) (encodeChar c) = (.ready, .char c :: written) := by
  have isChar : Char.ofNat c.val.toNat = c := Char.ofNat_toNat c
  have valid : c.val.toNat < 0xD800 ∨ 0xDFFF < c.val.toNat ∧ c.val.toNat < 0x110000 := c.valid
  unfold encodeChar String.utf8EncodeChar
  generalize c.val.toNat = v at isChar valid
  subst isChar
  simp only
  split_ifs with one two three
  · have first := lead_ascii (toNat_ofNat_of_lt (show v < 256 by omega)) (by omega)
    simp [Transducer.feed, itemDecoder, step, first]
  · exact runFrom_two (by omega) (by omega) written
  · exact runFrom_three (by omega) (by omega) (by omega) written
  · exact runFrom_four (by omega) (by omega) written

/-- The bytes of a text are read as its characters. -/
theorem runFrom_encode (text : List Char) (written : List Item) :
    itemDecoder.runFrom (.ready, written) (encode text)
      = (.ready, (text.map Item.char).reverse ++ written) := by
  induction text generalizing written with
  | nil => rfl
  | cons c rest ih =>
    show itemDecoder.runFrom _ (encodeChar c ++ encode rest) = _
    rw [Transducer.runFrom_append, runFrom_encodeChar, ih]
    simp

/-- **What is encoded is decoded.** -/
theorem decode?_encode (text : List Char) : decode? (encode text) = some text := by
  have items : itemDecoder.complete (encode text) = text.map Item.char := by
    have run := runFrom_encode text []
    simp only [Transducer.complete]
    rw [show itemDecoder.start = .ready from rfl, run]
    simp [itemDecoder, finish]
  have wellFormed : (text.map Item.char).all (· != .illFormed) := by simp
  unfold decode?
  simp only [items, wellFormed, if_true, List.map_map]
  rw [show Item.toChar ∘ Item.char = id from rfl, List.map_id]

end GuestSupervisor.Text.Utf8
