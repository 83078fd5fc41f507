import GuestSupervisor.Text.Utf8
import Mathlib.Data.String.Basic
import Mathlib.Tactic.SplitIfs

/-!
# The order of bytes

Texts are compared character by character.  Their bytes are compared byte by byte.  In this
encoding it makes no difference: more bytes are needed only for a later character, and then the
first of them shows it.

## Main Statements

* `Utf8.encodeChar_append_lt` — of two characters, the first byte in which they differ decides.
* `Utf8.encode_lt_iff` — texts are in the order of their bytes.
-/

namespace GuestSupervisor.Text.Utf8

variable {m n v w : Nat} {c d : Char} {s t : List Char} {a b : String} {x y : List UInt8}

theorem ofNat_lt_ofNat (small : m < 256) (small' : n < 256) :
    UInt8.ofNat m < UInt8.ofNat n ↔ m < n := by
  rw [UInt8.lt_iff_toNat_lt, UInt8.toNat_ofNat', UInt8.toNat_ofNat', Nat.mod_eq_of_lt small,
    Nat.mod_eq_of_lt small']

theorem ofNat_eq_ofNat (small : m < 256) (small' : n < 256) :
    UInt8.ofNat m = UInt8.ofNat n ↔ m = n := by
  rw [← UInt8.toNat_inj, UInt8.toNat_ofNat', UInt8.toNat_ofNat', Nat.mod_eq_of_lt small,
    Nat.mod_eq_of_lt small']

/-- Bytes are compared as the numbers that they were made of. -/
theorem cons_lt_cons (small : m < 256) (small' : n < 256) (first : m ≤ n)
    (rest : m = n → x < y) : UInt8.ofNat m :: x < UInt8.ofNat n :: y := by
  rw [List.cons_lt_cons_iff, ofNat_lt_ofNat small small', ofNat_eq_ofNat small small']
  exact first.lt_or_eq.imp_right fun same => ⟨same, rest same⟩

/-- The last byte of a character tells characters apart that have the bytes before in common. -/
theorem last_lt (less : v < w) (same : v / 64 = w / 64) :
    UInt8.ofNat (v % 64 + 128) :: x < UInt8.ofNat (w % 64 + 128) :: y :=
  cons_lt_cons (by omega) (by omega) (by omega) fun last => by omega

/-- **Of two characters, the first byte in which they differ decides**, whatever follows. -/
theorem encodeChar_append_lt (earlier : c < d) (x y : List UInt8) :
    encodeChar c ++ x < encodeChar d ++ y := by
  have less : c.val.toNat < d.val.toNat := earlier
  have valid : d.val.toNat < 0x110000 := by
    rcases d.valid with low | ⟨-, high⟩
    · exact Nat.lt_trans low (by decide)
    · exact high
  unfold encodeChar String.utf8EncodeChar
  generalize c.val.toNat = v at less
  generalize d.val.toNat = w at less valid
  simp only
  -- The first bytes of characters with different numbers of bytes are different.
  split_ifs <;> simp only [List.cons_append, List.nil_append] <;>
    try (exact cons_lt_cons (by omega) (by omega) (by omega) fun _ => by omega)
  · exact cons_lt_cons (by omega) (by omega) (by omega) fun first => last_lt less (by omega)
  · exact cons_lt_cons (by omega) (by omega) (by omega) fun first =>
      cons_lt_cons (by omega) (by omega) (by omega) fun second => last_lt less (by omega)
  · exact cons_lt_cons (by omega) (by omega) (by omega) fun first =>
      cons_lt_cons (by omega) (by omega) (by omega) fun second =>
        cons_lt_cons (by omega) (by omega) (by omega) fun third => last_lt less (by omega)

/-- The bytes of an earlier text come first. -/
theorem encode_lt_encode (earlier : s < t) : encode s < encode t := by
  induction (List.lt_iff_lex_lt s t).mp earlier with
  | @nil c rest =>
    have nonempty : encode (c :: rest) ≠ [] := by
      unfold encode encodeChar
      simp
    obtain ⟨byte, bytes, whole⟩ := List.exists_cons_of_ne_nil nonempty
    rw [whole]
    exact List.nil_lt_cons byte bytes
  | @rel c rest d rest' less => exact encodeChar_append_lt less _ _
  | @cons c rest rest' lex ih =>
    exact List.append_left_lt (ih ((List.lt_iff_lex_lt rest rest').mpr lex))

/-- **Texts are in the order of their bytes.** -/
theorem encode_lt_iff : encode a.toList < encode b.toList ↔ a < b := by
  have forth : ∀ {a b : String}, a < b → encode a.toList < encode b.toList := fun earlier =>
    encode_lt_encode (String.lt_iff_toList_lt.mp earlier)
  refine ⟨fun earlier => ?_, forth⟩
  rcases lt_trichotomy a b with less | rfl | more
  · exact less
  · exact absurd earlier (List.lt_irrefl _)
  · exact absurd (List.lt_trans earlier (forth more)) (List.lt_irrefl _)

end GuestSupervisor.Text.Utf8
