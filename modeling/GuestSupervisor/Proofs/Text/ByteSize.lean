import GuestSupervisor.Proofs.Text.Lines
import GuestSupervisor.Text.ByteSize
import Mathlib.Algebra.Order.Field.Basic
import Mathlib.Data.Nat.Log
import Mathlib.Tactic.Linarith
import Mathlib.Tactic.Qify
import Mathlib.Tactic.Ring

/-!
# Sizes that people compare

A size is rounded twice on its way to the text, and shown in a unit that depends on it.  Neither
rounding changes the order of two sizes, and where they are shown in different units the smaller one
is at most a full unit of the greater one, even if its number was rounded up to 1024.  So whoever
reads the texts as quantities sees the sizes in their order, and close to what they are.

## Main Definitions

* `ShownSize` — a number and its unit, as a text shows them.
* `ShownSize.read?` — what a text shows.

## Main Statements

* `roundDivEven_mono`, `roundToBits_mono` — rounding keeps the order.
* `ByteSize.le_unitBelow_iff` — which unit is chosen.
* `ByteSize.read?_render` — the text is read as the tenths and the unit that were computed.
* `ByteSize.shown_in_order` — the sizes shown are in the order of the sizes and close to them.
-/

namespace GuestSupervisor.Text

/-! ## Rounding a quotient -/

section Quotient

variable {n m d q : Nat}

/-- A quotient is rounded down or up. -/
theorem roundDivEven_cases (n d : Nat) :
    roundDivEven n d = n / d ∧ 2 * (n % d) ≤ d
      ∨ roundDivEven n d = n / d + 1 ∧ d ≤ 2 * (n % d) := by
  simp only [roundDivEven]
  split_ifs <;> omega

/-- A quotient that is whole stays as it is. -/
theorem roundDivEven_mul (positive : 0 < d) (q : Nat) : roundDivEven (q * d) d = q := by
  simp [roundDivEven, positive]

/-- **Rounding keeps the order.** -/
theorem roundDivEven_mono (le : n ≤ m) (d : Nat) : roundDivEven n d ≤ roundDivEven m d := by
  rcases Nat.lt_or_eq_of_le (Nat.div_le_div_right le : n / d ≤ m / d) with less | same
  · have first := roundDivEven_cases n d
    have second := roundDivEven_cases m d
    omega
  · -- Between the same whole numbers it is the remainders that decide.
    have remainder : n % d ≤ m % d := by
      have first := Nat.div_add_mod n d
      have second := Nat.div_add_mod m d
      rw [same] at first
      omega
    simp only [roundDivEven, same]
    split_ifs <;> omega

/-- A quotient that is no less than a whole number is not rounded below it. -/
theorem le_roundDivEven_of_le (positive : 0 < d) (le : q * d ≤ n) : q ≤ roundDivEven n d := by
  rw [← roundDivEven_mul positive q]
  exact roundDivEven_mono le d

/-- A quotient that is no greater than a whole number is not rounded above it. -/
theorem roundDivEven_le_of_le (positive : 0 < d) (le : n ≤ q * d) : roundDivEven n d ≤ q := by
  rw [← roundDivEven_mul positive q]
  exact roundDivEven_mono le d

/-- **Rounding moves a quotient by at most a half.** -/
theorem roundDivEven_near (positive : 0 < d) (n : Nat) :
    2 * (roundDivEven n d * d) ≤ 2 * n + d ∧ 2 * n ≤ 2 * (roundDivEven n d * d) + d := by
  have whole : n / d * d + n % d = n := Nat.div_add_mod' n d
  have remainder := Nat.mod_lt n positive
  rcases roundDivEven_cases n d with ⟨down, small⟩ | ⟨up, large⟩
  · rw [down]
    omega
  · rw [up, Nat.succ_mul (n / d) d]
    omega

end Quotient

/-! ## Rounding to significant bits -/

section Bits

variable {n m bits k : Nat}

theorem roundToBits_eq (bits n : Nat) :
    roundToBits bits n
      = roundDivEven n (2 ^ (n.log2 + 1 - bits)) * 2 ^ (n.log2 + 1 - bits) := rfl

/-- A power of two that has its place among the bits is not passed from below. -/
theorem roundToBits_le_pow (place : n.log2 + 1 - bits ≤ k) (le : n ≤ 2 ^ k) :
    roundToBits bits n ≤ 2 ^ k := by
  obtain ⟨more, rfl⟩ := Nat.exists_eq_add_of_le' place
  rw [Nat.pow_add] at le ⊢
  rw [roundToBits_eq]
  exact Nat.mul_le_mul_right _ (roundDivEven_le_of_le (Nat.two_pow_pos _) le)

/-- A power of two that has its place among the bits is not passed from above. -/
theorem pow_le_roundToBits (place : n.log2 + 1 - bits ≤ k) (le : 2 ^ k ≤ n) :
    2 ^ k ≤ roundToBits bits n := by
  obtain ⟨more, rfl⟩ := Nat.exists_eq_add_of_le' place
  rw [Nat.pow_add] at le ⊢
  rw [roundToBits_eq]
  exact Nat.mul_le_mul_right _ (le_roundDivEven_of_le (Nat.two_pow_pos _) le)

/-- **Rounding to significant bits keeps the order**, also where the greater number has fewer places
behind its bits. -/
theorem roundToBits_mono (some : 0 < bits) (le : n ≤ m) :
    roundToBits bits n ≤ roundToBits bits m := by
  rcases Nat.eq_zero_or_pos m with rfl | positive
  · rw [Nat.le_zero.mp le]
  have logs : n.log2 ≤ m.log2 := by
    simpa only [Nat.log2_eq_log_two] using Nat.log_mono_right le
  rcases Nat.lt_or_eq_of_le (Nat.sub_le_sub_right (Nat.succ_le_succ logs) bits :
    n.log2 + 1 - bits ≤ m.log2 + 1 - bits) with less | same
  · -- A power of two lies between the numbers, and neither is rounded beyond it.
    calc roundToBits bits n ≤ 2 ^ m.log2 :=
          roundToBits_le_pow (by omega) (le_trans Nat.lt_log2_self.le
            (Nat.pow_le_pow_right two_pos (by omega)))
      _ ≤ roundToBits bits m :=
          pow_le_roundToBits (by omega) (Nat.log2_self_le positive.ne')
  · rw [roundToBits_eq, roundToBits_eq, same]
    exact Nat.mul_le_mul_right _ (roundDivEven_mono le _)

/-- **Rounding to significant bits moves a number by at most half a place.** -/
theorem roundToBits_near (bits n : Nat) :
    2 * roundToBits bits n ≤ 2 * n + 2 ^ (n.log2 + 1 - bits)
      ∧ 2 * n ≤ 2 * roundToBits bits n + 2 ^ (n.log2 + 1 - bits) :=
  roundDivEven_near (Nat.two_pow_pos _) n

end Bits

/-! ## What a text shows -/

/-- **A number and its unit**, as a text shows them; the unit is counted from bytes up. -/
structure ShownSize where
  number : ℚ
  unit : Nat
  deriving DecidableEq

namespace ShownSize

/-- The unit that a name stands for. -/
def unit? : List Char → Option Nat
  | ['B'] => some 0
  | ['K', 'B'] => some 1
  | ['M', 'B'] => some 2
  | ['G', 'B'] => some 3
  | ['T', 'B'] => some 4
  | ['P', 'B'] => some 5
  | _ => none

/-- The number that digits around a point stand for. -/
def number? (text : List Char) : Option ℚ := do
  let (whole, places) ← splitOnce '.' text
  let high ← readDigits? whole
  let low ← readDigits? places
  some (high + low / 10 ^ places.length)

/-- **What a text shows**: a number, a space and a unit. -/
def read? (text : String) : Option ShownSize := do
  let (number, name) ← splitOnce ' ' text.toList
  let number ← number? number
  let unit ← unit? name
  some ⟨number, unit⟩

/-- The quantity in bytes. -/
def bytes (s : ShownSize) : ℚ := s.number * 1024 ^ s.unit

end ShownSize

namespace ByteSize

variable {n m limit : Nat}

/-! ## The unit -/

/-- **The unit that is chosen**: a greater one for each power of 1024 that the number reaches. -/
theorem le_unitBelow_iff {unit : Nat} (within : unit ≤ limit) :
    unit ≤ unitBelow n limit ↔ unit = 0 ∨ 1024 ^ unit ≤ n := by
  induction limit generalizing n unit with
  | zero => simp [Nat.le_zero.mp within, unitBelow]
  | succ limit ih =>
    cases unit with
    | zero => simp
    | succ unit =>
      have shifted : 1024 ^ (unit + 1) ≤ n ↔ 1024 ^ unit ≤ n / 1024 := by
        rw [Nat.le_div_iff_mul_le (by decide), Nat.pow_succ]
      rw [unitBelow, shifted]
      split
      · rename_i small
        have none : n / 1024 = 0 := Nat.div_eq_of_lt small
        simp [none]
      · rename_i large
        rw [Nat.add_le_add_iff_right, ih (Nat.le_of_succ_le_succ within)]
        have one : 1 ≤ n / 1024 := (Nat.le_div_iff_mul_le (by decide)).mpr (by omega)
        constructor
        · rintro (rfl | reached)
          · exact .inr one
          · exact .inr reached
        · rintro (none | reached)
          · cases none
          · exact .inr reached

theorem unitBelow_le (n limit : Nat) : unitBelow n limit ≤ limit := by
  induction limit generalizing n with
  | zero => exact Nat.le_refl 0
  | succ limit ih =>
    rw [unitBelow]
    split
    · exact Nat.zero_le _
    · exact Nat.succ_le_succ (ih _)

/-- **A greater size is shown in no smaller unit.** -/
theorem unitBelow_mono (le : n ≤ m) (limit : Nat) : unitBelow n limit ≤ unitBelow m limit := by
  have within := unitBelow_le n limit
  refine (le_unitBelow_iff within).mpr ?_
  exact ((le_unitBelow_iff within).mp (Nat.le_refl _)).imp_right fun reached =>
    Nat.le_trans reached le

variable {a b : UInt64}

theorem unit_le (b : UInt64) : unit b ≤ 5 := unitBelow_le _ 5

/-- A size that is not shown in bytes is at least one of its unit. -/
theorem pow_unit_le (other : unit b ≠ 0) : 1024 ^ unit b ≤ rounded b :=
  ((le_unitBelow_iff (unit_le b)).mp (Nat.le_refl _)).resolve_left other

/-- A size is less than one of the next unit, if there is one. -/
theorem lt_pow_unit (next : unit b < 5) : rounded b < 1024 ^ (unit b + 1) := by
  rw [← Nat.not_le]
  intro reached
  have above := (le_unitBelow_iff (n := rounded b) next).mpr (.inr reached)
  exact Nat.not_succ_le_self _ above

/-! ## What is shown -/

/-- **The number and the unit of a size.** -/
def shown (b : UInt64) : ShownSize := ⟨tenths b / 10, unit b⟩

theorem not_mem_decimal {c : Char} (other : c.isDigit = false) (n : Nat) : c ∉ decimal n := by
  intro member
  rw [isDigit_of_mem_decimal member] at other
  cases other

/-- A numeral with one decimal place is read. -/
theorem number?_tenths (n : Nat) :
    ShownSize.number? (decimal (n / 10) ++ '.' :: decimal (n % 10)) = some ((n : ℚ) / 10) := by
  have place : (decimal (n % 10)).length = 1 := by
    rw [decimal, Nat.toDigits_of_lt_base (Nat.mod_lt n (by decide))]
    rfl
  have whole : ((n / 10 : Nat) : ℚ) * 10 + (n % 10 : Nat) = n := by
    exact_mod_cast Nat.div_add_mod' n 10
  have value : ((n / 10 : Nat) : ℚ) + (n % 10 : Nat) / 10 ^ 1 = n / 10 := by
    rw [← whole]
    ring
  rw [ShownSize.number?, splitOnce_append (not_mem_decimal rfl _)]
  simp only [Option.bind_eq_bind, Option.bind_some, readDigits?_decimal, place, value]

/-- The name of a unit is read. -/
theorem unit?_unitNames :
    ∀ {k : Nat}, k ≤ 5 → ShownSize.unit? ((unitNames[k]?).getD "").toList = some k := by
  decide

/-- **The text is read as the number and the unit of the size.** -/
theorem read?_render (b : UInt64) : ShownSize.read? (render b) = some (shown b) := by
  have spaceless : ' ' ∉ decimal (tenths b / 10) ++ '.' :: decimal (tenths b % 10) := by
    simp [not_mem_decimal]
  rw [ShownSize.read?, render, String.toList_ofList, text]
  simp only [splitOnce_append spaceless, Option.bind_eq_bind, Option.bind_some, number?_tenths,
    unit?_unitNames (unit_le b), shown]

/-! ## Sizes in their order -/

theorem rounded_mono (le : a ≤ b) : rounded a ≤ rounded b :=
  roundToBits_mono (by decide) (UInt64.le_iff_toNat_le.mp le)

theorem tenths_eq (b : UInt64) :
    tenths b = roundDivEven (rounded b * 10) (1024 ^ unit b) := rfl

theorem pow_unit_pos (b : UInt64) : 0 < 1024 ^ unit b := Nat.pow_pos (by decide)

/-- A size below the greatest unit is shown as no more than one of the next unit. -/
theorem tenths_le (next : unit b < 5) : tenths b ≤ 10 * 1024 := by
  rw [tenths_eq]
  refine roundDivEven_le_of_le (pow_unit_pos b) ?_
  have less := lt_pow_unit next
  rw [Nat.pow_succ] at less
  omega

/-- A size that is not shown in bytes is shown as no less than one of its unit. -/
theorem le_tenths (other : unit b ≠ 0) : 10 ≤ tenths b := by
  rw [tenths_eq]
  refine le_roundDivEven_of_le (pow_unit_pos b) ?_
  have reached := pow_unit_le other
  omega

/-- **What is shown for a greater size is no less**, in tenths of a byte. -/
theorem tenths_mono (le : a ≤ b) :
    tenths a * 1024 ^ unit a ≤ tenths b * 1024 ^ unit b := by
  have units : unit a ≤ unit b := unitBelow_mono (rounded_mono le) 5
  rcases Nat.lt_or_eq_of_le units with less | same
  · -- One of the greater unit lies between them.
    calc tenths a * 1024 ^ unit a
        ≤ 10 * 1024 * 1024 ^ unit a :=
          Nat.mul_le_mul_right _ (tenths_le (Nat.lt_of_lt_of_le less (unit_le b)))
      _ = 10 * 1024 ^ (unit a + 1) := by rw [Nat.pow_succ]; ring
      _ ≤ 10 * 1024 ^ unit b := Nat.mul_le_mul_left _ (Nat.pow_le_pow_right (by decide) less)
      _ ≤ tenths b * 1024 ^ unit b :=
          Nat.mul_le_mul_right _ (le_tenths (Nat.ne_of_gt (Nat.zero_lt_of_lt less)))
  · rw [tenths_eq, tenths_eq, same]
    exact Nat.mul_le_mul_right _
      (roundDivEven_mono (Nat.mul_le_mul_right 10 (rounded_mono le)) _)

theorem bytes_shown (b : UInt64) :
    (shown b).bytes = ((tenths b * 1024 ^ unit b : Nat) : ℚ) / 10 := by
  simp only [ShownSize.bytes, shown]
  push_cast
  ring

/-- Rounding to fifty-three bits costs a size of sixty-four bits at most 1024 bytes. -/
theorem rounded_near (b : UInt64) :
    rounded b ≤ b.toNat + 2 ^ 10 ∧ b.toNat ≤ rounded b + 2 ^ 10 := by
  have bits : b.toNat.log2 + 1 - 53 ≤ 11 := by
    rcases Nat.eq_zero_or_pos b.toNat with zero | positive
    · simp [zero]
    · have := (Nat.log2_lt positive.ne').mpr b.toNat_lt
      omega
  have places : 2 ^ (b.toNat.log2 + 1 - 53) ≤ 2 ^ 11 := Nat.pow_le_pow_right two_pos bits
  have near := roundToBits_near 53 b.toNat
  unfold rounded
  omega

/-- **What is shown is close to the size.** -/
theorem bytes_shown_near (b : UInt64) :
    |(shown b).bytes - b.toNat| ≤ 1 / 20 * 1024 ^ (shown b).unit + 2 ^ 10 := by
  obtain ⟨above, below⟩ := rounded_near b
  obtain ⟨up, down⟩ := roundDivEven_near (pow_unit_pos b) (rounded b * 10)
  rw [← tenths_eq] at up down
  rw [bytes_shown, abs_le]
  qify at above below up down ⊢
  simp only [shown]
  constructor <;> linarith

/-- **Sizes are shown in their order**, also across units, and each as close to what it is as half
of the place that is shown and half of the last bit that is kept allow. -/
theorem shown_in_order (le : a ≤ b) :
    ∃ less more : ShownSize,
      ShownSize.read? (render a) = some less ∧ ShownSize.read? (render b) = some more
        ∧ less.bytes ≤ more.bytes
        ∧ |more.bytes - b.toNat| ≤ 1 / 20 * 1024 ^ more.unit + 2 ^ 10 := by
  refine ⟨shown a, shown b, read?_render a, read?_render b, ?_, bytes_shown_near b⟩
  rw [bytes_shown, bytes_shown]
  have ordered : ((tenths a * 1024 ^ unit a : Nat) : ℚ) ≤ (tenths b * 1024 ^ unit b : Nat) :=
    Nat.cast_le.mpr (tenths_mono le)
  linarith

/-- The greatest size that is shown in kilobytes and the smallest that is shown in megabytes are
shown as the same quantity. -/
theorem shown_in_order_boundary :
    (1048575 : UInt64) ≤ 1048576 ∧ render 1048575 = "1024.0 KB" ∧ render 1048576 = "1.0 MB"
      ∧ ∃ less more : ShownSize,
        ShownSize.read? "1024.0 KB" = some less ∧ ShownSize.read? "1.0 MB" = some more
          ∧ less.bytes ≤ more.bytes
          ∧ |more.bytes - 1048576| ≤ 1 / 20 * 1024 ^ more.unit + 2 ^ 10 := by
  have le : (1048575 : UInt64) ≤ 1048576 := by decide
  have first : render 1048575 = "1024.0 KB" := by decide +kernel
  have second : render 1048576 = "1.0 MB" := by decide +kernel
  have ordered := shown_in_order le
  rw [first, second] at ordered
  exact ⟨le, first, second, ordered⟩

end ByteSize

end GuestSupervisor.Text
