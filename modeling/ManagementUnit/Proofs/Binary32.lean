import Mathlib.Tactic.Ring
import ManagementUnit.Binary32

/-!
# Exact single-precision numbers

The bits of a binary32 number are a sign, an exponent and a fraction. A normal number is a
significand of 24 digits, of which the fraction leaves out the leading one, at a place that the
exponent tells. A natural number whose digits fit in such a significand is not rounded.

* `Binary32.represents_ofNat` — numbers of at most 24 significant digits are represented exactly.
* `Binary32.short_of_le` — all numbers up to `2 ^ 24` are among them.
* `Binary32.Represents.lt` — representations are ordered like the numbers.
-/

namespace ManagementUnit.Binary32

variable {value other : Binary32} {number larger places : Nat}

/-! ### Fields -/

/-- The sign, 1 for negative numbers. -/
def sign (value : Binary32) : Nat :=
  value.bits.toNat / 2 ^ 31

/-- The exponent field, of 8 bits. -/
def exponent (value : Binary32) : Nat :=
  value.bits.toNat / 2 ^ 23 % 2 ^ 8

/-- The fraction field, of 23 bits. -/
def fraction (value : Binary32) : Nat :=
  value.bits.toNat % 2 ^ 23

/-- Exponent 0 is kept for zero and the subnormal numbers, exponent 255 for the infinities and
NaNs. -/
def Normal (value : Binary32) : Prop :=
  0 < value.exponent ∧ value.exponent < 255

/-- A normal number as a multiple of `2 ^ -150`, its sign aside: the exponent field has a bias of
127, and the significand has 23 places after the leading one. -/
def magnitude (value : Binary32) : Nat :=
  (2 ^ 23 + value.fraction) * 2 ^ value.exponent

/-- A natural number in the format, without any rounding: all bits are clear for zero, every other
number is normal. -/
inductive Represents (value : Binary32) (number : Nat) : Prop where
  | zero (nothing : number = 0) (cleared : value.bits = 0)
  | positive (nonzero : number ≠ 0) (unsigned : value.sign = 0) (normal : value.Normal)
      (exact : value.magnitude = number * 2 ^ 150)

theorem toNat_bits (unsigned : value.sign = 0) :
    value.bits.toNat = value.exponent * 2 ^ 23 + value.fraction := by
  rw [sign] at unsigned
  rw [exponent, fraction]
  omega

/-! ### Order -/

/-- Larger fields make a larger number: a larger exponent outweighs every fraction. -/
theorem magnitude_le_magnitude (unsigned : value.sign = 0) (unsigned' : other.sign = 0)
    (le : value.bits ≤ other.bits) : value.magnitude ≤ other.magnitude := by
  have bits_le : value.bits.toNat ≤ other.bits.toNat := UInt32.le_iff_toNat_le.mp le
  rw [toNat_bits unsigned, toNat_bits unsigned'] at bits_le
  have bound : value.fraction < 2 ^ 23 := Nat.mod_lt _ (by decide)
  have bound' : other.fraction < 2 ^ 23 := Nat.mod_lt _ (by decide)
  obtain lower | same : value.exponent < other.exponent ∨ value.exponent = other.exponent := by
    omega
  · calc value.magnitude
        ≤ 2 ^ 24 * 2 ^ value.exponent := Nat.mul_le_mul_right _ (by omega)
      _ = 2 ^ 23 * 2 ^ (value.exponent + 1) := by ring
      _ ≤ 2 ^ 23 * 2 ^ other.exponent :=
          Nat.mul_le_mul_left _ (Nat.pow_le_pow_right (by decide) lower)
      _ ≤ other.magnitude := Nat.mul_le_mul_right _ (Nat.le_add_right _ _)
  · have fractions : value.fraction ≤ other.fraction := by
      rw [same] at bits_le
      omega
    rw [magnitude, magnitude, same]
    exact Nat.mul_le_mul_right _ (Nat.add_le_add_left fractions _)

theorem Normal.bits_ne_zero (normal : value.Normal) : value.bits ≠ 0 := by
  intro cleared
  have vanishes : value.exponent = 0 := by rw [exponent, cleared]; rfl
  exact Nat.ne_of_gt normal.1 vanishes

/-- The bits of natural numbers are ordered like the numbers. -/
theorem Represents.lt (left : value.Represents number) (right : other.Represents larger)
    (lt : number < larger) : value.bits < other.bits := by
  cases right with
  | zero nothing _ => exact absurd (nothing ▸ lt) (Nat.not_lt_zero _)
  | positive _ unsigned' normal exact' =>
      cases left with
      | zero _ cleared =>
          rw [cleared]
          exact UInt32.pos_iff_ne_zero.mpr normal.bits_ne_zero
      | positive _ unsigned _ exact =>
          -- Bits in the reverse order would have put the magnitudes in the reverse order.
          rw [← UInt32.not_le]
          intro le
          have reversed := magnitude_le_magnitude unsigned' unsigned le
          rw [exact, exact'] at reversed
          omega

/-! ### Conversion -/

/-- A number whose binary digits behind the first 24 are zero: a significand has room for the
others. -/
def Short (number : Nat) : Prop :=
  2 ^ (Nat.log2 number - 23) ∣ number

/-- Nothing is rounded where the bits that are dropped are zero. -/
theorem roundShift_of_dvd (divides : 2 ^ places ∣ number) :
    roundShift number places = number / 2 ^ places := by
  have unit : 0 < 2 ^ places := Nat.two_pow_pos places
  rw [roundShift, Nat.shiftRight_eq_div_pow, Nat.one_shiftLeft, Nat.mod_eq_zero_of_dvd divides,
    if_neg]
  -- What is dropped is neither more than half a unit nor half a unit, as a unit is not zero.
  simp only [Nat.mul_zero, Nat.not_lt_zero, decide_false, Bool.false_or, Bool.and_eq_true,
    beq_iff_eq, not_and]
  omega

/-- The significand is the number, moved to where its leading bit has place 23. -/
theorem significand_mul (short : Short number) :
    significand number * 2 ^ Nat.log2 number = number * 2 ^ 23 := by
  rw [significand]
  split
  · rename_i small
    rw [Nat.shiftLeft_eq, Nat.mul_assoc, ← Nat.pow_add, Nat.sub_add_cancel small]
  · rename_i large
    have places : Nat.log2 number = Nat.log2 number - 23 + 23 := by omega
    calc roundShift number (Nat.log2 number - 23) * 2 ^ Nat.log2 number
        = number / 2 ^ (Nat.log2 number - 23) * 2 ^ (Nat.log2 number - 23 + 23) := by
          rw [roundShift_of_dvd short, ← places]
      _ = number * 2 ^ 23 := by
          rw [Nat.pow_add, ← Nat.mul_assoc, Nat.div_mul_cancel short]

/-- The significand of a short number has its full width, so its exponent is the right one. -/
theorem significand_bounds (nonzero : number ≠ 0) (short : Short number) :
    2 ^ 23 ≤ significand number ∧ significand number < 2 ^ 24 := by
  have scaled := significand_mul short
  have unit : 0 < 2 ^ Nat.log2 number := Nat.two_pow_pos _
  constructor
  · apply Nat.le_of_mul_le_mul_right _ unit
    calc 2 ^ 23 * 2 ^ Nat.log2 number
        = 2 ^ Nat.log2 number * 2 ^ 23 := Nat.mul_comm _ _
      _ ≤ number * 2 ^ 23 := Nat.mul_le_mul_right _ (Nat.log2_self_le nonzero)
      _ = significand number * 2 ^ Nat.log2 number := scaled.symm
  · apply Nat.lt_of_mul_lt_mul_right (a := 2 ^ Nat.log2 number)
    calc significand number * 2 ^ Nat.log2 number
        = number * 2 ^ 23 := scaled
      _ < 2 ^ (Nat.log2 number + 1) * 2 ^ 23 :=
          Nat.mul_lt_mul_of_pos_right Nat.lt_log2_self (by decide)
      _ = 2 ^ 24 * 2 ^ Nat.log2 number := by ring

/-- The bits of a number that is not rounded. The leading one of the significand is not among them:
it counts into the exponent. -/
theorem toNat_bits_ofNat (nonzero : number ≠ 0) (finite : number < 2 ^ 128)
    (short : Short number) :
    (ofNat number).bits.toNat =
      (Nat.log2 number + 127) * 2 ^ 23 + (significand number - 2 ^ 23) := by
  have bounds := significand_bounds nonzero short
  have leading : Nat.log2 number < 128 := (Nat.log2_lt nonzero).mpr finite
  rw [ofNat, if_neg nonzero, Nat.shiftLeft_eq, UInt32.toNat_ofNat_of_lt']
  · omega
  · rw [UInt32.size]
    omega

/-- A number of at most 24 significant digits is represented exactly. -/
theorem represents_ofNat (finite : number < 2 ^ 128) (short : Short number) :
    (ofNat number).Represents number := by
  by_cases nonzero : number = 0
  · exact .zero nonzero (by rw [ofNat, if_pos nonzero])
  · have bits := toNat_bits_ofNat nonzero finite short
    have bounds := significand_bounds nonzero short
    have leading : Nat.log2 number < 128 := (Nat.log2_lt nonzero).mpr finite
    have unsigned : (ofNat number).sign = 0 := by rw [sign, bits]; omega
    have exponent_eq : (ofNat number).exponent = Nat.log2 number + 127 := by
      rw [exponent, bits]
      omega
    have fraction_eq : (ofNat number).fraction = significand number - 2 ^ 23 := by
      rw [fraction, bits]
      omega
    refine .positive nonzero unsigned ⟨by omega, by omega⟩ ?_
    calc (ofNat number).magnitude
        = significand number * 2 ^ (Nat.log2 number + 127) := by
          rw [magnitude, exponent_eq, fraction_eq, Nat.add_sub_cancel' bounds.1]
      _ = significand number * 2 ^ Nat.log2 number * 2 ^ 127 := by
          rw [Nat.pow_add, Nat.mul_assoc]
      _ = number * 2 ^ 150 := by
          rw [significand_mul short, Nat.mul_assoc, ← Nat.pow_add]

/-- Only the last of these numbers has more than 24 digits, and it ends in a zero. -/
theorem short_of_le (small : number ≤ 2 ^ 24) : Short number := by
  rw [Short]
  obtain within | rfl := Nat.lt_or_eq_of_le small
  · have places : Nat.log2 number - 23 = 0 := by
      by_cases nonzero : number = 0
      · rw [nonzero, Nat.log2_zero]
      · have leading := (Nat.log2_lt nonzero).mpr within
        omega
    rw [places]
    exact Nat.one_dvd number
  · rw [Nat.log2_two_pow]
    exact Nat.pow_dvd_pow 2 (by decide)

end ManagementUnit.Binary32
