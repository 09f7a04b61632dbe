/-!
# Single-precision numbers

The entries of a power table are numbers in the IEEE 754 binary32 format, held here as their 32
bits. `Binary32.ofNat` is the number nearest to a natural number, a tie going to the even one.
-/

namespace ManagementUnit

/-- A number in the binary32 format. -/
structure Binary32 where
  bits : UInt32
deriving DecidableEq, Repr

namespace Binary32

/-- Drops the lowest `places` bits of a natural number, rounding to nearest and ties to even. -/
def roundShift (number places : Nat) : Nat :=
  let quotient := number >>> places
  let unit := 1 <<< places
  let twice := 2 * (number % unit)
  if unit < twice || (twice == unit && quotient % 2 == 1) then quotient + 1
  else quotient

/-- The significand of a positive number, its leading bit at place 23; rounding may carry into
place 24. -/
def significand (number : Nat) : Nat :=
  let exponent := Nat.log2 number
  if exponent ≤ 23 then number <<< (23 - exponent) else roundShift number (exponent - 23)

/-- The binary32 number nearest to a natural number below `2 ^ 127`. The leading bit of the
significand, and a carry out of it, count into the exponent field. -/
def ofNat (number : Nat) : Binary32 :=
  if number = 0 then ⟨0⟩
  else ⟨UInt32.ofNat ((Nat.log2 number + 126) <<< 23 + significand number)⟩

end Binary32

end ManagementUnit
