import ManagementUnit.Proofs.Detection

/-!
# Components of a version

The three components are windows of the packed word, which is their sum with weights. Only the minor
component may be larger than a byte.

* `Version.toNat_packed` — the packed word as a sum of the components.
* `Version.ext_components` — a version is known by its components.
* `Version.components_ofParts` — the components of a version that is put together from three bytes.
* `Version.shortMinor_iff` — minor components that fit in a byte.
-/

namespace ManagementUnit.Version

variable {version other : Version}

theorem toNat_major (version : Version) :
    version.major.toNat = version.packed.toNat / 2 ^ 24 := by
  rw [major, UInt32.toNat_shiftRight, Nat.shiftRight_eq_div_pow]
  rfl

theorem toNat_minor (version : Version) :
    version.minor.toNat = version.packed.toNat / 2 ^ 8 % 2 ^ 16 := by
  rw [minor, UInt32.toNat_and, UInt32.toNat_shiftRight, Nat.shiftRight_eq_div_pow]
  exact Nat.and_two_pow_sub_one_eq_mod _ 16

theorem toNat_revision (version : Version) :
    version.revision.toNat = version.packed.toNat % 2 ^ 8 := by
  rw [revision, UInt32.toNat_and]
  exact Nat.and_two_pow_sub_one_eq_mod _ 8

theorem major_le (version : Version) : version.major.toNat ≤ 255 := by
  have bounded := version.packed.toNat_lt
  rw [toNat_major]
  omega

theorem minor_lt (version : Version) : version.minor.toNat < 2 ^ 16 := by
  rw [toNat_minor]
  exact Nat.mod_lt _ (by decide)

theorem revision_le (version : Version) : version.revision.toNat ≤ 255 := by
  rw [toNat_revision]
  omega

/-- The packed word is put together from the components. -/
theorem toNat_packed (version : Version) :
    version.packed.toNat = 2 ^ 24 * version.major.toNat +
      (2 ^ 8 * version.minor.toNat + version.revision.toNat) := by
  have bounded := version.packed.toNat_lt
  rw [toNat_major, toNat_minor, toNat_revision]
  omega

/-- Versions of the same components are the same. -/
theorem ext_components (majors : version.major.toNat = other.major.toNat)
    (minors : version.minor.toNat = other.minor.toNat)
    (revisions : version.revision.toNat = other.revision.toNat) : version = other := by
  have packed : version.packed = other.packed := by
    apply UInt32.toNat_inj.mp
    rw [version.toNat_packed, other.toNat_packed, majors, minors, revisions]
  exact congrArg mk packed

/-- A version that is put together from three bytes has these components. -/
theorem components_ofParts (first second third : UInt8) :
    (ofParts first second third).major = first.toUInt32 ∧
      (ofParts first second third).minor = second.toUInt32 ∧
        (ofParts first second third).revision = third.toUInt32 := by
  have hfirst := first.toNat_lt
  have hsecond := second.toNat_lt
  have hthird := third.toNat_lt
  refine ⟨UInt32.toNat_inj.mp ?_, UInt32.toNat_inj.mp ?_, UInt32.toNat_inj.mp ?_⟩
  · rw [toNat_major, toNat_packed_ofParts, UInt8.toNat_toUInt32]
    omega
  · rw [toNat_minor, toNat_packed_ofParts, UInt8.toNat_toUInt32]
    omega
  · rw [toNat_revision, toNat_packed_ofParts, UInt8.toNat_toUInt32]
    omega

/-- A version whose components fit in bytes is put together from them. -/
theorem ofParts_components (short : version.minor.toNat ≤ 255) :
    ofParts (UInt8.ofNat version.major.toNat) (UInt8.ofNat version.minor.toNat)
      (UInt8.ofNat version.revision.toNat) = version := by
  have hmajor := version.major_le
  have hrevision := version.revision_le
  have packed : (ofParts (UInt8.ofNat version.major.toNat) (UInt8.ofNat version.minor.toNat)
      (UInt8.ofNat version.revision.toNat)).packed = version.packed := by
    apply UInt32.toNat_inj.mp
    rw [toNat_packed_ofParts, version.toNat_packed, UInt8.toNat_ofNat', UInt8.toNat_ofNat',
      UInt8.toNat_ofNat']
    omega
  exact congrArg mk packed

/-- The minor component fits in a byte if its upper half is empty. -/
theorem shortMinor_iff : version.ShortMinor ↔ version.minor.toNat ≤ 255 := by
  have upper : version.minor.toNat ≤ 255 ↔ version.packed.toNat / 2 ^ 16 % 2 ^ 8 = 0 := by
    rw [toNat_minor]
    omega
  rw [upper]
  constructor
  · intro short
    apply Nat.eq_of_testBit_eq
    intro bit
    rw [Nat.testBit_mod_two_pow, Nat.testBit_div_two_pow, Nat.zero_testBit]
    by_cases within : bit < 8
    · rw [short _ (by omega) (by omega), Bool.and_false]
    · simp [within]
  · intro empty bit lower limit
    have bits := congrArg (Nat.testBit · (bit - 16)) empty
    simp only [Nat.testBit_mod_two_pow, Nat.testBit_div_two_pow, Nat.zero_testBit] at bits
    rw [Nat.sub_add_cancel lower, decide_eq_true (by omega), Bool.true_and] at bits
    exact bits

end ManagementUnit.Version
