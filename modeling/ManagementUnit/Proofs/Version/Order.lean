import ManagementUnit.Proofs.Version.Components
import ManagementUnit.Proofs.Version.Spelling

/-!
# Order of versions

Versions are compared as packed words. That is the lexicographic order of their components, though
these are of different widths, so versions that were put together or read compare as the numbers
they come from.

* `compare_weighted` — numbers of two places compare by the upper place first.
* `Version.compare_eq_components` — versions compare as their components.
* `Version.order_lexicographic` — this, and where the components come from.
-/

namespace ManagementUnit

/-- Two numbers of two places each are compared by the upper place first. -/
theorem compare_weighted {base low last : Nat} (high other : Nat) (small : low < base)
    (less : last < base) :
    compare (base * high + low) (base * other + last) =
      (compare high other).then (compare low last) := by
  cases order : compare high other with
  | lt =>
      have above := Nat.mul_le_mul_left base (Nat.compare_eq_lt.mp order)
      rw [Nat.mul_succ] at above
      exact Nat.compare_eq_lt.mpr (by omega)
  | eq =>
      obtain rfl := Nat.compare_eq_eq.mp order
      rw [Ordering.eq_then, Nat.compare_eq_ite_lt, Nat.compare_eq_ite_lt]
      simp
  | gt =>
      have above := Nat.mul_le_mul_left base (Nat.compare_eq_gt.mp order)
      rw [Nat.mul_succ] at above
      exact Nat.compare_eq_gt.mpr (by omega)

namespace Version

variable {version other : Version} {triple last : Nat × Nat × Nat}

/-! ### Components -/

/-- The components of a version as numbers. -/
def components (version : Version) : Nat × Nat × Nat :=
  (version.major.toNat, version.minor.toNat, version.revision.toNat)

/-- The first numbers decide, the second if the first are the same, and then the third. -/
def compareTriples : Nat × Nat × Nat → Nat × Nat × Nat → Ordering :=
  compareLex (compareOn (·.1)) (compareLex (compareOn (·.2.1)) (compareOn (·.2.2)))

theorem compare_eq_packed (version other : Version) :
    compare version other = compare version.packed.toNat other.packed.toNat := by
  change compareOfLessAndEq version.packed other.packed = compareOfLessAndEq _ _
  simp only [compareOfLessAndEq, UInt32.lt_iff_toNat_lt, ← UInt32.toNat_inj]

theorem compare_eq_components (version other : Version) :
    compare version other = compareTriples version.components other.components := by
  have minor := version.minor_lt
  have revision := version.revision_le
  have otherMinor := other.minor_lt
  have otherRevision := other.revision_le
  rw [compare_eq_packed, version.toNat_packed, other.toNat_packed,
    compare_weighted _ _ (by omega) (by omega), compare_weighted _ _ (by omega) (by omega)]
  rfl

theorem eq_iff_components : version = other ↔
    version.major = other.major ∧ version.minor = other.minor ∧
      version.revision = other.revision := by
  constructor
  · rintro rfl
    exact ⟨rfl, rfl, rfl⟩
  · rintro ⟨majors, minors, revisions⟩
    exact ext_components (congrArg _ majors) (congrArg _ minors) (congrArg _ revisions)

theorem compare_eq_eq_iff : compare version other = .eq ↔ version = other := by
  rw [compare_eq_packed, Nat.compare_eq_eq, UInt32.toNat_inj]
  exact ⟨congrArg mk, congrArg packed⟩

/-! ### Numbers that versions come from -/

/-- The numbers that a version was put together or read from. -/
inductive ComesFrom : Version → Nat × Nat × Nat → Prop
  | parts (first second third : UInt8) :
      ComesFrom (ofParts first second third) (first.toNat, second.toNat, third.toNat)
  | text {version : Version} (spelling : Spelling) (read : parse spelling.text = .ok version) :
      ComesFrom version (spelling.first.value, spelling.second.value, spelling.third.value)

theorem components_ofParts_eq (first second third : UInt8) :
    (ofParts first second third).components = (first.toNat, second.toNat, third.toNat) := by
  obtain ⟨major, minor, revision⟩ := components_ofParts first second third
  rw [components, major, minor, revision]
  simp only [UInt8.toNat_toUInt32]

theorem ComesFrom.components_eq (origin : version.ComesFrom triple) :
    version.components = triple := by
  cases origin with
  | parts first second third => exact components_ofParts_eq first second third
  | text spelling read =>
      obtain ⟨other, first, second, third, same, ⟨majors, minors, revisions⟩, rfl⟩ :=
        parse_eq_ok_iff.mp read
      obtain rfl := Spelling.text_injective same
      rw [majors, minors, revisions]
      exact components_ofParts_eq first second third

/-- Every version that is read comes from the numbers that its text spells. -/
theorem exists_comesFrom_of_parse {text : Bytes} (read : parse text = .ok version) :
    ∃ spelling : Spelling, text = spelling.text ∧
      version.ComesFrom (spelling.first.value, spelling.second.value, spelling.third.value) := by
  obtain ⟨spelling, -, -, -, rfl, -, -⟩ := parse_eq_ok_iff.mp read
  exact ⟨spelling, rfl, .text spelling read⟩

/-! ### The order -/

/-- How two versions compare. -/
structure Compares (version other : Version) : Prop where
  compare_eq : compare version other = compareTriples version.components other.components
  eq_iff : version = other ↔ version.major = other.major ∧ version.minor = other.minor ∧
    version.revision = other.revision
  compare_eq_eq_iff : compare version other = .eq ↔ version = other

/-- How a version is composed of its components. -/
structure Composed (version : Version) : Prop where
  sum_eq : version.major.toNat * 2 ^ 24 + version.minor.toNat * 2 ^ 8 + version.revision.toNat =
    version.packed.toNat
  major_lt : version.major.toNat < 2 ^ 8
  minor_lt : version.minor.toNat < 2 ^ 16
  revision_lt : version.revision.toNat < 2 ^ 8

theorem composed (version : Version) : version.Composed where
  sum_eq := by
    rw [version.toNat_packed, Nat.mul_comm, Nat.mul_comm version.minor.toNat, Nat.add_assoc]
  major_lt := Nat.lt_succ_of_le version.major_le
  minor_lt := version.minor_lt
  revision_lt := Nat.lt_succ_of_le version.revision_le

/-- Versions are ordered lexicographically by their components, of which the packed word is
composed. The components of a version are the numbers that it was put together or read from, so the
order is that of these numbers. -/
theorem order_lexicographic :
    (∀ version other : Version, version.Compares other) ∧
    (∀ version : Version, version.Composed) ∧
    (∀ first second third : UInt8, (ofParts first second third).major = first.toUInt32 ∧
      (ofParts first second third).minor = second.toUInt32 ∧
      (ofParts first second third).revision = third.toUInt32) ∧
    (∀ (text : Bytes) (version : Version), parse text = .ok version → ∃ spelling : Spelling,
      text = spelling.text ∧
      version.ComesFrom (spelling.first.value, spelling.second.value, spelling.third.value)) ∧
    ∀ (version other : Version) (triple last : Nat × Nat × Nat), version.ComesFrom triple →
      other.ComesFrom last → compare version other = compareTriples triple last := by
  refine ⟨fun version other => ?_, composed, components_ofParts,
    fun _ _ => exists_comesFrom_of_parse, ?_⟩
  · exact ⟨compare_eq_components version other, eq_iff_components, compare_eq_eq_iff⟩
  · intro version other triple last origin another
    rw [compare_eq_components, origin.components_eq, another.components_eq]

end Version

end ManagementUnit
