import ManagementUnit.Error

/-!
# Errors and the words they stand for

Status words, the codes of the table and errors are three ways to name an outcome. Between them they
are translated by tables of their own, which have to agree.

* `Error.ofStatus?_eq_none_iff` — one status word reports success.
* `Error.word_of_ofStatus?` — the error for any other status word keeps the word.
* `Error.ofStatus?_word` — an error that is no table word in disguise is reported by its word.
* `Error.statuses_correspond` — words, codes and errors correspond one to one.
-/

namespace ManagementUnit

/-! ### The table -/

namespace StatusCode

variable {status : UInt32}

/-- The table names a word if it is the word of a code. -/
def Listed (status : UInt32) : Prop :=
  ∃ code : StatusCode, code.word = status

theorem ofWord?_eq_none_iff : ofWord? status = none ↔ ¬ Listed status := by
  constructor
  · rintro unnamed ⟨code, rfl⟩
    rw [ofWord?_word] at unnamed
    cases unnamed
  · intro unlisted
    cases named : ofWord? status with
    | none => rfl
    | some code => exact absurd ⟨code, word_of_ofWord? named⟩ unlisted

end StatusCode

namespace Error

variable {status : UInt32} {code : StatusCode} {error : Error}

/-! ### Errors of codes -/

theorem ofCode?_eq_none_iff : ofCode? code = none ↔ code = .ok := by
  cases code <;> simp [ofCode?]

theorem word_of_ofCode? (reported : ofCode? code = some error) : error.word = code.word := by
  cases code <;> cases reported <;> rfl

/-- The error of a code is the one that has this code. -/
theorem ofCode?_eq_some_iff : ofCode? code = some error ↔ error.code? = some code := by
  constructor
  · intro reported
    cases code <;> cases reported <;> rfl
  · intro known
    cases error <;> cases known <;> rfl

theorem code?_eq_none_iff : error.code? = none ↔ ∃ status, error = .unknown status := by
  cases error <;> simp [code?]

/-! ### Errors of status words -/

theorem ofStatus?_of_ofWord?_eq_some (named : StatusCode.ofWord? status = some code) :
    ofStatus? status = ofCode? code := by
  rw [ofStatus?, named]

theorem ofStatus?_of_ofWord?_eq_none (unnamed : StatusCode.ofWord? status = none) :
    ofStatus? status = some (.unknown status) := by
  rw [ofStatus?, unnamed]

theorem ofStatus?_code_word (code : StatusCode) : ofStatus? code.word = ofCode? code :=
  ofStatus?_of_ofWord?_eq_some (StatusCode.ofWord?_word code)

/-- One is the only status word that reports no error. -/
theorem ofStatus?_eq_none_iff : ofStatus? status = none ↔ status = 1 := by
  constructor
  · intro accepted
    cases named : StatusCode.ofWord? status with
    | none =>
        rw [ofStatus?_of_ofWord?_eq_none named] at accepted
        cases accepted
    | some code =>
        rw [ofStatus?_of_ofWord?_eq_some named] at accepted
        obtain rfl := ofCode?_eq_none_iff.mp accepted
        exact (StatusCode.word_of_ofWord? named).symm
  · rintro rfl
    rfl

theorem ne_one_of_ofStatus? (reported : ofStatus? status = some error) : status ≠ 1 := by
  intro success
  rw [ofStatus?_eq_none_iff.mpr success] at reported
  cases reported

theorem word_of_ofStatus? (reported : ofStatus? status = some error) : error.word = status := by
  cases named : StatusCode.ofWord? status with
  | none =>
      rw [ofStatus?_of_ofWord?_eq_none named] at reported
      cases reported
      rfl
  | some code =>
      rw [ofStatus?_of_ofWord?_eq_some named] at reported
      rw [word_of_ofCode? reported]
      exact StatusCode.word_of_ofWord? named

theorem code?_of_ofStatus? (reported : ofStatus? status = some error) :
    error.code? = StatusCode.ofWord? status := by
  cases named : StatusCode.ofWord? status with
  | none =>
      rw [ofStatus?_of_ofWord?_eq_none named] at reported
      cases reported
      rfl
  | some code =>
      rw [ofStatus?_of_ofWord?_eq_some named] at reported
      exact ofCode?_eq_some_iff.mp reported

/-- No word of the table stands bare in the error. -/
def Proper (error : Error) : Prop :=
  ∀ status, error = .unknown status → ¬ StatusCode.Listed status

/-- A proper error is reported by its own status word. -/
theorem ofStatus?_word (proper : error.Proper) : ofStatus? error.word = some error := by
  cases known : error.code? with
  | none =>
      obtain ⟨status, rfl⟩ := code?_eq_none_iff.mp known
      exact ofStatus?_of_ofWord?_eq_none (StatusCode.ofWord?_eq_none_iff.mpr (proper status rfl))
  | some code =>
      have reported := ofCode?_eq_some_iff.mpr known
      rw [word_of_ofCode? reported, ofStatus?_code_word, reported]

/-! ### Correspondence -/

/-- The error says all that the status word said. The word stands bare in the error exactly if the
table does not name it. -/
structure Reports (error : Error) (status : UInt32) : Prop where
  word : error.word = status
  code : error.code? = StatusCode.ofWord? status
  description : error.description = StatusCode.describe status
  unknown_iff : error = .unknown status ↔ ¬ StatusCode.Listed status

theorem reports_of_ofStatus? (reported : ofStatus? status = some error) :
    error.Reports status where
  word := word_of_ofStatus? reported
  code := code?_of_ofStatus? reported
  description := by rw [Error.description, word_of_ofStatus? reported]
  unknown_iff := by
    rw [← StatusCode.ofWord?_eq_none_iff, ← code?_of_ofStatus? reported, code?_eq_none_iff]
    constructor
    · exact fun same => ⟨status, same⟩
    · rintro ⟨word, rfl⟩
      exact congrArg unknown (word_of_ofStatus? reported)

/-- The error is what the code means: it is the only error with that code, and the word of the code
reports the same error. -/
structure StandsFor (error : Error) (code : StatusCode) : Prop where
  told : ofCode? code = some error
  accepted : ofCode code = .ok error
  code_iff : ∀ other : Error, other.code? = some code ↔ other = error
  reported : ofStatus? code.word = some error

theorem standsFor_of_ofCode? (told : ofCode? code = some error) : error.StandsFor code where
  told := told
  accepted := by
    rw [ofCode, told]
    rfl
  code_iff other := by
    rw [← ofCode?_eq_some_iff, told, Option.some.injEq, eq_comm]
  reported := by rw [ofStatus?_code_word, told]

/-- The word for success reports no error. Every other status word reports an error that keeps the
word and its meaning, every code but success has its error, and each proper error is reached from
its word, so that no two words report the same. -/
theorem statuses_correspond :
    (∀ status, ofStatus? status = none ↔ status = 1) ∧
    (∀ status, status ≠ 1 → ∃ error, ofStatus? status = some error ∧ error.Reports status) ∧
    (∀ error : Error, error.Proper → ofStatus? error.word = some error) ∧
    (∀ code : StatusCode, code ≠ .ok → ∃ error : Error, error.StandsFor code) ∧
    ∀ status other, status ≠ 1 → other ≠ 1 → ofStatus? status = ofStatus? other →
      status = other := by
  have exists_error {status : UInt32} (failed : status ≠ 1) :
      ∃ error, ofStatus? status = some error :=
    Option.ne_none_iff_exists'.mp (mt ofStatus?_eq_none_iff.mp failed)
  refine ⟨fun _ => ofStatus?_eq_none_iff, ?_, fun _ => ofStatus?_word, ?_, ?_⟩
  · intro status failed
    obtain ⟨error, reported⟩ := exists_error failed
    exact ⟨error, reported, reports_of_ofStatus? reported⟩
  · intro code failed
    obtain ⟨error, told⟩ := Option.ne_none_iff_exists'.mp (mt ofCode?_eq_none_iff.mp failed)
    exact ⟨error, standsFor_of_ofCode? told⟩
  · intro status other failed _ same
    obtain ⟨error, reported⟩ := exists_error failed
    rw [← word_of_ofStatus? reported, ← word_of_ofStatus? (same.symm.trans reported)]

end Error

end ManagementUnit
