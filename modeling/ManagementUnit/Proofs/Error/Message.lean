import Mathlib.Data.List.Nodup
import ManagementUnit.Proofs.Error
import ManagementUnit.Proofs.Text.Hexadecimal

/-!
# Texts of errors

An error with a code shows the description of the code, any other error shows its status word. The
text of an error tells it apart from all others, also where a bare word stands in the table.

* `StatusCode.description_injective` — different codes have different descriptions.
* `Error.message_unknown_ne_description` — no description is the text of a bare word.
* `Error.message_identifies` — different errors have different texts.
-/

namespace ManagementUnit

namespace StatusCode

theorem mem_all (code : StatusCode) : code ∈ all := by
  cases code <;> decide

theorem nodup_descriptions : (all.map description).Nodup := by
  decide

theorem description_injective {code other : StatusCode}
    (same : code.description = other.description) : code = other :=
  List.inj_on_of_nodup_map nodup_descriptions (mem_all code) (mem_all other) same

end StatusCode

namespace Error

variable {error other : Error} {status : UInt32} {code : StatusCode}

/-! ### Errors with a code -/

/-- An error with a code shows what the code means. -/
theorem message_of_code? (known : error.code? = some code) : error.message = code.description := by
  cases error <;> cases known <;> rfl

/-- Two errors of one code are the same. -/
theorem eq_of_code? (known : error.code? = some code) (also : other.code? = some code) :
    error = other := by
  have told := ofCode?_eq_some_iff.mpr known
  rw [ofCode?_eq_some_iff.mpr also] at told
  exact (Option.some.inj told).symm

/-! ### Bare words -/

theorem message_unknown (status : UInt32) :
    (unknown status).message =
      "Unspecified Error (status 0x" ++ Hex.digits 2 status.toNat ++ ")" := by
  have opening : "Unspecified Error (status " ++ "0x" = "Unspecified Error (status 0x" := by decide
  have word : "Unspecified Error (status " ++ "0x" ++ Hex.digits 2 status.toNat =
      "Unspecified Error (status " ++ Hex.word 2 status := String.append_assoc
  rw [opening] at word
  exact congrArg (· ++ ")") word.symm

theorem message_unknown_injective {word : UInt32}
    (same : (unknown status).message = (unknown word).message) : status = word := by
  rw [message_unknown, message_unknown, String.append_left_inj, String.append_right_inj] at same
  exact UInt32.toNat_inj.mp (Hex.digits_injective (by decide) same)

/-- No description begins as the text of a bare word does. -/
theorem not_isPrefix_description (code : StatusCode) :
    ¬ "Unspec".toList <+: code.description.toList := by
  cases code <;> decide

theorem isPrefix_message_unknown (status : UInt32) :
    "Unspec".toList <+: (unknown status).message.toList := by
  have opening : "Unspec".toList <+: "Unspecified Error (status 0x".toList := by decide
  rw [message_unknown, String.append_assoc, String.toList_append]
  exact opening.trans (List.prefix_append _ _)

/-- The word may well be that of the code: the description of the error is then the code's, and its
text is not. -/
theorem message_unknown_ne_description (status : UInt32) (code : StatusCode) :
    (unknown status).message ≠ code.description := by
  intro same
  have opening := isPrefix_message_unknown status
  rw [same] at opening
  exact not_isPrefix_description code opening

/-! ### All errors -/

/-- An error with a code and an error without one have different texts. -/
theorem message_ne_of_code? (known : error.code? = some code) (unnamed : other.code? = none) :
    error.message ≠ other.message := by
  obtain ⟨status, rfl⟩ := code?_eq_none_iff.mp unnamed
  rw [message_of_code? known]
  exact (message_unknown_ne_description status code).symm

/-- Errors with a code are told apart by its description, the others by their word, and the two
kinds never share a text. -/
theorem message_injective (same : error.message = other.message) : error = other := by
  cases known : error.code? with
  | none =>
      cases also : other.code? with
      | none =>
          obtain ⟨status, rfl⟩ := code?_eq_none_iff.mp known
          obtain ⟨word, rfl⟩ := code?_eq_none_iff.mp also
          exact congrArg unknown (message_unknown_injective same)
      | some code => exact absurd same.symm (message_ne_of_code? also known)
  | some code =>
      cases also : other.code? with
      | none => exact absurd same (message_ne_of_code? known also)
      | some named =>
          rw [message_of_code? known, message_of_code? also] at same
          obtain rfl := StatusCode.description_injective same
          exact eq_of_code? known also

/-- The text of an error identifies it. A bare word is shown by its numeral of at least two digits,
and never as a named error is, though it may be the word of one. -/
theorem message_identifies :
    (∀ error other : Error, error.message = other.message ↔ error = other) ∧
    (∀ status : UInt32, ∃ shown : List Char,
      (unknown status).message =
        "Unspecified Error (status 0x" ++ String.ofList shown ++ ")" ∧
      Hex.Numeral 2 shown status.toNat) ∧
    ∀ (error : Error) (status : UInt32), (∀ word, error ≠ unknown word) →
      error.message ≠ (unknown status).message := by
  refine ⟨fun error other => ⟨message_injective, congrArg message⟩, fun status => ?_, ?_⟩
  · obtain ⟨shown, digits, numeral⟩ := Hex.exists_numeral_digits (by decide : 0 < 2) status.toNat
    exact ⟨shown, by rw [message_unknown, digits], numeral⟩
  · intro error status named same
    exact named status (message_injective same)

/-- A bare word of the table is described as the table does, and shown as a bare word. -/
example : (unknown 0xFF).description = "Failed" ∧
    (unknown 0xFF).message = "Unspecified Error (status 0xff)" := by
  decide

end Error

end ManagementUnit
