/-!
# Functions changed at one place

A table that is total, such as the word at every address, is a function. `assign` changes it at one
argument and nowhere else.
-/

namespace ManagementUnit

variable {α β : Type} [DecidableEq α]

/-- The function with another value at one place. -/
def assign (f : α → β) (place : α) (value : β) : α → β :=
  fun argument => if argument = place then value else f argument

@[simp] theorem assign_self (f : α → β) (place : α) (value : β) :
    assign f place value place = value := by
  simp [assign]

theorem assign_of_ne (f : α → β) {place argument : α} (value : β) (h : argument ≠ place) :
    assign f place value argument = f argument := by
  simp [assign, h]

end ManagementUnit
