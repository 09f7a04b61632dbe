import ManagementUnit.Proofs.Dialogue.Produces

/-!
# Dialogues that keep to some actions

`Dialogue.Only` says that whatever the replies, a dialogue takes no action but those of a kind. It
is shown of a dialogue part by part.

* `Dialogue.Only.bind`, `Attempt.only_bind` — one dialogue, or attempt, after another.
-/

namespace ManagementUnit

variable {α β : Type} {P Q : Action → Prop}

namespace Dialogue

/-- All actions of the dialogue are of a kind. -/
def Only (P : Action → Prop) (dialogue : Dialogue α) : Prop :=
  ∀ trace value, dialogue.Produces trace value → ∀ event ∈ trace, P event.action

theorem Only.mono {dialogue : Dialogue α} (only : Only P dialogue)
    (weaker : ∀ action, P action → Q action) : Only Q dialogue := by
  intro trace value produced event member
  exact weaker _ (only trace value produced event member)

theorem only_done (value : α) : Only P (done value) := by
  intro trace result produced event member
  obtain ⟨rfl, -⟩ := produces_done_iff.mp produced
  cases member

theorem only_ask {action : Action} (allowed : P action) : Only P (ask action) := by
  intro trace reply produced event member
  obtain rfl := produces_ask_iff.mp produced
  obtain rfl := List.mem_singleton.mp member
  exact allowed

theorem Only.bind {dialogue : Dialogue α} {f : α → Dialogue β} (first : Only P dialogue)
    (rest : ∀ value, Only P (f value)) : Only P (dialogue >>= f) := by
  intro trace result produced event member
  obtain ⟨before, after, value, rfl, done, next⟩ := produces_bind_iff.mp produced
  rcases List.mem_append.mp member with member | member
  · exact first before value done event member
  · exact rest value after result next event member

theorem Only.map {dialogue : Dialogue α} {f : α → β} (only : Only P dialogue) :
    Only P (f <$> dialogue) := by
  intro trace result produced
  obtain ⟨value, done, -⟩ := produces_map_iff.mp produced
  exact only trace value done

theorem only_closeAll {handles : List Handle} (allowed : ∀ handle, P (.close handle)) :
    Only P (closeAll handles) := by
  intro trace result produced event member
  rw [produces_closeAll_iff.mp produced] at member
  obtain ⟨handle, -, rfl⟩ := List.mem_map.mp member
  exact allowed handle

end Dialogue

namespace Attempt

open Dialogue

theorem only_pure (value : α) : Only P (pure value : Attempt α).run :=
  only_done _

theorem only_throw (error : Error) : Only P (throw error : Attempt α).run :=
  only_done _

theorem only_bind {attempt : Attempt α} {f : α → Attempt β} (first : Only P attempt.run)
    (rest : ∀ value, Only P (f value).run) : Only P (attempt >>= f).run := by
  rw [ExceptT.run_bind]
  refine Only.bind first ?_
  intro result
  cases result with
  | ok value => exact rest value
  | error error => exact only_done _

theorem only_lift {dialogue : Dialogue α} (only : Only P dialogue) :
    Only P (liftM dialogue : Attempt α).run := by
  rw [ExceptT.run_liftM]
  exact only.map

theorem only_fail {notice : Notice} {error : Error} (allowed : P (.note notice)) :
    Only P (fail notice error : Attempt α).run :=
  only_bind (only_lift (only_ask allowed)) fun _ => only_throw error

end Attempt

end ManagementUnit
