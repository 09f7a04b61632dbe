import ManagementUnit.Proofs.Dialogue.Run
import ManagementUnit.Proofs.Session.Invariant
import ManagementUnit.Simulation.Scenario

/-!
# What scenes have in common

* `Setting.forall_mem_play` — what every turn does is what all scenes of a scenario do.
-/

namespace ManagementUnit.Simulation.Setting

open Dialogue

variable {σ κ : Type} {setting : Setting σ κ} {stage : Stage σ}

@[simp] theorem scene_before (setting : Setting σ κ) (stage : Stage σ) (turn : Turn κ) :
    (setting.scene stage turn).before = stage := by
  cases turn <;> rfl

@[simp] theorem scene_turn (setting : Setting σ κ) (stage : Stage σ) (turn : Turn κ) :
    (setting.scene stage turn).turn = turn := by
  cases turn <;> rfl

/-- The scene of a step is a trace of the step that the driver answers. -/
theorem scene_step_spec (setting : Setting σ κ) (stage : Stage σ) (step : Session.Step) :
    ∃ result, (setting.scene stage (.step step)).result = some result ∧
      (stage.session.perform step).Produces (setting.scene stage (.step step)).trace
        (result, (setting.scene stage (.step step)).after.session) ∧
      setting.driver.Answers stage.state (setting.scene stage (.step step)).trace
        (setting.scene stage (.step step)).after.state := by
  obtain ⟨produced, answers⟩ := run_spec setting.driver (stage.session.perform step) stage.state
  exact ⟨_, rfl, produced, answers⟩

theorem consistent_scene (consistent : stage.session.Consistent) (turn : Turn κ) :
    (setting.scene stage turn).after.session.Consistent := by
  cases turn with
  | step step =>
      obtain ⟨result, -, produced, -⟩ := setting.scene_step_spec stage step
      exact consistent.perform produced
  | change change => exact consistent

/-- What every turn does from a consistent session, the scenes of a scenario do. -/
theorem forall_mem_play {P : Scene σ κ → Prop}
    (each : ∀ stage turn, stage.session.Consistent → P (setting.scene stage turn))
    (consistent : stage.session.Consistent) (turns : List (Turn κ)) :
    ∀ scene ∈ setting.play stage turns, P scene := by
  induction turns generalizing stage with
  | nil =>
      intro scene member
      cases member
  | cons turn turns ih =>
      intro scene member
      rcases List.mem_cons.mp member with rfl | member
      · exact each stage turn consistent
      · exact ih (consistent_scene consistent turn) scene member

end ManagementUnit.Simulation.Setting
