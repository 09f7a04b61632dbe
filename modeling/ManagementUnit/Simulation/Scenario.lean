import ManagementUnit.Dialogue.Driver
import ManagementUnit.Session.Step

/-!
# Scenarios

A scenario is a list of turns: a client takes a step of its session, or something is changed on the
driver from outside. Playing it gives one scene for each turn.
-/

namespace ManagementUnit.Simulation

variable {σ κ : Type}

/-- A driver together with the changes that can be made on it from outside. -/
structure Setting (σ κ : Type) where
  driver : Driver σ
  apply : σ → κ → σ

/-- One turn of a scenario: the client takes a step, or something is changed on the driver. -/
inductive Turn (κ : Type) where
  | step (step : Session.Step)
  | change (change : κ)

/-- A session and the state of the driver beside it. -/
structure Stage (σ : Type) where
  session : Session
  state : σ

/-- A turn with what it led from and to. A change has no result. -/
structure Scene (σ κ : Type) where
  before : Stage σ
  turn : Turn κ
  result : Option Session.Result
  trace : Trace
  after : Stage σ

namespace Setting

/-- Plays one turn. -/
def scene (setting : Setting σ κ) (stage : Stage σ) : Turn κ → Scene σ κ
  | .step step =>
    let outcome := (stage.session.perform step).run setting.driver stage.state
    let (result, session) := outcome.value
    ⟨stage, .step step, some result, outcome.trace, ⟨session, outcome.state⟩⟩
  | .change change =>
    ⟨stage, .change change, none, [], { stage with state := setting.apply stage.state change }⟩

/-- Plays the turns one after the other. -/
def play (setting : Setting σ κ) (stage : Stage σ) : List (Turn κ) → List (Scene σ κ)
  | [] => []
  | turn :: turns =>
    let scene := setting.scene stage turn
    scene :: setting.play scene.after turns

end Setting

end ManagementUnit.Simulation
