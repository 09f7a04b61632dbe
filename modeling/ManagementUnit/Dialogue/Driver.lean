import ManagementUnit.Dialogue.Trace

/-!
# Running a dialogue

A `Driver` answers every call and keeps a state of its own. Running a dialogue against it gives the
result, the driver's state afterwards and the trace in between.

* `Dialogue.produces_run` — what a run leads through is a trace of the dialogue, so a statement
  about all traces covers every driver.
-/

namespace ManagementUnit

/-- Something that answers the calls of a client. -/
structure Driver (σ : Type) where
  acquire : Node → Access → σ → Except IoError Nat × σ
  rewind : Handle → σ → Except IoError Unit × σ
  read : Handle → (limit : Nat) → σ → Except IoError { bytes : Bytes // bytes.length ≤ limit } × σ
  write : Handle → Bytes → σ → Except IoError Nat × σ
  close : Handle → σ → σ

namespace Driver

variable {σ : Type}

/-- The reply to an action, and the state after it. A notice does not reach the driver. -/
def reply (driver : Driver σ) : (action : Action) → σ → action.Reply × σ
  | .acquire node access, state => driver.acquire node access state
  | .rewind handle, state => driver.rewind handle state
  | .read handle limit, state => driver.read handle limit state
  | .write handle bytes, state => driver.write handle bytes state
  | .close handle, state => ((), driver.close handle state)
  | .note _, state => ((), state)

end Driver

/-- What a run leads to. -/
structure Outcome (σ α : Type) where
  value : α
  state : σ
  trace : Trace

namespace Dialogue

variable {σ α : Type}

/-- Runs a dialogue against a driver. -/
def run (driver : Driver σ) : Dialogue α → σ → Outcome σ α
  | done value, state => ⟨value, state, []⟩
  | act action next, state =>
    let (reply, state) := driver.reply action state
    let rest := (next reply).run driver state
    ⟨rest.value, rest.state, ⟨action, reply⟩ :: rest.trace⟩

theorem produces_run (driver : Driver σ) (dialogue : Dialogue α) (state : σ) :
    dialogue.Produces (dialogue.run driver state).trace (dialogue.run driver state).value := by
  induction dialogue generalizing state with
  | done value => exact .done value
  | act action next ih => exact .act (ih _ _)

end Dialogue

end ManagementUnit
