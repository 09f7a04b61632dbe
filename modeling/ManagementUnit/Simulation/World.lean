import ManagementUnit.Dialogue.Driver
import ManagementUnit.Workbench

/-!
# Worlds

A world is a workbench together with the driver it works on. It keeps account of the handles that
are open, as the traces of its uses tell.
-/

namespace ManagementUnit.Simulation

/-- A workbench, the state of its driver, and the handles that are open. -/
structure World (σ : Type) where
  bench : Workbench
  driver : σ
  handles : List Handle

namespace World

variable {σ : Type}

/-- An empty workbench on a driver of which nothing is open. -/
def start (driver : σ) : World σ :=
  ⟨.empty, driver, []⟩

/-- What a use of the workbench tells, what happened in it, and the world after it. -/
def serve (world : World σ) (driver : Driver σ) (request : Workbench.Request) :
    Workbench.Answer × Trace × World σ :=
  let outcome := (world.bench.perform request).run driver world.driver
  let (answer, bench) := outcome.value
  (answer, outcome.trace, ⟨bench, outcome.state, outcome.trace.openAfter world.handles⟩)

end World

end ManagementUnit.Simulation
