import ManagementUnit.Dialogue.Driver
import ManagementUnit.Proofs.Dialogue.Produces

/-!
# Runs as answered traces

A run leads through the one trace of the dialogue in which the driver gave all replies. So whatever
is known of the traces of a dialogue can be used for its runs: what remains is to follow the
driver's state along the trace.

* `Dialogue.run_eq_iff` — a run is a trace that the dialogue produces and the driver answers.
* `Dialogue.run_bind` — one dialogue after another.
* `Driver.Meets` — what holds of every action and the state of the driver that it meets.
-/

namespace ManagementUnit

variable {σ α : Type} {driver : Driver σ} {state last : σ} {trace : Trace}

/-- The replies of a trace are those of the driver, from a state to another. -/
inductive Driver.Answers (driver : Driver σ) : σ → Trace → σ → Prop where
  | nil (state : σ) : Answers driver state [] state
  | cons {action : Action} {state last : σ} {trace : Trace}
      (rest : Answers driver (driver.reply action state).2 trace last) :
      Answers driver state (⟨action, (driver.reply action state).1⟩ :: trace) last

namespace Driver

theorem answers_nil_iff : driver.Answers state [] last ↔ last = state := by
  constructor
  · intro answers
    cases answers
    rfl
  · rintro rfl
    exact .nil _

theorem answers_cons_iff {action : Action} {reply : action.Reply} :
    driver.Answers state (⟨action, reply⟩ :: trace) last ↔
      reply = (driver.reply action state).1 ∧
        driver.Answers (driver.reply action state).2 trace last := by
  constructor
  · intro answers
    cases answers with
    | cons rest => exact ⟨rfl, rest⟩
  · rintro ⟨rfl, rest⟩
    exact .cons rest

/-- The second part of a trace is answered from the state that the first part left. -/
theorem answers_append_iff {first rest : Trace} :
    driver.Answers state (first ++ rest) last ↔
      ∃ middle, driver.Answers state first middle ∧ driver.Answers middle rest last := by
  induction first generalizing state with
  | nil => simp [answers_nil_iff]
  | cons event first ih =>
      obtain ⟨action, reply⟩ := event
      rw [List.cons_append, answers_cons_iff, ih]
      constructor
      · rintro ⟨given, middle, before, after⟩
        exact ⟨middle, answers_cons_iff.mpr ⟨given, before⟩, after⟩
      · rintro ⟨middle, before, after⟩
        obtain ⟨given, before⟩ := answers_cons_iff.mp before
        exact ⟨given, middle, before, after⟩

/-- A notice is no call, and the driver's state stays. -/
theorem answers_note_iff {notice : Notice} :
    driver.Answers state (⟨.note notice, ()⟩ :: trace) last ↔ driver.Answers state trace last := by
  rw [answers_cons_iff]
  exact and_iff_right rfl

/-! ### What actions meet -/

/-- Every action of the trace has the property with the state that it meets. -/
def Meets (driver : Driver σ) (P : σ → Action → Prop) (state : σ) (trace : Trace) : Prop :=
  ∀ before event after met, trace = before ++ event :: after → driver.Answers state before met →
    P met event.action

namespace Meets

variable {P : σ → Action → Prop}

theorem nil : driver.Meets P state [] := by
  intro before event after met impossible
  simp at impossible

/-- What every action has with every state it has with the one that it meets. -/
theorem of_forall (each : ∀ event ∈ trace, ∀ met, P met event.action) :
    driver.Meets P state trace := by
  rintro before event after met rfl -
  exact each event (by simp) met

theorem cons {action : Action} {reply : action.Reply} (first : P state action)
    (rest : driver.Meets P (driver.reply action state).2 trace) :
    driver.Meets P state (⟨action, reply⟩ :: trace) := by
  intro before event after met split answers
  cases before with
  | nil =>
      obtain ⟨rfl, -⟩ := List.cons.inj split
      rw [answers_nil_iff.mp answers]
      exact first
  | cons head before =>
      obtain ⟨rfl, same⟩ := List.cons.inj split
      exact rest before event after met same (answers_cons_iff.mp answers).2

/-- The second part starts from the state that the first one leads to. -/
theorem append {first rest : Trace} (one : driver.Meets P state first)
    (other : ∀ middle, driver.Answers state first middle → driver.Meets P middle rest) :
    driver.Meets P state (first ++ rest) := by
  intro before event after met split answers
  rcases List.append_eq_append_iff.mp split with ⟨part, rfl, same⟩ | ⟨part, rfl, same⟩
  · obtain ⟨middle, reached, further⟩ := answers_append_iff.mp answers
    exact other middle reached part event after met same further
  · cases part with
    | nil =>
        rw [List.append_nil] at other
        exact other met answers [] event after met same.symm (.nil met)
    | cons head part =>
        obtain ⟨rfl, -⟩ := List.cons.inj same
        exact one before event part met rfl answers

end Meets

end Driver

/-- A run is the one production that the driver answers, so what holds of all productions holds of
every run. -/
theorem Dialogue.run_eq_iff {dialogue : Dialogue α} {value : α} :
    dialogue.run driver state = ⟨value, last, trace⟩ ↔
      dialogue.Produces trace value ∧ driver.Answers state trace last := by
  constructor
  · intro ran
    -- A run takes the branch of the reply at each action.
    induction dialogue generalizing state trace with
    | done result =>
        cases ran
        exact ⟨.done _, .nil _⟩
    | act action next ih =>
        cases ran
        obtain ⟨produced, answers⟩ := ih _ rfl
        exact ⟨.act produced, .cons answers⟩
  · rintro ⟨produced, answers⟩
    -- What was produced has the replies of the driver, so the run takes the same branches.
    induction produced generalizing state with
    | done value =>
        cases Driver.answers_nil_iff.mp answers
        rfl
    | act rest ih =>
        obtain ⟨rfl, after⟩ := Driver.answers_cons_iff.mp answers
        unfold run
        dsimp only
        rw [ih after]

theorem Dialogue.run_spec (driver : Driver σ) (dialogue : Dialogue α) (state : σ) :
    dialogue.Produces (dialogue.run driver state).trace (dialogue.run driver state).value ∧
      driver.Answers state (dialogue.run driver state).trace (dialogue.run driver state).state :=
  run_eq_iff.mp rfl

/-- One dialogue after another runs on from the state that the first one left. -/
theorem Dialogue.run_bind {β : Type} (driver : Driver σ) (dialogue : Dialogue α)
    (f : α → Dialogue β) (state : σ) :
    (dialogue >>= f).run driver state =
      let first := dialogue.run driver state
      let rest := (f first.value).run driver first.state
      ⟨rest.value, rest.state, first.trace ++ rest.trace⟩ := by
  obtain ⟨produced, answers⟩ := run_spec driver dialogue state
  obtain ⟨also, answered⟩ := run_spec driver (f (dialogue.run driver state).value)
    (dialogue.run driver state).state
  exact run_eq_iff.mpr ⟨produces_bind_iff.mpr ⟨_, _, _, rfl, produced, also⟩,
    Driver.answers_append_iff.mpr ⟨_, answers, answered⟩⟩

end ManagementUnit
