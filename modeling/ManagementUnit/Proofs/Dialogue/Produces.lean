import ManagementUnit.Dialogue.Trace

/-!
# Traces of composed dialogues

What a dialogue can lead through is put together from what its parts can lead through. The
statements below take `Dialogue.Produces` apart, one for each way of building a dialogue or an
attempt, so that nothing after this has to look at the tree of a dialogue.

* `Dialogue.produces_bind_iff` — the trace of one dialogue after another is cut in two.
* `Attempt.produces_bind_iff` — an attempt after another goes on from its value, or ends with its
  error.
-/

namespace ManagementUnit

namespace Dialogue

variable {α β : Type}

theorem produces_done_iff {value result : α} {trace : Trace} :
    (done value).Produces trace result ↔ trace = [] ∧ result = value := by
  constructor
  · intro produced
    cases produced
    exact ⟨rfl, rfl⟩
  · rintro ⟨rfl, rfl⟩
    exact .done _

theorem produces_act_iff {action : Action} {next : action.Reply → Dialogue α} {trace : Trace}
    {result : α} :
    (act action next).Produces trace result ↔
      ∃ reply rest, trace = ⟨action, reply⟩ :: rest ∧ (next reply).Produces rest result := by
  constructor
  · intro produced
    cases produced with
    | act rest => exact ⟨_, _, rfl, rest⟩
  · rintro ⟨reply, rest, rfl, produced⟩
    exact .act produced

theorem produces_ask_iff {action : Action} {trace : Trace} {reply : action.Reply} :
    (ask action).Produces trace reply ↔ trace = [⟨action, reply⟩] := by
  unfold ask
  rw [produces_act_iff]
  constructor
  · rintro ⟨given, rest, rfl, produced⟩
    obtain ⟨rfl, rfl⟩ := produces_done_iff.mp produced
    rfl
  · rintro rfl
    exact ⟨reply, [], rfl, .done _⟩

/-- The trace of a sequence splits into the traces of its parts. Everything that a composed dialogue
can do is taken apart by this law. -/
theorem produces_bind_iff {dialogue : Dialogue α} {f : α → Dialogue β} {trace : Trace}
    {result : β} :
    (dialogue >>= f).Produces trace result ↔
      ∃ first rest value, trace = first ++ rest ∧ dialogue.Produces first value ∧
        (f value).Produces rest result := by
  induction dialogue generalizing trace with
  | done value =>
      rw [done_bind]
      constructor
      · intro produced
        exact ⟨[], trace, value, rfl, .done _, produced⟩
      · rintro ⟨first, rest, middle, rfl, produced, after⟩
        obtain ⟨rfl, rfl⟩ := produces_done_iff.mp produced
        exact after
  | act action next ih =>
      rw [act_bind, produces_act_iff]
      constructor
      · rintro ⟨reply, tail, rfl, produced⟩
        obtain ⟨first, rest, value, rfl, before, after⟩ := (ih reply).mp produced
        exact ⟨⟨action, reply⟩ :: first, rest, value, rfl, .act before, after⟩
      · rintro ⟨first, rest, value, rfl, produced, after⟩
        obtain ⟨reply, tail, rfl, before⟩ := produces_act_iff.mp produced
        exact ⟨reply, tail ++ rest, rfl, (ih reply).mpr ⟨tail, rest, value, rfl, before, after⟩⟩

/-- What comes after a dialogue may only be a look at its value. -/
theorem produces_bind_done_iff {dialogue : Dialogue α} {f : α → β} {trace : Trace} {result : β} :
    (dialogue >>= fun value => done (f value)).Produces trace result ↔
      ∃ value, dialogue.Produces trace value ∧ result = f value := by
  rw [produces_bind_iff]
  constructor
  · rintro ⟨first, rest, value, rfl, produced, after⟩
    obtain ⟨rfl, rfl⟩ := produces_done_iff.mp after
    exact ⟨value, by rwa [List.append_nil], rfl⟩
  · rintro ⟨value, produced, rfl⟩
    exact ⟨trace, [], value, (List.append_nil _).symm, produced, .done _⟩

theorem produces_map_iff {dialogue : Dialogue α} {f : α → β} {trace : Trace} {result : β} :
    (f <$> dialogue).Produces trace result ↔
      ∃ value, dialogue.Produces trace value ∧ result = f value := by
  rw [map_eq_pure_bind]
  exact produces_bind_done_iff

theorem produces_note_iff {notice : Notice} {trace : Trace} {result : Unit} :
    (note notice).Produces trace result ↔ trace = [⟨.note notice, ()⟩] :=
  produces_ask_iff

/-- A dialogue that begins by logging goes on in one way. -/
theorem produces_note_bind_iff {notice : Notice} {f : Unit → Dialogue α} {trace : Trace}
    {result : α} :
    (note notice >>= f).Produces trace result ↔
      ∃ rest, trace = ⟨.note notice, ()⟩ :: rest ∧ (f ()).Produces rest result := by
  constructor
  · intro produced
    obtain ⟨reply, rest, rfl, after⟩ := produces_act_iff.mp produced
    exact ⟨rest, rfl, after⟩
  · rintro ⟨rest, rfl, after⟩
    exact .act after

theorem produces_close_iff {handle : Handle} {trace : Trace} {result : Unit} :
    (close handle).Produces trace result ↔ trace = [⟨.close handle, ()⟩] :=
  produces_ask_iff

theorem produces_acquire_iff {node : Node} {access : Access} {trace : Trace}
    {result : Except IoError Handle} :
    (acquire node access).Produces trace result ↔
      ∃ reply : Except IoError Nat,
        trace = [⟨.acquire node access, reply⟩] ∧ result = reply.map (Handle.mk node) := by
  unfold acquire
  simp only [pure_eq_done, produces_bind_done_iff]
  exact exists_congr fun reply => and_congr_left' produces_ask_iff

/-- Closing cannot fail, so its trace is known beforehand. -/
theorem produces_closeAll_iff {handles : List Handle} {trace : Trace} {result : Unit} :
    (closeAll handles).Produces trace result ↔
      trace = handles.map fun handle => ⟨.close handle, ()⟩ := by
  induction handles generalizing trace with
  | nil =>
      unfold closeAll
      rw [pure_eq_done, produces_done_iff]
      simp
  | cons handle handles ih =>
      unfold closeAll
      rw [produces_bind_iff]
      constructor
      · rintro ⟨first, rest, value, rfl, closed, after⟩
        rw [produces_close_iff.mp closed, ih.mp after]
        rfl
      · rintro rfl
        exact ⟨[_], _, (), rfl, produces_close_iff.mpr rfl, ih.mpr rfl⟩

end Dialogue

namespace Attempt

open Dialogue

variable {α β : Type}

theorem produces_pure_iff {value : α} {trace : Trace} {result : Except Error α} :
    (pure value : Attempt α).run.Produces trace result ↔ trace = [] ∧ result = .ok value := by
  rw [ExceptT.run_pure, pure_eq_done, produces_done_iff]

theorem produces_throw_iff {error : Error} {trace : Trace} {result : Except Error α} :
    (throw error : Attempt α).run.Produces trace result ↔
      trace = [] ∧ result = .error error := by
  rw [ExceptT.run_throw, pure_eq_done, produces_done_iff]

theorem produces_lift_iff {dialogue : Dialogue α} {trace : Trace} {result : Except Error α} :
    (liftM dialogue : Attempt α).run.Produces trace result ↔
      ∃ value, dialogue.Produces trace value ∧ result = .ok value := by
  rw [ExceptT.run_liftM, produces_map_iff]

/-- An attempt goes on from the value of the one before it, or ends with its error. -/
theorem produces_bind_iff {attempt : Attempt α} {f : α → Attempt β} {trace : Trace}
    {result : Except Error β} :
    (attempt >>= f).run.Produces trace result ↔
      (∃ first rest value, trace = first ++ rest ∧ attempt.run.Produces first (.ok value) ∧
        (f value).run.Produces rest result) ∨
      ∃ error, attempt.run.Produces trace (.error error) ∧ result = .error error := by
  rw [ExceptT.run_bind, Dialogue.produces_bind_iff]
  constructor
  · rintro ⟨first, rest, middle, rfl, before, after⟩
    cases middle with
    | ok value => exact Or.inl ⟨first, rest, value, rfl, before, after⟩
    | error error =>
        obtain ⟨rfl, rfl⟩ := produces_done_iff.mp after
        exact Or.inr ⟨error, by rwa [List.append_nil], rfl⟩
  · rintro (⟨first, rest, value, rfl, before, after⟩ | ⟨error, before, rfl⟩)
    · exact ⟨first, rest, .ok value, rfl, before, after⟩
    · exact ⟨trace, [], .error error, (List.append_nil _).symm, before, .done _⟩

/-- An attempt that succeeds has got through both of its parts. -/
theorem produces_bind_ok_iff {attempt : Attempt α} {f : α → Attempt β} {trace : Trace}
    {result : β} :
    (attempt >>= f).run.Produces trace (.ok result) ↔
      ∃ first rest value, trace = first ++ rest ∧ attempt.run.Produces first (.ok value) ∧
        (f value).run.Produces rest (.ok result) := by
  rw [produces_bind_iff]
  constructor
  · rintro (parts | ⟨error, -, impossible⟩)
    · exact parts
    · cases impossible
  · exact Or.inl

theorem produces_lift_bind_iff {dialogue : Dialogue α} {f : α → Attempt β} {trace : Trace}
    {result : Except Error β} :
    ((liftM dialogue : Attempt α) >>= f).run.Produces trace result ↔
      ∃ first rest value, trace = first ++ rest ∧ dialogue.Produces first value ∧
        (f value).run.Produces rest result := by
  rw [produces_bind_iff]
  constructor
  · rintro (⟨first, rest, value, rfl, before, after⟩ | ⟨error, before, -⟩)
    · obtain ⟨given, before, same⟩ := produces_lift_iff.mp before
      cases same
      exact ⟨first, rest, value, rfl, before, after⟩
    · obtain ⟨given, -, impossible⟩ := produces_lift_iff.mp before
      cases impossible
  · rintro ⟨first, rest, value, rfl, before, after⟩
    exact Or.inl ⟨first, rest, value, rfl, produces_lift_iff.mpr ⟨value, before, rfl⟩, after⟩

/-- An attempt that begins with one action goes on as the reply says. -/
theorem produces_ask_bind_iff {action : Action} {f : action.Reply → Attempt β} {trace : Trace}
    {result : Except Error β} :
    ((liftM (ask action) : Attempt action.Reply) >>= f).run.Produces trace result ↔
      ∃ reply rest, trace = ⟨action, reply⟩ :: rest ∧ (f reply).run.Produces rest result := by
  rw [produces_lift_bind_iff]
  constructor
  · rintro ⟨first, rest, reply, rfl, asked, after⟩
    rw [produces_ask_iff.mp asked]
    exact ⟨reply, rest, rfl, after⟩
  · rintro ⟨reply, rest, rfl, after⟩
    exact ⟨[⟨action, reply⟩], rest, reply, rfl, produces_ask_iff.mpr rfl, after⟩

theorem produces_note_bind_iff {notice : Notice} {f : Unit → Attempt β} {trace : Trace}
    {result : Except Error β} :
    ((liftM (note notice) : Attempt Unit) >>= f).run.Produces trace result ↔
      ∃ rest, trace = ⟨.note notice, ()⟩ :: rest ∧ (f ()).run.Produces rest result := by
  unfold note
  rw [produces_ask_bind_iff]
  constructor
  · rintro ⟨reply, rest, rfl, after⟩
    exact ⟨rest, rfl, after⟩
  · rintro ⟨rest, rfl, after⟩
    exact ⟨(), rest, rfl, after⟩

theorem produces_fail_iff {notice : Notice} {error : Error} {trace : Trace}
    {result : Except Error α} :
    (fail notice error : Attempt α).run.Produces trace result ↔
      trace = [⟨.note notice, ()⟩] ∧ result = .error error := by
  unfold fail
  rw [produces_note_bind_iff]
  constructor
  · rintro ⟨rest, rfl, thrown⟩
    obtain ⟨rfl, rfl⟩ := produces_throw_iff.mp thrown
    exact ⟨rfl, rfl⟩
  · rintro ⟨rfl, rfl⟩
    exact ⟨[], rfl, produces_throw_iff.mpr ⟨rfl, rfl⟩⟩

end Attempt

end ManagementUnit
