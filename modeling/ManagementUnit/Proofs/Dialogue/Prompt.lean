import ManagementUnit.Node
import ManagementUnit.Dialogue.Trace

/-!
# Giving up at once

A client that gives up at the first call that does not go well makes no further call but to close
what it has open, and ends with the error that goes with that call. `Prompt` is that relation
between a trace and what came of it; like the attempts that lead to it, it is put together from
parts.

One failure is no reason to give up: the version file of the power table may be missing.

* `Prompt.append`, `Prompt.append_idle` — one part after another.
* `Prompt.last`, `Prompt.passable_of_ok` — what comes after a failure, and what success tells.
-/

namespace ManagementUnit

/-- The file holds a text, of which any length may be delivered. -/
def Node.textual : Node → Bool
  | .version => true
  | .codename => true
  | _ => false

namespace Event

/-- The event is a call that can fail. -/
def Fallible : Event → Prop
  | ⟨.acquire .., _⟩ => True
  | ⟨.rewind _, _⟩ => True
  | ⟨.read .., _⟩ => True
  | ⟨.write .., _⟩ => True
  | ⟨.close _, _⟩ => False
  | ⟨.note _, _⟩ => False

/-- The call succeeded and, if it moves a block, moved all of it. -/
def Sufficient : Event → Prop
  | ⟨.acquire .., reply⟩ => ∃ serial, reply = .ok serial
  | ⟨.rewind _, reply⟩ => reply = .ok ()
  | ⟨.read handle limit, reply⟩ =>
    ∃ bytes, reply = .ok bytes ∧ (handle.node.textual = true ∨ bytes.val.length = limit)
  | ⟨.write _ bytes, reply⟩ => reply = .ok bytes.length
  | ⟨.close _, _⟩ => True
  | ⟨.note _, _⟩ => True

/-- The version file of the power table could not be opened. -/
def Excused : Event → Prop
  | ⟨.acquire node _, reply⟩ => node = .pmTableVersion ∧ ∃ reason, reply = .error reason
  | _ => False

/-- The event is no reason to give up. -/
def Passable (event : Event) : Prop :=
  event.Sufficient ∨ event.Excused

section

variable {handle : Handle} {limit : Nat} {bytes : Bytes} {node : Node} {access : Access}

@[simp] theorem passable_rewind_iff {reply : Except IoError Unit} :
    Passable ⟨.rewind handle, reply⟩ ↔ reply = .ok () :=
  iff_of_eq (or_false _)

@[simp] theorem passable_read_iff
    {reply : Except IoError { bytes : Bytes // bytes.length ≤ limit }} :
    Passable ⟨.read handle limit, reply⟩ ↔
      ∃ bytes, reply = .ok bytes ∧ (handle.node.textual = true ∨ bytes.val.length = limit) :=
  iff_of_eq (or_false _)

@[simp] theorem passable_write_iff {reply : Except IoError Nat} :
    Passable ⟨.write handle bytes, reply⟩ ↔ reply = .ok bytes.length :=
  iff_of_eq (or_false _)

@[simp] theorem passable_acquire_ok {serial : Nat} : Passable ⟨.acquire node access, .ok serial⟩ :=
  Or.inl ⟨serial, rfl⟩

@[simp] theorem passable_acquire_error_iff {reason : IoError} :
    Passable ⟨.acquire node access, .error reason⟩ ↔ node = .pmTableVersion := by
  simp [Passable, Sufficient, Excused]

end

/-- The error of a client that gives up after this call. -/
def blame : Event → Error
  | ⟨.acquire node _, _⟩ => if node.textual then .driverAbsent else .transferFailed
  | _ => .transferFailed

theorem passable_of_not_fallible {event : Event} (idle : ¬ event.Fallible) : event.Passable := by
  obtain ⟨action, reply⟩ := event
  cases action with
  | acquire node access | rewind handle | read handle limit | write handle bytes =>
      exact absurd trivial idle
  | close handle | note notice => exact Or.inl trivial

end Event

/-- No call of the trace can fail. -/
def Trace.Idle (trace : Trace) : Prop :=
  ∀ event ∈ trace, ¬ event.Fallible

/-- The version file of the power table was not missed. -/
def Trace.Strict (trace : Trace) : Prop :=
  ∀ event ∈ trace, ¬ event.Excused

theorem Trace.strict_note {notice : Notice} : Trace.Strict [⟨.note notice, ()⟩] :=
  List.forall_mem_singleton.mpr id

namespace Trace.Strict

variable {first rest before after : Trace} {event : Event}

theorem append (one : Strict first) (other : Strict rest) : Strict (first ++ rest) :=
  List.forall_mem_append.mpr ⟨one, other⟩

theorem not_mem (strict : Strict (before ++ event :: after)) : ¬ event.Excused :=
  strict event (List.mem_append_right _ List.mem_cons_self)

/-- If the file was not missed in the first part, it was in the rest. -/
theorem exists_right (strict : Strict first) (excused : event.Excused)
    (split : first ++ rest = before ++ event :: after) :
    ∃ middle, rest = middle ++ event :: after := by
  rcases List.append_eq_append_iff.mp split with ⟨middle, -, same⟩ | ⟨middle, rfl, same⟩
  · exact ⟨middle, same⟩
  · cases middle with
    | nil => exact ⟨[], same.symm⟩
    | cons head middle =>
        obtain ⟨rfl, -⟩ := List.cons.inj same
        exact absurd excused strict.not_mem

/-- If the file was not missed in the rest, it was in the first part. -/
theorem exists_left (strict : Strict rest) (excused : event.Excused)
    (split : first ++ rest = before ++ event :: after) :
    ∃ middle, first = before ++ event :: middle ∧ after = middle ++ rest := by
  rcases List.append_eq_append_iff.mp split with ⟨middle, -, rfl⟩ | ⟨middle, rfl, same⟩
  · exact absurd excused strict.not_mem
  · cases middle with
    | nil =>
        subst same
        exact absurd excused (strict event List.mem_cons_self)
    | cons head middle =>
        obtain ⟨rfl, rfl⟩ := List.cons.inj same
        exact ⟨middle, rfl, rfl⟩

end Trace.Strict

@[simp] theorem Trace.idle_nil : Trace.Idle [] :=
  List.forall_mem_nil _

@[simp] theorem Trace.idle_note {notice : Notice} : Trace.Idle [⟨.note notice, ()⟩] :=
  List.forall_mem_singleton.mpr id

@[simp] theorem Trace.idle_close {handle : Handle} : Trace.Idle [⟨.close handle, ()⟩] :=
  List.forall_mem_singleton.mpr id

/-- The client gave up at the first event that is a reason to, if there is one. -/
inductive Prompt : Trace → Except Error Unit → Prop where
  | ended (status : Except Error Unit) : Prompt [] status
  | stopped {event : Event} {rest : Trace} (failure : ¬ event.Passable) (idle : rest.Idle) :
      Prompt (event :: rest) (.error event.blame)
  | continued {event : Event} {rest : Trace} {status : Except Error Unit} (fine : event.Passable)
      (more : Prompt rest status) : Prompt (event :: rest) status

namespace Prompt

variable {trace first rest : Trace} {status : Except Error Unit}

/-- Without a reason to give up anything may come of it. -/
theorem of_passable (passable : ∀ event ∈ trace, event.Passable) (status : Except Error Unit) :
    Prompt trace status := by
  induction trace with
  | nil => exact .ended status
  | cons event trace ih =>
      obtain ⟨fine, passable⟩ := List.forall_mem_cons.mp passable
      exact .continued fine (ih passable)

theorem of_idle (idle : trace.Idle) (status : Except Error Unit) : Prompt trace status :=
  of_passable (fun event member => Event.passable_of_not_fallible (idle event member)) status

/-- Success tells that there was no reason to give up. -/
theorem passable_of_ok (prompt : Prompt trace (.ok ())) : ∀ event ∈ trace, event.Passable := by
  generalize succeeded : Except.ok () = status at prompt
  induction prompt with
  | ended status => exact List.forall_mem_nil _
  | stopped failure idle => cases succeeded
  | continued fine more ih => exact List.forall_mem_cons.mpr ⟨fine, ih succeeded⟩

/-- After a part that succeeded the next one decides. -/
theorem append (before : Prompt first (.ok ())) (after : Prompt rest status) :
    Prompt (first ++ rest) status := by
  have passable := before.passable_of_ok
  clear before
  induction first with
  | nil => exact after
  | cons event first ih =>
      obtain ⟨fine, passable⟩ := List.forall_mem_cons.mp passable
      exact .continued fine (ih passable)

/-- What cannot fail decides nothing. -/
theorem append_idle (before : Prompt first status) (idle : rest.Idle) :
    Prompt (first ++ rest) status := by
  induction before with
  | ended status => exact of_idle idle status
  | stopped failure still => exact .stopped failure (List.forall_mem_append.mpr ⟨still, idle⟩)
  | continued fine more ih => exact .continued fine ih

/-- A reason to give up is the last call that can fail, and it is what the client blames. -/
theorem last {before after : Trace} {event : Event} (prompt : Prompt trace status)
    (split : trace = before ++ event :: after) (failure : ¬ event.Passable) :
    after.Idle ∧ status = .error event.blame := by
  induction prompt generalizing before with
  | ended status => simp at split
  | stopped unfine idle =>
      cases before with
      | nil =>
          obtain ⟨rfl, rfl⟩ := List.cons.inj split
          exact ⟨idle, rfl⟩
      | cons head before =>
          obtain ⟨-, rfl⟩ := List.cons.inj split
          have fine := Event.passable_of_not_fallible (idle event (by simp))
          exact absurd fine failure
  | continued fine more ih =>
      cases before with
      | nil =>
          obtain ⟨rfl, -⟩ := List.cons.inj split
          exact absurd fine failure
      | cons head before =>
          obtain ⟨-, rest⟩ := List.cons.inj split
          exact ih rest

end Prompt

end ManagementUnit
