import ManagementUnit.Dialogue.Trace

/-!
# Scripts of calls

A client that stops at the first reply it does not like makes the calls of a fixed list, its script,
in order and up to that reply. `Trace.Follows` is that relation between a script and the calls of a
trace. Scripts are put together as the parts of an attempt are.

* `Trace.Follows.append`, `Trace.Follows.append_of_stopped` — one script after another.
* `Trace.Follows.length_eq_iff` — which call is the last.
* `Trace.Follows.finished_iff` — when the script is finished.
* `Trace.Follows.exists_of_good` — what comes after a call that went well.
-/

namespace ManagementUnit

/-! ### Calls -/

/-- Whether an event is a call on the driver. -/
def Event.isCall : Event → Bool
  | ⟨.note _, _⟩ => false
  | _ => true

/-- The call succeeded and, if it is a transfer, moved the whole block. -/
def Event.Whole : Event → Prop
  | ⟨.acquire .., reply⟩ => ∃ serial, reply = .ok serial
  | ⟨.rewind _, reply⟩ => reply = .ok ()
  | ⟨.read _ limit, reply⟩ => ∃ bytes, reply = .ok bytes ∧ bytes.val.length = limit
  | ⟨.write _ bytes, reply⟩ => reply = .ok bytes.length
  | ⟨.close _, _⟩ => True
  | ⟨.note _, _⟩ => True

namespace Trace

/-- The calls of a trace, without the notices. -/
def calls (trace : Trace) : Trace :=
  trace.filter Event.isCall

@[simp] theorem calls_nil : calls [] = [] := rfl

@[simp] theorem calls_append (first rest : Trace) :
    calls (first ++ rest) = calls first ++ calls rest :=
  List.filter_append first rest

@[simp] theorem calls_cons_note (notice : Notice) (trace : Trace) :
    calls (⟨.note notice, ()⟩ :: trace) = calls trace := rfl

@[simp] theorem calls_cons_rewind (handle : Handle) (reply : Except IoError Unit) (trace : Trace) :
    calls (⟨.rewind handle, reply⟩ :: trace) = ⟨.rewind handle, reply⟩ :: calls trace := rfl

@[simp] theorem calls_cons_read (handle : Handle) (limit : Nat)
    (reply : Except IoError { bytes : Bytes // bytes.length ≤ limit }) (trace : Trace) :
    calls (⟨.read handle limit, reply⟩ :: trace) = ⟨.read handle limit, reply⟩ :: calls trace := rfl

@[simp] theorem calls_cons_write (handle : Handle) (bytes : Bytes) (reply : Except IoError Nat)
    (trace : Trace) :
    calls (⟨.write handle bytes, reply⟩ :: trace) = ⟨.write handle bytes, reply⟩ :: calls trace :=
  rfl

/-! ### Scripts -/

/-- The calls are those of the script, up to the first whose reply is not good. The flag tells
whether there was no such reply. -/
inductive Follows (good : Event → Prop) : List Action → Trace → Bool → Prop where
  | finished : Follows good [] [] true
  | stopped {action : Action} {script : List Action} {reply : action.Reply}
      (bad : ¬ good ⟨action, reply⟩) : Follows good (action :: script) [⟨action, reply⟩] false
  | continued {action : Action} {script : List Action} {reply : action.Reply} {trace : Trace}
      {done : Bool} (fine : good ⟨action, reply⟩) (rest : Follows good script trace done) :
      Follows good (action :: script) (⟨action, reply⟩ :: trace) done

namespace Follows

variable {good : Event → Prop} {script more : List Action} {trace after : Trace} {done : Bool}

theorem append (follows : Follows good script trace true) (next : Follows good more after done) :
    Follows good (script ++ more) (trace ++ after) done := by
  generalize completed : true = flag at follows
  induction follows with
  | finished => exact next
  | stopped bad => cases completed
  | continued fine rest ih => exact .continued fine (ih completed)

/-- A script that was broken off stays so, whatever was to come. -/
theorem append_of_stopped (follows : Follows good script trace false) (more : List Action) :
    Follows good (script ++ more) trace false := by
  generalize broken : false = flag at follows
  induction follows with
  | finished => cases broken
  | stopped bad => exact .stopped bad
  | continued fine rest ih => exact .continued fine (ih broken)

theorem congr {other : Event → Prop} (follows : Follows good script trace done)
    (same : ∀ event ∈ trace, (good event ↔ other event)) : Follows other script trace done := by
  induction follows with
  | finished => exact .finished
  | stopped bad => exact .stopped fun fine => bad ((same _ (List.mem_singleton_self _)).mpr fine)
  | continued fine rest ih =>
      refine .continued ((same _ List.mem_cons_self).mp fine) (ih ?_)
      intro event member
      exact same event (List.mem_cons_of_mem _ member)

/-- After a call whose reply was good, what is left of the script is followed. -/
theorem exists_of_good {before : Trace} {event : Event}
    (follows : Follows good script (before ++ event :: after) done) (fine : good event) :
    ∃ tail, script = before.map Event.action ++ event.action :: tail ∧
      Follows good tail after done := by
  induction before generalizing script with
  | nil =>
      cases follows with
      | stopped bad => exact absurd fine bad
      | continued _ rest => exact ⟨_, rfl, rest⟩
  | cons head before ih =>
      rw [List.cons_append] at follows
      generalize split : before ++ event :: after = remaining at follows
      cases follows with
      | stopped bad => simp at split
      | continued _ rest =>
          subst split
          obtain ⟨tail, rfl, followed⟩ := ih rest
          exact ⟨tail, rfl, followed⟩

/-- The calls begin the script. -/
theorem actions_isPrefix (follows : Follows good script trace done) :
    trace.map Event.action <+: script := by
  induction follows with
  | finished => exact List.prefix_rfl
  | stopped bad => exact List.cons_prefix_cons.mpr ⟨rfl, List.nil_prefix⟩
  | continued fine rest ih => exact List.cons_prefix_cons.mpr ⟨rfl, ih⟩

theorem ne_nil (follows : Follows good script trace done) (some : script ≠ []) : trace ≠ [] := by
  cases follows with
  | finished => exact absurd rfl some
  | stopped bad => exact List.cons_ne_nil _ _
  | continued fine rest => exact List.cons_ne_nil _ _

/-- The script is finished if every reply was good, and all its calls were made then. -/
theorem finished_iff (follows : Follows good script trace done) :
    done = true ↔ trace.map Event.action = script ∧ ∀ event ∈ trace, good event := by
  induction follows with
  | finished => simp
  | stopped bad => simp [bad]
  | continued fine rest ih => simp [ih, fine]

/-- A call is the last one if its reply was not good, or if the script ends with it. -/
theorem length_eq_iff {made : Trace} (follows : Follows good script made done) {index : Nat}
    {event : Event} (found : made[index]? = some event) :
    made.length = index + 1 ↔ ¬ good event ∨ index + 1 = script.length := by
  induction follows generalizing index with
  | finished => cases found
  | @stopped action script reply bad =>
      obtain ⟨inside, rfl⟩ := List.getElem?_eq_some_iff.mp found
      obtain rfl : index = 0 := by simpa using inside
      simp [bad]
  | @continued action script reply trace done fine rest ih =>
      cases index with
      | zero =>
          obtain rfl : ⟨action, reply⟩ = event := Option.some.inj found
          -- The first call is the last one only if nothing is left of the script.
          have nothing : trace = [] ↔ script = [] := by
            constructor
            · rintro rfl
              cases rest
              rfl
            · rintro rfl
              cases rest
              rfl
          simp [fine, nothing]
      | succ index =>
          have last := ih found
          rw [List.length_cons, List.length_cons, Nat.add_right_cancel_iff, last,
            Nat.add_right_cancel_iff]

end Follows

end Trace

end ManagementUnit
