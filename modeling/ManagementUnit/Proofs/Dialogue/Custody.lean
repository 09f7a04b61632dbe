import ManagementUnit.Proofs.Dialogue.Script

/-!
# Custody of open files

A client may use a file only while it holds it: it opens a file in the mode that is the file's own,
transfers only directly after repositioning, and closes what it opened, once. `Trace.Permits` says
so of a single action, by what was done before it, and `Trace.Obeys` of all actions of a trace.

`Carries` is the form in which this is proved: it tells which handles are open before and after a
piece of a trace, so pieces are put together by `Carries.append` without a look at the past.

* `Trace.opened_perm`, `Carries.opened_perm` — what was opened is what was closed and what is still
  open.
* `Trace.mem_of_mem_openAfter` — an open handle was opened.
-/

namespace ManagementUnit

/-! ### Rules -/

/-- What may be done after a trace. -/
abbrev Rule := Trace → Action → Prop

namespace Trace

variable {rule : Rule} {past first rest trace : Trace} {event : Event}

/-- Coming after `past`, all actions of the trace are such as the rule allows by then. -/
def Obeys (rule : Rule) (past trace : Trace) : Prop :=
  ∀ before event after, trace = before ++ event :: after → rule (past ++ before) event.action

theorem obeys_nil : Obeys rule past [] := by
  intro before event after impossible
  simp at impossible

/-- A rule is about the events so far, so the rest of a trace obeys it with one event more behind
it. -/
theorem obeys_cons_iff :
    Obeys rule past (event :: trace) ↔
      rule past event.action ∧ Obeys rule (past ++ [event]) trace := by
  constructor
  · intro obeys
    constructor
    · have first := obeys [] event trace rfl
      rwa [List.append_nil] at first
    · rintro before next after rfl
      have later := obeys (event :: before) next after rfl
      rwa [List.append_cons] at later
  · rintro ⟨allowed, obeys⟩ before next after same
    cases before with
    | nil =>
        obtain ⟨rfl, -⟩ := List.cons.inj same
        rwa [List.append_nil]
    | cons head before =>
        obtain ⟨rfl, rfl⟩ := List.cons.inj same
        rw [List.append_cons]
        exact obeys before next after rfl

theorem obeys_append_iff :
    Obeys rule past (first ++ rest) ↔ Obeys rule past first ∧ Obeys rule (past ++ first) rest := by
  induction first generalizing past with
  | nil => simp [obeys_nil]
  | cons event first ih =>
      rw [List.cons_append, obeys_cons_iff, ih, obeys_cons_iff, and_assoc, ← List.append_cons]

/-! ### Open handles -/

@[simp] theorem openAfter_nil (handles : List Handle) : openAfter handles [] = handles := rfl

theorem openAfter_append (handles : List Handle) (first rest : Trace) :
    openAfter handles (first ++ rest) = openAfter (openAfter handles first) rest := by
  induction first generalizing handles with
  | nil => rfl
  | cons event first ih =>
      obtain ⟨action, reply⟩ := event
      cases action with
      | acquire node access =>
          cases reply with
          | ok serial | error reason => exact ih _
      | rewind handle | read handle limit | write handle bytes | close handle | note notice =>
          exact ih _

end Trace

/-- The handle that an event opens. -/
def Event.opened? : Event → Option Handle
  | ⟨.acquire node _, .ok serial⟩ => some ⟨node, serial⟩
  | _ => none

/-- The handle that an event closes. -/
def Event.closed? : Event → Option Handle
  | ⟨.close handle, _⟩ => some handle
  | _ => none

namespace Trace

/-- The handles that were opened, in order. -/
def opened (trace : Trace) : List Handle :=
  trace.filterMap Event.opened?

/-- The handles that were closed, in order. -/
def closed (trace : Trace) : List Handle :=
  trace.filterMap Event.closed?

theorem opened_append (first rest : Trace) : opened (first ++ rest) = opened first ++ opened rest :=
  List.filterMap_append

/-- An open handle was open before or has been opened since. -/
theorem mem_of_mem_openAfter {handles : List Handle} {trace : Trace} {handle : Handle}
    (member : handle ∈ openAfter handles trace) :
    handle ∈ handles ∨ ∃ access, ⟨.acquire handle.node access, .ok handle.serial⟩ ∈ trace := by
  induction trace generalizing handles with
  | nil => exact Or.inl member
  | cons event trace ih =>
      -- What the rest of the trace opened was opened in the trace.
      have later : ∀ {others}, handle ∈ openAfter others trace → handle ∈ others ∨
          ∃ access, ⟨.acquire handle.node access, .ok handle.serial⟩ ∈ event :: trace := by
        intro others member
        refine (ih member).imp id ?_
        rintro ⟨access, found⟩
        exact ⟨access, List.mem_cons_of_mem _ found⟩
      obtain ⟨action, reply⟩ := event
      cases action with
      | acquire node access =>
          cases reply with
          | ok serial =>
              rcases later member with member | since
              · rcases List.mem_append.mp member with member | member
                · exact Or.inl member
                · obtain rfl := List.mem_singleton.mp member
                  exact Or.inr ⟨access, List.mem_cons_self⟩
              · exact Or.inr since
          | error reason => exact later member
      | close closed => exact (later member).imp List.mem_of_mem_erase id
      | rewind other | read other limit | write other bytes | note notice => exact later member

/-- What a client may do after `past`, if it minds the files that it holds. -/
def Permits (past : Trace) : Action → Prop
  | .acquire node access => access = node.access
  | .rewind handle => handle ∈ past.openAfter []
  | .read handle _ =>
    handle ∈ past.openAfter [] ∧ past.calls.getLast? = some ⟨.rewind handle, .ok ()⟩
  | .write handle _ =>
    handle ∈ past.openAfter [] ∧ past.calls.getLast? = some ⟨.rewind handle, .ok ()⟩ ∧
      handle.node.access = .readWrite
  | .close handle => handle ∈ past.openAfter []
  | .note _ => True

/-- Nothing is lost, and nothing is closed that was not open: of the handles that were open before
and those opened since, each was closed since or is open still. -/
theorem opened_perm {past trace : Trace} (lawful : Obeys Permits past trace) :
    (opened trace ++ openAfter [] past).Perm (closed trace ++ openAfter [] (past ++ trace)) := by
  -- By induction on the trace, with the past growing: an opening adds a handle on both sides.
  induction trace generalizing past with
  | nil => simp [opened, closed]
  | cons event trace ih =>
      obtain ⟨allowed, lawful⟩ := obeys_cons_iff.mp lawful
      have later := ih lawful
      rw [openAfter_append [] past, ← List.append_cons] at later
      obtain ⟨action, reply⟩ := event
      cases action with
      | acquire node access =>
          cases reply with
          | ok serial =>
              have moved := List.perm_append_singleton ⟨node, serial⟩
                (opened trace ++ openAfter [] past)
              rw [List.append_assoc] at moved
              exact moved.symm.trans later
          | error reason => exact later
      | close handle =>
          -- The rule lets only an open handle be closed, so it goes over to the closed ones.
          have member : handle ∈ openAfter [] past := allowed
          have apart := (List.perm_cons_erase member).append_left (opened trace)
          exact apart.trans (List.perm_middle.trans (later.cons handle))
      | rewind other | read other limit | write other bytes | note notice => exact later

end Trace

/-! ### Handles before and after -/

/-- A piece of a trace that leads from some open handles to others: it does nothing that is not
permitted where the first are open, and then the last are open. -/
structure Carries (handles : List Handle) (trace : Trace) (next : List Handle) : Prop where
  lawful : ∀ past : Trace, past.openAfter [] = handles → Trace.Obeys Trace.Permits past trace
  left : trace.openAfter handles = next

namespace Carries

open Trace

variable {handles middle next : List Handle} {trace first rest : Trace} {handle : Handle}

theorem nil (handles : List Handle) : Carries handles [] handles :=
  ⟨fun _ _ => obeys_nil, rfl⟩

theorem append (before : Carries handles first middle) (after : Carries middle rest next) :
    Carries handles (first ++ rest) next where
  lawful := by
    intro past held
    refine obeys_append_iff.mpr ⟨before.lawful past held, after.lawful _ ?_⟩
    rw [openAfter_append, held, before.left]
  left := by rw [openAfter_append, before.left, after.left]

/-- A single action that is permitted by the open handles alone. -/
theorem single {event : Event} (allowed : ∀ past : Trace, past.openAfter [] = handles →
    past.Permits event.action) : Carries handles [event] (openAfter handles [event]) :=
  ⟨fun past held => obeys_cons_iff.mpr ⟨allowed past held, obeys_nil⟩, rfl⟩

theorem note (handles : List Handle) (notice : Notice) :
    Carries handles [⟨.note notice, ()⟩] handles :=
  single fun _ _ => trivial

theorem acquire_ok (handles : List Handle) (node : Node) (serial : Nat) :
    Carries handles [⟨.acquire node node.access, .ok serial⟩] (handles ++ [⟨node, serial⟩]) :=
  single fun _ _ => rfl

theorem acquire_error (handles : List Handle) (node : Node) (reason : IoError) :
    Carries handles [⟨.acquire node node.access, .error reason⟩] handles :=
  single fun _ _ => rfl

theorem close (member : handle ∈ handles) :
    Carries handles [⟨.close handle, ()⟩] (handles.erase handle) := by
  refine single ?_
  rintro past rfl
  exact member

/-- Handles are closed in any order in which they are held. -/
theorem closeAll (handles : List Handle) :
    Carries handles (handles.map fun handle => ⟨.close handle, ()⟩) [] := by
  induction handles with
  | nil => exact nil []
  | cons handle handles ih =>
      have first : Carries (handle :: handles) _ _ := close List.mem_cons_self
      rw [List.erase_cons_head] at first
      exact first.append ih

/-- From nothing, what was opened is what was closed and what is left open. -/
theorem opened_perm (carries : Carries [] trace next) :
    trace.opened.Perm (trace.closed ++ next) := by
  have balanced := Trace.opened_perm (carries.lawful [] rfl)
  rwa [List.nil_append, carries.left, openAfter_nil, List.append_nil] at balanced

end Carries

end ManagementUnit
