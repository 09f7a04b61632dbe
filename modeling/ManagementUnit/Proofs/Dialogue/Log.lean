import ManagementUnit.Dialogue.Trace

/-!
# What a log tells

A client logs every transfer that was completed, and it logs why it failed. `Logged` is that
relation between a trace and what came of it: the trace notices are those due for its calls, and a
complaint is made exactly if there is a failure, once and as the last word. Like the attempts that
log, it is put together from parts.

Two notices below the level of information are no complaints: that channels are about to be closed,
and that a driver has no power table. Both need an occasion.

* `Logged.append`, `Logged.append_silent` — one part after another.
* `Logged.complaints_eq`, `Logged.exists_complaint` — what success and failure tell.
-/

namespace ManagementUnit

/-- The notice tells of a failure. -/
def Notice.complains : Notice → Bool
  | .closing .. | .tableUndescribed .. => false
  | notice => notice.level = .debug || notice.level = .warn

/-- A complaint is of one of two levels. -/
theorem Notice.level_of_complains {notice : Notice} (complaint : notice.complains = true) :
    notice.level = .debug ∨ notice.level = .warn := by
  cases notice <;> first | exact Or.inl rfl | exact Or.inr rfl | cases complaint

/-- There is an occasion for a notice that is no complaint: the channels are those that the client
is about to close, or the version file of the power table could not be opened. -/
def Notice.Occasioned (closed : Option ChannelSet) (trace : Trace) : Notice → Prop
  | .closing channels => closed = some channels
  | .tableUndescribed reason =>
    ⟨.acquire .pmTableVersion Node.pmTableVersion.access, .error reason⟩ ∈ trace
  | _ => True

namespace Notice.Occasioned

variable {closed : Option ChannelSet} {trace other : Trace} {notice : Notice}

theorem mono (occasioned : notice.Occasioned closed trace) (more : trace ⊆ other) :
    notice.Occasioned closed other := by
  cases notice with
  | tableUndescribed reason => exact more occasioned
  | _ => exact occasioned

theorem of_complains (complaint : notice.complains = true) : notice.Occasioned closed trace := by
  cases notice with
  | closing channels | tableUndescribed reason => cases complaint
  | _ => exact trivial

end Notice.Occasioned

/-- Which way bytes go between a client and a file. -/
inductive Way where
  | outward
  | inward
deriving DecidableEq, Repr

/-- Bytes that went between a client and a file. -/
structure Movement where
  node : Node
  way : Way
  bytes : Bytes
deriving DecidableEq, Repr

/-- The notice that is due for a movement. -/
def Movement.notice : Movement → Notice
  | ⟨node, .outward, bytes⟩ => .wrote node bytes
  | ⟨node, .inward, bytes⟩ => .delivered node bytes

/-- What a call has moved: a block that was written in full, or whatever a read delivered. -/
def Event.movement? : Event → Option Movement
  | ⟨.write handle bytes, .ok count⟩ =>
    if count = bytes.length then some ⟨handle.node, .outward, bytes⟩ else none
  | ⟨.read handle _, .ok bytes⟩ => some ⟨handle.node, .inward, bytes⟩
  | _ => none

namespace Trace

variable {trace first rest : Trace} {level : Level}

/-- The notices of a level. -/
def ofLevel (level : Level) (trace : Trace) : List Notice :=
  trace.notices.filter fun notice => notice.level = level

/-- The notices that tell of a failure. -/
def complaints (trace : Trace) : List Notice :=
  trace.notices.filter Notice.complains

/-- What the calls of a trace have moved, in order. -/
def movements (trace : Trace) : List Movement :=
  trace.filterMap Event.movement?

/-- The notices that are due for the calls of a trace. -/
def traced (trace : Trace) : List Notice :=
  trace.movements.map Movement.notice

@[simp] theorem notices_append (first rest : Trace) :
    notices (first ++ rest) = notices first ++ notices rest :=
  List.filterMap_append

@[simp] theorem ofLevel_append (first rest : Trace) :
    ofLevel level (first ++ rest) = ofLevel level first ++ ofLevel level rest := by
  simp only [ofLevel, notices_append, List.filter_append]

@[simp] theorem complaints_append (first rest : Trace) :
    complaints (first ++ rest) = complaints first ++ complaints rest := by
  simp only [complaints, notices_append, List.filter_append]

@[simp] theorem traced_append (first rest : Trace) :
    traced (first ++ rest) = traced first ++ traced rest := by
  rw [traced, movements, List.filterMap_append, List.map_append]
  rfl

theorem ofLevel_note_of_ne {notice : Notice} (other : notice.level ≠ level) :
    ofLevel level [⟨.note notice, ()⟩] = [] := by
  simp [ofLevel, notices, Event.notice?, other]

/-- Nothing is logged, and nothing is due. -/
structure Silent (trace : Trace) : Prop where
  notices_eq : trace.notices = []
  traced_eq : trace.traced = []

namespace Silent

theorem nil : Silent [] :=
  ⟨rfl, rfl⟩

theorem ofLevel_eq (silent : trace.Silent) (level : Level) : trace.ofLevel level = [] := by
  rw [ofLevel, silent.notices_eq, List.filter_nil]

theorem complaints_eq (silent : trace.Silent) : trace.complaints = [] := by
  rw [complaints, silent.notices_eq, List.filter_nil]

theorem append (one : first.Silent) (other : rest.Silent) : (first ++ rest).Silent := by
  constructor
  · rw [notices_append, one.notices_eq, other.notices_eq, List.append_nil]
  · rw [traced_append, one.traced_eq, other.traced_eq, List.append_nil]

end Silent

/-- Closing files is silent. -/
theorem silent_close (handles : List Handle) :
    Silent (handles.map fun handle => ⟨.close handle, ()⟩) := by
  constructor
  · induction handles with
    | nil => rfl
    | cons handle handles ih => exact ih
  · induction handles with
    | nil => rfl
    | cons handle handles ih => exact ih

/-- Opening a file is silent while it succeeds. -/
theorem silent_acquire (node : Node) (access : Access) (serial : Nat) :
    Silent [⟨.acquire node access, .ok serial⟩] :=
  ⟨rfl, rfl⟩

end Trace

/-- The complaints among notices: none after a success, one after a failure, and that at the end. -/
inductive Reported : List Notice → Except Error Unit → Prop where
  | quiet {notices : List Notice} (quiet : notices.filter Notice.complains = []) :
      Reported notices (.ok ())
  | complained {earlier : List Notice} {notice : Notice} {error : Error}
      (quiet : earlier.filter Notice.complains = []) (complaint : notice.complains = true) :
      Reported (earlier ++ [notice]) (.error error)

namespace Reported

variable {first rest notices : List Notice} {status : Except Error Unit}

theorem quiet_of_ok (reported : Reported notices (.ok ())) :
    notices.filter Notice.complains = [] := by
  cases reported with
  | quiet quiet => exact quiet

/-- What is quiet may come before. -/
theorem append (before : first.filter Notice.complains = []) (reported : Reported rest status) :
    Reported (first ++ rest) status := by
  cases reported with
  | quiet quiet =>
      refine .quiet ?_
      rw [List.filter_append, before, quiet, List.append_nil]
  | complained quiet complaint =>
      rw [← List.append_assoc]
      refine .complained ?_ complaint
      rw [List.filter_append, before, quiet, List.append_nil]

theorem exists_complaint {error : Error} (reported : Reported notices (.error error)) :
    ∃ notice, notices.filter Notice.complains = [notice] ∧ notices.getLast? = some notice := by
  cases reported with
  | @complained earlier notice error quiet complaint =>
      refine ⟨notice, ?_, List.getLast?_concat⟩
      rw [List.filter_append, quiet, List.nil_append, List.filter_cons_of_pos complaint,
        List.filter_nil]

end Reported

/-- The log of a trace tells what came of it, and nothing for information: every completed transfer
is logged in order, a failure is logged once and as the last word, and what is no complaint has an
occasion. The channels are those that the client is about to close, if there are any. -/
structure Logged (closed : Option ChannelSet) (trace : Trace) (status : Except Error Unit) :
    Prop where
  traced : trace.ofLevel .trace = trace.traced
  reported : Reported trace.notices status
  occasioned : ∀ notice ∈ trace.notices, notice.Occasioned closed trace
  uninformed : trace.ofLevel .info = []

namespace Logged

variable {closed : Option ChannelSet} {trace first rest : Trace} {status : Except Error Unit}

theorem complaints_eq (logged : Logged closed trace (.ok ())) : trace.complaints = [] :=
  logged.reported.quiet_of_ok

theorem exists_complaint {error : Error} (logged : Logged closed trace (.error error)) :
    ∃ notice, trace.complaints = [notice] ∧ trace.notices.getLast? = some notice :=
  logged.reported.exists_complaint

/-- After a part that succeeded the next one decides. -/
theorem append (before : Logged closed first (.ok ())) (after : Logged closed rest status) :
    Logged closed (first ++ rest) status where
  traced := by rw [Trace.ofLevel_append, Trace.traced_append, before.traced, after.traced]
  reported := by
    rw [Trace.notices_append]
    exact after.reported.append before.complaints_eq
  occasioned := by
    intro notice member
    rw [Trace.notices_append] at member
    rcases List.mem_append.mp member with member | member
    · exact (before.occasioned notice member).mono (List.subset_append_left _ _)
    · exact (after.occasioned notice member).mono (List.subset_append_right _ _)
  uninformed := by rw [Trace.ofLevel_append, before.uninformed, after.uninformed, List.append_nil]

/-- What is silent decides nothing. -/
theorem append_silent (before : Logged closed first status) (silent : rest.Silent) :
    Logged closed (first ++ rest) status where
  traced := by
    rw [Trace.ofLevel_append, Trace.traced_append, before.traced, silent.ofLevel_eq,
      silent.traced_eq]
  reported := by
    rw [Trace.notices_append, silent.notices_eq, List.append_nil]
    exact before.reported
  occasioned := by
    intro notice member
    rw [Trace.notices_append, silent.notices_eq, List.append_nil] at member
    exact (before.occasioned notice member).mono (List.subset_append_left _ _)
  uninformed := by
    rw [Trace.ofLevel_append, before.uninformed, silent.ofLevel_eq, List.append_nil]

theorem of_silent (silent : trace.Silent) : Logged closed trace (.ok ()) where
  traced := by rw [silent.ofLevel_eq, silent.traced_eq]
  reported := .quiet silent.complaints_eq
  occasioned := by
    rw [silent.notices_eq]
    exact List.forall_mem_nil _
  uninformed := silent.ofLevel_eq .info

/-- Where nothing was completed, a complaint is all there is to log. -/
theorem of_complaint {notice : Notice} (silent : trace.Silent) (complaint : notice.complains = true)
    (error : Error) : Logged closed (trace ++ [⟨.note notice, ()⟩]) (.error error) where
  traced := by
    have other : notice.level ≠ .trace := by
      rcases Notice.level_of_complains complaint with same | same <;> simp [same]
    rw [Trace.ofLevel_append, Trace.traced_append, silent.ofLevel_eq, silent.traced_eq]
    exact Trace.ofLevel_note_of_ne other
  reported := by
    rw [Trace.notices_append, silent.notices_eq]
    exact .complained rfl complaint
  occasioned := by
    rw [Trace.notices_append, silent.notices_eq]
    exact List.forall_mem_singleton.mpr (.of_complains complaint)
  uninformed := by
    have other : notice.level ≠ .info := by
      rcases Notice.level_of_complains complaint with same | same <;> simp [same]
    rw [Trace.ofLevel_append, silent.ofLevel_eq, Trace.ofLevel_note_of_ne other, List.append_nil]

end Logged

end ManagementUnit
