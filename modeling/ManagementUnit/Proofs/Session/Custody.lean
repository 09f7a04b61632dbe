import ManagementUnit.Proofs.Detection.Custody
import ManagementUnit.Proofs.Session.Invariant
import ManagementUnit.Proofs.Session.Steps

/-!
# Custody of a session's channels

Requests leave the channels open that they use, and a connection leaves open what it puts into the
session. So the channels that a run leaves open are those that its session holds.

* `Session.Connects.filled_cases` — a connection ends with a filled session or with a zero one.
* `Session.Consistent.carries_perform`, `Session.Consistent.carries_performAll` — what a step and
  what a run leave open.
-/

namespace ManagementUnit

open Dialogue

variable {handles : List Handle} {trace : Trace}

namespace Session

variable {session next : Session}

/-! ### Connections -/

/-- What was opened stays open, also if a later file is refused. -/
theorem Opens.carries {nodes : List Node} {opened : List Handle} {status : Except Error Unit}
    (opens : Opens nodes trace opened status) (handles : List Handle) :
    Carries handles trace (handles ++ opened) := by
  induction opens generalizing handles with
  | finished =>
      rw [List.append_nil]
      exact .nil handles
  | refused node nodes reason =>
      rw [List.append_nil]
      exact (Carries.acquire_error handles node reason).append (.note _ _)
  | @opened node nodes trace opened status serial rest ih =>
      rw [List.append_cons]
      exact (Carries.acquire_ok handles node serial).append (ih _)

/-- A session holds the handles that it was filled with. -/
theorem handles_filled {capabilities : Capabilities} {opened : List Handle}
    (ordered : opened.map Handle.node <+: requestNodes capabilities) :
    (filled capabilities opened).handles = opened := by
  have few := (ordered.trans (requestNodes_isPrefix capabilities)).length_le
  rw [List.length_map] at few
  rw [filled_eq ordered]
  rcases opened with _ | ⟨first, _ | ⟨second, _ | ⟨third, _ | ⟨fourth, rest⟩⟩⟩⟩
  · rfl
  · rfl
  · rfl
  · rfl
  · simp only [List.length_cons, List.length_nil] at few
    obtain rfl : rest = [] := List.eq_nil_of_length_eq_zero (by omega)
    rfl

/-- A connection detects no capabilities, or fills its session with what it opens. -/
theorem Connects.filled_cases {status : Except Error Unit} (connects : Connects trace status next) :
    (∃ error, Capabilities.detect.run.Produces trace (.error error) ∧ status = .error error ∧
        next = zero) ∨
      ∃ detecting opening announcing capabilities opened,
        trace = detecting ++ (opening ++ announcing) ∧
        Capabilities.detect.run.Produces detecting (.ok capabilities) ∧
        Opens (requestNodes capabilities) opening opened status ∧
        (announcing = [] ∨ announcing = announcement capabilities) ∧
        next = filled capabilities opened := by
  cases connects with
  | undetected detects => exact Or.inl ⟨_, detects, rfl, rfl⟩
  | @refused detecting opening capabilities opened error detects opens =>
      have missing : opened.map Handle.node ≠ requestNodes capabilities := by
        intro all
        cases opens.status_eq_ok_iff.mpr all
      refine Or.inr ⟨_, opening, [], _, opened, ?_, detects, opens, Or.inl rfl, ?_⟩
      · rw [List.append_nil]
      · rw [filled_of_missing missing]
  | @ready detecting opening capabilities opened detects opens =>
      refine Or.inr ⟨_, opening, _, _, opened, List.append_assoc .., detects, opens, Or.inr rfl, ?_⟩
      rw [filled, decide_eq_true (opens.status_eq_ok_iff.mp rfl)]

/-- A connection leaves open what its session holds. -/
theorem Connects.carries {status : Except Error Unit} (connects : Connects trace status next) :
    Carries [] trace next.handles := by
  have detected {trace : Trace} {result : Except Error Capabilities}
      (detects : Capabilities.detect.run.Produces trace result) : Carries [] trace [] :=
    (Capabilities.Detects.of_produces detects).carries (by simp)
  obtain ⟨error, detects, rfl, rfl⟩ |
    ⟨detecting, opening, announcing, capabilities, opened, rfl, detects, opens, announced, rfl⟩ :=
    connects.filled_cases
  · exact detected detects
  · have silent : Carries opened announcing opened := by
      rcases announced with rfl | rfl
      · exact .nil opened
      · exact (Carries.note _ _).append (.note _ _)
    rw [handles_filled opens.nodes_isPrefix]
    exact (detected detects).append ((opens.carries []).append silent)

/-! ### Steps -/

/-- The handles of a session are those that it holds in their places. -/
theorem Consistent.held_of_mem_handles {handle : Handle} (consistent : session.Consistent)
    (member : handle ∈ session.handles) : session.held handle.node = some handle := by
  have place (node : Node) (holds : session.held node = some handle) :
      session.held handle.node = some handle := by
    rwa [consistent.node_of_held holds]
  simp only [handles, List.mem_append, Option.mem_toList] at member
  rcases member with ((holds | holds) | holds) | holds
  · exact place .smn holds
  · exact place .smuCmd holds
  · exact place .smuArgs holds
  · exact place .pmTable holds

theorem mem_handles_of_held (node : Node) {handle : Handle}
    (holds : session.held node = some handle) : handle ∈ session.handles := by
  simp only [handles, List.mem_append, Option.mem_toList]
  cases node <;> simp_all [held]

/-- No session holds a descriptive file. -/
theorem Consistent.not_mem_descriptive {handle : Handle} (consistent : session.Consistent)
    (member : handle ∈ session.handles) : handle.node ∉ Node.descriptive := by
  intro descriptive
  have holds := consistent.held_of_mem_handles member
  simp only [Node.descriptive, List.mem_cons, List.not_mem_nil, or_false] at descriptive
  rcases descriptive with same | same | same | same
  all_goals
    rw [same] at holds
    cases holds

theorem Consistent.writable_of_held (consistent : session.Consistent) (node : Node)
    {handle : Handle} (holds : session.held node = some handle)
    (writable : node.access = .readWrite) : handle.node.access = .readWrite := by
  rwa [consistent.node_of_held holds]

theorem carries_farewell (session : Session) :
    Carries session.handles session.farewell session.handles := by
  unfold farewell
  split
  · exact .nil _
  · exact .note _ _

/-! ### Requests -/

theorem Fetches.carries {smn : Handle} {address : UInt32} {result : Except Error UInt32}
    (fetches : Fetches smn address trace result) (member : smn ∈ handles)
    (writable : smn.node.access = .readWrite) : Carries handles trace handles := by
  cases fetches with
  | unselected selects => exact selects.carries member writable
  | unread selects reads | fetched selects reads =>
      exact (selects.carries member writable).append (reads.carries member)

/-- A command opens and closes nothing, and acts on the two channels that it was given. -/
theorem Exchanges.carries {smuCmd smuArgs : Handle} {opcode : UInt32} {arguments : ArgumentBlock}
    {result : Except Error ArgumentBlock}
    (exchanges : Exchanges smuCmd smuArgs opcode arguments trace result)
    (command : smuCmd ∈ handles) (commandWritable : smuCmd.node.access = .readWrite)
    (arguing : smuArgs ∈ handles) (argumentsWritable : smuArgs.node.access = .readWrite) :
    Carries handles trace handles := by
  have begun {beginning} (begins : Begins smuCmd smuArgs opcode arguments beginning) :
      Carries handles beginning handles := by
    cases begins with
    | begun sends starts =>
        exact (sends.carries arguing argumentsWritable).append
          (starts.carries command commandWritable)
  cases exchanges with
  | unsent sends => exact sends.carries arguing argumentsWritable
  | unstarted sends starts =>
      exact (sends.carries arguing argumentsWritable).append
        (starts.carries command commandWritable)
  | unreported begins reports => exact (begun begins).append (reports.carries command)
  | refused begins reports refusal =>
      exact ((begun begins).append (reports.carries command)).append (.note _ _)
  | unanswered begins reports success answers | answered begins reports success answers =>
      exact ((begun begins).append (reports.carries command)).append (answers.carries arguing)

/-- A step leaves open what its session holds after it. -/
theorem Consistent.carries_perform {step : Step} {result : Result} (consistent : session.Consistent)
    (performs : session.Performs step trace result next) :
    Carries session.handles trace next.handles := by
  cases performs with
  | connect connects =>
      exact ((carries_farewell session).append (.closeAll session.handles)).append connects.carries
  | disconnect => exact (carries_farewell session).append (.closeAll session.handles)
  | renew => exact .closeAll session.handles
  | detect detects => exact detects.carries fun _ => consistent.not_mem_descriptive
  | readRegister isOpen fetches =>
      exact fetches.carries (mem_handles_of_held .smn isOpen)
        (consistent.writable_of_held .smn isOpen rfl)
  | writeRegister isOpen writes =>
      exact writes.carries (mem_handles_of_held .smn isOpen)
        (consistent.writable_of_held .smn isOpen rfl)
  | execute command arguing exchanges =>
      exact exchanges.carries (mem_handles_of_held .smuCmd command)
        (consistent.writable_of_held .smuCmd command rfl)
        (mem_handles_of_held .smuArgs arguing) (consistent.writable_of_held .smuArgs arguing rfl)
  | readTable isOpen fills | takeSnapshot supported isOpen fills =>
      exact fills.carries (mem_handles_of_held .pmTable isOpen)
  | refused refuses => exact .nil _

/-- A run leaves open what its last session holds. -/
theorem Consistent.carries_performAll {steps : List Step} {results : List Result}
    (consistent : session.Consistent)
    (produced : (session.performAll steps).Produces trace (results, next)) :
    Carries session.handles trace next.handles := by
  -- Consistency is what each step needs of its session and keeps, so the steps can be put together.
  induction steps generalizing session trace results with
  | nil =>
      obtain ⟨rfl, same⟩ := produces_done_iff.mp produced
      cases same
      exact .nil _
  | cons step steps ih =>
      obtain ⟨first, rest, result, middle, others, rfl, -, performed, performedAll⟩ :=
        exists_of_produces_performAll_cons produced
      exact (consistent.carries_perform (.of_produces performed)).append
        (ih (consistent.perform performed) performedAll)

end Session

end ManagementUnit
