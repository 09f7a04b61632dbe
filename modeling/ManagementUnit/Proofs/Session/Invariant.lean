import ManagementUnit.Proofs.Session.Connection
import ManagementUnit.Simulation.Recorder

/-!
# What every session looks like

A session is zero or was filled by a connection: it has detected capabilities, and the open channels
are the first few of those that the platform has. It is ready exactly if none of them is missing.
This is kept by every step, whatever the driver replies, so it holds of all sessions that a run can
leave, however many of its connections broke off and wherever they did.

* `Consistent.perform`, `Consistent.performAll` — what a step and what a run keeps.
* `Reachable.consistent` — the invariant of all reachable sessions.
* `reachable_sound` — the same in terms of what a session shows.
-/

namespace ManagementUnit.Session

open Dialogue

/-- The session of a connection that detected `capabilities` and opened `handles`. -/
def filled (capabilities : Capabilities) (handles : List Handle) : Session :=
  { handles.foldl hold { zero with capabilities } with
    ready := decide (handles.map Handle.node = requestNodes capabilities) }

/-- The sessions that a client can come to hold: nothing is known and nothing is open, or a
connection filled the session and may have broken off after the last of `handles`. -/
inductive Consistent : Session → Prop where
  | zero : Consistent zero
  | filled {capabilities : Capabilities} {handles : List Handle} (detected : capabilities.Detected)
      (opened : handles.map Handle.node <+: requestNodes capabilities) :
      Consistent (filled capabilities handles)

theorem ready_hold (session : Session) (handle : Handle) :
    (session.hold handle).ready = session.ready := by
  unfold hold
  split <;> rfl

theorem ready_foldl_hold (handles : List Handle) (session : Session) :
    (handles.foldl hold session).ready = session.ready := by
  induction handles generalizing session with
  | nil => rfl
  | cons handle handles ih => rw [List.foldl_cons, ih, ready_hold]

theorem filled_of_missing {capabilities : Capabilities} {handles : List Handle}
    (missing : handles.map Handle.node ≠ requestNodes capabilities) :
    filled capabilities handles = handles.foldl hold { zero with capabilities } := by
  have unready : (handles.foldl hold { zero with capabilities }).ready = false :=
    ready_foldl_hold handles _
  unfold filled
  rw [decide_eq_false missing, ← unready]

section Kept

variable {session next : Session} {trace : Trace}

/-- A connection leaves a consistent session, whatever it started from. -/
theorem Connects.consistent {status : Except Error Unit} (connects : Connects trace status next) :
    next.Consistent := by
  cases connects with
  | undetected detects => exact .zero
  | @refused _ _ capabilities handles error detects opens =>
      have missing : handles.map Handle.node ≠ requestNodes capabilities := by
        intro all
        cases opens.status_eq_ok_iff.mpr all
      rw [← filled_of_missing missing]
      exact .filled (Capabilities.detected_of_produces_detect detects) opens.nodes_isPrefix
  | @ready _ _ capabilities handles detects opens =>
      have all := opens.status_eq_ok_iff.mp rfl
      have consistent := Consistent.filled (Capabilities.detected_of_produces_detect detects)
        opens.nodes_isPrefix
      unfold filled at consistent
      rwa [decide_eq_true all] at consistent

theorem Consistent.perform {step : Step} {result : Result} (consistent : session.Consistent)
    (produced : (session.perform step).Produces trace (result, next)) : next.Consistent := by
  rcases produces_perform_cases produced with ⟨-, status, connected⟩ | rfl | rfl
  · obtain ⟨rest, -, connects⟩ := produces_connect_iff.mp connected
    exact connects.consistent
  · exact .zero
  · exact consistent

/-- Each step of a run starts from a consistent session and leaves one. -/
theorem Consistent.performAll {steps : List Step} {results : List Result}
    (consistent : session.Consistent)
    (produced : (session.performAll steps).Produces trace (results, next)) : next.Consistent := by
  induction steps generalizing session trace results with
  | nil =>
      obtain ⟨-, same⟩ := produces_done_iff.mp produced
      cases same
      exact consistent
  | cons step steps ih =>
      obtain ⟨first, rest, ⟨result, middle⟩, -, performed, after⟩ := produces_bind_iff.mp produced
      obtain ⟨⟨results, last⟩, performedAll, same⟩ := produces_bind_done_iff.mp after
      cases same
      exact ih (consistent.perform performed) performedAll

/-- Every session that a run leaves is consistent. -/
theorem Reachable.consistent (reachable : session.Reachable) : session.Consistent := by
  obtain ⟨steps, trace, results, produced⟩ := reachable
  exact Consistent.zero.performAll produced

end Kept

/-- What a run against a driver leaves can be reached. -/
theorem reachable_run {σ : Type} (driver : Driver σ) (state : σ) (steps : List Step) :
    ((zero.performAll steps).run driver state).value.2.Reachable :=
  ⟨steps, _, _, produces_run driver (zero.performAll steps) state⟩

/-! ### What a session shows -/

/-- The open channel of a file. -/
def held (session : Session) : Node → Option Handle
  | .smn => session.smn
  | .smuCmd => session.smuCmd
  | .smuArgs => session.smuArgs
  | .pmTable => session.pmTable
  | _ => none

/-- What a session shows of the way it was filled. The open channels are the first few in the order
of their bits, each of its own file. A session without a family is zero; any other has a family of a
number from one to ten, and a version of three bytes.

A ready session has the channels of registers, commands and arguments. The power table is open on
ready sessions of platforms that have one, and nowhere else; so if only the power table is missing,
it is one that the platform has. -/
structure Sound (session : Session) : Prop where
  in_order : session.channels.names <+: ["SMN", "SMU_CMD", "SMU_ARGS", "PM_TABLE"]
  own_file : ∀ node handle, session.held node = some handle → handle.node = node
  zero_of_undefined : session.capabilities.codename = .undefined → session = zero
  detected_of_defined : session.capabilities.codename ≠ .undefined →
    session.capabilities.codename ∈ Codename.families ∧
      1 ≤ session.capabilities.codename.number ∧ session.capabilities.codename.number ≤ 10 ∧
      session.capabilities.version.ShortMinor
  required_of_ready : session.ready = true → session.channels.contains .required = true
  table_iff : session.channels.contains .pmTable = true ↔
    session.ready = true ∧ session.tableSupported = true
  supported_of_required : session.channels.contains .required = true → session.ready = false →
    session.tableSupported = true

theorem length_requestNodes (capabilities : Capabilities) :
    (requestNodes capabilities).length = if capabilities.table.supported then 4 else 3 := by
  unfold requestNodes
  split <;> rfl

theorem requestNodes_isPrefix (capabilities : Capabilities) :
    requestNodes capabilities <+: [.smn, .smuCmd, .smuArgs, .pmTable] := by
  unfold requestNodes
  split <;> decide

/-- The channels are opened into their places one after the other. -/
theorem filled_eq {capabilities : Capabilities} {handles : List Handle}
    (opened : handles.map Handle.node <+: requestNodes capabilities) :
    filled capabilities handles =
      ⟨capabilities, handles[0]?, handles[1]?, handles[2]?, handles[3]?,
        decide (handles.length = (requestNodes capabilities).length)⟩ := by
  have all : handles.map Handle.node = requestNodes capabilities ↔
      handles.length = (requestNodes capabilities).length := by
    rw [← List.length_map Handle.node]
    exact ⟨congrArg List.length, opened.eq_of_length⟩
  -- There are four request channels at most, so the handles can be gone through one by one.
  have ordered := opened.trans (requestNodes_isPrefix capabilities)
  unfold filled
  simp only [all]
  rcases handles with _ | ⟨⟨first, a⟩, _ | ⟨⟨second, b⟩, _ | ⟨⟨third, c⟩, _ | ⟨⟨fourth, d⟩, rest⟩⟩⟩⟩
  all_goals simp only [List.map_cons, List.map_nil, List.cons_prefix_cons] at ordered
  · rfl
  · obtain ⟨rfl, -⟩ := ordered
    rfl
  · obtain ⟨rfl, rfl, -⟩ := ordered
    rfl
  · obtain ⟨rfl, rfl, rfl, -⟩ := ordered
    rfl
  · obtain ⟨rfl, rfl, rfl, rfl, none⟩ := ordered
    rw [List.map_eq_nil_iff.mp (List.prefix_nil.mp none)]
    rfl

/-- The names of the open channels. -/
theorem names_channels (session : Session) :
    session.channels.names =
      (if session.smn.isSome then ["SMN"] else []) ++
        (if session.smuCmd.isSome then ["SMU_CMD"] else []) ++
        (if session.smuArgs.isSome then ["SMU_ARGS"] else []) ++
        (if session.pmTable.isSome then ["PM_TABLE"] else []) := by
  unfold channels
  cases session.smn.isSome <;> cases session.smuCmd.isSome <;> cases session.smuArgs.isSome <;>
    cases session.pmTable.isSome <;> decide

theorem contains_required_channels (session : Session) :
    session.channels.contains .required =
      (session.smn.isSome && session.smuCmd.isSome && session.smuArgs.isSome) := by
  unfold channels
  cases session.smn.isSome <;> cases session.smuCmd.isSome <;> cases session.smuArgs.isSome <;>
    cases session.pmTable.isSome <;> rfl

theorem contains_pmTable_channels (session : Session) :
    session.channels.contains .pmTable = session.pmTable.isSome := by
  unfold channels
  cases session.smn.isSome <;> cases session.smuCmd.isSome <;> cases session.smuArgs.isSome <;>
    cases session.pmTable.isSome <;> rfl

theorem names_channels_isPrefix {capabilities : Capabilities} {handles : List Handle}
    (opened : handles.map Handle.node <+: requestNodes capabilities) :
    (filled capabilities handles).channels.names <+:
      ["SMN", "SMU_CMD", "SMU_ARGS", "PM_TABLE"] := by
  rw [names_channels, filled_eq opened]
  rcases handles with _ | ⟨first, _ | ⟨second, _ | ⟨third, _ | ⟨fourth, rest⟩⟩⟩⟩ <;> simp

/-- The place of a channel is that of its file in the order of opening. -/
theorem node_of_held_filled {capabilities : Capabilities} {handles : List Handle}
    (opened : handles.map Handle.node <+: requestNodes capabilities) {node : Node} {handle : Handle}
    (holds : (filled capabilities handles).held node = some handle) : handle.node = node := by
  have ordered := List.prefix_iff_getElem?.mp (opened.trans (requestNodes_isPrefix capabilities))
  have place : ∀ index : Nat, handles[index]? = some handle →
      [Node.smn, .smuCmd, .smuArgs, .pmTable][index]? = some handle.node := by
    intro index found
    obtain ⟨inside, rfl⟩ := List.getElem?_eq_some_iff.mp found
    rw [ordered index (by rwa [List.length_map]), List.getElem_map]
  rw [filled_eq opened] at holds
  cases node with
  | smn => exact (Option.some.inj (place 0 holds)).symm
  | smuCmd => exact (Option.some.inj (place 1 holds)).symm
  | smuArgs => exact (Option.some.inj (place 2 holds)).symm
  | pmTable => exact (Option.some.inj (place 3 holds)).symm
  | version | codename | pmTableVersion | pmTableSize => cases holds

/-- A filled session shows a bit for each file that was opened, in their order, so the number of
handles decides everything about its channels. -/
theorem Consistent.sound {session : Session} (consistent : session.Consistent) : session.Sound := by
  cases consistent with
  | zero =>
      exact {
        in_order := by decide
        own_file := by intro node handle holds; cases node <;> cases holds
        zero_of_undefined := fun _ => rfl
        detected_of_defined := fun defined => absurd rfl defined
        required_of_ready := by decide
        table_iff := by decide
        supported_of_required := by decide }
  | @filled capabilities handles detected opened =>
      have family := detected.family
      have bound := opened.length_le
      rw [List.length_map, length_requestNodes] at bound
      have kept := filled_eq opened
      exact {
        in_order := names_channels_isPrefix opened
        own_file := fun _ _ => node_of_held_filled opened
        zero_of_undefined := by
          rw [kept]
          intro undefined
          exact absurd (undefined ▸ family) Codename.undefined_not_mem_families
        detected_of_defined := by
          rw [kept]
          intro _
          obtain ⟨lower, upper⟩ := Codename.number_of_mem_families family
          exact ⟨family, lower, upper, detected.version⟩
        required_of_ready := by
          rw [contains_required_channels, kept]
          simp [length_requestNodes]
          grind
        table_iff := by
          rw [contains_pmTable_channels, kept]
          simp [length_requestNodes, tableSupported]
          grind
        supported_of_required := by
          rw [contains_required_channels, kept]
          simp [length_requestNodes, tableSupported]
          grind }

theorem Consistent.node_of_held {session : Session} {node : Node} {handle : Handle}
    (consistent : session.Consistent) (holds : session.held node = some handle) :
    handle.node = node :=
  consistent.sound.own_file node handle holds

theorem Consistent.smuCmd_ne_smuArgs {session : Session} {smuCmd smuArgs : Handle}
    (consistent : session.Consistent) (command : session.smuCmd = some smuCmd)
    (arguing : session.smuArgs = some smuArgs) : smuCmd ≠ smuArgs := by
  rintro rfl
  have one : smuCmd.node = .smuCmd := consistent.node_of_held command
  have other : smuCmd.node = .smuArgs := consistent.node_of_held arguing
  cases one.symm.trans other

/-- Every session that a run leaves is sound. -/
theorem reachable_sound {session : Session} (reachable : session.Reachable) : session.Sound :=
  reachable.consistent.sound

/-- A session whose connection broke off at the power table. -/
def unfinished : Session where
  capabilities := ⟨.ofParts 46 54 0, .matisse, ⟨0x240903, 0x7E4⟩⟩
  smn := some ⟨.smn, 16⟩
  smuCmd := some ⟨.smuCmd, 17⟩
  smuArgs := some ⟨.smuArgs, 18⟩
  pmTable := none
  ready := false

theorem reachable_unfinished : unfinished.Reachable := by
  have left : ((zero.performAll [.connect]).run Simulation.Recorder.driver
      (Simulation.Recorder.initial.apply (.removeFile .pmTable))).value.2 = unfinished := by
    decide +kernel
  rw [← left]
  exact reachable_run Simulation.Recorder.driver _ [.connect]

theorem reachable_sound_unfinished : unfinished.Reachable ∧ unfinished.Sound :=
  ⟨reachable_unfinished, reachable_sound reachable_unfinished⟩

/-- A session that was connected, with a power table of eight bytes. -/
def complete : Session where
  capabilities := ⟨.ofParts 46 54 0, .matisse, ⟨0x240903, 8⟩⟩
  smn := some ⟨.smn, 16⟩
  smuCmd := some ⟨.smuCmd, 17⟩
  smuArgs := some ⟨.smuArgs, 18⟩
  pmTable := some ⟨.pmTable, 19⟩
  ready := true

theorem reachable_complete : complete.Reachable := by
  have left : ((zero.performAll [.connect]).run Simulation.Recorder.driver
      (Simulation.Recorder.initial.apply (.setFile .pmTableSize (Word.encode 8)))).value.2 =
        complete := by
    decide +kernel
  rw [← left]
  exact reachable_run Simulation.Recorder.driver _ [.connect]

end ManagementUnit.Session
