import ManagementUnit.Proofs.ArgumentBlock
import ManagementUnit.Proofs.Session.Custody
import ManagementUnit.Proofs.Session.Outgoing

/-!
# What a step transfers

Every step has an itinerary, the transfers that it makes if nothing goes wrong. It makes no others
and none of them twice: whatever goes wrong, it gives up there. The lengths of the transfers are
those of the files, and only that of the power table is learnt from the driver.

* `Consistent.transfers_isPrefix` — a step keeps to its itinerary.
* `Fetches.after_select` — what follows after a register was selected.
* `run_disciplined` — the rules of all runs, for what is held, transferred and written.
-/

namespace ManagementUnit

open Dialogue

/-! ### Transfers -/

/-- A transfer, with the length of the block that is to be moved. -/
inductive Transfer where
  | read (node : Node) (length : Nat)
  | write (node : Node) (length : Nat)
deriving DecidableEq, Repr

/-- The transfer that an action is. -/
def Action.transfer? : Action → Option Transfer
  | .read handle limit => some (.read handle.node limit)
  | .write handle bytes => some (.write handle.node bytes.length)
  | _ => none

/-- The transfers of a trace, in order. -/
def Trace.transfers (trace : Trace) : List Transfer :=
  trace.filterMap fun event => event.action.transfer?

namespace Trace

@[simp] theorem transfers_append (first rest : Trace) :
    transfers (first ++ rest) = transfers first ++ transfers rest :=
  List.filterMap_append

/-- Only calls are transfers. -/
theorem transfers_calls (trace : Trace) : transfers (calls trace) = transfers trace := by
  unfold transfers calls
  rw [List.filterMap_filter]
  congr 1
  funext event
  obtain ⟨action, reply⟩ := event
  cases action <;> rfl

theorem transfers_eq_filterMap_map (trace : Trace) :
    transfers trace = (trace.map Event.action).filterMap Action.transfer? := by
  rw [List.filterMap_map]
  rfl

end Trace

/-- The transfers of a trace are planned, and are all that were planned if it is done. -/
structure Covers (plan : List Transfer) (trace : Trace) (done : Bool) : Prop where
  isPrefix : trace.transfers <+: plan
  whole : done = true → trace.transfers = plan

namespace Covers

variable {plan more : List Transfer} {first rest trace : Trace} {done : Bool}

theorem append (before : Covers plan first true) (after : Covers more rest done) :
    Covers (plan ++ more) (first ++ rest) done where
  isPrefix := by
    rw [Trace.transfers_append, before.whole rfl]
    exact (List.prefix_append_right_inj plan).mpr after.isPrefix
  whole := by
    intro completed
    rw [Trace.transfers_append, before.whole rfl, after.whole completed]

theorem append_of_stopped (covers : Covers plan trace done) (more : List Transfer) :
    Covers (plan ++ more) trace false where
  isPrefix := covers.isPrefix.trans (List.prefix_append plan more)
  whole := nofun

/-- A script plans the transfers that are among its calls. -/
theorem of_follows {good : Event → Prop} {script : List Action}
    (follows : Trace.Follows good script trace.calls done) :
    Covers (script.filterMap Action.transfer?) trace done where
  isPrefix := by
    rw [← Trace.transfers_calls, Trace.transfers_eq_filterMap_map]
    exact follows.actions_isPrefix.filterMap _
  whole := by
    intro completed
    rw [← Trace.transfers_calls, Trace.transfers_eq_filterMap_map,
      (follows.finished_iff.mp completed).1]

end Covers

variable {trace : Trace}

/-! ### Detection -/

theorem Handle.ReadsSome.covers {handle : Handle} {limit : Nat} {result : Except Error Bytes}
    (reads : handle.ReadsSome limit trace result) :
    Covers [.read handle.node limit] trace result.isOk := by
  cases reads with
  | rewindFailed reason => exact ⟨List.nil_prefix, nofun⟩
  | failed reason => exact ⟨List.prefix_rfl, fun _ => rfl⟩
  | delivered bytes => exact ⟨List.prefix_rfl, fun _ => rfl⟩

namespace Capabilities

theorem transfers_visit (node : Node) (serial : Nat) (inside : Trace) :
    (visit node serial inside).transfers = inside.transfers := by
  change Trace.transfers (inside ++ [⟨.close ⟨node, serial⟩, ()⟩]) = inside.transfers
  rw [Trace.transfers_append]
  exact List.append_nil _

theorem covers_visit {node : Node} {serial : Nat} {inside : Trace} {plan : List Transfer}
    {done : Bool} (covers : Covers plan inside done) :
    Covers plan (visit node serial inside) done := by
  constructor
  · rw [transfers_visit]
    exact covers.isPrefix
  · rw [transfers_visit]
    exact covers.whole

theorem Describes.covers {α : Type} {node : Node} {limit : Nat} {parse : Bytes → Except Error α}
    {malformed : Bytes → Notice} {result : Except Error α}
    (describes : Describes node limit parse malformed trace result) :
    Covers [.read node limit] trace result.isOk := by
  cases describes with
  | absent reason => exact ⟨List.nil_prefix, nofun⟩
  | unread serial reads => exact covers_visit reads.covers
  | @malformed serial reading text error reads refused =>
      have quiet : Covers [] [⟨.note (malformed text), ()⟩] false := ⟨List.nil_prefix, nofun⟩
      exact covers_visit (reads.covers.append quiet)
  | described serial reads parsed => exact covers_visit reads.covers

theorem DescribesTable.transfers_isPrefix {result : Except Error PowerTable.Info}
    (describes : DescribesTable trace result) :
    trace.transfers <+: [.read .pmTableVersion 4, .read .pmTableSize 4] := by
  have visited {node : Node} {serial : Nat} {inside : Trace} {delivery : Delivery}
      (fills : Handle.Fills ⟨node, serial⟩ 4 inside delivery) :
      Covers [.read node 4] (visit node serial inside) delivery.status.isOk :=
    covers_visit (.of_follows fills.follows)
  cases describes with
  | absent reason => exact List.nil_prefix
  | versionUnread serial reads => exact ((visited reads).append_of_stopped _).isPrefix
  | sizeAbsent serial reason reads =>
      have quiet : Covers [.read .pmTableSize 4]
          [⟨.acquire .pmTableSize Node.pmTableSize.access, .error reason⟩,
            ⟨.note (.tableSizeMissing reason), ()⟩] false := ⟨List.nil_prefix, nofun⟩
      exact ((visited reads).append quiet).isPrefix
  | sizeUnread serial next reads sizes | described serial next reads sizes =>
      exact ((visited reads).append (visited sizes)).isPrefix

/-- The transfers of a detection. -/
def itinerary : List Transfer :=
  [.read .version 12, .read .codename 3, .read .pmTableVersion 4, .read .pmTableSize 4]

theorem Detects.transfers_isPrefix {result : Except Error Capabilities}
    (detects : Detects trace result) : trace.transfers <+: itinerary := by
  cases detects with
  | unversioned versions => exact (versions.covers.append_of_stopped _).isPrefix
  | unnamed versions names =>
      exact ((versions.covers.append names.covers).append_of_stopped _).isPrefix
  | untabled versions names tables | detected versions names tables =>
      have read := (versions.covers.append names.covers).whole rfl
      rw [Trace.transfers_append, read]
      exact (List.prefix_append_right_inj _).mpr tables.transfers_isPrefix

end Capabilities

namespace Session

variable {session next : Session}

/-! ### Steps -/

/-- The transfers of a step that nothing interrupts. -/
def itinerary (session : Session) : Step → List Transfer
  | .connect | .detect => Capabilities.itinerary
  | .disconnect | .renew => []
  | .readRegister _ => [.write .smn 4, .read .smn 4]
  | .writeRegister _ _ => [.write .smn 8]
  | .execute _ _ => [.write .smuArgs 24, .write .smuCmd 4, .read .smuCmd 4, .read .smuArgs 24]
  | .readTable _ | .takeSnapshot => [.read .pmTable session.capabilities.table.length]

theorem nodup_itinerary (session : Session) (step : Step) : (session.itinerary step).Nodup := by
  cases step <;> simp [itinerary, Capabilities.itinerary]

theorem transfers_closings (session : Session) :
    (session.farewell ++ session.closings).transfers = [] := by
  have silent : session.farewell.transfers = [] := by
    unfold farewell
    split <;> rfl
  have closed (handles : List Handle) :
      Trace.transfers (handles.map fun handle => ⟨.close handle, ()⟩) = [] := by
    induction handles with
    | nil => rfl
    | cons handle handles ih => exact ih
  rw [Trace.transfers_append, silent]
  exact closed session.handles

theorem Opens.transfers_eq {nodes : List Node} {opened : List Handle} {status : Except Error Unit}
    (opens : Opens nodes trace opened status) : trace.transfers = [] := by
  induction opens with
  | finished => rfl
  | refused node nodes reason => rfl
  | opened serial rest ih => exact ih

theorem Connects.transfers_isPrefix {status : Except Error Unit}
    (connects : Connects trace status next) : trace.transfers <+: Capabilities.itinerary := by
  obtain ⟨error, detects, -⟩ |
    ⟨detecting, opening, announcing, capabilities, opened, rfl, detects, opens, announced, -⟩ :=
    connects.filled_cases
  · exact (Capabilities.Detects.of_produces detects).transfers_isPrefix
  · have silent : announcing.transfers = [] := by
      rcases announced with rfl | rfl <;> rfl
    rw [Trace.transfers_append, Trace.transfers_append, opens.transfers_eq, silent,
      List.append_nil, List.append_nil]
    exact (Capabilities.Detects.of_produces detects).transfers_isPrefix

/-- The calls of a register that is read without any interruption. -/
def fetchScript (smn : Handle) (address : UInt32) : List Action :=
  [.rewind smn, .write smn (RegisterRequest.select address), .rewind smn, .read smn 4]

theorem Fetches.follows {smn : Handle} {address : UInt32} {result : Except Error UInt32}
    (fetches : Fetches smn address trace result) :
    Trace.Follows Event.Whole (fetchScript smn address) trace.calls result.isOk := by
  cases fetches with
  | unselected selects => exact selects.follows.append_of_stopped _
  | unread selects reads | fetched selects reads =>
      rw [Trace.calls_append]
      exact selects.follows.append reads.follows

/-- A step makes the transfers of its itinerary, in order and up to some point. -/
theorem Consistent.transfers_isPrefix {step : Step} {result : Result}
    (consistent : session.Consistent) (performs : session.Performs step trace result next) :
    trace.transfers <+: session.itinerary step := by
  have own (node : Node) {handle : Handle} (holds : session.held node = some handle) :=
    consistent.node_of_held holds
  cases performs with
  | connect connects =>
      rw [Trace.transfers_append, transfers_closings, List.nil_append]
      exact connects.transfers_isPrefix
  | disconnect =>
      rw [transfers_closings]
      exact List.nil_prefix
  | renew =>
      have quiet := transfers_closings session
      rw [Trace.transfers_append, List.append_eq_nil_iff] at quiet
      rw [quiet.2]
      exact List.nil_prefix
  | detect detects => exact detects.transfers_isPrefix
  | readRegister isOpen fetches =>
      have planned := (Covers.of_follows fetches.follows).isPrefix
      simp only [fetchScript, List.filterMap_cons, List.filterMap_nil, Action.transfer?,
        own .smn isOpen] at planned
      exact planned
  | writeRegister isOpen writes =>
      have planned := (Covers.of_follows writes.follows).isPrefix
      simp only [List.filterMap_cons, List.filterMap_nil, Action.transfer?,
        own .smn isOpen] at planned
      exact planned
  | execute command arguing exchanges =>
      have distinct := consistent.smuCmd_ne_smuArgs command arguing
      have planned := (Covers.of_follows (exchanges.follows distinct)).isPrefix
      simp only [exchangeScript, List.filterMap_cons, List.filterMap_nil, Action.transfer?,
        own .smuCmd command, own .smuArgs arguing, ArgumentBlock.length_encode] at planned
      exact planned
  | readTable isOpen fills | takeSnapshot supported isOpen fills =>
      have planned := (Covers.of_follows fills.follows).isPrefix
      simp only [List.filterMap_cons, List.filterMap_nil, Action.transfer?,
        own .pmTable isOpen] at planned
      exact planned
  | refused refuses => exact List.nil_prefix

/-- A register that was selected is read at most once, after one rewind. -/
theorem Fetches.after_select {smn handle : Handle} {address : UInt32}
    {result : Except Error UInt32} {bytes : Bytes} {before after : Trace}
    (fetches : Fetches smn address trace result)
    (selected : trace.calls = before ++ ⟨.write handle bytes, .ok bytes.length⟩ :: after) :
    after.map Event.action = [.rewind handle] ∨
      after.map Event.action = [.rewind handle, .read handle 4] := by
  have follows := fetches.follows
  rw [selected] at follows
  obtain ⟨tail, split, rest⟩ := follows.exists_of_good rfl
  -- The script has only one write, so what follows it in the script is known.
  have place : handle = smn ∧ tail = [.rewind smn, .read smn 4] := by
    unfold fetchScript at split
    generalize before.map Event.action = made at split
    rcases made with _ | ⟨first, _ | ⟨second, _ | ⟨third, _ | ⟨fourth, made⟩⟩⟩⟩
    · cases split
    · cases split
      exact ⟨rfl, rfl⟩
    · cases split
    · cases split
    · simp at split
  obtain ⟨rfl, rfl⟩ := place
  have some : after ≠ [] := rest.ne_nil (List.cons_ne_nil _ _)
  have begins := rest.actions_isPrefix
  rcases after with _ | ⟨first, _ | ⟨second, after⟩⟩
  · exact absurd rfl some
  · obtain ⟨same, -⟩ := List.cons_prefix_cons.mp begins
    exact Or.inl (congrArg (fun action => [action]) same)
  · obtain ⟨same, later⟩ := List.cons_prefix_cons.mp begins
    obtain ⟨also, none⟩ := List.cons_prefix_cons.mp later
    refine Or.inr ?_
    rw [List.map_cons, List.map_cons, same, also, List.prefix_nil.mp none]

/-- How a step transfers: the transfers are the first few of the itinerary, and none is made again.
After a register was selected, its file is repositioned once and read at most once, and that is all.
-/
structure Frugal (session : Session) (step : Step) (trace : Trace) : Prop where
  in_order : trace.transfers <+: session.itinerary step
  once : trace.transfers.Nodup
  after_select : ∀ before handle bytes after,
    trace.calls = before ++ ⟨.write handle bytes, .ok bytes.length⟩ :: after →
    handle.node = .smn → bytes.length = 4 →
      after.map Event.action = [.rewind handle] ∨
        after.map Event.action = [.rewind handle, .read handle 4]

/-- By its length, a block of four bytes on the register channel selects a register, so what follows
it is the rest of that register's reading. -/
theorem Consistent.frugal {step : Step} {result : Result} (consistent : session.Consistent)
    (produced : (session.perform step).Produces trace (result, next)) :
    session.Frugal step trace := by
  have performs := Performs.of_produces produced
  have planned := consistent.transfers_isPrefix performs
  refine ⟨planned, (nodup_itinerary session step).sublist planned.sublist, ?_⟩
  intro before handle bytes after split register four
  have called : ⟨.write handle bytes, .ok bytes.length⟩ ∈ trace.calls := by
    rw [split]
    exact List.mem_append_right _ List.mem_cons_self
  have outgoing := outgoing_of_mem produced (List.mem_filter.mp called).1
  generalize written : bytes = block at outgoing
  -- By its length the block is an address, so the step reads a register.
  cases outgoing with
  | select held address =>
      cases performs with
      | readRegister isOpen fetches => exact fetches.after_select split
      | refused refuses => cases called
  | store held address value =>
      subst written
      cases four
  | opcode held opcode arguments =>
      cases (consistent.sound.own_file .smuCmd handle held).symm.trans register
  | arguments held opcode arguments =>
      cases (consistent.sound.own_file .smuArgs handle held).symm.trans register

/-! ### Runs -/

/-- What is known of a file that is written to: it is one of the registers, it was opened for
writing, and it was never opened for reading only. -/
structure Writable (past before : Trace) (handle : Handle) : Prop where
  register : handle.node ∈ [.smn, .smuCmd, .smuArgs]
  opened : ⟨.acquire handle.node .readWrite, .ok handle.serial⟩ ∈ before
  never_read_only : ∀ reply : Except IoError Nat, ⟨.acquire handle.node .readOnly, reply⟩ ∉ past

/-- A client that minds its files opens each in its own mode, and writes only what is open. -/
theorem writable_of_obeys {past before after : Trace} {handle : Handle} {bytes : Bytes}
    {reply : Except IoError Nat} (lawful : Trace.Obeys Trace.Permits [] past)
    (split : past = before ++ ⟨.write handle bytes, reply⟩ :: after) :
    Writable past before handle := by
  have own_mode {node : Node} {access : Access} {reply : Except IoError Nat}
      (member : ⟨.acquire node access, reply⟩ ∈ past) : access = node.access := by
    obtain ⟨earlier, later, rfl⟩ := List.append_of_mem member
    exact lawful earlier _ later rfl
  obtain ⟨held, -, writable⟩ := lawful before _ after split
  constructor
  · cases node : handle.node <;> rw [node] at writable <;> simp_all [Node.access]
  · rcases Trace.mem_of_mem_openAfter held with impossible | ⟨access, member⟩
    · cases impossible
    · have opened : ⟨.acquire handle.node access, .ok handle.serial⟩ ∈ past := by
        rw [split]
        exact List.mem_append_left _ member
      rwa [own_mode opened, writable] at member
  · intro reply member
    cases (own_mode member).trans writable

/-- Whatever the driver replies, a run uses only what it holds and transfers only after a rewind. It
writes only to registers, and no step transfers more than its itinerary. -/
theorem run_disciplined {steps : List Step} {results : List Result} {past : Trace}
    (ran : (zero.performAll steps).Produces past (results, session)) :
    Trace.Obeys Trace.Permits [] past ∧
    (∀ before handle bytes (reply : Except IoError Nat) after,
      past = before ++ ⟨.write handle bytes, reply⟩ :: after → Writable past before handle) ∧
    ∀ step trace result next, (session.perform step).Produces trace (result, next) →
      session.Frugal step trace := by
  have lawful := (Consistent.zero.carries_performAll ran).lawful [] rfl
  refine ⟨lawful, fun _ _ _ _ _ => writable_of_obeys lawful, ?_⟩
  intro step trace result next
  exact (Consistent.zero.performAll ran).frugal

/-- A client that reads a register and writes it. -/
def guided : Outcome Simulation.Recorder (List Result × Session) :=
  (zero.performAll [.connect, .readRegister 80, .writeRegister 80 7]).run Simulation.Recorder.driver
    Simulation.Recorder.initial

theorem run_disciplined_guided :
    guided.trace.transfers = Capabilities.itinerary ++
        [.write .smn 4, .read .smn 4, .write .smn 8] ∧
      Trace.Obeys Trace.Permits [] guided.trace :=
  ⟨by decide +kernel, (run_disciplined (produces_run Simulation.Recorder.driver
    (zero.performAll [.connect, .readRegister 80, .writeRegister 80 7]) _)).1⟩

end Session

end ManagementUnit
