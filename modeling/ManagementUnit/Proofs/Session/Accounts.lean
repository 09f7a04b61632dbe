import ManagementUnit.Proofs.Session.Custody

/-!
# No channel is lost

What a run opened it has closed, but for the channels that its session holds, and nothing is closed
twice. A session that is given up, whether by disconnecting, by connecting anew, by being replaced
or by being released, closes what it holds in the order of the bits.

* `Consistent.accounted` — the channels that are open at the end of a run, and the accounts of
  everything before.
* `Performs.relinquishes` — what becomes of the held channels in a step.
* `run_accounted` — both for all runs from nothing.
-/

namespace ManagementUnit

open Dialogue

/-- The files of the channels in a set, by increasing bit. -/
def ChannelSet.nodes (set : ChannelSet) : List Node :=
  ([(Node.smn, smn), (.smuCmd, smuCmd), (.smuArgs, smuArgs), (.pmTable, pmTable)].filter
    fun (_, channel) => set.contains channel).map Prod.fst

namespace Session

variable {session next : Session} {past trace : Trace}

/-! ### What is open -/

theorem nodes_channels (session : Session) :
    session.channels.nodes =
      (if session.smn.isSome then [.smn] else []) ++
        (if session.smuCmd.isSome then [.smuCmd] else []) ++
        (if session.smuArgs.isSome then [.smuArgs] else []) ++
        (if session.pmTable.isSome then [.pmTable] else []) := by
  unfold channels
  cases session.smn.isSome <;> cases session.smuCmd.isSome <;> cases session.smuArgs.isSome <;>
    cases session.pmTable.isSome <;> decide

/-- The handles of a session are those of its channels, in the same order. -/
theorem Consistent.map_node_handles (consistent : session.Consistent) :
    session.handles.map Handle.node = session.channels.nodes := by
  have place (node : Node) (channel : Option Handle) (holds : session.held node = channel) :
      channel.toList.map Handle.node = if channel.isSome then [node] else [] := by
    cases channel with
    | none => rfl
    | some handle => simp [consistent.node_of_held holds]
  simp only [handles, List.map_append, nodes_channels]
  rw [place .smn session.smn rfl, place .smuCmd session.smuCmd rfl,
    place .smuArgs session.smuArgs rfl, place .pmTable session.pmTable rfl]

/-- The accounts of a run that left a session. The files that are open are the channels that the
session holds, one for each bit of the set that it shows and each of its own file, and no
descriptive file is among them. At all times, what was opened is what was closed and what is open
still. -/
structure Accounted (past : Trace) (session : Session) : Prop where
  held : past.openAfter [] = session.handles
  nodes : (past.openAfter []).map Handle.node = session.channels.nodes
  undescribed : ∀ handle ∈ past.openAfter [], handle.node ∉ Node.descriptive
  balanced : ∀ before : Trace, before <+: past →
    before.opened.Perm (before.closed ++ before.openAfter [])

/-- Custody gives the balance of the whole run, and of each of its fronts. -/
theorem Consistent.accounted (consistent : session.Consistent)
    (carries : Carries [] past session.handles) : Accounted past session where
  held := carries.left
  nodes := by rw [carries.left, consistent.map_node_handles]
  undescribed := by
    rw [carries.left]
    intro handle
    exact consistent.not_mem_descriptive
  balanced := by
    rintro before ⟨after, rfl⟩
    have lawful := (Trace.obeys_append_iff.mp (carries.lawful [] rfl)).1
    have balanced := Trace.opened_perm lawful
    rwa [Trace.openAfter_nil, List.append_nil, List.nil_append] at balanced

/-! ### What is closed -/

/-- What a step closes of the channels that are held before it. A connection closes them before it
opens the first file, and closes nothing else but what it opens itself. Disconnecting closes them
and does nothing else, and so does putting a new session into the place of the old one, without a
word. After either of the two everything that was ever opened is closed, once, and disconnecting
once more does nothing at all. -/
structure Relinquishes (past : Trace) (session : Session) (step : Step) (trace : Trace)
    (next : Session) : Prop where
  connect : step = .connect → ∃ (reply : Except IoError Nat) (rest : Trace),
    trace = session.farewell ++ session.closings ++ ⟨.acquire .version .readOnly, reply⟩ :: rest ∧
    (Trace.opened (⟨.acquire .version .readOnly, reply⟩ :: rest)).Perm
      (rest.closed ++ next.handles)
  disconnect : step = .disconnect → trace = session.farewell ++ session.closings ∧ next = zero
  renew : step = .renew → trace = session.closings ∧ next = zero
  settled : step = .disconnect ∨ step = .renew →
    (past ++ trace).openAfter [] = [] ∧ (past ++ trace).opened.Perm (past ++ trace).closed
  again : step = .disconnect → ∀ trace result last,
    (next.perform .disconnect).Produces trace (result, last) → trace = [] ∧ last = next

/-- A connection begins with the version. -/
theorem Connects.exists_cons {status : Except Error Unit} (connects : Connects trace status next) :
    ∃ (reply : Except IoError Nat) (rest : Trace),
      trace = ⟨.acquire .version .readOnly, reply⟩ :: rest := by
  obtain ⟨error, detects, -⟩ |
    ⟨detecting, opening, announcing, capabilities, opened, rfl, detects, -⟩ :=
    connects.filled_cases
  · exact (Capabilities.Detects.of_produces detects).exists_cons
  · obtain ⟨reply, rest, rfl⟩ := (Capabilities.Detects.of_produces detects).exists_cons
    exact ⟨reply, _, rfl⟩

/-- A session that is given up leaves nothing open. -/
theorem settled_of_carries {closing : Trace} (carries : Carries [] past session.handles)
    (closes : Carries session.handles closing []) :
    (past ++ closing).openAfter [] = [] ∧
      (past ++ closing).opened.Perm (past ++ closing).closed := by
  have all := carries.append closes
  have balanced := all.opened_perm
  rw [List.append_nil] at balanced
  exact ⟨all.left, balanced⟩

/-- The traces of the three steps that give channels up are known outright; the rest is the balance
of openings and closings. -/
theorem Performs.relinquishes {step : Step} {result : Result} (consistent : session.Consistent)
    (carries : Carries [] past session.handles)
    (performs : session.Performs step trace result next) :
    Relinquishes past session step trace next where
  connect := by
    rintro rfl
    obtain ⟨status, rest, connects, rfl⟩ := performs.of_connect
    have balanced := connects.carries.opened_perm
    obtain ⟨reply, rest, rfl⟩ := connects.exists_cons
    exact ⟨reply, rest, rfl, balanced⟩
  disconnect := by
    rintro rfl
    exact performs.of_disconnect
  renew := by
    rintro rfl
    exact performs.of_renew
  settled := by
    intro given
    have left : next = zero := by
      rcases given with rfl | rfl
      · exact performs.of_disconnect.2
      · exact performs.of_renew.2
    subst left
    exact settled_of_carries carries (consistent.carries_perform performs)
  again := by
    rintro rfl trace result last produced
    obtain ⟨-, rfl⟩ := performs.of_disconnect
    exact (Performs.of_produces produced).of_disconnect

/-- Whatever the driver replies and wherever connections break off, the open channels are those that
the session holds. Every way of giving the session up closes them, once. -/
theorem run_accounted {steps : List Step} {results : List Result}
    (ran : (zero.performAll steps).Produces past (results, session)) :
    Accounted past session ∧
    (∀ step trace result next, (session.perform step).Produces trace (result, next) →
      Relinquishes past session step trace next) ∧
    ∀ closing result, session.release.Produces closing result →
      closing = session.closings ∧ (past ++ closing).openAfter [] = [] ∧
        (past ++ closing).opened.Perm (past ++ closing).closed := by
  have consistent := Consistent.zero.performAll ran
  have carries : Carries [] past session.handles := Consistent.zero.carries_performAll ran
  refine ⟨consistent.accounted carries, ?_, ?_⟩
  · intro step trace result next produced
    exact (Performs.of_produces produced).relinquishes consistent carries
  · intro closing result released
    obtain rfl := produces_release_iff.mp released
    exact ⟨rfl, settled_of_carries carries (.closeAll session.handles)⟩

/-- Two connections of a client, of which the second breaks off at the power table. -/
def brokenOff : Outcome Simulation.Recorder (List Result × Session) :=
  (zero.performAll [.connect, .connect]).run Simulation.Recorder.driver
    (Simulation.Recorder.initial.apply (.removeFile .pmTable))

theorem run_accounted_brokenOff :
    (brokenOff.trace.opened.length = 14 ∧ brokenOff.trace.closed.length = 11 ∧
      (brokenOff.trace.openAfter []).map Handle.node = [.smn, .smuCmd, .smuArgs]) ∧
      Accounted brokenOff.trace brokenOff.value.2 := by
  have ran : (zero.performAll [.connect, .connect]).Produces brokenOff.trace
      (brokenOff.value.1, brokenOff.value.2) := produces_run _ _ _
  exact ⟨by decide +kernel, (run_accounted ran).1⟩

end Session

end ManagementUnit
