import ManagementUnit.Proofs.Session.Paths
import ManagementUnit.Proofs.Simulation.Parts

/-!
# The independence of the request paths

With the scripted driver, whatever faults are to come, a request goes by its path's part of the
driver and changes no other. So two requests on different paths can change places, and what a run of
requests tells on a path is what it would tell without the requests on the others.

* `perform_agree`, `agree_perform` — what a request depends on, and what it leaves alone.
* `performAll_agree` — the same along a run.
* `requests_independent` — both consequences for all reachable sessions.
-/

namespace ManagementUnit.Session

open Dialogue Simulation

variable {part : Option RequestPath} {session : Session} {step : Step} {path : RequestPath}
  {one other state : Scripted}

/-! ### Single requests -/

theorem perform_next (asks : step.requestPath? = some path) (state : Scripted) :
    ((session.perform step).run Scripted.driver state).value.2 = session :=
  (Performs.of_produces (produces_run Scripted.driver (session.perform step) state)).next_eq asks

/-- What a request tells depends on its part of the driver, and so does what it makes of it. -/
theorem perform_agree (consistent : session.Consistent) (asks : step.requestPath? = some path)
    (agree : Scripted.Agree (some path) one other) :
    ((session.perform step).run Scripted.driver one).value =
        ((session.perform step).run Scripted.driver other).value ∧
      Scripted.Agree (some path) ((session.perform step).run Scripted.driver one).state
        ((session.perform step).run Scripted.driver other).state := by
  obtain ⟨produced, answers⟩ := run_spec Scripted.driver (session.perform step) one
  have within := (Performs.of_produces produced).within consistent asks
  obtain ⟨final, answered, agreed⟩ := Scripted.answers_agree within answers agree
  rw [run_eq_iff.mpr ⟨produced, answered⟩]
  exact ⟨rfl, agreed⟩

/-- A request leaves every other part of the driver alone. -/
theorem agree_perform (consistent : session.Consistent) (asks : step.requestPath? = some path)
    (apart : some path ≠ part) (state : Scripted) :
    Scripted.Agree part state ((session.perform step).run Scripted.driver state).state := by
  obtain ⟨produced, answers⟩ := run_spec Scripted.driver (session.perform step) state
  have within := (Performs.of_produces produced).within consistent asks
  exact Scripted.agree_of_answers within apart answers

/-! ### Runs of several requests -/

theorem performAll_run_cons (asks : step.requestPath? = some path) (steps : List Step)
    (state : Scripted) :
    (session.performAll (step :: steps)).run Scripted.driver state =
      let first := (session.perform step).run Scripted.driver state
      let rest := (session.performAll steps).run Scripted.driver first.state
      ⟨(first.value.1 :: rest.value.1, rest.value.2), rest.state, first.trace ++ rest.trace⟩ := by
  rw [performAll, run_bind]
  dsimp only
  rw [run_bind, perform_next asks]
  simp [run]

theorem performAll_run_pair {one other : Step} {path way : RequestPath}
    (asks : one.requestPath? = some path) (also : other.requestPath? = some way)
    (state : Scripted) :
    (session.performAll [one, other]).run Scripted.driver state =
      let first := (session.perform one).run Scripted.driver state
      let second := (session.perform other).run Scripted.driver first.state
      ⟨([first.value.1, second.value.1], session), second.state, first.trace ++ second.trace⟩ := by
  rw [performAll_run_cons asks]
  dsimp only
  rw [performAll_run_cons also]
  simp [performAll, run]

/-- In either order two requests tell the same, and leave the same session and driver. -/
structure Commutes (session : Session) (state : Scripted) (one other : Step) : Prop where
  value_eq : ∃ first second,
    ((session.performAll [one, other]).run Scripted.driver state).value =
        ([first, second], session) ∧
      ((session.performAll [other, one]).run Scripted.driver state).value =
        ([second, first], session)
  state_eq : ((session.performAll [one, other]).run Scripted.driver state).state =
    ((session.performAll [other, one]).run Scripted.driver state).state

/-- Each step decides its result by its own part of the driver and leaves the other's alone, so both
orders come to the same state. -/
theorem Consistent.commutes (consistent : session.Consistent) {one other : Step}
    {path way : RequestPath} (asks : one.requestPath? = some path)
    (also : other.requestPath? = some way) (apart : path ≠ way) (state : Scripted) :
    session.Commutes state one other := by
  have foreign : some path ≠ some way := fun same => apart (Option.some.inj same)
  -- What each request leaves of the driver as it is, after the other request or without it.
  have kept := agree_perform consistent asks foreign
  have left := agree_perform consistent also foreign.symm
  obtain ⟨second, followed⟩ := perform_agree consistent also (kept state).symm
  obtain ⟨first, preceded⟩ := perform_agree consistent asks (left state).symm
  constructor
  · refine ⟨((session.perform one).run Scripted.driver state).value.1,
      ((session.perform other).run Scripted.driver state).value.1, ?_, ?_⟩
    · rw [performAll_run_pair asks also]
      dsimp only
      rw [second]
    · rw [performAll_run_pair also asks]
      dsimp only
      rw [first]
  · rw [performAll_run_pair asks also, performAll_run_pair also asks]
    -- No part of the driver is touched by both requests.
    refine Scripted.eq_of_agree fun part => ?_
    by_cases own : some path = part
    · subst own
      exact (left _).symm.trans preceded.symm
    · by_cases its : some way = part
      · subst its
        exact followed.trans (kept _)
      · have through := agree_perform consistent asks own
        have past := agree_perform consistent also its
        exact ((through _).trans (past _)).symm.trans ((past _).trans (through _))

/-- The results of the requests on a path. -/
def resultsOn (path : RequestPath) (steps : List Step) (results : List Result) : List Result :=
  ((steps.zip results).filter fun told => told.1.requestPath? = some path).map Prod.snd

/-- What a run of requests tells on a path depends on the requests on it and on its part of the
driver, and so does what the run makes of that part. -/
theorem performAll_agree (consistent : session.Consistent) {steps : List Step}
    (requests : ∀ step ∈ steps, step.requestPath? ≠ none)
    (agree : Scripted.Agree (some path) one other) :
    resultsOn path steps ((session.performAll steps).run Scripted.driver one).value.1 =
        ((session.performAll (steps.filter fun step => step.requestPath? = some path)).run
          Scripted.driver other).value.1 ∧
      Scripted.Agree (some path) ((session.performAll steps).run Scripted.driver one).state
        ((session.performAll (steps.filter fun step => step.requestPath? = some path)).run
          Scripted.driver other).state := by
  -- Step by step the two runs agree on the path's part: either both take the step, or only one does
  -- and leaves that part alone.
  induction steps generalizing one other with
  | nil => exact ⟨rfl, agree⟩
  | cons step steps ih =>
      obtain ⟨request, requests⟩ := List.forall_mem_cons.mp requests
      obtain ⟨way, asks⟩ := Option.ne_none_iff_exists'.mp request
      rw [performAll_run_cons asks]
      by_cases own : step.requestPath? = some path
      · obtain ⟨same, after⟩ := perform_agree consistent own agree
        obtain ⟨results, agreed⟩ := ih requests after
        rw [List.filter_cons_of_pos (by simpa using own), performAll_run_cons own]
        refine ⟨?_, agreed⟩
        dsimp only
        rw [← results, ← same]
        simp [resultsOn, own]
      · have foreign : some way ≠ some path := asks ▸ own
        obtain ⟨results, agreed⟩ :=
          ih requests ((agree_perform consistent asks foreign one).symm.trans agree)
        rw [List.filter_cons_of_neg (by simpa using own)]
        refine ⟨?_, agreed⟩
        dsimp only
        rw [← results]
        simp [resultsOn, own]

/-- Requests on different paths can change places, and what a run of requests tells on a path is
what the requests on that path tell alone. -/
theorem requests_independent (reachable : session.Reachable) (state : Scripted) :
    (∀ one other path way, one.requestPath? = some path → other.requestPath? = some way →
      path ≠ way → session.Commutes state one other) ∧
    ∀ steps, (∀ step ∈ steps, step.requestPath? ≠ none) → ∀ path,
      resultsOn path steps ((session.performAll steps).run Scripted.driver state).value.1 =
        ((session.performAll (steps.filter fun step => step.requestPath? = some path)).run
          Scripted.driver state).value.1 := by
  have consistent := reachable.consistent
  constructor
  · intro one other path way asks also apart
    exact consistent.commutes asks also apart state
  · intro steps requests path
    exact (performAll_agree consistent requests .rfl).1

/-- A driver with a fault to come on each path. -/
def troubled : Scripted :=
  [.setFile .pmTable [1, 2, 3, 4, 5, 6, 7, 8], .addFaults .pmTable .read [.short 3],
    .addFaults .smuCmd .write [.fail (.kind .timedOut)],
    .addFaults .smn .write [.none, .short 1]].foldl Scripted.apply .initial

/-- Requests on all three paths, of which some fail. -/
def mixed : List Step :=
  [.writeRegister 5 7, .readTable 8, .readRegister 5, .execute 3 (.single 1), .takeSnapshot,
    .execute 4 (.single 2), .readRegister 5]

theorem requests_independent_troubled :
    complete.Reachable ∧
      complete.Commutes troubled (.execute 3 (.single 1)) (.readTable 8) ∧
      (∀ step ∈ mixed, step.requestPath? ≠ none) ∧
      resultsOn .registers mixed
          ((complete.performAll mixed).run Scripted.driver troubled).value.1 =
        ((complete.performAll [.writeRegister 5 7, .readRegister 5, .readRegister 5]).run
          Scripted.driver troubled).value.1 ∧
      ((complete.performAll mixed).run Scripted.driver troubled).value.1.map
          (fun result => result.status.isOk) =
        [true, false, false, false, true, true, true] := by
  obtain ⟨commutes, apart⟩ := requests_independent reachable_complete troubled
  have requests : ∀ step ∈ mixed, step.requestPath? ≠ none := by decide
  exact ⟨reachable_complete, commutes _ _ .commands .table rfl rfl (by decide), requests,
    apart mixed requests .registers, by decide +kernel⟩

end ManagementUnit.Session
