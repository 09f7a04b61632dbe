import ManagementUnit.Proofs.Detection
import ManagementUnit.Session.Step

/-!
# What the steps of a session can lead through

A connection closes what the session held, detects the capabilities and opens the request channels
one after the other. It can end at each of these stages, and the session keeps what was done before
the end. Every other step leaves the session as it is or makes it zero.

* `produces_openChannels_iff`, `produces_connect_iff` — the ways in which a connection goes.
* `produces_perform_cases` — what a step can make of a session.
-/

namespace ManagementUnit.Session

open Dialogue

variable {session next : Session} {trace : Trace}

/-! ### Opening and closing channels -/

/-- The ways in which opening channels goes, with the handles that were opened: up to the first file
that cannot be opened, or until there is no file left. -/
inductive Opens : List Node → Trace → List Handle → Except Error Unit → Prop where
  | finished : Opens [] [] [] (.ok ())
  | refused (node : Node) (nodes : List Node) (reason : IoError) :
      Opens (node :: nodes)
        [⟨.acquire node node.access, .error reason⟩, ⟨.note (.channelRefused node reason), ()⟩]
        [] (.error .transferFailed)
  | opened {node : Node} {nodes : List Node} {trace : Trace} {handles : List Handle}
      {status : Except Error Unit} (serial : Nat) (rest : Opens nodes trace handles status) :
      Opens (node :: nodes) (⟨.acquire node node.access, .ok serial⟩ :: trace)
        (⟨node, serial⟩ :: handles) status

/-- Opening channels goes in one of the ways that `Opens` lists, and the session holds what was
opened. -/
theorem produces_openChannels_iff {nodes : List Node} {status : Except Error Unit} :
    (openChannels nodes session).Produces trace (status, next) ↔
      ∃ handles, Opens nodes trace handles status ∧ next = handles.foldl hold session := by
  induction nodes generalizing session trace with
  | nil =>
      unfold openChannels
      rw [pure_eq_done, produces_done_iff]
      constructor
      · rintro ⟨rfl, same⟩
        cases same
        exact ⟨[], .finished, rfl⟩
      · rintro ⟨handles, opens, rfl⟩
        cases opens
        exact ⟨rfl, rfl⟩
  | cons node nodes ih =>
      unfold openChannels
      rw [Node.acquire, produces_bind_iff]
      constructor
      · rintro ⟨first, rest, result, rfl, acquired, after⟩
        obtain ⟨reply, rfl, rfl⟩ := produces_acquire_iff.mp acquired
        cases reply with
        | ok serial =>
            obtain ⟨handles, opens, rfl⟩ := ih.mp after
            exact ⟨⟨node, serial⟩ :: handles, .opened serial opens, rfl⟩
        | error reason =>
            obtain ⟨done, note, same⟩ := produces_bind_done_iff.mp after
            cases same
            rw [produces_note_iff.mp note]
            exact ⟨[], .refused node nodes reason, rfl⟩
      · rintro ⟨handles, opens, rfl⟩
        cases opens with
        | refused node nodes reason =>
            exact ⟨_, _, .error reason, rfl, produces_acquire_iff.mpr ⟨_, rfl, rfl⟩,
              produces_bind_done_iff.mpr ⟨(), produces_note_iff.mpr rfl, rfl⟩⟩
        | opened serial rest =>
            exact ⟨_, _, .ok ⟨node, serial⟩, rfl, produces_acquire_iff.mpr ⟨.ok serial, rfl, rfl⟩,
              ih.mpr ⟨_, rest, rfl⟩⟩

theorem Opens.nodes_isPrefix {nodes : List Node} {handles : List Handle}
    {status : Except Error Unit} (opens : Opens nodes trace handles status) :
    handles.map Handle.node <+: nodes := by
  induction opens with
  | finished => exact List.prefix_rfl
  | refused node nodes reason => exact List.nil_prefix
  | opened serial rest ih => exact List.cons_prefix_cons.mpr ⟨rfl, ih⟩

/-- All channels are open exactly if none was refused. -/
theorem Opens.status_eq_ok_iff {nodes : List Node} {handles : List Handle}
    {status : Except Error Unit} (opens : Opens nodes trace handles status) :
    status = .ok () ↔ handles.map Handle.node = nodes := by
  induction opens with
  | finished => exact ⟨fun _ => rfl, fun _ => rfl⟩
  | refused node nodes reason =>
      constructor
      · intro impossible
        cases impossible
      · intro impossible
        cases impossible
  | opened serial rest ih =>
      rw [ih, List.map_cons, List.cons.injEq]
      exact ⟨fun same => ⟨rfl, same⟩, And.right⟩

theorem produces_release_iff {result : Unit} :
    session.release.Produces trace result ↔
      trace = session.handles.map fun handle => ⟨.close handle, ()⟩ :=
  produces_closeAll_iff

/-- What is logged before the channels are closed: nothing if there are none. -/
def farewell (session : Session) : Trace :=
  if session.channels.isEmpty then [] else [⟨.note (.closing session.channels), ()⟩]

/-- Disconnecting says what it closes, closes it, and leaves a session that is zero. -/
theorem produces_disconnect_iff :
    session.disconnect.Produces trace next ↔
      trace = session.farewell ++ session.handles.map (fun handle => ⟨.close handle, ()⟩) ∧
        next = zero := by
  unfold disconnect farewell
  cases session.channels.isEmpty with
  | true => simp [produces_bind_done_iff, produces_release_iff]
  | false =>
      simp only [Bool.false_eq_true, if_false, produces_note_bind_iff, produces_bind_done_iff,
        produces_release_iff, pure_eq_done, exists_const]
      constructor
      · rintro ⟨rest, rfl, rfl, rfl⟩
        exact ⟨rfl, rfl⟩
      · rintro ⟨rfl, rfl⟩
        exact ⟨_, rfl, rfl, rfl⟩

/-! ### Connecting -/

/-- What is logged of a session that is ready. -/
def announcement (capabilities : Capabilities) : Trace :=
  [⟨.note (.ready capabilities.codename capabilities.version), ()⟩,
    ⟨.note (if capabilities.table.supported then .tableReady capabilities.table
      else .tableUnsupported), ()⟩]

theorem produces_announce_iff {capabilities : Capabilities} {result : Unit} :
    (announce capabilities).Produces trace result ↔ trace = announcement capabilities := by
  unfold announce announcement
  rw [produces_note_bind_iff]
  cases capabilities.table.supported with
  | true => simp [produces_note_iff]
  | false => simp [produces_note_iff]

/-- The ways in which a connection goes, after what was held is closed: nothing is opened if the
capabilities are not detected, and the session is ready only if all request channels open. -/
inductive Connects : Trace → Except Error Unit → Session → Prop where
  | undetected {detecting : Trace} {error : Error}
      (detects : Capabilities.detect.run.Produces detecting (.error error)) :
      Connects detecting (.error error) zero
  | refused {detecting opening : Trace} {capabilities : Capabilities} {handles : List Handle}
      {error : Error} (detects : Capabilities.detect.run.Produces detecting (.ok capabilities))
      (opens : Opens (requestNodes capabilities) opening handles (.error error)) :
      Connects (detecting ++ opening) (.error error)
        (handles.foldl hold { zero with capabilities })
  | ready {detecting opening : Trace} {capabilities : Capabilities} {handles : List Handle}
      (detects : Capabilities.detect.run.Produces detecting (.ok capabilities))
      (opens : Opens (requestNodes capabilities) opening handles (.ok ())) :
      Connects (detecting ++ opening ++ announcement capabilities) (.ok ())
        { handles.foldl hold { zero with capabilities } with ready := true }

/-- A connection first gives up all that was held, and then goes in one of the ways that `Connects`
lists, which know nothing of the old session. -/
theorem produces_connect_iff {status : Except Error Unit} :
    session.connect.Produces trace (status, next) ↔
      ∃ rest, trace = session.farewell ++
          session.handles.map (fun handle => ⟨.close handle, ()⟩) ++ rest ∧
        Connects rest status next := by
  unfold connect
  rw [produces_bind_iff]
  constructor
  · rintro ⟨first, rest, freed, rfl, disconnected, detected⟩
    obtain ⟨rfl, rfl⟩ := produces_disconnect_iff.mp disconnected
    refine ⟨rest, rfl, ?_⟩
    obtain ⟨detecting, tail, result, rfl, detects, opened⟩ := produces_bind_iff.mp detected
    cases result with
    | error error =>
        obtain ⟨rfl, same⟩ := produces_done_iff.mp opened
        cases same
        rw [List.append_nil]
        exact .undetected detects
    | ok capabilities =>
        obtain ⟨opening, last, ⟨status, filled⟩, rfl, acquired, ended⟩ :=
          produces_bind_iff.mp opened
        obtain ⟨handles, opens, rfl⟩ := produces_openChannels_iff.mp acquired
        cases status with
        | error error =>
            obtain ⟨rfl, same⟩ := produces_done_iff.mp ended
            cases same
            rw [List.append_nil]
            exact .refused detects opens
        | ok done =>
            obtain ⟨done, announced, same⟩ := produces_bind_done_iff.mp ended
            cases same
            rw [produces_announce_iff.mp announced, ← List.append_assoc]
            exact .ready detects opens
  -- The disconnection in front leaves a session that is zero, whatever it was.
  · rintro ⟨rest, rfl, connects⟩
    refine ⟨_, rest, zero, rfl, produces_disconnect_iff.mpr ⟨rfl, rfl⟩, ?_⟩
    cases connects with
    | undetected detects =>
        exact produces_bind_iff.mpr ⟨_, [], _, (List.append_nil _).symm, detects, .done _⟩
    | refused detects opens =>
        exact produces_bind_iff.mpr ⟨_, _, _, rfl, detects, produces_bind_iff.mpr
          ⟨_, [], _, (List.append_nil _).symm, produces_openChannels_iff.mpr ⟨_, opens, rfl⟩,
            .done _⟩⟩
    | ready detects opens =>
        rw [List.append_assoc]
        exact produces_bind_iff.mpr ⟨_, _, _, rfl, detects, produces_bind_iff.mpr
          ⟨_, _, _, rfl, produces_openChannels_iff.mpr ⟨_, opens, rfl⟩,
            produces_bind_done_iff.mpr ⟨(), produces_announce_iff.mpr rfl, rfl⟩⟩⟩

/-! ### Steps -/

/-- A step connects the session, makes it zero, or leaves it as it is. -/
theorem produces_perform_cases {step : Step} {result : Result}
    (produced : (session.perform step).Produces trace (result, next)) :
    (step = .connect ∧ ∃ status, session.connect.Produces trace (status, next)) ∨
      next = zero ∨ next = session := by
  cases step with
  | connect =>
      obtain ⟨⟨status, reached⟩, connected, same⟩ := produces_bind_done_iff.mp produced
      cases same
      exact Or.inl ⟨rfl, status, connected⟩
  | disconnect =>
      obtain ⟨reached, disconnected, same⟩ := produces_bind_done_iff.mp produced
      cases same
      exact Or.inr (Or.inl (produces_disconnect_iff.mp disconnected).2)
  | renew =>
      obtain ⟨released, -, same⟩ := produces_bind_done_iff.mp produced
      cases same
      exact Or.inr (Or.inl rfl)
  | detect | readRegister address | writeRegister address value | execute opcode arguments
  | readTable length | takeSnapshot =>
      obtain ⟨value, -, same⟩ := produces_bind_done_iff.mp produced
      cases same
      exact Or.inr (Or.inr rfl)

/-- A request goes its way if its channel is open, and does nothing if it is not. -/
theorem produces_channel_bind_iff {α : Type} {held : Option Handle} {f : Handle → Attempt α}
    {result : Except Error α} :
    (channel held >>= f).run.Produces trace result ↔
      (∃ handle, held = some handle ∧ (f handle).run.Produces trace result) ∨
      held = none ∧ trace = [] ∧ result = .error .transferFailed := by
  cases held with
  | some handle =>
      unfold channel
      simp
  | none =>
      unfold channel
      rw [Attempt.produces_bind_iff]
      constructor
      · rintro (⟨first, rest, value, -, thrown, -⟩ | ⟨error, thrown, rfl⟩)
        · cases (Attempt.produces_throw_iff.mp thrown).2
        · obtain ⟨rfl, same⟩ := Attempt.produces_throw_iff.mp thrown
          cases same
          exact Or.inr ⟨rfl, rfl, rfl⟩
      · rintro (⟨handle, impossible, -⟩ | ⟨-, rfl, rfl⟩)
        · cases impossible
        · exact Or.inr ⟨_, Attempt.produces_throw_iff.mpr ⟨rfl, rfl⟩, rfl⟩

end ManagementUnit.Session
