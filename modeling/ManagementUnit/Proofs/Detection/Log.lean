import ManagementUnit.Proofs.Detection.Visits
import ManagementUnit.Proofs.Dialogue.Log

/-!
# The log of detection

A transfer logs what it moved, or why it failed. A short read does both: what was delivered is
traced, and then it is complained of. A visit logs what its transfer does, and whether a text was
understood, so detection logs its failure once.

* `Handle.Writes.logged`, `Handle.ReadsSome.logged`, `Handle.Fills.logged` — transfers.
* `Capabilities.Detects.logged` — detection.
-/

namespace ManagementUnit

open Trace

variable {closed : Option ChannelSet} {trace : Trace}

/-! ### Transfers -/

namespace Handle

variable {handle : Handle}

/-- Whichever way a write goes, its one notice says so, as the traced transfer or the complaint. -/
theorem Writes.logged {bytes : Bytes} {result : Except Error Unit}
    (writes : handle.Writes bytes trace result) : Logged closed trace result := by
  cases writes with
  | rewindFailed reason =>
      have silent : Silent [⟨.rewind handle, .error reason⟩] := ⟨rfl, rfl⟩
      exact .of_complaint silent rfl _
  | failed reason =>
      have silent : Silent [⟨.rewind handle, .ok ()⟩, ⟨.write handle bytes, .error reason⟩] :=
        ⟨rfl, rfl⟩
      exact .of_complaint silent rfl _
  | short count partly =>
      have none : Event.movement? ⟨.write handle bytes, .ok count⟩ = none := if_neg partly
      have silent : Silent [⟨.rewind handle, .ok ()⟩, ⟨.write handle bytes, .ok count⟩] :=
        ⟨rfl, congrArg (List.map Movement.notice) (List.filterMap_cons_none none)⟩
      exact .of_complaint silent rfl _
  | whole =>
      have moved : Event.movement? ⟨.write handle bytes, .ok bytes.length⟩ =
          some ⟨handle.node, .outward, bytes⟩ := if_pos rfl
      refine ⟨?_, .quiet rfl, List.forall_mem_singleton.mpr trivial, rfl⟩
      rw [Trace.traced, Trace.movements, List.filterMap_cons_none rfl,
        List.filterMap_cons_some moved]
      rfl

theorem ReadsSome.logged {limit : Nat} {result : Except Error Bytes}
    (reads : handle.ReadsSome limit trace result) :
    Logged closed trace (result.map fun _ => ()) := by
  cases reads with
  | rewindFailed reason =>
      have silent : Silent [⟨.rewind handle, .error reason⟩] := ⟨rfl, rfl⟩
      exact .of_complaint silent rfl _
  | failed reason =>
      have silent : Silent [⟨.rewind handle, .ok ()⟩, ⟨.read handle limit, .error reason⟩] :=
        ⟨rfl, rfl⟩
      exact .of_complaint silent rfl _
  | delivered bytes => exact ⟨rfl, .quiet rfl, List.forall_mem_singleton.mpr trivial, rfl⟩

theorem Fills.logged {length : Nat} {delivery : Delivery}
    (fills : handle.Fills length trace delivery) : Logged closed trace delivery.status := by
  cases fills with
  | failed reads => exact reads.logged
  | short reads partly =>
      have read : Logged closed _ (.ok ()) := reads.logged
      exact read.append (.of_complaint Silent.nil rfl _)
  | whole reads full => exact reads.logged

end Handle

/-! ### Detection -/

namespace Capabilities

/-- A visit logs what is done inside. -/
theorem logged_visit (node : Node) (serial : Nat) {inside : Trace} {status : Except Error Unit}
    (logged : Logged closed inside status) : Logged closed (visit node serial inside) status :=
  (Logged.of_silent (silent_acquire node node.access serial)).append
    (logged.append_silent (silent_close [⟨node, serial⟩]))

/-- A file that could not be opened is complained of. -/
theorem logged_refusal {node : Node} {access : Access} {reason : IoError} {notice : Notice}
    (complaint : notice.complains = true) (error : Error) :
    Logged closed [⟨.acquire node access, .error reason⟩, ⟨.note notice, ()⟩] (.error error) := by
  have silent : Silent [⟨.acquire node access, .error reason⟩] := ⟨rfl, rfl⟩
  exact .of_complaint silent complaint error

theorem Describes.logged {α : Type} {node : Node} {limit : Nat} {parse : Bytes → Except Error α}
    {malformed : Bytes → Notice} {result : Except Error α}
    (describes : Describes node limit parse malformed trace result)
    (complaint : ∀ text, (malformed text).complains = true) :
    Logged closed trace (result.map fun _ => ()) := by
  cases describes with
  | absent reason => exact logged_refusal rfl _
  | unread serial reads => exact logged_visit _ _ reads.logged
  | malformed serial reads refused =>
      have read : Logged closed _ (.ok ()) := reads.logged
      exact logged_visit _ _ (read.append (.of_complaint Silent.nil (complaint _) _))
  | described serial reads parsed => exact logged_visit _ _ reads.logged

theorem DescribesTable.logged {result : Except Error PowerTable.Info}
    (describes : DescribesTable trace result) : Logged closed trace (result.map fun _ => ()) := by
  cases describes with
  | absent reason =>
      exact ⟨rfl, .quiet rfl, List.forall_mem_singleton.mpr List.mem_cons_self, rfl⟩
  | versionUnread serial reads => exact logged_visit _ _ reads.logged
  | sizeAbsent serial reason reads =>
      exact (logged_visit _ serial reads.logged).append (logged_refusal rfl _)
  | sizeUnread serial next reads sizes | described serial next reads sizes =>
      exact (logged_visit _ serial reads.logged).append (logged_visit _ next sizes.logged)

theorem Detects.logged {result : Except Error Capabilities} (detects : Detects trace result) :
    Logged closed trace (result.map fun _ => ()) := by
  cases detects with
  | unversioned versions => exact versions.logged fun _ => rfl
  | unnamed versions names =>
      have versioned : Logged closed _ (.ok ()) := versions.logged fun _ => rfl
      exact versioned.append (names.logged fun _ => rfl)
  | untabled versions names tables | detected versions names tables =>
      have versioned : Logged closed _ (.ok ()) := versions.logged fun _ => rfl
      have named : Logged closed _ (.ok ()) := names.logged fun _ => rfl
      exact (versioned.append named).append tables.logged

end Capabilities

end ManagementUnit
