import ManagementUnit.Proofs.Detection.Visits
import ManagementUnit.Proofs.Dialogue.Custody

/-!
# Custody of the descriptive files

A transfer uses a handle that is open and leaves it open, and detection closes what it opens. It can
be done beside any handles that are open, if none of them is one of a descriptive file.

* `Handle.Writes.carries`, `Handle.Fills.carries` — a transfer leaves open what was open.
* `Capabilities.Detects.carries` — and so does a detection.
* `Capabilities.Detects.separate` — a detection has one file open at a time.
-/

namespace ManagementUnit

open Dialogue

variable {handles : List Handle} {trace : Trace}

/-! ### Transfers -/

namespace Carries

variable {handle : Handle}

theorem rewind_error (member : handle ∈ handles) (reason : IoError) :
    Carries handles [⟨.rewind handle, .error reason⟩] handles := by
  refine single ?_
  rintro past rfl
  exact member

/-- A transfer comes directly after a rewind. -/
theorem transfer {event : Event} (member : handle ∈ handles)
    (kept : Trace.openAfter handles [event] = handles)
    (allowed : ∀ past : Trace, handle ∈ past.openAfter [] →
      past.calls.getLast? = some ⟨.rewind handle, .ok ()⟩ → past.Permits event.action) :
    Carries handles [⟨.rewind handle, .ok ()⟩, event] handles where
  lawful := by
    rintro past rfl
    have held : handle ∈ Trace.openAfter [] (past ++ [⟨.rewind handle, .ok ()⟩]) := by
      rw [Trace.openAfter_append]
      exact member
    refine Trace.obeys_cons_iff.mpr ⟨member, Trace.obeys_cons_iff.mpr ⟨?_, Trace.obeys_nil⟩⟩
    exact allowed _ held (by simp)
  left := kept

theorem read (member : handle ∈ handles) (limit : Nat)
    (reply : Except IoError { bytes : Bytes // bytes.length ≤ limit }) :
    Carries handles [⟨.rewind handle, .ok ()⟩, ⟨.read handle limit, reply⟩] handles :=
  transfer member rfl fun _ held rewound => ⟨held, rewound⟩

theorem write (member : handle ∈ handles) (writable : handle.node.access = .readWrite)
    (bytes : Bytes) (reply : Except IoError Nat) :
    Carries handles [⟨.rewind handle, .ok ()⟩, ⟨.write handle bytes, reply⟩] handles :=
  transfer member rfl fun _ held rewound => ⟨held, rewound, writable⟩

end Carries

namespace Handle

variable {handle : Handle}

theorem Writes.carries {bytes : Bytes} {result : Except Error Unit}
    (writes : handle.Writes bytes trace result) (member : handle ∈ handles)
    (writable : handle.node.access = .readWrite) : Carries handles trace handles := by
  cases writes with
  | rewindFailed reason => exact (Carries.rewind_error member reason).append (.note _ _)
  | failed reason => exact (Carries.write member writable bytes _).append (.note _ _)
  | short count partly => exact (Carries.write member writable bytes _).append (.note _ _)
  | whole => exact (Carries.write member writable bytes _).append (.note _ _)

theorem ReadsSome.carries {limit : Nat} {result : Except Error Bytes}
    (reads : handle.ReadsSome limit trace result) (member : handle ∈ handles) :
    Carries handles trace handles := by
  cases reads with
  | rewindFailed reason => exact (Carries.rewind_error member reason).append (.note _ _)
  | failed reason => exact (Carries.read member limit _).append (.note _ _)
  | delivered bytes => exact (Carries.read member limit _).append (.note _ _)

theorem Fills.carries {length : Nat} {delivery : Delivery}
    (fills : handle.Fills length trace delivery) (member : handle ∈ handles) :
    Carries handles trace handles := by
  cases fills with
  | failed reads => exact reads.carries member
  | short reads partly => exact (reads.carries member).append (.note _ _)
  | whole reads full => exact reads.carries member

end Handle

/-! ### Detection -/

namespace Capabilities

/-- A visit leaves open what was open. -/
theorem carries_visit {node : Node} {serial : Nat} {inside : Trace}
    (free : ∀ handle ∈ handles, handle.node ≠ node)
    (used : Carries (handles ++ [⟨node, serial⟩]) inside (handles ++ [⟨node, serial⟩])) :
    Carries handles (visit node serial inside) handles := by
  have fresh : ⟨node, serial⟩ ∉ handles := fun member => free _ member rfl
  have closed : Carries (handles ++ [⟨node, serial⟩]) _ _ :=
    .close (List.mem_append_right _ (List.mem_singleton_self _))
  rw [List.erase_append_right _ fresh, List.erase_cons_head, List.append_nil] at closed
  exact (Carries.acquire_ok handles node serial).append (used.append closed)

theorem Describes.carries {α : Type} {node : Node} {limit : Nat} {parse : Bytes → Except Error α}
    {malformed : Bytes → Notice} {result : Except Error α}
    (describes : Describes node limit parse malformed trace result)
    (free : ∀ handle ∈ handles, handle.node ≠ node) : Carries handles trace handles := by
  have member (serial : Nat) : ⟨node, serial⟩ ∈ handles ++ [⟨node, serial⟩] :=
    List.mem_append_right _ (List.mem_singleton_self _)
  cases describes with
  | absent reason => exact (Carries.acquire_error handles node reason).append (.note _ _)
  | unread serial reads => exact carries_visit free (reads.carries (member serial))
  | malformed serial reads refused =>
      exact carries_visit free ((reads.carries (member serial)).append (.note _ _))
  | described serial reads parsed => exact carries_visit free (reads.carries (member serial))

theorem DescribesTable.carries {result : Except Error PowerTable.Info}
    (describes : DescribesTable trace result)
    (free : ∀ handle ∈ handles, handle.node ≠ .pmTableVersion ∧ handle.node ≠ .pmTableSize) :
    Carries handles trace handles := by
  have visited {node : Node} {serial : Nat} {inside : Trace} {delivery : Delivery}
      (fills : Handle.Fills ⟨node, serial⟩ 4 inside delivery)
      (free : ∀ handle ∈ handles, handle.node ≠ node) :
      Carries handles (visit node serial inside) handles :=
    carries_visit free (fills.carries (List.mem_append_right _ (List.mem_singleton_self _)))
  have unversioned := fun handle member => (free handle member).1
  have unsized := fun handle member => (free handle member).2
  cases describes with
  | absent reason => exact (Carries.acquire_error handles _ reason).append (.note _ _)
  | versionUnread serial reads => exact visited reads unversioned
  | sizeAbsent serial reason reads =>
      exact (visited reads unversioned).append
        ((Carries.acquire_error handles _ reason).append (.note _ _))
  | sizeUnread serial next reads sizes | described serial next reads sizes =>
      exact (visited reads unversioned).append (visited sizes unsized)

/-- Detection closes each of its files again, and none of them is one that was open before. -/
theorem Detects.carries {result : Except Error Capabilities} (detects : Detects trace result)
    (free : ∀ handle ∈ handles, handle.node ∉ Node.descriptive) :
    Carries handles trace handles := by
  have apart (handle : Handle) (member : handle ∈ handles) : handle.node ≠ .version ∧
      handle.node ≠ .codename ∧ handle.node ≠ .pmTableVersion ∧ handle.node ≠ .pmTableSize := by
    simpa [Node.descriptive] using free handle member
  have versions {result first} (describes : DescribesVersion first result) :=
    describes.carries fun handle member => (apart handle member).1
  have names {result second} (describes : DescribesCodename second result) :=
    describes.carries fun handle member => (apart handle member).2.1
  have tables {result third} (describes : DescribesTable third result) :=
    describes.carries fun handle member => (apart handle member).2.2
  cases detects with
  | unversioned first => exact versions first
  | unnamed first second => exact (versions first).append (names second)
  | untabled first second third | detected first second third =>
      exact ((versions first).append (names second)).append (tables third)

end Capabilities

/-! ### One file at a time -/

/-- A file is opened only if no other is open. -/
def Trace.OneAtATime (past : Trace) : Action → Prop
  | .acquire .. => past.openAfter [] = []
  | _ => True

/-- A piece of a trace that opens one file at a time and leaves none open. -/
structure Separate (trace : Trace) : Prop where
  alone : ∀ past : Trace, past.openAfter [] = [] → Trace.Obeys Trace.OneAtATime past trace
  left : trace.openAfter [] = []

theorem Separate.append {first rest : Trace} (before : Separate first) (after : Separate rest) :
    Separate (first ++ rest) where
  alone := by
    intro past free
    refine Trace.obeys_append_iff.mpr ⟨before.alone past free, after.alone _ ?_⟩
    rw [Trace.openAfter_append, free, before.left]
  left := by rw [Trace.openAfter_append, before.left, after.left]

theorem Separate.refused (node : Node) (reason : IoError) (notice : Notice) :
    Separate [⟨.acquire node node.access, .error reason⟩, ⟨.note notice, ()⟩] where
  alone := by
    intro past free
    exact Trace.obeys_cons_iff.mpr ⟨free, Trace.obeys_cons_iff.mpr ⟨trivial, Trace.obeys_nil⟩⟩
  left := rfl

namespace Handle

variable {handle : Handle}

/-- A transfer opens nothing. -/
theorem ReadsSome.alone {limit : Nat} {result : Except Error Bytes}
    (reads : handle.ReadsSome limit trace result) (past : Trace) :
    Trace.Obeys Trace.OneAtATime past trace := by
  cases reads <;> simp [Trace.obeys_cons_iff, Trace.obeys_nil, Trace.OneAtATime]

theorem Fills.alone {length : Nat} {delivery : Delivery}
    (fills : handle.Fills length trace delivery) (past : Trace) :
    Trace.Obeys Trace.OneAtATime past trace := by
  cases fills with
  | failed reads | whole reads full => exact reads.alone past
  | short reads partly =>
      exact Trace.obeys_append_iff.mpr
        ⟨reads.alone past, Trace.obeys_cons_iff.mpr ⟨trivial, Trace.obeys_nil⟩⟩

end Handle

namespace Capabilities

theorem separate_visit {node : Node} {serial : Nat} {inside : Trace}
    (alone : ∀ past, Trace.Obeys Trace.OneAtATime past inside)
    (carries : Carries [⟨node, serial⟩] inside [⟨node, serial⟩]) :
    Separate (visit node serial inside) where
  alone := by
    intro past free
    refine Trace.obeys_cons_iff.mpr ⟨free, Trace.obeys_append_iff.mpr ⟨alone _, ?_⟩⟩
    exact Trace.obeys_cons_iff.mpr ⟨trivial, Trace.obeys_nil⟩
  left := by
    have visited : Carries [] (visit node serial inside) [] := carries_visit (by simp) carries
    exact visited.left

/-- A descriptive file is closed before anything else is opened, whatever its reading comes to. -/
theorem Describes.separate {α : Type} {node : Node} {limit : Nat} {parse : Bytes → Except Error α}
    {malformed : Bytes → Notice} {result : Except Error α}
    (describes : Describes node limit parse malformed trace result) : Separate trace := by
  have member (serial : Nat) : (⟨node, serial⟩ : Handle) ∈ [⟨node, serial⟩] :=
    List.mem_singleton_self _
  cases describes with
  | absent reason => exact .refused node reason _
  | unread serial reads | described serial reads parsed =>
      exact separate_visit reads.alone (reads.carries (member serial))
  | malformed serial reads refused =>
      refine separate_visit (fun past => ?_) ((reads.carries (member serial)).append (.note _ _))
      exact Trace.obeys_append_iff.mpr
        ⟨reads.alone past, Trace.obeys_cons_iff.mpr ⟨trivial, Trace.obeys_nil⟩⟩

theorem DescribesTable.separate {result : Except Error PowerTable.Info}
    (describes : DescribesTable trace result) : Separate trace := by
  have visited {node : Node} {serial : Nat} {inside : Trace} {delivery : Delivery}
      (fills : Handle.Fills ⟨node, serial⟩ 4 inside delivery) :
      Separate (visit node serial inside) :=
    separate_visit fills.alone (fills.carries (List.mem_singleton_self _))
  cases describes with
  | absent reason => exact .refused _ reason _
  | versionUnread serial reads => exact visited reads
  | sizeAbsent serial reason reads => exact (visited reads).append (.refused _ reason _)
  | sizeUnread serial next reads sizes | described serial next reads sizes =>
      exact (visited reads).append (visited sizes)

/-- Detection has one file open at a time. -/
theorem Detects.separate {result : Except Error Capabilities} (detects : Detects trace result) :
    Separate trace := by
  cases detects with
  | unversioned versions => exact versions.separate
  | unnamed versions names => exact versions.separate.append names.separate
  | untabled versions names tables | detected versions names tables =>
      exact (versions.separate.append names.separate).append tables.separate

end Capabilities

end ManagementUnit
