import ManagementUnit.Proofs.Detection.Visits
import ManagementUnit.Proofs.Dialogue.Prompt

/-!
# Detection gives up at once

A transfer and a visit give up at the first call that does not go well, and so does detection. A
version file of the power table that cannot be opened ends detection too, but well: there is no
table then.

* `Handle.Writes.prompt`, `Handle.Fills.prompt` — transfers.
* `Capabilities.Detects.prompt` — detection.
* `Capabilities.Detects.of_excused` — detection without a power table.
-/

namespace ManagementUnit

variable {trace : Trace}

/-! ### Transfers -/

namespace Handle

variable {handle : Handle}

theorem Writes.prompt {bytes : Bytes} {result : Except Error Unit}
    (writes : handle.Writes bytes trace result) : Prompt trace result := by
  cases writes with
  | rewindFailed reason => exact .stopped (by simp) Trace.idle_note
  | failed reason => exact .continued (by simp) (.stopped (by simp) Trace.idle_note)
  | short count partly =>
      exact .continued (by simp) (.stopped (by simpa using partly) Trace.idle_note)
  | whole => exact .continued (by simp) (.continued (by simp) (.of_idle Trace.idle_note _))

/-- A text may be of any length. -/
theorem ReadsSome.prompt {limit : Nat} {result : Except Error Bytes}
    (reads : handle.ReadsSome limit trace result) (textual : handle.node.textual = true) :
    Prompt trace (result.map fun _ => ()) := by
  cases reads with
  | rewindFailed reason => exact .stopped (by simp) Trace.idle_note
  | failed reason => exact .continued (by simp) (.stopped (by simp) Trace.idle_note)
  | delivered bytes =>
      exact .continued (by simp) (.continued (by simp [textual]) (.of_idle Trace.idle_note _))

/-- A block may not. -/
theorem Fills.prompt {length : Nat} {delivery : Delivery}
    (fills : handle.Fills length trace delivery) (block : handle.node.textual = false) :
    Prompt trace delivery.status := by
  cases fills with
  | failed reads =>
      cases reads with
      | rewindFailed reason => exact .stopped (by simp) Trace.idle_note
      | failed reason => exact .continued (by simp) (.stopped (by simp) Trace.idle_note)
  | short reads partly =>
      cases reads with
      | delivered bytes =>
          have failure : ¬ Event.Passable ⟨.read handle length, .ok bytes⟩ := by
            simpa [block] using partly
          exact .continued (by simp)
            (.stopped failure (List.forall_mem_cons.mpr ⟨id, Trace.idle_note⟩))
  | whole reads full =>
      cases reads with
      | delivered bytes =>
          have fine : Event.Passable ⟨.read handle length, .ok bytes⟩ := by
            simpa [block] using full
          exact .continued (by simp) (.continued fine (.of_idle Trace.idle_note _))

theorem ReadsSome.strict {limit : Nat} {result : Except Error Bytes}
    (reads : handle.ReadsSome limit trace result) : trace.Strict := by
  cases reads <;> simp [Trace.Strict, Event.Excused]

theorem Fills.strict {length : Nat} {delivery : Delivery}
    (fills : handle.Fills length trace delivery) : trace.Strict := by
  cases fills with
  | failed reads | whole reads full => exact reads.strict
  | short reads partly => exact reads.strict.append Trace.strict_note

end Handle

/-! ### Detection -/

namespace Capabilities

/-- A visit ends as its transfer does. -/
theorem prompt_visit (node : Node) (serial : Nat) {inside : Trace} {status : Except Error Unit}
    (prompt : Prompt inside status) : Prompt (visit node serial inside) status :=
  .continued Event.passable_acquire_ok (prompt.append_idle Trace.idle_close)

/-- Where a descriptive file cannot be read, nothing but closing it comes after. -/
theorem Describes.prompt {α : Type} {node : Node} {limit : Nat} {parse : Bytes → Except Error α}
    {malformed : Bytes → Notice} {result : Except Error α}
    (describes : Describes node limit parse malformed trace result)
    (textual : node.textual = true) : Prompt trace (result.map fun _ => ()) := by
  cases describes with
  | absent reason =>
      have failure : ¬ Event.Passable ⟨.acquire node node.access, .error reason⟩ := by
        rw [Event.passable_acquire_error_iff]
        rintro rfl
        cases textual
      have blamed : Event.blame ⟨.acquire node node.access, .error reason⟩ = .driverAbsent :=
        if_pos textual
      rw [Except.map, ← blamed]
      exact .stopped failure Trace.idle_note
  | unread serial reads => exact prompt_visit _ _ (reads.prompt textual)
  | malformed serial reads refused =>
      have read : Prompt _ (.ok ()) := reads.prompt textual
      exact prompt_visit _ _ (read.append (.of_idle Trace.idle_note _))
  | described serial reads parsed => exact prompt_visit _ _ (reads.prompt textual)

theorem DescribesTable.prompt {result : Except Error PowerTable.Info}
    (describes : DescribesTable trace result) : Prompt trace (result.map fun _ => ()) := by
  cases describes with
  | absent reason => exact .continued (by simp) (.of_idle Trace.idle_note _)
  | versionUnread serial reads => exact prompt_visit _ _ (reads.prompt rfl)
  | sizeAbsent serial reason reads =>
      have visited := prompt_visit .pmTableVersion serial (reads.prompt rfl)
      exact visited.append (.stopped (by simp) Trace.idle_note)
  | sizeUnread serial next reads sizes | described serial next reads sizes =>
      have visited := prompt_visit .pmTableVersion serial (reads.prompt rfl)
      exact visited.append (prompt_visit _ _ (sizes.prompt rfl))

theorem Detects.prompt {result : Except Error Capabilities} (detects : Detects trace result) :
    Prompt trace (result.map fun _ => ()) := by
  cases detects with
  | unversioned versions => exact versions.prompt rfl
  | unnamed versions names =>
      have versioned : Prompt _ (.ok ()) := versions.prompt rfl
      exact versioned.append (names.prompt rfl)
  | untabled versions names tables | detected versions names tables =>
      have versioned : Prompt _ (.ok ()) := versions.prompt rfl
      have named : Prompt _ (.ok ()) := names.prompt rfl
      exact (versioned.append named).append tables.prompt

/-! ### Detection without a power table -/

theorem strict_visit (node : Node) (serial : Nat) {inside : Trace} (strict : inside.Strict) :
    (visit node serial inside).Strict := by
  have closed : Trace.Strict [⟨.close ⟨node, serial⟩, ()⟩] := by
    simp [Trace.Strict, Event.Excused]
  refine List.forall_mem_cons.mpr ⟨?_, strict.append closed⟩
  simp [Event.Excused]

theorem Describes.strict {α : Type} {node : Node} {limit : Nat} {parse : Bytes → Except Error α}
    {malformed : Bytes → Notice} {result : Except Error α}
    (describes : Describes node limit parse malformed trace result)
    (other : node ≠ .pmTableVersion) : trace.Strict := by
  cases describes with
  | absent reason => simp [Trace.Strict, Event.Excused, other]
  | unread serial reads | described serial reads parsed => exact strict_visit _ _ reads.strict
  | malformed serial reads refused =>
      exact strict_visit _ _ (reads.strict.append Trace.strict_note)

variable {before after : Trace} {event : Event}

/-- Where the version of the power table is missed, nothing more is asked about the table. -/
theorem DescribesTable.of_excused {result : Except Error PowerTable.Info}
    (describes : DescribesTable trace result) (split : trace = before ++ event :: after)
    (excused : event.Excused) : after.calls = [] ∧ result = .ok .none := by
  have missed : ¬ trace.Strict := fun strict => (split ▸ strict).not_mem excused
  cases describes with
  | absent reason =>
      cases before with
      | nil =>
          obtain ⟨-, rfl⟩ := List.cons.inj split
          exact ⟨rfl, rfl⟩
      | cons head before =>
          rw [List.cons_append] at split
          obtain ⟨-, rest⟩ := List.cons.inj split
          have strict : Trace.Strict (before ++ event :: after) := rest ▸ Trace.strict_note
          exact absurd excused strict.not_mem
  | versionUnread serial reads => exact absurd (strict_visit _ _ reads.strict) missed
  | sizeAbsent serial reason reads =>
      have refused : Trace.Strict
          [⟨.acquire .pmTableSize Node.pmTableSize.access, .error reason⟩,
            ⟨.note (.tableSizeMissing reason), ()⟩] := by
        simp [Trace.Strict, Event.Excused]
      exact absurd ((strict_visit _ _ reads.strict).append refused) missed
  | sizeUnread serial next reads sizes | described serial next reads sizes =>
      exact absurd ((strict_visit _ _ reads.strict).append (strict_visit _ _ sizes.strict)) missed

/-- The excused call is the last one of a detection, which then tells of no power table. -/
theorem Detects.of_excused {result : Except Error Capabilities} (detects : Detects trace result)
    (split : trace = before ++ event :: after) (excused : event.Excused) :
    after.calls = [] ∧ ∃ version codename, result = .ok ⟨version, codename, .none⟩ := by
  have missed : ¬ trace.Strict := fun strict => (split ▸ strict).not_mem excused
  cases detects with
  | unversioned versions => exact absurd (versions.strict (by decide)) missed
  | unnamed versions names =>
      exact absurd ((versions.strict (by decide)).append (names.strict (by decide))) missed
  | untabled versions names tables =>
      have described := (versions.strict (by decide)).append (names.strict (by decide))
      obtain ⟨middle, same⟩ := described.exists_right excused split
      cases (tables.of_excused same excused).2
  | detected versions names tables =>
      have described := (versions.strict (by decide)).append (names.strict (by decide))
      obtain ⟨middle, same⟩ := described.exists_right excused split
      obtain ⟨silent, found⟩ := tables.of_excused same excused
      cases found
      exact ⟨silent, _, _, rfl⟩

end Capabilities

end ManagementUnit
