import ManagementUnit.Proofs.Dialogue.Produces
import ManagementUnit.Proofs.Dialogue.Script
import ManagementUnit.Transfer

/-!
# What a transfer can lead through

A transfer makes at most two calls, the rewind and the transfer itself, and logs one notice. The
relations below list the traces of each kind of transfer with what came of it, one case for each way
it can go.

* `Handle.produces_writeBlock_iff`, `Handle.produces_readSome_iff`, `Handle.produces_fill_iff` — the
  lists are complete, and every case can happen.
* `Handle.Writes.follows`, `Handle.Fills.follows` — a transfer stops at the first call that fails.
-/

namespace ManagementUnit.Handle

open Dialogue

/-- The ways in which writing a block goes. A write that reports another count than the length of
the block has failed too, and each way has one notice. -/
inductive Writes (handle : Handle) (bytes : Bytes) : Trace → Except Error Unit → Prop where
  | rewindFailed (reason : IoError) :
      Writes handle bytes
        [⟨.rewind handle, .error reason⟩, ⟨.note (.rewindFailed handle.node reason), ()⟩]
        (.error .transferFailed)
  | failed (reason : IoError) :
      Writes handle bytes
        [⟨.rewind handle, .ok ()⟩, ⟨.write handle bytes, .error reason⟩,
          ⟨.note (.writeFailed handle.node reason), ()⟩]
        (.error .transferFailed)
  | short (count : Nat) (partly : count ≠ bytes.length) :
      Writes handle bytes
        [⟨.rewind handle, .ok ()⟩, ⟨.write handle bytes, .ok count⟩,
          ⟨.note (.shortWrite handle.node count bytes.length), ()⟩]
        (.error .transferFailed)
  | whole :
      Writes handle bytes
        [⟨.rewind handle, .ok ()⟩, ⟨.write handle bytes, .ok bytes.length⟩,
          ⟨.note (.wrote handle.node bytes), ()⟩]
        (.ok ())

/-- The ways in which reading what there is goes. Whatever is delivered will do. -/
inductive ReadsSome (handle : Handle) (limit : Nat) : Trace → Except Error Bytes → Prop where
  | rewindFailed (reason : IoError) :
      ReadsSome handle limit
        [⟨.rewind handle, .error reason⟩, ⟨.note (.rewindFailed handle.node reason), ()⟩]
        (.error .transferFailed)
  | failed (reason : IoError) :
      ReadsSome handle limit
        [⟨.rewind handle, .ok ()⟩, ⟨.read handle limit, .error reason⟩,
          ⟨.note (.readFailed handle.node reason), ()⟩]
        (.error .transferFailed)
  | delivered (bytes : { bytes : Bytes // bytes.length ≤ limit }) :
      ReadsSome handle limit
        [⟨.rewind handle, .ok ()⟩, ⟨.read handle limit, .ok bytes⟩,
          ⟨.note (.delivered handle.node bytes), ()⟩]
        (.ok bytes)

/-- The ways in which reading a block goes: a block that is not whole is one more way to fail. The
bytes of such a block are delivered all the same. -/
inductive Fills (handle : Handle) (length : Nat) : Trace → Delivery → Prop where
  | failed {trace : Trace} {error : Error} (reads : handle.ReadsSome length trace (.error error)) :
      Fills handle length trace ⟨.error error, []⟩
  | short {trace : Trace} {bytes : Bytes} (reads : handle.ReadsSome length trace (.ok bytes))
      (partly : bytes.length ≠ length) :
      Fills handle length (trace ++ [⟨.note (.shortRead handle.node bytes.length length), ()⟩])
        ⟨.error .transferFailed, bytes⟩
  | whole {trace : Trace} {bytes : Bytes} (reads : handle.ReadsSome length trace (.ok bytes))
      (full : bytes.length = length) :
      Fills handle length trace ⟨.ok (), bytes⟩

variable {handle : Handle} {trace : Trace}

/-- A rewind is one call; a failed one is logged and ends the attempt. -/
theorem produces_rewind_iff {result : Except Error Unit} :
    handle.rewind.run.Produces trace result ↔
      (trace = [⟨.rewind handle, .ok ()⟩] ∧ result = .ok ()) ∨
      ∃ reason, trace =
          [⟨.rewind handle, .error reason⟩, ⟨.note (.rewindFailed handle.node reason), ()⟩] ∧
        result = .error .transferFailed := by
  unfold rewind
  rw [Attempt.produces_ask_bind_iff]
  constructor
  · rintro ⟨reply, rest, rfl, after⟩
    cases reply with
    | ok done =>
        obtain ⟨rfl, rfl⟩ := Attempt.produces_pure_iff.mp after
        exact Or.inl ⟨rfl, rfl⟩
    | error reason =>
        obtain ⟨rfl, rfl⟩ := Attempt.produces_fail_iff.mp after
        exact Or.inr ⟨reason, rfl, rfl⟩
  · rintro (⟨rfl, rfl⟩ | ⟨reason, rfl, rfl⟩)
    · exact ⟨.ok (), [], rfl, Attempt.produces_pure_iff.mpr ⟨rfl, rfl⟩⟩
    · exact ⟨.error reason, _, rfl, Attempt.produces_fail_iff.mpr ⟨rfl, rfl⟩⟩

/-- Writing a block goes in exactly the ways that `Writes` lists. -/
theorem produces_writeBlock_iff {bytes : Bytes} {result : Except Error Unit} :
    (handle.writeBlock bytes).run.Produces trace result ↔ handle.Writes bytes trace result := by
  unfold writeBlock
  rw [Attempt.produces_bind_iff]
  constructor
  · rintro (⟨first, rest, value, rfl, rewound, moved⟩ | ⟨error, rewound, rfl⟩)
    · rcases produces_rewind_iff.mp rewound with ⟨rfl, -⟩ | ⟨reason, -, impossible⟩
      · obtain ⟨reply, tail, rfl, after⟩ := Attempt.produces_ask_bind_iff.mp moved
        cases reply with
        | ok count =>
            dsimp only at after
            -- A write succeeds only with the length of its block as count.
            by_cases full : count = bytes.length
            · rw [if_pos full] at after
              obtain ⟨value, noted, rfl⟩ := Attempt.produces_lift_iff.mp after
              rw [produces_note_iff.mp noted, full]
              exact .whole
            · rw [if_neg full] at after
              obtain ⟨rfl, rfl⟩ := Attempt.produces_fail_iff.mp after
              exact .short count full
        | error reason =>
            obtain ⟨rfl, rfl⟩ := Attempt.produces_fail_iff.mp after
            exact .failed reason
      · cases impossible
    · rcases produces_rewind_iff.mp rewound with ⟨-, impossible⟩ | ⟨reason, rfl, same⟩
      · cases impossible
      · cases same
        exact .rewindFailed reason
  · intro writes
    cases writes with
    | rewindFailed reason =>
        exact Or.inr ⟨_, produces_rewind_iff.mpr (Or.inr ⟨reason, rfl, rfl⟩), rfl⟩
    | failed reason =>
        exact Or.inl ⟨_, _, (), rfl, produces_rewind_iff.mpr (Or.inl ⟨rfl, rfl⟩),
          Attempt.produces_ask_bind_iff.mpr ⟨.error reason, _, rfl,
            Attempt.produces_fail_iff.mpr ⟨rfl, rfl⟩⟩⟩
    | short count partly =>
        refine Or.inl ⟨_, _, (), rfl, produces_rewind_iff.mpr (Or.inl ⟨rfl, rfl⟩),
          Attempt.produces_ask_bind_iff.mpr ⟨.ok count, _, rfl, ?_⟩⟩
        dsimp only
        rw [if_neg partly]
        exact Attempt.produces_fail_iff.mpr ⟨rfl, rfl⟩
    | whole =>
        refine Or.inl ⟨_, _, (), rfl, produces_rewind_iff.mpr (Or.inl ⟨rfl, rfl⟩),
          Attempt.produces_ask_bind_iff.mpr ⟨.ok bytes.length, _, rfl, ?_⟩⟩
        dsimp only
        rw [if_pos rfl]
        exact Attempt.produces_lift_iff.mpr ⟨(), produces_note_iff.mpr rfl, rfl⟩

/-- Reading what there is goes in exactly the ways that `ReadsSome` lists. -/
theorem produces_readSome_iff {limit : Nat} {result : Except Error Bytes} :
    (handle.readSome limit).run.Produces trace result ↔ handle.ReadsSome limit trace result := by
  unfold readSome
  rw [Attempt.produces_bind_iff]
  constructor
  · rintro (⟨first, rest, value, rfl, rewound, moved⟩ | ⟨error, rewound, rfl⟩)
    · rcases produces_rewind_iff.mp rewound with ⟨rfl, -⟩ | ⟨reason, -, impossible⟩
      · obtain ⟨reply, tail, rfl, after⟩ := Attempt.produces_ask_bind_iff.mp moved
        cases reply with
        | ok bytes =>
            obtain ⟨last, rfl, returned⟩ := Attempt.produces_note_bind_iff.mp after
            obtain ⟨rfl, rfl⟩ := Attempt.produces_pure_iff.mp returned
            exact .delivered bytes
        | error reason =>
            obtain ⟨rfl, rfl⟩ := Attempt.produces_fail_iff.mp after
            exact .failed reason
      · cases impossible
    · rcases produces_rewind_iff.mp rewound with ⟨-, impossible⟩ | ⟨reason, rfl, same⟩
      · cases impossible
      · cases same
        exact .rewindFailed reason
  · intro reads
    cases reads with
    | rewindFailed reason =>
        exact Or.inr ⟨_, produces_rewind_iff.mpr (Or.inr ⟨reason, rfl, rfl⟩), rfl⟩
    | failed reason =>
        exact Or.inl ⟨_, _, (), rfl, produces_rewind_iff.mpr (Or.inl ⟨rfl, rfl⟩),
          Attempt.produces_ask_bind_iff.mpr ⟨.error reason, _, rfl,
            Attempt.produces_fail_iff.mpr ⟨rfl, rfl⟩⟩⟩
    | delivered bytes =>
        exact Or.inl ⟨_, _, (), rfl, produces_rewind_iff.mpr (Or.inl ⟨rfl, rfl⟩),
          Attempt.produces_ask_bind_iff.mpr ⟨.ok bytes, _, rfl,
            Attempt.produces_note_bind_iff.mpr ⟨[], rfl,
              Attempt.produces_pure_iff.mpr ⟨rfl, rfl⟩⟩⟩⟩

/-- Reading a block goes in exactly the ways that `Fills` lists. -/
theorem produces_fill_iff {length : Nat} {delivery : Delivery} :
    (handle.fill length).Produces trace delivery ↔ handle.Fills length trace delivery := by
  unfold fill
  rw [produces_bind_iff]
  constructor
  · rintro ⟨first, rest, result, rfl, read, after⟩
    have reads := produces_readSome_iff.mp read
    cases result with
    | ok bytes =>
        dsimp only at after
        by_cases full : bytes.length = length
        · rw [if_pos full] at after
          obtain ⟨rfl, rfl⟩ := produces_done_iff.mp after
          rw [List.append_nil]
          exact .whole reads full
        · rw [if_neg full] at after
          obtain ⟨done, note, rfl⟩ := produces_bind_done_iff.mp after
          rw [produces_note_iff.mp note]
          exact .short reads full
    | error error =>
        obtain ⟨rfl, rfl⟩ := produces_done_iff.mp after
        rw [List.append_nil]
        exact .failed reads
  · intro fills
    cases fills with
    | failed reads =>
        exact ⟨trace, [], _, (List.append_nil _).symm, produces_readSome_iff.mpr reads, .done _⟩
    | short reads partly =>
        refine ⟨_, _, _, rfl, produces_readSome_iff.mpr reads, ?_⟩
        dsimp only
        rw [if_neg partly]
        exact produces_bind_done_iff.mpr ⟨(), produces_note_iff.mpr rfl, rfl⟩
    | whole reads full =>
        refine ⟨trace, [], _, (List.append_nil _).symm, produces_readSome_iff.mpr reads, ?_⟩
        dsimp only
        rw [if_pos full]
        exact .done _

/-- Reading a block succeeds with what filled it, and fails if it was not filled. -/
theorem produces_readBlock_iff {length : Nat} {result : Except Error Bytes} :
    (handle.readBlock length).run.Produces trace result ↔
      ∃ delivery, handle.Fills length trace delivery ∧ result = delivery.block := by
  unfold readBlock
  rw [ExceptT.run_mk, produces_map_iff]
  simp only [produces_fill_iff]

theorem produces_readBlock_ok_iff {length : Nat} {bytes : Bytes} :
    (handle.readBlock length).run.Produces trace (.ok bytes) ↔
      handle.Fills length trace ⟨.ok (), bytes⟩ := by
  rw [produces_readBlock_iff]
  constructor
  · rintro ⟨⟨status, delivered⟩, fills, same⟩
    cases status with
    | ok done =>
        cases same
        exact fills
    | error error => cases same
  · intro fills
    exact ⟨_, fills, rfl⟩

theorem produces_readBlock_error_iff {length : Nat} {error : Error} :
    (handle.readBlock length).run.Produces trace (.error error) ↔
      ∃ bytes, handle.Fills length trace ⟨.error error, bytes⟩ := by
  rw [produces_readBlock_iff]
  constructor
  · rintro ⟨⟨status, delivered⟩, fills, same⟩
    cases status with
    | ok done => cases same
    | error failure =>
        cases same
        exact ⟨delivered, fills⟩
  · rintro ⟨bytes, fills⟩
    exact ⟨_, fills, rfl⟩

/-! ### The calls of a transfer -/

theorem Writes.follows {bytes : Bytes} {result : Except Error Unit}
    (writes : handle.Writes bytes trace result) :
    Trace.Follows Event.Whole [.rewind handle, .write handle bytes] trace.calls result.isOk := by
  cases writes with
  | rewindFailed reason => exact .stopped (by simp [Event.Whole])
  | failed reason => exact .continued rfl (.stopped (by simp [Event.Whole]))
  | short count partly => exact .continued rfl (.stopped (by simpa [Event.Whole] using partly))
  | whole => exact .continued rfl (.continued rfl .finished)

/-- The two calls of a read are made in order, and the second only after the first one's success. -/
theorem Fills.follows {length : Nat} {delivery : Delivery}
    (fills : handle.Fills length trace delivery) :
    Trace.Follows Event.Whole [.rewind handle, .read handle length] trace.calls
      delivery.status.isOk := by
  cases fills with
  | failed reads =>
      cases reads with
      | rewindFailed reason => exact .stopped (by simp [Event.Whole])
      | failed reason => exact .continued rfl (.stopped (by simp [Event.Whole]))
  | short reads partly =>
      cases reads with
      | delivered bytes =>
          refine .continued rfl (.stopped ?_)
          rintro ⟨given, same, full⟩
          cases same
          exact partly full
  | whole reads full =>
      cases reads with
      | delivered bytes => exact .continued rfl (.continued ⟨bytes, rfl, full⟩ .finished)

/-- A block that was written leaves the one trace. -/
theorem Writes.trace_eq {bytes : Bytes} (writes : handle.Writes bytes trace (.ok ())) :
    trace = [⟨.rewind handle, .ok ()⟩, ⟨.write handle bytes, .ok bytes.length⟩,
      ⟨.note (.wrote handle.node bytes), ()⟩] := by
  cases writes
  rfl

/-- A block that was read leaves the one trace. -/
theorem Fills.trace_eq {length : Nat} {bytes : Bytes}
    (fills : handle.Fills length trace ⟨.ok (), bytes⟩) :
    ∃ full : bytes.length = length,
      trace = [⟨.rewind handle, .ok ()⟩, ⟨.read handle length, .ok ⟨bytes, Nat.le_of_eq full⟩⟩,
        ⟨.note (.delivered handle.node bytes), ()⟩] := by
  cases fills with
  | whole reads full =>
      cases reads
      exact ⟨full, rfl⟩

theorem ReadsSome.error_eq {limit : Nat} {error : Error}
    (reads : handle.ReadsSome limit trace (.error error)) : error = .transferFailed := by
  cases reads <;> rfl

theorem Fills.error_eq {length : Nat} {error : Error} {bytes : Bytes}
    (fills : handle.Fills length trace ⟨.error error, bytes⟩) : error = .transferFailed := by
  cases fills with
  | failed reads => exact reads.error_eq
  | short reads partly => rfl

/-- Writing a block reads nothing. -/
theorem Writes.not_mem_read {bytes : Bytes} {result : Except Error Unit} {other : Handle}
    {limit : Nat} {reply : Except IoError { bytes : Bytes // bytes.length ≤ limit }}
    (writes : handle.Writes bytes trace result) : ⟨.read other limit, reply⟩ ∉ trace := by
  cases writes <;> simp

theorem ReadsSome.of_mem_read {limit asked : Nat} {result : Except Error Bytes} {other : Handle}
    {bytes : { bytes : Bytes // bytes.length ≤ asked }}
    (reads : handle.ReadsSome limit trace result)
    (member : ⟨.read other asked, .ok bytes⟩ ∈ trace) :
    other = handle ∧ asked = limit ∧ result = .ok bytes.val := by
  cases reads <;> simp only [List.mem_cons, List.not_mem_nil, or_false] at member
  case rewindFailed reason => rcases member with same | same <;> cases same
  case failed reason => rcases member with same | same | same <;> cases same
  case delivered given =>
    rcases member with same | same | same <;> cases same
    exact ⟨rfl, rfl, rfl⟩

/-- The one read of a block tells what was delivered, and whether it was the block. -/
theorem Fills.of_mem_read {length asked : Nat} {delivery : Delivery} {other : Handle}
    {bytes : { bytes : Bytes // bytes.length ≤ asked }}
    (fills : handle.Fills length trace delivery)
    (member : ⟨.read other asked, .ok bytes⟩ ∈ trace) :
    other = handle ∧ bytes.val = delivery.bytes ∧
      (bytes.val.length = length → delivery.status = .ok ()) := by
  cases fills with
  | failed reads => cases (reads.of_mem_read member).2.2
  | short reads partly =>
      rcases List.mem_append.mp member with member | impossible
      · obtain ⟨rfl, -, same⟩ := reads.of_mem_read member
        cases same
        exact ⟨rfl, rfl, fun full => absurd full partly⟩
      · cases List.mem_singleton.mp impossible
  | whole reads full =>
      obtain ⟨rfl, -, same⟩ := reads.of_mem_read member
      cases same
      exact ⟨rfl, rfl, fun _ => rfl⟩

/-- A handle is closed after an attempt, and the result is that of the attempt. -/
theorem produces_closing_iff {α : Type} {attempt : Attempt α} {result : Except Error α} :
    (handle.closing attempt).run.Produces trace result ↔
      ∃ first, trace = first ++ [⟨.close handle, ()⟩] ∧ attempt.run.Produces first result := by
  unfold closing
  rw [ExceptT.run_mk, produces_bind_iff]
  constructor
  · rintro ⟨first, rest, value, rfl, produced, after⟩
    obtain ⟨done, close, rfl⟩ := produces_bind_done_iff.mp after
    rw [produces_close_iff.mp close]
    exact ⟨first, rfl, produced⟩
  · rintro ⟨first, rfl, produced⟩
    exact ⟨first, _, result, rfl, produced,
      produces_bind_done_iff.mpr ⟨(), produces_close_iff.mpr rfl, rfl⟩⟩

end ManagementUnit.Handle
