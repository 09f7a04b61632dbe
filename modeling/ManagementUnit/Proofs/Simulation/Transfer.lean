import ManagementUnit.Proofs.Dialogue.Run
import ManagementUnit.Proofs.Transfer

/-!
# Transfers with a driver at hand

Where it is known what a driver replies, a transfer goes one way only: its result is decided by how
many bytes the driver moved, and the driver is left as the two calls leave it.

* `Handle.Writes.of_replies`, `Handle.ReadsSome.of_replies`, `Handle.Fills.of_replies` — transfers
  in which no call fails.
-/

namespace ManagementUnit.Handle

open Driver

variable {σ : Type} {driver : Driver σ} {state next after last : σ} {handle : Handle}
  {trace : Trace}

/-- The replies to the two calls of a write decide its result and the state it leaves. -/
theorem Writes.of_replies {bytes : Bytes} {result : Except Error Unit} {count : Nat}
    (writes : handle.Writes bytes trace result) (answers : driver.Answers state trace last)
    (rewound : driver.reply (.rewind handle) state = (.ok (), next))
    (written : driver.reply (.write handle bytes) next = (.ok count, after)) :
    result = (if count = bytes.length then .ok () else .error .transferFailed) ∧ last = after := by
  cases writes with
  | rewindFailed reason =>
      rw [answers_cons_iff, rewound] at answers
      cases answers.1
  | failed reason =>
      rw [answers_cons_iff, rewound, answers_cons_iff, written] at answers
      cases answers.2.1
  | short other partly =>
      rw [answers_cons_iff, rewound, answers_cons_iff, written, answers_note_iff,
        answers_nil_iff] at answers
      obtain ⟨-, replied, rfl⟩ := answers
      cases replied
      exact ⟨(if_neg partly).symm, rfl⟩
  | whole =>
      rw [answers_cons_iff, rewound, answers_cons_iff, written, answers_note_iff,
        answers_nil_iff] at answers
      obtain ⟨-, replied, rfl⟩ := answers
      cases replied
      exact ⟨(if_pos rfl).symm, rfl⟩

theorem ReadsSome.of_replies {limit : Nat} {result : Except Error Bytes}
    {given : { bytes : Bytes // bytes.length ≤ limit }}
    (reads : handle.ReadsSome limit trace result) (answers : driver.Answers state trace last)
    (rewound : driver.reply (.rewind handle) state = (.ok (), next))
    (read : driver.reply (.read handle limit) next = (.ok given, after)) :
    result = .ok given.val ∧ last = after := by
  cases reads with
  | rewindFailed reason =>
      rw [answers_cons_iff, rewound] at answers
      cases answers.1
  | failed reason =>
      rw [answers_cons_iff, rewound, answers_cons_iff, read] at answers
      cases answers.2.1
  | delivered bytes =>
      rw [answers_cons_iff, rewound, answers_cons_iff, read, answers_note_iff,
        answers_nil_iff] at answers
      obtain ⟨-, replied, rfl⟩ := answers
      cases replied
      exact ⟨rfl, rfl⟩

/-- The replies to the two calls of a read decide its delivery and the state it leaves. -/
theorem Fills.of_replies {length : Nat} {delivery : Delivery}
    {given : { bytes : Bytes // bytes.length ≤ length }}
    (fills : handle.Fills length trace delivery) (answers : driver.Answers state trace last)
    (rewound : driver.reply (.rewind handle) state = (.ok (), next))
    (read : driver.reply (.read handle length) next = (.ok given, after)) :
    delivery = ⟨if given.val.length = length then .ok () else .error .transferFailed, given.val⟩ ∧
      last = after := by
  cases fills with
  | failed reads => cases (reads.of_replies answers rewound read).1
  | short reads partly =>
      obtain ⟨middle, reading, noted⟩ := answers_append_iff.mp answers
      obtain ⟨same, rfl⟩ := reads.of_replies reading rewound read
      cases same
      rw [if_neg partly]
      exact ⟨rfl, answers_nil_iff.mp (answers_note_iff.mp noted)⟩
  | whole reads full =>
      obtain ⟨same, rfl⟩ := reads.of_replies answers rewound read
      cases same
      rw [if_pos full]
      exact ⟨rfl, rfl⟩

end ManagementUnit.Handle
