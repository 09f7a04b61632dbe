import ManagementUnit.Proofs.Detection.Visits
import ManagementUnit.Proofs.Dialogue.Run

/-!
# How a client is received at a file

Detection looks at each file at most once, so all that matters of a driver is how it receives a
client at each of the descriptive files: what it replies to opening, repositioning and reading them.

* `Handle.ReadsSome.text?_eq` — what a transfer reads is what the reception gives.
* `Capabilities.Detects.exists_receptions` — every trace of a detection comes from some receptions.
-/

namespace ManagementUnit

open Dialogue

/-- How a client is received at a file: the replies to opening and repositioning it, and what there
is to read. A read delivers as much of that as was asked for. -/
structure Reception where
  opening : Except IoError Nat
  rewinding : Except IoError Unit
  reading : Except IoError Bytes

namespace Reception

/-- The reply to reading at most `limit` bytes. -/
def delivery (reception : Reception) (limit : Nat) :
    Except IoError { bytes : Bytes // bytes.length ≤ limit } :=
  reception.reading.map fun contents => ⟨contents.take limit, List.length_take_le limit contents⟩

/-- What is read from the start of the file, if nothing fails. -/
def text? (reception : Reception) (limit : Nat) : Option Bytes :=
  match reception.rewinding, reception.delivery limit with
  | .ok (), .ok bytes => some bytes.val
  | _, _ => none

/-- A file that cannot be opened. -/
def refusal (reason : IoError) : Reception := ⟨.error reason, .error reason, .error reason⟩

/-- The driver that receives its clients so. It is not written to. -/
def driver (files : Node → Reception) : Driver Unit where
  acquire node _ state := ((files node).opening, state)
  rewind handle state := ((files handle.node).rewinding, state)
  read handle limit state := ((files handle.node).delivery limit, state)
  write _ _ state := (.error (.kind .invalidInput), state)
  close _ state := state

end Reception

variable {files : Node → Reception} {trace : Trace}

/-! ### Transfers -/

namespace Handle

variable {handle : Handle} {limit : Nat}

theorem ReadsSome.text?_eq {result : Except Error Bytes}
    (reads : handle.ReadsSome limit trace result)
    (answers : (Reception.driver files).Answers () trace ()) :
    (files handle.node).text? limit = result.toOption := by
  unfold Reception.text?
  cases reads with
  | rewindFailed reason =>
      have rewound : .error reason = (files handle.node).rewinding :=
        (Driver.answers_cons_iff.mp answers).1
      rw [← rewound]
      rfl
  | failed reason | delivered bytes =>
      obtain ⟨rewound, rest⟩ := Driver.answers_cons_iff.mp answers
      have rewound : .ok () = (files handle.node).rewinding := rewound
      have read : _ = (files handle.node).delivery limit := (Driver.answers_cons_iff.mp rest).1
      rw [← rewound, ← read]
      rfl

/-- Whatever comes of reading a file, it can come of it. -/
theorem ReadsSome.exists_reception {result : Except Error Bytes}
    (reads : handle.ReadsSome limit trace result) (opening : Except IoError Nat) :
    ∃ reception : Reception, reception.opening = opening ∧
      ∀ files, files handle.node = reception → (Reception.driver files).Answers () trace () := by
  cases reads with
  | rewindFailed reason =>
      refine ⟨⟨opening, .error reason, .error reason⟩, rfl, fun files received => ?_⟩
      refine Driver.answers_cons_iff.mpr ⟨?_, Driver.answers_note_iff.mpr (.nil ())⟩
      exact congrArg Reception.rewinding received.symm
  | failed reason =>
      refine ⟨⟨opening, .ok (), .error reason⟩, rfl, fun files received => ?_⟩
      refine Driver.answers_cons_iff.mpr ⟨congrArg Reception.rewinding received.symm, ?_⟩
      refine Driver.answers_cons_iff.mpr ⟨?_, Driver.answers_note_iff.mpr (.nil ())⟩
      exact congrArg (Reception.delivery · limit) received.symm
  | delivered bytes =>
      refine ⟨⟨opening, .ok (), .ok bytes.val⟩, rfl, fun files received => ?_⟩
      refine Driver.answers_cons_iff.mpr ⟨congrArg Reception.rewinding received.symm, ?_⟩
      refine Driver.answers_cons_iff.mpr ⟨?_, Driver.answers_note_iff.mpr (.nil ())⟩
      have whole : bytes = ⟨bytes.val.take limit, List.length_take_le limit bytes.val⟩ :=
        Subtype.ext (List.take_of_length_le bytes.property).symm
      have delivered : Except.ok bytes = (files handle.node).delivery limit := by
        rw [received]
        exact congrArg Except.ok whole
      exact delivered

theorem Fills.exists_reception {length : Nat} {delivery : Delivery}
    (fills : handle.Fills length trace delivery) (opening : Except IoError Nat) :
    ∃ reception : Reception, reception.opening = opening ∧
      ∀ files, files handle.node = reception → (Reception.driver files).Answers () trace () := by
  cases fills with
  | failed reads | whole reads full => exact reads.exists_reception opening
  | short reads partly =>
      obtain ⟨reception, opened, answers⟩ := reads.exists_reception opening
      refine ⟨reception, opened, fun files received => ?_⟩
      exact Driver.answers_append_iff.mpr
        ⟨(), answers files received, Driver.answers_note_iff.mpr (.nil ())⟩

end Handle

namespace Capabilities

/-! ### Visits -/

theorem answers_visit_iff {node : Node} {serial : Nat} {inside : Trace} :
    (Reception.driver files).Answers () (visit node serial inside) () ↔
      (files node).opening = .ok serial ∧ (Reception.driver files).Answers () inside () := by
  unfold visit
  rw [Driver.answers_cons_iff, Driver.answers_append_iff]
  constructor
  · rintro ⟨opened, middle, used, -⟩
    exact ⟨opened.symm, used⟩
  · rintro ⟨opened, used⟩
    exact ⟨opened.symm, (), used, .cons (.nil ())⟩

theorem answers_refused_iff {node : Node} {reason : IoError} {notice : Notice} :
    (Reception.driver files).Answers ()
        [⟨.acquire node node.access, .error reason⟩, ⟨.note notice, ()⟩] () ↔
      (files node).opening = .error reason := by
  rw [Driver.answers_cons_iff]
  constructor
  · rintro ⟨refused, -⟩
    exact refused.symm
  · intro refused
    exact ⟨refused.symm, Driver.answers_note_iff.mpr (.nil ())⟩

/-! ### Every detection comes from receptions -/

/-- A visit calls for one reception of its own file, whatever the others are. -/
theorem Describes.exists_reception {α : Type} {node : Node} {limit : Nat}
    {parse : Bytes → Except Error α} {malformed : Bytes → Notice} {result : Except Error α}
    (describes : Describes node limit parse malformed trace result) :
    ∃ reception : Reception, ∀ files, files node = reception →
      (Reception.driver files).Answers () trace () := by
  cases describes with
  | absent reason =>
      refine ⟨.refusal reason, fun files received => ?_⟩
      exact answers_refused_iff.mpr (by rw [received, Reception.refusal])
  | unread serial reads | described serial reads parsed =>
      obtain ⟨reception, opened, used⟩ := reads.exists_reception (.ok serial)
      refine ⟨reception, fun files received => ?_⟩
      exact answers_visit_iff.mpr ⟨by rw [received, opened], used files received⟩
  | malformed serial reads refused =>
      obtain ⟨reception, opened, used⟩ := reads.exists_reception (.ok serial)
      refine ⟨reception, fun files received => ?_⟩
      exact answers_visit_iff.mpr ⟨by rw [received, opened], Driver.answers_append_iff.mpr
        ⟨(), used files received, Driver.answers_note_iff.mpr (.nil ())⟩⟩

/-- The two words are of two files, so the receptions that their visits call for do not conflict.
The files are left open here, for a trace that visits others too. -/
theorem DescribesTable.exists_receptions {result : Except Error PowerTable.Info}
    (describes : DescribesTable trace result) :
    ∃ version size : Reception, ∀ files, files .pmTableVersion = version →
      files .pmTableSize = size → (Reception.driver files).Answers () trace () := by
  have visited {node : Node} {serial : Nat} {inside : Trace} {delivery : Delivery}
      (fills : Handle.Fills ⟨node, serial⟩ 4 inside delivery) :
      ∃ reception : Reception, ∀ files, files node = reception →
        (Reception.driver files).Answers () (visit node serial inside) () := by
    obtain ⟨reception, opened, used⟩ := fills.exists_reception (.ok serial)
    refine ⟨reception, fun files received => ?_⟩
    exact answers_visit_iff.mpr ⟨by rw [received, opened], used files received⟩
  cases describes with
  | absent reason =>
      refine ⟨.refusal reason, .refusal reason, fun files received _ => ?_⟩
      exact answers_refused_iff.mpr (by rw [received, Reception.refusal])
  | versionUnread serial reads =>
      obtain ⟨version, answers⟩ := visited reads
      exact ⟨version, version, fun files received _ => answers files received⟩
  | sizeAbsent serial reason reads =>
      obtain ⟨version, answers⟩ := visited reads
      refine ⟨version, .refusal reason, fun files received missing => ?_⟩
      refine Driver.answers_append_iff.mpr ⟨(), answers files received, ?_⟩
      exact answers_refused_iff.mpr (by rw [missing, Reception.refusal])
  | sizeUnread serial next reads sizes | described serial next reads sizes =>
      obtain ⟨version, answers⟩ := visited reads
      obtain ⟨size, sized⟩ := visited sizes
      refine ⟨version, size, fun files received measured => ?_⟩
      exact Driver.answers_append_iff.mpr ⟨(), answers files received, sized files measured⟩

/-- Every detection goes as it does with some receptions, so what is decided for all receptions is
decided for every reply of every driver. -/
theorem Detects.exists_receptions {result : Except Error Capabilities}
    (detects : Detects trace result) : ∃ files, (Reception.driver files).Answers () trace () := by
  cases detects with
  | unversioned versions =>
      obtain ⟨version, answers⟩ := versions.exists_reception
      exact ⟨fun _ => version, answers _ rfl⟩
  | unnamed versions names =>
      obtain ⟨version, before⟩ := versions.exists_reception
      obtain ⟨codename, after⟩ := names.exists_reception
      refine ⟨fun | .version => version | _ => codename, ?_⟩
      exact Driver.answers_append_iff.mpr ⟨(), before _ rfl, after _ rfl⟩
  | untabled versions names tables | detected versions names tables =>
      obtain ⟨version, before⟩ := versions.exists_reception
      obtain ⟨codename, after⟩ := names.exists_reception
      obtain ⟨tableVersion, tableSize, last⟩ := tables.exists_receptions
      refine ⟨fun
        | .version => version
        | .codename => codename
        | .pmTableVersion => tableVersion
        | _ => tableSize, ?_⟩
      exact Driver.answers_append_iff.mpr
        ⟨(), Driver.answers_append_iff.mpr ⟨(), before _ rfl, after _ rfl⟩, last _ rfl rfl⟩

end Capabilities

end ManagementUnit
