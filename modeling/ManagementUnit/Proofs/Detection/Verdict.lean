import ManagementUnit.Proofs.Detection.Custody
import ManagementUnit.Proofs.Detection.Reception

/-!
# What detection decides

`Capabilities.verdict` tells from how a client is received at the descriptive files what the answer
has to be, one condition after the other, and how many files are looked at for it.

* `Capabilities.Detects.verdict` — the answer of a detection is the verdict on the receptions.
* `Capabilities.detect_decided` — this covers all detections, whatever the driver replies.
-/

namespace ManagementUnit

open Dialogue

/-- What is found out about a file: it cannot be opened, it opens and cannot be repositioned or
read, or the read delivers these bytes. -/
inductive Finding where
  | absent
  | unread
  | delivered (bytes : Bytes)

/-- What is found out by opening a file and reading at most `limit` bytes. -/
def Reception.finding (reception : Reception) (limit : Nat) : Finding :=
  match reception.opening with
  | .error _ => .absent
  | .ok _ => (reception.text? limit).elim .unread .delivered

/-! ### The verdict -/

/-- What has to be answered, and how many files are looked at for it. -/
structure Verdict (α : Type) where
  asked : Nat
  answer : Except Error α

namespace Capabilities

/-- What there is to answer about the power table. -/
def tableVerdict (files : Node → Reception) : Verdict PowerTable.Info :=
  match (files .pmTableVersion).finding 4 with
  | .absent => ⟨1, .ok ⟨0, 0⟩⟩
  | .unread => ⟨1, .error .transferFailed⟩
  | .delivered version =>
    if version.length ≠ 4 then ⟨1, .error .transferFailed⟩
    else
      match (files .pmTableSize).finding 4 with
      | .absent => ⟨2, .error .transferFailed⟩
      | .unread => ⟨2, .error .transferFailed⟩
      | .delivered size =>
        if size.length ≠ 4 then ⟨2, .error .transferFailed⟩
        else ⟨2, .ok ⟨Word.decode version, Word.decode size⟩⟩

/-- What there is to answer about the platform. -/
def verdict (files : Node → Reception) : Verdict Capabilities :=
  match (files .version).finding 12 with
  | .absent => ⟨1, .error .driverAbsent⟩
  | .unread => ⟨1, .error .transferFailed⟩
  | .delivered text =>
    match Version.parse text with
    | .error _ => ⟨1, .error .transferFailed⟩
    | .ok version =>
      match (files .codename).finding 3 with
      | .absent => ⟨2, .error .driverAbsent⟩
      | .unread => ⟨2, .error .transferFailed⟩
      | .delivered text =>
        match Codename.parse text with
        | .error _ => ⟨2, .error .unsupported⟩
        | .ok codename =>
          let table := tableVerdict files
          ⟨2 + table.asked, table.answer.map fun info => ⟨version, codename, info⟩⟩

end Capabilities

/-- The files that were to be opened, in order. -/
def Trace.asked (trace : Trace) : List Node :=
  trace.filterMap fun
    | ⟨.acquire node _, _⟩ => some node
    | _ => none

theorem Trace.asked_append (first rest : Trace) :
    asked (first ++ rest) = asked first ++ asked rest :=
  List.filterMap_append

variable {files : Node → Reception} {trace : Trace}

namespace Handle

variable {handle : Handle} {limit : Nat}

theorem ReadsSome.asked_eq {result : Except Error Bytes}
    (reads : handle.ReadsSome limit trace result) : trace.asked = [] := by
  cases reads <;> rfl

theorem Fills.asked_eq {length : Nat} {delivery : Delivery}
    (fills : handle.Fills length trace delivery) : trace.asked = [] := by
  cases fills with
  | failed reads | whole reads full => exact reads.asked_eq
  | short reads partly =>
      rw [Trace.asked_append, reads.asked_eq]
      rfl

end Handle

namespace Capabilities

/-! ### What is found out -/

theorem asked_visit (node : Node) (serial : Nat) (inside : Trace) :
    (visit node serial inside).asked = node :: inside.asked := by
  change node :: Trace.asked (inside ++ [⟨.close ⟨node, serial⟩, ()⟩]) = node :: inside.asked
  rw [Trace.asked_append]
  exact congrArg (node :: ·) (List.append_nil _)

section Findings

variable {node : Node} {serial : Nat} {limit : Nat} {inside : Trace}

theorem finding_of_error {reason : IoError} (refused : (files node).opening = .error reason) :
    (files node).finding limit = .absent := by
  unfold Reception.finding
  rw [refused]

theorem finding_of_readsSome {result : Except Error Bytes}
    (opened : (files node).opening = .ok serial)
    (reads : Handle.ReadsSome ⟨node, serial⟩ limit inside result)
    (answers : (Reception.driver files).Answers () inside ()) :
    (files node).finding limit = result.toOption.elim .unread .delivered := by
  have text : (files node).text? limit = result.toOption := reads.text?_eq answers
  unfold Reception.finding
  rw [opened, text]

theorem finding_of_filled {bytes : Bytes} (opened : (files node).opening = .ok serial)
    (fills : Handle.Fills ⟨node, serial⟩ limit inside ⟨.ok (), bytes⟩)
    (answers : (Reception.driver files).Answers () inside ()) :
    (files node).finding limit = .delivered bytes ∧ bytes.length = limit := by
  cases fills with
  | whole reads full => exact ⟨finding_of_readsSome opened reads answers, full⟩

/-- A block that is not delivered whole is a failed transfer. -/
theorem finding_of_unfilled {error : Error} {bytes : Bytes}
    (opened : (files node).opening = .ok serial)
    (fills : Handle.Fills ⟨node, serial⟩ limit inside ⟨.error error, bytes⟩)
    (answers : (Reception.driver files).Answers () inside ()) :
    error = .transferFailed ∧ ((files node).finding limit = .unread ∨
      (files node).finding limit = .delivered bytes ∧ bytes.length ≠ limit) := by
  cases fills with
  | failed reads =>
      exact ⟨reads.error_eq, Or.inl (finding_of_readsSome opened reads answers)⟩
  | short reads partly =>
      obtain ⟨middle, before, -⟩ := Driver.answers_append_iff.mp answers
      exact ⟨rfl, Or.inr ⟨finding_of_readsSome opened reads before, partly⟩⟩

end Findings

/-! ### What the files tell -/

/-- What a text tells, or the error that there is none. -/
def tell {α : Type} (parse : Bytes → Except Error α) : Finding → Except Error α
  | .absent => .error .driverAbsent
  | .unread => .error .transferFailed
  | .delivered text => parse text

/-- What a visit tells is read off the finding at its file, whatever was replied at other files. -/
theorem Describes.result_eq {α : Type} {node : Node} {limit : Nat}
    {parse : Bytes → Except Error α} {malformed : Bytes → Notice} {result : Except Error α}
    (describes : Describes node limit parse malformed trace result)
    (answers : (Reception.driver files).Answers () trace ()) :
    result = tell parse ((files node).finding limit) := by
  cases describes with
  | absent reason =>
      rw [finding_of_error (answers_refused_iff.mp answers)]
      rfl
  | unread serial reads =>
      obtain ⟨opened, used⟩ := answers_visit_iff.mp answers
      rw [finding_of_readsSome opened reads used, reads.error_eq]
      rfl
  | malformed serial reads refused =>
      obtain ⟨opened, used⟩ := answers_visit_iff.mp answers
      obtain ⟨middle, before, -⟩ := Driver.answers_append_iff.mp used
      rw [finding_of_readsSome opened reads before]
      exact refused.symm
  | described serial reads parsed =>
      obtain ⟨opened, used⟩ := answers_visit_iff.mp answers
      rw [finding_of_readsSome opened reads used]
      exact parsed.symm

theorem Describes.asked_eq {α : Type} {node : Node} {limit : Nat}
    {parse : Bytes → Except Error α} {malformed : Bytes → Notice} {result : Except Error α}
    (describes : Describes node limit parse malformed trace result) : trace.asked = [node] := by
  cases describes with
  | absent reason => rfl
  | unread serial reads | described serial reads parsed => rw [asked_visit, reads.asked_eq]
  | malformed serial reads refused =>
      rw [asked_visit, Trace.asked_append, reads.asked_eq]
      rfl

/-- The metadata is the table's verdict, and the size is asked for only if the verdict counts it. -/
theorem DescribesTable.verdict {result : Except Error PowerTable.Info}
    (describes : DescribesTable trace result)
    (answers : (Reception.driver files).Answers () trace ()) :
    result = (tableVerdict files).answer ∧
      trace.asked = [.pmTableVersion, .pmTableSize].take (tableVerdict files).asked := by
  unfold tableVerdict
  cases describes with
  | absent reason =>
      rw [finding_of_error (answers_refused_iff.mp answers)]
      exact ⟨rfl, rfl⟩
  | versionUnread serial reads =>
      obtain ⟨opened, used⟩ := answers_visit_iff.mp answers
      obtain ⟨rfl, found | ⟨found, partly⟩⟩ := finding_of_unfilled opened reads used
      · simp [found, asked_visit, reads.asked_eq]
      · simp [found, partly, asked_visit, reads.asked_eq]
  | sizeAbsent serial reason reads =>
      obtain ⟨middle, before, after⟩ := Driver.answers_append_iff.mp answers
      obtain ⟨opened, used⟩ := answers_visit_iff.mp before
      obtain ⟨found, full⟩ := finding_of_filled opened reads used
      have missing : (files .pmTableSize).finding 4 = .absent :=
        finding_of_error (answers_refused_iff.mp after)
      rw [Trace.asked_append, asked_visit, reads.asked_eq]
      simp [found, full, missing, Trace.asked]
  | sizeUnread serial next reads sizes =>
      obtain ⟨middle, before, after⟩ := Driver.answers_append_iff.mp answers
      obtain ⟨opened, used⟩ := answers_visit_iff.mp before
      obtain ⟨reopened, sized⟩ := answers_visit_iff.mp after
      obtain ⟨found, full⟩ := finding_of_filled opened reads used
      rw [Trace.asked_append, asked_visit, asked_visit, reads.asked_eq, sizes.asked_eq]
      obtain ⟨rfl, also | ⟨also, partly⟩⟩ := finding_of_unfilled reopened sizes sized
      · simp [found, full, also]
      · simp [found, full, also, partly]
  | described serial next reads sizes =>
      obtain ⟨middle, before, after⟩ := Driver.answers_append_iff.mp answers
      obtain ⟨opened, used⟩ := answers_visit_iff.mp before
      obtain ⟨reopened, sized⟩ := answers_visit_iff.mp after
      obtain ⟨found, full⟩ := finding_of_filled opened reads used
      obtain ⟨also, filled⟩ := finding_of_filled reopened sizes sized
      rw [Trace.asked_append, asked_visit, asked_visit, reads.asked_eq, sizes.asked_eq]
      simp [found, full, also, filled, PowerTable.Info.decode]

/-- A text tells something only if it is delivered. -/
theorem exists_delivered_of_tell {α : Type} {parse : Bytes → Except Error α} {finding : Finding}
    {value : α} (told : .ok value = tell parse finding) :
    ∃ text, finding = .delivered text ∧ parse text = .ok value := by
  cases finding with
  | absent | unread => cases told
  | delivered text => exact ⟨text, rfl, told.symm⟩

/-- Detection answers the verdict and asks for as many files as the verdict counts. -/
theorem Detects.verdict {result : Except Error Capabilities} (detects : Detects trace result)
    (answers : (Reception.driver files).Answers () trace ()) :
    result = (verdict files).answer ∧
      trace.asked = Node.descriptive.take (verdict files).asked := by
  have named {first second : Trace} {version : Version} {codename : Except Error Codename}
      (versions : DescribesVersion first (.ok version)) (names : DescribesCodename second codename)
      (answers : (Reception.driver files).Answers () (first ++ second) ()) :
      (∃ text, (files .version).finding 12 = .delivered text ∧ Version.parse text = .ok version) ∧
        codename = tell Codename.parse ((files .codename).finding 3) ∧
        (first ++ second).asked = [.version, .codename] := by
    obtain ⟨middle, before, after⟩ := Driver.answers_append_iff.mp answers
    refine ⟨exists_delivered_of_tell (versions.result_eq before), names.result_eq after, ?_⟩
    rw [Trace.asked_append, versions.asked_eq, names.asked_eq]
    rfl
  -- The verdict looks at the same findings in the same order, so each way fixes its branch.
  unfold Capabilities.verdict
  cases detects with
  | @unversioned first error versions =>
      have told : .error error = tell Version.parse ((files .version).finding 12) :=
        versions.result_eq answers
      rw [versions.asked_eq]
      cases found : (files .version).finding 12 with
      | absent | unread =>
          rw [found] at told
          cases told
          exact ⟨rfl, rfl⟩
      | delivered text =>
          rw [found] at told
          have parsed : Version.parse text = .error error := told.symm
          simp [parsed, Version.error_of_parse parsed, Node.descriptive]
  | unnamed versions names =>
      obtain ⟨⟨text, found, parsed⟩, told, asked⟩ := named versions names answers
      rw [asked]
      cases also : (files .codename).finding 3 with
      | absent | unread =>
          rw [also] at told
          cases told
          simp [found, parsed, Node.descriptive]
      | delivered name =>
          rw [also] at told
          have refused : Codename.parse name = .error _ := told.symm
          simp [found, parsed, refused, Codename.error_of_parse refused, Node.descriptive]
  | untabled versions names tables | detected versions names tables =>
      obtain ⟨middle, before, after⟩ := Driver.answers_append_iff.mp answers
      obtain ⟨⟨text, found, parsed⟩, told, asked⟩ := named versions names before
      obtain ⟨name, also, read⟩ := exists_delivered_of_tell told
      obtain ⟨same, looked⟩ := tables.verdict after
      have counted : [.version, .codename] ++
          [.pmTableVersion, .pmTableSize].take (tableVerdict files).asked =
            Node.descriptive.take (2 + (tableVerdict files).asked) := by
        rw [Nat.add_comm]
        rfl
      rw [Trace.asked_append, asked, looked, counted]
      simp [found, parsed, also, read, ← same, Except.map]

/-- How a detection goes and what it answers: the answer is the verdict. The files are looked at in
order and no more of them than are needed, one after the other, and none is left open. -/
structure Decided (files : Node → Reception) (trace : Trace) (result : Except Error Capabilities) :
    Prop where
  answer_eq : result = (verdict files).answer
  asked_eq : trace.asked = Node.descriptive.take (verdict files).asked
  alone : Trace.Obeys Trace.OneAtATime [] trace
  left : trace.openAfter [] = []

/-- However a client is received at the files, detection answers the verdict on that; and any trace
that detection can lead through comes from some receptions. -/
theorem detect_decided :
    (∀ files, Decided files (detect.run.run (Reception.driver files) ()).trace
      (detect.run.run (Reception.driver files) ()).value) ∧
    ∀ trace result, detect.run.Produces trace result ↔
      ∃ files, detect.run.run (Reception.driver files) () = ⟨result, (), trace⟩ := by
  constructor
  · intro files
    obtain ⟨produced, answers⟩ := run_spec (Reception.driver files) detect.run ()
    have detects := Detects.of_produces produced
    obtain ⟨answer, asked⟩ := detects.verdict answers
    exact ⟨answer, asked, detects.separate.alone [] rfl, detects.separate.left⟩
  · intro trace result
    constructor
    · intro produced
      obtain ⟨files, answers⟩ := (Detects.of_produces produced).exists_receptions
      exact ⟨files, run_eq_iff.mpr ⟨produced, answers⟩⟩
    · rintro ⟨files, ran⟩
      exact (run_eq_iff.mp ran).1

end Capabilities

end ManagementUnit
