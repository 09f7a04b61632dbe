import ManagementUnit.Proofs.Detection.Visits
import ManagementUnit.Proofs.Simulation.Scripted

/-!
# The texts that are read for detection

A detection that succeeds has read the version and the codename once each, and these two texts tell
what was detected. With the scripted driver they are fronts of the files. A fault can make them
shorter than what was asked for, and nothing else.

* `Capabilities.Detects.exists_told` — the two texts of a detection.
* `Simulation.Scripted.prefix_of_mem_texts` — a text that was read is a front of its file.
* `Simulation.Scripted.texts_of_detects` — without a fault it is as long as it was asked for.
-/

namespace ManagementUnit

open Dialogue

/-- What a read of a file delivered. -/
def Event.text? (node : Node) : Event → Option Bytes
  | ⟨.read handle _, .ok bytes⟩ => if handle.node = node then some bytes.val else none
  | _ => none

/-- What the reads of a file delivered, in order. -/
def Trace.texts (node : Node) (trace : Trace) : List Bytes :=
  trace.filterMap (Event.text? node)

theorem Trace.texts_append (node : Node) (first rest : Trace) :
    texts node (first ++ rest) = texts node first ++ texts node rest :=
  List.filterMap_append

variable {trace : Trace} {node other : Node}

namespace Handle

variable {handle : Handle}

theorem ReadsSome.texts_eq {limit : Nat} {text : Bytes}
    (reads : handle.ReadsSome limit trace (.ok text)) :
    text.length ≤ limit ∧ trace.texts handle.node = [text] := by
  cases reads with
  | delivered bytes =>
      exact ⟨bytes.property, by simp [Trace.texts, List.filterMap_cons, Event.text?]⟩

theorem ReadsSome.texts_of_ne {limit : Nat} {result : Except Error Bytes}
    (reads : handle.ReadsSome limit trace result) (foreign : handle.node ≠ node) :
    trace.texts node = [] := by
  cases reads <;> simp [Trace.texts, Event.text?, foreign]

theorem Fills.texts_of_ne {length : Nat} {delivery : Delivery}
    (fills : handle.Fills length trace delivery) (foreign : handle.node ≠ node) :
    trace.texts node = [] := by
  cases fills with
  | failed reads | whole reads full => exact reads.texts_of_ne foreign
  | short reads partly =>
      rw [Trace.texts_append, reads.texts_of_ne foreign]
      rfl

end Handle

namespace Capabilities

theorem texts_visit (serial : Nat) (inside : Trace) :
    (visit other serial inside).texts node = inside.texts node := by
  change Trace.texts node (inside ++ [⟨.close ⟨other, serial⟩, ()⟩]) = inside.texts node
  rw [Trace.texts_append]
  exact List.append_nil _

section Descriptions

variable {α : Type} {limit : Nat} {parse : Bytes → Except Error α} {malformed : Bytes → Notice}

/-- A descriptive file tells something by the one text that is read of it. -/
theorem Describes.exists_text {value : α}
    (describes : Describes node limit parse malformed trace (.ok value)) :
    ∃ text, trace.texts node = [text] ∧ text.length ≤ limit ∧ parse text = .ok value := by
  cases describes with
  | described serial reads parsed =>
      obtain ⟨short, read⟩ := reads.texts_eq
      exact ⟨_, (texts_visit serial _).trans read, short, parsed⟩

theorem Describes.texts_of_ne {result : Except Error α}
    (describes : Describes other limit parse malformed trace result) (foreign : other ≠ node) :
    trace.texts node = [] := by
  cases describes with
  | absent reason => rfl
  | unread serial reads | described serial reads parsed =>
      rw [texts_visit, reads.texts_of_ne foreign]
  | malformed serial reads refused =>
      rw [texts_visit, Trace.texts_append, reads.texts_of_ne foreign]
      rfl

end Descriptions

theorem DescribesTable.texts_of_ne {result : Except Error PowerTable.Info}
    (describes : DescribesTable trace result) (unversioned : .pmTableVersion ≠ node)
    (unsized : .pmTableSize ≠ node) : trace.texts node = [] := by
  cases describes with
  | absent reason => rfl
  | versionUnread serial reads => rw [texts_visit, reads.texts_of_ne unversioned]
  | sizeAbsent serial reason reads =>
      rw [Trace.texts_append, texts_visit, reads.texts_of_ne unversioned]
      rfl
  | sizeUnread serial next reads sizes | described serial next reads sizes =>
      rw [Trace.texts_append, texts_visit, texts_visit, reads.texts_of_ne unversioned,
        sizes.texts_of_ne unsized]
      rfl

/-- The texts that a detection read, and what they tell. -/
structure Told (capabilities : Capabilities) (trace : Trace) (text name : Bytes) : Prop where
  version_texts : trace.texts .version = [text]
  version_length : text.length ≤ 12
  version_parsed : Version.parse text = .ok capabilities.version
  codename_texts : trace.texts .codename = [name]
  codename_length : name.length ≤ 3
  codename_parsed : Codename.parse name = .ok capabilities.codename

section Detected

variable {first second third : Trace} {version : Except Error Version}
  {codename : Except Error Codename} {table : Except Error PowerTable.Info}

/-- The version is read at one place of a detection and the codename at another. -/
theorem texts_detected (versions : DescribesVersion first version)
    (names : DescribesCodename second codename) (tables : DescribesTable third table) :
    (first ++ second ++ third).texts .version = first.texts .version ∧
      (first ++ second ++ third).texts .codename = second.texts .codename := by
  simp only [Trace.texts_append]
  constructor
  · rw [names.texts_of_ne (by decide), tables.texts_of_ne (by decide) (by decide),
      List.append_nil, List.append_nil]
  · rw [versions.texts_of_ne (by decide), tables.texts_of_ne (by decide) (by decide),
      List.nil_append, List.append_nil]

end Detected

/-- What is detected is what two texts tell. -/
theorem Detects.exists_told {capabilities : Capabilities}
    (detects : Detects trace (.ok capabilities)) :
    ∃ text name, capabilities.Told trace text name := by
  cases detects with
  | detected versions names tables =>
      obtain ⟨ofVersion, ofCodename⟩ := texts_detected versions names tables
      obtain ⟨text, read, short, parsed⟩ := versions.exists_text
      obtain ⟨name, also, brief, named⟩ := names.exists_text
      exact ⟨text, name, ofVersion.trans read, short, parsed, ofCodename.trans also, brief, named⟩

end Capabilities

/-! ### The scripted driver's files -/

namespace Simulation.Scripted

variable {state last : Scripted} {text : Bytes}

/-- A descriptive file is no register. -/
theorem contents_of_mem_descriptive (state : Scripted) (member : node ∈ Node.descriptive) :
    state.contents node = (state.files node).getD [] := by
  unfold contents
  cases node with
  | version | codename | pmTableVersion | pmTableSize => rfl
  | pmTable | smn | smuArgs | smuCmd => exact absurd member (by decide)

theorem files_acquire (node : Node) (access : Access) (state : Scripted) :
    (acquire node access state).2.files = state.files := by
  have kept := files_takeFault state node .acquire
  unfold acquire
  split
  · simp_all
  · split <;> simp_all

theorem files_rewind (handle : Handle) (state : Scripted) :
    (rewind handle state).2.files = state.files := by
  have kept := files_takeFault state handle.node .rewind
  unfold rewind
  split <;> simp_all

theorem files_read (handle : Handle) (limit : Nat) (state : Scripted) :
    (read handle limit state).2.files = state.files := by
  have kept := files_takeFault state handle.node .read
  unfold read
  split <;> simp_all

theorem files_write (handle : Handle) (bytes : Bytes) (state : Scripted) :
    (write handle bytes state).2.files = state.files := by
  have kept := files_takeFault state handle.node .write
  unfold write
  split
  · simp_all
  · simp_all
  · simp_all
  · split <;> simp_all

/-- No call changes what files there are. -/
theorem files_reply (action : Action) (state : Scripted) :
    (driver.reply action state).2.files = state.files := by
  cases action with
  | acquire node access => exact files_acquire node access state
  | rewind handle => exact files_rewind handle state
  | read handle limit => exact files_read handle limit state
  | write handle bytes => exact files_write handle bytes state
  | close handle => rfl
  | note notice => rfl

/-- What a call delivers of a descriptive file is a front of it. -/
theorem prefix_of_text? {action : Action} (member : node ∈ Node.descriptive)
    (delivered : text ∈ Event.text? node ⟨action, (driver.reply action state).1⟩) :
    text <+: (state.files node).getD [] := by
  cases action with
  | acquire node access | rewind handle | write handle bytes | close handle | note notice =>
      cases delivered
  | read handle limit =>
      cases replied : (read handle limit state).1 with
      | error reason =>
          rw [reply_read, replied] at delivered
          cases delivered
      | ok bytes =>
          rw [reply_read, replied] at delivered
          by_cases own : handle.node = node
          · simp only [Event.text?, if_pos own, Option.mem_def, Option.some.injEq] at delivered
            have front := prefix_of_read replied
            rwa [delivered, own, contents_of_mem_descriptive state member] at front
          · simp [Event.text?, own] at delivered

/-- Whatever is done with the driver, what is read of a descriptive file is a front of it. -/
theorem prefix_of_mem_texts (member : node ∈ Node.descriptive)
    (answers : driver.Answers state trace last) (read : text ∈ trace.texts node) :
    text <+: (state.files node).getD [] := by
  induction answers with
  | nil state => cases read
  | cons rest ih =>
      obtain ⟨event, isEvent, delivered⟩ := List.mem_filterMap.mp read
      rcases List.mem_cons.mp isEvent with rfl | later
      · exact prefix_of_text? member delivered
      · rw [← files_reply]
        exact ih (List.mem_filterMap.mpr ⟨event, later, delivered⟩)

/-! ### Reads without a fault -/

theorem fst_takeFault_congr {next : Scripted} {call : CallKind}
    (same : state.faults node call = next.faults node call) :
    (state.takeFault node call).1 = (next.takeFault node call).1 := by
  unfold takeFault
  rw [same]
  split <;> rfl

/-- A call takes no fault that waits for calls of another kind. -/
theorem faults_takeFault_of_ne (state : Scripted) (node other : Node) {call kind : CallKind}
    (foreign : kind ≠ call) :
    (state.takeFault other call).2.faults node kind = state.faults node kind := by
  unfold takeFault
  split
  · rfl
  · by_cases own : node = other
    · dsimp only
      rw [own, assign_self, assign_of_ne _ _ foreign]
    · dsimp only
      rw [assign_of_ne _ _ own]

theorem faults_acquire (node other : Node) (access : Access) (state : Scripted) :
    (acquire other access state).2.faults node .read = state.faults node .read := by
  have kept : (state.takeFault other .acquire).2.faults node .read = state.faults node .read :=
    faults_takeFault_of_ne state node other (by decide)
  unfold acquire
  split
  · simp_all
  · split <;> simp_all

theorem faults_rewind (node : Node) (handle : Handle) (state : Scripted) :
    (rewind handle state).2.faults node .read = state.faults node .read := by
  have kept : (state.takeFault handle.node .rewind).2.faults node .read = state.faults node .read :=
    faults_takeFault_of_ne state node handle.node (by decide)
  unfold rewind
  split <;> simp_all

/-- Without a fault as much of the file is delivered as was asked for. -/
theorem read_of_unfaulted {handle : Handle} {limit : Nat}
    {delivered : { bytes : Bytes // bytes.length ≤ limit }}
    (unfaulted : (state.takeFault handle.node .read).1 = .none)
    (replied : (read handle limit state).1 = .ok delivered) :
    delivered.val = (state.contents handle.node).take limit := by
  have same := contents_takeFault state handle.node handle.node .read
  unfold read at replied
  cases taken : state.takeFault handle.node .read with
  | mk fault rest =>
      rw [taken] at same unfaulted
      obtain rfl : fault = .none := unfaulted
      simp only [taken] at replied
      rw [← same]
      cases replied
      rfl

/-- Without a fault, as much is read of a descriptive file as was asked for. -/
theorem texts_of_describes {α : Type} {limit : Nat} {parse : Bytes → Except Error α}
    {malformed : Bytes → Notice} {value : α} (member : node ∈ Node.descriptive)
    (describes : Capabilities.Describes node limit parse malformed trace (.ok value))
    (answers : driver.Answers state trace last)
    (unfaulted : (state.takeFault node .read).1 = .none) :
    trace.texts node = [((state.files node).getD []).take limit] := by
  cases describes with
  | described serial reads parsed =>
      rw [Capabilities.texts_visit, reads.texts_eq.2]
      cases reads with
      | delivered bytes =>
          unfold Capabilities.visit at answers
          obtain ⟨-, opened⟩ := Driver.answers_cons_iff.mp answers
          obtain ⟨-, rewound⟩ := Driver.answers_cons_iff.mp opened
          obtain ⟨replied, -⟩ := Driver.answers_cons_iff.mp rewound
          have waiting := (faults_rewind node ⟨node, serial⟩ _).trans
            (faults_acquire node node node.access state)
          have front := read_of_unfaulted ((fst_takeFault_congr waiting).trans unfaulted)
            replied.symm
          rw [contents_of_mem_descriptive _ member, files_reply, files_reply] at front
          rw [front]

/-- So it is with the version, which is the first file that is read. -/
theorem texts_of_detects {capabilities : Capabilities}
    (detects : Capabilities.Detects trace (.ok capabilities))
    (answers : driver.Answers state trace last)
    (unfaulted : (state.takeFault .version .read).1 = .none) :
    trace.texts .version = [((state.files .version).getD []).take 12] := by
  cases detects with
  | detected versions names tables =>
      obtain ⟨middle, described, -⟩ := Driver.answers_append_iff.mp answers
      obtain ⟨next, versioned, -⟩ := Driver.answers_append_iff.mp described
      rw [(Capabilities.texts_detected versions names tables).1]
      exact texts_of_describes (by decide) versions versioned unfaulted

end Simulation.Scripted

end ManagementUnit
