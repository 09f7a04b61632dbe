import Mathlib.Data.List.Forall2
import ManagementUnit.Proofs.Dialogue.Log
import ManagementUnit.Proofs.Text.Hexadecimal

/-!
# The lines of a log

A log is a text, with a line for each notice. A reader who has nothing but the lines can tell their
levels, which of them complain of a failure, and from those at the level of traces what was moved:
the file, the way and every byte.

* `Notice.heads_line`, `Notice.complains_line` — levels and complaints, told from the lines alone.
* `Movement.Told.unique` — a line tells of one movement.
* `Movement.tells_line` — the line that is due for a movement tells of it.
-/

namespace ManagementUnit

/-! ### Levels -/

/-- Whether a line begins with the name of the level. -/
def Level.heads (level : Level) (line : String) : Bool :=
  (level.name ++ " ").toList.isPrefixOf line.toList

theorem Notice.heads_line (notice : Notice) (level : Level) :
    level.heads notice.line = decide (notice.level = level) := by
  rw [Level.heads, line]
  generalize notice.message = message
  cases notice.level <;> cases level <;> simp [Level.name, List.isPrefixOf]

namespace Trace

/-- The log of a trace. -/
def log (trace : Trace) : List String :=
  trace.notices.map Notice.line

/-- The lines of a level. -/
def logOf (level : Level) (trace : Trace) : List String :=
  trace.log.filter level.heads

theorem logOf_eq (trace : Trace) (level : Level) :
    trace.logOf level = (trace.ofLevel level).map Notice.line := by
  rw [logOf, log, ofLevel, List.filter_map]
  exact congrArg _ (List.filter_congr fun notice _ => notice.heads_line level)

end Trace

/-! ### Complaints -/

namespace Line

/-- The line says that channels are about to be closed, or that there are no power tables for want
of a version file. -/
def excused (line : String) : Bool :=
  "debug SMU: closing channels ".toList.isPrefixOf line.toList ||
    "debug SMU: no pm_table_version (".toList.isPrefixOf line.toList

/-- The line tells of a failure. -/
def complains (line : String) : Bool :=
  (Level.debug.heads line || Level.warn.heads line) && !excused line

/-- There is an occasion for a line that is excused: the channels are those that the client is about
to close, or the version file of the power table was not opened for the reason that is given. -/
inductive Occasioned (closed : Option ChannelSet) (trace : Trace) : String → Prop where
  | closing {channels : ChannelSet} (leaving : closed = some channels) :
      Occasioned closed trace ("debug SMU: closing channels " ++ channels.inspect)
  | tableUndescribed {reason : IoError}
      (refused : ⟨.acquire .pmTableVersion Node.pmTableVersion.access, .error reason⟩ ∈ trace) :
      Occasioned closed trace
        ("debug SMU: no pm_table_version (" ++ reason.message ++ "), PM tables unsupported")

end Line

namespace Notice

/-- No other notice of the two levels reads like one of the two that are excused. -/
theorem excused_line (notice : Notice) :
    Line.excused notice.line =
      (!notice.complains && (notice.level = .debug || notice.level = .warn)) := by
  rw [Line.excused, line, message.eq_def]
  cases notice <;> simp [complains, level, Level.name, Node.fileName, List.isPrefixOf]

theorem complains_line (notice : Notice) : Line.complains notice.line = notice.complains := by
  rw [Line.complains, excused_line, heads_line, heads_line]
  cases told : notice.complains with
  | true => simpa using level_of_complains told
  | false => cases decide (notice.level = .debug) || decide (notice.level = .warn) <;> rfl

variable {closed : Option ChannelSet} {trace : Trace} {notice : Notice}

theorem line_closing (channels : ChannelSet) :
    (closing channels).line = "debug SMU: closing channels " ++ channels.inspect := by
  rw [line, message.eq_def]
  simp [level, Level.name, ← String.toList_inj]

theorem line_tableUndescribed (reason : IoError) :
    (tableUndescribed reason).line =
      "debug SMU: no pm_table_version (" ++ reason.message ++ "), PM tables unsupported" := by
  rw [line, message.eq_def]
  simp [level, Level.name, Node.fileName, ← String.toList_inj]

/-- The occasion for a notice is one for its line. -/
theorem Occasioned.line (occasioned : notice.Occasioned closed trace)
    (excused : Line.excused notice.line = true) : Line.Occasioned closed trace notice.line := by
  rw [excused_line] at excused
  cases notice with
  | closing channels =>
      rw [line_closing]
      exact .closing occasioned
  | tableUndescribed reason =>
      rw [line_tableUndescribed]
      exact .tableUndescribed occasioned
  | _ => cases excused

end Notice

namespace Trace

theorem filter_complains_log (trace : Trace) :
    trace.log.filter Line.complains = trace.complaints.map Notice.line := by
  rw [log, complaints, List.filter_map]
  exact congrArg _ (List.filter_congr fun notice _ => notice.complains_line)

end Trace

/-! ### Movements -/

/-- The arrow for the way of a movement. -/
def Way.arrow : Way → String
  | .outward => " <- "
  | .inward => " -> "

namespace Movement

variable {line : String} {movement other : Movement}

/-- The line gives the file, the way and the bytes of a movement. -/
def Told (movement : Movement) (line : String) : Prop :=
  ∃ listing, line = "trace SMU: " ++ movement.node.fileName ++ movement.way.arrow ++ listing ∧
    Hex.Lists listing movement.bytes

/-- The line tells of the movement, and of nothing else. -/
structure Tells (line : String) (movement : Movement) : Prop where
  told : movement.Told line
  only : ∀ other : Movement, other.Told line → other = movement

theorem told_line (movement : Movement) : movement.Told movement.notice.line := by
  obtain ⟨node, way, bytes⟩ := movement
  refine ⟨Hex.list bytes, ?_, Hex.lists_list bytes⟩
  cases way <;> rw [notice, Notice.line, Notice.message.eq_def] <;>
    simp [Notice.level, Level.name, Way.arrow, ← String.toList_inj]

theorem blank_not_mem_fileName (node : Node) : ' ' ∉ node.fileName.toList := by
  cases node <;> decide

/-- A name without blanks ends at the first blank. -/
theorem name_eq_of_append {name word rest more : List Char} (whole : ' ' ∉ name) (also : ' ' ∉ word)
    (same : name ++ ' ' :: rest = word ++ ' ' :: more) : name = word ∧ rest = more := by
  rcases List.append_eq_append_iff.mp same with ⟨between, rfl, tail⟩ | ⟨between, rfl, tail⟩
  · cases between with
    | nil => exact ⟨(List.append_nil name).symm, (List.cons.inj tail).2⟩
    | cons first between =>
        obtain ⟨rfl, -⟩ := List.cons.inj tail
        exact absurd (List.mem_append_right name List.mem_cons_self) also
  · cases between with
    | nil => exact ⟨List.append_nil word, (List.cons.inj tail).2.symm⟩
    | cons first between =>
        obtain ⟨rfl, -⟩ := List.cons.inj tail
        exact absurd (List.mem_append_right word List.mem_cons_self) whole

theorem way_eq_of_append {way direction : Way} {rest more : List Char}
    (same : way.arrow.toList ++ rest = direction.arrow.toList ++ more) :
    way = direction ∧ rest = more := by
  cases way <;> cases direction <;> simp [Way.arrow] at same ⊢ <;> exact same

/-- No two movements are told by one line: the arrow ends the file's name, which has no blank in it,
and the bytes are read back behind the arrow. -/
theorem Told.unique (told : movement.Told line) (also : other.Told line) : other = movement := by
  obtain ⟨node, way, bytes⟩ := movement
  obtain ⟨file, direction, contents⟩ := other
  obtain ⟨listing, shown, lists⟩ := told
  obtain ⟨text, again, listed⟩ := also
  have same : node.fileName.toList ++ (way.arrow.toList ++ listing.toList) =
      file.fileName.toList ++ (direction.arrow.toList ++ text.toList) := by
    have lines := shown.symm.trans again
    simp only [String.append_assoc, String.append_right_inj] at lines
    simpa only [String.toList_append] using congrArg String.toList lines
  have blank (way : Way) : way.arrow.toList = ' ' :: way.arrow.toList.tail := by cases way <;> rfl
  obtain ⟨names, ways⟩ : node.fileName.toList = file.fileName.toList ∧
      way.arrow.toList ++ listing.toList = direction.arrow.toList ++ text.toList := by
    rw [blank way, blank direction] at same ⊢
    obtain ⟨names, tails⟩ :=
      name_eq_of_append (blank_not_mem_fileName node) (blank_not_mem_fileName file) same
    exact ⟨names, congrArg (List.cons ' ') tails⟩
  obtain rfl := Node.fileName_injective (String.toList_inj.mp names)
  obtain ⟨rfl, listings⟩ := way_eq_of_append ways
  obtain rfl := String.toList_inj.mp listings
  obtain rfl := lists.unique listed
  rfl

theorem tells_line (movement : Movement) : Tells movement.notice.line movement :=
  ⟨movement.told_line, fun _ also => movement.told_line.unique also⟩

end Movement

/-- The lines at the level of traces tell of the movements, if they are those that are due. -/
theorem Trace.tells_logOf {trace : Trace} (traced : trace.ofLevel .trace = trace.traced) :
    List.Forall₂ Movement.Tells (trace.logOf .trace) trace.movements := by
  rw [logOf_eq, traced, Trace.traced, List.map_map, List.forall₂_map_left_iff]
  exact List.forall₂_same.mpr fun movement _ => movement.tells_line

end ManagementUnit
