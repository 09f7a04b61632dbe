import ManagementUnit.Path

/-!
# Steps of joined paths

A name behind a directory is one more step, however the directory is spelled: empty, at the root,
with dots in it, or with slashes at its end.

* `Path.segments_append_slash` — a slash cuts a text in two.
* `Path.components_join` — a joined path has the steps of its directory and one more.
-/

namespace ManagementUnit.Path

/-- A name that stands for an entry: no slash is in it, and it is neither empty nor one of the two
names that are dots only. -/
structure Plain (name : List Char) : Prop where
  unslashed : '/' ∉ name
  step?_eq : step? name = some (.entry name)

variable {front back name : List Char}

/-! ### Parts of a text -/

theorem segments_cons_slash (back : List Char) : segments ('/' :: back) = [] :: segments back :=
  rfl

theorem segments_ne_nil (text : List Char) : segments text ≠ [] := by
  cases text with
  | nil => exact List.cons_ne_nil _ _
  | cons c text =>
      rw [segments]
      split
      · exact List.cons_ne_nil _ _
      · split <;> exact List.cons_ne_nil _ _

/-- A slash cuts a text in two. -/
theorem segments_append_slash (front back : List Char) :
    segments (front ++ '/' :: back) = segments front ++ segments back := by
  induction front with
  | nil => exact segments_cons_slash back
  | cons c front ih =>
      rw [List.cons_append, segments, ih, segments]
      split
      · rfl
      · cases split : segments front with
        | nil => exact absurd split (segments_ne_nil front)
        | cons first rest => rfl

/-- Without a slash a text is one part. -/
theorem segments_of_unslashed (unslashed : '/' ∉ name) : segments name = [name] := by
  induction name with
  | nil => rfl
  | cons c name ih =>
      rw [List.mem_cons, not_or] at unslashed
      rw [segments, if_neg (Ne.symm unslashed.1), ih unslashed.2]

theorem head?_segments_append_slash (front back : List Char) :
    (segments (front ++ '/' :: back)).head? = (segments front).head? := by
  rw [segments_append_slash]
  cases parts : segments front with
  | nil => exact absurd parts (segments_ne_nil front)
  | cons first rest => rfl

/-! ### Beginnings -/

/-- What comes behind a slash has no say in how a path begins. -/
theorem start_append_slash (front back : List Char) :
    start (front ++ '/' :: back) = start (front ++ ['/']) := by
  unfold start
  rw [head?_segments_append_slash, head?_segments_append_slash front []]
  cases front <;> rfl

/-- Nor has a slash itself, unless it is in front. -/
theorem start_append_slash_of_ne_nil (nonempty : front ≠ []) (back : List Char) :
    start (front ++ '/' :: back) = start front := by
  unfold start
  rw [head?_segments_append_slash]
  cases front with
  | nil => exact absurd rfl nonempty
  | cons c front => rfl

theorem start_of_plain (plain : Plain name) : start name = [] := by
  have slashless : name.head? ≠ some '/' := fun first => plain.unslashed (List.mem_of_head? first)
  have dotless : name ≠ ['.'] := by
    rintro rfl
    cases plain.step?_eq
  unfold start
  rw [if_neg slashless, segments_of_unslashed plain.unslashed, if_neg (by simpa using dotless)]

/-! ### Steps -/

/-- The steps behind the beginning of a path. -/
def steps (path : List Char) : List Component :=
  (segments path).filterMap step?

theorem components_eq (path : String) : components path = start path.toList ++ steps path.toList :=
  rfl

theorem steps_append_slash (front back : List Char) :
    steps (front ++ '/' :: back) = steps front ++ steps back := by
  rw [steps, segments_append_slash, List.filterMap_append, steps, steps]

theorem steps_of_plain (plain : Plain name) : steps name = [.entry name] := by
  rw [steps, segments_of_unslashed plain.unslashed, List.filterMap_cons, plain.step?_eq]
  rfl

/-! ### Joined paths -/

variable {directory file : String}

theorem toList_join_of_nil (empty : directory.toList = []) :
    (join directory file).toList = file.toList := by
  simp [join, empty]

theorem toList_join_of_slash (spelled : directory.toList = front ++ ['/']) :
    (join directory file).toList = front ++ '/' :: file.toList := by
  simp [join, spelled]

theorem toList_join_of_unslashed {last : Char} (ending : directory.toList.getLast? = some last)
    (other : last ≠ '/') :
    (join directory file).toList = directory.toList ++ '/' :: file.toList := by
  simp [join, ending, other]

/-- A name behind a directory is one more step. -/
theorem components_join (plain : Plain file.toList) :
    components (join directory file) = components directory ++ [.entry file.toList] := by
  rw [components_eq, components_eq, List.append_assoc]
  cases ending : directory.toList.getLast? with
  | none =>
      have empty := List.getLast?_eq_none_iff.mp ending
      rw [toList_join_of_nil empty, empty, start_of_plain plain, steps_of_plain plain]
      rfl
  | some last =>
      by_cases slash : last = '/'
      · -- The slash at the end is the one that a join puts, and no step is behind it.
        obtain ⟨front, spelled⟩ := List.getLast?_eq_some_iff.mp (slash ▸ ending)
        rw [toList_join_of_slash spelled, spelled, start_append_slash, steps_append_slash,
          steps_append_slash, steps_of_plain plain, List.append_assoc (steps front)]
        rfl
      · have nonempty : directory.toList ≠ [] := by
          intro empty
          rw [empty] at ending
          cases ending
        rw [toList_join_of_unslashed ending slash, start_append_slash_of_ne_nil nonempty,
          steps_append_slash, steps_of_plain plain]

end ManagementUnit.Path
