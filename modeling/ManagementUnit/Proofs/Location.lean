import ManagementUnit.Location
import ManagementUnit.Proofs.Path

/-!
# Files of a location

A driver's file is one step behind its directory. So locations are equal if they have any file in
common, and then they have all of them in common; and no two files of a location are the same.

* `Location.components_path` — the steps to a file.
* `Location.beq_iff_same_file` — equal locations by a single file.
* `Location.files_named` — the files of all locations.
-/

namespace ManagementUnit

open ManagementUnit.Path

namespace Node

theorem plain_fileName (node : Node) : Plain node.fileName.toList := by
  cases node <;> exact ⟨by decide, rfl⟩

end Node

namespace Location

variable {a b : Location}

theorem components_path (location : Location) (node : Node) :
    components (location.path node) =
      components location.directory ++ [.entry node.fileName.toList] :=
  components_join node.plain_fileName

theorem beq_iff : (a == b) = true ↔ components a.directory = components b.directory := by
  show (components a.directory == components b.directory) = true ↔ _
  exact beq_iff_eq

/-- Any one file tells whether two locations are equal. -/
theorem beq_iff_same_file (node : Node) :
    (a == b) = true ↔ components (a.path node) = components (b.path node) := by
  rw [components_path, components_path, List.append_left_inj, beq_iff]

/-- The files of a location are told apart by their steps. -/
theorem components_path_inj {location : Location} {one other : Node} :
    components (location.path one) = components (location.path other) ↔ one = other := by
  constructor
  · intro same
    rw [components_path, components_path, List.append_right_inj] at same
    have name := Component.entry.inj (List.singleton_inj.mp same)
    exact Node.fileName_injective (String.toList_inj.mp name)
  · rintro rfl
    rfl

/-- What tells that two locations are equal: the file of any one name decides. So one file in common
is enough, and all of them are in common then. -/
structure Comparable (a b : Location) : Prop where
  each : ∀ node, (a == b) = true ↔ components (a.path node) = components (b.path node)
  some : (a == b) = true ↔ ∃ node, components (a.path node) = components (b.path node)
  all : (a == b) = true ↔ ∀ node, components (a.path node) = components (b.path node)

theorem comparable (a b : Location) : Comparable a b where
  each := beq_iff_same_file
  some := by
    constructor
    · intro equal
      exact ⟨.version, (beq_iff_same_file _).mp equal⟩
    · rintro ⟨node, same⟩
      exact (beq_iff_same_file node).mpr same
  all := by
    constructor
    · intro equal node
      exact (beq_iff_same_file node).mp equal
    · intro same
      exact (beq_iff_same_file .version).mpr (same .version)

/-- Every file is one step behind the directory, whatever the directory is. Locations are equal if
they name the same files, a location names no file twice, and only its directory matters. -/
theorem files_named :
    (∀ (directory : String) (node : Node), components ((Location.mk directory).path node) =
      components directory ++ [.entry node.fileName.toList]) ∧
    (∀ a b : String, Comparable ⟨a⟩ ⟨b⟩) ∧
    (∀ (directory : String) (one other : Node),
      components ((Location.mk directory).path one) =
        components ((Location.mk directory).path other) ↔ one = other) ∧
    ∀ (location : Location) (directory : String) (node : Node),
      (location.withDirectory directory).path node = (Location.mk directory).path node :=
  ⟨fun directory => components_path ⟨directory⟩, fun a b => comparable ⟨a⟩ ⟨b⟩,
    fun _ _ _ => components_path_inj, fun _ _ _ => rfl⟩

end Location

end ManagementUnit
