import ManagementUnit.Node
import ManagementUnit.Path

/-!
# Where the driver lives

A location is the directory that holds the driver's files. Two locations are equal when their
directories have the same components, however they are spelled.
-/

namespace ManagementUnit

/-- The directory of a driver. -/
structure Location where
  directory : String
deriving Repr

namespace Location

/-- The directory that the kernel module registers. -/
def standard : Location := ⟨"/sys/kernel/ryzen_smu_drv"⟩

/-- The location with another directory. -/
def withDirectory (location : Location) (directory : String) : Location :=
  { location with directory }

/-- The path of a driver file. -/
def path (location : Location) (node : Node) : String :=
  Path.join location.directory node.fileName

/-- Locations are compared by the components of their directories. -/
instance : BEq Location :=
  ⟨fun a b => Path.components a.directory == Path.components b.directory⟩

end Location

end ManagementUnit
