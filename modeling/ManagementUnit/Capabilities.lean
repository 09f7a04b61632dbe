import ManagementUnit.Codename
import ManagementUnit.PowerTable.Info
import ManagementUnit.Version

/-!
# Capabilities

What the driver's descriptive files tell about the platform: the firmware version, the processor
family and the metadata of the power table.
-/

namespace ManagementUnit

/-- What is known about a platform. -/
structure Capabilities where
  version : Version
  codename : Codename
  table : PowerTable.Info
deriving DecidableEq, Repr

namespace Capabilities

/-- Nothing is known. -/
def zero : Capabilities := ⟨.zero, .undefined, .none⟩

/-- The capabilities field by field. -/
def inspect (capabilities : Capabilities) : String :=
  "Capabilities \x7b version: " ++ capabilities.version.inspect
    ++ ", codename: " ++ capabilities.codename.tag
    ++ ", pm_table: " ++ capabilities.table.inspect ++ " \x7d"

end Capabilities

end ManagementUnit
