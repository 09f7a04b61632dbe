import ManagementUnit.Binary32
import ManagementUnit.Word

/-!
# A recognisable power table

Table contents in which every entry tells its own place: the numbers 0, 1, 2 and so on in single
precision, and zero bytes for a last partial entry.
-/

namespace ManagementUnit.PowerTable

/-- The counting pattern of a given size in bytes. -/
def pattern (size : Nat) : Bytes :=
  (List.range (size / 4)).flatMap (fun index => Word.encode (Binary32.ofNat index).bits)
    ++ List.replicate (size % 4) 0

end ManagementUnit.PowerTable
