import ManagementUnit.Error
import ManagementUnit.Text.Ascii

/-!
# Processor codenames

The driver tells the processor family by a small number in its `codename` file. `Codename.parse`
reads that number as a signed decimal with leading blanks; only the ten numbers of families are
supported.

* `Codename.ofNumber_number`, `Codename.number_of_ofNumber` — families and the numbers of the table
  correspond one to one.
-/

namespace ManagementUnit

/-- A processor family, `undefined` while none is known. -/
inductive Codename where
  | undefined
  | colfax
  | renoir
  | picasso
  | matisse
  | threadripper
  | castlePeak
  | ravenRidge
  | ravenRidge2
  | summitRidge
  | pinnacleRidge
deriving DecidableEq, Repr

namespace Codename

/-- The families that the driver can report, by increasing number. -/
def families : List Codename :=
  [.colfax, .renoir, .picasso, .matisse, .threadripper, .castlePeak, .ravenRidge, .ravenRidge2,
    .summitRidge, .pinnacleRidge]

/-- The driver's number of a family. -/
def number : Codename → UInt32
  | .undefined => 0
  | .colfax => 1
  | .renoir => 2
  | .picasso => 3
  | .matisse => 4
  | .threadripper => 5
  | .castlePeak => 6
  | .ravenRidge => 7
  | .ravenRidge2 => 8
  | .summitRidge => 9
  | .pinnacleRidge => 10

/-- One past the largest number of a family. -/
def limit : UInt32 := 11

/-- Codenames are ordered as their numbers. -/
instance : Ord Codename := ⟨fun a b => compare a.number b.number⟩

/-- The family with a given number. -/
def ofNumber : UInt32 → Except Error Codename
  | 1 => .ok .colfax
  | 2 => .ok .renoir
  | 3 => .ok .picasso
  | 4 => .ok .matisse
  | 5 => .ok .threadripper
  | 6 => .ok .castlePeak
  | 7 => .ok .ravenRidge
  | 8 => .ok .ravenRidge2
  | 9 => .ok .summitRidge
  | 10 => .ok .pinnacleRidge
  | _ => .error .unsupported

/-- The name of a family, for people. -/
def name : Codename → String
  | .undefined => "Undefined"
  | .colfax => "Colfax"
  | .renoir => "Renoir"
  | .picasso => "Picasso"
  | .matisse => "Matisse"
  | .threadripper => "Thread Ripper"
  | .castlePeak => "CastlePeak"
  | .ravenRidge => "Raven Ridge"
  | .ravenRidge2 => "Raven Ridge 2"
  | .summitRidge => "Summit Ridge"
  | .pinnacleRidge => "Pinnacle Ridge"

/-- The short tag of a family. -/
def tag : Codename → String
  | .undefined => "Undefined"
  | .colfax => "Colfax"
  | .renoir => "Renoir"
  | .picasso => "Picasso"
  | .matisse => "Matisse"
  | .threadripper => "Threadripper"
  | .castlePeak => "CastlePeak"
  | .ravenRidge => "RavenRidge"
  | .ravenRidge2 => "RavenRidge2"
  | .summitRidge => "SummitRidge"
  | .pinnacleRidge => "PinnacleRidge"

/-- The most bytes a codename text has: two digits and a line end. -/
def textLimit : Nat := 3

/-- Splits off a leading sign; the first part says whether it is a minus. -/
def sign : Bytes → Bool × Bytes
  | 0x2D :: rest => (true, rest)
  | 0x2B :: rest => (false, rest)
  | text => (false, text)

/-- The family whose number a text begins with. A text without digits counts as zero, which is no
family, and neither is a negative number. -/
def parse (text : Bytes) : Except Error Codename :=
  let (negative, rest) := sign (text.dropWhile Ascii.isBlank)
  let value := Ascii.saturate (rest.takeWhile Ascii.isDigit)
  if negative && value != 0 then .error .unsupported else ofNumber value

theorem ofNumber_number {codename : Codename} (family : codename ∈ families) :
    ofNumber codename.number = .ok codename := by
  cases codename with
  | undefined => exact absurd family (by decide)
  | _ => rfl

theorem number_of_ofNumber {number : UInt32} {codename : Codename}
    (named : ofNumber number = .ok codename) : codename.number = number := by
  unfold ofNumber at named
  split at named <;> cases named <;> rfl

theorem mem_families_of_ofNumber {number : UInt32} {codename : Codename}
    (named : ofNumber number = .ok codename) : codename ∈ families := by
  unfold ofNumber at named
  split at named <;> cases named <;> decide

/-- A number of no family is one of an unsupported platform. -/
theorem error_of_ofNumber {number : UInt32} {error : Error}
    (refused : ofNumber number = .error error) : error = .unsupported := by
  unfold ofNumber at refused
  split at refused <;> cases refused
  rfl

end Codename

end ManagementUnit
