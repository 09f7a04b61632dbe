import ManagementUnit.Text.Hex

/-!
# Sets of channels

A set of open request channels is a word with one bit for each channel. A word may carry bits that
name no channel; such a set is shown with those bits as one number behind the names.
-/

namespace ManagementUnit

/-- A set of channels. -/
structure ChannelSet where
  bits : UInt32
deriving DecidableEq, Repr

namespace ChannelSet

/-- The set without any channel. -/
def empty : ChannelSet := ⟨0⟩

/-- The register channel. -/
def smn : ChannelSet := ⟨1⟩

/-- The command channel. -/
def smuCmd : ChannelSet := ⟨2⟩

/-- The argument channel. -/
def smuArgs : ChannelSet := ⟨4⟩

/-- The power table channel. -/
def pmTable : ChannelSet := ⟨8⟩

/-- The channels with their names, by increasing bit. -/
def channels : List (String × ChannelSet) :=
  [("SMN", smn), ("SMU_CMD", smuCmd), ("SMU_ARGS", smuArgs), ("PM_TABLE", pmTable)]

/-- Every channel. -/
def all : ChannelSet := ⟨15⟩

/-- The channels that every ready session holds. -/
def required : ChannelSet := ⟨7⟩

/-- Whether no bit is set. -/
def isEmpty (set : ChannelSet) : Bool :=
  set.bits == 0

/-- Whether every bit of `other` is set. -/
def contains (set other : ChannelSet) : Bool :=
  set.bits &&& other.bits == other.bits

/-- Whether a bit is set in both. -/
def intersects (set other : ChannelSet) : Bool :=
  set.bits &&& other.bits != 0

/-- The bits set in either. -/
def union (set other : ChannelSet) : ChannelSet :=
  ⟨set.bits ||| other.bits⟩

/-- The bits set in both. -/
def inter (set other : ChannelSet) : ChannelSet :=
  ⟨set.bits &&& other.bits⟩

/-- The bits set in `set` and not in `other`. -/
def diff (set other : ChannelSet) : ChannelSet :=
  ⟨set.bits &&& ~~~other.bits⟩

/-- The bits set in exactly one of the two. -/
def symmDiff (set other : ChannelSet) : ChannelSet :=
  ⟨set.bits ^^^ other.bits⟩

/-- The channels that are not in the set. -/
def complement (set : ChannelSet) : ChannelSet :=
  all.diff set

/-- The set of a word, whose bits that name no channel are dropped. -/
def truncate (bits : UInt32) : ChannelSet :=
  inter ⟨bits⟩ all

/-- The set of a word all of whose bits name channels. -/
def ofBits? (bits : UInt32) : Option ChannelSet :=
  if (truncate bits).bits = bits then some ⟨bits⟩ else none

/-- The set that holds the channel, or nothing. -/
def when (held : Bool) (channel : ChannelSet) : ChannelSet :=
  if held then channel else empty

/-- The names of the channels in a set. -/
def names (set : ChannelSet) : List String :=
  (channels.filter fun (_, channel) => set.contains channel).map Prod.fst

/-- The names in a set, and one number for the bits that name no channel. An empty set shows the
number zero. -/
def inspect (set : ChannelSet) : String :=
  let rest := set.diff all
  let number := if rest.isEmpty && !set.isEmpty then [] else [Hex.word 1 rest.bits]
  "Channels(" ++ " | ".intercalate (set.names ++ number) ++ ")"

end ChannelSet

end ManagementUnit
