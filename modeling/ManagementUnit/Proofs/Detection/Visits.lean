import ManagementUnit.Proofs.Detection

/-!
# Visits to the descriptive files

Detection visits up to four files. A visit opens the file, reads it in one transfer and closes it,
whatever came of the transfer. The relations below list the traces of detection with its result, one
case for each way it can go.

* `Capabilities.Describes.of_produces`, `Capabilities.DescribesTable.of_produces`,
  `Capabilities.Detects.of_produces` — the lists are complete.
-/

namespace ManagementUnit

/-- The files that are read for detection only, in order. -/
def Node.descriptive : List Node :=
  [.version, .codename, .pmTableVersion, .pmTableSize]

namespace Capabilities

open Dialogue

/-- The events of a file that is opened, used and closed again. -/
def visit (node : Node) (serial : Nat) (inside : Trace) : Trace :=
  ⟨.acquire node node.access, .ok serial⟩ :: (inside ++ [⟨.close ⟨node, serial⟩, ()⟩])

/-- The ways in which a descriptive file is read, with what it tells: the file cannot be opened, its
text cannot be read, the text does not tell what it should, or it is understood. -/
inductive Describes {α : Type} (node : Node) (limit : Nat) (parse : Bytes → Except Error α)
    (malformed : Bytes → Notice) : Trace → Except Error α → Prop where
  | absent (reason : IoError) :
      Describes node limit parse malformed
        [⟨.acquire node node.access, .error reason⟩, ⟨.note (.undescribed node reason), ()⟩]
        (.error .driverAbsent)
  | unread (serial : Nat) {reading : Trace} {error : Error}
      (reads : Handle.ReadsSome ⟨node, serial⟩ limit reading (.error error)) :
      Describes node limit parse malformed (visit node serial reading) (.error error)
  | malformed (serial : Nat) {reading : Trace} {text : Bytes} {error : Error}
      (reads : Handle.ReadsSome ⟨node, serial⟩ limit reading (.ok text))
      (refused : parse text = .error error) :
      Describes node limit parse malformed
        (visit node serial (reading ++ [⟨.note (malformed text), ()⟩])) (.error error)
  | described (serial : Nat) {reading : Trace} {text : Bytes} {value : α}
      (reads : Handle.ReadsSome ⟨node, serial⟩ limit reading (.ok text))
      (parsed : parse text = .ok value) :
      Describes node limit parse malformed (visit node serial reading) (.ok value)

/-- The ways in which the metadata of the power table is read. Where there is no version there are
no power tables, and that is no failure; where there is a version, a missing size is one. -/
inductive DescribesTable : Trace → Except Error PowerTable.Info → Prop where
  | absent (reason : IoError) :
      DescribesTable
        [⟨.acquire .pmTableVersion Node.pmTableVersion.access, .error reason⟩,
          ⟨.note (.tableUndescribed reason), ()⟩]
        (.ok .none)
  | versionUnread (serial : Nat) {reading : Trace} {bytes : Bytes} {error : Error}
      (reads : Handle.Fills ⟨.pmTableVersion, serial⟩ 4 reading ⟨.error error, bytes⟩) :
      DescribesTable (visit .pmTableVersion serial reading) (.error error)
  | sizeAbsent (serial : Nat) {reading : Trace} {version : Bytes} (reason : IoError)
      (reads : Handle.Fills ⟨.pmTableVersion, serial⟩ 4 reading ⟨.ok (), version⟩) :
      DescribesTable
        (visit .pmTableVersion serial reading ++
          [⟨.acquire .pmTableSize Node.pmTableSize.access, .error reason⟩,
            ⟨.note (.tableSizeMissing reason), ()⟩])
        (.error .transferFailed)
  | sizeUnread (serial next : Nat) {reading sizing : Trace} {version bytes : Bytes} {error : Error}
      (reads : Handle.Fills ⟨.pmTableVersion, serial⟩ 4 reading ⟨.ok (), version⟩)
      (sizes : Handle.Fills ⟨.pmTableSize, next⟩ 4 sizing ⟨.error error, bytes⟩) :
      DescribesTable (visit .pmTableVersion serial reading ++ visit .pmTableSize next sizing)
        (.error error)
  | described (serial next : Nat) {reading sizing : Trace} {version size : Bytes}
      (reads : Handle.Fills ⟨.pmTableVersion, serial⟩ 4 reading ⟨.ok (), version⟩)
      (sizes : Handle.Fills ⟨.pmTableSize, next⟩ 4 sizing ⟨.ok (), size⟩) :
      DescribesTable (visit .pmTableVersion serial reading ++ visit .pmTableSize next sizing)
        (.ok (.decode version size))

/-- The ways in which the version is read. -/
abbrev DescribesVersion : Trace → Except Error Version → Prop :=
  Describes .version Version.textLimit Version.parse .malformedVersion

/-- The ways in which the codename is read. -/
abbrev DescribesCodename : Trace → Except Error Codename → Prop :=
  Describes .codename Codename.textLimit Codename.parse .unsupportedCodename

/-- The ways in which detection goes: it stops at the first of version, codename and metadata of the
power table that is not told. -/
inductive Detects : Trace → Except Error Capabilities → Prop where
  | unversioned {first : Trace} {error : Error} (versions : DescribesVersion first (.error error)) :
      Detects first (.error error)
  | unnamed {first second : Trace} {version : Version} {error : Error}
      (versions : DescribesVersion first (.ok version))
      (names : DescribesCodename second (.error error)) :
      Detects (first ++ second) (.error error)
  | untabled {first second third : Trace} {version : Version} {codename : Codename} {error : Error}
      (versions : DescribesVersion first (.ok version))
      (names : DescribesCodename second (.ok codename))
      (tables : DescribesTable third (.error error)) :
      Detects (first ++ second ++ third) (.error error)
  | detected {first second third : Trace} {version : Version} {codename : Codename}
      {table : PowerTable.Info} (versions : DescribesVersion first (.ok version))
      (names : DescribesCodename second (.ok codename))
      (tables : DescribesTable third (.ok table)) :
      Detects (first ++ second ++ third) (.ok ⟨version, codename, table⟩)

variable {trace : Trace}

/-! ### The lists are complete -/

theorem produces_acquire_bind_iff {α : Type} {node : Node}
    {f : Except IoError Handle → Attempt α} {result : Except Error α} :
    ((liftM node.acquire : Attempt (Except IoError Handle)) >>= f).run.Produces trace result ↔
      ∃ reply : Except IoError Nat, ∃ rest, trace = ⟨.acquire node node.access, reply⟩ :: rest ∧
        (f (reply.map (Handle.mk node))).run.Produces rest result := by
  unfold Node.acquire
  rw [Attempt.produces_lift_bind_iff]
  constructor
  · rintro ⟨first, rest, acquired, rfl, opened, after⟩
    obtain ⟨reply, rfl, rfl⟩ := produces_acquire_iff.mp opened
    exact ⟨reply, rest, rfl, after⟩
  · rintro ⟨reply, rest, rfl, after⟩
    exact ⟨_, rest, _, rfl, produces_acquire_iff.mpr ⟨reply, rfl, rfl⟩, after⟩

/-- The ways that `Describes` lists are all there are. -/
theorem Describes.of_produces {α : Type} {node : Node} {limit : Nat}
    {parse : Bytes → Except Error α} {malformed : Bytes → Notice} {result : Except Error α}
    (produced : (describe node limit parse malformed).run.Produces trace result) :
    Describes node limit parse malformed trace result := by
  unfold describe acquireDescription at produced
  rw [LawfulMonad.bind_assoc] at produced
  obtain ⟨reply, rest, rfl, opened⟩ := produces_acquire_bind_iff.mp produced
  cases reply with
  | error reason =>
      obtain ⟨first, last, handle, -, failed, -⟩ | ⟨error, failed, rfl⟩ :=
        Attempt.produces_bind_iff.mp opened
      · cases (Attempt.produces_fail_iff.mp failed).2
      · obtain ⟨rfl, same⟩ := Attempt.produces_fail_iff.mp failed
        cases same
        exact .absent reason
  | ok serial =>
      obtain ⟨inside, rfl, used⟩ := Handle.produces_closing_iff.mp opened
      obtain ⟨reading, last, text, rfl, read, parsed⟩ | ⟨error, unread, rfl⟩ :=
        Attempt.produces_bind_iff.mp used
      · have reads := Handle.produces_readSome_iff.mp read
        cases outcome : parse text with
        | ok value =>
            rw [outcome] at parsed
            obtain ⟨rfl, rfl⟩ := Attempt.produces_pure_iff.mp parsed
            rw [List.append_nil]
            exact .described serial reads outcome
        | error error =>
            rw [outcome] at parsed
            obtain ⟨rfl, rfl⟩ := Attempt.produces_fail_iff.mp parsed
            exact .malformed serial reads outcome
      · exact .unread serial (Handle.produces_readSome_iff.mp unread)

/-- The ways that `DescribesTable` lists are all there are. -/
theorem DescribesTable.of_produces {result : Except Error PowerTable.Info}
    (produced : detectTable.run.Produces trace result) : DescribesTable trace result := by
  unfold detectTable at produced
  obtain ⟨reply, rest, rfl, opened⟩ := produces_acquire_bind_iff.mp produced
  cases reply with
  | error reason =>
      obtain ⟨last, rfl, returned⟩ := Attempt.produces_note_bind_iff.mp opened
      obtain ⟨rfl, rfl⟩ := Attempt.produces_pure_iff.mp returned
      exact .absent reason
  | ok serial =>
      obtain ⟨first, after, version, rfl, visited, sized⟩ | ⟨error, unread, rfl⟩ :=
        Attempt.produces_bind_iff.mp opened
      · obtain ⟨reading, rfl, read⟩ := Handle.produces_closing_iff.mp visited
        have reads := Handle.produces_readBlock_ok_iff.mp read
        obtain ⟨reply, rest, rfl, reopened⟩ := produces_acquire_bind_iff.mp sized
        cases reply with
        | error reason =>
            obtain ⟨rfl, rfl⟩ := Attempt.produces_fail_iff.mp reopened
            exact .sizeAbsent serial reason reads
        | ok next =>
            obtain ⟨second, last, size, rfl, revisited, returned⟩ | ⟨error, unread, rfl⟩ :=
              Attempt.produces_bind_iff.mp reopened
            · obtain ⟨sizing, rfl, measured⟩ := Handle.produces_closing_iff.mp revisited
              obtain ⟨rfl, rfl⟩ := Attempt.produces_pure_iff.mp returned
              rw [List.append_nil]
              exact .described serial next reads (Handle.produces_readBlock_ok_iff.mp measured)
            · obtain ⟨sizing, rfl, measured⟩ := Handle.produces_closing_iff.mp unread
              obtain ⟨bytes, sizes⟩ := Handle.produces_readBlock_error_iff.mp measured
              exact .sizeUnread serial next reads sizes
      · obtain ⟨reading, rfl, read⟩ := Handle.produces_closing_iff.mp unread
        obtain ⟨bytes, reads⟩ := Handle.produces_readBlock_error_iff.mp read
        exact .versionUnread serial reads

/-- The ways that `Detects` lists are all there are. -/
theorem Detects.of_produces {result : Except Error Capabilities}
    (produced : detect.run.Produces trace result) : Detects trace result := by
  unfold detect detectVersion detectCodename at produced
  obtain ⟨first, rest, version, rfl, described, afterVersion⟩ | ⟨error, failed, rfl⟩ :=
    Attempt.produces_bind_iff.mp produced
  · have versions := Describes.of_produces described
    obtain ⟨second, rest, codename, rfl, described, afterCodename⟩ | ⟨error, failed, rfl⟩ :=
      Attempt.produces_bind_iff.mp afterVersion
    · have names := Describes.of_produces described
      rw [← List.append_assoc]
      obtain ⟨third, rest, table, rfl, described, returned⟩ | ⟨error, failed, rfl⟩ :=
        Attempt.produces_bind_iff.mp afterCodename
      · obtain ⟨rfl, rfl⟩ := Attempt.produces_pure_iff.mp returned
        rw [List.append_nil]
        exact .detected versions names (.of_produces described)
      · exact .untabled versions names (.of_produces failed)
    · exact .unnamed versions (.of_produces failed)
  · exact .unversioned (.of_produces failed)

/-! ### How detection begins -/

theorem Describes.exists_cons {α : Type} {node : Node} {limit : Nat}
    {parse : Bytes → Except Error α} {malformed : Bytes → Notice} {result : Except Error α}
    (describes : Describes node limit parse malformed trace result) :
    ∃ (reply : Except IoError Nat) (rest : Trace),
      trace = ⟨.acquire node node.access, reply⟩ :: rest := by
  cases describes with
  | absent reason => exact ⟨.error reason, _, rfl⟩
  | unread serial | malformed serial | described serial => exact ⟨.ok serial, _, rfl⟩

/-- Detection begins with the version. -/
theorem Detects.exists_cons {result : Except Error Capabilities} (detects : Detects trace result) :
    ∃ (reply : Except IoError Nat) (rest : Trace),
      trace = ⟨.acquire .version .readOnly, reply⟩ :: rest := by
  cases detects with
  | unversioned versions => exact versions.exists_cons
  | unnamed versions | untabled versions | detected versions =>
      obtain ⟨reply, rest, rfl⟩ := versions.exists_cons
      exact ⟨reply, _, rfl⟩

end Capabilities

end ManagementUnit
