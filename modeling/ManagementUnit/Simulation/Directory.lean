import ManagementUnit.Assign
import ManagementUnit.Dialogue.Driver

/-!
# A directory of ordinary files

The driver's files as plain files of a file system. An open file goes on to be the same file when
its name is removed, and sees what is written under the name while it lasts.
-/

namespace ManagementUnit.Simulation

/-- What a name of the directory stands for: a directory, which can be opened for reading only and
never be read, or a file, by its number. -/
inductive Target where
  | directory
  | file (number : Nat)
deriving DecidableEq, Repr

/-- A directory of ordinary files. `contents` goes by the number of a file, of which there were
`fileCount` so far. `openings` is what was opened so far, in order; the serial number of a handle is
its place there. -/
structure Directory where
  entries : Node → Option Target
  contents : Nat → Bytes
  fileCount : Nat
  openings : List (Target × Access)

namespace Directory

/-- A directory without entries. -/
def empty : Directory :=
  ⟨fun _ => none, fun _ => [], 0, []⟩

/-- The error for a name that is not there. -/
def notFound : IoError := .system 2

/-- The error for a handle that does not allow a call. -/
def badHandle : IoError := .system 9

/-- The error for a directory that is used like a file. -/
def isDirectory : IoError := .system 21

/-- Makes a subdirectory under a name that is free. -/
def makeDirectory (directory : Directory) (node : Node) : Directory :=
  match directory.entries node with
  | some _ => directory
  | none => { directory with entries := assign directory.entries node (some .directory) }

/-- Replaces the whole contents of a file, which is created if it is not there. A subdirectory stays
as it is. -/
def setFile (directory : Directory) (node : Node) (contents : Bytes) : Directory :=
  match directory.entries node with
  | some .directory => directory
  | some (.file number) =>
    { directory with contents := assign directory.contents number contents }
  | none =>
    { directory with
      entries := assign directory.entries node (some (.file directory.fileCount))
      contents := assign directory.contents directory.fileCount contents
      fileCount := directory.fileCount + 1 }

/-- Removes the name of a file. A subdirectory stays as it is. -/
def removeFile (directory : Directory) (node : Node) : Directory :=
  match directory.entries node with
  | some (.file _) => { directory with entries := assign directory.entries node none }
  | _ => directory

/-- Something that is done to the directory from outside, between the calls of a client. `setFile`
replaces a file or creates it. -/
inductive Change where
  | makeDirectory (node : Node)
  | setFile (node : Node) (contents : Bytes)
  | removeFile (node : Node)
deriving DecidableEq, Repr

/-- The directory after a change. -/
def apply (directory : Directory) : Change → Directory
  | .makeDirectory node => directory.makeDirectory node
  | .setFile node contents => directory.setFile node contents
  | .removeFile node => directory.removeFile node

/-- The names of the files that are there, with their contents. -/
def files (directory : Directory) : List (Node × Bytes) :=
  Node.all.filterMap fun node =>
    match directory.entries node with
    | some (.file number) => some (node, directory.contents number)
    | _ => none

/-- Opens an entry. -/
def acquire (node : Node) (access : Access) (directory : Directory) :
    Except IoError Nat × Directory :=
  match directory.entries node with
  | none => (.error notFound, directory)
  | some target =>
    if target = .directory ∧ access = .readWrite then (.error isDirectory, directory)
    else
      (.ok directory.openings.length,
        { directory with openings := directory.openings ++ [(target, access)] })

/-- Reads from the start of an open file. -/
def read (handle : Handle) (limit : Nat) (directory : Directory) :
    Except IoError { bytes : Bytes // bytes.length ≤ limit } × Directory :=
  match directory.openings[handle.serial]? with
  | some (.file number, _) => (.ok ⟨(directory.contents number).take limit, by grind⟩, directory)
  | some (.directory, _) => (.error isDirectory, directory)
  | none => (.error badHandle, directory)

/-- Writes over the start of an open file. What lies behind stays. -/
def write (handle : Handle) (bytes : Bytes) (directory : Directory) :
    Except IoError Nat × Directory :=
  match directory.openings[handle.serial]? with
  | some (.file number, .readWrite) =>
    let contents := bytes ++ (directory.contents number).drop bytes.length
    (.ok bytes.length, { directory with contents := assign directory.contents number contents })
  | _ => (.error badHandle, directory)

/-- The directory's answers. Repositioning never fails, and closing changes nothing. -/
def driver : Driver Directory where
  acquire := acquire
  rewind _ state := (.ok (), state)
  read := read
  write := write
  close _ state := state

end Directory

end ManagementUnit.Simulation
