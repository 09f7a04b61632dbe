/-!
# File paths

Paths are texts with slashes between names. `Path.join` puts a name behind a directory;
`Path.components` is what a path denotes step by step, and two paths that differ only in repeated or
trailing slashes or in inner or trailing dots have the same components.
-/

namespace ManagementUnit.Path

/-- One step of a path. `root` and `here` occur at the front only, where a path begins with a slash
or with a single dot. An entry is one of the directory reached so far. -/
inductive Component where
  | root
  | here
  | parent
  | entry (name : List Char)
deriving DecidableEq, Repr

/-- The parts of a text between its slashes, empty ones included. -/
def segments : List Char → List (List Char)
  | [] => [[]]
  | c :: cs =>
    if c = '/' then [] :: segments cs
    else
      match segments cs with
      | [] => [[c]]
      | first :: rest => (c :: first) :: rest

/-- The step that a part stands for: an empty part and a single dot are none. -/
def step? : List Char → Option Component
  | [] => none
  | ['.'] => none
  | ['.', '.'] => some .parent
  | name => some (.entry name)

/-- How a path begins: at the root, at the current directory by name, or neither. -/
def start (path : List Char) : List Component :=
  if path.head? = some '/' then [.root]
  else if (segments path).head? = some ['.'] then [.here]
  else []

/-- The steps of a path. -/
def components (path : String) : List Component :=
  start path.toList ++ (segments path.toList).filterMap step?

/-- A name in a directory. A slash is put between unless the directory ends in one or is empty. -/
def join (directory name : String) : String :=
  if directory.toList.getLast?.all (· == '/') then directory ++ name
  else directory ++ "/" ++ name

end ManagementUnit.Path
