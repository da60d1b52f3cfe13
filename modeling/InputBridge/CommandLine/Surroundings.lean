import InputBridge.CommandLine.FileError

/-!
# The surroundings of a directory

The directory that the command line works in stands in a file system, and a path may
lead out of it. What stands outside differs from system to system, so it is given: by
the names that lead from the root to a file, what is found there.

A text file outside is read only to find out that it is no configuration, which its
beginning decides.
-/

namespace InputBridge

/-- A directory, by where it is. -/
inductive Place where
  /-- The directory that the command line works in. -/
  | here
  /-- Another directory, by the names that lead there from the root. -/
  | outside (names : List String)
  deriving DecidableEq, Repr

/-- The root of the file system. -/
def Place.root : Place := .outside []

/-- A file that is no plain text file. -/
inductive Special where
  /-- Reads as an empty file and takes everything. -/
  | null
  /-- Reads without an end and takes everything. -/
  | endless
  /-- Reads without an end and takes nothing, as it is always full. -/
  | full
  /-- The terminal of a program that has none. -/
  | terminal
  /-- A program that is running. -/
  | program
  /-- The standard output. -/
  | output
  /-- The error output. -/
  | errors
  deriving DecidableEq, Repr

/-- What a name outside stands for. -/
inductive OutsideEntry where
  | directory (place : Place)
  /-- A text file, by how it begins and why it cannot be written, if it cannot. -/
  | text (beginning : String) (sealedBy : Option FileError)
  | special (kind : Special)
  | absent
  deriving DecidableEq, Repr

/-- A file system around a directory. If nothing else is said, the directory stands in
a root that has nothing else in it. -/
structure Surroundings where
  /-- The names that lead from the root to where the directory stands. -/
  above : List String := []
  /-- What is found where these names lead from the root. -/
  entry : List String → OutsideEntry := fun _ => .absent
  /-- Is the length of a name limited there? -/
  limitsNames : Place → Bool := fun _ => true
  /-- Why a new file cannot be made there, if it cannot. -/
  refusal : Place → Option FileError := fun _ => none

namespace Surroundings

/-- The directory above. The root is above itself. -/
def parent (surroundings : Surroundings) : Place → Place
  | .here => .outside surroundings.above
  | .outside names => .outside names.dropLast

end Surroundings

end InputBridge
