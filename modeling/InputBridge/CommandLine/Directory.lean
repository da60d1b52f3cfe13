import InputBridge.CommandLine.Surroundings

/-!
# A directory of files

What the command line reads and writes: files in one directory without
subdirectories, somewhere in a file system. A path is followed name by name, and
every way in which that can go wrong is a cause of its own. Where two things are
wrong with a path, the first one met from left to right decides.
-/

namespace InputBridge

/-- Files by name, and what is around them. -/
structure Directory where
  files : List (String × ByteArray) := []
  surroundings : Surroundings := {}

namespace Directory

/-- The longest name a file can have, in bytes. -/
def longestName : Nat := 255

/-- The longest path, in bytes. -/
def longestPath : Nat := 4095

/-- The content of a file. -/
def file? (directory : Directory) (name : String) : Option ByteArray :=
  directory.files.lookup name

/-- Gives a file its content, whether it was there or not. -/
def put (directory : Directory) (name text : String) : Directory :=
  { directory with files := (name, text.toUTF8) :: directory.files.filter (·.1 ≠ name) }

/-! ## Following a path -/

/-- The parts of a path between its slashes. -/
def pathParts (path : String) : List String :=
  (path.toList.splitOn '/').map String.ofList

/-- What a name stands for. -/
inductive Entry where
  /-- A file of the directory, if it is there. -/
  | file (content : Option ByteArray)
  | outside (entry : OutsideEntry)

/-- The place that a name stands for, if it is the name of a directory. -/
def Entry.place : Entry → Except FileError Place
  | .outside (.directory place) => .ok place
  | .outside .absent | .file none => .error .notFound
  | .outside _ | .file (some _) => .error .notADirectory

/-- Looks a name up. -/
def entry (directory : Directory) (place : Place) (name : String) : Except FileError Entry :=
  if directory.surroundings.limitsNames place && longestName < name.utf8ByteSize then
    .error .nameTooLong
  else
    match place with
    | .here => .ok (.file (directory.file? name))
    | .outside names => .ok (.outside (directory.surroundings.entry (names ++ [name])))

/-- What a path leads to. -/
inductive Target where
  /-- A directory. -/
  | directory
  /-- A name that was not looked up yet; `asDirectory` if the path insists on a directory. -/
  | name (place : Place) (name : String) (asDirectory : Bool)
  deriving DecidableEq, Repr

/-- Follows the parts of a path up to its last name. Every name before that must be
the name of a directory. -/
def follow (directory : Directory) : Place → List String → Except FileError Target
  | _, [] => .ok .directory
  | place, part :: rest =>
    if part = "" ∨ part = "." then directory.follow place rest
    else if part = ".." then directory.follow (directory.surroundings.parent place) rest
    else if rest.all (· = "") then .ok (.name place part (rest ≠ []))
    else
      match directory.entry place part >>= Entry.place with
      | .error cause => .error cause
      | .ok place => directory.follow place rest

/-- Follows a path: from the root if it begins with a slash, else from the directory. -/
def locate (directory : Directory) (path : String) : Except FileError Target :=
  if longestPath < path.utf8ByteSize then .error .nameTooLong
  else
    match pathParts path with
    | "" :: rest => directory.follow Place.root rest
    | parts => directory.follow .here parts

/-! ## Reading -/

/-- The text in the content of a file. -/
def decoded (content : ByteArray) : Except FileError String :=
  match String.fromUTF8? content with
  | some text => .ok text
  | none => .error .notText

/-- The text in a special file. Where there is no end, the memory is used up first. -/
def specialText : Special → Except FileError String
  | .null => .ok ""
  | .terminal => .error .noDevice
  | .program => .error .notText
  | .endless | .full | .output | .errors => .error (.other "out of memory")

/-- The text that a name stands for. -/
def Entry.text : Entry → Except FileError String
  | .file (some content) => decoded content
  | .outside (.text beginning _) => .ok beginning
  | .outside (.special kind) => specialText kind
  | .outside (.directory _) => .error .isADirectory
  | .outside .absent | .file none => .error .notFound

/-- Reads a file as text. -/
def readText (directory : Directory) (path : String) : Except FileError String := do
  match ← directory.locate path with
  | .directory => throw .isADirectory
  | .name place name asDirectory =>
    let entry ← directory.entry place name
    if asDirectory then
      let _ ← entry.place
      throw .isADirectory
    else entry.text

/-! ## Writing -/

/-- Where a text goes that is written to a path. -/
inductive Destination where
  /-- To a file in the directory, new or not. -/
  | file (name : String)
  | output
  | errors
  /-- Out of sight. -/
  | away
  deriving DecidableEq, Repr

/-- Where a text goes that is written to a special file. -/
def specialDestination : Special → Except FileError Destination
  | .null | .endless => .ok .away
  | .full => .error .noSpace
  | .terminal => .error .noDevice
  | .program => .error .textBusy
  | .output => .ok .output
  | .errors => .ok .errors

/-- Out of sight, unless there is a cause against it. -/
def awayUnless : Option FileError → Except FileError Destination
  | none => .ok .away
  | some cause => .error cause

/-- Where a text goes that is written to a path. A path that insists on a directory is
refused before its last name is looked up. -/
def destination (directory : Directory) (path : String) : Except FileError Destination := do
  match ← directory.locate path with
  | .directory | .name _ _ true => throw .isADirectory
  | .name place name false =>
    match ← directory.entry place name with
    | .file _ => return .file name
    | .outside (.directory _) => throw .isADirectory
    | .outside (.special kind) => specialDestination kind
    | .outside (.text _ sealedBy) => awayUnless sealedBy
    | .outside .absent => awayUnless (directory.surroundings.refusal place)

end Directory

end InputBridge
