import Gleaner.Files.Fault
import Gleaner.Text.Blank
import Gleaner.Text.Utf8

set_option autoImplicit false

/-! # Trees of files

Rules are read from files and downloads are written to files. A tree holds the content of every file by
the names that lead to it from the root; a directory is there if a file is below it or if it is listed.
A path is followed name by name, as it is written: `a/../b` needs a directory `a`. There are no links. -/

namespace Gleaner

/-- Files and directories. -/
structure FileTree where
  files : List (List String × Bytes)
  /-- Directories that need no file below them to be there. -/
  directories : List (List String) := []
  deriving DecidableEq, Repr

namespace FileTree

/-! ## What is there -/

/-- The content of a file. -/
def content? (t : FileTree) (names : List String) : Option Bytes := t.files.lookup names

/-- There is a directory. The root is always one. -/
def isDirectory (t : FileTree) (names : List String) : Bool :=
  names.isEmpty || t.directories.any names.isPrefixOf ||
    t.files.any fun (file, _) => names.isPrefixOf file && names.length < file.length

/-- Replaces the content of a file, or adds the file. -/
def put (t : FileTree) (names : List String) (content : Bytes) : FileTree :=
  if (t.content? names).isSome then
    { t with files := t.files.map fun (file, old) =>
        (file, if file = names then content else old) }
  else { t with files := t.files ++ [(names, content)] }

/-- Puts bytes behind what a file holds. -/
def append (t : FileTree) (names : List String) (bytes : Bytes) : FileTree :=
  t.put names ((t.content? names).getD [] ++ bytes)

/-! ## Following a path -/

/-- Where a path leads. -/
inductive Place where
  | directory (names : List String)
  /-- A name in a directory, behind which a slash may stand. -/
  | entry (directory : List String) (name : String) (slash : Bool)
  deriving DecidableEq, Repr

/-- The longest name, in bytes. -/
def nameLimit : Nat := 255

/-- The longest path, in bytes. -/
def pathLimit : Nat := 4095

/-- Follows names from a directory that is there. -/
def follow (t : FileTree) (directory : List String) : List String → Except FileFault Place
  | [] => .ok (.directory directory)
  | name :: rest =>
    if name = "" ∨ name = "." then t.follow directory rest
    else if name = ".." then t.follow directory.dropLast rest
    else if nameLimit < name.utf8ByteSize then .error (.system SystemCode.nameTooLong)
    else if rest.all (· == "") then .ok (.entry directory name (!rest.isEmpty))
    else if t.isDirectory (directory ++ [name]) then t.follow (directory ++ [name]) rest
    else if (t.content? (directory ++ [name])).isSome then .error (.system SystemCode.notADirectory)
    else .error (.system SystemCode.noSuchFile)

/-- The names in a path, with an empty one for every slash too many. -/
def names (path : String) : List String := (Text.pieces '/' path.toList).map String.ofList

/-- Where a path from the root leads. -/
def place (t : FileTree) (path : String) : Except FileFault Place :=
  if path.toList.contains '\x00' then .error .nulInPath
  else if path.isEmpty then .error (.system SystemCode.noSuchFile)
  else if pathLimit < path.utf8ByteSize then .error (.system SystemCode.nameTooLong)
  else t.follow [] (names path)

/-! ## Reading and writing -/

/-- The content of the file at a path. -/
def read (t : FileTree) (path : String) : Except FileFault Bytes := do
  match ← t.place path with
  | .directory _ => .error (.system SystemCode.isADirectory)
  | .entry directory name slash =>
    if t.isDirectory (directory ++ [name]) then .error (.system SystemCode.isADirectory)
    else match t.content? (directory ++ [name]) with
      | none => .error (.system SystemCode.noSuchFile)
      | some content => if slash then .error (.system SystemCode.notADirectory) else .ok content

/-- The text of the file at a path. -/
def readText (t : FileTree) (path : String) : Except FileFault String := do
  match Utf8.decode? (← t.read path) with
  | some text => .ok text
  | none => .error .notText

/-- There is a file at a path. -/
def isFile (t : FileTree) (path : String) : Bool := (t.read path).isOk

/-- The names that lead to the file that writing to a path would create or replace. -/
def target (t : FileTree) (path : String) : Except FileFault (List String) := do
  match ← t.place path with
  | .directory _ => .error (.system SystemCode.isADirectory)
  | .entry directory name slash =>
    if slash || t.isDirectory (directory ++ [name]) then .error (.system SystemCode.isADirectory)
    else .ok (directory ++ [name])

/-- A path starts at the root. -/
def isAbsolute (path : String) : Bool := path.toList.head? == some '/'

/-- A path from a working directory, as a path from the root. -/
def absolute (directory path : String) : String :=
  if isAbsolute path then path
  else if directory.toList.getLast? == some '/' then directory ++ path
  else directory ++ "/" ++ path

end FileTree

end Gleaner
