/-
The files a run can see.

A file tree says of absolute paths whether they are directories or files with
some bytes. Looking a path up walks it component by component, as the system
does: every component but the last must lead into a directory, dots stay and two
dots go up, and a trailing slash asks for a directory.
-/
import CallExplorer.Text.Bytes
import CallExplorer.Text.Split

namespace CallExplorer

/-- Why a file cannot be read as text, or started. -/
inductive FileError where
  | notFound
  | isDirectory
  | notDirectory
  | nameTooLong
  | notText
  | nulInName
  | denied
  | other (reason : String)
  deriving DecidableEq, Repr

/-- The system's words for it. -/
def FileError.message : FileError → String
  | .notFound => "No such file or directory (os error 2)"
  | .isDirectory => "Is a directory (os error 21)"
  | .notDirectory => "Not a directory (os error 20)"
  | .nameTooLong => "File name too long (os error 36)"
  | .notText => "stream did not contain valid UTF-8"
  | .nulInName => "file name contained an unexpected NUL byte"
  | .denied => "Permission denied (os error 13)"
  | .other reason => reason

/-- A way to get at the bytes of files. -/
abbrev FileReader := String → Except FileError (List UInt8)

/-- The text of the file at a path. -/
def FileReader.text (read : FileReader) (path : String) : Except FileError String := do
  match Text.ofBytes? (← read path) with
  | some s => .ok s
  | none => .error .notText

/-- What stands at a path. -/
inductive FileNode where
  | directory
  | file (content : List UInt8)

/-- A path from the root, the innermost component first. -/
abbrev TreePath := List (List Char)

/-- Files and directories by path, and the directory that relative paths start from. -/
structure FileTree where
  nodes : List (TreePath × FileNode)
  working : TreePath

namespace FileTree

/-- What stands at a path. The root is always there. -/
def node? (t : FileTree) : TreePath → Option FileNode
  | [] => some .directory
  | path => (t.nodes.find? (·.1 == path)).map (·.2)

/-- Walks the components of a path, the first of them first. -/
def walk (t : FileTree) : TreePath → List (List Char) → Except FileError TreePath
  | here, [] => .ok here
  | here, name :: rest =>
    match t.node? here with
    | none => .error .notFound
    | some (.file _) => .error .notDirectory
    | some .directory =>
      if name = [] ∨ name = ['.'] then t.walk here rest
      else if name = ['.', '.'] then t.walk here.tail rest
      else if 255 < Text.byteCount name then .error .nameTooLong
      else if (t.node? (name :: here)).isNone then .error .notFound
      else t.walk (name :: here) rest

/-- The bytes of the file at a path. -/
def read (t : FileTree) : FileReader := fun path => do
  let cs := path.toList
  if cs.contains (Char.ofNat 0) then .error .nulInName
  else if 4095 < Text.byteCount cs then .error .nameTooLong
  else if cs.isEmpty then .error .notFound
  else
    let start := if cs.head? = some '/' then [] else t.working
    let there ← t.walk start (Text.splitAt '/' cs)
    match t.node? there with
    | some (.file content) => .ok content
    | _ => .error .isDirectory

/-- The directory of relative paths, as a path. -/
def workingPath (t : FileTree) : String :=
  match t.working.reverse with
  | [] => "/"
  | names => String.ofList (names.flatMap fun n => '/' :: n)

end FileTree

/-- A path seen from a directory; absolute paths stay as they are. -/
def joinPath (directory path : String) : String :=
  match path.toList with
  | '/' :: _ => path
  | _ => if directory.toList.getLast? = some '/' then directory ++ path else directory ++ "/" ++ path

end CallExplorer
