import OperatorKit.Text.Utf8

/-!
# File trees

What a path leads to. A tree lists the files below the working directory. Of the directories above
it nothing is known but that they are there, and of the rest only what every system has: the root,
`/dev` with the empty file `/dev/null`, and `/tmp`.
-/

namespace OperatorKit.CommandLine

open OperatorKit.Text

/-- Why a file cannot be read. -/
inductive FileFault where
  | notFound
  | notADirectory
  | isDirectory
  | nameTooLong
  | other (reason : String)
deriving DecidableEq

/-- The wording of the fault of a file. -/
def FileFault.message : FileFault → String
  | notFound => "No such file or directory (os error 2)"
  | notADirectory => "Not a directory (os error 20)"
  | isDirectory => "Is a directory (os error 21)"
  | nameTooLong => "File name too long (os error 36)"
  | other reason => reason

/-- The names on a path, split at its slashes. -/
def pathNames (path : String) : List String :=
  (path.toList.splitOn '/').map String.ofList

/-- The files below the working directory, each under the names that lead to it. -/
abbrev FileTree := List (List String × Bytes)

/-- A directory. One below the working directory is known by the names that lead to it. -/
inductive Directory where
  | below (names : List String)
  | above
  | root
  | devices
  | temporary
deriving DecidableEq

/-- The directory that holds a directory. The root holds itself. -/
def Directory.parent : Directory → Directory
  | below [] | above => above
  | below names => below names.dropLast
  | root | devices | temporary => root

/-- What a path leads to. -/
inductive Entry where
  | directory (directory : Directory)
  | file (content : Bytes)
deriving DecidableEq

namespace FileTree

/-- What a directory lists under a name. -/
def entry? (tree : FileTree) : Directory → String → Option Entry
  | .below names, name =>
    let longer := names ++ [name]
    match tree.lookup longer with
    | some content => some (.file content)
    | none =>
      if tree.any fun (file, _) => longer.isPrefixOf file then some (.directory (.below longer))
      else none
  | .root, "dev" => some (.directory .devices)
  | .root, "tmp" => some (.directory .temporary)
  | .devices, "null" => some (.file [])
  | _, _ => none

/-- The number of bytes that a name can have. -/
def longestName : Nat := 255

/-- The number of bytes that a path can have. -/
def longestPath : Nat := 4095

/-- Follows one name. No name and a dot stay in a directory, two dots leave it. -/
def follow (tree : FileTree) (entry : Entry) (name : String) : Except FileFault Entry :=
  match entry with
  | .file _ => .error .notADirectory
  | .directory directory =>
    if name = "" ∨ name = "." then .ok entry
    else if name = ".." then .ok (.directory directory.parent)
    else if longestName < name.utf8ByteSize then .error .nameTooLong
    else
      match tree.entry? directory name with
      | some entry => .ok entry
      | none => .error .notFound

/-- Where a path starts. -/
def start (path : String) : Directory :=
  match path.toList with
  | '/' :: _ => .root
  | _ => .below []

/-- What a path leads to. The empty path leads nowhere. -/
def find (tree : FileTree) (path : String) : Except FileFault Entry :=
  if path = "" then .error .notFound
  else if longestPath < path.utf8ByteSize then .error .nameTooLong
  else (pathNames path).foldlM tree.follow (.directory (start path))

/-- The content of the file that a path leads to. -/
def read (tree : FileTree) (path : String) : Except FileFault Bytes := do
  match ← tree.find path with
  | .file content => .ok content
  | .directory _ => .error .isDirectory

end FileTree

end OperatorKit.CommandLine
