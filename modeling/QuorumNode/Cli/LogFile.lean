/-
What the operating system says to a new log file.  A path is followed name by
name from a directory; the answers depend on what stands at each name, which is
given as a tree of entries.
-/
import QuorumNode.Text.Bytes

namespace QuorumNode.Cli

/-- Why a log file cannot be made. -/
inductive FileError where
  | notFound
  | noDevice
  | denied
  | notDirectory
  | isDirectory
  | nameTooLong
  | other (message : String)
deriving DecidableEq, Repr

def FileError.message : FileError → String
  | notFound => "No such file or directory (os error 2)"
  | noDevice => "No such device or address (os error 6)"
  | denied => "Permission denied (os error 13)"
  | notDirectory => "Not a directory (os error 20)"
  | isDirectory => "Is a directory (os error 21)"
  | nameTooLong => "File name too long (os error 36)"
  | other message => message

/-- What stands at a name.  A directory may refuse new files, and a file may
refuse to be opened. -/
inductive FileEntry where
  | directory (refusal : Option FileError)
  | file (refusal : Option FileError)
deriving DecidableEq, Repr

/-- The entries at the names that lead from the root, the last name first. -/
abbrev FileTree := List String → Option FileEntry

namespace FileTree

/-- The length in bytes that a name may have, and the one a path must stay
below. -/
def nameLimit : Nat := 255

def pathLimit : Nat := 4096

/-- The entry of a name in a directory. -/
def look (tree : FileTree) (directory : List String) (name : String) :
    Except FileError (Option FileEntry) :=
  if nameLimit < name.utf8ByteSize then .error .nameTooLong
  else .ok (tree (name :: directory))

/-- The directory that a name leads to from a directory. -/
def enter (tree : FileTree) (directory : List String) (name : String) :
    Except FileError (List String) := do
  match name with
  | "" | "." => return directory
  | ".." => return directory.drop 1
  | _ =>
      match ← tree.look directory name with
      | some (.directory _) => return name :: directory
      | some (.file _) => throw .notDirectory
      | none => throw .notFound

/-- What a new file in a directory meets with. -/
def createIn (tree : FileTree) (directory : List String) (name : String) :
    Except FileError Unit := do
  if ["", ".", ".."].contains name then throw .isDirectory
  match ← tree.look directory name with
  | some (.directory _) => throw .isDirectory
  | some (.file refusal) => refusal.elim (return ()) throw
  | none =>
      match tree directory with
      | some (.directory (some refusal)) => throw refusal
      | _ => return ()

/-- What a new file, or a file to be emptied, meets with at a path.  Names stand
between slashes, and a slash behind the last name asks for a directory.  A path
without a leading slash begins in `working`. -/
def create (tree : FileTree) (working : List String) (path : String) :
    Except FileError Unit := do
  if path = "" then throw .notFound
  if pathLimit ≤ path.utf8ByteSize then throw .nameTooLong
  let names := path.splitOn "/"
  let named := names.filter (· ≠ "")
  let start := if names.head? = some "" then [] else working
  let directory ← named.dropLast.foldlM tree.enter start
  if names.getLast? = some "" then throw .isDirectory
  tree.createIn directory (named.getLastD "")

end FileTree

end QuorumNode.Cli
