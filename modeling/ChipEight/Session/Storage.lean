import ChipEight.Memory
import ChipEight.Text.Quoted

/-!
# Storage

What a session can read is up to the host: any path may name a file with any content, or an error
tells why it names none. One such host has a working folder with files in it and in its folders, and
nothing is known around it. There a path names a file by the folders on the way to it, separated by
slashes; `.` stays in a folder and `..` leads to the folder around it. The length of a path, and
that of each name in it, is bounded.

## Main definitions

* `Storage` — what a host has to read
* `Storage.Error` — why a path names no file, with its wording in `Storage.Error.message`
* `Folder`, `Folder.read` — the files of a working folder, and the content of the file that a path
  names
* `Storage.ofFiles` — the storage of a working folder with files of given paths
* `baseName` — the last part of a path
-/

namespace ChipEight

/-- The parts of a path between its slashes. -/
def pathParts (path : String) : List String :=
  path.splitOn "/"

/-- The last part of a path. -/
def baseName (path : String) : String :=
  (pathParts path).getLast?.getD ""

/-- Why a path names no file that can be read. -/
inductive Storage.Error where
  /-- There is nothing at the path. -/
  | missing (path : String)
  /-- The path names a folder. -/
  | isFolder (path : String)
  /-- The path leads through a file as if it were a folder. -/
  | notAFolder (path : String)
  /-- The path, or a name that is looked up on the way, is too long. -/
  | nameTooLong (path : String)
  /-- The path holds the null character. -/
  | nullCharacter
  deriving DecidableEq, Repr

/-- The wording of an error. -/
def Storage.Error.message : Storage.Error → String
  | missing path => s!"[Errno 2] No such file or directory: {Text.quoted path}"
  | isFolder path => s!"[Errno 21] Is a directory: {Text.quoted path}"
  | notAFolder path => s!"[Errno 20] Not a directory: {Text.quoted path}"
  | nameTooLong path => s!"[Errno 36] File name too long: {Text.quoted path}"
  | nullCharacter => "embedded null byte"

/-- What a host has to read: for each path the content of the file that it names, or why it names
none. -/
structure Storage where
  read : String → Except Storage.Error Rom

/-- The files of a working folder: for each the folders on the way with its name, and its
content. -/
structure Folder where
  files : List (List String × Rom)

namespace Folder

/-- The largest size of a path, in bytes. -/
def maxPathSize : Nat := 4095

/-- The largest size of a name between two slashes, in bytes. -/
def maxNameSize : Nat := 255

/-- A place that the first parts of a path lead to. -/
inductive Place where
  /-- A folder inside the working folder, the innermost one first. -/
  | folder (reversed : List String)
  /-- A folder around the working folder. -/
  | around
  /-- A file. -/
  | file (content : Rom)

/-- The working folder with files of the given paths. -/
def ofFiles (files : List (String × Rom)) : Folder :=
  ⟨files.map fun (path, content) =>
    ((pathParts path).filter fun part => part != "" && part != ".", content)⟩

/-- The place of the given name in a folder inside the working folder. -/
def enter (folder : Folder) (reversed : List String) (name : String) : Option Place :=
  let path := (name :: reversed).reverse
  match folder.files.lookup path with
  | some content => some (.file content)
  | none =>
    if folder.files.any fun (file, _) => path.isPrefixOf file then some (.folder (name :: reversed))
    else none

/-- The place that the remaining parts of `path` lead to from a place. -/
def follow (folder : Folder) (path : String) (place : Place) :
    List String → Except Storage.Error Place
  | [] => .ok place
  | part :: rest =>
    match place with
    | .file _ => .error (.notAFolder path)
    | .around =>
      if part = "" ∨ part = "." ∨ part = ".." then folder.follow path .around rest
      else if maxNameSize < part.utf8ByteSize then .error (.nameTooLong path)
      else .error (.missing path)
    | .folder reversed =>
      if part = "" ∨ part = "." then folder.follow path (.folder reversed) rest
      else if part = ".." then
        match reversed with
        | [] => folder.follow path .around rest
        | _ :: outer => folder.follow path (.folder outer) rest
      else if maxNameSize < part.utf8ByteSize then .error (.nameTooLong path)
      else
        match folder.enter reversed part with
        | some place => folder.follow path place rest
        | none => .error (.missing path)

/-- The content of the file that `path` names. A path that starts with a slash starts around the
working folder, of which nothing is known. -/
def read (folder : Folder) (path : String) : Except Storage.Error Rom := do
  if path.contains '\x00' then throw .nullCharacter
  if path = "" then throw (.missing path)
  if maxPathSize < path.utf8ByteSize then throw (.nameTooLong path)
  let start : Place := if path.startsWith "/" then .around else .folder []
  match ← folder.follow path start (pathParts path) with
  | .file content => return content
  | _ => throw (.isFolder path)

end Folder

/-- The storage of a working folder with files of the given paths. -/
def Storage.ofFiles (files : List (String × Rom)) : Storage :=
  ⟨(Folder.ofFiles files).read⟩

end ChipEight
