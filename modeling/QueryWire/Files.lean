import QueryWire.Text.Utf8

/-!
# Files

A path leads from folder to folder, name by name, to the file whose text is wanted.

* `FileTree` — a file, or a folder with what is in it.
* `FileFault` — why a path leads to no text.
* `Files.walk` — where names lead from a folder on.
* **`Files.readText`** — the text that a path leads to.
-/

namespace QueryWire

/-- A file or a folder. -/
inductive FileTree where
  | file (content : Bytes)
  | folder (entries : List (String × FileTree))

/-- Why a path leads to no text. -/
inductive FileFault where
  /-- The path holds the character zero, which ends a path. -/
  | zeroInPath
  | missing
  /-- Something that is no folder stands where the path goes on. -/
  | notFolder
  /-- The path ends at a folder. -/
  | isFolder
  /-- The path or a name in it is too long. -/
  | tooLong
  /-- The bytes of the file are no text. -/
  | notText
deriving DecidableEq, Repr

/-- A fault of a path in words. -/
def FileFault.message : FileFault → String
  | .zeroInPath => "file name contained an unexpected NUL byte"
  | .missing => "No such file or directory (os error 2)"
  | .notFolder => "Not a directory (os error 20)"
  | .isFolder => "Is a directory (os error 21)"
  | .tooLong => "File name too long (os error 36)"
  | .notText => "stream did not contain valid UTF-8"

/-- The files of a machine. -/
structure Files where
  /-- The folder that everything is in. -/
  root : FileTree
  /-- The folder that a path starts from which does not start with a slash; it lies in the root. -/
  working : FileTree

namespace Files

/-- The most bytes that a name has. -/
def maxName : Nat := 255

/-- The most bytes that a path has. -/
def maxPath : Nat := 4095

/-- The names between the slashes of a path, `done` being the first characters of the first name
(last first). -/
def namesFrom (done : List Char) : (path : List Char) → List String
  | [] => [String.ofList done.reverse]
  | c :: rest =>
    if c = '/' then String.ofList done.reverse :: namesFrom [] rest else namesFrom (c :: done) rest

/-- The names between the slashes of a path. -/
def names (path : String) : List String := namesFrom [] path.toList

/-- Where names lead, `above` being the folders that `here` is in, the nearest first.  An empty name
and a point stay in a folder, two points go back from it; above the root there is only the root. -/
def walk (above : List FileTree) (here : FileTree) :
    (names : List String) → Except FileFault FileTree
  | [] => .ok here
  | name :: rest =>
    match here with
    | .file _ => .error .notFolder
    | .folder entries =>
      if name = "" || name = "." then walk above here rest
      else if name = ".." then
        match above with
        | [] => walk [] here rest
        | parent :: above => walk above parent rest
      else if maxName < name.utf8ByteSize then .error .tooLong
      else
        match entries.lookup name with
        | none => .error .missing
        | some next => walk (here :: above) next rest

/-- What a path leads to. -/
def find (files : Files) (path : String) : Except FileFault FileTree :=
  if path.toList.contains '\x00' then .error .zeroInPath
  else if path = "" then .error .missing
  else if maxPath < path.utf8ByteSize then .error .tooLong
  else if path.toList.head? = some '/' then walk [] files.root (names path)
  else walk [files.root] files.working (names path)

/-- The text that a path leads to. -/
def readText (files : Files) (path : String) : Except FileFault String :=
  match files.find path with
  | .error fault => .error fault
  | .ok (.folder _) => .error .isFolder
  | .ok (.file content) =>
    match Utf8.text? content with
    | some text => .ok text
    | none => .error .notText

end Files

end QueryWire
