import Kompositum.Files.Path
import Kompositum.Text.Utf8

/-!
# Files

A snapshot of the files that a program works with. Every file and folder stands at a place, the
names on the way to it from the root; the program runs in the folder `home`.

* `Files.find`: the place that a path names.
* `Files.read`, `Files.write`, `Files.remove`: what can be done with a file.
* `Files.makeFolders`: a folder with those that it lies in.
-/

namespace Kompositum

/-- Why a file cannot be used. -/
inductive FileFault where
  | notFound
  | notAFolder
  | isAFolder
  /-- The content is no text. -/
  | notText
  /-- The content of a folder cannot be mapped into memory. -/
  | unmappable
  /-- The content does not fit into memory. -/
  | tooLarge
deriving DecidableEq, Repr

/-- The wording of a fault. -/
def FileFault.message : FileFault → Text
  | notFound => "No such file or directory (os error 2)"
  | notAFolder => "Not a directory (os error 20)"
  | isAFolder => "Is a directory (os error 21)"
  | notText => "stream did not contain valid UTF-8"
  | unmappable => "No such device (os error 19)"
  | tooLarge => "Cannot allocate memory (os error 12)"

/-- The names on the way from the root to a file or folder. -/
abbrev Place := List Text

/-- What stands at a place. -/
inductive Entry where
  | folder
  | file (content : Bytes)
deriving DecidableEq, Repr

/-- Files and folders, and the folder in which the program runs. -/
structure Files where
  home : Place
  entries : List (Place × Entry)
deriving DecidableEq, Repr

namespace Files

/-- What stands at a place; the root is a folder. -/
def entry? (fs : Files) (p : Place) : Option Entry :=
  if p.isEmpty then some .folder else fs.entries.lookup p

/-- Another entry at a place. -/
def set (fs : Files) (p : Place) (e : Entry) : Files :=
  { fs with entries := (p, e) :: fs.entries.filter fun x => x.1 != p }

/-- No entry at a place. -/
def unset (fs : Files) (p : Place) : Files :=
  { fs with entries := fs.entries.filter fun x => x.1 != p }

/-- The folders at the end of a way through a folder, each with the ones before it. -/
def setFolders (fs : Files) (here : Place) : List Text → Files
  | [] => fs
  | name :: names => (fs.set (here ++ [name]) .folder).setFolders (here ++ [name]) names

/-- The folder in which the program runs, empty. -/
def empty (home : Place) : Files := (⟨home, []⟩ : Files).setFolders [] home

/-- The path of the folder in which the program runs. -/
def homePath (fs : Files) : Text := '/' :: Text.join ['/'] fs.home

/-- The place that a name leads to from a folder: the folder itself, the one above it or one
inside it. -/
def next (here : Place) (name : Text) : Place :=
  if name.isEmpty || name == ['.'] then here
  else if name == ['.', '.'] then here.dropLast
  else here ++ [name]

/-- Where the given names lead to, step by step; every step leaves a folder. -/
def walk (fs : Files) (here : Place) : List Text → Except FileFault Place
  | [] => .ok here
  | name :: names =>
    match fs.entry? here with
    | none => .error .notFound
    | some (.file _) => .error .notAFolder
    | some .folder => fs.walk (next here name) names

/-- Where a path starts. -/
def start (fs : Files) (path : Text) : Place := if Path.isAbsolute path then [] else fs.home

/-- **The place that a path names**, whether or not anything stands there. The empty path names
nothing. -/
def find (fs : Files) (path : Text) : Except FileFault Place :=
  if path.isEmpty then .error .notFound else fs.walk (fs.start path) (Path.names path)

/-- What stands where a path leads. -/
def entry (fs : Files) (path : Text) : Except FileFault Entry := do
  match fs.entry? (← fs.find path) with
  | some e => return e
  | none => .error .notFound

/-- Whether anything stands where a path leads. -/
def holds (fs : Files) (path : Text) : Bool := (fs.entry path).toOption.isSome

/-- Whether a path leads to a file. -/
def isFile (fs : Files) (path : Text) : Bool :=
  match fs.entry path with
  | .ok (.file _) => true
  | _ => false

/-- Whether a path leads to a folder. -/
def isFolder (fs : Files) (path : Text) : Bool := (fs.entry path).toOption == some .folder

/-- **The content of a file.** -/
def read (fs : Files) (path : Text) : Except FileFault Bytes := do
  match ← fs.entry path with
  | .file content => return content
  | .folder => .error .isAFolder

/-- The content of a file as text. -/
def readText (fs : Files) (path : Text) : Except FileFault Text := do
  match Utf8.decode (← fs.read path) with
  | .ok t => return t
  | .error _ => .error .notText

/-- The greatest number of bytes that can be mapped into memory, 2⁶³ - 1. -/
def mapLimit : Nat := 0x7FFFFFFFFFFFFFFF

/-- The content of a file that is mapped into memory. -/
def map (fs : Files) (path : Text) : Except FileFault Bytes := do
  match ← fs.entry path with
  | .file content => if mapLimit < content.length then .error .tooLarge else return content
  | .folder => .error .unmappable

/-- The size that folders claim to have. -/
def folderSize : Nat := 4096

/-- The size of a file. -/
def size (fs : Files) (path : Text) : Except FileFault Nat := do
  match ← fs.entry path with
  | .file content => return content.length
  | .folder => return folderSize

/-- **Files with other content in one of them**, which is added if it is not there. -/
def write (fs : Files) (path : Text) (content : Bytes) : Except FileFault Files := do
  let p ← fs.find path
  match fs.entry? p with
  | some .folder => .error .isAFolder
  | _ => return fs.set p (.file content)

/-- **Files without one of them.** -/
def remove (fs : Files) (path : Text) : Except FileFault Files := do
  let p ← fs.find path
  match fs.entry? p with
  | none => .error .notFound
  | some .folder => .error .isAFolder
  | some (.file _) => return fs.unset p

/-- The names of the files in a folder, in ascending order. -/
def names (fs : Files) (p : Place) : List Text :=
  Text.sort (fs.entries.filterMap fun (q, e) =>
    match e with
    | .file _ => if q.dropLast = p then q.getLast? else none
    | .folder => none)

/-- The names of the files in the folder that a path leads to; there are none without one. -/
def list (fs : Files) (path : Text) : List Text := ((fs.find path).map fs.names).toOption.getD []

/-- A way along folders, those that are missing added. -/
def makeWay (fs : Files) (here : Place) : List Text → Except FileFault Files
  | [] => .ok fs
  | name :: names =>
    let p := next here name
    match fs.entry? p with
    | none => (fs.set p .folder).makeWay p names
    | some .folder => fs.makeWay p names
    | some (.file _) => .error .notAFolder

/-- **A folder with those that it lies in**, if they are missing. -/
def makeFolders (fs : Files) (path : Text) : Except FileFault Files :=
  if path.isEmpty then .ok fs else fs.makeWay (fs.start path) (Path.names path)

end Files

end Kompositum
