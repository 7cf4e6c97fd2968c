import Kompositum.Storage.Action
import Kompositum.Text.Table

/-!
# Storage in a folder

The files of a storage lie in one folder. A file is there, empty, from the creation of an output
on. An output collects what is written and passes it on to the file at its own position; a file
that has been deleted takes nothing any more, but outputs on it go on working.

* `Directory.open?`: the storage in a folder.
* `Directory.written`: what becomes of more bytes in an output.
* `Directory.step`: one step of working with the storage.
-/

namespace Kompositum

/-- An output of a storage in a folder. -/
structure DirectoryOutput where
  name : Text
  place : Place
  /-- The number of bytes passed on to the file. -/
  position : Nat
  /-- What has been written since. -/
  pending : Bytes
  closed : Bool
  /-- Whether the file has not been deleted. -/
  linked : Bool
deriving DecidableEq, Repr

/-- The folder of a storage, all files, and the outputs by their handles. -/
structure Directory where
  path : Text
  files : Files
  outputs : Text.Table DirectoryOutput
deriving DecidableEq, Repr

namespace Directory

/-- The storage in a folder that is there. -/
def open? (files : Files) (path : Text) : Except StoreFault Directory :=
  if files.isFolder path then .ok ⟨path, files, []⟩ else .error (.notAFolder path)

/-- The path of a file of the storage. -/
def pathOf (d : Directory) (name : Text) : Text := Path.join d.path name

/-- The fault of a file that cannot be used. -/
def faultOf (name : Text) : FileFault → StoreFault
  | .notFound => .missing name
  | cause => .refused name cause

/-- The result of working with a file, its fault that of a storage. -/
def lift {α : Type} (name : Text) (r : Except FileFault α) : Except StoreFault α :=
  r.mapError (faultOf name)

/-- Bytes with others in place of those from a position on; zeros fill what is missing before. -/
def patched (content : Bytes) (position : Nat) (bytes : Bytes) : Bytes :=
  content.take position ++ List.replicate (position - content.length) 0 ++ bytes ++
    content.drop (position + bytes.length)

/-- The files with an output's bytes passed on to its file. -/
def passOn (fs : Files) (o : DirectoryOutput) (bytes : Bytes) : Files :=
  if !o.linked || bytes.isEmpty then fs
  else match fs.entry? o.place with
    | some (.file content) => fs.set o.place (.file (patched content o.position bytes))
    | _ => fs

/-- An output and the files after it has passed on all that it has collected. -/
def flushed (fs : Files) (o : DirectoryOutput) : DirectoryOutput × Files :=
  ({ o with position := o.position + o.pending.length, pending := [] }, passOn fs o o.pending)

/-- The number of bytes that an output collects. -/
def capacity : Nat := 65536

/-- **An output and the files after more bytes have been written.** They are collected if there is
room for them, else what has been collected is passed on before; more than could be collected goes
straight to the file. -/
def written (fs : Files) (o : DirectoryOutput) (bytes : Bytes) : DirectoryOutput × Files :=
  let (o, fs) := if capacity < o.pending.length + bytes.length then flushed fs o else (o, fs)
  if bytes.length < capacity then ({ o with pending := o.pending ++ bytes }, fs)
  else ({ o with position := o.position + bytes.length }, passOn fs o bytes)

/-- A storage with an output and the files changed. -/
def setOutput (d : Directory) (handle : Text) (r : DirectoryOutput × Files) : Directory :=
  { d with outputs := d.outputs.insert handle r.1, files := r.2 }

/-- A storage without an output, which passes on what it has collected. -/
def drop (d : Directory) (handle : Text) : Directory :=
  match d.outputs.get? handle with
  | none => d
  | some o => { d with outputs := d.outputs.erase handle, files := (flushed d.files o).2 }

/-- A storage with a new output on an empty file, the other one of its handle dropped. -/
def create (d : Directory) (handle name : Text) : Except StoreFault Directory := do
  let place ← lift name (d.files.find (d.pathOf name))
  let files ← lift name (d.files.write (d.pathOf name) [])
  let d := { d with files }.drop handle
  return { d with outputs := d.outputs.insert handle ⟨name, place, 0, [], false, true⟩ }

/-- A storage with an output changed, which has to be open. -/
def onOpen (d : Directory) (handle : Text)
    (f : Files → DirectoryOutput → DirectoryOutput × Files) : Except StoreFault Directory :=
  match d.outputs.get? handle with
  | none => .ok d
  | some o => if o.closed then .error (.closed o.name) else .ok (d.setOutput handle (f d.files o))

/-- A storage with more bytes in an output. -/
def write (d : Directory) (handle : Text) (bytes : Bytes) : Except StoreFault Directory :=
  if bytes.isEmpty then .ok d else d.onOpen handle fun fs o => written fs o bytes

/-- A storage with an output closed. -/
def close (d : Directory) (handle : Text) : Directory :=
  match d.outputs.get? handle with
  | none => d
  | some o =>
    let (o, fs) := flushed d.files o
    d.setOutput handle ({ o with closed := true }, fs)

/-- A storage without a file. Outputs on it lose it. -/
def delete (d : Directory) (name : Text) : Except StoreFault Directory := do
  if d.files.holds (d.pathOf name) then
    let place ← lift name (d.files.find (d.pathOf name))
    let files ← lift name (d.files.remove (d.pathOf name))
    let outputs := d.outputs.map fun (h, o) =>
      (h, { o with linked := o.linked && o.place != place })
    return { d with files, outputs }
  else return d

/-- The content of a file. A folder can be opened, but not read. -/
def read (d : Directory) (name : Text) : Except StoreFault Bytes :=
  match d.files.read (d.pathOf name) with
  | .ok content => .ok content
  | .error .isAFolder => .error (.unreadable .isAFolder)
  | .error cause => .error (faultOf name cause)

/-- The size of a file. -/
def size (d : Directory) (name : Text) : Except StoreFault Nat :=
  lift name (d.files.size (d.pathOf name))

/-- A step that yields nothing but a changed storage. -/
def changed (d : Directory) (r : Except StoreFault Directory) :
    Except StoreFault StorageAnswer × Directory :=
  match r with
  | .ok d => (.ok .done, d)
  | .error fault => (.error fault, d)

/-- **One step of working with the storage.** -/
def step (d : Directory) : StorageAction → Except StoreFault StorageAnswer × Directory
  | .create handle name => d.changed (d.create handle name)
  | .write handle bytes => d.changed (d.write handle bytes)
  | .flush handle | .sync handle => d.changed (d.onOpen handle flushed)
  | .close handle => (.ok .done, d.close handle)
  | .drop handle => (.ok .done, d.drop handle)
  | .delete name => d.changed (d.delete name)
  | .contains name => (.ok (.truth (d.files.isFile (d.pathOf name))), d)
  | .size name => ((d.size name).map .number, d)
  | .read name => ((d.read name).map .content, d)
  | .names => (.ok (.names (d.files.list d.path)), d)

instance : Store Directory where
  read := read
  write d name content := do
    return { d with files := ← lift name (d.files.write (d.pathOf name) content) }
  delete := delete
  names d := d.files.list d.path

end Directory

end Kompositum
