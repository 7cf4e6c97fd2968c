import Kompositum.Storage.Action
import Kompositum.Text.Table

/-!
# Storage in memory

Files are a table. A file takes its place in it when an output is published: when it is closed, or
dropped without having been closed.

* `Memory.step`: one step of working with the storage.
-/

namespace Kompositum

/-- An output of a storage in memory. -/
structure MemoryOutput where
  name : Text
  written : Bytes
  closed : Bool
deriving DecidableEq, Repr

/-- **One request to an output** to take some bytes. A closed one refuses, whatever the bytes. -/
def MemoryOutput.request (o : MemoryOutput) (bytes : Bytes) : Except StoreFault MemoryOutput :=
  if o.closed then .error (.closed o.name) else .ok { o with written := o.written ++ bytes }

/-- Files in memory, and the outputs by their handles. -/
structure Memory where
  files : Text.Table Bytes
  outputs : Text.Table MemoryOutput
deriving DecidableEq, Repr

namespace Memory

/-- A storage without files. -/
def empty : Memory := ⟨[], []⟩

/-- **An output takes its place among the files**, unless it has done so before. -/
def publish (m : Memory) (o : MemoryOutput) : Memory :=
  if o.closed then m else { m with files := m.files.insert o.name o.written }

/-- A storage without an output, which is published. -/
def drop (m : Memory) (handle : Text) : Memory :=
  match m.outputs.get? handle with
  | none => m
  | some o => { m with outputs := m.outputs.erase handle }.publish o

/-- A storage with a new output, the other one of its handle dropped. -/
def create (m : Memory) (handle name : Text) : Memory :=
  let m := m.drop handle
  { m with outputs := m.outputs.insert handle ⟨name, [], false⟩ }

/-- A storage with an output closed. -/
def close (m : Memory) (handle : Text) : Memory :=
  match m.outputs.get? handle with
  | none => m
  | some o => { m with outputs := m.outputs.insert handle ⟨o.name, [], true⟩ }.publish o

/-- A storage with more bytes in an output. All are written in one request, and no bytes without
any. -/
def write (m : Memory) (handle : Text) (bytes : Bytes) : Except StoreFault Memory :=
  match m.outputs.get? handle with
  | none => .ok m
  | some o =>
    if bytes.isEmpty then .ok m
    else (o.request bytes).map fun o => { m with outputs := m.outputs.insert handle o }

theorem write_nil (m : Memory) (handle : Text) : m.write handle [] = .ok m := by
  unfold write
  cases m.outputs.get? handle <;> rfl

theorem write_of_get?_eq_some {m : Memory} {handle : Text} {o : MemoryOutput}
    (ho : m.outputs.get? handle = some o) {bytes : Bytes} (hbytes : bytes ≠ []) :
    m.write handle bytes =
      (o.request bytes).map fun o => { m with outputs := m.outputs.insert handle o } := by
  have hsome : ¬ bytes.isEmpty = true := by simpa using hbytes
  unfold write
  simp only [ho, if_neg hsome]

/-- The content of a file. -/
def read (m : Memory) (name : Text) : Except StoreFault Bytes :=
  match m.files.get? name with
  | some content => .ok content
  | none => .error (.missing name)

/-- A storage without a file. -/
def delete (m : Memory) (name : Text) : Memory := { m with files := m.files.erase name }

/-- **One step of working with the storage.** What an output has been told to pass on stays with
it until it is published. -/
def step (m : Memory) : StorageAction → Except StoreFault StorageAnswer × Memory
  | .create handle name => (.ok .done, m.create handle name)
  | .write handle bytes =>
    match m.write handle bytes with
    | .ok m => (.ok .done, m)
    | .error fault => (.error fault, m)
  | .flush _ | .sync _ => (.ok .done, m)
  | .close handle => (.ok .done, m.close handle)
  | .drop handle => (.ok .done, m.drop handle)
  | .delete name => (.ok .done, m.delete name)
  | .contains name => (.ok (.truth (m.files.contains name)), m)
  | .size name => ((m.read name).map fun content => .number content.length, m)
  | .read name => ((m.read name).map .content, m)
  | .names => (.ok (.names m.files.keys), m)

instance : Store Memory where
  read := read
  write m name content := .ok { m with files := m.files.insert name content }
  delete m name := .ok (m.delete name)
  names m := m.files.keys

end Memory

end Kompositum
