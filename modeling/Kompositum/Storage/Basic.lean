import Kompositum.Files.Basic

/-!
# Storage

An index is kept as a few whole files with plain names. A storage is anything that holds such
files.

* `Store`: what can be done with the files of a storage.
-/

namespace Kompositum

/-- Why a storage does not do what it is asked for. -/
inductive StoreFault where
  /-- There is no file of this name. -/
  | missing (name : Text)
  /-- A file cannot be used. -/
  | refused (name : Text) (cause : FileFault)
  /-- The content of a file cannot be read. -/
  | unreadable (cause : FileFault)
  /-- The output has been closed before. -/
  | closed (name : Text)
  /-- The storage has to be a folder. -/
  | notAFolder (path : Text)
deriving DecidableEq, Repr

/-- The wording of a fault. -/
def StoreFault.message : StoreFault → Text
  | missing name => "File not found: " ++ name
  | refused name cause => "I/O error: " ++ name ++ ": " ++ cause.message
  | unreadable cause => cause.message
  | closed name => "Output is closed: " ++ name
  | notAFolder path => "Path is not a directory: " ++ path

/-- **What can be done with the files of a storage.** -/
class Store (σ : Type) where
  /-- The content of a file. -/
  read : σ → Text → Except StoreFault Bytes
  /-- A storage with a new file, or with other content in it. -/
  write : σ → Text → Bytes → Except StoreFault σ
  /-- A storage without a file. -/
  delete : σ → Text → Except StoreFault σ
  /-- The names of the files, in ascending order. -/
  names : σ → List Text

end Kompositum
