import Kompositum.Proofs.Files.Folder
import Kompositum.Storage.Directory
import Kompositum.Storage.Memory

/-!
# Storages that keep what they are given

* `Store.Lawful`: a file that has been written is read as it was written.
* `Files.read_write`: so are the files of a file system, whatever their paths.

Storage in memory and storage in a folder are lawful.
-/

namespace Kompositum

/-- **A storage that keeps what it is given.** -/
class Store.Lawful (σ : Type) [Store σ] : Prop where
  read_write : ∀ {s s' : σ} {name : Text} {content : Bytes},
    Store.write s name content = .ok s' → Store.read s' name = .ok content

namespace Files

variable {fs : Files} {content : Bytes}

/-- **A file that has been written** is read as it was written. -/
theorem read_write {fs' : Files} {path : Text} (h : fs.write path content = .ok fs') :
    fs'.read path = .ok content := by
  obtain ⟨p, hfind, hp, rfl⟩ := write_eq_ok_iff.1 h
  -- the path still leads to the same place
  have hkeep (q : Place) : fs.entry? q = some .folder →
      Files.entry? (fs.set p (.file content)) q = some .folder := folder_set_file hp content
  have hhome : (fs.set p (.file content)).home = fs.home := rfl
  have hfind' : (fs.set p (.file content)).find path = .ok p := find_of_folders hhome hkeep hfind
  have hentry : (fs.set p (.file content)).entry path = .ok (.file content) := by
    unfold entry
    rw [hfind', ok_bind, entry?_set_of_ne_nil fs _ (ne_nil_of_entry hp), if_pos rfl]
    rfl
  unfold read
  rw [hentry]
  rfl

end Files

instance : Store.Lawful Memory where
  read_write := by
    intro m m' name content h
    cases h
    change Memory.read _ name = _
    unfold Memory.read
    rw [Text.Table.get?_insert_self]

instance : Store.Lawful Directory where
  read_write := by
    intro d d' name content h
    obtain ⟨files, hwrite, hd⟩ := bind_eq_ok.1 h
    cases hd
    have hfiles : d.files.write (d.pathOf name) content = .ok files := by
      cases hw : d.files.write (d.pathOf name) content with
      | error cause =>
        rw [hw] at hwrite
        cases hwrite
      | ok fs =>
        rw [hw] at hwrite
        cases hwrite
        rfl
    -- the files are others, the folder is the same
    have hread : ({ d with files } : Directory).files.read
        (({ d with files } : Directory).pathOf name) = .ok content := Files.read_write hfiles
    change Directory.read _ name = _
    unfold Directory.read
    rw [hread]

end Kompositum
