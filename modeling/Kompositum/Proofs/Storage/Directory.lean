import Kompositum.Proofs.Files.Folder
import Kompositum.Storage.Directory

/-!
# The folder of a storage

A storage in a folder looks its files up by paths. As long as these lead into its folder, all that
it does with a file is told by the place of the file.

* `Directory.At`: where the folder of a storage is.
* `Directory.At.read_eq`, `Directory.At.write_eq`, `Directory.At.delete_eq`: what is done with the
  file at a place.
-/

namespace Kompositum

namespace Directory

open Kompositum.Path (IsName)

variable {d : Directory} {p : Place} {n : Text}

/-- **Where the folder of a storage is**: the files are a map, and the path of the storage leads to
a folder at this place. -/
structure At (d : Directory) (p : Place) : Prop where
  proper : d.files.Proper
  leadsTo : d.files.LeadsTo d.path p

theorem at_of_open? {files : Files} {path : Text} (hproper : files.Proper)
    (h : open? files path = .ok d) : ∃ p, d = ⟨path, files, []⟩ ∧ d.At p := by
  unfold open? at h
  by_cases hfolder : files.isFolder path = true
  · rw [if_pos hfolder] at h
    obtain rfl := Except.ok.inj h
    obtain ⟨p, hp⟩ := Files.isFolder_iff.1 hfolder
    exact ⟨p, rfl, hproper, hp⟩
  · rw [if_neg hfolder] at h
    cases h

/-- An output when the file at a place has been deleted. -/
def unlink (place : Place) (o : DirectoryOutput) : DirectoryOutput :=
  { o with linked := o.linked && o.place != place }

/-- All outputs when the file at a place has been deleted. -/
def unlinked (place : Place) (outputs : Text.Table DirectoryOutput) :
    Text.Table DirectoryOutput :=
  outputs.map fun x => (x.1, unlink place x.2)

namespace At

variable (h : d.At p) (hn : IsName n)
include h hn

/-! ## What is done with a file -/

theorem find_eq : d.files.find (d.pathOf n) = .ok (p ++ [n]) := h.leadsTo.find_join hn

theorem entry_eq : d.files.entry (d.pathOf n) =
    match d.files.entry? (p ++ [n]) with
    | some e => .ok e
    | none => .error .notFound := h.leadsTo.entry_join hn

theorem read_eq : d.read n =
    match d.files.entry? (p ++ [n]) with
    | some (.file content) => .ok content
    | some .folder => .error (.unreadable .isAFolder)
    | none => .error (.missing n) := by
  unfold Directory.read Files.read
  rw [h.entry_eq hn]
  cases d.files.entry? (p ++ [n]) with
  | none => rfl
  | some e => cases e <;> rfl

theorem size_eq : d.size n =
    match d.files.entry? (p ++ [n]) with
    | some (.file content) => .ok content.length
    | some .folder => .ok Files.folderSize
    | none => .error (.missing n) := by
  unfold Directory.size Files.size
  rw [h.entry_eq hn]
  cases d.files.entry? (p ++ [n]) with
  | none => rfl
  | some e => cases e <;> rfl

theorem isFile_eq : d.files.isFile (d.pathOf n) =
    match d.files.entry? (p ++ [n]) with
    | some (.file _) => true
    | _ => false := by
  unfold Files.isFile
  rw [h.entry_eq hn]
  cases d.files.entry? (p ++ [n]) with
  | none => rfl
  | some e => cases e <;> rfl

theorem write_eq (content : Bytes) : d.files.write (d.pathOf n) content =
    match d.files.entry? (p ++ [n]) with
    | some .folder => .error .isAFolder
    | _ => .ok (d.files.set (p ++ [n]) (.file content)) := by
  unfold Files.write
  rw [h.find_eq hn, ok_bind]
  cases d.files.entry? (p ++ [n]) with
  | none => rfl
  | some e => cases e <;> rfl

theorem delete_eq : d.delete n =
    match d.files.entry? (p ++ [n]) with
    | some (.file _) =>
      .ok { d with files := d.files.unset (p ++ [n]), outputs := unlinked (p ++ [n]) d.outputs }
    | some .folder => .error (.refused n .isAFolder)
    | none => .ok d := by
  unfold Directory.delete Files.holds Files.remove
  rw [h.entry_eq hn, h.find_eq hn]
  cases hentry : d.files.entry? (p ++ [n]) with
  | none => rfl
  | some e =>
    cases e with
    | folder =>
      simp only [ok_bind, hentry]
      rfl
    | file content =>
      simp only [ok_bind, hentry]
      rfl

end At

/-! ## The names of the files -/

theorem At.list_eq (h : d.At p) : d.files.list d.path = d.files.names p := by
  unfold Files.list
  rw [h.leadsTo.find_eq]
  rfl

theorem At.mem_list_iff (h : d.At p) :
    n ∈ d.files.list d.path ↔ ∃ content, d.files.entry? (p ++ [n]) = some (.file content) := by
  rw [h.list_eq]
  exact h.proper.mem_names_iff

theorem At.isName_of_mem_list (h : d.At p) (hn : n ∈ d.files.list d.path) : IsName n := by
  obtain ⟨content, hentry⟩ := h.mem_list_iff.1 hn
  exact h.proper.isName_of_entry? hentry n (List.mem_append_right p (List.mem_singleton.2 rfl))

/-! ## The folder stays -/

/-- A name in the folder, with those on the way to it. -/
theorem At.isName_concat (h : d.At p) (hn : IsName n) : ∀ m ∈ p ++ [n], IsName m := by
  have hp := h.proper.isName_of_entry? h.leadsTo.isFolder
  intro m hm
  rcases List.mem_append.1 hm with hm | hm
  · exact hp m hm
  · rw [List.mem_singleton.1 hm]
    exact hn

theorem At.set (h : d.At p) (hn : IsName n) (hfolder : d.files.entry? (p ++ [n]) ≠ some .folder)
    (content : Bytes) (outputs : Text.Table DirectoryOutput) :
    At { d with files := d.files.set (p ++ [n]) (.file content), outputs } p :=
  ⟨h.proper.set (h.isName_concat hn) _, h.leadsTo.set_file hfolder content⟩

theorem At.unset (h : d.At p) (hfolder : d.files.entry? (p ++ [n]) ≠ some .folder)
    (outputs : Text.Table DirectoryOutput) :
    At { d with files := d.files.unset (p ++ [n]), outputs } p :=
  ⟨h.proper.unset _, h.leadsTo.unset_file hfolder⟩

end Directory

end Kompositum
