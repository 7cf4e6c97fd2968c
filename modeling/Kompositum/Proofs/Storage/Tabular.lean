import Kompositum.Proofs.Storage.Directory
import Kompositum.Storage.Memory

/-!
# Storages as maps

What is done with a storage is known from the contents of its files alone: a file that is written
or deleted changes what is read under its own name only, and the names are those of the files that
can be read.

* `Store.Tabular`: a storage that is such a map, as long as it is sound.

Storage in memory is such a map, and so is storage in a folder.
-/

namespace Kompositum

open Kompositum.Path (IsName)

/-- **A storage that is a map from names to contents.** What it has to satisfy for that, and which
names files may have, depends on the storage. -/
class Store.Tabular (σ : Type) [Store σ] where
  /-- What the storage has to satisfy. Nothing that is done with it changes this. -/
  Sound : σ → Prop
  /-- The names that files may have. -/
  Admits : Text → Prop
  admits_of_isName : ∀ {n : Text}, IsName n → Admits n
  of_write : ∀ {s s' : σ} {n : Text} {content : Bytes}, Sound s → Admits n →
    Store.write s n content = .ok s' →
      Sound s' ∧ ∀ m, Admits m →
        Store.read s' m = if m = n then .ok content else Store.read s m
  of_delete : ∀ {s s' : σ} {n : Text}, Sound s → Admits n → Store.delete s n = .ok s' →
    Sound s' ∧ (∀ content, Store.read s' n ≠ .ok content) ∧
      ∀ m, Admits m → m ≠ n → Store.read s' m = Store.read s m
  mem_names_iff : ∀ {s : σ} {n : Text}, Sound s →
    (n ∈ Store.names s ↔ Admits n ∧ ∃ content, Store.read s n = .ok content)

/-! ## Storage in memory -/

theorem Memory.read_eq_ok_iff {m : Memory} {n : Text} {content : Bytes} :
    m.read n = .ok content ↔ m.files.get? n = some content := by
  unfold Memory.read
  cases m.files.get? n with
  | none => simp
  | some b => simp

/-- **Storage in memory** is a map whatever its outputs are, as long as the files are in order. -/
instance : Store.Tabular Memory where
  Sound m := m.files.Sorted
  Admits _ := True
  admits_of_isName _ := trivial
  of_write := by
    intro m m' n content hm _ hw
    cases hw
    refine ⟨hm.insert n content, fun k _ => ?_⟩
    change Memory.read _ k = _
    unfold Memory.read
    rw [hm.get?_insert]
    by_cases hk : k = n
    · rw [if_pos hk, if_pos hk]
    · rw [if_neg hk, if_neg hk]
      rfl
  of_delete := by
    intro m m' n hm _ hd
    cases hd
    refine ⟨hm.erase n, fun content hread => ?_, fun k _ hk => ?_⟩
    · have hget := Memory.read_eq_ok_iff.1 hread
      unfold Memory.delete at hget
      rw [hm.get?_erase, if_pos rfl] at hget
      cases hget
    · change Memory.read _ k = Memory.read m k
      unfold Memory.read Memory.delete
      rw [hm.get?_erase, if_neg hk]
  mem_names_iff := by
    intro m n hm
    have hkeys : n ∈ m.files.keys ↔ ∃ content, m.files.get? n = some content :=
      Text.Table.mem_keys_iff
    simp only [← Memory.read_eq_ok_iff] at hkeys
    exact hkeys.trans ⟨fun h => ⟨trivial, h⟩, And.right⟩

/-! ## Storage in a folder -/

namespace Directory

variable {d : Directory} {p : Place} {n : Text}

theorem At.read_eq_ok_iff (h : d.At p) (hn : IsName n) {content : Bytes} :
    d.read n = .ok content ↔ d.files.entry? (p ++ [n]) = some (.file content) := by
  rw [h.read_eq hn]
  cases d.files.entry? (p ++ [n]) with
  | none => simp
  | some e => cases e <;> simp

/-- **What is written** is set in the folder, unless a folder stands there. -/
theorem At.store_write_eq (h : d.At p) (hn : IsName n) (content : Bytes) :
    Store.write d n content =
      match d.files.entry? (p ++ [n]) with
      | some .folder => .error (.refused n .isAFolder)
      | _ => .ok { d with files := d.files.set (p ++ [n]) (.file content) } := by
  unfold Store.write instStore
  simp only [h.write_eq hn content]
  cases d.files.entry? (p ++ [n]) with
  | none => rfl
  | some e => cases e <;> rfl

/-- **After a write** the file stands under its name, and all else is as it was. -/
theorem At.of_write (h : d.At p) (hn : IsName n) {content : Bytes} {d' : Directory}
    (hw : Store.write d n content = .ok d') :
    d'.At p ∧ ∀ m, IsName m → d'.files.entry? (p ++ [m]) =
      if m = n then some (.file content) else d.files.entry? (p ++ [m]) := by
  rw [h.store_write_eq hn] at hw
  have hfolder : d.files.entry? (p ++ [n]) ≠ some .folder := by
    intro hentry
    rw [hentry] at hw
    cases hw
  have hset : d' = { d with files := d.files.set (p ++ [n]) (.file content) } := by
    split at hw
    · cases hw
    · exact (Except.ok.inj hw).symm
  subst hset
  refine ⟨h.set hn hfolder content d.outputs, fun m _ => ?_⟩
  change Files.entry? (d.files.set (p ++ [n]) (.file content)) (p ++ [m]) = _
  rw [Files.entry?_set_of_ne_nil _ _ (by simp)]
  by_cases hmn : m = n
  · rw [hmn, if_pos rfl, if_pos rfl]
  · rw [if_neg (by simpa using hmn), if_neg hmn]

/-- **After a deletion** nothing stands under the name, and all else is as it was. -/
theorem At.of_delete (h : d.At p) (hn : IsName n) {d' : Directory} (hdelete : d.delete n = .ok d') :
    d'.At p ∧ ∀ m, IsName m → d'.files.entry? (p ++ [m]) =
      if m = n then none else d.files.entry? (p ++ [m]) := by
  rw [h.delete_eq hn] at hdelete
  cases hentry : d.files.entry? (p ++ [n]) with
  | none =>
    rw [hentry] at hdelete
    obtain rfl := Except.ok.inj hdelete
    refine ⟨h, fun m _ => ?_⟩
    by_cases hmn : m = n
    · rw [if_pos hmn, hmn, hentry]
    · rw [if_neg hmn]
  | some e =>
    rw [hentry] at hdelete
    cases e with
    | folder => cases hdelete
    | file content =>
      obtain rfl := Except.ok.inj hdelete
      refine ⟨h.unset (by simp [hentry]) _, fun m _ => ?_⟩
      change Files.entry? (d.files.unset (p ++ [n])) (p ++ [m]) = _
      rw [Files.entry?_unset_of_ne_nil _ (by simp)]
      by_cases hmn : m = n
      · rw [hmn, if_pos rfl, if_pos rfl]
      · rw [if_neg (by simpa using hmn), if_neg hmn]

end Directory

/-- **Storage in a folder** is a map from plain names, as long as its path leads to a folder. -/
instance : Store.Tabular Directory where
  Sound d := ∃ p, d.At p
  Admits := IsName
  admits_of_isName h := h
  of_write := by
    rintro d d' n content ⟨p, hd⟩ hn hw
    obtain ⟨hd', hentry⟩ := hd.of_write hn hw
    refine ⟨⟨p, hd'⟩, fun m hm => ?_⟩
    change Directory.read d' m = if m = n then _ else Directory.read d m
    rw [hd'.read_eq hm, hd.read_eq hm, hentry m hm]
    by_cases hmn : m = n
    · rw [if_pos hmn, if_pos hmn]
    · rw [if_neg hmn, if_neg hmn]
  of_delete := by
    rintro d d' n ⟨p, hd⟩ hn hdelete
    obtain ⟨hd', hentry⟩ := hd.of_delete hn hdelete
    refine ⟨⟨p, hd'⟩, fun content hread => ?_, fun m hm hmn => ?_⟩
    · have hfile := (hd'.read_eq_ok_iff hn).1 hread
      rw [hentry n hn, if_pos rfl] at hfile
      cases hfile
    · change Directory.read d' m = Directory.read d m
      rw [hd'.read_eq hm, hd.read_eq hm, hentry m hm, if_neg hmn]
  mem_names_iff := by
    rintro d n ⟨p, hd⟩
    change n ∈ d.files.list d.path ↔ IsName n ∧ ∃ content, d.read n = .ok content
    constructor
    · intro hmem
      have hn := hd.isName_of_mem_list hmem
      obtain ⟨content, hentry⟩ := hd.mem_list_iff.1 hmem
      exact ⟨hn, content, (hd.read_eq_ok_iff hn).2 hentry⟩
    · rintro ⟨hn, content, hread⟩
      exact hd.mem_list_iff.2 ⟨content, (hd.read_eq_ok_iff hn).1 hread⟩

/-- A folder that is opened as a storage is sound. -/
theorem Directory.sound_of_open? {files : Files} {path : Text} {d : Directory}
    (hproper : files.Proper) (h : Directory.open? files path = .ok d) : Store.Tabular.Sound d := by
  obtain ⟨p, -, hp⟩ := Directory.at_of_open? hproper h
  exact ⟨p, hp⟩

end Kompositum
