import Kompositum.Proofs.Storage.Outputs

/-!
# Both storages answer alike

It cannot be told from outside whether a storage is in memory or in a folder that was empty in the
beginning, as long as every output is closed before anything else is done.

* `StorageUse.Agree`: when a storage in memory and one in a folder hold the same.
* `StorageUse.Agree.use`: they do so after every use, and give the same answers to it.
* `StorageUse.answers_eq`: both storages give the same answers to all uses.
-/

namespace Kompositum

open Kompositum.Path (IsName)
open Text (Table)

namespace StorageUse

variable {m : Memory} {d : Directory} {p : Place}

/-- **A storage in memory and one in a folder hold the same**: no output is open in either of them,
and the files in the folder are those in memory, all of which have plain names. -/
structure Agree (m : Memory) (d : Directory) (p : Place) : Prop where
  memory_idle : m.Idle
  directory_idle : d.Idle
  sorted : m.files.Sorted
  isName : ∀ {n content}, m.files.get? n = some content → IsName n
  folder : d.At p
  entry_eq : ∀ {n}, IsName n → d.files.entry? (p ++ [n]) = (m.files.get? n).map .file

namespace Agree

variable (h : Agree m d p)
include h

theorem not_folder {n : Text} (hn : IsName n) : d.files.entry? (p ++ [n]) ≠ some .folder := by
  rw [h.entry_eq hn]
  cases m.files.get? n <;> simp

/-- They list the same names. -/
theorem names_eq : d.files.list d.path = m.files.keys := by
  have hlist : (d.files.list d.path).Pairwise fun s t => Text.before s t = true := by
    rw [h.folder.list_eq]
    exact h.folder.proper.pairwise_names p
  refine Text.eq_of_pairwise_before hlist h.sorted.pairwise_keys fun n => ?_
  rw [h.folder.mem_list_iff, Table.mem_keys_iff]
  constructor
  · rintro ⟨content, hentry⟩
    have hn : IsName n := h.folder.isName_of_mem_list (h.folder.mem_list_iff.2 ⟨content, hentry⟩)
    rw [h.entry_eq hn] at hentry
    obtain ⟨b, hb, -⟩ := Option.map_eq_some_iff.1 hentry
    exact ⟨b, hb⟩
  · rintro ⟨content, hget⟩
    exact ⟨content, by rw [h.entry_eq (h.isName hget), hget]; rfl⟩

/-- A file that is put into both. -/
theorem put {n : Text} (hn : IsName n) (handle : Text) (content : Bytes) :
    Agree (m.put handle n content) (d.put p handle n content) p where
  memory_idle := h.memory_idle.insert handle rfl _
  directory_idle := h.directory_idle.insert handle rfl _
  sorted := h.sorted.insert n content
  isName := by
    intro k b hget
    change Table.get? k (m.files.insert n content) = some b at hget
    rw [h.sorted.get?_insert] at hget
    by_cases hk : k = n
    · exact hk ▸ hn
    · rw [if_neg hk] at hget
      exact h.isName hget
  folder := h.folder.set hn (h.not_folder hn) content _
  entry_eq := by
    intro k hk
    change Files.entry? (d.files.set (p ++ [n]) (.file content)) (p ++ [k]) =
      (Table.get? k (m.files.insert n content)).map .file
    rw [Files.entry?_set_of_ne_nil _ _ (by simp), h.sorted.get?_insert]
    by_cases hkn : k = n
    · rw [hkn, if_pos rfl, if_pos rfl]
      rfl
    · rw [if_neg (by simpa using hkn), if_neg hkn, h.entry_eq hk]

/-- An output that is dropped from both. -/
theorem drop (handle : Text) : Agree (m.drop handle) (d.drop handle) p := by
  have hm := h.memory_idle.drop handle
  have hd := h.directory_idle.drop handle
  rw [h.memory_idle.drop_eq] at hm ⊢
  rw [h.directory_idle.drop_eq] at hd ⊢
  exact ⟨hm, hd, h.sorted, h.isName, ⟨h.folder.proper, h.folder.leadsTo⟩, h.entry_eq⟩

/-- **A file that is deleted from both**, or that was in neither of them. -/
theorem delete {n : Text} (hn : IsName n) :
    ∃ d', d.delete n = .ok d' ∧ Agree (m.delete n) d' p := by
  have hdelete := h.folder.delete_eq hn
  have hentry := h.entry_eq hn
  have hget (k : Text) := h.sorted.get?_erase n k
  have hisName {k : Text} {b : Bytes} (hk : (m.delete n).files.get? k = some b) : IsName k := by
    change Table.get? k (m.files.erase n) = some b at hk
    rw [hget] at hk
    split at hk
    · cases hk
    · exact h.isName hk
  have hidle : (m.delete n).Idle := ⟨h.memory_idle.sorted, h.memory_idle.closed⟩
  cases hfile : m.files.get? n with
  | none =>
    rw [hentry, hfile] at hdelete
    refine ⟨d, hdelete, hidle, h.directory_idle, h.sorted.erase n, hisName, h.folder,
      fun {k} hk => ?_⟩
    change _ = (Table.get? k (m.files.erase n)).map Entry.file
    rw [h.sorted.erase_of_get?_eq_none hfile, h.entry_eq hk]
  | some content =>
    rw [hentry, hfile] at hdelete
    refine ⟨_, hdelete, hidle, h.directory_idle.unlinked _ _, h.sorted.erase n, hisName,
      h.folder.unset (h.not_folder hn) _, fun {k} hk => ?_⟩
    change Files.entry? (d.files.unset (p ++ [n])) (p ++ [k]) =
      (Table.get? k (m.files.erase n)).map .file
    rw [Files.entry?_unset_of_ne_nil _ (by simp), hget]
    by_cases hkn : k = n
    · rw [hkn, if_pos rfl, if_pos rfl]
      rfl
    · rw [if_neg (by simpa using hkn), if_neg hkn, h.entry_eq hk]

/-! ### One use, and all uses -/

/-- **After every use** both storages hold the same, and they have given the same answers. -/
theorem use {u : StorageUse} (hu : u.IsPlain) :
    (runActions Memory.step m u.actions).1 = (runActions Directory.step d u.actions).1 ∧
      Agree (runActions Memory.step m u.actions).2 (runActions Directory.step d u.actions).2 p := by
  cases u with
  | put handle n pieces =>
    have hm := (h.memory_idle.puts handle n).run pieces
    have hd := (h.directory_idle.puts h.folder hu (h.not_folder hu) handle).run pieces
    rw [hm, hd]
    exact ⟨rfl, h.put hu handle _⟩
  | drop handle => exact ⟨rfl, h.drop handle⟩
  | delete n =>
    obtain ⟨d', hdelete, hagree⟩ := h.delete hu
    have hd : Directory.step d (.delete n) = (.ok .done, d') :=
      Directory.step_changed rfl hdelete
    unfold StorageUse.actions
    rw [runActions_cons hd]
    exact ⟨rfl, hagree⟩
  | contains n =>
    have hd : d.files.isFile (d.pathOf n) = m.files.contains n := by
      rw [h.folder.isFile_eq hu, h.entry_eq hu]
      unfold Table.contains
      cases m.files.get? n <;> rfl
    exact ⟨congrArg (fun b => [Except.ok (StorageAnswer.truth b)]) hd.symm, h⟩
  | size n =>
    have hd : (d.size n).map StorageAnswer.number =
        (m.read n).map fun content => .number content.length := by
      rw [h.folder.size_eq hu, h.entry_eq hu]
      unfold Memory.read
      cases m.files.get? n <;> rfl
    exact ⟨congrArg ([·]) hd.symm, h⟩
  | read n =>
    have hd : d.read n = m.read n := by
      rw [h.folder.read_eq hu, h.entry_eq hu]
      unfold Memory.read
      cases m.files.get? n <;> rfl
    exact ⟨congrArg (fun r => [Except.map StorageAnswer.content r]) hd.symm, h⟩
  | names => exact ⟨congrArg (fun ns => [Except.ok (StorageAnswer.names ns)]) h.names_eq.symm, h⟩

theorem uses {us : List StorageUse} (hus : ∀ u ∈ us, u.IsPlain) :
    (runActions Memory.step m (us.flatMap StorageUse.actions)).1 =
      (runActions Directory.step d (us.flatMap StorageUse.actions)).1 := by
  induction us generalizing m d with
  | nil => rfl
  | cons u us ih =>
    obtain ⟨hanswers, hagree⟩ := h.use (hus u List.mem_cons_self)
    have hrest := ih hagree fun v hv => hus v (List.mem_cons_of_mem u hv)
    rw [List.flatMap_cons, runActions_append, runActions_append, hanswers, hrest]

end Agree

/-- A storage in a folder with nothing in it agrees with one in memory. -/
theorem agree_empty {files : Files} {path : Text} (hproper : files.Proper)
    (hopen : Directory.open? files path = .ok d)
    (hnothing : ∀ n, IsName n → files.holds (Path.join path n) = false) :
    ∃ p, Agree Memory.empty d p := by
  obtain ⟨p, rfl, hp⟩ := Directory.at_of_open? hproper hopen
  have hnone {α : Type} {n : Text} {a : α} (hget : Table.get? n ([] : Table α) = some a) : False := by
    cases hget
  refine ⟨p, ⟨Table.sorted_nil, fun hget => (hnone hget).elim⟩,
    ⟨Table.sorted_nil, fun hget => (hnone hget).elim⟩, Table.sorted_nil,
    fun hget => (hnone hget).elim, hp, fun {n} hn => ?_⟩
  -- nothing stands under any name
  have hnot := hnothing n hn
  unfold Files.holds at hnot
  rw [hp.leadsTo.entry_join hn] at hnot
  cases hentry : files.entry? (p ++ [n]) with
  | none => rfl
  | some e =>
    rw [hentry] at hnot
    cases hnot

/-- **Both storages answer alike.** Whatever they are used for, a storage in memory and one in a
folder with nothing in it give the same answers to every step, also the same errors. -/
theorem answers_eq {files : Files} {path : Text} (hproper : files.Proper)
    (hopen : Directory.open? files path = .ok d)
    (hnothing : ∀ n, IsName n → files.holds (Path.join path n) = false)
    {uses : List StorageUse} (huses : ∀ u ∈ uses, u.IsPlain) :
    (runActions Memory.step .empty (uses.flatMap actions)).1 =
      (runActions Directory.step d (uses.flatMap actions)).1 := by
  obtain ⟨p, hagree⟩ := agree_empty hproper hopen hnothing
  exact hagree.uses huses

/-- A folder with nothing in it. -/
def nothingYet : Files := .empty [['w']]

/-- Two files, one of them written twice and deleted twice. -/
def twoFiles : List StorageUse :=
  [.read ['a'], .put ['1'] ['a'] [.write [1, 2], .flush, .write [], .write [3]], .contains ['a'],
    .put ['2'] ['b'] [], .put ['1'] ['a'] [.write [4], .sync], .drop ['2'], .size ['b'], .names,
    .read ['a'], .delete ['a'], .delete ['a'], .size ['a'], .names]

theorem answers_eq_twoFiles :
    nothingYet.Proper ∧ (∀ n, IsName n → nothingYet.holds (Path.join ['.'] n) = false) ∧
      (∀ u ∈ twoFiles, u.IsPlain) ∧
      ∃ d, Directory.open? nothingYet ['.'] = .ok d ∧
        (runActions Memory.step .empty (twoFiles.flatMap actions)).1 =
          (runActions Directory.step d (twoFiles.flatMap actions)).1 := by
  have hproper : nothingYet.Proper := Files.proper_empty (by decide)
  have hfolder : nothingYet.LeadsTo ['.'] [['w']] := ⟨by decide, by decide⟩
  have hnothing (n : Text) (hn : IsName n) : nothingYet.holds (Path.join ['.'] n) = false := by
    have hentry : nothingYet.entry? ([['w']] ++ [n]) = none := by
      simp [nothingYet, Files.empty, Files.setFolders, Files.set, Files.entry?, List.lookup_cons]
    unfold Files.holds
    rw [hfolder.entry_join hn, hentry]
    rfl
  have hplain : ∀ u ∈ twoFiles, u.IsPlain := by decide
  have hopen : Directory.open? nothingYet ['.'] = .ok ⟨['.'], nothingYet, []⟩ := by decide
  exact ⟨hproper, hnothing, hplain, _, hopen, answers_eq hproper hopen hnothing hplain⟩

end StorageUse

end Kompositum
