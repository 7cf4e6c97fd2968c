import Kompositum.Proofs.Files.Path
import Kompositum.Proofs.Text.Table

/-!
# The files in a folder

A folder is a map from plain names to contents: a name in it leads to a place of its own, a file
that is set or taken out changes what stands under its own name only, and the folder lists the
names of its files, each once.

* `Files.LeadsTo`: a path leads to a folder.
* `Files.Proper`: no place is listed twice, and all names are plain. This is so in the beginning
  (`proper_empty`), and setting a file or taking one out does not change it (`Proper.set`,
  `Proper.unset`).
* `Files.LeadsTo.find_join`: where a name in the folder leads.
* `Files.Proper.mem_names_iff`: the names that a folder lists.
-/

namespace Kompositum

namespace Text

/-- Sorting different texts puts them in strictly ascending order. -/
theorem pairwise_sort {ts : List Text} (h : ts.Nodup) :
    (sort ts).Pairwise fun s t => before s t = true := by
  have htrans (a b c : Text) : (!before b a) = true → (!before c b) = true →
      (!before c a) = true := by
    intro hab hbc
    rw [Bool.not_eq_true'] at hab hbc ⊢
    -- what comes before `a` comes before `b` too, or is `b` itself
    by_contra hca
    rw [Bool.not_eq_false] at hca
    by_cases hne : b = a
    · subst hne
      rw [hca] at hbc
      exact Bool.noConfusion hbc
    · have hab' := before_total hne hab
      rw [before_trans hca hab'] at hbc
      exact Bool.noConfusion hbc
  have htotal (a b : Text) : (!before b a || !before a b) = true := by
    cases hba : before b a with
    | false => rfl
    | true => rw [before_asymm hba]; rfl
  have hsorted := List.pairwise_mergeSort htrans htotal ts
  have hnodup : (sort ts).Nodup := (List.mergeSort_perm ts _).nodup_iff.2 h
  refine (hsorted.and hnodup).imp fun {s t} hst => ?_
  exact before_total (Ne.symm hst.2) (Bool.not_eq_true' .. ▸ hst.1)

end Text

namespace Files

open Kompositum.Path

variable {fs fs' : Files} {path n : Text} {p q : Place}

/-! ## Where a name in a folder leads -/

theorem walk_append (fs : Files) (here : Place) (ns ms : List Text) :
    fs.walk here (ns ++ ms) = fs.walk here ns >>= fun p => fs.walk p ms := by
  induction ns generalizing here with
  | nil => rfl
  | cons n ns ih =>
    rw [List.cons_append, walk, walk]
    cases fs.entry? here with
    | none => rfl
    | some e =>
      cases e with
      | file content => rfl
      | folder => exact ih _

/-- Names that lead nowhere else can be left out of a way. -/
theorem walk_steps {here : Place} {ns : List Text} (h : fs.walk here ns = .ok p) :
    fs.walk here (ns.filter isStep) = .ok p := by
  induction ns generalizing here with
  | nil => exact h
  | cons n ns ih =>
    rw [walk] at h
    cases hentry : fs.entry? here with
    | none => rw [hentry] at h; cases h
    | some e =>
      cases e with
      | file content => rw [hentry] at h; cases h
      | folder =>
        rw [hentry] at h
        by_cases hn : isStep n = true
        · rw [List.filter_cons_of_pos hn, walk, hentry]
          exact ih h
        · rw [List.filter_cons_of_neg hn]
          apply ih
          have hnext := next_of_not_isStep hn here
          simpa only [hnext] using h

/-- **A way leads to the same place** as long as all folders stay. -/
theorem walk_of_folders (hkeep : ∀ q, fs.entry? q = some .folder → fs'.entry? q = some .folder)
    {here : Place} {ns : List Text} (h : fs.walk here ns = .ok p) : fs'.walk here ns = .ok p := by
  induction ns generalizing here with
  | nil => exact h
  | cons n ns ih =>
    rw [walk] at h ⊢
    cases hentry : fs.entry? here with
    | none => rw [hentry] at h; cases h
    | some e =>
      cases e with
      | file content => rw [hentry] at h; cases h
      | folder =>
        rw [hentry] at h
        rw [hkeep here hentry]
        exact ih h

theorem find_of_folders (hhome : fs'.home = fs.home)
    (hkeep : ∀ q, fs.entry? q = some .folder → fs'.entry? q = some .folder)
    (h : fs.find path = .ok p) : fs'.find path = .ok p := by
  unfold find at h ⊢
  split
  · rename_i hempty
    rw [if_pos hempty] at h
    cases h
  · rename_i hempty
    rw [if_neg hempty] at h
    have hstart : fs'.start path = fs.start path := by
      unfold start
      rw [hhome]
    rw [hstart]
    exact walk_of_folders hkeep h

/-- **A path leads to a folder.** -/
structure LeadsTo (fs : Files) (path : Text) (p : Place) : Prop where
  find_eq : fs.find path = .ok p
  isFolder : fs.entry? p = some .folder

theorem isFolder_iff : fs.isFolder path = true ↔ ∃ p, fs.LeadsTo path p := by
  have hsome (e : Entry) :
      (Except.ok e : Except FileFault Entry).toOption == some .folder ↔ e = .folder := by
    rw [beq_iff_eq]
    exact ⟨fun h => Option.some.inj h, fun h => congrArg some h⟩
  unfold isFolder entry
  constructor
  · intro h
    cases hfind : fs.find path with
    | error cause => rw [hfind] at h; cases h
    | ok p =>
      cases hentry : fs.entry? p with
      | none => simp only [hfind, ok_bind, hentry] at h; cases h
      | some e =>
        simp only [hfind, ok_bind, hentry] at h
        obtain rfl := (hsome e).1 h
        exact ⟨p, hfind, hentry⟩
  · rintro ⟨p, hfind, hentry⟩
    simp only [hfind, ok_bind, hentry]
    exact (hsome .folder).2 rfl

namespace LeadsTo

theorem of_folders (h : fs.LeadsTo path p) (hhome : fs'.home = fs.home)
    (hkeep : ∀ q, fs.entry? q = some .folder → fs'.entry? q = some .folder) :
    fs'.LeadsTo path p :=
  ⟨find_of_folders hhome hkeep h.find_eq, hkeep p h.isFolder⟩

/-- **A name in a folder** leads to the place of this name in it. -/
theorem find_join (h : fs.LeadsTo path p) (hn : IsName n) :
    fs.find (join path n) = .ok (p ++ [n]) := by
  have hpath := h.find_eq
  unfold find at hpath
  split at hpath
  · cases hpath
  · have hsteps := walk_steps hpath
    have hlast : fs.walk p [n] = .ok (p ++ [n]) := by
      rw [walk, h.isFolder]
      simp only [next_of_isName hn]
      rfl
    rw [Files.find_join fs path hn, walk_append]
    unfold steps
    rw [hsteps, ok_bind, hlast]

theorem entry_join (h : fs.LeadsTo path p) (hn : IsName n) :
    fs.entry (join path n) =
      match fs.entry? (p ++ [n]) with
      | some e => .ok e
      | none => .error .notFound := by
  unfold entry
  rw [h.find_join hn, ok_bind]
  rfl

end LeadsTo

/-! ## Setting a file and taking one out -/

/-- What has been set last counts. -/
theorem set_set (fs : Files) (p : Place) (e e' : Entry) : (fs.set p e).set p e' = fs.set p e' := by
  unfold set
  simp only [List.filter_cons, bne_self_eq_false, Bool.false_eq_true, if_false,
    List.filter_filter, Bool.and_self]

theorem LeadsTo.set_file (h : fs.LeadsTo path p) (hq : fs.entry? q ≠ some .folder)
    (content : Bytes) : (fs.set q (.file content)).LeadsTo path p :=
  h.of_folders rfl fun _ hr => folder_set_file hq content hr

theorem LeadsTo.unset_file (h : fs.LeadsTo path p) (hq : fs.entry? q ≠ some .folder) :
    (fs.unset q).LeadsTo path p :=
  h.of_folders rfl fun _ hr => folder_unset hq hr

/-! ## Files as a map -/

/-- **Files as a map from places**: no place is listed twice, and all names are plain. -/
structure Proper (fs : Files) : Prop where
  nodup : (fs.entries.map Prod.fst).Nodup
  isName : ∀ x ∈ fs.entries, ∀ n ∈ x.1, IsName n
  home_isName : ∀ n ∈ fs.home, IsName n

namespace Proper

theorem entry?_eq_some_iff (h : fs.Proper) (hp : p ≠ []) {e : Entry} :
    fs.entry? p = some e ↔ (p, e) ∈ fs.entries := by
  have hnil : p.isEmpty = false := by simpa using hp
  unfold entry?
  rw [hnil, if_neg Bool.false_ne_true]
  exact lookup_eq_some_iff_mem h.nodup

/-- Whatever stands at a place, its names are plain. -/
theorem isName_of_entry? (h : fs.Proper) {e : Entry} (hp : fs.entry? p = some e) :
    ∀ n ∈ p, IsName n := by
  by_cases hnil : p = []
  · subst hnil
    intro n hn
    cases hn
  · exact h.isName _ ((h.entry?_eq_some_iff hnil).1 hp)

theorem set (h : fs.Proper) (hp : ∀ n ∈ p, IsName n) (e : Entry) : (fs.set p e).Proper := by
  have hsub : (fs.entries.filter fun x => x.1 != p).Sublist fs.entries := List.filter_sublist
  refine ⟨?_, ?_, h.home_isName⟩
  · refine List.nodup_cons.2 ⟨?_, h.nodup.sublist (hsub.map _)⟩
    intro hmem
    obtain ⟨x, hx, heq⟩ := List.mem_map.1 hmem
    have hne : (x.1 != p) = true := (List.mem_filter.1 hx).2
    rw [bne_iff_ne] at hne
    exact hne heq
  · intro x hx
    rcases List.mem_cons.1 hx with rfl | hx
    · exact hp
    · exact h.isName x (hsub.subset hx)

theorem unset (h : fs.Proper) (p : Place) : (fs.unset p).Proper := by
  have hsub : (fs.entries.filter fun x => x.1 != p).Sublist fs.entries := List.filter_sublist
  exact ⟨h.nodup.sublist (hsub.map _), fun x hx => h.isName x (hsub.subset hx), h.home_isName⟩

/-- **The names that a folder lists** are those of its files. -/
theorem mem_names_iff (h : fs.Proper) :
    n ∈ fs.names p ↔ ∃ content, fs.entry? (p ++ [n]) = some (.file content) := by
  have hne : p ++ [n] ≠ [] := by simp
  unfold names Text.sort
  rw [List.mem_mergeSort, List.mem_filterMap]
  constructor
  · rintro ⟨⟨q, e⟩, hmem, hlast⟩
    cases e with
    | folder => cases hlast
    | file content =>
      simp only [Option.ite_none_right_eq_some] at hlast
      obtain ⟨hp, hn⟩ := hlast
      obtain ⟨r, rfl⟩ := List.getLast?_eq_some_iff.1 hn
      rw [List.dropLast_concat] at hp
      subst hp
      exact ⟨content, (h.entry?_eq_some_iff hne).2 hmem⟩
  · rintro ⟨content, hentry⟩
    refine ⟨(p ++ [n], .file content), (h.entry?_eq_some_iff hne).1 hentry, ?_⟩
    simp

/-- **A folder lists its names in ascending order**, each once. -/
theorem pairwise_names (h : fs.Proper) (p : Place) :
    (fs.names p).Pairwise fun s t => Text.before s t = true := by
  refine Text.pairwise_sort (List.pairwise_filterMap.2 ?_)
  have hnodup : fs.entries.Pairwise fun x y => x.1 ≠ y.1 := List.pairwise_map.1 h.nodup
  refine hnodup.imp fun {x y} hxy m hm m' hm' heq => hxy ?_
  -- two files of one name in one folder stand at the same place
  subst heq
  obtain ⟨q, e⟩ := x
  obtain ⟨r, e'⟩ := y
  cases e with
  | folder => cases hm
  | file content =>
    cases e' with
    | folder => cases hm'
    | file content' =>
      simp only [Option.ite_none_right_eq_some] at hm hm'
      obtain ⟨hq, hlast⟩ := hm
      obtain ⟨hr, hlast'⟩ := hm'
      obtain ⟨a, rfl⟩ := List.getLast?_eq_some_iff.1 hlast
      obtain ⟨b, rfl⟩ := List.getLast?_eq_some_iff.1 hlast'
      rw [List.dropLast_concat] at hq hr
      exact congrArg (· ++ [m]) (hq.trans hr.symm)

end Proper

/-- **The beginning**: nothing but the folder in which the program runs, and those that it lies
in. -/
theorem proper_empty {home : Place} (h : ∀ n ∈ home, IsName n) : (Files.empty home).Proper := by
  have hset {names : List Text} : ∀ {fs : Files} {here : Place}, fs.Proper →
      (∀ n ∈ here ++ names, IsName n) → (fs.setFolders here names).Proper := by
    induction names with
    | nil => exact fun hfs _ => hfs
    | cons name names ih =>
      intro fs here hfs hnames
      rw [setFolders]
      have hsplit : here ++ name :: names = (here ++ [name]) ++ names := by simp
      rw [hsplit] at hnames
      exact ih (hfs.set (fun n hn => hnames n (List.mem_append_left names hn)) .folder) hnames
  have hstart : (⟨home, []⟩ : Files).Proper := by
    refine ⟨List.nodup_nil, ?_, h⟩
    intro x hx
    cases hx
  exact hset hstart h

end Files

end Kompositum
