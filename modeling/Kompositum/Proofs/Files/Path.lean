import Kompositum.Proofs.Files.Home
import Kompositum.Proofs.Text.Pieces

/-!
# Paths from the root on

A path leads to the same place as its form from the root on, as long as the folder in which the
program runs is there.

* `Path.steps`: the names of a path that lead somewhere else.
* `Files.find_join`: where a name in a folder leads.
* `Files.find_absolute`: a folder by its absolute path.
-/

namespace Kompositum

namespace Path

/-- Whether a name leads out of the folder that it is used in. -/
def isStep (n : Text) : Bool := !n.isEmpty && n != ['.']

/-- **The names of a path that lead somewhere else.** -/
def steps (p : Text) : List Text := (names p).filter isStep

theorem IsName.isStep {n : Text} (h : IsName n) : isStep n = true := by
  unfold Path.isStep
  simp [h.ne_nil, h.ne_here]

theorem names_of_noSlash {n : Text} (h : '/' ∉ n) : names n = [n] :=
  Text.splitWhen_of_forall_not fun _ hc => beq_false_of_ne fun heq => h (heq ▸ hc)

theorem names_append_slash (p q : Text) : names (p ++ '/' :: q) = names p ++ names q :=
  Text.splitWhen_append_cons (p := (· == '/')) (by simp) p q

theorem noSlash_of_mem_names {p n : Text} (h : n ∈ names p) : '/' ∉ n := by
  intro hslash
  have := Text.not_of_mem_splitWhen h _ hslash
  simp at this

theorem steps_append_slash (p q : Text) : steps (p ++ '/' :: q) = steps p ++ steps q := by
  unfold steps
  rw [names_append_slash, List.filter_append]

theorem steps_of_isStep {n : Text} (h : isStep n = true) (hslash : '/' ∉ n) : steps n = [n] := by
  unfold steps
  rw [names_of_noSlash hslash, List.filter_cons_of_pos h, List.filter_nil]

theorem steps_nil : steps [] = [] := rfl

theorem isAbsolute_of_noSlash {n : Text} (h : '/' ∉ n) : isAbsolute n = false := by
  unfold isAbsolute
  cases n with
  | nil => rfl
  | cons c n =>
    have hc : c ≠ '/' := fun heq => h (heq ▸ List.mem_cons_self)
    simp [hc]

/-- The three ways in which a path is followed by another one. -/
theorem join_cases {n : Text} (hn : isAbsolute n = false) (p : Text) :
    p = [] ∧ join p n = n ∨ (∃ q, p = q ++ ['/'] ∧ join p n = q ++ '/' :: n) ∨
      p ≠ [] ∧ join p n = p ++ '/' :: n := by
  unfold join
  rw [hn]
  rcases List.eq_nil_or_concat p with rfl | ⟨q, c, rfl⟩
  · exact .inl ⟨rfl, rfl⟩
  · right
    rw [List.concat_eq_append]
    by_cases hc : c = '/'
    · subst hc
      exact .inl ⟨q, rfl, by simp⟩
    · exact .inr ⟨by simp, by simp [hc]⟩

theorem isAbsolute_join {n : Text} (hn : isAbsolute n = false) (p : Text) :
    isAbsolute (join p n) = isAbsolute p := by
  rcases join_cases hn p with ⟨rfl, h⟩ | ⟨q, rfl, h⟩ | ⟨hp, h⟩
  · rw [h, hn]
    rfl
  · rw [h]
    cases q <;> rfl
  · rw [h]
    cases p with
    | nil => exact absurd rfl hp
    | cons c p => rfl

/-- **The steps of a path followed by another one** are those of both. -/
theorem steps_join {n : Text} (hn : isAbsolute n = false) (p : Text) :
    steps (join p n) = steps p ++ steps n := by
  rcases join_cases hn p with ⟨rfl, h⟩ | ⟨q, rfl, h⟩ | ⟨-, h⟩
  · rw [h, steps_nil, List.nil_append]
  · rw [h, steps_append_slash, steps_append_slash, steps_nil, List.append_nil]
  · rw [h, steps_append_slash]

/-- A path followed by a name ends with this name. -/
theorem names_join {n : Text} (hslash : '/' ∉ n) (p : Text) :
    ∃ ns, names (join p n) = ns ++ [n] := by
  have hname := names_of_noSlash hslash
  rcases join_cases (isAbsolute_of_noSlash hslash) p with ⟨-, h⟩ | ⟨q, -, h⟩ | ⟨-, h⟩
  · exact ⟨[], by rw [h, hname]; rfl⟩
  · exact ⟨names q, by rw [h, names_append_slash, hname]⟩
  · exact ⟨names p, by rw [h, names_append_slash, hname]⟩

/-- Steps added one by one. -/
theorem foldl_join {ns : List Text} (h : ∀ n ∈ ns, isStep n = true ∧ '/' ∉ n) (p : Text) :
    steps (ns.foldl join p) = steps p ++ ns ∧ isAbsolute (ns.foldl join p) = isAbsolute p := by
  induction ns generalizing p with
  | nil => exact ⟨(List.append_nil _).symm, rfl⟩
  | cons n ns ih =>
    obtain ⟨hstep, hslash⟩ := h n List.mem_cons_self
    have habs := isAbsolute_of_noSlash hslash
    obtain ⟨hsteps, hisAbs⟩ := ih (fun m hm => h m (List.mem_cons_of_mem n hm)) (join p n)
    rw [List.foldl_cons, hsteps, hisAbs, steps_join habs, steps_of_isStep hstep hslash,
      isAbsolute_join habs, List.append_assoc]
    exact ⟨rfl, rfl⟩

/-- **The steps of an absolute path** are those of its beginning and of the path itself. -/
theorem steps_absolute {p : Text} (hp : p ≠ []) (current : Text) :
    steps (absolute current p) = steps (base current p) ++ steps p ∧
      isAbsolute (absolute current p) = isAbsolute (base current p) := by
  have hsteps : ∀ n ∈ steps p, isStep n = true ∧ '/' ∉ n := by
    intro n hn
    obtain ⟨hname, hstep⟩ := List.mem_filter.1 hn
    exact ⟨hstep, noSlash_of_mem_names hname⟩
  obtain ⟨hfold, habs⟩ := foldl_join hsteps (base current p)
  have hunfold : absolute current p =
      if p.getLast? == some '/' then join ((steps p).foldl join (base current p)) []
      else (steps p).foldl join (base current p) := by
    unfold absolute
    rw [if_neg (by simpa using hp)]
    rfl
  rw [hunfold]
  split
  · rw [steps_join rfl, isAbsolute_join rfl, hfold, habs, steps_nil, List.append_nil]
    exact ⟨rfl, rfl⟩
  · exact ⟨hfold, habs⟩

end Path

namespace Files

open Kompositum.Path

theorem HasHome.homePath {fs : Files} (h : fs.HasHome) :
    steps fs.homePath = fs.home ∧ isAbsolute fs.homePath = true := by
  refine ⟨?_, rfl⟩
  have hslash := steps_append_slash [] (Text.join ['/'] fs.home)
  rw [List.nil_append, steps_nil, List.nil_append] at hslash
  unfold Files.homePath
  rw [hslash]
  cases hhome : fs.home with
  | nil => rfl
  | cons n ns =>
    have hall : ∀ m ∈ n :: ns, IsName m := hhome ▸ h.isName
    unfold steps Path.names
    rw [Text.splitOn_join (List.cons_ne_nil n ns) fun m hm => (hall m hm).noSlash]
    exact List.filter_eq_self.2 fun m hm => (hall m hm).isStep

/-- A name that is no step leads nowhere else. -/
theorem next_of_not_isStep {n : Text} (h : ¬isStep n = true) (here : Place) :
    next here n = here := by
  unfold next
  rw [if_pos]
  unfold isStep at h
  cases n with
  | nil => rfl
  | cons c n => simpa using h

/-- A name that a file may have leads into a folder. -/
theorem next_of_isName {n : Text} (h : IsName n) (here : Place) : next here n = here ++ [n] := by
  unfold next
  simp [h.ne_nil, h.ne_here, h.ne_above]

/-- Names that lead nowhere else do not matter, as long as another name follows. -/
theorem walk_filter (fs : Files) (here : Place) (ns : List Text) (n : Text) :
    fs.walk here (ns ++ [n]) = fs.walk here (ns.filter isStep ++ [n]) := by
  -- the walk from where it is starts with the same look at what stands there
  have hskip : ∀ {here : Place} {m : Text} {ms : List Text}, next here m = here → ms ≠ [] →
      fs.walk here (m :: ms) = fs.walk here ms := by
    intro here m ms hnext hms
    obtain ⟨k, ks, rfl⟩ := List.exists_cons_of_ne_nil hms
    cases hentry : fs.entry? here with
    | none => simp only [walk, hentry]
    | some e => cases e <;> simp only [walk, hentry, hnext]
  induction ns generalizing here with
  | nil => rfl
  | cons m ns ih =>
    rw [List.cons_append]
    by_cases hm : isStep m = true
    · rw [List.filter_cons_of_pos hm, List.cons_append, walk, walk]
      simp only [ih]
    · rw [List.filter_cons_of_neg hm, hskip (next_of_not_isStep hm here) (by simp)]
      exact ih here

/-- **Where a name in a folder leads.** -/
theorem find_join (fs : Files) (p : Text) {n : Text} (hn : IsName n) :
    fs.find (join p n) = fs.walk (fs.start p) (steps p ++ [n]) := by
  have habs := isAbsolute_of_noSlash hn.noSlash
  obtain ⟨ns, hns⟩ := names_join hn.noSlash p
  have hsteps : ns.filter isStep = steps p := by
    have hjoin := steps_join habs p
    rw [steps_of_isStep hn.isStep hn.noSlash, steps, hns, List.filter_append,
      List.filter_cons_of_pos hn.isStep, List.filter_nil] at hjoin
    exact List.append_cancel_right hjoin
  have hne : join p n ≠ [] := by
    intro hnil
    rw [hnil] at hns
    have hlast : [([] : Text)] = ns ++ [n] := hns
    have := congrArg List.getLast? hlast
    rw [List.getLast?_concat] at this
    exact hn.ne_nil (Option.some.inj this).symm
  unfold find start
  rw [if_neg (by simpa using hne), isAbsolute_join habs, hns, walk_filter, hsteps]

/-- A walk from the root comes to the folder in which the program runs. -/
theorem HasHome.walk {fs : Files} (h : fs.HasHome) (ns : List Text) :
    fs.walk [] (fs.home ++ ns) = fs.walk fs.home ns := by
  have hway : ∀ {here todo : Place}, fs.home = here ++ todo →
      fs.walk here (todo ++ ns) = fs.walk fs.home ns := by
    intro here todo heq
    induction todo generalizing here with
    | nil => rw [heq, List.append_nil, List.nil_append]
    | cons n todo ih =>
      have hname := h.isName n (heq ▸ List.mem_append_right here List.mem_cons_self)
      have hfolder := h.isFolder here ⟨n :: todo, heq.symm⟩
      rw [List.cons_append, Files.walk, hfolder]
      simp only [next_of_isName hname]
      exact ih (by rw [heq, List.append_assoc, List.singleton_append])
  exact hway rfl

/-- **A file in a folder by its absolute path** is the file by the path of the folder. -/
theorem find_absolute {fs : Files} (h : fs.HasHome) (dir : Text) {n : Text} (hn : IsName n) :
    fs.find (join (absolute fs.homePath dir) n) = fs.find (join dir n) := by
  by_cases hdir : dir = []
  · rw [hdir]
    rfl
  · obtain ⟨hsteps, habs⟩ := steps_absolute hdir fs.homePath
    obtain ⟨hhome, hroot⟩ := h.homePath
    rw [find_join fs _ hn, find_join fs _ hn, hsteps]
    unfold start
    rw [habs]
    cases hd : isAbsolute dir with
    | true =>
      have hbase :
          steps (base fs.homePath dir) = [] ∧ isAbsolute (base fs.homePath dir) = true := by
        unfold base
        rw [hd]
        split
        · rename_i hfalse
          cases hfalse
        · split <;> exact ⟨by decide, by decide⟩
      rw [hbase.1, hbase.2, List.nil_append]
    | false =>
      have hbase : base fs.homePath dir = fs.homePath := by
        unfold base
        rw [hd]
        rfl
      rw [hbase, hhome, hroot, List.append_assoc]
      exact h.walk _

end Files

end Kompositum
