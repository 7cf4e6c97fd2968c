import Kompositum.Files.Basic
import Kompositum.Proofs.Lookup
import Kompositum.Proofs.Outcome

/-!
# The folder in which the program runs

It is there with all folders that it lies in. A file takes the place of no folder, and none is taken
out with a file.

* `Files.HasHome`: the folder is there.
* `Files.folder_set_file`, `Files.folder_unset`: folders stay.
* `Files.write_eq_ok_iff`: where a file is written.
-/

namespace Kompositum

namespace Path

/-- A name that a file or folder may have. -/
structure IsName (n : Text) : Prop where
  ne_nil : n ≠ []
  ne_here : n ≠ ['.']
  ne_above : n ≠ ['.', '.']
  noSlash : '/' ∉ n

instance (n : Text) : Decidable (IsName n) :=
  decidable_of_iff (n ≠ [] ∧ n ≠ ['.'] ∧ n ≠ ['.', '.'] ∧ '/' ∉ n)
    ⟨fun ⟨h₁, h₂, h₃, h₄⟩ => ⟨h₁, h₂, h₃, h₄⟩, fun ⟨h₁, h₂, h₃, h₄⟩ => ⟨h₁, h₂, h₃, h₄⟩⟩

end Path

namespace Files

/-- **The folder in which the program runs is there**, with those that it lies in. -/
structure HasHome (fs : Files) : Prop where
  isName : ∀ n ∈ fs.home, Path.IsName n
  isFolder : ∀ p, p <+: fs.home → fs.entry? p = some .folder

/-- What stands where after another entry has been set. -/
theorem entry?_set (fs : Files) (p : Place) (e : Entry) {q : Place} (hq : q ≠ []) :
    Files.entry? (fs.set p e) q = if q = p then some e else fs.entry? q := by
  have hnil : q.isEmpty = false := by simpa using hq
  unfold entry? set
  simp only [hnil, Bool.false_eq_true, if_false, List.lookup_cons, lookup_filter_ne]
  by_cases hp : q = p
  · simp [hp]
  · simp [hp, beq_false_of_ne hp]

theorem entry?_unset (fs : Files) (p : Place) {q : Place} (hq : q ≠ []) :
    Files.entry? (fs.unset p) q = if q = p then none else fs.entry? q := by
  have hnil : q.isEmpty = false := by simpa using hq
  unfold entry? unset
  simp only [hnil, Bool.false_eq_true, if_false, lookup_filter_ne]

variable {fs fs' : Files}

theorem entry?_set_of_ne_nil (fs : Files) (e : Entry) {p : Place} (hp : p ≠ []) (q : Place) :
    Files.entry? (fs.set p e) q = if q = p then some e else fs.entry? q := by
  by_cases hq : q = []
  · subst hq
    rw [if_neg (Ne.symm hp)]
    rfl
  · exact entry?_set fs p e hq

theorem entry?_unset_of_ne_nil (fs : Files) {p : Place} (hp : p ≠ []) (q : Place) :
    Files.entry? (fs.unset p) q = if q = p then none else fs.entry? q := by
  by_cases hq : q = []
  · subst hq
    rw [if_neg (Ne.symm hp)]
    rfl
  · exact entry?_unset fs p hq

/-- Where no folder stands is not the root. -/
theorem ne_nil_of_entry {p : Place} (hp : fs.entry? p ≠ some .folder) : p ≠ [] :=
  fun hnil => hp (hnil ▸ rfl)

/-- A file that is set where no folder stands **takes the place of no folder**. -/
theorem folder_set_file {p q : Place} (hp : fs.entry? p ≠ some .folder) (content : Bytes)
    (hq : fs.entry? q = some .folder) :
    Files.entry? (fs.set p (.file content)) q = some .folder := by
  have hqp : q ≠ p := fun heq => hp (heq ▸ hq)
  rw [entry?_set_of_ne_nil fs _ (ne_nil_of_entry hp), if_neg hqp, hq]

theorem folder_unset {p q : Place} (hp : fs.entry? p ≠ some .folder)
    (hq : fs.entry? q = some .folder) : Files.entry? (fs.unset p) q = some .folder := by
  have hqp : q ≠ p := fun heq => hp (heq ▸ hq)
  rw [entry?_unset_of_ne_nil fs (ne_nil_of_entry hp), if_neg hqp, hq]

/-- **Writing a file** sets it at a place where no folder stands. -/
theorem write_eq_ok_iff {path : Text} {content : Bytes} :
    fs.write path content = .ok fs' ↔
      ∃ p, fs.find path = .ok p ∧ fs.entry? p ≠ some .folder ∧ fs' = fs.set p (.file content) := by
  unfold Files.write
  rw [bind_eq_ok]
  refine exists_congr fun p => and_congr_right fun _ => ?_
  cases hentry : fs.entry? p with
  | none => simpa [hentry, pure, Except.pure] using eq_comm
  | some e =>
    cases e with
    | folder => simp
    | file old => simpa [hentry, pure, Except.pure] using eq_comm

end Files

end Kompositum
