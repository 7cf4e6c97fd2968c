import Kompositum.Proofs.Concat
import Kompositum.Storage.Action
import Mathlib.Data.List.Induction

/-!
# What a history of outputs tells

Many outputs may be open on a storage at the same time, several of them under one name. Where an
output takes its place among the files when it is closed or dropped, what can be read is told by
the steps taken so far: an output counts from the step that publishes it on, which is the first to
close it or, if it has not been closed, the one that drops it.

* `History.IsOpen`, `History.IsClosed`: the outputs after a history.
* `History.Publishes`: a step that publishes an output.
* `History.Published`: a name that has been published since it was last deleted.
* `History.Visible`: the most recent publication under a name, not deleted since.
* `History.visible_concat`: what one more step changes.
-/

namespace Kompositum

namespace StorageAction

/-- The handle whose output does not stay open: it is closed or dropped, or another one takes its
place. -/
def ends? : StorageAction → Option Text
  | create handle _ | close handle | drop handle => some handle
  | _ => none

/-- What is written to the output of a handle. -/
def bytesTo (handle : Text) : StorageAction → Bytes
  | write h bytes => if h = handle then bytes else []
  | _ => []

end StorageAction

/-- The steps that have been taken, the first one first. -/
abbrev History := List StorageAction

namespace History

/-- **The output of a handle is open**: it was created under this name, nothing has ended it since,
and this is what has been written to it since. -/
def IsOpen (as : History) (handle name : Text) (written : Bytes) : Prop :=
  ∃ before after, as = before ++ .create handle name :: after ∧
    (∀ a ∈ after, a.ends? ≠ some handle) ∧ written = after.flatMap (·.bytesTo handle)

/-- **The output of a handle is closed**: it was created under this name and closed since, once or
more, but it has not been dropped. -/
def IsClosed (as : History) (handle name : Text) : Prop :=
  ∃ before after, as = before ++ .create handle name :: after ∧ .close handle ∈ after ∧
    ∀ a ∈ after, a = .close handle ∨ a.ends? ≠ some handle

/-- **A step publishes an output** if it is the first to close it, or drops it while it is open. -/
def Publishes (as : History) (a : StorageAction) (name : Text) (content : Bytes) : Prop :=
  ∃ handle, a.ends? = some handle ∧ IsOpen as handle name content

/-- **A name has been published** since it was last deleted. -/
def Published (as : History) (name : Text) : Prop :=
  ∃ before a after content, as = before ++ a :: after ∧ Publishes before a name content ∧
    .delete name ∉ after

/-- **What is visible under a name**: the output that was published most recently, unless the name
has been deleted since. -/
def Visible (as : History) (name : Text) (content : Bytes) : Prop :=
  ∃ before a after, as = before ++ a :: after ∧ Publishes before a name content ∧
    .delete name ∉ after ∧
    ∀ mid b rest c, after = mid ++ b :: rest → ¬ Publishes (before ++ a :: mid) b name c

/-! ## One more step -/

variable {as : History} {a : StorageAction} {handle name : Text} {content written : Bytes}

/-- An output is open after a step that creates it, or a step that does not end it. -/
theorem isOpen_concat :
    IsOpen (as ++ [a]) handle name content ↔
      (a = .create handle name ∧ content = []) ∨
        (a.ends? ≠ some handle ∧
          ∃ written, IsOpen as handle name written ∧ content = written ++ a.bytesTo handle) := by
  constructor
  · rintro ⟨before, after, has, hends, rfl⟩
    rcases concat_eq_append_cons_iff.1 has with ⟨-, rfl, rfl⟩ | ⟨after', rfl, rfl⟩
    · exact .inl ⟨rfl, rfl⟩
    · obtain ⟨hends', ha⟩ := forall_mem_concat_iff.1 hends
      exact .inr ⟨ha, _, ⟨before, after', rfl, hends', rfl⟩, by simp⟩
  · rintro (⟨rfl, rfl⟩ | ⟨ha, written, ⟨before, after, rfl, hends, rfl⟩, rfl⟩)
    · exact ⟨as, [], rfl, by simp, rfl⟩
    · have hends' := forall_mem_concat_iff.2 ⟨hends, ha⟩
      exact ⟨before, after ++ [a], by simp, hends', by simp⟩

/-- An output is closed after a step that closes it, or a step that does not end it. -/
theorem isClosed_concat :
    IsClosed (as ++ [a]) handle name ↔
      (a = .close handle ∧ ((∃ content, IsOpen as handle name content) ∨ IsClosed as handle name)) ∨
        (a.ends? ≠ some handle ∧ IsClosed as handle name) := by
  constructor
  · rintro ⟨before, after, has, hclose, hends⟩
    rcases concat_eq_append_cons_iff.1 has with ⟨-, -, rfl⟩ | ⟨after', rfl, rfl⟩
    · simp at hclose
    obtain ⟨hends', ha⟩ := forall_mem_concat_iff.1 hends
    -- the output was closed before, or this step is the first to close it
    by_cases hmem : .close handle ∈ after'
    · have hclosed : IsClosed (before ++ .create handle name :: after') handle name :=
        ⟨before, after', rfl, hmem, hends'⟩
      rcases ha with rfl | ha
      · exact .inl ⟨rfl, .inr hclosed⟩
      · exact .inr ⟨ha, hclosed⟩
    · have ha : a = .close handle := by
        rcases List.mem_append.1 hclose with h | h
        · exact absurd h hmem
        · exact (List.mem_singleton.1 h).symm
      refine .inl ⟨ha, .inl ⟨_, before, after', rfl, ?_, rfl⟩⟩
      intro b hb
      rcases hends' b hb with rfl | hb'
      · exact absurd hb hmem
      · exact hb'
  · rintro (⟨rfl, ⟨content, before, after, rfl, hends, -⟩ | ⟨before, after, rfl, -, hends⟩⟩ |
      ⟨ha, before, after, rfl, hclose, hends⟩)
    · have hends' : ∀ b ∈ after, b = .close handle ∨ b.ends? ≠ some handle := by
        intro b hb
        exact .inr (hends b hb)
      exact ⟨before, after ++ [.close handle], by simp, by simp,
        forall_mem_concat_iff.2 ⟨hends', .inl rfl⟩⟩
    · exact ⟨before, after ++ [.close handle], by simp, by simp,
        forall_mem_concat_iff.2 ⟨hends, .inl rfl⟩⟩
    · exact ⟨before, after ++ [a], by simp, by simp [hclose],
        forall_mem_concat_iff.2 ⟨hends, .inr ha⟩⟩

/-- What a step publishes is visible after it, and what was visible before stays so unless it is
deleted or something else is published. -/
theorem visible_concat :
    Visible (as ++ [a]) name content ↔
      Publishes as a name content ∨
        (Visible as name content ∧ a ≠ .delete name ∧ ∀ c, ¬ Publishes as a name c) := by
  constructor
  · rintro ⟨before, x, after, has, hpub, hdelete, hlast⟩
    rcases concat_eq_append_cons_iff.1 has with ⟨rfl, rfl, rfl⟩ | ⟨after', rfl, rfl⟩
    · exact .inl hpub
    · simp only [List.mem_append, List.mem_singleton, not_or] at hdelete
      refine .inr ⟨⟨before, x, after', rfl, hpub, hdelete.1, ?_⟩, Ne.symm hdelete.2, ?_⟩
      · rintro mid b rest c rfl
        exact hlast mid b (rest ++ [a]) c (by simp)
      · intro c
        exact hlast after' a [] c rfl
  · rintro (hpub | ⟨⟨before, x, after, rfl, hpub, hdelete, hlast⟩, ha, hnone⟩)
    · refine ⟨as, a, [], rfl, hpub, by simp, ?_⟩
      intro mid b rest c h
      simp at h
    · refine ⟨before, x, after ++ [a], by simp, hpub, by simp [hdelete, Ne.symm ha], ?_⟩
      intro mid b rest c h
      rcases concat_eq_append_cons_iff.1 h with ⟨rfl, rfl, -⟩ | ⟨rest', -, rfl⟩
      · exact hnone c
      · exact hlast mid b rest' c rfl

theorem published_concat :
    Published (as ++ [a]) name ↔
      (∃ content, Publishes as a name content) ∨ (Published as name ∧ a ≠ .delete name) := by
  constructor
  · rintro ⟨before, x, after, content, has, hpub, hdelete⟩
    rcases concat_eq_append_cons_iff.1 has with ⟨rfl, rfl, rfl⟩ | ⟨after', rfl, rfl⟩
    · exact .inl ⟨content, hpub⟩
    · simp only [List.mem_append, List.mem_singleton, not_or] at hdelete
      exact .inr ⟨⟨before, x, after', content, rfl, hpub, hdelete.1⟩, Ne.symm hdelete.2⟩
  · rintro (⟨content, hpub⟩ | ⟨⟨before, x, after, content, rfl, hpub, hdelete⟩, ha⟩)
    · exact ⟨as, a, [], content, rfl, hpub, by simp⟩
    · exact ⟨before, x, after ++ [a], content, by simp, hpub, by simp [hdelete, Ne.symm ha]⟩

/-- Among the publications under a name there is a most recent one. -/
theorem published_iff : Published as name ↔ ∃ content, Visible as name content := by
  induction as using List.reverseRecOn with
  | nil =>
    constructor
    · rintro ⟨before, a, after, content, h, -⟩
      simp at h
    · rintro ⟨content, before, a, after, h, -⟩
      simp at h
  | append_singleton as a ih =>
    rw [published_concat, ih]
    simp only [visible_concat]
    constructor
    · rintro (⟨content, hpub⟩ | ⟨⟨content, hvisible⟩, ha⟩)
      · exact ⟨content, .inl hpub⟩
      · by_cases hpub : ∃ c, Publishes as a name c
        · obtain ⟨c, hc⟩ := hpub
          exact ⟨c, .inl hc⟩
        · exact ⟨content, .inr ⟨hvisible, ha, not_exists.1 hpub⟩⟩
    · rintro ⟨content, hpub | ⟨hvisible, ha, -⟩⟩
      · exact .inl ⟨content, hpub⟩
      · exact .inr ⟨⟨content, hvisible⟩, ha⟩

end History

end Kompositum
