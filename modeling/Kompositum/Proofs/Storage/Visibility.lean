import Kompositum.Proofs.Storage.History
import Kompositum.Proofs.Storage.Outputs

/-!
# What is visible in memory

A storage in memory keeps its files and its outputs in tables. Step by step they are what the
history tells of: an output that is open there is open in the table with all that has been written
to it, and the file of a name is the publication that is visible.

* `Memory.get?_outputs_step`, `Memory.files_step_cases`: what one step does.
* `Memory.Reflects`: outputs and files are those that the history tells of. Every step keeps this
  (`Reflects.step`).
* `Memory.run_answersFor`: what a storage in memory answers after any history.
-/

namespace Kompositum

open Text (Table)

/-! ## What one step does -/

/-- An output after a request, whether it has refused or not. -/
def MemoryOutput.requested (o : MemoryOutput) (bytes : Bytes) : MemoryOutput :=
  match o.request bytes with
  | .ok o => o
  | .error _ => o

theorem MemoryOutput.requested_nil (o : MemoryOutput) : o.requested [] = o := by
  obtain ⟨name, written, closed⟩ := o
  unfold requested request
  cases closed with
  | true => rfl
  | false => simp

/-- What becomes of the output of a handle in one step. -/
def StorageAction.outputAfter (handle : Text) (o : Option MemoryOutput) :
    StorageAction → Option MemoryOutput
  | create h name => if handle = h then some ⟨name, [], false⟩ else o
  | write h bytes => if handle = h then o.map (·.requested bytes) else o
  | close h => if handle = h then o.map fun o => ⟨o.name, [], true⟩ else o
  | drop h => if handle = h then none else o
  | _ => o

namespace StorageAction

variable {a : StorageAction} {handle name : Text} {written : Bytes} {o : Option MemoryOutput}

/-- An output is open after a step that creates it, or a step that does not end it. -/
theorem outputAfter_eq_open_iff :
    a.outputAfter handle o = some ⟨name, written, false⟩ ↔
      (a = .create handle name ∧ written = []) ∨
        (a.ends? ≠ some handle ∧
          ∃ w, o = some ⟨name, w, false⟩ ∧ written = w ++ a.bytesTo handle) := by
  cases a with
  | create h n =>
    by_cases hh : handle = h
    · subst hh
      simp [outputAfter, ends?, eq_comm]
    · simp [outputAfter, ends?, bytesTo, hh, Ne.symm hh]
  | write h bytes =>
    by_cases hh : handle = h
    · subst hh
      obtain _ | ⟨n, w, closed⟩ := o
      · simp [outputAfter]
      · cases closed with
        | true => simp [outputAfter, MemoryOutput.requested, MemoryOutput.request]
        | false =>
          have hcomm : w ++ bytes = written ↔ written = w ++ bytes := eq_comm
          simp [outputAfter, MemoryOutput.requested, MemoryOutput.request, ends?, bytesTo, hcomm]
    · simp [outputAfter, ends?, bytesTo, hh, Ne.symm hh]
  | close h =>
    by_cases hh : handle = h
    · subst hh
      simp [outputAfter, ends?]
    · simp [outputAfter, ends?, bytesTo, hh, Ne.symm hh]
  | drop h =>
    by_cases hh : handle = h
    · subst hh
      simp [outputAfter, ends?]
    · simp [outputAfter, ends?, bytesTo, hh, Ne.symm hh]
  | _ => simp [outputAfter, ends?, bytesTo]

/-- An output is closed after a step that closes it, or a step that does not end it. -/
theorem outputAfter_eq_closed_iff :
    a.outputAfter handle o = some ⟨name, written, true⟩ ↔
      (a = .close handle ∧ written = [] ∧ ∃ w closed, o = some ⟨name, w, closed⟩) ∨
        (a.ends? ≠ some handle ∧ o = some ⟨name, written, true⟩) := by
  cases a with
  | create h n =>
    by_cases hh : handle = h
    · subst hh
      simp [outputAfter, ends?]
    · simp [outputAfter, ends?, hh, Ne.symm hh]
  | write h bytes =>
    by_cases hh : handle = h
    · subst hh
      obtain _ | ⟨n, w, closed⟩ := o
      · simp [outputAfter]
      · cases closed with
        | true => simp [outputAfter, MemoryOutput.requested, MemoryOutput.request, ends?]
        | false => simp [outputAfter, MemoryOutput.requested, MemoryOutput.request]
    · simp [outputAfter, ends?, hh]
  | close h =>
    by_cases hh : handle = h
    · subst hh
      obtain _ | ⟨n, w, closed⟩ := o
      · simp [outputAfter, ends?]
      · simp [outputAfter, ends?, and_comm, eq_comm]
    · simp [outputAfter, ends?, hh, Ne.symm hh]
  | drop h =>
    by_cases hh : handle = h
    · subst hh
      simp [outputAfter, ends?]
    · simp [outputAfter, ends?, hh, Ne.symm hh]
  | _ => simp [outputAfter, ends?]

end StorageAction

/-- The output of a handle, if there is one, replaced by its image. -/
def Memory.replaced (outputs : Table MemoryOutput) (handle : Text)
    (f : MemoryOutput → MemoryOutput) : Table MemoryOutput :=
  match outputs.get? handle with
  | some o => outputs.insert handle (f o)
  | none => outputs

namespace Memory

variable {m : Memory} {a : StorageAction} {handle name : Text} {content written : Bytes}

theorem sorted_replaced {outputs : Table MemoryOutput} (h : outputs.Sorted) (handle : Text)
    (f : MemoryOutput → MemoryOutput) : (replaced outputs handle f).Sorted := by
  unfold replaced
  cases outputs.get? handle with
  | none => exact h
  | some o => exact h.insert handle (f o)

theorem get?_replaced (outputs : Table MemoryOutput) (handle : Text)
    (f : MemoryOutput → MemoryOutput) (k : Text) :
    (replaced outputs handle f).get? k =
      if k = handle then (outputs.get? k).map f else outputs.get? k := by
  unfold replaced
  by_cases hk : k = handle
  · subst hk
    rw [if_pos rfl]
    cases hget : outputs.get? k with
    | none => exact hget
    | some o => exact Table.get?_insert_self outputs k (f o)
  · rw [if_neg hk]
    cases outputs.get? handle with
    | none => rfl
    | some o => exact Table.get?_insert_of_ne outputs (f o) hk

theorem step_write_ok {m' : Memory} {bytes : Bytes} (h : m.write handle bytes = .ok m') :
    m.step (.write handle bytes) = (.ok .done, m') := by
  simp only [step, h]

theorem step_write_error {fault : StoreFault} {bytes : Bytes}
    (h : m.write handle bytes = .error fault) :
    m.step (.write handle bytes) = (.error fault, m) := by
  simp only [step, h]

theorem outputs_write (hm : m.outputs.Sorted) (handle : Text) (bytes : Bytes) :
    (m.step (.write handle bytes)).2.outputs =
      replaced m.outputs handle (·.requested bytes) := by
  unfold replaced
  cases hget : m.outputs.get? handle with
  | none =>
    have hwrite : m.write handle bytes = .ok m := by
      unfold write
      rw [hget]
    rw [step_write_ok hwrite]
  | some o =>
    have hsame := hm.insert_of_get?_eq_some hget
    by_cases hbytes : bytes = []
    · subst hbytes
      rw [step_write_ok (write_nil m handle)]
      simp only [MemoryOutput.requested_nil, hsame]
    · have hwrite := write_of_get?_eq_some hget hbytes
      unfold MemoryOutput.requested
      cases hrequest : o.request bytes with
      | ok o' =>
        rw [hrequest] at hwrite
        rw [step_write_ok hwrite]
        simp only [hrequest]
      | error fault =>
        rw [hrequest] at hwrite
        rw [step_write_error hwrite]
        simp only [hrequest, hsame]

theorem outputs_publish (m : Memory) (o : MemoryOutput) : (m.publish o).outputs = m.outputs := by
  unfold publish
  split <;> rfl

theorem outputs_close (m : Memory) (handle : Text) :
    (m.close handle).outputs = replaced m.outputs handle fun o => ⟨o.name, [], true⟩ := by
  unfold close replaced
  cases m.outputs.get? handle with
  | none => rfl
  | some o => exact outputs_publish _ o

theorem outputs_drop (hm : m.outputs.Sorted) (handle : Text) :
    (m.drop handle).outputs = m.outputs.erase handle := by
  unfold drop
  cases hget : m.outputs.get? handle with
  | none => rw [hm.erase_of_get?_eq_none hget]
  | some o => exact outputs_publish _ o

theorem outputs_create (hm : m.outputs.Sorted) (handle name : Text) :
    (m.create handle name).outputs = m.outputs.insert handle ⟨name, [], false⟩ := by
  unfold create
  simp only [outputs_drop hm, hm.insert_erase]

/-- **The outputs after one step.** -/
theorem get?_outputs_step (hm : m.outputs.Sorted) (a : StorageAction) :
    (m.step a).2.outputs.Sorted ∧
      ∀ handle, (m.step a).2.outputs.get? handle =
        a.outputAfter handle (m.outputs.get? handle) := by
  cases a with
  | create h name =>
    have hstep : (m.step (.create h name)).2.outputs = _ := outputs_create hm h name
    rw [hstep]
    exact ⟨hm.insert h _, hm.get?_insert h _⟩
  | write h bytes =>
    rw [outputs_write hm]
    exact ⟨sorted_replaced hm h _, get?_replaced m.outputs h _⟩
  | close h =>
    have hstep : (m.step (.close h)).2.outputs = _ := outputs_close m h
    rw [hstep]
    exact ⟨sorted_replaced hm h _, get?_replaced m.outputs h _⟩
  | drop h =>
    have hstep : (m.step (.drop h)).2.outputs = _ := outputs_drop hm h
    rw [hstep]
    exact ⟨hm.erase h, hm.get?_erase h⟩
  | _ => exact ⟨hm, fun _ => rfl⟩

theorem files_publish (m : Memory) (o : MemoryOutput) :
    (m.publish o).files = if o.closed then m.files else m.files.insert o.name o.written := by
  unfold publish
  split <;> rfl

/-- The files when the output of a handle is published, if there is one. -/
def published (m : Memory) (handle : Text) : Table Bytes :=
  match m.outputs.get? handle with
  | some o => (m.publish o).files
  | none => m.files

theorem published_eq {o : MemoryOutput} (ho : m.outputs.get? handle = some o) :
    m.published handle = if o.closed then m.files else m.files.insert o.name o.written := by
  unfold published
  rw [ho]
  exact files_publish m o

theorem published_of_none (ho : m.outputs.get? handle = none) : m.published handle = m.files := by
  unfold published
  rw [ho]

theorem sorted_published (hm : m.files.Sorted) (handle : Text) : (m.published handle).Sorted := by
  cases hget : m.outputs.get? handle with
  | none =>
    rw [published_of_none hget]
    exact hm
  | some o =>
    rw [published_eq hget]
    split
    · exact hm
    · exact hm.insert o.name o.written

theorem files_drop (m : Memory) (handle : Text) : (m.drop handle).files = m.published handle := by
  unfold drop published
  cases m.outputs.get? handle with
  | none => rfl
  | some o => simp only [files_publish]

theorem files_close (m : Memory) (handle : Text) :
    (m.close handle).files = m.published handle := by
  unfold close published
  cases m.outputs.get? handle with
  | none => rfl
  | some o => simp only [files_publish]

theorem files_write (m : Memory) (handle : Text) (bytes : Bytes) :
    (m.step (.write handle bytes)).2.files = m.files := by
  cases hwrite : m.write handle bytes with
  | error fault => rw [step_write_error hwrite]
  | ok m' =>
    rw [step_write_ok hwrite]
    unfold write at hwrite
    cases hget : m.outputs.get? handle with
    | none =>
      rw [hget] at hwrite
      obtain rfl := Except.ok.inj hwrite
      rfl
    | some o =>
      rw [hget] at hwrite
      dsimp only at hwrite
      split at hwrite
      case isTrue =>
        obtain rfl := Except.ok.inj hwrite
        rfl
      case isFalse =>
        cases hrequest : o.request bytes with
        | error fault =>
          rw [hrequest] at hwrite
          cases hwrite
        | ok o' =>
          rw [hrequest] at hwrite
          obtain rfl := Except.ok.inj hwrite
          rfl

/-- **What a step does to the files**: it publishes the output that it ends, deletes a file, or
leaves them as they are. -/
theorem files_step_cases (m : Memory) (a : StorageAction) :
    (∃ handle, a.ends? = some handle ∧ (m.step a).2.files = m.published handle) ∨
      (∃ name, a = .delete name ∧ (m.step a).2.files = m.files.erase name) ∨
      (a.ends? = none ∧ (∀ name, a ≠ .delete name) ∧ (m.step a).2.files = m.files) := by
  cases a with
  | create handle name => exact .inl ⟨handle, rfl, files_drop m handle⟩
  | close handle => exact .inl ⟨handle, rfl, files_close m handle⟩
  | drop handle => exact .inl ⟨handle, rfl, files_drop m handle⟩
  | delete name => exact .inr (.inl ⟨name, rfl, rfl⟩)
  | write handle bytes => exact .inr (.inr ⟨rfl, nofun, files_write m handle bytes⟩)
  | _ => exact .inr (.inr ⟨rfl, nofun, rfl⟩)

/-! ## What a history leaves -/

open History

/-- **The storage reflects a history**: its outputs and files are those that the history tells
of. -/
structure Reflects (as : History) (m : Memory) : Prop where
  files_sorted : m.files.Sorted
  outputs_sorted : m.outputs.Sorted
  open_iff : ∀ {handle name written},
    m.outputs.get? handle = some ⟨name, written, false⟩ ↔ IsOpen as handle name written
  closed_iff : ∀ {handle name written},
    m.outputs.get? handle = some ⟨name, written, true⟩ ↔ written = [] ∧ IsClosed as handle name
  file_iff : ∀ {name content}, m.files.get? name = some content ↔ Visible as name content

theorem reflects_empty : Reflects [] Memory.empty where
  files_sorted := Table.sorted_nil
  outputs_sorted := Table.sorted_nil
  open_iff := by
    intro handle name written
    refine iff_of_false (by simp [Memory.empty, Table.get?]) ?_
    rintro ⟨before, after, h, -⟩
    simp at h
  closed_iff := by
    intro handle name written
    refine iff_of_false (by simp [Memory.empty, Table.get?]) ?_
    rintro ⟨-, before, after, h, -⟩
    simp at h
  file_iff := by
    intro name content
    refine iff_of_false (by simp [Memory.empty, Table.get?]) ?_
    rintro ⟨before, a, after, h, -⟩
    simp at h

namespace Reflects

variable {as : History} (h : Reflects as m)
include h

/-- An output of a handle is open or closed. -/
theorem exists_output_iff :
    (∃ w closed, m.outputs.get? handle = some ⟨name, w, closed⟩) ↔
      (∃ content, IsOpen as handle name content) ∨ IsClosed as handle name := by
  constructor
  · rintro ⟨w, closed, hget⟩
    cases closed with
    | false => exact .inl ⟨w, h.open_iff.1 hget⟩
    | true => exact .inr (h.closed_iff.1 hget).2
  · rintro (⟨content, hopen⟩ | hclosed)
    · exact ⟨content, false, h.open_iff.2 hopen⟩
    · exact ⟨[], true, h.closed_iff.2 ⟨rfl, hclosed⟩⟩

/-- What a step publishes is the output that is open. -/
theorem publishes_iff (a : StorageAction) :
    Publishes as a name content ↔
      ∃ handle, a.ends? = some handle ∧ m.outputs.get? handle = some ⟨name, content, false⟩ := by
  unfold Publishes
  simp only [h.open_iff]

/-- What is visible after one more step. -/
theorem file_iff_step (a : StorageAction) :
    (m.step a).2.files.get? name = some content ↔ Visible (as ++ [a]) name content := by
  rw [visible_concat]
  simp only [h.publishes_iff, ← h.file_iff]
  rcases m.files_step_cases a with ⟨handle, hends, hfiles⟩ | ⟨n, rfl, hfiles⟩ |
    ⟨hends, hkeep, hfiles⟩
  · have hkeep : a ≠ .delete name := by
      rintro rfl
      cases hends
    rw [hfiles]
    cases hget : m.outputs.get? handle with
    | none =>
      rw [published_of_none hget]
      simp [hends, hkeep, hget]
    | some o =>
      obtain ⟨n, w, closed⟩ := o
      rw [published_eq hget]
      cases closed with
      | true => simp [hends, hkeep, hget]
      | false =>
        simp only [Bool.false_eq_true, if_false]
        rw [h.files_sorted.get?_insert]
        by_cases hn : name = n
        · subst hn
          simp [hends, hget]
        · simp [hends, hkeep, hget, hn, Ne.symm hn]
  · have hends : (StorageAction.delete n).ends? = none := rfl
    rw [hfiles, h.files_sorted.get?_erase]
    by_cases hn : name = n
    · simp [hends, hn]
    · simp [hends, hn, Ne.symm hn]
  · rw [hfiles]
    simp [hends, hkeep]

theorem sorted_step (a : StorageAction) : (m.step a).2.files.Sorted := by
  rcases m.files_step_cases a with ⟨handle, -, hfiles⟩ | ⟨name, -, hfiles⟩ | ⟨-, -, hfiles⟩
  · rw [hfiles]
    exact sorted_published h.files_sorted handle
  · rw [hfiles]
    exact h.files_sorted.erase name
  · rw [hfiles]
    exact h.files_sorted

/-- **One more step** is reflected too. -/
theorem step (a : StorageAction) : Reflects (as ++ [a]) (m.step a).2 where
  files_sorted := h.sorted_step a
  outputs_sorted := (get?_outputs_step h.outputs_sorted a).1
  open_iff := by
    intro handle name written
    rw [(get?_outputs_step h.outputs_sorted a).2, isOpen_concat,
      StorageAction.outputAfter_eq_open_iff]
    simp only [h.open_iff]
  closed_iff := by
    intro handle name written
    rw [(get?_outputs_step h.outputs_sorted a).2, isClosed_concat,
      StorageAction.outputAfter_eq_closed_iff, h.exists_output_iff, h.closed_iff]
    tauto
  file_iff := h.file_iff_step a

end Reflects

/-- **Every history is reflected** by the storage that it leads to. -/
theorem reflects_run (as : History) : Reflects as (runActions step .empty as).2 := by
  induction as using List.reverseRecOn with
  | nil => exact reflects_empty
  | append_singleton as a ih =>
    rw [runActions_append]
    exact ih.step a

theorem step_read_of_some (h : m.files.get? name = some content) :
    m.step (.read name) = (.ok (.content content), m) := by
  simp only [step, read, h]
  rfl

theorem step_read_of_none (h : m.files.get? name = none) :
    m.step (.read name) = (.error (.missing name), m) := by
  simp only [step, read, h]
  rfl

theorem step_size_of_some (h : m.files.get? name = some content) :
    m.step (.size name) = (.ok (.number content.length), m) := by
  simp only [step, read, h]
  rfl

theorem step_size_of_none (h : m.files.get? name = none) :
    m.step (.size name) = (.error (.missing name), m) := by
  simp only [step, read, h]
  rfl

theorem step_contains (m : Memory) (name : Text) :
    m.step (.contains name) = (.ok (.truth (m.files.get? name).isSome), m) := rfl

theorem step_read_iff :
    (m.step (.read name)).1 = .ok (.content content) ↔ m.files.get? name = some content := by
  cases hget : m.files.get? name with
  | none => simp [step_read_of_none hget]
  | some c => simp [step_read_of_some hget]

theorem step_size_iff {n : Nat} :
    (m.step (.size name)).1 = .ok (.number n) ↔
      ∃ content, m.files.get? name = some content ∧ content.length = n := by
  cases hget : m.files.get? name with
  | none => simp [step_size_of_none hget]
  | some c => simp [step_size_of_some hget]

/-- Nothing changes when a closed output is closed. -/
theorem close_of_closed (hm : m.outputs.Sorted)
    (h : m.outputs.get? handle = some ⟨name, [], true⟩) : m.close handle = m := by
  have hsame : m.outputs.insert handle ⟨name, [], true⟩ = m.outputs := hm.insert_of_get?_eq_some h
  unfold close publish
  simp only [h, hsame, if_true]

/-- A closed output has been published. -/
theorem published_of_closed (h : m.outputs.get? handle = some ⟨name, written, true⟩) :
    m.published handle = m.files := by
  rw [published_eq h]
  exact if_pos rfl

/-- A closed output takes no bytes. -/
theorem step_write_of_closed
    (h : m.outputs.get? handle = some ⟨name, written, true⟩) (bytes : Bytes) :
    m.step (.write handle bytes) =
      (if bytes = [] then .ok .done else .error (.closed name), m) := by
  by_cases hbytes : bytes = []
  · subst hbytes
    rw [step_write_ok (write_nil m handle), if_pos rfl]
  · rw [step_write_error (write_of_get?_eq_some h hbytes), if_neg hbytes]

/-- **What a storage answers after a history**, and which steps do not change what is visible. -/
structure AnswersFor (as : History) (m : Memory) : Prop where
  /-- A name is readable if it has been published since it was last deleted. -/
  readable_iff : ∀ name,
    (∃ content, (m.step (.read name)).1 = .ok (.content content)) ↔ Published as name
  /-- What is read is what was published most recently. -/
  read_iff : ∀ name content,
    (m.step (.read name)).1 = .ok (.content content) ↔ Visible as name content
  size_iff : ∀ name n,
    (m.step (.size name)).1 = .ok (.number n) ↔
      ∃ content, Visible as name content ∧ content.length = n
  contains_iff : ∀ name, (m.step (.contains name)).1 = .ok (.truth true) ↔ Published as name
  names : ∃ ns, (m.step .names).1 = .ok (.names ns) ∧
    (ns.Pairwise fun s t => Text.before s t = true) ∧ ∀ name, name ∈ ns ↔ Published as name
  /-- What is not readable is missing. -/
  missing : ∀ name, ¬ Published as name →
    (m.step (.read name)).1 = .error (.missing name) ∧
    (m.step (.size name)).1 = .error (.missing name) ∧
    (m.step (.contains name)).1 = .ok (.truth false)
  /-- A closed output refuses every request, and no such request is made for no bytes. -/
  write_closed : ∀ handle name, IsClosed as handle name →
    (∃ o, m.outputs.get? handle = some o ∧ ∀ bytes, o.request bytes = .error (.closed name)) ∧
    ∀ bytes, m.step (.write handle bytes) =
      (if bytes = [] then .ok .done else .error (.closed name), m)
  close_closed : ∀ handle name, IsClosed as handle name → m.step (.close handle) = (.ok .done, m)
  /-- A closed output is dropped too when another one takes its place. -/
  drop_closed : ∀ handle name, IsClosed as handle name →
    (m.step (.drop handle)).2.files = m.files ∧
    ∀ n, (m.step (.create handle n)).2.files = m.files
  flush : ∀ handle, m.step (.flush handle) = (.ok .done, m)
  sync : ∀ handle, m.step (.sync handle) = (.ok .done, m)

/-- The names that have been published are those of the files. -/
theorem Reflects.published_iff {as : History} (h : Reflects as m) :
    Published as name ↔ ∃ content, m.files.get? name = some content := by
  rw [History.published_iff]
  simp only [h.file_iff]

theorem Reflects.get?_outputs_of_isClosed {as : History} (h : Reflects as m)
    (hclosed : IsClosed as handle name) : m.outputs.get? handle = some ⟨name, [], true⟩ :=
  h.closed_iff.2 ⟨rfl, hclosed⟩

/-- **A storage that reflects a history answers for it.** -/
theorem Reflects.answersFor {as : History} (h : Reflects as m) : AnswersFor as m where
  readable_iff := by
    intro name
    simp only [h.published_iff, step_read_iff]
  read_iff := by
    intro name content
    rw [step_read_iff, h.file_iff]
  size_iff := by
    intro name n
    simp only [step_size_iff, h.file_iff]
  contains_iff := by
    intro name
    rw [step_contains, h.published_iff, ← Option.isSome_iff_exists]
    simp
  names := by
    refine ⟨m.files.keys, rfl, h.files_sorted.pairwise_keys, ?_⟩
    intro name
    rw [Table.mem_keys_iff, h.published_iff]
  missing := by
    intro name hname
    have hnone : m.files.get? name = none := by
      rw [h.published_iff, ← Option.ne_none_iff_exists', not_not] at hname
      exact hname
    refine ⟨?_, ?_, ?_⟩
    · rw [step_read_of_none hnone]
    · rw [step_size_of_none hnone]
    · rw [step_contains, hnone]
      rfl
  write_closed := by
    intro handle name hclosed
    have hget := h.get?_outputs_of_isClosed hclosed
    refine ⟨⟨_, hget, ?_⟩, step_write_of_closed hget⟩
    intro bytes
    exact if_pos rfl
  close_closed := by
    intro handle name hclosed
    have hclose := close_of_closed h.outputs_sorted (h.get?_outputs_of_isClosed hclosed)
    show (Except.ok StorageAnswer.done, m.close handle) = _
    rw [hclose]
  drop_closed := by
    intro handle name hclosed
    have hfiles : (m.drop handle).files = m.files :=
      (files_drop m handle).trans (published_of_closed (h.get?_outputs_of_isClosed hclosed))
    exact ⟨hfiles, fun _ => hfiles⟩
  flush := fun _ => rfl
  sync := fun _ => rfl

/-- **What a storage in memory shows is told by its history**: whatever outputs are created, written
to, closed and dropped in between, a name shows the output that was published most recently,
unless it has been deleted since, and what has been written to that output by then. -/
theorem run_answersFor (as : History) : AnswersFor as (runActions step .empty as).2 :=
  (reflects_run as).answersFor

-- two outputs on one name: visible is the one that is published last, here the one created first
example : (runActions step .empty
    [.create "1" "meta", .create "2" "meta", .write "1" [1], .write "2" [2], .close "2", .drop "1",
      .close "2", .write "2" [3], .read "meta"]).1.drop 6 =
    [.ok .done, .error (.closed "meta"), .ok (.content [1])] := by
  decide +kernel

end Memory

end Kompositum
