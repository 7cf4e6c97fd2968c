import Kompositum.Proofs.Storage.Tabular

/-!
# Files put into a storage

A file is put into a storage as a whole when its output is closed before anything else is done.
Storage in memory publishes it then; storage in a folder has the file from the beginning on and
passes bytes on to it as they come.

* `StorageUse`: one use of a storage.
* `Puts`: how a file is put into a storage, and what is left behind when its output is closed.
* `Memory.Idle.puts`: a file that is put into memory.
* `Directory.Carries`: what an output has passed on, and what it still has to.
* `Directory.Idle.puts`: a file that is put into a folder.
-/

namespace Kompositum

open Kompositum.Path (IsName)
open Text (Table)

/-- What is done with an open output. -/
inductive OutputPiece where
  | write (bytes : Bytes)
  | flush
  | sync
deriving DecidableEq, Repr

/-- **One use of a storage.** A file is put into it through an output that is created, written to
in pieces and closed; everything else takes one step. An output may be dropped when it has been
closed. -/
inductive StorageUse where
  | put (handle name : Text) (pieces : List OutputPiece)
  | drop (handle : Text)
  | delete (name : Text)
  | contains (name : Text)
  | size (name : Text)
  | read (name : Text)
  | names
deriving DecidableEq, Repr

namespace OutputPiece

/-- The step that a piece is. -/
def action (handle : Text) : OutputPiece → StorageAction
  | write bytes => .write handle bytes
  | flush => .flush handle
  | sync => .sync handle

/-- What is written by a piece. -/
def bytes : OutputPiece → Bytes
  | write bytes => bytes
  | flush | sync => []

end OutputPiece

namespace StorageUse

/-- **The steps of a use.** -/
def actions : StorageUse → List StorageAction
  | put handle name pieces =>
    .create handle name :: (pieces.map (·.action handle) ++ [.close handle])
  | drop handle => [.drop handle]
  | delete name => [.delete name]
  | contains name => [.contains name]
  | size name => [.size name]
  | read name => [.read name]
  | names => [.names]

/-- Whether the name in a use is plain. -/
def IsPlain : StorageUse → Prop
  | put _ name _ | delete name | contains name | size name | read name => IsName name
  | drop _ | names => True

instance (u : StorageUse) : Decidable u.IsPlain :=
  match u with
  | put _ name _ | delete name | contains name | size name | read name =>
    inferInstanceAs (Decidable (IsName name))
  | drop _ | names => inferInstanceAs (Decidable True)

end StorageUse

/-! ## A file that is put into a storage -/

section Steps

variable {σ : Type} {step : σ → StorageAction → Except StoreFault StorageAnswer × σ}

theorem runActions_cons {s s' : σ} {a : StorageAction} {answer : Except StoreFault StorageAnswer}
    (h : step s a = (answer, s')) (as : List StorageAction) :
    runActions step s (a :: as) =
      (answer :: (runActions step s' as).1, (runActions step s' as).2) := by
  rw [runActions, h]

/-- **Two rows of steps**, one after the other. -/
theorem runActions_append (s : σ) (as bs : List StorageAction) :
    runActions step s (as ++ bs) =
      ((runActions step s as).1 ++ (runActions step (runActions step s as).2 bs).1,
        (runActions step (runActions step s as).2 bs).2) := by
  induction as generalizing s with
  | nil => rfl
  | cons a as ih =>
    rw [List.cons_append, runActions_cons rfl, runActions_cons rfl, ih]
    rfl

/-- The answers to a file that is put into a storage in so many pieces. -/
def allDone (pieces : List OutputPiece) : List (Except StoreFault StorageAnswer) :=
  .ok .done :: (pieces.map (fun _ => .ok .done) ++ [.ok .done])

/-- **How a file is put into a storage** through an output of a handle: which states the storage may
be in when so many bytes have been written, and the state it is in when the output is closed. -/
structure Puts (step : σ → StorageAction → Except StoreFault StorageAnswer × σ)
    (handle name : Text) (s : σ) (isOpen : Bytes → σ → Prop) (closed : Bytes → σ) : Prop where
  create : ∃ s', step s (.create handle name) = (.ok .done, s') ∧ isOpen [] s'
  piece : ∀ {written : Bytes} {s : σ} (p : OutputPiece), isOpen written s →
    ∃ s', step s (p.action handle) = (.ok .done, s') ∧ isOpen (written ++ p.bytes) s'
  close : ∀ {written : Bytes} {s : σ}, isOpen written s →
    step s (.close handle) = (.ok .done, closed written)

namespace Puts

variable {handle name : Text} {s : σ} {isOpen : Bytes → σ → Prop} {closed : Bytes → σ}

/-- Pieces go through an open output one by one. -/
theorem run_pieces (h : Puts step handle name s isOpen closed) {written : Bytes} {s' : σ}
    (hs : isOpen written s') (pieces : List OutputPiece) :
    ∃ s'', runActions step s' (pieces.map (·.action handle)) =
        (pieces.map (fun _ => .ok .done), s'') ∧
      isOpen (written ++ pieces.flatMap OutputPiece.bytes) s'' := by
  induction pieces generalizing written s' with
  | nil => exact ⟨s', rfl, by rwa [List.flatMap_nil, List.append_nil]⟩
  | cons piece pieces ih =>
    obtain ⟨s₁, hstep, hs₁⟩ := h.piece piece hs
    obtain ⟨s₂, hrun, hs₂⟩ := ih hs₁
    refine ⟨s₂, ?_, ?_⟩
    · rw [List.map_cons, runActions_cons hstep, hrun, List.map_cons]
    · rwa [List.flatMap_cons, ← List.append_assoc]

/-- **A file that is put into a storage**: every step is done. -/
theorem run (h : Puts step handle name s isOpen closed) (pieces : List OutputPiece) :
    runActions step s (StorageUse.put handle name pieces).actions =
      (allDone pieces, closed (pieces.flatMap OutputPiece.bytes)) := by
  obtain ⟨s₁, hstep, hs₁⟩ := h.create
  obtain ⟨s₂, hrun, hs₂⟩ := h.run_pieces hs₁ pieces
  rw [List.nil_append] at hs₂
  unfold StorageUse.actions allDone
  rw [runActions_cons hstep, runActions_append, hrun, runActions_cons (h.close hs₂)]
  rfl

end Puts

end Steps

/-! ## Storage in memory -/

namespace Memory

variable {m : Memory}

/-- No output is open. -/
structure Idle (m : Memory) : Prop where
  sorted : m.outputs.Sorted
  closed : ∀ {handle o}, m.outputs.get? handle = some o → o.closed = true

theorem Idle.insert (h : m.Idle) (handle : Text) {o : MemoryOutput} (ho : o.closed = true)
    (files : Table Bytes) : Idle ⟨files, m.outputs.insert handle o⟩ := by
  refine ⟨h.sorted.insert handle o, fun {key o'} hget => ?_⟩
  have hget' := h.sorted.get?_insert handle o key
  rw [hget] at hget'
  split at hget'
  · rw [Option.some.inj hget']
    exact ho
  · exact h.closed hget'.symm

/-- Dropping a closed output publishes nothing. -/
theorem Idle.drop_eq (h : m.Idle) (handle : Text) :
    m.drop handle = { m with outputs := m.outputs.erase handle } := by
  unfold drop
  cases hget : m.outputs.get? handle with
  | none => rw [h.sorted.erase_of_get?_eq_none hget]
  | some o =>
    have hclosed := h.closed hget
    simp only [publish, hclosed, if_true]

theorem Idle.drop (h : m.Idle) (handle : Text) : (m.drop handle).Idle := by
  rw [h.drop_eq]
  refine ⟨h.sorted.erase handle, fun {key o} hget => ?_⟩
  rw [h.sorted.get?_erase] at hget
  split at hget
  · cases hget
  · exact h.closed hget

/-- The storage while so many bytes have been written through an output. -/
def writing (m : Memory) (handle name : Text) (written : Bytes) : Memory :=
  { m with outputs := m.outputs.insert handle ⟨name, written, false⟩ }

/-- The storage when a file has been put into it. -/
def put (m : Memory) (handle name : Text) (content : Bytes) : Memory :=
  ⟨m.files.insert name content, m.outputs.insert handle ⟨name, [], true⟩⟩

theorem get?_writing (m : Memory) (handle name : Text) (written : Bytes) :
    (m.writing handle name written).outputs.get? handle = some ⟨name, written, false⟩ :=
  Table.get?_insert_self _ _ _

theorem Idle.create_eq (h : m.Idle) (handle name : Text) :
    m.create handle name = m.writing handle name [] := by
  unfold create
  simp only [h.drop_eq, h.sorted.insert_erase]
  rfl

theorem Idle.write_eq (h : m.Idle) (handle name : Text) (written bytes : Bytes) :
    (m.writing handle name written).write handle bytes =
      .ok (m.writing handle name (written ++ bytes)) := by
  by_cases hbytes : bytes = []
  · rw [hbytes, write_nil, List.append_nil]
  · rw [write_of_get?_eq_some (get?_writing m handle name written) hbytes]
    have hrequest : (MemoryOutput.mk name written false).request bytes =
        .ok ⟨name, written ++ bytes, false⟩ := rfl
    simp only [hrequest, Except.map, writing, h.sorted.insert_insert]

theorem Idle.close_eq (h : m.Idle) (handle name : Text) (written : Bytes) :
    (m.writing handle name written).close handle = m.put handle name written := by
  unfold close
  simp only [get?_writing, publish, Bool.false_eq_true, if_false]
  unfold writing put
  rw [h.sorted.insert_insert]

/-- **A file that is put into memory** is published when its output is closed. -/
theorem Idle.puts (h : m.Idle) (handle name : Text) :
    Puts step handle name m (fun written m' => m' = m.writing handle name written)
      (m.put handle name) where
  create := ⟨_, rfl, h.create_eq handle name⟩
  piece := by
    rintro written _ piece rfl
    cases piece with
    | flush => exact ⟨_, rfl, by rw [OutputPiece.bytes, List.append_nil]⟩
    | sync => exact ⟨_, rfl, by rw [OutputPiece.bytes, List.append_nil]⟩
    | write bytes =>
      refine ⟨_, ?_, rfl⟩
      have hwrite := h.write_eq handle name written bytes
      simp only [OutputPiece.action, step, hwrite]
      rfl
  close := by
    rintro written _ rfl
    exact Prod.ext rfl (h.close_eq handle name written)

end Memory

/-! ## Storage in a folder -/

namespace Directory

variable {d : Directory} {p q : Place} {fs : Files} {handle name : Text}

/-- No output has anything left to pass on. -/
structure Idle (d : Directory) : Prop where
  sorted : d.outputs.Sorted
  passed : ∀ {handle o}, d.outputs.get? handle = some o → o.pending = []

theorem Idle.insert (h : d.Idle) (handle : Text) {o : DirectoryOutput} (ho : o.pending = [])
    (files : Files) : Idle (d.setOutput handle (o, files)) := by
  refine ⟨h.sorted.insert handle o, fun {key o'} hget => ?_⟩
  have hget' := h.sorted.get?_insert handle o key
  change Table.get? key (d.outputs.insert handle o) = some o' at hget
  rw [hget] at hget'
  split at hget'
  · rw [Option.some.inj hget']
    exact ho
  · exact h.passed hget'.symm

theorem passOn_nil (fs : Files) (o : DirectoryOutput) : passOn fs o [] = fs := by
  unfold passOn
  rw [if_pos (by simp)]

/-- Dropping an output that has nothing left to pass on changes no file. -/
theorem Idle.drop_eq (h : d.Idle) (handle : Text) :
    d.drop handle = { d with outputs := d.outputs.erase handle } := by
  unfold drop
  cases hget : d.outputs.get? handle with
  | none => rw [h.sorted.erase_of_get?_eq_none hget]
  | some o =>
    have hpassed := h.passed hget
    simp only [flushed, hpassed, passOn_nil]

theorem Idle.drop (h : d.Idle) (handle : Text) : (d.drop handle).Idle := by
  rw [h.drop_eq]
  refine ⟨h.sorted.erase handle, fun {key o} hget => ?_⟩
  rw [h.sorted.get?_erase] at hget
  split at hget
  · cases hget
  · exact h.passed hget

/-! ### What an output passes on -/

/-- Bytes after all others. -/
theorem patched_length (content bytes : Bytes) :
    patched content content.length bytes = content ++ bytes := by
  unfold patched
  rw [List.take_length, Nat.sub_self, List.replicate_zero, List.append_nil,
    List.drop_of_length_le (Nat.le_add_right _ _), List.append_nil]

/-- **An output that so many bytes have been written to**: some of them have been passed on to the
file, the others come after them. -/
inductive Carries (fs : Files) (q : Place) (name : Text) : Bytes → DirectoryOutput × Files → Prop
  | mk (passed pending : Bytes) :
    Carries fs q name (passed ++ pending)
      (⟨name, q, passed.length, pending, false, true⟩, fs.set q (.file passed))

theorem passOn_eq (hq : q ≠ []) (passed pending bytes : Bytes) :
    passOn (fs.set q (.file passed)) ⟨name, q, passed.length, pending, false, true⟩ bytes =
      fs.set q (.file (passed ++ bytes)) := by
  unfold passOn
  cases bytes with
  | nil => rw [if_pos (by rfl), List.append_nil]
  | cons b bytes =>
    rw [if_neg (by simp)]
    simp only [Files.entry?_set_of_ne_nil fs _ hq, if_true, patched_length, Files.set_set]

theorem flushed_eq (hq : q ≠ []) (passed pending : Bytes) :
    flushed (fs.set q (.file passed)) ⟨name, q, passed.length, pending, false, true⟩ =
      (⟨name, q, (passed ++ pending).length, [], false, true⟩,
        fs.set q (.file (passed ++ pending))) := by
  unfold flushed
  rw [passOn_eq hq, List.length_append]

namespace Carries

variable {written : Bytes} {r : DirectoryOutput × Files}

theorem closed_eq (h : Carries fs q name written r) : r.1.closed = false := by
  cases h
  rfl

/-- An output that has passed on all bytes. -/
theorem of_passed (passed : Bytes) :
    Carries fs q name passed
      (⟨name, q, passed.length, [], false, true⟩, fs.set q (.file passed)) := by
  have hall : Carries fs q name (passed ++ [])
      (⟨name, q, passed.length, [], false, true⟩, fs.set q (.file passed)) := .mk passed []
  rwa [List.append_nil] at hall

/-- **An output that is flushed** has passed on all bytes. -/
theorem flushed_eq (h : Carries fs q name written r) (hq : q ≠ []) :
    flushed r.2 r.1 = (⟨name, q, written.length, [], false, true⟩, fs.set q (.file written)) := by
  obtain ⟨passed, pending⟩ := h
  exact Directory.flushed_eq hq passed pending

theorem flushed (h : Carries fs q name written r) (hq : q ≠ []) :
    Carries fs q name written (flushed r.2 r.1) := by
  rw [h.flushed_eq hq]
  exact of_passed written

/-- **More bytes** are collected, or passed on after all that has been collected. -/
theorem write (h : Carries fs q name written r) (hq : q ≠ []) (bytes : Bytes) :
    Carries fs q name (written ++ bytes) (Directory.written r.2 r.1 bytes) := by
  -- first the output makes room, unless there is some
  obtain ⟨r', hr', hcarries, hroom⟩ : ∃ r',
      (if capacity < r.1.pending.length + bytes.length then Directory.flushed r.2 r.1
        else (r.1, r.2)) = r' ∧ Carries fs q name written r' ∧
      (r'.1.pending.length + bytes.length ≤ capacity ∨ r'.1.pending = []) := by
    by_cases hfull : capacity < r.1.pending.length + bytes.length
    · rw [if_pos hfull]
      refine ⟨_, rfl, h.flushed hq, .inr ?_⟩
      rw [h.flushed_eq hq]
    · rw [if_neg hfull]
      exact ⟨_, rfl, h, .inl (Nat.not_lt.1 hfull)⟩
  unfold Directory.written
  rw [hr']
  obtain ⟨passed, pending⟩ := hcarries
  dsimp only at hroom ⊢
  by_cases hfew : bytes.length < capacity
  · rw [if_pos hfew, List.append_assoc]
    exact .mk passed (pending ++ bytes)
  · rw [if_neg hfew]
    have hnil : pending = [] := by
      rcases hroom with hroom | hnil
      · apply List.eq_nil_of_length_eq_zero
        omega
      · exact hnil
    subst hnil
    rw [passOn_eq hq, ← List.length_append, List.append_nil]
    exact of_passed (passed ++ bytes)

end Carries

/-! ### A file that is put into the folder -/

theorem setOutput_setOutput (h : d.Idle) (handle : Text) (r r' : DirectoryOutput × Files) :
    (d.setOutput handle r).setOutput handle r' = d.setOutput handle r' := by
  unfold setOutput
  rw [h.sorted.insert_insert]

theorem get?_setOutput (d : Directory) (handle : Text) (r : DirectoryOutput × Files) :
    (d.setOutput handle r).outputs.get? handle = some r.1 := Table.get?_insert_self _ _ _

/-- What is done with an open output. -/
theorem Idle.onOpen_eq (h : d.Idle) {r : DirectoryOutput × Files} (hr : r.1.closed = false)
    (f : Files → DirectoryOutput → DirectoryOutput × Files) :
    (d.setOutput handle r).onOpen handle f = .ok (d.setOutput handle (f r.2 r.1)) := by
  unfold onOpen
  simp only [get?_setOutput, hr, Bool.false_eq_true, if_false, setOutput_setOutput h]
  rfl

/-- The storage when a file has been put into it. -/
def put (d : Directory) (p : Place) (handle name : Text) (content : Bytes) : Directory :=
  d.setOutput handle
    (⟨name, p ++ [name], content.length, [], true, true⟩, d.files.set (p ++ [name]) (.file content))

theorem Idle.create_eq (h : d.Idle) (hp : d.At p) (hn : IsName name)
    (hfolder : d.files.entry? (p ++ [name]) ≠ some .folder) (handle : Text) :
    d.create handle name = .ok (d.setOutput handle
      (⟨name, p ++ [name], 0, [], false, true⟩, d.files.set (p ++ [name]) (.file []))) := by
  have hwrite : d.files.write (d.pathOf name) [] =
      .ok (d.files.set (p ++ [name]) (.file [])) := by
    rw [hp.write_eq hn]
    cases hentry : d.files.entry? (p ++ [name]) with
    | none => rfl
    | some e =>
      cases e with
      | folder => exact absurd hentry hfolder
      | file content => rfl
  have hidle : Idle { d with files := d.files.set (p ++ [name]) (.file []) } :=
    ⟨h.sorted, h.passed⟩
  unfold create
  rw [hp.find_eq hn, hwrite]
  simp only [lift, mapError_ok, ok_bind, hidle.drop_eq, h.sorted.insert_erase]
  rfl

theorem step_changed {d' : Directory} {a : StorageAction} {r : Except StoreFault Directory}
    (hstep : d.step a = d.changed r) (hr : r = .ok d') : d.step a = (.ok .done, d') := by
  rw [hstep, hr]
  rfl

/-- **A file that is put into the folder** is there from the beginning on, and holds all that has
been written when its output is closed. -/
theorem Idle.puts (h : d.Idle) (hp : d.At p) (hn : IsName name)
    (hfolder : d.files.entry? (p ++ [name]) ≠ some .folder) (handle : Text) :
    Puts step handle name d
      (fun written d' => ∃ r, Carries d.files (p ++ [name]) name written r ∧
        d' = d.setOutput handle r)
      (d.put p handle name) where
  create := by
    refine ⟨_, step_changed rfl (h.create_eq hp hn hfolder handle), _, ?_, rfl⟩
    exact Carries.mk [] []
  piece := by
    rintro bs _ piece ⟨r, hr, rfl⟩
    have hq : p ++ [name] ≠ [] := by simp
    have hflush : Carries d.files (p ++ [name]) name (bs ++ []) (flushed r.2 r.1) := by
      rw [List.append_nil]
      exact hr.flushed hq
    cases piece with
    | flush => exact ⟨_, step_changed rfl (h.onOpen_eq hr.closed_eq _), _, hflush, rfl⟩
    | sync => exact ⟨_, step_changed rfl (h.onOpen_eq hr.closed_eq _), _, hflush, rfl⟩
    | write bytes =>
      cases bytes with
      | nil => exact ⟨_, rfl, r, by rwa [OutputPiece.bytes, List.append_nil], rfl⟩
      | cons b bytes =>
        have hwrite : (d.setOutput handle r).write handle (b :: bytes) =
            .ok (d.setOutput handle (written r.2 r.1 (b :: bytes))) :=
          h.onOpen_eq hr.closed_eq fun fs o => Directory.written fs o (b :: bytes)
        exact ⟨_, step_changed rfl hwrite, _, hr.write hq (b :: bytes), rfl⟩
  close := by
    rintro written _ ⟨r, hr, rfl⟩
    have hq : p ++ [name] ≠ [] := by simp
    have hget := get?_setOutput d handle r
    have hflushed := hr.flushed_eq hq
    have hclose : (d.setOutput handle r).close handle = d.put p handle name written := by
      unfold close
      rw [hget]
      change (d.setOutput handle r).setOutput handle
        ({ (flushed r.2 r.1).1 with closed := true }, (flushed r.2 r.1).2) = _
      rw [hflushed, setOutput_setOutput h]
      rfl
    exact Prod.ext rfl hclose

/-! ### A file that is taken out of the folder -/

theorem Idle.unlinked (h : d.Idle) (q : Place) (files : Files) :
    Idle { d with files, outputs := unlinked q d.outputs } := by
  refine ⟨List.pairwise_map.2 h.sorted, fun {key o} hget => ?_⟩
  have hmap := Table.get?_map (unlink q) d.outputs key
  change Table.get? key (d.outputs.map fun x => (x.1, unlink q x.2)) = some o at hget
  rw [hmap, Option.map_eq_some_iff] at hget
  obtain ⟨o', ho', rfl⟩ := hget
  exact (h.passed ho' :)

end Directory

end Kompositum
