/-!
# Steps that may fail

When a row of steps succeeds, every step of it does.

* `bind_eq_ok`: the steps of a success.
* `bind_eq_error`: the step of a failure.
* `mapM_eq_ok`, `mapM_eq_ok_iff`: the same step along a list.
* `mapM_eq_error_iff`: a row of steps fails with its first failure.
-/

namespace Kompositum

variable {ε α β : Type}

theorem ok_bind (a : α) (f : α → Except ε β) : (Except.ok a >>= f) = f a := rfl

theorem error_bind (e : ε) (f : α → Except ε β) : (Except.error e >>= f) = .error e := rfl

theorem ite_bind {c : Prop} [Decidable c] (x y : Except ε α) (f : α → Except ε β) :
    ((if c then x else y) >>= f) = if c then x >>= f else y >>= f :=
  apply_ite (· >>= f) c x y

theorem mapError_ok {ε' : Type} (f : ε → ε') (a : α) :
    (Except.ok a : Except ε α).mapError f = .ok a := rfl

theorem mapError_eq_ok_iff {ε' : Type} {f : ε → ε'} {x : Except ε α} {a : α} :
    x.mapError f = .ok a ↔ x = .ok a := by
  cases x with
  | error e =>
    constructor
    · intro h
      cases h
    · intro h
      cases h
  | ok b => rw [mapError_ok, Except.ok.injEq, Except.ok.injEq]

/-- **A step and what follows it** succeed when both do. -/
theorem bind_eq_ok {x : Except ε α} {f : α → Except ε β} {b : β} :
    (x >>= f) = .ok b ↔ ∃ a, x = .ok a ∧ f a = .ok b := by
  cases x with
  | error e =>
    constructor
    · intro h
      exact Except.noConfusion rfl rfl (heq_of_eq h)
    · rintro ⟨a, h, -⟩
      cases h
  | ok a =>
    constructor
    · exact fun h => ⟨a, rfl, h⟩
    · rintro ⟨a', h, hf⟩
      cases h
      exact hf

/-- A step fails, or it succeeds and what follows it fails. -/
theorem bind_eq_error {x : Except ε α} {f : α → Except ε β} {e : ε} :
    (x >>= f) = .error e ↔ x = .error e ∨ ∃ a, x = .ok a ∧ f a = .error e := by
  cases x with
  | error e' =>
    rw [error_bind]
    simp
  | ok a =>
    rw [ok_bind]
    simp

/-- A row of successes. -/
theorem mapM_eq_ok {f : α → Except ε β} {g : α → β} {l : List α}
    (h : ∀ a ∈ l, f a = .ok (g a)) : l.mapM f = .ok (l.map g) := by
  induction l with
  | nil => rfl
  | cons a l ih =>
    have hrest := ih fun b hb => h b (List.mem_cons_of_mem a hb)
    rw [List.mapM_cons, h a List.mem_cons_self, ok_bind, hrest, ok_bind]
    rfl

/-- The same step along a list succeeds when it does everywhere. -/
theorem mapM_eq_ok_iff {f : α → Except ε β} {l : List α} {bs : List β} :
    l.mapM f = .ok bs ↔ l.map f = bs.map .ok := by
  induction l generalizing bs with
  | nil =>
    have hnil : ([].mapM f : Except ε (List β)) = .ok [] := rfl
    rw [hnil, Except.ok.injEq, List.map_nil, eq_comm, eq_comm (a := []), List.map_eq_nil_iff]
  | cons a l ih =>
    have hpure : ∀ (b : β) (cs : List β),
        (pure (b :: cs) : Except ε (List β)) = .ok bs ↔ bs = b :: cs :=
      fun b cs => ⟨fun h => (Except.ok.inj h).symm, fun h => h ▸ rfl⟩
    rw [List.mapM_cons, bind_eq_ok, List.map_cons]
    simp only [bind_eq_ok, hpure, ih]
    constructor
    · rintro ⟨b, hb, cs, hcs, rfl⟩
      rw [hb, hcs, List.map_cons]
    · intro h
      cases bs with
      | nil => simp at h
      | cons b cs =>
        rw [List.map_cons, List.cons.injEq] at h
        exact ⟨b, h.1, cs, h.2, rfl⟩

theorem mapM_congr {f g : α → Except ε β} {l : List α} (h : ∀ a ∈ l, f a = g a) :
    l.mapM f = l.mapM g := by
  induction l with
  | nil => rfl
  | cons a l ih =>
    have hrest := ih fun b hb => h b (List.mem_cons_of_mem a hb)
    rw [List.mapM_cons, List.mapM_cons, h a List.mem_cons_self, hrest]

/-- The failure of a step, if it fails. -/
def failure? : Except ε α → Option ε
  | .error e => some e
  | .ok _ => none

/-- **The same step along a list fails** with the first failure. -/
theorem mapM_eq_error_iff {f : α → Except ε β} {l : List α} {e : ε} :
    l.mapM f = .error e ↔ (l.findSome? fun a => failure? (f a)) = some e := by
  induction l with
  | nil =>
    have hnil : ([].mapM f : Except ε (List β)) = .ok [] := rfl
    rw [hnil, List.findSome?_nil]
    simp
  | cons a l ih =>
    rw [List.mapM_cons, List.findSome?_cons]
    cases ha : f a with
    | error e' =>
      rw [error_bind]
      simp [failure?]
    | ok b =>
      rw [ok_bind, failure?, ← ih, bind_eq_error]
      -- nothing fails after the other steps
      have hpure : ∀ bs, (pure (b :: bs) : Except ε (List β)) ≠ .error e := nofun
      exact or_iff_left fun ⟨bs, _, h⟩ => hpure bs h

end Kompositum
