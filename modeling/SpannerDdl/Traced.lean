/-! # Results with notes

A computation may leave notes on its way, whether it succeeds or fails in the end. Nothing is
noted behind a failure.

* `Traced ν ε α`: notes in order, and a value or an error.
* `Traced.note n`, `Traced.fail e`, `Traced.ofExcept r`: the ways to start one.
-/

set_option autoImplicit false

namespace SpannerDdl

/-- Notes in order, and a value or an error. -/
structure Traced (ν ε α : Type) where
  notes : List ν
  result : Except ε α
  deriving Repr

namespace Traced

variable {ν ε α β : Type}

/-- A value without notes. -/
def done (a : α) : Traced ν ε α := ⟨[], .ok a⟩

/-- A failure without notes. -/
def fail (e : ε) : Traced ν ε α := ⟨[], .error e⟩

/-- A single note. -/
def note (n : ν) : Traced ν ε Unit := ⟨[n], .ok ()⟩

/-- A result without notes. -/
def ofExcept (r : Except ε α) : Traced ν ε α := ⟨[], r⟩

/-- Goes on with the value, if there is one. -/
def andThen (t : Traced ν ε α) (f : α → Traced ν ε β) : Traced ν ε β :=
  match t.result with
  | .ok a => ⟨t.notes ++ (f a).notes, (f a).result⟩
  | .error e => ⟨t.notes, .error e⟩

instance : Monad (Traced ν ε) where
  pure := done
  bind := andThen

/-- The same result with another kind of error. -/
def mapError {ε' : Type} (f : ε → ε') (t : Traced ν ε α) : Traced ν ε' α :=
  ⟨t.notes, t.result.mapError f⟩

@[simp] theorem notes_pure (a : α) : (pure a : Traced ν ε α).notes = [] := rfl

@[simp] theorem result_ofExcept (r : Except ε α) :
    (ofExcept r : Traced ν ε α).result = r := rfl

@[simp] theorem result_pure (a : α) : (pure a : Traced ν ε α).result = .ok a := rfl

theorem bind_of_ok {t : Traced ν ε α} {a : α} (f : α → Traced ν ε β) (h : t.result = .ok a) :
    t >>= f = ⟨t.notes ++ (f a).notes, (f a).result⟩ := by
  show andThen t f = _
  simp [andThen, h]

theorem bind_of_error {t : Traced ν ε α} {e : ε} (f : α → Traced ν ε β)
    (h : t.result = .error e) : t >>= f = ⟨t.notes, .error e⟩ := by
  show andThen t f = _
  simp [andThen, h]

theorem result_bind (t : Traced ν ε α) (f : α → Traced ν ε β) :
    (t >>= f).result = t.result.bind fun a => (f a).result := by
  cases h : t.result with
  | ok a => rw [bind_of_ok f h]; rfl
  | error e => rw [bind_of_error f h]; rfl

theorem result_bind_eq_ok_iff {t : Traced ν ε α} {f : α → Traced ν ε β} {b : β} :
    (t >>= f).result = .ok b ↔ ∃ a, t.result = .ok a ∧ (f a).result = .ok b := by
  cases h : t.result with
  | ok a => simp [bind_of_ok f h]
  | error e => simp [bind_of_error f h]

theorem notes_bind_of_ok {t : Traced ν ε α} {a : α} (f : α → Traced ν ε β)
    (h : t.result = .ok a) : (t >>= f).notes = t.notes ++ (f a).notes := by
  rw [bind_of_ok f h]

/-- What holds of the notes of both parts holds of all. -/
theorem forall_notes_bind {p : ν → Prop} {t : Traced ν ε α} {f : α → Traced ν ε β}
    (ht : ∀ n ∈ t.notes, p n) (hf : ∀ a, ∀ n ∈ (f a).notes, p n) : ∀ n ∈ (t >>= f).notes, p n := by
  cases h : t.result with
  | ok a =>
    rw [bind_of_ok f h]
    exact fun n hn => (List.mem_append.1 hn).elim (ht n) (hf a n)
  | error e =>
    rw [bind_of_error f h]
    exact ht

end Traced

end SpannerDdl
