import Mathlib.Data.List.Forall2

/-! # Results and lists of results

A result that is mapped has a value just if it had one before. When every item of a list has a
result of its own, these results make up the result of the list.

* `ReturnsIf isFault p r`: when there is a result, and what it is otherwise. -/

set_option autoImplicit false

namespace SpannerDdl

variable {ε α β : Type} {f : α → Except ε β}

theorem map_eq_ok_iff {g : α → β} {r : Except ε α} {b : β} :
    r.map g = .ok b ↔ ∃ a, r = .ok a ∧ g a = b := by
  cases r with
  | ok a => simp [Except.map]
  | error e => simp [Except.map]

theorem mapError_eq_ok_iff {ε' : Type} {g : ε → ε'} {r : Except ε α} {a : α} :
    r.mapError g = .ok a ↔ r = .ok a := by
  cases r with
  | ok a' => simp [Except.mapError]
  | error e => simp [Except.mapError]

theorem bind_map {γ : Type} (r : Except ε α) (g : α → β) (h : β → Except ε γ) :
    (r.map g).bind h = r.bind fun a => h (g a) := by
  cases r <;> rfl

theorem mapM_eq_ok_iff {xs : List α} {ys : List β} :
    xs.mapM f = .ok ys ↔ List.Forall₂ (fun x y => f x = .ok y) xs ys := by
  induction xs generalizing ys with
  | nil =>
    rw [List.mapM_nil, List.forall₂_nil_left_iff]
    simp [pure, Except.pure, eq_comm]
  | cons x xs ih =>
    rw [List.mapM_cons, List.forall₂_cons_left_iff]
    cases hx : f x with
    | error e => simp [bind, Except.bind]
    | ok y =>
      cases hxs : xs.mapM f with
      | error e =>
        have s1 : ∀ zs, ¬ List.Forall₂ (fun x y => f x = .ok y) xs zs := by
          intro zs hz
          rw [ih.2 hz] at hxs
          cases hxs
        simp [bind, Except.bind, s1]
      | ok zs =>
        have s1 : ∀ zs', List.Forall₂ (fun x y => f x = .ok y) xs zs' ↔ zs = zs' := by
          intro zs'
          rw [← ih, hxs, Except.ok.injEq]
        simp [bind, Except.bind, pure, Except.pure, s1, eq_comm]

theorem mapM_eq_ok_map {xs : List α} {g : α → β} (h : ∀ x ∈ xs, f x = .ok (g x)) :
    xs.mapM f = .ok (xs.map g) := by
  rw [mapM_eq_ok_iff, List.forall₂_map_right_iff]
  exact List.forall₂_same.2 h

theorem filterMap_toOption_of_mapM {xs : List α} {ys : List β} (h : xs.mapM f = .ok ys) :
    (xs.filterMap fun x => (f x).toOption) = ys := by
  rw [mapM_eq_ok_iff] at h
  induction h with
  | nil => rfl
  | cons hx _ ih => rw [List.filterMap_cons, hx, ← ih]; rfl

theorem toOption_eq_some_iff {r : Except ε α} {a : α} : r.toOption = some a ↔ r = .ok a := by
  cases r with
  | error e => simp [Except.toOption]
  | ok a' => simp [Except.toOption]

/-- If every item has a result, the list has one. -/
theorem exists_mapM_eq_ok {xs : List α} (h : ∀ x ∈ xs, ∃ y, f x = .ok y) :
    ∃ ys, xs.mapM f = .ok ys := by
  induction xs with
  | nil => exact ⟨[], rfl⟩
  | cons x xs ih =>
    obtain ⟨y, hy⟩ := h x List.mem_cons_self
    obtain ⟨ys, hys⟩ := ih fun x hx => h x (List.mem_cons_of_mem _ hx)
    exact ⟨y :: ys, mapM_eq_ok_iff.2 (.cons hy (mapM_eq_ok_iff.1 hys))⟩

/-- Every result comes from an item. -/
theorem exists_mem_of_mapM {xs : List α} {ys : List β} (h : xs.mapM f = .ok ys) {y : β}
    (hy : y ∈ ys) : ∃ x ∈ xs, f x = .ok y := by
  rw [← filterMap_toOption_of_mapM h] at hy
  obtain ⟨x, hx, hxy⟩ := List.mem_filterMap.1 hy
  exact ⟨x, hx, toOption_eq_some_iff.1 hxy⟩

/-- The error of a list is the error of an item. -/
theorem exists_mem_of_mapM_error {xs : List α} {e : ε} (h : xs.mapM f = .error e) :
    ∃ x ∈ xs, f x = .error e := by
  induction xs with
  | nil => cases h
  | cons x xs ih =>
    rw [List.mapM_cons] at h
    cases hx : f x with
    | error e' =>
      rw [hx] at h
      cases h
      exact ⟨x, List.mem_cons_self, hx⟩
    | ok y =>
      cases hxs : xs.mapM f with
      | error e' =>
        rw [hx, hxs] at h
        cases h
        obtain ⟨x', mem, hx'⟩ := ih hxs
        exact ⟨x', List.mem_cons_of_mem _ mem, hx'⟩
      | ok ys =>
        rw [hx, hxs] at h
        cases h

/-! ## When there is a result -/

/-- A result that is there exactly if `p` holds, and a fault of some kinds if not. -/
def ReturnsIf (isFault : ε → Prop) (p : Prop) (r : Except ε α) : Prop :=
  p ∧ (∃ a, r = .ok a) ∨ ¬ p ∧ ∃ e, isFault e ∧ r = .error e

namespace ReturnsIf

variable {isFault : ε → Prop} {p q : Prop} {r : Except ε α}

theorem ok (hp : p) (a : α) : ReturnsIf isFault p (.ok a : Except ε α) := .inl ⟨hp, a, rfl⟩

theorem error (hp : ¬ p) {e : ε} (he : isFault e) : ReturnsIf isFault p (.error e : Except ε α) :=
  .inr ⟨hp, e, he, rfl⟩

theorem congr (h : p ↔ q) (hr : ReturnsIf isFault p r) : ReturnsIf isFault q r := propext h ▸ hr

theorem map (f : α → β) (hr : ReturnsIf isFault p r) : ReturnsIf isFault p (r.map f) := by
  obtain ⟨hp, a, rfl⟩ | ⟨hp, e, he, rfl⟩ := hr
  · exact .ok hp (f a)
  · exact .error hp he

theorem mapError {ε' : Type} {isFault' : ε' → Prop} {g : ε → ε'}
    (h : ∀ e, isFault e → isFault' (g e)) (hr : ReturnsIf isFault p r) :
    ReturnsIf isFault' p (r.mapError g) := by
  obtain ⟨hp, a, rfl⟩ | ⟨hp, e, he, rfl⟩ := hr
  · exact .ok hp a
  · exact .error hp (h e he)

/-- One result is needed after the other. -/
theorem bind {f : α → Except ε β} (hr : ReturnsIf isFault p r)
    (hf : ∀ a, r = .ok a → ReturnsIf isFault q (f a)) : ReturnsIf isFault (p ∧ q) (r.bind f) := by
  obtain ⟨hp, a, rfl⟩ | ⟨hp, e, he, rfl⟩ := hr
  · exact (hf a rfl).congr (and_iff_right hp).symm
  · exact .error (fun h => hp h.1) he

theorem exists_iff (hr : ReturnsIf isFault p r) : (∃ a, r = .ok a) ↔ p := by
  obtain ⟨hp, a, rfl⟩ | ⟨hp, e, he, rfl⟩ := hr
  · exact iff_of_true ⟨a, rfl⟩ hp
  · exact iff_of_false (by simp) hp

theorem isFault_of_error (hr : ReturnsIf isFault p r) {e : ε} (h : r = .error e) : isFault e := by
  subst h
  obtain ⟨_, a, ha⟩ | ⟨_, e', he, eq⟩ := hr
  · cases ha
  · cases eq
    exact he

end ReturnsIf

end SpannerDdl
