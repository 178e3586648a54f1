/-! # Taking texts apart at a separator

* `eq_of_append_cons_eq`: what stands behind the last separator is given by the text.
* `intercalate_inj`: pieces without the separator are given by the text that they make up.
* `takeWhile_append_of_stop`, `dropWhile_append_of_stop`: characters of a class end where one stands
  that is not of the class.
* `toString_nat_inj`, `notMem_toString_nat`: numbers are given by their digits, and a separator that
  is no digit does not stand in them. -/

set_option autoImplicit false

namespace SpannerDdl.Text

theorem eq_of_append_cons_eq {α : Type} {a : α} {xs ys zs ws : List α}
    (h : xs ++ a :: zs = ys ++ a :: ws) (hz : a ∉ zs) (hw : a ∉ ws) : zs = ws := by
  rcases List.append_eq_append_iff.1 h with ⟨as, -, rest⟩ | ⟨as, -, rest⟩
  · cases as with
    | nil => exact (List.cons.inj rest).2
    | cons b as =>
      rw [List.cons_append, List.cons.injEq] at rest
      exact absurd (rest.2 ▸ List.mem_append_right as List.mem_cons_self) hz
  · cases as with
    | nil => exact (List.cons.inj rest).2.symm
    | cons b as =>
      rw [List.cons_append, List.cons.injEq] at rest
      exact absurd (rest.2 ▸ List.mem_append_right as List.mem_cons_self) hw

section
variable {separator : String} {a : Char} (single : separator.toList = [a])
include single

theorem splitOn_intercalate {pieces : List String} (ne : pieces ≠ [])
    (free : ∀ piece ∈ pieces, a ∉ piece.toList) :
    (separator.intercalate pieces).toList.splitOn a = pieces.map String.toList := by
  rw [String.toList_intercalate, single]
  refine List.splitOn_intercalate a ?_ ?_
  · intro l hl
    obtain ⟨piece, hp, rfl⟩ := List.mem_map.1 hl
    exact free piece hp
  · rwa [Ne, List.map_eq_nil_iff]

theorem intercalate_inj {pieces pieces' : List String} (ne : pieces ≠ []) (ne' : pieces' ≠ [])
    (free : ∀ piece ∈ pieces, a ∉ piece.toList) (free' : ∀ piece ∈ pieces', a ∉ piece.toList)
    (h : separator.intercalate pieces = separator.intercalate pieces') : pieces = pieces' := by
  have same : pieces.map String.toList = pieces'.map String.toList := by
    rw [← splitOn_intercalate single ne free, ← splitOn_intercalate single ne' free', h]
  exact List.map_inj_right (fun _ _ e => String.toList_inj.1 e) |>.1 same

end

/-! ## Classes of characters -/

section
variable {α : Type} {p : α → Bool} {xs rest : List α} (all : ∀ a ∈ xs, p a = true)
  (stop : ∀ a ∈ rest.head?, p a = false)
include all stop

theorem takeWhile_append_of_stop : (xs ++ rest).takeWhile p = xs := by
  rw [List.takeWhile_append_of_pos all]
  cases rest with
  | nil => simp
  | cons a rest => simp [stop a rfl]

theorem dropWhile_append_of_stop : (xs ++ rest).dropWhile p = rest := by
  rw [List.dropWhile_append_of_pos all]
  cases rest with
  | nil => rfl
  | cons a rest => simp [stop a rfl]

end

/-! ## Numbers -/

theorem toString_nat_inj {m n : Nat} (h : (toString m).toList = (toString n).toList) : m = n := by
  rw [Nat.toString_eq_repr, Nat.toString_eq_repr, Nat.toList_repr, Nat.toList_repr] at h
  have value := congrArg (fun digits => Nat.ofDigitChars 10 digits 0) h
  simpa using value

theorem notMem_toString_nat {a : Char} (h : a.isDigit = false) (n : Nat) :
    a ∉ (toString n).toList := by
  intro ha
  rw [Nat.toString_eq_repr, Nat.toList_repr] at ha
  rw [Nat.isDigit_of_mem_toDigits (by decide) (by decide) ha] at h
  cases h

end SpannerDdl.Text
