import SpannerDdl.Schema.Conversion

/-! # Lists of names

* `identNames` leaves out exactly the empty names.
* `firstOccurrences` keeps of each name its first occurrence: it is `List.eraseDups`, and it
  commutes with leaving out names.
* `intercalate_ne`: names that are not empty make up a text that is not empty.
-/

set_option autoImplicit false

namespace SpannerDdl

theorem mem_identNames {is : List Ident} {name : String} :
    name ∈ identNames is ↔ name ≠ "" ∧ ∃ i ∈ is, i.name = name := by
  unfold identNames
  rw [List.mem_filter, List.mem_map, bne_iff_ne, and_comm]

theorem empty_notMem_identNames (is : List Ident) : "" ∉ identNames is := by
  rw [mem_identNames]
  exact fun h => h.1 rfl

theorem filter_firstOccurrences (p : String → Bool) (names : List String) :
    (firstOccurrences names).filter p = firstOccurrences (names.filter p) := by
  induction names with
  | nil => rfl
  | cons name names ih =>
    have s1 : ((firstOccurrences names).filter (· != name)).filter p =
        (firstOccurrences (names.filter p)).filter (· != name) := by
      rw [← ih, List.filter_filter, List.filter_filter]
      exact List.filter_congr fun x _ => Bool.and_comm ..
    cases hp : p name with
    | true => rw [firstOccurrences, List.filter_cons, List.filter_cons, hp, if_pos rfl, if_pos rfl,
        firstOccurrences, s1]
    | false =>
      have s2 : ∀ x ∈ firstOccurrences (names.filter p), (x != name) = true := by
        intro x hx
        rw [← ih, List.mem_filter] at hx
        rw [bne_iff_ne]
        rintro rfl
        rw [hp] at hx
        exact Bool.false_ne_true hx.2
      rw [firstOccurrences, List.filter_cons, List.filter_cons, hp, if_neg Bool.false_ne_true,
        if_neg Bool.false_ne_true, s1, List.filter_eq_self.2 s2]

theorem firstOccurrences_eq_eraseDups (names : List String) :
    firstOccurrences names = names.eraseDups := by
  match names with
  | [] => rfl
  | name :: names =>
    have : (names.filter fun x => !x == name).length ≤ names.length := List.length_filter_le ..
    rw [firstOccurrences, filter_firstOccurrences, List.eraseDups_cons]
    exact congrArg _ (firstOccurrences_eq_eraseDups _)
termination_by names.length
decreasing_by simp only [List.length_cons]; exact Nat.lt_succ_of_le this

theorem mem_firstOccurrences {names : List String} {name : String} :
    name ∈ firstOccurrences names ↔ name ∈ names := by
  rw [firstOccurrences_eq_eraseDups, List.mem_eraseDups]

theorem nodup_firstOccurrences (names : List String) : (firstOccurrences names).Nodup := by
  induction names with
  | nil => exact List.nodup_nil
  | cons name names ih =>
    rw [firstOccurrences, List.nodup_cons, List.mem_filter]
    exact ⟨fun h => by simp at h, ih.filter _⟩

theorem intercalate_ne {separator : String} {pieces : List String} (h : pieces ≠ [])
    (given : ∀ piece ∈ pieces, piece ≠ "") : separator.intercalate pieces ≠ "" := by
  obtain ⟨piece, pieces, rfl⟩ := List.exists_cons_of_ne_nil h
  have hp := given piece List.mem_cons_self
  cases pieces with
  | nil => rwa [String.intercalate_singleton]
  | cons next pieces =>
    rw [String.intercalate_cons_cons, Ne, String.append_eq_empty_iff, String.append_eq_empty_iff]
    exact fun e => hp e.1.1

end SpannerDdl
