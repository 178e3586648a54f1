import SpannerDdl.Proofs.Except
import SpannerDdl.Yaml.Document

/-! # Values in messages

Everything can be shown but an integer of too many digits, and what holds one.

* `Tree.Holds t n`: an integer somewhere in a value.
* `Tree.IsShowable t`: no integer in a value has too many digits.
* `Tree.returnsIf_plain`: what becomes of showing a value. -/

set_option autoImplicit false

namespace SpannerDdl.Yaml

open Text (CodePoints)

/-! ## Integers in values -/

/-- An integer that has no more digits than are written down. -/
def IsShort (n : Int) : Prop := (Nat.toDigits 10 n.natAbs).length ≤ Text.digitLimit

theorem decimal?_of_isShort {n : Int} (h : IsShort n) : Text.decimal? n = some (toString n) :=
  if_neg fun long =>
    Nat.not_lt_of_le h ((Text.pow_le_iff_lt_length_toDigits (by decide) n.natAbs).1 long)

theorem decimal?_of_not_isShort {n : Int} (h : ¬ IsShort n) : Text.decimal? n = none :=
  if_pos ((Text.pow_le_iff_lt_length_toDigits (by decide) n.natAbs).2 (Nat.lt_of_not_le h))

/-- An integer in a value: the value itself, a key, or in a part of it. -/
inductive Tree.Holds : Tree → Int → Prop
  | here (n : Int) : Holds (.scalar (.int n)) n
  | item {items : List Tree} {t : Tree} {n : Int} (mem : t ∈ items) (holds : Holds t n) :
    Holds (.list items) n
  | first {items : List (Tree × Tree)} {p : Tree × Tree} {n : Int} (mem : p ∈ items)
    (holds : Holds p.1 n) : Holds (.pairs items) n
  | second {items : List (Tree × Tree)} {p : Tree × Tree} {n : Int} (mem : p ∈ items)
    (holds : Holds p.2 n) : Holds (.pairs items) n
  | key {items : List (Scalar × Tree)} {p : Scalar × Tree} {n : Int} (mem : p ∈ items)
    (eq : p.1 = .int n) : Holds (.map items) n
  | value {items : List (Scalar × Tree)} {p : Scalar × Tree} {n : Int} (mem : p ∈ items)
    (holds : Holds p.2 n) : Holds (.map items) n
  | member {members : List Scalar} {n : Int} (mem : .int n ∈ members) : Holds (.set members) n

/-- A scalar that is no integer of too many digits. -/
def Scalar.IsShowable (s : Scalar) : Prop := ∀ n, s = .int n → IsShort n

/-- A value in which no integer has too many digits. -/
def Tree.IsShowable (t : Tree) : Prop := ∀ n, t.Holds n → IsShort n

namespace Tree

@[simp] theorem isShowable_scalar {s : Scalar} :
    (Tree.scalar s).IsShowable ↔ s.IsShowable := by
  constructor
  · intro h n eq
    subst eq
    exact h n (.here n)
  · rintro h n ⟨⟩
    exact h n rfl

@[simp] theorem isShowable_list {items : List Tree} :
    (Tree.list items).IsShowable ↔ ∀ t ∈ items, t.IsShowable := by
  constructor
  · exact fun h t mem n holds => h n (.item mem holds)
  · rintro h n ⟨⟩
    next t mem holds => exact h t mem n holds

@[simp] theorem isShowable_pairs {items : List (Tree × Tree)} :
    (Tree.pairs items).IsShowable ↔ ∀ p ∈ items, p.1.IsShowable ∧ p.2.IsShowable := by
  constructor
  · exact fun h p mem =>
      ⟨fun n holds => h n (.first mem holds), fun n holds => h n (.second mem holds)⟩
  · rintro h n ⟨⟩
    next p mem holds => exact (h p mem).1 n holds
    next p mem holds => exact (h p mem).2 n holds

@[simp] theorem isShowable_map {items : List (Scalar × Tree)} :
    (Tree.map items).IsShowable ↔ ∀ p ∈ items, p.1.IsShowable ∧ p.2.IsShowable := by
  constructor
  · exact fun h p mem => ⟨fun n eq => h n (.key mem eq), fun n holds => h n (.value mem holds)⟩
  · rintro h n ⟨⟩
    next p mem eq => exact (h p mem).1 n eq
    next p mem holds => exact (h p mem).2 n holds

@[simp] theorem isShowable_set {members : List Scalar} :
    (Tree.set members).IsShowable ↔ ∀ s ∈ members, s.IsShowable := by
  constructor
  · rintro h s mem n rfl
    exact h n (.member mem)
  · rintro h n ⟨⟩
    next mem => exact h _ mem n rfl

@[simp] theorem isShowable_again (isMap : Bool) : (Tree.again isMap).IsShowable := by
  rintro n ⟨⟩

end Tree

/-! ## Showing -/

/-- The fault of an integer that is too large to be shown. -/
def Fault.IsTooLarge (f : Fault) : Prop := f = .tooLargeToShow

namespace Scalar

theorem returnsIf_literal (s : Scalar) : ReturnsIf Fault.IsTooLarge s.IsShowable s.literal := by
  cases s with
  | int n =>
    by_cases short : IsShort n
    · have isShowable : (Scalar.int n).IsShowable := by
        rintro m ⟨⟩
        exact short
      unfold literal
      simp only [decimal?_of_isShort short]
      exact .ok isShowable _
    · unfold literal
      simp only [decimal?_of_not_isShort short]
      exact .error (fun h => short (h n rfl)) rfl
  | bool b => cases b <;> exact .ok (by rintro n ⟨⟩) _
  | _ => exact .ok (by rintro n ⟨⟩) _

theorem returnsIf_plain (s : Scalar) : ReturnsIf Fault.IsTooLarge s.IsShowable s.plain := by
  unfold plain
  cases s with
  | str text => exact .ok (by rintro n ⟨⟩) _
  | date d => exact .ok (by rintro n ⟨⟩) _
  | moment m => exact .ok (by rintro n ⟨⟩) _
  | _ => exact (returnsIf_literal _).map _

end Scalar

namespace Tree

theorem returnsIf_members (members : List Scalar) :
    ReturnsIf Fault.IsTooLarge (∀ s ∈ members, s.IsShowable) (members.mapM Scalar.literal) := by
  induction members with
  | nil => exact .ok (by simp) _
  | cons s members ih =>
    rw [List.mapM_cons]
    refine (s.returnsIf_literal.bind fun text _ => ?_).congr List.forall_mem_cons.symm
    exact ih.map (text :: ·)

mutual

/-- A value can be shown exactly if every integer in it can. -/
theorem returnsIf_literal (t : Tree) : ReturnsIf Fault.IsTooLarge t.IsShowable t.literal := by
  match t with
  | .scalar s =>
    rw [literal]
    exact s.returnsIf_literal.congr isShowable_scalar.symm
  | .list items =>
    rw [literal]
    exact ((returnsIf_literals items).map _).congr isShowable_list.symm
  | .pairs items =>
    rw [literal]
    exact ((returnsIf_tupleLiterals items).map _).congr isShowable_pairs.symm
  | .map items =>
    rw [literal]
    exact ((returnsIf_pairLiterals items).map _).congr isShowable_map.symm
  | .set [] => exact .ok (by simp) _
  | .set (s :: members) =>
    rw [literal]
    exact ((returnsIf_members (s :: members)).map _).congr isShowable_set.symm
  | .again true => exact .ok (isShowable_again true) _
  | .again false => exact .ok (isShowable_again false) _

theorem returnsIf_literals (items : List Tree) :
    ReturnsIf Fault.IsTooLarge (∀ t ∈ items, t.IsShowable) (literals items) := by
  match items with
  | [] => exact .ok (by simp) _
  | item :: items =>
    rw [literals]
    refine ((returnsIf_literal item).bind fun text _ => ?_).congr List.forall_mem_cons.symm
    exact (returnsIf_literals items).map (text :: ·)

theorem returnsIf_tupleLiterals (items : List (Tree × Tree)) :
    ReturnsIf Fault.IsTooLarge (∀ p ∈ items, p.1.IsShowable ∧ p.2.IsShowable)
      (tupleLiterals items) := by
  match items with
  | [] => exact .ok (by simp) _
  | (first, second) :: items =>
    rw [tupleLiterals]
    refine ((returnsIf_literal first).bind fun text _ =>
      (returnsIf_literal second).bind fun text' _ =>
      (returnsIf_tupleLiterals items).map (enclosed "(" ")" [text, text'] :: ·)).congr ?_
    rw [List.forall_mem_cons, and_assoc]

theorem returnsIf_pairLiterals (items : List (Scalar × Tree)) :
    ReturnsIf Fault.IsTooLarge (∀ p ∈ items, p.1.IsShowable ∧ p.2.IsShowable)
      (pairLiterals items) := by
  match items with
  | [] => exact .ok (by simp) _
  | (key, value) :: items =>
    rw [pairLiterals]
    refine (key.returnsIf_literal.bind fun text _ => (returnsIf_literal value).bind fun text' _ =>
      (returnsIf_pairLiterals items).map ((text ++ ": " ++ text') :: ·)).congr ?_
    rw [List.forall_mem_cons, and_assoc]

end

/-- A value has a text exactly if every integer in it can be shown. -/
theorem returnsIf_plain (t : Tree) : ReturnsIf Fault.IsTooLarge t.IsShowable t.plain := by
  cases t with
  | scalar s => exact s.returnsIf_plain.congr isShowable_scalar.symm
  | _ => exact (returnsIf_literal _).map _

end Tree

end SpannerDdl.Yaml
