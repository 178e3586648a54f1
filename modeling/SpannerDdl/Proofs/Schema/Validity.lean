import Mathlib.Tactic.MkIffOfInductiveProp
import SpannerDdl.Proofs.Schema.Document
import SpannerDdl.Schema.Validation

/-! # Schemas with valid documents

Of the rules for documents only those on empty texts and on directions can be broken by the document
of a schema; every other rule is met by the way in which the document is written. -/

set_option autoImplicit false

namespace SpannerDdl

/-! ## Values without complaints -/

/-- There is no complaint about numbered values if there is none about any of them. -/
theorem flatMap_zipIdx_eq_nil_iff {α β : Type} {xs : List α} {f : α × Nat → List β}
    {P : α → Prop} (h : ∀ p, f p = [] ↔ P p.1) : xs.zipIdx.flatMap f = [] ↔ ∀ x ∈ xs, P x := by
  have values : xs.zipIdx.map Prod.fst = xs := List.zipIdx_map_fst 0 xs
  rw [List.flatMap_eq_nil_iff]
  conv_rhs => rw [← values, List.forall_mem_map]
  exact forall₂_congr fun p _ => h p

namespace Rule

-- How one value is checked; the lemmas below lead from there to what holds of its parts.
attribute [local simp] issues memberIssues wrongType

theorem missingMembers_eq_nil_iff {required : List String} {members : Json.Members} :
    missingMembers required members = [] ↔ ∀ key ∈ required, (members.lookup key).isSome := by
  rw [missingMembers, List.map_eq_nil_iff, List.filter_eq_nil_iff]
  simp [Option.isSome_iff_ne_none]

theorem unknownMembers_eq_nil_iff {known : List String} {members : Json.Members} :
    unknownMembers known members = [] ↔ ∀ key ∈ members.map Prod.fst, key ∈ known := by
  have hsort : (unknownKeys known members).mergeSort = [] ↔ unknownKeys known members = [] := by
    rw [← List.length_eq_zero_iff, List.length_mergeSort, List.length_eq_zero_iff]
  have h : unknownMembers known members = [] ↔ unknownKeys known members = [] := by
    rw [← hsort]
    unfold unknownMembers
    split
    · rename_i e
      exact iff_of_true rfl e
    · rename_i hne
      exact iff_of_false (List.cons_ne_nil _ _) hne
  rw [h, unknownKeys, List.filter_eq_nil_iff]
  simp

theorem memberIssues_eq_nil_iff {rules : List (String × Rule)} {given : Json.Members} :
    memberIssues rules given = [] ↔
      ∀ r ∈ rules, ∀ v, given.lookup r.1 = some v → r.2.issues v = [] := by
  induction rules with
  | nil => simp
  | cons r rules ih =>
    rw [memberIssues, List.append_eq_nil_iff, ih, List.forall_mem_cons]
    refine and_congr_left fun _ => ?_
    cases given.lookup r.1 with
    | none => simp
    | some value => simp

theorem exists_members_of_issues {required : List String} {rules : List (String × Rule)}
    {value : Json} (h : (object required rules).issues value = []) :
    ∃ given, value = .obj given := by
  cases value with
  | obj given => exact ⟨given, rfl⟩
  | _ => simp at h

theorem exists_items_of_issues {item : Rule} {value : Json} (h : (array item).issues value = []) :
    ∃ items, value = .arr items := by
  cases value with
  | arr items => exact ⟨items, rfl⟩
  | _ => simp at h

theorem exists_text_of_issues {nonEmpty : Bool} {value : Json}
    (h : (text nonEmpty).issues value = []) : ∃ s, value = .str s := by
  cases value with
  | str s => exact ⟨s, rfl⟩
  | _ => simp at h

theorem issues_object_eq_nil_iff {required : List String} {rules : List (String × Rule)}
    {given : Json.Members} : (object required rules).issues (.obj given) = [] ↔
      (∀ key ∈ required, (given.lookup key).isSome) ∧
      (∀ key ∈ given.map Prod.fst, key ∈ rules.map Prod.fst) ∧
      ∀ r ∈ rules, ∀ v, given.lookup r.1 = some v → r.2.issues v = [] := by
  rw [issues, List.append_eq_nil_iff, List.append_eq_nil_iff, missingMembers_eq_nil_iff,
    unknownMembers_eq_nil_iff, memberIssues_eq_nil_iff, and_assoc]

theorem known_of_entries {keys : List String} {rules : List (String × Rule)}
    {given : Json.Members} (h : Json.Entries keys given) (hk : rules.map Prod.fst = keys) :
    ∀ key ∈ given.map Prod.fst, key ∈ rules.map Prod.fst := by
  intro key hkey
  rw [hk]
  exact h.inOrder.subset hkey

/-- Where every given key is known, only the values count. -/
theorem issues_object_of_entries {required keys : List String} {rules : List (String × Rule)}
    {given : Json.Members} (h : Json.Entries keys given) (hk : rules.map Prod.fst = keys) :
    (object required rules).issues (.obj given) = [] ↔
      (∀ key ∈ required, (given.lookup key).isSome) ∧
      ∀ r ∈ rules, ∀ v, given.lookup r.1 = some v → r.2.issues v = [] := by
  rw [issues_object_eq_nil_iff, and_iff_right (known_of_entries h hk)]

theorem issues_array_eq_nil_iff {item : Rule} {items : List Json} :
    (array item).issues (.arr items) = [] ↔ ∀ v ∈ items, item.issues v = [] := by
  rw [issues]
  exact flatMap_zipIdx_eq_nil_iff fun _ => List.map_eq_nil_iff

theorem forall_mem_of_ne_nil_iff {α : Type} {xs : List α} {p : α → Prop} :
    (¬xs = [] → ∀ x ∈ xs, p x) ↔ ∀ x ∈ xs, p x :=
  ⟨fun h x hx => h (List.ne_nil_of_mem hx) x hx, fun h _ => h⟩

theorem issues_map_eq_nil_iff {α : Type} {item : Rule} {write : α → Json} {xs : List α} :
    (array item).issues (.arr (xs.map write)) = [] ↔ ∀ x ∈ xs, item.issues (write x) = [] := by
  rw [issues_array_eq_nil_iff, List.forall_mem_map]

@[simp] theorem issues_text_eq_nil_iff {nonEmpty : Bool} {s : String} :
    (text nonEmpty).issues (.str s) = [] ↔ (nonEmpty = true → s ≠ "") := by
  rw [issues]
  cases nonEmpty with
  | false => simp
  | true => simp

@[simp] theorem issues_flag (b : Bool) : flag.issues (.bool b) = [] := by
  rw [issues]

@[simp] theorem issues_oneOf_eq_nil_iff {choices : List String} {s : String} :
    (oneOf choices).issues (.str s) = [] ↔ s ∈ choices := by
  rw [issues]
  simp

end Rule

/-- Without references a document is valid if there are no complaints about its structure. -/
theorem validate_eq_nil_iff {doc : Json} :
    validate doc false = [] ↔ documentRule.issues doc = [] := by
  rw [validate, Bool.and_false, if_neg Bool.false_ne_true, Rule.report_eq_nil_iff]

/-! ## Parts of a schema -/

/-- A column whose document is valid. -/
@[mk_iff]
structure Column.IsValid (c : Column) : Prop where
  named : c.name ≠ ""
  typed : c.type ≠ ""

/-- A table whose document is valid. -/
@[mk_iff]
structure Table.IsValid (t : Table) : Prop where
  named : t.name ≠ ""
  columns : ∀ c ∈ t.columns, c.IsValid
  keyNamed : ∀ name ∈ t.primaryKey, name ≠ ""
  policyNamed : ∀ p ∈ t.policy, p.column ≠ ""

/-- A foreign key whose document is valid. -/
@[mk_iff]
structure ForeignKey.IsValid (k : ForeignKey) : Prop where
  ofTable : k.referencingTable ≠ ""
  toTable : k.referencedTable ≠ ""

/-- An index key whose document is valid. -/
@[mk_iff]
structure IndexKey.IsValid (k : IndexKey) : Prop where
  named : k.name ≠ ""
  directed : k.direction ∈ ["", "ASC", "DESC"]

/-- An index whose document is valid. -/
@[mk_iff]
structure Index.IsValid (i : Index) : Prop where
  named : i.name ≠ ""
  ofTable : i.table ≠ ""
  columns : ∀ k ∈ i.columns, k.IsValid

/-- A schema whose document is valid. -/
@[mk_iff]
structure Schema.IsValid (s : Schema) : Prop where
  tables : ∀ t ∈ s.tables, t.IsValid
  foreignKeys : ∀ k ∈ s.foreignKeys, k.IsValid
  indexes : ∀ i ∈ s.indexes, i.IsValid

theorem Column.issues_toJson {c : Column} : columnRule.issues c.toJson = [] ↔ c.IsValid := by
  refine (Rule.issues_object_of_entries c.entries_toJson rfl).trans ?_
  simp [toJson, Json.members, List.lookup_append, List.lookup_cons, Json.lookup_memberIf, nameRule,
    isValid_iff]

theorem RowDeletionPolicy.issues_toJson {p : RowDeletionPolicy} :
    policyRule.issues p.toJson = [] ↔ p.column ≠ "" := by
  refine (Rule.issues_object_of_entries p.entries_toJson rfl).trans ?_
  simp [toJson, Json.members, List.lookup_cons, nameRule]

theorem Table.issues_toJson {t : Table} : tableRule.issues t.toJson = [] ↔ t.IsValid := by
  refine (Rule.issues_object_of_entries t.entries_toJson rfl).trans ?_
  cases hp : t.policy with
  | none =>
    simp [toJson, Json.members, List.lookup_append, List.lookup_cons, Json.lookup_memberIf,
      Json.ofTexts, nameRule, Rule.issues_map_eq_nil_iff, Column.issues_toJson, isValid_iff, hp]
  | some p =>
    simp [toJson, Json.members, List.lookup_append, List.lookup_cons, Json.lookup_memberIf,
      Json.ofTexts, nameRule, Rule.issues_map_eq_nil_iff, Column.issues_toJson,
      RowDeletionPolicy.issues_toJson, isValid_iff, hp]

theorem ForeignKey.issues_toJson {k : ForeignKey} :
    foreignKeyRule.issues k.toJson = [] ↔ k.IsValid := by
  refine (Rule.issues_object_of_entries k.entries_toJson rfl).trans ?_
  simp [toJson, Json.members, List.lookup_cons, Json.ofTexts, nameRule, textsRule,
    Rule.issues_map_eq_nil_iff, isValid_iff]

theorem IndexKey.issues_toJson {k : IndexKey} :
    indexKeyRule.issues k.toJson = [] ↔ k.IsValid := by
  refine (Rule.issues_object_of_entries k.entries_toJson rfl).trans ?_
  simp [toJson, Json.members, List.lookup_cons, Json.lookup_memberIf, nameRule, isValid_iff]
  intro _
  by_cases hd : k.direction = ""
  · exact .inr (.inl hd)
  · exact .inl hd

theorem Index.issues_toJson {i : Index} : indexRule.issues i.toJson = [] ↔ i.IsValid := by
  refine (Rule.issues_object_of_entries i.entries_toJson rfl).trans ?_
  simp [toJson, Json.members, List.lookup_append, List.lookup_cons, Json.lookup_memberIf,
    Json.ofTexts, nameRule, textsRule, Rule.issues_map_eq_nil_iff, IndexKey.issues_toJson,
    isValid_iff]

/-- The document of a schema is valid exactly if its names are given and its directions known. -/
theorem Schema.validate_toJson_eq_nil_iff {s : Schema} :
    validate s.toJson false = [] ↔ s.IsValid := by
  refine validate_eq_nil_iff.trans ((Rule.issues_object_of_entries s.entries_toJson rfl).trans ?_)
  simp [toJson, Json.members, List.lookup_append, List.lookup_cons, Json.lookup_memberIf,
    Rule.issues_map_eq_nil_iff, Table.issues_toJson, ForeignKey.issues_toJson,
    Index.issues_toJson, isValid_iff]
  intro _
  -- A list that is left out has no items.
  rw [Rule.forall_mem_of_ne_nil_iff, Rule.forall_mem_of_ne_nil_iff]

end SpannerDdl
