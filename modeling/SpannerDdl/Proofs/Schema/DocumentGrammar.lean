import Mathlib.Data.List.Basic
import SpannerDdl.Proofs.Schema.Validity

/-! # The grammar of schema documents

What a schema document is, part by part: which members an object has, which of them may be missing,
and of what kind their values are. Validation has no complaint about the structure of a value just
if it is such a document.

* `Json.OnlyHas`, `Json.Has`, `Json.MayHave`: known, required and optional members.
* `Json.IsColumn`, `Json.IsTable`, …, `Json.IsDocument`: the grammar.
* `Json.validate_eq_nil_iff_isDocument`: validation against the grammar. -/

set_option autoImplicit false

namespace SpannerDdl

namespace Json

/-! ## Kinds of values -/

def IsText (v : Json) : Prop := ∃ s, v = .str s

/-- A text that is not empty. -/
def IsName (v : Json) : Prop := ∃ s, v = .str s ∧ s ≠ ""

def IsFlag (v : Json) : Prop := ∃ b, v = .bool b

def IsDirection (v : Json) : Prop := v = .str "" ∨ v = .str "ASC" ∨ v = .str "DESC"

/-- An array of items of the kind `P`. -/
def IsListOf (P : Json → Prop) (v : Json) : Prop := ∃ items, v = .arr items ∧ ∀ item ∈ items, P item

/-! ## Members of objects -/

/-- An object without any other keys than these. -/
def OnlyHas (v : Json) (keys : List String) : Prop :=
  ∃ members, v = .obj members ∧ ∀ key ∈ members.map Prod.fst, key ∈ keys

/-- There is a member under the key, and its value is of the kind `P`. -/
def Has (v : Json) (key : String) (P : Json → Prop) : Prop := ∃ w, v.get? key = some w ∧ P w

/-- If there is a member under the key, its value is of the kind `P`. -/
def MayHave (v : Json) (key : String) (P : Json → Prop) : Prop := ∀ w, v.get? key = some w → P w

theorem has_iff {v : Json} {key : String} {P : Json → Prop} :
    v.Has key P ↔ (v.get? key).isSome ∧ v.MayHave key P := by
  unfold Has MayHave
  cases v.get? key with
  | none => simp
  | some w => simp

/-! ## Parts of a document -/

@[mk_iff]
structure IsColumn (v : Json) : Prop where
  known : v.OnlyHas ["name", "type", "isArray", "isNullable", "comment"]
  name : v.Has "name" IsName
  type : v.Has "type" IsName
  isArray : v.MayHave "isArray" IsFlag
  isNullable : v.MayHave "isNullable" IsFlag
  comment : v.MayHave "comment" IsText

@[mk_iff]
structure IsPolicy (v : Json) : Prop where
  known : v.OnlyHas ["columnName", "numDays"]
  columnName : v.Has "columnName" IsName
  numDays : v.Has "numDays" IsText

@[mk_iff]
structure IsTable (v : Json) : Prop where
  known : v.OnlyHas ["name", "columns", "primaryKey", "interleavedIn", "comment",
    "rowDeletionPolicy"]
  name : v.Has "name" IsName
  columns : v.Has "columns" (IsListOf IsColumn)
  primaryKey : v.MayHave "primaryKey" (IsListOf IsName)
  interleavedIn : v.MayHave "interleavedIn" IsText
  comment : v.MayHave "comment" IsText
  policy : v.MayHave "rowDeletionPolicy" IsPolicy

@[mk_iff]
structure IsForeignKey (v : Json) : Prop where
  known : v.OnlyHas ["name", "referencingTable", "referencingColumns", "referencedTable",
    "referencedColumns"]
  name : v.MayHave "name" IsText
  referencingTable : v.Has "referencingTable" IsName
  referencingColumns : v.Has "referencingColumns" (IsListOf IsText)
  referencedTable : v.Has "referencedTable" IsName
  referencedColumns : v.Has "referencedColumns" (IsListOf IsText)

@[mk_iff]
structure IsIndexKey (v : Json) : Prop where
  known : v.OnlyHas ["name", "direction"]
  name : v.Has "name" IsName
  direction : v.MayHave "direction" IsDirection

@[mk_iff]
structure IsIndex (v : Json) : Prop where
  known : v.OnlyHas ["name", "table", "columns", "storing", "interleavedIn", "isUnique",
    "isNullFiltered"]
  name : v.Has "name" IsName
  table : v.Has "table" IsName
  columns : v.Has "columns" (IsListOf IsIndexKey)
  storing : v.MayHave "storing" (IsListOf IsText)
  interleavedIn : v.MayHave "interleavedIn" IsText
  isUnique : v.MayHave "isUnique" IsFlag
  isNullFiltered : v.MayHave "isNullFiltered" IsFlag

@[mk_iff]
structure IsDocument (v : Json) : Prop where
  known : v.OnlyHas ["tables", "foreignKeys", "indexes"]
  tables : v.Has "tables" (IsListOf IsTable)
  foreignKeys : v.MayHave "foreignKeys" (IsListOf IsForeignKey)
  indexes : v.MayHave "indexes" (IsListOf IsIndex)

end Json

/-! ## Rules and kinds of values -/

namespace Rule

variable {v : Json}

theorem issues_text_iff : (text false).issues v = [] ↔ v.IsText := by
  constructor
  · exact exists_text_of_issues
  · rintro ⟨s, rfl⟩
    simp

theorem issues_name_iff : nameRule.issues v = [] ↔ v.IsName := by
  constructor
  · intro h
    obtain ⟨s, rfl⟩ := exists_text_of_issues h
    exact ⟨s, rfl, issues_text_eq_nil_iff.1 h rfl⟩
  · rintro ⟨s, rfl, hs⟩
    exact issues_text_eq_nil_iff.2 fun _ => hs

theorem issues_flag_iff : flag.issues v = [] ↔ v.IsFlag := by
  constructor
  · intro h
    cases v with
    | bool b => exact ⟨b, rfl⟩
    | _ => simp [issues, wrongType] at h
  · rintro ⟨b, rfl⟩
    exact issues_flag b

theorem issues_direction_iff : (oneOf ["", "ASC", "DESC"]).issues v = [] ↔ v.IsDirection := by
  unfold Json.IsDirection
  cases v with
  | str s => simp
  | _ => simp [issues]

theorem issues_listOf_iff {item : Rule} {P : Json → Prop} (h : ∀ v, item.issues v = [] ↔ P v) :
    (array item).issues v = [] ↔ v.IsListOf P := by
  constructor
  · intro hv
    obtain ⟨items, rfl⟩ := exists_items_of_issues hv
    exact ⟨items, rfl, fun w hw => (h w).1 (issues_array_eq_nil_iff.1 hv w hw)⟩
  · rintro ⟨items, rfl, hv⟩
    exact issues_array_eq_nil_iff.2 fun w hw => (h w).2 (hv w hw)

theorem issues_object_iff {required : List String} {rules : List (String × Rule)} :
    (object required rules).issues v = [] ↔
      v.OnlyHas (rules.map Prod.fst) ∧ (required.Forall fun key => (v.get? key).isSome) ∧
        rules.Forall fun r => v.MayHave r.1 fun w => r.2.issues w = [] := by
  rw [List.forall_iff_forall_mem, List.forall_iff_forall_mem]
  constructor
  · intro h
    obtain ⟨given, rfl⟩ := exists_members_of_issues h
    obtain ⟨complete, known, met⟩ := issues_object_eq_nil_iff.1 h
    exact ⟨⟨given, rfl, known⟩, complete, met⟩
  · rintro ⟨⟨given, rfl, known⟩, complete, met⟩
    exact issues_object_eq_nil_iff.2 ⟨complete, known, met⟩

end Rule

/-! ## Rules and parts of a document -/

namespace Json

open Rule

theorem isColumn_iff_issues {v : Json} : columnRule.issues v = [] ↔ v.IsColumn := by
  rw [columnRule, issues_object_iff, isColumn_iff]
  simp only [List.map, List.Forall, has_iff, issues_name_iff, issues_text_iff, issues_flag_iff]
  tauto

theorem isPolicy_iff_issues {v : Json} : policyRule.issues v = [] ↔ v.IsPolicy := by
  rw [policyRule, issues_object_iff, isPolicy_iff]
  simp only [List.map, List.Forall, has_iff, issues_name_iff, issues_text_iff]
  tauto

theorem isTable_iff_issues {v : Json} : tableRule.issues v = [] ↔ v.IsTable := by
  rw [tableRule, issues_object_iff, isTable_iff]
  simp only [List.map, List.Forall, has_iff, issues_name_iff, issues_text_iff, isPolicy_iff_issues,
    issues_listOf_iff fun _ => isColumn_iff_issues, issues_listOf_iff fun _ => issues_name_iff]
  tauto

theorem isForeignKey_iff_issues {v : Json} : foreignKeyRule.issues v = [] ↔ v.IsForeignKey := by
  rw [foreignKeyRule, textsRule, issues_object_iff, isForeignKey_iff]
  simp only [List.map, List.Forall, has_iff, issues_name_iff, issues_text_iff,
    issues_listOf_iff fun _ => issues_text_iff]
  tauto

theorem isIndexKey_iff_issues {v : Json} : indexKeyRule.issues v = [] ↔ v.IsIndexKey := by
  rw [indexKeyRule, issues_object_iff, isIndexKey_iff]
  simp only [List.map, List.Forall, has_iff, issues_name_iff, issues_direction_iff]
  tauto

theorem isIndex_iff_issues {v : Json} : indexRule.issues v = [] ↔ v.IsIndex := by
  rw [indexRule, textsRule, issues_object_iff, isIndex_iff]
  simp only [List.map, List.Forall, has_iff, issues_name_iff, issues_text_iff, issues_flag_iff,
    issues_listOf_iff fun _ => isIndexKey_iff_issues, issues_listOf_iff fun _ => issues_text_iff]
  tauto

theorem isDocument_iff_issues {v : Json} : documentRule.issues v = [] ↔ v.IsDocument := by
  rw [documentRule, issues_object_iff, isDocument_iff]
  simp only [List.map, List.Forall, has_iff, issues_listOf_iff fun _ => isTable_iff_issues,
    issues_listOf_iff fun _ => isForeignKey_iff_issues,
    issues_listOf_iff fun _ => isIndex_iff_issues]
  tauto

/-- Validation has no complaint about the structure of a value just if it is a schema document. -/
theorem validate_eq_nil_iff_isDocument (doc : Json) : validate doc false = [] ↔ doc.IsDocument :=
  validate_eq_nil_iff.trans isDocument_iff_issues

end Json

end SpannerDdl
