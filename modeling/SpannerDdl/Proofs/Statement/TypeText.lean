import SpannerDdl.Proofs.Except
import SpannerDdl.Proofs.Statement.Complete
import SpannerDdl.Schema.Conversion

/-! # The text of a type in a schema

A schema shows a type by the SQL text of its innermost item, whose size is written without casts.
The lengths of arrays are not shown.

* `IntValue.uncast`: the value inside all casts.
* `ColumnType.element`, `ColumnType.plain`: the innermost item of a type, and a type whose size is
  without casts.
* `ColumnType.IsWhole`: types of which no part is missing.
* `ColumnType.withoutLengths`: a type and its items without the lengths of arrays.
* `schemaText_eq_sql_element`: the two texts of a type. -/

set_option autoImplicit false

namespace SpannerDdl

/-! ## Values -/

/-- The value inside all casts. -/
def IntValue.uncast : IntValue → IntValue
  | .cast value => value.uncast
  | value => value

namespace IntValue

theorem text_uncast (v : IntValue) : v.uncast.text = v.text := by
  induction v with
  | cast value ih => exact ih
  | _ => rfl

/-- Of a value without casts, the text in a schema is the SQL text, or empty if there is none. -/
theorem text_eq_sql_uncast (v : IntValue) : v.text = v.uncast.sql.toOption.getD "" := by
  induction v with
  | cast value ih => exact ih
  | _ => rfl

theorem Complete.sql_uncast {v : IntValue} (h : v.Complete) : v.uncast.sql = .ok v.text := by
  induction v with
  | literal value => rfl
  | param name => rfl
  | cast value ih => exact ih h
  | unknown => exact h.elim
  | missing => exact h.elim

theorem Complete.uncast_ne {v : IntValue} (h : v.Complete) : v.uncast ≠ .missing := by
  intro e
  have missing := h.sql_uncast
  rw [e] at missing
  cases missing

end IntValue

/-! ## Types -/

namespace ColumnType

def isArray : ColumnType → Bool
  | .array _ _ => true
  | _ => false

/-- The innermost item of an array; any other type is its own. -/
def element : ColumnType → ColumnType
  | .array item _ => item.element
  | type => type

/-- The type with its size without casts. The greatest size needs no other. -/
def plain : ColumnType → ColumnType
  | .sized name max size => .sized name max (if max then .missing else size.uncast)
  | type => type

/-- The type without the lengths of its arrays. -/
def withoutLengths : ColumnType → ColumnType
  | .array item _ => .array item.withoutLengths .missing
  | type => type

/-- A type of which no part is missing. The lengths of arrays may be. -/
inductive IsWhole : ColumnType → Prop where
  | scalar (name : String) : IsWhole (.scalar name)
  | greatest (name : String) (size : IntValue) : IsWhole (.sized name true size)
  | sized (name : String) {size : IntValue} (h : size.Complete) : IsWhole (.sized name false size)
  | named (names : List String) : IsWhole (.named (names.map .named))
  | array {item : ColumnType} (h : IsWhole item) (length : IntValue) : IsWhole (.array item length)

theorem isArray_element (t : ColumnType) : t.element.isArray = false := by
  induction t with
  | array item length ih => exact ih
  | _ => rfl

theorem plain_isArray (t : ColumnType) : t.plain.isArray = t.isArray := by
  cases t with
  | _ => rfl

theorem IsWhole.element {t : ColumnType} (h : t.IsWhole) : t.element.IsWhole := by
  induction h with
  | scalar name => exact .scalar name
  | greatest name size => exact .greatest name size
  | sized name h => exact .sized name h
  | named names => exact .named names
  | array _ _ ih => exact ih

/-! ## Texts in a schema -/

theorem schemaText_array {item : ColumnType} {text : String} {b : Bool}
    (h : item.schemaText = .ok (text, b)) (length : IntValue) :
    (ColumnType.array item length).schemaText = .ok (text, true) := by
  rw [schemaText, h]
  rfl

/-- An array is shown as its innermost item is. -/
theorem schemaText_of_element {t : ColumnType} {text : String}
    (h : t.element.schemaText = .ok (text, false)) : t.schemaText = .ok (text, t.isArray) := by
  induction t with
  | array item length ih => exact schemaText_array (ih h) length
  | _ => exact h

theorem schemaText_plain (t : ColumnType) : t.plain.schemaText = t.schemaText := by
  cases t with
  | sized name max size =>
    cases max with
    | true => rfl
    | false =>
      have same : (if false then IntValue.missing else size.uncast).text = size.text :=
        size.text_uncast
      simp only [plain, schemaText, same]
  | _ => rfl

theorem schemaText_withoutLengths (t : ColumnType) :
    t.withoutLengths.schemaText = t.schemaText := by
  induction t with
  | array item length ih => rw [withoutLengths, schemaText, schemaText, ih]
  | _ => rfl

/-! ## Both texts -/

theorem dottedSql_named (names : List String) :
    dottedSql (names.map .named) = .ok (Path.name ⟨names.map .named⟩) := by
  have given : (names.map Ident.named).mapM Ident.sql =
      .ok ((names.map Ident.named).map Ident.name) := by
    refine mapM_eq_ok_map fun i hi => ?_
    obtain ⟨name, -, rfl⟩ := List.mem_map.1 hi
    rfl
  rw [dottedSql, given]
  rfl

/-- A type that is no array is shown by its SQL text, apart from casts. -/
theorem IsWhole.exists_text {t : ColumnType} (h : t.IsWhole) (single : t.isArray = false) :
    ∃ text, t.plain.sql = .ok text ∧ t.schemaText = .ok (text, false) := by
  cases h with
  | scalar name => exact ⟨name, rfl, rfl⟩
  | greatest name size =>
    have shown : name ++ "(" ++ "MAX" ++ ")" = name ++ "(MAX)" := by
      rw [String.append_assoc, String.append_assoc]
      rfl
    refine ⟨name ++ "(MAX)", rfl, ?_⟩
    rw [schemaText, if_pos rfl, shown]
  | @sized name size hs =>
    refine ⟨name ++ "(" ++ size.text ++ ")", ?_, rfl⟩
    have stated : ¬(false || decide (size.uncast = .missing)) = true := by
      simpa using hs.uncast_ne
    rw [plain, if_neg Bool.false_ne_true, sql, if_neg stated, hs.sql_uncast]
    rfl
  | named names => exact ⟨_, dottedSql_named names, rfl⟩
  | array _ _ => cases single

/-- A type of which no part is missing is shown by the SQL text of its innermost item without
casts, with the note whether it is an array. That item is shown by the same text, and the lengths
of arrays have no influence on it. -/
theorem schemaText_eq_sql_element {t : ColumnType} (h : t.IsWhole) :
    ∃ text, t.element.plain.sql = .ok text ∧ t.schemaText = .ok (text, t.isArray) ∧
      t.element.plain.schemaText = .ok (text, false) ∧ t.element.plain.isArray = false ∧
      ∀ t' : ColumnType, t'.withoutLengths = t.withoutLengths →
        t'.schemaText = .ok (text, t.isArray) := by
  obtain ⟨text, sql, shown⟩ := h.element.exists_text t.isArray_element
  have whole := schemaText_of_element shown
  refine ⟨text, sql, whole, ?_, ?_, fun t' same => ?_⟩
  · rw [schemaText_plain, shown]
  · rw [plain_isArray, isArray_element]
  · rw [← schemaText_withoutLengths, same, schemaText_withoutLengths, whole]

/-- The same for arrays of arrays of texts, whose size is a parameter in two casts. -/
theorem schemaText_of_nested_arrays :
    let size : IntValue := .cast (.cast (.param "size"))
    let t : ColumnType :=
      .array (.array (.sized "STRING" false size) (.literal "3")) (.cast (.literal "2"))
    t.IsWhole ∧ t.sql = .ok ("ARRAY<ARRAY<STRING(CAST(CAST(@size AS INT64) AS INT64))>" ++
        "(vector_length=>3)>(vector_length=>CAST(2 AS INT64))") ∧
      t.element.plain = .sized "STRING" false (.param "size") ∧
      t.schemaText = .ok ("STRING(@size)", true) ∧
      t.element.plain.schemaText = .ok ("STRING(@size)", false) ∧
      t.withoutLengths.schemaText = .ok ("STRING(@size)", true) := by
  intro size t
  have complete : size.Complete := trivial
  have given : t.IsWhole := .array (.array (.sized "STRING" complete) _) _
  obtain ⟨text, sql, shown, item, -, any⟩ := schemaText_eq_sql_element given
  obtain rfl : "STRING(@size)" = text := Except.ok.inj sql
  exact ⟨given, by decide, rfl, shown, item, any t.withoutLengths rfl⟩

end ColumnType

end SpannerDdl
