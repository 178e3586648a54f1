import SpannerDdl.Proofs.Except
import SpannerDdl.Proofs.Json.RoundTrip
import SpannerDdl.Schema.Document

/-! # Schemas and their documents

The document of a schema gives the schema back, whatever its texts are, and its text determines
it. -/

set_option autoImplicit false

namespace SpannerDdl

namespace Json

/-! ## Members that may be left out -/

theorem lookup_memberIf (present : Bool) (key key' : String) (v : Json) :
    (memberIf present key v).lookup key' = if present && key' == key then some v else none := by
  cases present with
  | false => rfl
  | true =>
    rw [memberIf, if_pos rfl, List.lookup_cons]
    cases key' == key with
    | false => rfl
    | true => rfl

/-! ## Reading what was written -/

variable {members : Members} {key : String}

theorem requiredText_eq {s : String} (h : members.lookup key = some (.str s)) :
    (Json.obj members).requiredText key = .ok s := by
  rw [requiredText, required, h]
  rfl

theorem optionalText_eq {s : String}
    (h : members.lookup key = if s != "" then some (.str s) else none) :
    (Json.obj members).optionalText key = .ok s := by
  rw [optionalText, optional, h]
  by_cases hs : s = ""
  · subst hs
    rfl
  · simp [hs, Except.map, isTruthy]

theorem optionalText_of_given {s : String} (h : members.lookup key = some (.str s)) :
    (Json.obj members).optionalText key = .ok s := by
  rw [optionalText, optional, h]
  by_cases hs : s = ""
  · subst hs
    rfl
  · simp [hs, Except.map, isTruthy]

theorem optionalIs_eq {b given : Bool}
    (h : members.lookup key = if given then some (.bool b) else none) :
    (Json.obj members).optionalIs key b = .ok given := by
  rw [optionalIs, optional, h]
  cases given with
  | false => rfl
  | true => simp [Except.map]

theorem optionalItems_of_array {α : Type} {items : List Json} (read : Json → Except ShapeFault α)
    (h : members.lookup key = some (.arr items)) :
    (Json.obj members).optionalItems key read = items.mapM read := by
  simp [optionalItems, optional, h, itemsOf, bind, Except.bind]

theorem optionalItems_of_given {α : Type} {xs : List α} {write : α → Json}
    {read : Json → Except ShapeFault α} (hr : ∀ x, read (write x) = .ok x)
    (h : members.lookup key = some (.arr (xs.map write))) :
    (Json.obj members).optionalItems key read = .ok xs := by
  rw [optionalItems_of_array read h, mapM_eq_ok_iff, List.forall₂_map_left_iff]
  exact List.forall₂_same.2 fun x _ => hr x

theorem optionalItems_eq {α : Type} {xs : List α} {write : α → Json}
    {read : Json → Except ShapeFault α} (hr : ∀ x, read (write x) = .ok x)
    (h : members.lookup key = if !xs.isEmpty then some (.arr (xs.map write)) else none) :
    (Json.obj members).optionalItems key read = .ok xs := by
  cases xs with
  | nil =>
    rw [optionalItems, optional, h]
    rfl
  | cons x xs => exact optionalItems_of_given hr h

theorem optionalTexts_eq {texts : List String}
    (h : members.lookup key = if !texts.isEmpty then some (ofTexts texts) else none) :
    (Json.obj members).optionalTexts key = .ok texts :=
  optionalItems_eq (fun _ => rfl) h

end Json

/-! ## Reading back -/

theorem Column.ofJson_toJson (c : Column) : ofJson c.toJson = .ok c := by
  have name : c.toJson.requiredText "name" = .ok c.name := Json.requiredText_eq rfl
  have type : c.toJson.requiredText "type" = .ok c.type := Json.requiredText_eq rfl
  have isArray : c.toJson.optionalIs "isArray" true = .ok c.isArray :=
    Json.optionalIs_eq (by simp [List.lookup_append, List.lookup_cons, Json.lookup_memberIf])
  have notNull : c.toJson.optionalIs "isNullable" false = .ok c.notNull :=
    Json.optionalIs_eq (by simp [List.lookup_append, List.lookup_cons, Json.lookup_memberIf])
  have comment : c.toJson.optionalText "comment" = .ok c.comment :=
    Json.optionalText_eq (by simp [List.lookup_append, List.lookup_cons, Json.lookup_memberIf])
  rw [ofJson, name, type, isArray, notNull, comment]
  rfl

theorem RowDeletionPolicy.ofJson_toJson (p : RowDeletionPolicy) : ofJson p.toJson = .ok p := rfl

theorem Table.ofJson_toJson (t : Table) : ofJson t.toJson = .ok t := by
  have name : t.toJson.requiredText "name" = .ok t.name := Json.requiredText_eq rfl
  have columns : t.toJson.optionalItems "columns" Column.ofJson = .ok t.columns :=
    Json.optionalItems_of_given Column.ofJson_toJson rfl
  have primaryKey : t.toJson.optionalTexts "primaryKey" = .ok t.primaryKey :=
    Json.optionalItems_of_given (fun _ => rfl) rfl
  have interleavedIn : t.toJson.optionalText "interleavedIn" = .ok t.interleavedIn :=
    Json.optionalText_eq (by
      cases hp : t.policy <;>
        simp [List.lookup_append, List.lookup_cons, Json.lookup_memberIf])
  have comment : t.toJson.optionalText "comment" = .ok t.comment :=
    Json.optionalText_eq (by
      cases hp : t.policy <;>
        simp [List.lookup_append, List.lookup_cons, Json.lookup_memberIf])
  have policy : t.toJson.optional "rowDeletionPolicy" =
      .ok ((t.policy.map RowDeletionPolicy.toJson).getD .null) := by
    cases hp : t.policy <;>
      simp [toJson, Json.optional, List.lookup_append, List.lookup_cons, Json.lookup_memberIf, hp]
  rw [ofJson, policy, name, columns, primaryKey, interleavedIn, comment]
  obtain ⟨_, _, _, _, _, stated⟩ := t
  cases stated with
  | none => rfl
  | some p => rfl

theorem ForeignKey.ofJson_toJson (k : ForeignKey) : ofJson k.toJson = .ok k := by
  have name : k.toJson.optionalText "name" = .ok k.name := Json.optionalText_of_given rfl
  have referencingTable : k.toJson.requiredText "referencingTable" = .ok k.referencingTable :=
    Json.requiredText_eq rfl
  have referencingColumns :
      k.toJson.optionalTexts "referencingColumns" = .ok k.referencingColumns :=
    Json.optionalItems_of_given (fun _ => rfl) rfl
  have referencedTable : k.toJson.requiredText "referencedTable" = .ok k.referencedTable :=
    Json.requiredText_eq rfl
  have referencedColumns :
      k.toJson.optionalTexts "referencedColumns" = .ok k.referencedColumns :=
    Json.optionalItems_of_given (fun _ => rfl) rfl
  rw [ofJson, name, referencingTable, referencingColumns, referencedTable, referencedColumns]
  rfl

theorem IndexKey.ofJson_toJson (k : IndexKey) : ofJson k.toJson = .ok k := by
  have name : k.toJson.requiredText "name" = .ok k.name := Json.requiredText_eq rfl
  have direction : k.toJson.optionalText "direction" = .ok k.direction :=
    Json.optionalText_eq (by simp [List.lookup_cons, Json.lookup_memberIf])
  rw [ofJson, name, direction]
  rfl

theorem Index.ofJson_toJson (i : Index) : ofJson i.toJson = .ok i := by
  have name : i.toJson.requiredText "name" = .ok i.name := Json.requiredText_eq rfl
  have table : i.toJson.requiredText "table" = .ok i.table := Json.requiredText_eq rfl
  have columns : i.toJson.optionalItems "columns" IndexKey.ofJson = .ok i.columns :=
    Json.optionalItems_of_given IndexKey.ofJson_toJson rfl
  have storing : i.toJson.optionalTexts "storing" = .ok i.storing :=
    Json.optionalTexts_eq (by simp [List.lookup_append, List.lookup_cons, Json.lookup_memberIf])
  have interleavedIn : i.toJson.optionalText "interleavedIn" = .ok i.interleavedIn :=
    Json.optionalText_eq (by simp [List.lookup_append, List.lookup_cons, Json.lookup_memberIf])
  have isUnique : i.toJson.optionalIs "isUnique" true = .ok i.isUnique :=
    Json.optionalIs_eq (by simp [List.lookup_append, List.lookup_cons, Json.lookup_memberIf])
  have isNullFiltered : i.toJson.optionalIs "isNullFiltered" true = .ok i.isNullFiltered :=
    Json.optionalIs_eq (by simp [List.lookup_append, List.lookup_cons, Json.lookup_memberIf])
  rw [ofJson, name, table, columns, storing, interleavedIn, isUnique, isNullFiltered]
  rfl

/-- The document of a schema gives the schema back. -/
theorem Schema.ofJson_toJson (s : Schema) : ofJson s.toJson = .ok s := by
  have tables : s.toJson.optionalItems "tables" Table.ofJson = .ok s.tables :=
    Json.optionalItems_of_given Table.ofJson_toJson rfl
  have foreignKeys : s.toJson.optionalItems "foreignKeys" ForeignKey.ofJson = .ok s.foreignKeys :=
    Json.optionalItems_eq ForeignKey.ofJson_toJson
      (by simp [List.lookup_append, List.lookup_cons, Json.lookup_memberIf])
  have indexes : s.toJson.optionalItems "indexes" Index.ofJson = .ok s.indexes :=
    Json.optionalItems_eq Index.ofJson_toJson
      (by simp [List.lookup_append, List.lookup_cons, Json.lookup_memberIf])
  rw [ofJson, tables, foreignKeys, indexes]
  rfl

/-! ## Documents are determined by their texts -/

namespace Json

/-- The members of an object; no other value has any. -/
def members : Json → Members
  | .obj members => members
  | _ => []

/-- Members with some of the given keys, in this order, whose values are determined by their
texts. -/
structure Entries (keys : List String) (members : Members) : Prop where
  inOrder : (members.map Prod.fst).Sublist keys
  exact : ∀ m ∈ members, Exact m.2

theorem entries_given {members : Members} (h : ∀ m ∈ members, Exact m.2) :
    Entries (members.map Prod.fst) members :=
  ⟨List.Sublist.refl _, h⟩

theorem entries_memberIf {v : Json} (h : Exact v) (present : Bool) (key : String) :
    Entries [key] (memberIf present key v) := by
  cases present with
  | false => exact ⟨List.nil_sublist _, fun m hm => by cases hm⟩
  | true =>
    refine ⟨List.Sublist.refl _, fun m hm => ?_⟩
    rw [memberIf, if_pos rfl, List.mem_singleton] at hm
    rw [hm]
    exact h

theorem Entries.append {keys keys' : List String} {members members' : Members}
    (h : Entries keys members) (h' : Entries keys' members') :
    Entries (keys ++ keys') (members ++ members') where
  inOrder := by
    rw [List.map_append]
    exact h.inOrder.append h'.inOrder
  exact := List.forall_mem_append.2 ⟨h.exact, h'.exact⟩

theorem Entries.exact_obj {keys : List String} {members : Members} (h : Entries keys members)
    (nodup : keys.Nodup) : Exact (.obj members) :=
  .obj (nodup.sublist h.inOrder) h.exact

theorem exact_ofTexts (texts : List String) : Exact (ofTexts texts) := by
  refine .arr fun v hv => ?_
  obtain ⟨s, _, rfl⟩ := List.mem_map.1 hv
  exact .str s

theorem exact_map {α : Type} {write : α → Json} (h : ∀ x, Exact (write x)) (xs : List α) :
    Exact (.arr (xs.map write)) := by
  refine .arr fun v hv => ?_
  obtain ⟨x, _, rfl⟩ := List.mem_map.1 hv
  exact h x

end Json

section

open Json

theorem Column.entries_toJson (c : Column) :
    Entries ["name", "type", "isArray", "isNullable", "comment"] c.toJson.members := by
  have given : ∀ m ∈ [("name", Json.str c.name), ("type", .str c.type)], Exact m.2 := by
    simp [Exact.str]
  exact (((entries_given given).append (entries_memberIf (.bool true) _ _)).append
    (entries_memberIf (.bool false) _ _)).append (entries_memberIf (.str c.comment) _ _)

theorem Column.exact_toJson (c : Column) : Exact c.toJson :=
  c.entries_toJson.exact_obj (by decide)

theorem RowDeletionPolicy.entries_toJson (p : RowDeletionPolicy) :
    Entries ["columnName", "numDays"] p.toJson.members :=
  ⟨List.Sublist.refl _, by simp [toJson, members, Exact.str]⟩

theorem RowDeletionPolicy.exact_toJson (p : RowDeletionPolicy) : Exact p.toJson :=
  p.entries_toJson.exact_obj (by decide)

theorem Table.entries_toJson (t : Table) :
    Entries ["name", "columns", "primaryKey", "interleavedIn", "comment", "rowDeletionPolicy"]
      t.toJson.members := by
  obtain ⟨name, columns, primaryKey, interleavedIn, comment, stated⟩ := t
  have given : ∀ m ∈ [("name", Json.str name), ("columns", .arr (columns.map Column.toJson)),
      ("primaryKey", .ofTexts primaryKey)], Exact m.2 := by
    simp [Exact.str, exact_ofTexts, exact_map Column.exact_toJson]
  have texts := ((entries_given given).append
    (entries_memberIf (.str interleavedIn) (interleavedIn != "") "interleavedIn")).append
    (entries_memberIf (.str comment) (comment != "") "comment")
  cases stated with
  | none => exact texts.append ⟨List.nil_sublist ["rowDeletionPolicy"], fun m hm => by cases hm⟩
  | some p =>
    have policy : Entries ["rowDeletionPolicy"] [("rowDeletionPolicy", p.toJson)] :=
      ⟨List.Sublist.refl _, by simp [p.exact_toJson]⟩
    exact texts.append policy

theorem Table.exact_toJson (t : Table) : Exact t.toJson :=
  t.entries_toJson.exact_obj (by decide)

theorem ForeignKey.entries_toJson (k : ForeignKey) :
    Entries ["name", "referencingTable", "referencingColumns", "referencedTable",
      "referencedColumns"] k.toJson.members :=
  ⟨List.Sublist.refl _, by simp [toJson, members, Exact.str, exact_ofTexts]⟩

theorem ForeignKey.exact_toJson (k : ForeignKey) : Exact k.toJson :=
  k.entries_toJson.exact_obj (by decide)

theorem IndexKey.entries_toJson (k : IndexKey) :
    Entries ["name", "direction"] k.toJson.members := by
  have given : ∀ m ∈ [("name", Json.str k.name)], Exact m.2 := by
    simp [Exact.str]
  exact (entries_given given).append (entries_memberIf (.str k.direction) _ _)

theorem IndexKey.exact_toJson (k : IndexKey) : Exact k.toJson :=
  k.entries_toJson.exact_obj (by decide)

theorem Index.entries_toJson (i : Index) :
    Entries ["name", "table", "columns", "storing", "interleavedIn", "isUnique", "isNullFiltered"]
      i.toJson.members := by
  have given : ∀ m ∈ [("name", Json.str i.name), ("table", .str i.table),
      ("columns", .arr (i.columns.map IndexKey.toJson))], Exact m.2 := by
    simp [Exact.str, exact_map IndexKey.exact_toJson]
  exact ((((entries_given given).append (entries_memberIf (exact_ofTexts i.storing) _ _)).append
    (entries_memberIf (.str i.interleavedIn) _ _)).append
    (entries_memberIf (.bool true) _ _)).append (entries_memberIf (.bool true) _ _)

theorem Index.exact_toJson (i : Index) : Exact i.toJson :=
  i.entries_toJson.exact_obj (by decide)

theorem Schema.entries_toJson (s : Schema) :
    Entries ["tables", "foreignKeys", "indexes"] s.toJson.members := by
  have given : ∀ m ∈ [("tables", Json.arr (s.tables.map Table.toJson))], Exact m.2 := by
    simp [exact_map Table.exact_toJson]
  exact ((entries_given given).append
    (entries_memberIf (exact_map ForeignKey.exact_toJson s.foreignKeys) _ _)).append
    (entries_memberIf (exact_map Index.exact_toJson s.indexes) _ _)

theorem Schema.exact_toJson (s : Schema) : Exact s.toJson :=
  s.entries_toJson.exact_obj (by decide)

end

/-- The text of the document of a schema is read back as that document. -/
theorem Schema.read_render_toJson (s : Schema) (layout : Json.Layout) :
    Json.read (Json.render layout s.toJson).toList = .ok s.toJson :=
  Json.read_render s.exact_toJson layout

end SpannerDdl
