import SpannerDdl.Grammar.Statement

/-! # What the grammar asks for

Whatever tokens it is given, a reader of the grammar that finds fault asks for one of a few things.

* `demands`: all of them.
* `Asks r`: the fault of a result, if it is one, is the lack of such a thing.
* `asks_statement`: no statement lacks anything else. -/

set_option autoImplicit false

namespace SpannerDdl.Grammar

variable {α β : Type}

/-- What readers ask for. -/
def demands : List String := [
  "'('", "')'", "'<'", "'>'", "'='", "','", "AS", "identifier", "integer value", "column option",
  "FOREIGN KEY", "REFERENCES", "CASCADE or NO ACTION", "FOREIGN KEY or CHECK", "INTERLEAVE IN",
  "ROW DELETION POLICY", "OLDER_THAN", "INTERVAL", "DAY", "INTERLEAVE or ROW DELETION POLICY",
  "CREATE TABLE", "ALTER TABLE", "CREATE", "INDEX", "ON", "table constraint", "table alteration",
  "end of statement"]

/-- A reader that finds fault lacks one of the things that readers ask for. -/
def Asks (r : Except Mismatch α) : Prop := ∀ m, r = .error m → m.expected ∈ demands

namespace Asks

theorem ok (a : α) : Asks (.ok a) := by
  intro m h
  cases h

theorem mismatch {what : String} (h : what ∈ demands) (ts : List Token) :
    Asks (Grammar.mismatch what ts : Except Mismatch α) := by
  rintro m ⟨⟩
  exact h

theorem bind {r : Except Mismatch α} {f : α → Except Mismatch β} (hr : Asks r)
    (hf : ∀ a, Asks (f a)) : Asks (r >>= f) := by
  cases r with
  | ok a => exact hf a
  | error m =>
    rintro _ ⟨⟩
    exact hr m rfl

theorem map {r : Except Mismatch α} (hr : Asks r) (f : α → β) : Asks (r.map f) := by
  cases r with
  | ok a => exact .ok (f a)
  | error m =>
    rintro _ ⟨⟩
    exact hr m rfl

end Asks

/-! ## Keywords, punctuation and names -/

theorem asks_expectKeywords {words : List String} (h : " ".intercalate words ∈ demands)
    (ts : List Token) : Asks (expectKeywords words ts) := by
  unfold expectKeywords
  split
  · exact .ok _
  · exact .mismatch h ts

theorem asks_expectPunct {text : String} (h : "'" ++ text ++ "'" ∈ demands) (ts : List Token) :
    Asks (expectPunct text ts) := by
  unfold expectPunct
  split
  · exact .ok _
  · exact .mismatch h ts

theorem asks_ident (ts : List Token) : Asks (ident ts) := by
  unfold ident
  split
  · exact .mismatch (by decide) _
  · split
    · exact .ok _
    · exact .mismatch (by decide) _

theorem asks_identsBehind (separator : String) (ts : List Token) :
    Asks (identsBehind separator ts) := by
  fun_induction identsBehind separator ts with
  | case1 => exact .ok _
  | case2 => exact .mismatch (by decide) _
  | case3 => exact .ok _
  | case4 => exact .mismatch (by decide) _
  | case5 _ _ _ _ _ _ ih => exact ih.map _
  | case6 => exact .ok _

theorem asks_idents (separator : String) (ts : List Token) : Asks (idents separator ts) :=
  .bind (asks_ident ts) fun (_, _) => .bind (asks_identsBehind _ _) fun (_, _) => .ok _

theorem asks_path (ts : List Token) : Asks (path ts) :=
  .bind (asks_idents _ ts) fun (_, _) => .ok _

theorem asks_identList (ts : List Token) : Asks (identList ts) := by
  refine .bind (asks_expectPunct (by decide) ts) fun ts => ?_
  refine .bind ?_ fun (_, _) => .bind (asks_expectPunct (by decide) _) fun _ => .ok _
  unfold identsInside
  split
  · exact .ok _
  · exact asks_idents _ _

theorem asks_keyPart (ts : List Token) : Asks (keyPart ts) :=
  .bind (asks_ident ts) fun (_, _) => .ok _

theorem asks_keyParts (ts : List Token) : Asks (keyParts ts) := by
  fun_induction keyParts ts with
  | case1 ts m h =>
    rintro _ ⟨⟩
    exact asks_keyPart ts m h
  | case2 => exact .ok _
  | case3 _ _ _ _ _ _ _ _ ih => exact ih.map _

theorem asks_keyList (ts : List Token) : Asks (keyList ts) := by
  refine .bind (asks_expectPunct (by decide) ts) fun ts => ?_
  refine .bind ?_ fun (_, _) => .bind (asks_expectPunct (by decide) _) fun _ => .ok _
  unfold keysInside
  split
  · exact .ok _
  · exact asks_keyParts _

theorem asks_balanced (ts : List Token) : Asks (balanced ts) := by
  unfold balanced
  split
  · exact .mismatch (by decide) _
  · split
    · exact .mismatch (by decide) _
    · exact .ok _

theorem asks_balancedText (ts : List Token) : Asks (balancedText ts) := (asks_balanced ts).map _

/-! ## Types -/

theorem asks_intValue (ts : List Token) : Asks (intValue ts) := by
  fun_induction intValue ts with
  | case1 => exact .mismatch (by decide) _
  | case2 => exact .ok _
  | case3 => exact .bind (asks_ident _) fun _ => .ok _
  | case4 => exact .ok _
  | case5 => exact .mismatch (by decide) _
  | case6 _ _ _ _ _ _ _ _ ih =>
    exact .bind ih fun _ => .bind (asks_expectKeywords (by decide) _) fun _ =>
      .bind (asks_ident _) fun _ => .bind (asks_expectPunct (by decide) _) fun _ => .ok _
  | case7 => exact .mismatch (by decide) _
  | case8 => exact .mismatch (by decide) _

theorem asks_arrow (ts : List Token) : Asks (arrow ts) := by
  unfold arrow
  split
  · exact .ok _
  · exact .bind (asks_expectPunct (by decide) _) fun _ => asks_expectPunct (by decide) _

theorem asks_vectorLength (ts : List Token) : Asks (vectorLength ts) := by
  unfold vectorLength
  split
  · exact .ok _
  · exact .bind (asks_arrow _) fun _ => .bind (asks_intValue _) fun (_, _) =>
      .bind (asks_expectPunct (by decide) _) fun _ => .ok _

theorem asks_sizedType (name : String) (ts : List Token) : Asks (sizedType name ts) := by
  unfold sizedType
  split
  · exact .bind (asks_expectPunct (by decide) _) fun _ => .ok _
  · exact .bind (asks_intValue _) fun (_, _) =>
      .bind (asks_expectPunct (by decide) _) fun _ => .ok _

theorem asks_namedType (p : Path) (ts : List Token) : Asks (namedType p ts) := by
  unfold namedType
  split
  · dsimp only
    split
    · exact asks_sizedType _ _
    · exact .ok _
  · exact .ok _

theorem asks_columnType (ts : List Token) : Asks (columnType ts) := by
  fun_induction columnType ts with
  | case1 => exact .mismatch (by decide) _
  | case2 => exact .mismatch (by decide) _
  | case3 _ _ _ _ _ ih =>
    exact .bind ih fun _ => .bind (asks_expectPunct (by decide) _) fun _ =>
      .bind (asks_vectorLength _) fun _ => .ok _
  | case4 => exact .mismatch (by decide) _
  | case5 => exact .bind (asks_path _) fun _ => asks_namedType _ _

/-! ## Columns -/

theorem asks_columnOption (c : ColumnDef) (ts : List Token) : Asks (columnOption c ts) := by
  have options : ∀ ts, Asks (identityOptions ts) := by
    intro ts
    unfold identityOptions
    split
    · exact (asks_balanced ts).map _
    · exact .ok _
  unfold columnOption
  split
  · exact .ok _
  split
  · exact .ok _
  split
  · exact .ok _
  split
  · exact .ok _
  split
  · exact (asks_balancedText _).map _
  split
  · exact (asks_balancedText _).map _
  split
  · exact (asks_balanced _).map _
  split
  · exact .ok _
  split
  · exact (options _).map _
  · exact .mismatch (by decide) _

theorem asks_columnOptions (c : ColumnDef) (ts : List Token) : Asks (columnOptions c ts) := by
  fun_induction columnOptions c ts with
  | case1 => exact .ok _
  | case2 c ts _ m h =>
    rintro _ ⟨⟩
    exact asks_columnOption c ts m h
  | case3 _ _ _ _ _ _ _ ih => exact ih

theorem asks_columnDef (ts : List Token) : Asks (columnDef ts) :=
  .bind (asks_ident ts) fun (_, _) => .bind (asks_columnType _) fun (_, _) =>
    asks_columnOptions _ _

/-! ## Constraints and elements -/

theorem asks_onDelete (ts : List Token) : Asks (onDelete ts) := by
  unfold onDelete
  split
  · exact .ok _
  · split
    · exact .ok _
    split
    · exact .ok _
    · exact .mismatch (by decide) _

theorem asks_foreignKey (ts : List Token) : Asks (foreignKey ts) :=
  .bind (asks_expectKeywords (by decide) ts) fun _ => .bind (asks_identList _) fun (_, _) =>
    .bind (asks_expectKeywords (by decide) _) fun _ => .bind (asks_path _) fun (_, _) =>
    .bind (asks_identList _) fun (_, _) => .bind (asks_onDelete _) fun (_, _) => .ok _

theorem asks_constraintBody (ts : List Token) : Asks (constraintBody ts) := by
  unfold constraintBody
  split
  · exact (asks_foreignKey ts).map _
  split
  · exact (asks_balancedText _).map _
  · exact .mismatch (by decide) _

theorem asks_tableConstraint? (ts : List Token) : Asks (tableConstraint? ts) := by
  unfold tableConstraint?
  split
  · exact .bind (asks_ident _) fun (_, _) => .bind (asks_constraintBody _) fun (_, _) => .ok _
  · split
    · exact (asks_constraintBody ts).map _
    · exact .ok _

theorem asks_element (ts : List Token) : Asks (element ts) := by
  unfold element
  split
  · next m h =>
    rintro _ ⟨⟩
    exact asks_tableConstraint? ts m h
  · exact .ok _
  · split
    · exact (asks_balanced _).map _
    · exact (asks_columnDef _).map _

theorem asks_elements (ts : List Token) : Asks (elements ts) := by
  fun_induction elements ts with
  | case1 => exact .ok _
  | case2 ts _ m h =>
    rintro _ ⟨⟩
    exact asks_element ts m h
  | case3 => exact .ok _
  | case4 _ _ _ _ _ _ _ _ _ ih => exact ih.map _

/-! ## Clauses and tables -/

theorem asks_interleaving (ts : List Token) : Asks (interleaving ts) :=
  .bind (asks_expectKeywords (by decide) ts) fun _ => .bind (asks_path _) fun (_, _) =>
    .bind (asks_onDelete _) fun (_, _) => .ok _

theorem asks_rowDeletionPolicy (ts : List Token) : Asks (rowDeletionPolicy ts) :=
  .bind (asks_expectKeywords (by decide) ts) fun _ =>
  .bind (asks_expectPunct (by decide) _) fun _ =>
  .bind (asks_expectKeywords (by decide) _) fun _ =>
  .bind (asks_expectPunct (by decide) _) fun _ =>
  .bind (asks_ident _) fun (_, _) =>
  .bind (asks_expectPunct (by decide) _) fun _ =>
  .bind (asks_expectKeywords (by decide) _) fun _ =>
  .bind (asks_intValue _) fun (_, _) =>
  .bind (asks_expectKeywords (by decide) _) fun _ =>
  .bind (asks_expectPunct (by decide) _) fun _ =>
  .bind (asks_expectPunct (by decide) _) fun _ => .ok _

theorem asks_tableClause (t : CreateTable) (ts : List Token) : Asks (tableClause t ts) := by
  unfold tableClause
  split
  · exact (asks_interleaving ts).map _
  split
  · exact (asks_rowDeletionPolicy ts).map _
  · exact .mismatch (by decide) _

theorem asks_tableClauses (t : CreateTable) (ts : List Token) : Asks (tableClauses t ts) := by
  fun_induction tableClauses t ts with
  | case1 => exact .ok _
  | case2 t _ rest _ m h =>
    rintro _ ⟨⟩
    exact asks_tableClause t rest m h
  | case3 _ _ _ _ _ _ _ _ _ ih => exact ih

theorem asks_createTable (ts : List Token) : Asks (createTable ts) := by
  refine .bind (asks_expectKeywords (by decide) ts) fun _ => .bind (asks_path _) fun (_, _) =>
    .bind (asks_expectPunct (by decide) _) fun _ => .bind (asks_elements _) fun (_, _) =>
    .bind (asks_expectPunct (by decide) _) fun _ => .bind ?_ fun (_, _) => asks_tableClauses _ _
  unfold primaryKey
  split
  · exact asks_keyList _
  · exact .ok _

/-! ## Statements -/

theorem asks_alteration (ts : List Token) : Asks (alteration ts) := by
  unfold alteration
  split
  · exact (asks_rowDeletionPolicy _).map _
  split
  · exact (asks_rowDeletionPolicy _).map _
  split
  · exact .ok _
  split
  · exact (asks_columnDef _).map _
  split
  · split
    · next m h =>
      rintro _ ⟨⟩
      exact asks_tableConstraint? _ m h
    · exact .ok _
    · exact .mismatch (by decide) _
  split
  · exact (asks_ident _).map _
  split
  · exact (asks_ident _).map _
  split
  · exact (asks_interleaving _).map _
  split
  · exact (asks_onDelete _).map _
  split
  · exact (asks_balancedText _).map _
  split
  · exact (asks_ident _).map _
  split
  · exact .mismatch (by decide) _
  · exact .ok _

theorem asks_alterTable (ts : List Token) : Asks (alterTable ts) :=
  .bind (asks_expectKeywords (by decide) ts) fun _ => .bind (asks_path _) fun (_, _) =>
    .bind (asks_alteration _) fun (_, _) => .ok _

theorem asks_storing (ts : List Token) : Asks (storing ts) := by
  unfold storing
  split
  · exact (asks_identList _).map _
  · exact .ok _

theorem asks_indexInterleaving (ts : List Token) : Asks (indexInterleaving ts) := by
  unfold indexInterleaving
  split
  · exact .ok _
  · exact .bind (asks_expectKeywords (by decide) _) fun _ => .bind (asks_ident _) fun (_, _) =>
      .ok _

theorem asks_skipOptions (ts : List Token) : Asks (skipOptions ts) := by
  unfold skipOptions
  split
  · exact (asks_balanced _).map _
  · exact .ok _

theorem asks_createIndex (ts : List Token) : Asks (createIndex ts) :=
  .bind (asks_expectKeywords (by decide) ts) fun _ =>
  .bind (asks_expectKeywords (by decide) _) fun _ => .bind (asks_path _) fun (_, _) =>
  .bind (asks_expectKeywords (by decide) _) fun _ => .bind (asks_path _) fun (_, _) =>
  .bind (asks_keyList _) fun (_, _) => .bind (asks_storing _) fun (_, _) =>
  .bind (asks_indexInterleaving _) fun (_, _) => .bind (asks_skipOptions _) fun _ => .ok _

theorem asks_complete {r : Except Mismatch (α × List Token)} (h : Asks r) :
    Asks (complete r) := by
  unfold complete
  split
  · next m =>
    rintro _ ⟨⟩
    exact h m rfl
  · exact .ok _
  · exact .mismatch (by decide) _

/-- Every fault of a statement is the lack of one of the things that readers ask for. -/
theorem asks_statement (ts : List Token) : Asks (statement ts) := by
  unfold statement
  split
  · exact (asks_complete (asks_createTable ts)).map _
  split
  · exact asks_complete (asks_alterTable ts)
  split
  · exact (asks_complete (asks_createIndex ts)).map _
  · exact .ok _

end SpannerDdl.Grammar
