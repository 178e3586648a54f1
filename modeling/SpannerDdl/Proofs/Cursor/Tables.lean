import SpannerDdl.Proofs.Cursor.Types

/-! # Tables and their parts by a cursor

* `columnDef`, `tableConstraint`, `element`: what stands between the parentheses of a table.
* `interleaving`, `rowDeletionPolicy`: the clauses behind the primary key.
* `createTable`: a whole `CREATE TABLE` statement. -/

set_option autoImplicit false

namespace SpannerDdl.Reading

open Grammar

variable {c : Cursor}

/-! ## Columns -/

/-- The options of an identity column, if they stand at the cursor. -/
def identityOptions : Reading Unit := do
  if ← look (·.atPunct "(") then do
    let _ ← balanced
    return ()
  else return ()

/-- One option of a column, added to what is known of the column. -/
def columnOption (column : ColumnDef) : Reading ColumnDef := do
  if ← accept ["NOT", "NULL"] then return { column with notNull := true }
  else if ← accept ["PRIMARY", "KEY"] then return { column with primaryKey := true }
  else if ← accept ["HIDDEN"] then return { column with isHidden := true }
  else if ← accept ["PLACEMENT", "KEY"] then return column
  else if ← accept ["DEFAULT"] then return { column with defaultSql := ← balancedText }
  else if ← accept ["AS"] then do
    let text ← balancedText
    let _ ← accept ["STORED"]
    return { column with generatedSql := text }
  else if ← accept ["OPTIONS"] then do
    let _ ← balanced
    return column
  else if ← accept ["AUTO_INCREMENT"] then return column
  else if ← accept ["GENERATED", "BY", "DEFAULT", "AS", "IDENTITY"] then do
    identityOptions
    return column
  else fail "column option"

/-- The options of a column up to a comma, a closing parenthesis or the end. -/
def columnOptions (column : ColumnDef) : Reading ColumnDef :=
  repeatWhile .columnOption (look fun c => !(c.atEnd || c.atPunct "," || c.atPunct ")"))
    (fun column => do return .yield (← columnOption column)) column

/-- A column with its options. -/
def columnDef : Reading ColumnDef := do
  let name ← ident
  let type ← columnType
  columnOptions { name, type }

theorem follows_identityOptions (hc : c.Ready) :
    Follows c identityOptions (leaving () (Grammar.identityOptions c.left)) := by
  unfold Grammar.identityOptions
  refine .lookPunct (fun h => ?_) (fun h => ?_)
  · rw [if_pos h, leaving, map_map]
    exact (follows_balanced hc.toSound).map fun _ => ()
  · rw [if_neg h]
    exact .pure hc

theorem follows_columnOption (hc : c.Sound) (column : ColumnDef) :
    Follows c (columnOption column) (Grammar.columnOption column c.left) := by
  unfold Grammar.columnOption
  refine .accept hc (by decide) (fun c1 hc1 h => ?notNull) (fun h => ?_)
  case notNull => rw [h]; exact .pure hc1
  rw [h]
  refine .accept hc (by decide) (fun c1 hc1 h => ?primaryKey) (fun h => ?_)
  case primaryKey => rw [h]; exact .pure hc1
  rw [h]
  refine .accept hc (by decide) (fun c1 hc1 h => ?hidden) (fun h => ?_)
  case hidden => rw [h]; exact .pure hc1
  rw [h]
  refine .accept hc (by decide) (fun c1 hc1 h => ?placement) (fun h => ?_)
  case placement => rw [h]; exact .pure hc1
  rw [h]
  refine .accept hc (by decide) (fun c1 hc1 h => ?default) (fun h => ?_)
  case default => rw [h]; exact (follows_balancedText hc1.toSound).map _
  rw [h]
  refine .accept hc (by decide) (fun c1 hc1 h => ?generated) (fun h => ?_)
  case generated =>
    rw [h]
    dsimp only
    rw [map_eq_bind]
    refine (follows_balancedText hc1.toSound).bind fun text c2 hc2 _ => ?_
    exact (follows_accept hc2 (by decide)).bindFound fun c3 hc3 h3 => .pure_of_left hc3 h3
  rw [h]
  refine .accept hc (by decide) (fun c1 hc1 h => ?options) (fun h => ?_)
  case options => rw [h]; exact (follows_balanced hc1.toSound).map _
  rw [h]
  refine .accept hc (by decide) (fun c1 hc1 h => ?autoIncrement) (fun h => ?_)
  case autoIncrement => rw [h]; exact .pure hc1
  rw [h]
  refine .accept hc (by decide) (fun c1 hc1 h => ?identity) (fun h => ?_)
  case identity =>
    rw [h]
    dsimp only
    rw [map_eq_bind]
    exact (follows_identityOptions hc1).andThen fun c2 hc2 _ => .pure hc2
  rw [h]
  exact .fail hc

theorem follows_columnOptions (hc : c.Ready) (column : ColumnDef) :
    Follows c (columnOptions column) (Grammar.columnOptions column c.left) := by
  induction h : c.left.length using Nat.strongRecOn generalizing c column with
  | _ n ih =>
    rw [columnOptions_eq]
    have test : (!(c.atEnd || c.atPunct "," || c.atPunct ")")) =
        !(c.left.isEmpty || Grammar.atPunct "," c.left || Grammar.atPunct ")" c.left) := by
      rw [Cursor.atEnd_eq, Cursor.atPunct_eq, Cursor.atPunct_eq]
    refine .turn hc (fun hb c1 hc1 h1 => ?_) (fun hb => ?_)
    · rw [test, Bool.not_eq_true'] at hb
      rw [if_neg (Bool.eq_false_iff.1 hb), ← h1, bind_assoc]
      simp only [pure_bind]
      refine (follows_columnOption hc1 column).bind fun column' c2 hc2 h2 => ?_
      have s1 := length_of_columnOption h2
      rw [h1] at s1
      exact ih c2.left.length (by omega) hc2 column' rfl
    · rw [test, Bool.not_eq_false'] at hb
      rw [if_pos hb]

theorem follows_columnDef (hc : c.Sound) : Follows c columnDef (Grammar.columnDef c.left) := by
  refine (follows_ident hc).bind fun name c1 hc1 _ => ?_
  refine (follows_columnType hc1).bind fun type c2 hc2 _ => ?_
  exact follows_columnOptions hc2 _

/-! ## Constraints -/

/-- A deletion rule, if one stands at the cursor. -/
def onDelete : Reading OnDelete := do
  if ← accept ["ON", "DELETE"] then do
    if ← accept ["CASCADE"] then return .cascade
    else if ← accept ["NO", "ACTION"] then return .noAction
    else fail "CASCADE or NO ACTION"
  else return .unspecified

/-- Moves behind the enforcement of a foreign key, if one is stated. -/
def enforcement : Reading Unit := do
  if ← accept ["NOT", "ENFORCED"] then return ()
  else do
    let _ ← accept ["ENFORCED"]
    return ()

/-- A foreign key. -/
def foreignKey : Reading ForeignKeyDef := do
  expect ["FOREIGN", "KEY"]
  let columns ← identList
  expect ["REFERENCES"]
  let referencedTable ← path
  let referencedColumns ← identList
  let onDelete ← onDelete
  enforcement
  return { columns, referencedTable, referencedColumns, onDelete }

/-- The body of a constraint. -/
def constraintBody : Reading ConstraintBody := do
  if ← look (·.atKeywords ["FOREIGN", "KEY"]) then return .foreignKey (← foreignKey)
  else if ← accept ["CHECK"] then return .check (← balancedText)
  else fail "FOREIGN KEY or CHECK"

/-- A constraint, if one stands at the cursor: it has a name or starts as a foreign key or a check
does. -/
def tableConstraint : Reading (Option TableConstraint) := do
  if ← accept ["CONSTRAINT"] then do
    let name ← ident
    let body ← constraintBody
    return some ⟨body, name⟩
  else if ← look (fun c => c.atKeywords ["FOREIGN", "KEY"] || c.atKeywords ["CHECK"]) then
    return some ⟨← constraintBody, .missing⟩
  else return none

theorem follows_onDelete (hc : c.Ready) : Follows c onDelete (Grammar.onDelete c.left) := by
  unfold Grammar.onDelete
  refine .accept hc.toSound (by decide) (fun c1 hc1 h => ?_) (fun h => ?_)
  · rw [h]
    refine .accept hc1.toSound (by decide) (fun c2 hc2 h => ?cascade) (fun h => ?_)
    case cascade => dsimp only; rw [h]; exact .pure hc2
    dsimp only
    rw [h]
    refine .accept hc1.toSound (by decide) (fun c2 hc2 h => ?noAction) (fun h => ?_)
    case noAction => rw [h]; exact .pure hc2
    rw [h]
    exact .fail hc1.toSound
  · rw [h]
    exact .pure hc

theorem follows_enforcement (hc : c.Ready) :
    Follows c enforcement (.ok ((), Grammar.enforcement c.left)) := by
  unfold Grammar.enforcement
  refine .accept hc.toSound (by decide) (fun c1 hc1 h => ?_) (fun h => ?_)
  · rw [h]
    exact .pure hc1
  · rw [h]
    exact (follows_accept hc (by decide)).bindFound fun c1 hc1 h1 => .pure_of_left hc1 h1

theorem follows_foreignKey (hc : c.Sound) : Follows c foreignKey (Grammar.foreignKey c.left) := by
  refine (follows_expect hc (by decide)).andThen fun c1 hc1 _ => ?_
  refine (follows_identList hc1.toSound).bind fun columns c2 hc2 _ => ?_
  refine (follows_expect hc2.toSound (by decide)).andThen fun c3 hc3 _ => ?_
  refine (follows_path hc3.toSound).bind fun referencedTable c4 hc4 _ => ?_
  refine (follows_identList hc4.toSound).bind fun referencedColumns c5 hc5 _ => ?_
  refine (follows_onDelete hc5).bind fun rule c6 hc6 _ => ?_
  refine (follows_enforcement hc6).bindFound fun c7 hc7 h7 => ?_
  dsimp only at h7 ⊢
  exact .pure_of_left hc7 h7

theorem follows_constraintBody (hc : c.Sound) :
    Follows c constraintBody (Grammar.constraintBody c.left) := by
  unfold Grammar.constraintBody
  refine .lookKeywords (by decide) (fun h => ?foreignKey) (fun h => ?_)
  case foreignKey => rw [if_pos h]; exact (follows_foreignKey hc).map _
  rw [if_neg h]
  refine .accept hc (by decide) (fun c1 hc1 h => ?check) (fun h => ?_)
  case check => rw [h]; exact (follows_balancedText hc1.toSound).map _
  rw [h]
  exact .fail hc

/-- Whether the tokens start as a constraint does. -/
def startsConstraint (ts : List Token) : Bool :=
  Grammar.atKeywords ["CONSTRAINT"] ts || Grammar.atKeywords ["FOREIGN", "KEY"] ts ||
    Grammar.atKeywords ["CHECK"] ts

theorem follows_tableConstraint (hc : c.Sound) (h : startsConstraint c.left = true) :
    Follows c tableConstraint (tableConstraint? c.left) := by
  unfold tableConstraint?
  refine .accept hc (by decide) (fun c1 hc1 h1 => ?_) (fun h1 => ?_)
  · rw [h1]
    refine (follows_ident hc1.toSound).bind fun name c2 hc2 _ => ?_
    exact (follows_constraintBody hc2.toSound).bind fun body c3 hc3 _ => .pure hc3
  · have start : (Grammar.atKeywords ["FOREIGN", "KEY"] c.left ||
        Grammar.atKeywords ["CHECK"] c.left) = true := by
      rw [startsConstraint, Grammar.atKeywords, h1] at h
      exact h
    rw [h1]
    dsimp only
    rw [if_pos start]
    refine .look (fun _ => (follows_constraintBody hc).map _) (fun h2 => ?_)
    rw [Cursor.atKeywords_eq (by decide), Cursor.atKeywords_eq (by decide), start] at h2
    cases h2

/-- Where nothing starts as a constraint does, the cursor stays. -/
theorem tableConstraint_of_no_start (h : startsConstraint c.left = false) :
    tableConstraint.outcome c = some (.ok none, c) ∧
      tableConstraint? c.left = .ok (none, c.left) := by
  rw [startsConstraint, Bool.or_assoc, Bool.or_eq_false_iff] at h
  have named : keywords? ["CONSTRAINT"] c.left = none := by
    simpa [Grammar.atKeywords] using h.1
  have notFound : (c.atKeywords ["FOREIGN", "KEY"] || c.atKeywords ["CHECK"]) = false := by
    rw [Cursor.atKeywords_eq (by decide), Cursor.atKeywords_eq (by decide)]
    exact h.2
  constructor
  · rw [tableConstraint, outcome_bind_of_ok (accept_of_no_keywords (by decide) named)]
    refine (outcome_bind_of_ok (outcome_look c _) _).trans ?_
    rw [notFound]
    rfl
  · rw [tableConstraint?, named]
    dsimp only
    rw [h.2]
    rfl

/-! ## Elements of a table -/

/-- A synonym or a column. -/
def synonymOrColumn : Reading Element := do
  if ← look (·.atKeywords ["SYNONYM"]) then do
    let _ ← next
    let _ ← balanced
    return .synonym
  else return .column (← columnDef)

/-- A constraint, a synonym or a column. -/
def element : Reading Element := do
  match ← tableConstraint with
  | some constraint => return .constraint constraint
  | none => synonymOrColumn

/-- An element behind others, and whether one may follow. -/
def elementTurn (es : List Element) : Reading (ForInStep (List Element)) := do
  let e ← element
  if ← acceptPunct "," then return .yield (es ++ [e]) else return .done (es ++ [e])

/-- The elements up to the closing parenthesis, with commas between them and possibly one behind
the last. -/
def elements : Reading (List Element) :=
  repeatWhile .element (look fun c => !c.atPunct ")") elementTurn []

/-- A synonym or a column at the front of the tokens. -/
def readSynonymOrColumn (ts : List Token) : Except Mismatch (Element × List Token) :=
  match keywords? ["SYNONYM"] ts with
  | some rest => (Grammar.balanced rest).map fun p => (.synonym, p.2)
  | none => (Grammar.columnDef ts).map fun p => (.column p.1, p.2)

theorem element_eq (ts : List Token) : Grammar.element ts = tableConstraint? ts >>= fun p =>
    match p.1 with
    | some constraint => .ok (.constraint constraint, p.2)
    | none => readSynonymOrColumn p.2 := by
  rw [Grammar.element]
  match tableConstraint? ts with
  | .error m => rfl
  | .ok (some constraint, rest) => rfl
  | .ok (none, rest) => rfl

theorem follows_synonymOrColumn (hc : c.Sound) :
    Follows c synonymOrColumn (readSynonymOrColumn c.left) := by
  rw [readSynonymOrColumn]
  refine .lookKeywords (by decide) (fun h => ?_) (fun h => ?_)
  · have seen : keywords? ["SYNONYM"] c.left = some (c.left.drop 1) := by
      obtain ⟨rest, hr⟩ := Option.isSome_iff_exists.1 h
      rw [hr, List.suffix_iff_eq_drop.1 (suffix_of_keywords? hr), ← length_of_keywords? hr]
      simp
    rw [seen]
    refine .skipKeyword hc h fun c1 hc1 h1 => ?_
    rw [← h1]
    exact (follows_balanced hc1.toSound).map fun _ => Element.synonym
  · rw [Option.not_isSome_iff_eq_none.1 h]
    exact (follows_columnDef hc).map Element.column

theorem follows_element (hc : c.Sound) : Follows c element (Grammar.element c.left) := by
  rw [element_eq]
  cases h : startsConstraint c.left with
  | true =>
    refine (follows_tableConstraint hc h).bind fun constraint c1 hc1 _ => ?_
    cases constraint with
    | some constraint => exact .pure hc1
    | none => exact follows_synonymOrColumn hc1.toSound
  | false =>
    obtain ⟨ends, read⟩ := tableConstraint_of_no_start h
    rw [read]
    exact (follows_synonymOrColumn hc).behind (.refl c) (outcome_bind_of_ok ends _)

theorem follows_elementsBehind (hc : c.Ready) (es : List Element) :
    Follows c (repeatWhile .element (look fun c => !c.atPunct ")") elementTurn es)
      ((Grammar.elements c.left).map fun p => (es ++ p.1, p.2)) := by
  induction h : c.left.length using Nat.strongRecOn generalizing c es with
  | _ n ih =>
    rw [elements_eq]
    refine .turn hc (fun hb c1 hc1 h1 => ?_) (fun hb => ?_)
    · rw [Cursor.atPunct_eq, Bool.not_eq_true'] at hb
      rw [if_neg (Bool.eq_false_iff.1 hb), ← h1, elementTurn, bind_assoc, map_bind]
      refine (follows_element hc1).bind fun e c2 hc2 h2 => ?_
      dsimp only
      rw [bind_assoc]
      refine .acceptPunct hc2.toSound (fun c3 hc3 h3 => ?_) (fun h3 => ?_)
      · have s1 := length_of_element h2
        have s2 := length_of_punct? h3
        rw [h1] at s1
        have further := ih c3.left.length (by omega) hc3 (es ++ [e]) rfl
        rw [h3, map_map]
        simp only [List.append_assoc, List.singleton_append] at further
        exact further
      · rw [h3]
        exact .pure hc2
    · rw [Cursor.atPunct_eq, Bool.not_eq_false'] at hb
      rw [if_pos hb]
      simp [Except.map]

theorem follows_elements (hc : c.Ready) : Follows c elements (Grammar.elements c.left) := by
  have all : ((Grammar.elements c.left).map fun p => (([] : List Element) ++ p.1, p.2)) =
      Grammar.elements c.left := by
    cases Grammar.elements c.left <;> rfl
  exact all ▸ follows_elementsBehind hc []

/-! ## Clauses behind the primary key -/

/-- An interleaving clause. -/
def interleaving : Reading Interleaving := do
  expect ["INTERLEAVE", "IN"]
  let enforced ← accept ["PARENT"]
  let parent ← path
  let onDelete ← onDelete
  return { parent, onDelete, enforced }

/-- A row deletion policy. -/
def rowDeletionPolicy : Reading PolicyDef := do
  expect ["ROW", "DELETION", "POLICY"]
  expectPunct "("
  expect ["OLDER_THAN"]
  expectPunct "("
  let column ← ident
  expectPunct ","
  expect ["INTERVAL"]
  let days ← intValue
  expect ["DAY"]
  expectPunct ")"
  expectPunct ")"
  return ⟨column, days⟩

/-- One clause, added to what is known of the table. -/
def tableClause (t : CreateTable) : Reading CreateTable := do
  if ← look (·.atKeywords ["INTERLEAVE"]) then
    return { t with interleaving := some (← interleaving) }
  else if ← look (·.atKeywords ["ROW", "DELETION", "POLICY"]) then
    return { t with policy := some (← rowDeletionPolicy) }
  else fail "INTERLEAVE or ROW DELETION POLICY"

/-- The clauses behind the primary key, each behind a comma. The last one of a kind counts. -/
def tableClauses (t : CreateTable) : Reading CreateTable :=
  repeatWhile .tableClause (acceptPunct ",") (fun t => do return .yield (← tableClause t)) t

/-- The primary key of a table, if it stands at the cursor. -/
def primaryKey : Reading (List KeyPart) := do
  if ← accept ["PRIMARY", "KEY"] then keyList else return []

/-- A `CREATE TABLE` statement. -/
def createTable : Reading CreateTable := do
  expect ["CREATE", "TABLE"]
  let ifNotExists ← accept ["IF", "NOT", "EXISTS"]
  let name ← path
  expectPunct "("
  let elements ← elements
  expectPunct ")"
  let primaryKey ← primaryKey
  let columns := elements.filterMap Element.column?
  let constraints := elements.filterMap Element.constraint?
  tableClauses { name, columns, primaryKey, constraints, ifNotExists }

theorem follows_interleaving (hc : c.Sound) :
    Follows c interleaving (Grammar.interleaving c.left) := by
  refine (follows_expect hc (by decide)).andThen fun c1 hc1 _ => ?_
  refine (follows_accept hc1 (by decide)).bindFound fun c2 hc2 h2 => ?_
  dsimp only at h2 ⊢
  rw [← h2]
  refine (follows_path hc2.toSound).bind fun parent c3 hc3 _ => ?_
  exact (follows_onDelete hc3).bind fun rule c4 hc4 _ => .pure hc4

theorem follows_rowDeletionPolicy (hc : c.Sound) :
    Follows c rowDeletionPolicy (Grammar.rowDeletionPolicy c.left) := by
  refine (follows_expect hc (by decide)).andThen fun c1 hc1 _ => ?_
  refine (follows_expectPunct hc1.toSound _).andThen fun c2 hc2 _ => ?_
  refine (follows_expect hc2.toSound (by decide)).andThen fun c3 hc3 _ => ?_
  refine (follows_expectPunct hc3.toSound _).andThen fun c4 hc4 _ => ?_
  refine (follows_ident hc4.toSound).bind fun column c5 hc5 _ => ?_
  refine (follows_expectPunct hc5.toSound _).andThen fun c6 hc6 _ => ?_
  refine (follows_expect hc6.toSound (by decide)).andThen fun c7 hc7 _ => ?_
  refine (follows_intValue hc7).bind fun days c8 hc8 _ => ?_
  refine (follows_expect hc8.toSound (by decide)).andThen fun c9 hc9 _ => ?_
  refine (follows_expectPunct hc9.toSound _).andThen fun c10 hc10 _ => ?_
  refine (follows_expectPunct hc10.toSound _).andThen fun c11 hc11 _ => ?_
  exact .pure hc11

theorem follows_tableClause (hc : c.Sound) (t : CreateTable) :
    Follows c (tableClause t) (Grammar.tableClause t c.left) := by
  unfold Grammar.tableClause
  refine .lookKeywords (by decide) (fun h => ?interleaving) (fun h => ?_)
  case interleaving => rw [if_pos h]; exact (follows_interleaving hc).map _
  rw [if_neg h]
  refine .lookKeywords (by decide) (fun h => ?policy) (fun h => ?_)
  case policy => rw [if_pos h]; exact (follows_rowDeletionPolicy hc).map _
  rw [if_neg h]
  exact .fail hc

theorem follows_tableClauses (hc : c.Ready) (t : CreateTable) :
    Follows c (tableClauses t) (Grammar.tableClauses t c.left) := by
  induction h : c.left.length using Nat.strongRecOn generalizing c t with
  | _ n ih =>
    rw [tableClauses_eq]
    refine .turnBehind hc (fun c1 hc1 h1 => ?_) (fun h1 => ?_)
    · rw [h1, bind_assoc]
      simp only [pure_bind]
      refine (follows_tableClause hc1.toSound t).bind fun t' c2 hc2 h2 => ?_
      have s1 := length_of_punct? h1
      have s2 := length_of_tableClause h2
      exact ih c2.left.length (by omega) hc2 t' rfl
    · rw [h1]

theorem follows_primaryKey (hc : c.Ready) : Follows c primaryKey (Grammar.primaryKey c.left) := by
  unfold Grammar.primaryKey
  refine .accept hc.toSound (by decide) (fun c1 hc1 h => ?_) (fun h => ?_)
  · rw [h]
    exact follows_keyList hc1.toSound
  · rw [h]
    exact .pure hc

theorem follows_createTable (hc : c.Sound) :
    Follows c createTable (Grammar.createTable c.left) := by
  refine (follows_expect hc (by decide)).andThen fun c1 hc1 _ => ?_
  refine (follows_accept hc1 (by decide)).bindFound fun c2 hc2 h2 => ?_
  dsimp only at h2 ⊢
  rw [← h2]
  refine (follows_path hc2.toSound).bind fun name c3 hc3 _ => ?_
  refine (follows_expectPunct hc3.toSound _).andThen fun c4 hc4 _ => ?_
  refine (follows_elements hc4).bind fun elements c5 hc5 _ => ?_
  refine (follows_expectPunct hc5.toSound _).andThen fun c6 hc6 _ => ?_
  refine (follows_primaryKey hc6).bind fun primaryKey c7 hc7 _ => ?_
  exact follows_tableClauses hc7 _

end SpannerDdl.Reading
