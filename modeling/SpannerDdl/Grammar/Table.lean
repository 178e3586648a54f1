import SpannerDdl.Grammar.Type

/-! # Tables and their parts

* `columnDef`: a column with its options.
* `tableConstraint?`: a foreign key or a check, if one comes first.
* `interleaving`, `rowDeletionPolicy`: the clauses behind the primary key.
* `createTable`: a whole `CREATE TABLE` statement.
-/

set_option autoImplicit false

namespace SpannerDdl.Grammar

/-! ## Columns -/

/-- The generation of an identity column may be followed by its options in parentheses. -/
def identityOptions (ts : List Token) : Except Mismatch (List Token) :=
  if atPunct "(" ts then (balanced ts).map Prod.snd else .ok ts

/-- One option of a column, added to what is known of the column. -/
def columnOption (c : ColumnDef) (ts : List Token) : Except Mismatch (ColumnDef × List Token) :=
  if let some rest := keywords? ["NOT", "NULL"] ts then .ok ({ c with notNull := true }, rest)
  else if let some rest := keywords? ["PRIMARY", "KEY"] ts then
    .ok ({ c with primaryKey := true }, rest)
  else if let some rest := keywords? ["HIDDEN"] ts then .ok ({ c with isHidden := true }, rest)
  else if let some rest := keywords? ["PLACEMENT", "KEY"] ts then .ok (c, rest)
  else if let some rest := keywords? ["DEFAULT"] ts then
    (balancedText rest).map fun p => ({ c with defaultSql := p.1 }, p.2)
  else if let some rest := keywords? ["AS"] ts then
    (balancedText rest).map fun p => ({ c with generatedSql := p.1 }, (accept ["STORED"] p.2).2)
  else if let some rest := keywords? ["OPTIONS"] ts then
    (balanced rest).map fun p => (c, p.2)
  else if let some rest := keywords? ["AUTO_INCREMENT"] ts then .ok (c, rest)
  else if let some rest := keywords? ["GENERATED", "BY", "DEFAULT", "AS", "IDENTITY"] ts then
    (identityOptions rest).map fun rest => (c, rest)
  else mismatch "column option" ts

theorem length_of_columnOption {c c' : ColumnDef} {ts rest : List Token}
    (h : columnOption c ts = .ok (c', rest)) : rest.length < ts.length := by
  have flag : ∀ {words : List String} {r : List Token} {d : ColumnDef},
      keywords? words ts = some r → words ≠ [] →
      (Except.ok (d, r) : Except Mismatch (ColumnDef × List Token)) = .ok (c', rest) →
      rest.length < ts.length := by
    intro words r d hw hne hr
    simp only [Except.ok.injEq, Prod.mk.injEq] at hr
    obtain ⟨_, rfl⟩ := hr
    have s1 := length_of_keywords? hw
    have s2 := List.length_pos_iff.2 hne
    omega
  have group : ∀ {words : List String} {r : List Token}
      {f : List Token × List Token → ColumnDef × List Token},
      keywords? words ts = some r → (∀ p, (f p).2.length ≤ p.2.length) →
      (balanced r).map f = .ok (c', rest) → rest.length < ts.length := by
    intro words r f hw hf hr
    cases hb : balanced r with
    | error e => simp [hb, Except.map] at hr
    | ok p =>
      simp only [hb, Except.map, Except.ok.injEq] at hr
      have s1 := length_of_keywords? hw
      have s2 := length_of_balanced (show balanced _ = .ok (p.1, p.2) from hb)
      have s3 := hf p
      rw [hr] at s3
      simp only at s3
      omega
  have text : ∀ {words : List String} {r : List Token} {f : String × List Token →
      ColumnDef × List Token}, keywords? words ts = some r → (∀ p, (f p).2.length ≤ p.2.length) →
      (balancedText r).map f = .ok (c', rest) → rest.length < ts.length := by
    intro words r f hw hf hr
    refine group (f := fun p => f (Token.renderAll p.1, p.2)) hw
      (fun p => hf (Token.renderAll p.1, p.2)) ?_
    cases hb : balanced r with
    | error e => simp [balancedText, hb, Except.map] at hr
    | ok p => simpa [balancedText, hb, Except.map] using hr
  unfold columnOption at h
  split at h
  · rename_i r hr; exact flag hr (by simp) h
  split at h
  · rename_i r hr; exact flag hr (by simp) h
  split at h
  · rename_i r hr; exact flag hr (by simp) h
  split at h
  · rename_i r hr; exact flag hr (by simp) h
  split at h
  · rename_i r hr; exact text hr (fun p => Nat.le_refl _) h
  split at h
  · rename_i r hr; exact text hr (fun p => length_of_accept_le ["STORED"] p.2) h
  split at h
  · rename_i r hr; exact group hr (fun p => Nat.le_refl _) h
  split at h
  · rename_i r hr; exact flag hr (by simp) h
  split at h
  · rename_i r hr
    have s1 := length_of_keywords? hr
    simp only [List.length_cons, List.length_nil] at s1
    unfold identityOptions at h
    split at h
    · cases hb : balanced r with
      | error e => simp [hb, Except.map] at h
      | ok p =>
        simp only [hb, Except.map, Except.ok.injEq, Prod.mk.injEq] at h
        have s2 := length_of_balanced (show balanced _ = .ok (p.1, p.2) from hb)
        obtain ⟨_, rfl⟩ := h
        omega
    · simp only [Except.map, Except.ok.injEq, Prod.mk.injEq] at h
      obtain ⟨_, rfl⟩ := h
      omega
  · simp [mismatch] at h

/-- The options of a column up to a comma, a closing parenthesis or the end. -/
def columnOptions (c : ColumnDef) (ts : List Token) : Except Mismatch (ColumnDef × List Token) :=
  if ts.isEmpty || atPunct "," ts || atPunct ")" ts then .ok (c, ts)
  else
    match h : columnOption c ts with
    | .error e => .error e
    | .ok (c', rest) =>
      have := length_of_columnOption h
      columnOptions c' rest
termination_by ts.length

/-- The recursion of `columnOptions` without its measure. -/
theorem columnOptions_eq (c : ColumnDef) (ts : List Token) : columnOptions c ts =
    if ts.isEmpty || atPunct "," ts || atPunct ")" ts then .ok (c, ts)
    else columnOption c ts >>= fun p => columnOptions p.1 p.2 := by
  rw [columnOptions]
  split
  · rfl
  · split
    · rename_i e h
      simp only [h, bind, Except.bind]
    · rename_i c' rest h
      simp only [h, bind, Except.bind]

/-- A column with its options. -/
def columnDef (ts : List Token) : Except Mismatch (ColumnDef × List Token) := do
  let (name, ts) ← ident ts
  let (type, ts) ← columnType ts
  columnOptions { name, type } ts

theorem length_of_columnOptions {c c' : ColumnDef} {ts rest : List Token}
    (h : columnOptions c ts = .ok (c', rest)) : rest.length ≤ ts.length := by
  fun_induction columnOptions c ts with
  | case1 =>
    simp only [Except.ok.injEq, Prod.mk.injEq] at h
    obtain ⟨_, rfl⟩ := h
    exact Nat.le_refl _
  | case2 => simp at h
  | case3 c ts hs c1 ts1 h1 s1 ih => exact Nat.le_trans (ih h) (Nat.le_of_lt s1)

theorem length_of_columnDef {ts rest : List Token} {c : ColumnDef}
    (h : columnDef ts = .ok (c, rest)) : rest.length < ts.length := by
  obtain ⟨⟨i, ts1⟩, h1, h⟩ := exists_of_bind h
  obtain ⟨⟨t, ts2⟩, h2, h⟩ := exists_of_bind h
  have s1 := length_of_ident h1
  have s2 := length_of_columnType h2
  have s3 := length_of_columnOptions h
  omega

/-! ## Constraints -/

/-- A deletion rule, if one comes first. -/
def onDelete (ts : List Token) : Except Mismatch (OnDelete × List Token) :=
  match keywords? ["ON", "DELETE"] ts with
  | none => .ok (.unspecified, ts)
  | some rest =>
    if let some rest := keywords? ["CASCADE"] rest then .ok (.cascade, rest)
    else if let some rest := keywords? ["NO", "ACTION"] rest then .ok (.noAction, rest)
    else mismatch "CASCADE or NO ACTION" rest

/-- The tokens behind the enforcement of a foreign key, if one is stated. -/
def enforcement (ts : List Token) : List Token :=
  match keywords? ["NOT", "ENFORCED"] ts with
  | some rest => rest
  | none => (accept ["ENFORCED"] ts).2

/-- A foreign key. -/
def foreignKey (ts : List Token) : Except Mismatch (ForeignKeyDef × List Token) := do
  let ts ← expectKeywords ["FOREIGN", "KEY"] ts
  let (columns, ts) ← identList ts
  let ts ← expectKeywords ["REFERENCES"] ts
  let (referencedTable, ts) ← path ts
  let (referencedColumns, ts) ← identList ts
  let (onDelete, ts) ← onDelete ts
  return ({ columns, referencedTable, referencedColumns, onDelete }, enforcement ts)

/-- The body of a constraint. -/
def constraintBody (ts : List Token) : Except Mismatch (ConstraintBody × List Token) :=
  if atKeywords ["FOREIGN", "KEY"] ts then (foreignKey ts).map fun p => (.foreignKey p.1, p.2)
  else match keywords? ["CHECK"] ts with
    | some rest => (balancedText rest).map fun p => (.check p.1, p.2)
    | none => mismatch "FOREIGN KEY or CHECK" ts

/-- A constraint, if one comes first: it has a name or starts as a foreign key or a check does. -/
def tableConstraint? (ts : List Token) : Except Mismatch (Option TableConstraint × List Token) :=
  match keywords? ["CONSTRAINT"] ts with
  | some rest => do
    let (name, rest) ← ident rest
    let (body, rest) ← constraintBody rest
    return (some ⟨body, name⟩, rest)
  | none =>
    if atKeywords ["FOREIGN", "KEY"] ts || atKeywords ["CHECK"] ts then
      (constraintBody ts).map fun p => (some ⟨p.1, .missing⟩, p.2)
    else .ok (none, ts)

theorem length_of_onDelete {ts rest : List Token} {rule : OnDelete}
    (h : onDelete ts = .ok (rule, rest)) : rest.length ≤ ts.length := by
  unfold onDelete at h
  split at h
  · simp only [Except.ok.injEq, Prod.mk.injEq] at h
    obtain ⟨_, rfl⟩ := h
    exact Nat.le_refl _
  · rename_i r hr
    have s1 := length_of_keywords? hr
    split at h
    · rename_i r' hr'
      simp only [Except.ok.injEq, Prod.mk.injEq] at h
      obtain ⟨_, rfl⟩ := h
      have s2 := length_of_keywords? hr'
      omega
    · split at h
      · rename_i r' hr'
        simp only [Except.ok.injEq, Prod.mk.injEq] at h
        obtain ⟨_, rfl⟩ := h
        have s2 := length_of_keywords? hr'
        omega
      · simp [mismatch] at h

theorem length_of_enforcement_le (ts : List Token) : (enforcement ts).length ≤ ts.length := by
  unfold enforcement
  split
  · rename_i r hr
    have s1 := length_of_keywords? hr
    omega
  · exact length_of_accept_le _ _

theorem length_of_foreignKey {ts rest : List Token} {k : ForeignKeyDef}
    (h : foreignKey ts = .ok (k, rest)) : rest.length < ts.length := by
  obtain ⟨ts1, h1, h⟩ := exists_of_bind h
  obtain ⟨⟨_, ts2⟩, h2, h⟩ := exists_of_bind h
  obtain ⟨ts3, h3, h⟩ := exists_of_bind h
  obtain ⟨⟨_, ts4⟩, h4, h⟩ := exists_of_bind h
  obtain ⟨⟨_, ts5⟩, h5, h⟩ := exists_of_bind h
  obtain ⟨⟨_, ts6⟩, h6, h⟩ := exists_of_bind h
  simp only [pure, Except.pure, Except.ok.injEq, Prod.mk.injEq] at h
  obtain ⟨_, rfl⟩ := h
  have s1 := length_of_expectKeywords h1
  have s2 := length_of_identList h2
  have s3 := length_of_expectKeywords h3
  have s4 := length_of_path h4
  have s5 := length_of_identList h5
  have s6 := length_of_onDelete h6
  have s7 := length_of_enforcement_le ts6
  omega

theorem length_of_constraintBody {ts rest : List Token} {b : ConstraintBody}
    (h : constraintBody ts = .ok (b, rest)) : rest.length < ts.length := by
  unfold constraintBody at h
  split at h
  · obtain ⟨p, h1, h2⟩ := exists_of_map h
    simp only [Prod.mk.injEq] at h2
    obtain ⟨_, rfl⟩ := h2
    exact length_of_foreignKey h1
  · split at h
    · rename_i r hr
      obtain ⟨p, h1, h2⟩ := exists_of_map h
      obtain ⟨q, h3, h4⟩ := exists_of_map h1
      simp only [Prod.mk.injEq] at h2
      obtain ⟨_, rfl⟩ := h2
      subst h4
      have s1 := length_of_keywords? hr
      have s2 := length_of_balanced (show balanced _ = .ok (q.1, q.2) from h3)
      show q.2.length < ts.length
      omega
    · simp [mismatch] at h

theorem length_of_tableConstraint? {ts rest : List Token} {c : Option TableConstraint}
    (h : tableConstraint? ts = .ok (c, rest)) :
    rest.length ≤ ts.length ∧ (c.isSome → rest.length < ts.length) := by
  unfold tableConstraint? at h
  split at h
  · rename_i r hr
    obtain ⟨⟨_, ts1⟩, h1, h⟩ := exists_of_bind h
    obtain ⟨⟨_, ts2⟩, h2, h⟩ := exists_of_bind h
    simp only [pure, Except.pure, Except.ok.injEq, Prod.mk.injEq] at h
    obtain ⟨_, rfl⟩ := h
    have s0 := length_of_keywords? hr
    have s1 := length_of_ident h1
    have s2 := length_of_constraintBody h2
    exact ⟨by omega, fun _ => by omega⟩
  · split at h
    · obtain ⟨p, h1, h2⟩ := exists_of_map h
      simp only [Prod.mk.injEq] at h2
      obtain ⟨_, rfl⟩ := h2
      have s1 := length_of_constraintBody h1
      exact ⟨Nat.le_of_lt s1, fun _ => s1⟩
    · simp only [Except.ok.injEq, Prod.mk.injEq] at h
      obtain ⟨rfl, rfl⟩ := h
      exact ⟨Nat.le_refl _, by simp⟩

/-! ## Elements of a table -/

/-- What stands between the parentheses of a table. A synonym leaves no trace in the schema. -/
inductive Element where
  | column (column : ColumnDef)
  | constraint (constraint : TableConstraint)
  | synonym
  deriving DecidableEq, Repr

/-- The column of an element. -/
def Element.column? : Element → Option ColumnDef
  | .column c => some c
  | _ => none

/-- The constraint of an element. -/
def Element.constraint? : Element → Option TableConstraint
  | .constraint c => some c
  | _ => none

/-- A constraint, a synonym or a column. -/
def element (ts : List Token) : Except Mismatch (Element × List Token) :=
  match tableConstraint? ts with
  | .error e => .error e
  | .ok (some c, rest) => .ok (.constraint c, rest)
  | .ok (none, ts) =>
    match keywords? ["SYNONYM"] ts with
    | some rest => (balanced rest).map fun p => (.synonym, p.2)
    | none => (columnDef ts).map fun p => (.column p.1, p.2)

theorem length_of_element {ts rest : List Token} {e : Element} (h : element ts = .ok (e, rest)) :
    rest.length < ts.length := by
  unfold element at h
  split at h
  · simp at h
  · rename_i c ts1 h1
    simp only [Except.ok.injEq, Prod.mk.injEq] at h
    obtain ⟨_, rfl⟩ := h
    exact (length_of_tableConstraint? h1).2 rfl
  · rename_i ts1 h1
    have s1 := (length_of_tableConstraint? h1).1
    split at h
    · rename_i r hr
      obtain ⟨p, h2, h3⟩ := exists_of_map h
      simp only [Prod.mk.injEq] at h3
      obtain ⟨_, rfl⟩ := h3
      have s2 := length_of_keywords? hr
      have s3 := length_of_balanced (show balanced _ = .ok (p.1, p.2) from h2)
      omega
    · obtain ⟨p, h2, h3⟩ := exists_of_map h
      simp only [Prod.mk.injEq] at h3
      obtain ⟨_, rfl⟩ := h3
      have s2 := length_of_columnDef h2
      omega

/-- The elements up to the closing parenthesis, with commas between them and possibly one behind
the last. -/
def elements (ts : List Token) : Except Mismatch (List Element × List Token) :=
  if atPunct ")" ts then .ok ([], ts)
  else
    match h : element ts with
    | .error e => .error e
    | .ok (e, ts1) =>
      match hc : punct? "," ts1 with
      | none => .ok ([e], ts1)
      | some ts2 =>
        have := length_of_element h
        have := length_of_punct? hc
        (elements ts2).map fun p => (e :: p.1, p.2)
termination_by ts.length

/-- The recursion of `elements` without its measure. -/
theorem elements_eq (ts : List Token) : elements ts =
    if atPunct ")" ts then .ok ([], ts)
    else (do
      let (e, ts) ← element ts
      match punct? "," ts with
      | none => .ok ([e], ts)
      | some ts => (elements ts).map fun p => (e :: p.1, p.2)) := by
  rw [elements]
  split
  · rfl
  · split
    · rename_i e h
      rw [h]
      rfl
    · rename_i e ts1 h
      simp only [h, bind, Except.bind]
      split
      · rename_i hc
        simp only [hc]
      · rename_i ts2 hc
        simp only [hc]

/-! ## Clauses behind the primary key -/

/-- An interleaving clause. -/
def interleaving (ts : List Token) : Except Mismatch (Interleaving × List Token) := do
  let ts ← expectKeywords ["INTERLEAVE", "IN"] ts
  let (enforced, ts) := accept ["PARENT"] ts
  let (parent, ts) ← path ts
  let (onDelete, ts) ← onDelete ts
  return ({ parent, onDelete, enforced }, ts)

/-- A row deletion policy. -/
def rowDeletionPolicy (ts : List Token) : Except Mismatch (PolicyDef × List Token) := do
  let ts ← expectKeywords ["ROW", "DELETION", "POLICY"] ts
  let ts ← expectPunct "(" ts
  let ts ← expectKeywords ["OLDER_THAN"] ts
  let ts ← expectPunct "(" ts
  let (column, ts) ← ident ts
  let ts ← expectPunct "," ts
  let ts ← expectKeywords ["INTERVAL"] ts
  let (days, ts) ← intValue ts
  let ts ← expectKeywords ["DAY"] ts
  let ts ← expectPunct ")" ts
  let ts ← expectPunct ")" ts
  return (⟨column, days⟩, ts)

/-- One clause, added to what is known of the table. -/
def tableClause (t : CreateTable) (ts : List Token) : Except Mismatch (CreateTable × List Token) :=
  if atKeywords ["INTERLEAVE"] ts then
    (interleaving ts).map fun p => ({ t with interleaving := some p.1 }, p.2)
  else if atKeywords ["ROW", "DELETION", "POLICY"] ts then
    (rowDeletionPolicy ts).map fun p => ({ t with policy := some p.1 }, p.2)
  else mismatch "INTERLEAVE or ROW DELETION POLICY" ts

theorem length_of_interleaving {ts rest : List Token} {i : Interleaving}
    (h : interleaving ts = .ok (i, rest)) : rest.length < ts.length := by
  obtain ⟨ts1, h1, h⟩ := exists_of_bind h
  obtain ⟨⟨_, ts2⟩, h2, h⟩ := exists_of_bind h
  obtain ⟨⟨_, ts3⟩, h3, h⟩ := exists_of_bind h
  simp only [pure, Except.pure, Except.ok.injEq, Prod.mk.injEq] at h
  obtain ⟨_, rfl⟩ := h
  have s0 := length_of_accept_le ["PARENT"] ts1
  have s1 := length_of_expectKeywords h1
  have s2 : ts2.length < (accept ["PARENT"] ts1).2.length := length_of_path h2
  have s3 := length_of_onDelete h3
  omega

theorem length_of_rowDeletionPolicy {ts rest : List Token} {p : PolicyDef}
    (h : rowDeletionPolicy ts = .ok (p, rest)) : rest.length < ts.length := by
  obtain ⟨ts1, h1, h⟩ := exists_of_bind h
  obtain ⟨ts2, h2, h⟩ := exists_of_bind h
  obtain ⟨ts3, h3, h⟩ := exists_of_bind h
  obtain ⟨ts4, h4, h⟩ := exists_of_bind h
  obtain ⟨⟨_, ts5⟩, h5, h⟩ := exists_of_bind h
  obtain ⟨ts6, h6, h⟩ := exists_of_bind h
  obtain ⟨ts7, h7, h⟩ := exists_of_bind h
  obtain ⟨⟨_, ts8⟩, h8, h⟩ := exists_of_bind h
  obtain ⟨ts9, h9, h⟩ := exists_of_bind h
  obtain ⟨ts10, h10, h⟩ := exists_of_bind h
  obtain ⟨ts11, h11, h⟩ := exists_of_bind h
  simp only [pure, Except.pure, Except.ok.injEq, Prod.mk.injEq] at h
  obtain ⟨_, rfl⟩ := h
  have s1 := length_of_expectKeywords h1
  have s2 := length_of_expectPunct h2
  have s3 := length_of_expectKeywords h3
  have s4 := length_of_expectPunct h4
  have s5 := length_of_ident h5
  have s6 := length_of_expectPunct h6
  have s7 := length_of_expectKeywords h7
  have s8 := length_of_intValue h8
  have s9 := length_of_expectKeywords h9
  have s10 := length_of_expectPunct h10
  have s11 := length_of_expectPunct h11
  omega

theorem length_of_tableClause {t t' : CreateTable} {ts rest : List Token}
    (h : tableClause t ts = .ok (t', rest)) : rest.length < ts.length := by
  unfold tableClause at h
  split at h
  · obtain ⟨p, h1, h2⟩ := exists_of_map h
    simp only [Prod.mk.injEq] at h2
    obtain ⟨_, rfl⟩ := h2
    exact length_of_interleaving h1
  · split at h
    · obtain ⟨p, h1, h2⟩ := exists_of_map h
      simp only [Prod.mk.injEq] at h2
      obtain ⟨_, rfl⟩ := h2
      exact length_of_rowDeletionPolicy h1
    · simp [mismatch] at h

/-- The clauses behind the primary key, each behind a comma. The last one of a kind counts. -/
def tableClauses (t : CreateTable) (ts : List Token) :
    Except Mismatch (CreateTable × List Token) :=
  match hc : punct? "," ts with
  | none => .ok (t, ts)
  | some ts1 =>
    match h : tableClause t ts1 with
    | .error e => .error e
    | .ok (t', ts2) =>
      have := length_of_punct? hc
      have := length_of_tableClause h
      tableClauses t' ts2
termination_by ts.length

/-- The recursion of `tableClauses` without its measure. -/
theorem tableClauses_eq (t : CreateTable) (ts : List Token) : tableClauses t ts =
    match punct? "," ts with
    | none => .ok (t, ts)
    | some rest => tableClause t rest >>= fun p => tableClauses p.1 p.2 := by
  rw [tableClauses]
  split
  · rename_i hc
    simp only [hc]
  · rename_i ts1 hc
    simp only [hc]
    split
    · rename_i e h
      simp only [h, bind, Except.bind]
    · rename_i t' ts2 h
      simp only [h, bind, Except.bind]

/-- The primary key of a table, if it comes first. -/
def primaryKey (ts : List Token) : Except Mismatch (List KeyPart × List Token) :=
  match keywords? ["PRIMARY", "KEY"] ts with
  | some rest => keyList rest
  | none => .ok ([], ts)

/-- A `CREATE TABLE` statement. -/
def createTable (ts : List Token) : Except Mismatch (CreateTable × List Token) := do
  let ts ← expectKeywords ["CREATE", "TABLE"] ts
  let (ifNotExists, ts) := accept ["IF", "NOT", "EXISTS"] ts
  let (name, ts) ← path ts
  let ts ← expectPunct "(" ts
  let (elements, ts) ← elements ts
  let ts ← expectPunct ")" ts
  let (primaryKey, ts) ← primaryKey ts
  let columns := elements.filterMap Element.column?
  let constraints := elements.filterMap Element.constraint?
  tableClauses { name, columns, primaryKey, constraints, ifNotExists } ts

end SpannerDdl.Grammar
