import SpannerDdl.Proofs.Grammar.SpelledStatements

/-! # Every statement can be written and is read back

* `Statement.Spellable s`: the tree `s` has all that a text has to state.
* `Statement.exists_spelled`: such a tree has a spelling.
* `Statement.read_spellings`: it has one, and each of its spellings is read as that tree. -/

set_option autoImplicit false

namespace SpannerDdl

open Grammar

/-! ## Trees that can be written -/

/-- The text is that of tokens with matching parentheses. -/
def Rendered (text : String) : Prop := ∃ g, Balanced g ∧ Token.renderAll g = text

structure Path.Spellable (p : Path) : Prop where
  nonempty : p.idents ≠ []
  given : ∀ i ∈ p.idents, i ≠ .missing

def IntValue.Spellable : IntValue → Prop
  | .literal _ => True
  | .param _ => True
  | .cast value => value.Spellable
  | .unknown => False
  | .missing => False

/-- The name of a sized type is kept in upper case. A path of one name must not be the name of a
type that stands alone. -/
def ColumnType.Spellable : ColumnType → Prop
  | .scalar name => name ∈ scalarTypes
  | .sized name true size => Text.upper name = name ∧ size = .missing
  | .sized name false size => Text.upper name = name ∧ size.Spellable
  | .array item length => item.Spellable ∧ (length = .missing ∨ length.Spellable)
  | .named path => Path.Spellable ⟨path⟩ ∧ ∀ i, path = [i] → Text.upper i.name ∉ scalarTypes
  | .custom _ => False
  | .missing => False

structure ColumnDef.Spellable (c : ColumnDef) : Prop where
  name : c.name ≠ .missing
  type : c.type.Spellable
  default' : Rendered c.defaultSql
  generated : Rendered c.generatedSql

structure ForeignKeyDef.Spellable (k : ForeignKeyDef) : Prop where
  columns : ∀ i ∈ k.columns, i ≠ .missing
  referencedTable : k.referencedTable.Spellable
  referencedColumns : ∀ i ∈ k.referencedColumns, i ≠ .missing

def ConstraintBody.Spellable : ConstraintBody → Prop
  | .foreignKey k => k.Spellable
  | .check text => Rendered text
  | .other => False

structure PolicyDef.Spellable (p : PolicyDef) : Prop where
  column : p.column ≠ .missing
  days : p.days.Spellable

structure CreateTable.Spellable (t : CreateTable) : Prop where
  name : t.name.Spellable
  columns : ∀ c ∈ t.columns, c.Spellable
  primaryKey : ∀ k ∈ t.primaryKey, k.name ≠ .missing
  constraints : ∀ c ∈ t.constraints, c.body.Spellable
  interleaving : ∀ i ∈ t.interleaving, i.parent.Spellable
  policy : ∀ p ∈ t.policy, p.Spellable

/-- The text about an altered column is that of any tokens. -/
def Alteration.Spellable : Alteration → Prop
  | .addColumn c _ => c.Spellable
  | .addConstraint c => c.body.Spellable
  | .dropColumn name => name ≠ .missing
  | .dropConstraint name => name ≠ .missing
  | .setInterleaving parent _ => parent.Spellable
  | .addPolicy p => p.Spellable
  | .replacePolicy p => p.Spellable
  | .dropPolicy => True
  | .alterColumn name text => name ≠ .missing ∧ ∃ ts, Token.renderAll ts = text
  | .setOnDelete rule => rule ≠ .unspecified
  | .setOptions text => Rendered text
  | .other _ => False

structure CreateIndex.Spellable (i : CreateIndex) : Prop where
  name : i.name.Spellable
  table : i.table.Spellable
  keys : ∀ k ∈ i.keys, k.name ≠ .missing
  storing : ∀ names ∈ i.storing, ∀ name ∈ names, name ≠ .missing
  interleaveIn : ∀ name ∈ i.interleaveIn, name ≠ .missing

def Statement.Spellable : Statement → Prop
  | .createTable t => t.Spellable
  | .alterTable name change => name.Spellable ∧ change.Spellable
  | .createIndex i => i.Spellable
  | .other _ _ => False

/-! ## Lists and groups -/

namespace Grammar

variable {α : Type} {one : α → List Token → Prop}

theorem exists_keyword (word : String) (h : Text.upper word = word) :
    ∃ t : Token, t.isKeyword word = true := by
  refine ⟨⟨.word, word, 0, 0⟩, ?_⟩
  rw [Token.isKeyword, beq_iff_eq]
  exact h

theorem exists_punct (text : String) : ∃ t : Token, t.isPunct text = true := by
  refine ⟨⟨.punct, text, 0, 0⟩, ?_⟩
  rw [Token.isPunct, Bool.and_eq_true, beq_iff_eq, beq_iff_eq]
  exact ⟨rfl, rfl⟩

theorem exists_token (kind : TokenKind) (text : String) :
    ∃ t : Token, t.kind = kind ∧ t.text = text :=
  ⟨⟨kind, text, 0, 0⟩, rfl, rfl⟩

theorem exists_keywords (words : List String) (h : ∀ word ∈ words, Text.upper word = word) :
    ∃ ts, Keywords words ts := by
  induction words with
  | nil => exact ⟨[], .nil⟩
  | cons word words ih =>
    obtain ⟨t, ht⟩ := exists_keyword word (h word List.mem_cons_self)
    obtain ⟨ts, hts⟩ := ih fun other ho => h other (List.mem_cons_of_mem word ho)
    exact ⟨t :: ts, .cons ht hts⟩

theorem exists_clause {spelled : List Token → Prop} (h : ∃ ts, spelled ts) (b : Bool) :
    ∃ ts, Clause spelled b ts := by
  cases b with
  | false => exact ⟨[], .absent⟩
  | true =>
    obtain ⟨ts, hts⟩ := h
    exact ⟨ts, .given hts⟩

theorem exists_separated (separator : String) {as : List α} (hne : as ≠ [])
    (h : ∀ a ∈ as, ∃ ts, one a ts) : ∃ ts, Separated separator one as ts := by
  induction as with
  | nil => exact absurd rfl hne
  | cons a as ih =>
    obtain ⟨ts, hts⟩ := h a List.mem_cons_self
    by_cases hnil : as = []
    · subst hnil
      exact ⟨ts, .last hts⟩
    · obtain ⟨ts', hts'⟩ := ih hnil fun a' ha => h a' (List.mem_cons_of_mem a ha)
      obtain ⟨s, hs⟩ := exists_punct separator
      exact ⟨ts ++ s :: ts', .more hts hs hts'⟩

theorem exists_listed (as : List α) (h : ∀ a ∈ as, ∃ ts, one a ts) : ∃ ts, Listed one as ts := by
  obtain ⟨p, hp⟩ := exists_punct "("
  obtain ⟨q, hq⟩ := exists_punct ")"
  by_cases hne : as = []
  · subst hne
    exact ⟨[p, q], .none hp hq⟩
  · obtain ⟨ts, hts⟩ := exists_separated "," hne h
    exact ⟨p :: ts ++ [q], .some hp hts hq⟩

theorem exists_behind (a : Option α) (h : ∀ b ∈ a, ∃ ts, one b ts) : ∃ ts, Behind one a ts := by
  cases a with
  | none => exact ⟨[], .absent⟩
  | some b =>
    obtain ⟨c, hc⟩ := exists_punct ","
    obtain ⟨ts, hts⟩ := h b rfl
    exact ⟨c :: ts, .given hc hts⟩

theorem exists_group {text : String} (h : Rendered text) : ∃ ts, Group text ts := by
  obtain ⟨g, hg, rfl⟩ := h
  obtain ⟨p, hp⟩ := exists_punct "("
  obtain ⟨q, hq⟩ := exists_punct ")"
  exact ⟨p :: g ++ [q], .mk hp hg hq⟩

theorem exists_expression {before after : List String} {text : String}
    (hb : ∀ word ∈ before, Text.upper word = word) (ha : ∀ word ∈ after, Text.upper word = word)
    (h : Rendered text) : ∃ ts, Expression before after text ts := by
  obtain ⟨ks, hk⟩ := exists_keywords before hb
  obtain ⟨g, hg⟩ := exists_group h
  obtain ⟨ks', hk'⟩ := exists_keywords after ha
  exact ⟨ks ++ (g ++ ks'), .given hk hg hk'⟩

end Grammar

/-! ## Names, values and types -/

theorem Ident.exists_spelled {i : Ident} (h : i ≠ .missing) : ∃ ts, i.Spelled ts := by
  cases i with
  | named name =>
    obtain ⟨t, ht, rfl⟩ := exists_token .ident name
    exact ⟨[t], .named ht⟩
  | missing => exact absurd rfl h

theorem Path.exists_spelled {p : Path} (h : p.Spellable) : ∃ ts, p.Spelled ts :=
  exists_separated "." h.nonempty fun i hi => Ident.exists_spelled (h.given i hi)

theorem KeyPart.exists_spelled {k : KeyPart} (h : k.name ≠ .missing) : ∃ ts, k.Spelled ts := by
  obtain ⟨name, direction⟩ := k
  cases name with
  | missing => exact absurd rfl h
  | named name =>
    obtain ⟨t, ht, rfl⟩ := exists_token .ident name
    cases direction with
    | none => exact ⟨[t], .plain ht⟩
    | some direction =>
      have upper : Text.upper direction.keyword = direction.keyword := by
        cases direction <;> decide
      obtain ⟨d, hd⟩ := exists_keyword direction.keyword upper
      exact ⟨[t, d], .directed ht hd⟩

theorem IntValue.exists_spelled {v : IntValue} (h : v.Spellable) : ∃ ts, v.Spelled ts := by
  induction v with
  | literal value =>
    obtain ⟨t, ht, rfl⟩ := exists_token .number value
    exact ⟨[t], .literal ht⟩
  | param name =>
    obtain ⟨a, ha⟩ := exists_punct "@"
    obtain ⟨t, ht, rfl⟩ := exists_token .ident name
    exact ⟨[a, t], .param ha ht⟩
  | cast value ih =>
    obtain ⟨ts, hts⟩ := ih h
    obtain ⟨c, hc⟩ := exists_keyword "CAST" (by decide)
    obtain ⟨a, ha⟩ := exists_keyword "AS" (by decide)
    obtain ⟨i, hi⟩ := exists_keyword "INT64" (by decide)
    obtain ⟨p, hp⟩ := exists_punct "("
    obtain ⟨q, hq⟩ := exists_punct ")"
    exact ⟨_, .cast hc hp hts ha hi hq⟩
  | unknown => exact absurd h id
  | missing => exact absurd h id

theorem exists_typeWord {name : String} (h : Text.upper name = name) :
    ∃ t, TypeWord name t := by
  refine ⟨⟨.ident, name, 0, 0⟩, .inl rfl, ?_, h⟩
  exact Token.isKeyword_of_ident rfl (by decide)

theorem exists_lengthSpelled {length : IntValue} (h : length = .missing ∨ length.Spellable) :
    ∃ ts, LengthSpelled length ts := by
  rcases h with rfl | h
  · exact ⟨[], .absent⟩
  · obtain ⟨ts, hts⟩ := IntValue.exists_spelled h
    obtain ⟨p, hp⟩ := exists_punct "("
    obtain ⟨k, hk⟩ := exists_keyword "VECTOR_LENGTH" (by decide)
    obtain ⟨a, ha⟩ := exists_punct "=>"
    obtain ⟨q, hq⟩ := exists_punct ")"
    exact ⟨_, .given hp hk (.one ha) hts hq⟩

theorem ColumnType.exists_spelled {type : ColumnType} (h : type.Spellable) :
    ∃ ts, type.Spelled ts := by
  induction type with
  | scalar name =>
    have upper : ∀ name ∈ scalarTypes, Text.upper name = name := by decide
    obtain ⟨t, ht⟩ := exists_typeWord (upper name h)
    exact ⟨[t], .scalar ht h⟩
  | sized name max size =>
    obtain ⟨p, hp⟩ := exists_punct "("
    obtain ⟨q, hq⟩ := exists_punct ")"
    cases max with
    | true =>
      obtain ⟨upper, rfl⟩ := h
      obtain ⟨t, ht⟩ := exists_typeWord upper
      obtain ⟨m, hm⟩ := exists_keyword "MAX" (by decide)
      exact ⟨_, .greatest ht hp hm hq⟩
    | false =>
      obtain ⟨t, ht⟩ := exists_typeWord h.1
      obtain ⟨ts, hts⟩ := IntValue.exists_spelled h.2
      exact ⟨_, .sized ht hp hts hq⟩
  | array item length ih =>
    obtain ⟨ts, hts⟩ := ih h.1
    obtain ⟨ls, hls⟩ := exists_lengthSpelled h.2
    obtain ⟨a, ha⟩ := exists_keyword "ARRAY" (by decide)
    obtain ⟨p, hp⟩ := exists_punct "<"
    obtain ⟨q, hq⟩ := exists_punct ">"
    exact ⟨_, .array ha hp hts hq hls⟩
  | named path =>
    obtain ⟨ts, hts⟩ := Path.exists_spelled h.1
    exact ⟨ts, .named hts h.2⟩
  | custom sql? => exact absurd h id
  | missing => exact absurd h id

/-! ## Parts of a table -/

theorem ColumnDef.exists_spelled {c : ColumnDef} (h : c.Spellable) : ∃ ts, c.Spelled ts := by
  obtain ⟨name, hname⟩ := Ident.exists_spelled h.name
  obtain ⟨type, htype⟩ := ColumnType.exists_spelled h.type
  obtain ⟨notNull, hnotNull⟩ :=
    exists_clause (exists_keywords ["NOT", "NULL"] (by decide)) c.notNull
  obtain ⟨key, hkey⟩ := exists_clause (exists_keywords ["PRIMARY", "KEY"] (by decide)) c.primaryKey
  obtain ⟨hidden, hhidden⟩ := exists_clause (exists_keywords ["HIDDEN"] (by decide)) c.isHidden
  obtain ⟨default', hdefault⟩ : ∃ ts, Expression ["DEFAULT"] [] c.defaultSql ts :=
    exists_expression (by decide) (by decide) h.default'
  obtain ⟨generated, hgenerated⟩ : ∃ ts, Expression ["AS"] ["STORED"] c.generatedSql ts :=
    exists_expression (by decide) (by decide) h.generated
  exact ⟨_, .mk hname htype hnotNull hkey hhidden hdefault hgenerated⟩

theorem OnDelete.exists_spelled (rule : OnDelete) : ∃ ts, rule.Spelled ts := by
  cases rule with
  | unspecified => exact ⟨[], .unspecified⟩
  | cascade =>
    obtain ⟨ts, hts⟩ := exists_keywords ["ON", "DELETE", "CASCADE"] (by decide)
    exact ⟨ts, .cascade hts⟩
  | noAction =>
    obtain ⟨ts, hts⟩ := exists_keywords ["ON", "DELETE", "NO", "ACTION"] (by decide)
    exact ⟨ts, .noAction hts⟩

theorem ForeignKeyDef.exists_spelled {k : ForeignKeyDef} (h : k.Spellable) :
    ∃ ts, k.Spelled ts := by
  obtain ⟨ks, hk⟩ := exists_keywords ["FOREIGN", "KEY"] (by decide)
  obtain ⟨columns, hcolumns⟩ := exists_listed k.columns fun i hi =>
    Ident.exists_spelled (h.columns i hi)
  obtain ⟨rs, hr⟩ := exists_keywords ["REFERENCES"] (by decide)
  obtain ⟨table, htable⟩ := Path.exists_spelled h.referencedTable
  obtain ⟨referenced, hreferenced⟩ := exists_listed k.referencedColumns fun i hi =>
    Ident.exists_spelled (h.referencedColumns i hi)
  obtain ⟨rule, hrule⟩ := OnDelete.exists_spelled k.onDelete
  exact ⟨_, .mk hk hcolumns hr htable hreferenced hrule⟩

theorem ConstraintBody.exists_spelled {body : ConstraintBody} (h : body.Spellable) :
    ∃ ts, body.Spelled ts := by
  cases body with
  | foreignKey k =>
    obtain ⟨ts, hts⟩ := ForeignKeyDef.exists_spelled h
    exact ⟨ts, .foreignKey hts⟩
  | check text =>
    obtain ⟨ks, hk⟩ := exists_keywords ["CHECK"] (by decide)
    obtain ⟨ts, hts⟩ := exists_group h
    exact ⟨ks ++ ts, .check hk hts⟩
  | other => exact absurd h id

theorem TableConstraint.exists_spelled {c : TableConstraint} (h : c.body.Spellable) :
    ∃ ts, c.Spelled ts := by
  obtain ⟨body, name⟩ := c
  obtain ⟨ts, hts⟩ := ConstraintBody.exists_spelled h
  cases name with
  | missing => exact ⟨ts, .unnamed hts⟩
  | named name =>
    obtain ⟨ks, hk⟩ := exists_keywords ["CONSTRAINT"] (by decide)
    obtain ⟨ns, hname⟩ : ∃ ns, (Ident.named name).Spelled ns := Ident.exists_spelled nofun
    exact ⟨ks ++ (ns ++ ts), .named hk hname hts⟩

theorem Interleaving.exists_spelled {i : Interleaving} (h : i.parent.Spellable) :
    ∃ ts, i.Spelled ts := by
  obtain ⟨ks, hk⟩ := exists_keywords ["INTERLEAVE", "IN"] (by decide)
  obtain ⟨ps, hp⟩ := exists_clause (exists_keywords ["PARENT"] (by decide)) i.enforced
  obtain ⟨table, htable⟩ := Path.exists_spelled h
  obtain ⟨rule, hrule⟩ := OnDelete.exists_spelled i.onDelete
  exact ⟨_, .mk hk hp htable hrule⟩

theorem PolicyDef.exists_spelled {p : PolicyDef} (h : p.Spellable) : ∃ ts, p.Spelled ts := by
  obtain ⟨ks, hk⟩ := exists_keywords ["ROW", "DELETION", "POLICY"] (by decide)
  obtain ⟨p1, h1⟩ := exists_punct "("
  obtain ⟨older, holder⟩ := exists_keyword "OLDER_THAN" (by decide)
  obtain ⟨column, hcolumn⟩ := Ident.exists_spelled h.column
  obtain ⟨comma, hcomma⟩ := exists_punct ","
  obtain ⟨interval, hinterval⟩ := exists_keyword "INTERVAL" (by decide)
  obtain ⟨days, hdays⟩ := IntValue.exists_spelled h.days
  obtain ⟨day, hday⟩ := exists_keyword "DAY" (by decide)
  obtain ⟨p2, h2⟩ := exists_punct ")"
  exact ⟨_, .mk hk h1 holder h1 hcolumn hcomma hinterval hdays hday h2 h2⟩

/-! ## Statements -/

theorem exists_keySpelled (keys : List KeyPart) (h : ∀ k ∈ keys, k.name ≠ .missing) :
    ∃ ts, KeySpelled keys ts := by
  obtain ⟨ks, hk⟩ := exists_keywords ["PRIMARY", "KEY"] (by decide)
  obtain ⟨ts, hts⟩ := exists_listed keys fun k hk => KeyPart.exists_spelled (h k hk)
  exact ⟨ks ++ ts, .given hk hts⟩

theorem CreateTable.exists_spelled {t : CreateTable} (h : t.Spellable) : ∃ ts, t.Spelled ts := by
  obtain ⟨ks, hk⟩ := exists_keywords ["CREATE", "TABLE"] (by decide)
  obtain ⟨ifs, hifs⟩ :=
    exists_clause (exists_keywords ["IF", "NOT", "EXISTS"] (by decide)) t.ifNotExists
  obtain ⟨name, hname⟩ := Path.exists_spelled h.name
  have helement : ∀ e ∈ t.columns.map Element.column ++ t.constraints.map Element.constraint,
      ∃ ts, e.Spelled ts := by
    intro e he
    rcases List.mem_append.1 he with he | he
    · obtain ⟨c, hc, rfl⟩ := List.mem_map.1 he
      obtain ⟨ts, hts⟩ := ColumnDef.exists_spelled (h.columns c hc)
      exact ⟨ts, .column hts⟩
    · obtain ⟨c, hc, rfl⟩ := List.mem_map.1 he
      obtain ⟨ts, hts⟩ := TableConstraint.exists_spelled (h.constraints c hc)
      exact ⟨ts, .constraint hts⟩
  obtain ⟨elements, helements⟩ := exists_listed _ helement
  obtain ⟨key, hkey⟩ := exists_keySpelled t.primaryKey h.primaryKey
  obtain ⟨interleaving, hinterleaving⟩ := exists_behind t.interleaving fun i hi =>
    Interleaving.exists_spelled (h.interleaving i hi)
  obtain ⟨policy, hpolicy⟩ := exists_behind t.policy fun p hp =>
    PolicyDef.exists_spelled (h.policy p hp)
  exact ⟨_, .mk hk hifs hname helements hkey hinterleaving hpolicy⟩

theorem Alteration.exists_spelled {change : Alteration} (h : change.Spellable) :
    ∃ ts, change.Spelled ts := by
  obtain ⟨add, hadd⟩ := exists_keyword "ADD" (by decide)
  obtain ⟨set', hset⟩ := exists_keyword "SET" (by decide)
  cases change with
  | addColumn c b =>
    obtain ⟨ks, hk⟩ := exists_keywords ["ADD", "COLUMN"] (by decide)
    obtain ⟨ifs, hifs⟩ := exists_clause (exists_keywords ["IF", "NOT", "EXISTS"] (by decide)) b
    obtain ⟨ts, hts⟩ := ColumnDef.exists_spelled h
    exact ⟨_, .addColumn hk hifs hts⟩
  | addConstraint c =>
    obtain ⟨ts, hts⟩ := TableConstraint.exists_spelled h
    exact ⟨_, .addConstraint hadd hts⟩
  | dropColumn name =>
    obtain ⟨ks, hk⟩ := exists_keywords ["DROP", "COLUMN"] (by decide)
    obtain ⟨ts, hts⟩ := Ident.exists_spelled h
    exact ⟨_, .dropColumn hk hts⟩
  | dropConstraint name =>
    obtain ⟨ks, hk⟩ := exists_keywords ["DROP", "CONSTRAINT"] (by decide)
    obtain ⟨ts, hts⟩ := Ident.exists_spelled h
    exact ⟨_, .dropConstraint hk hts⟩
  | setInterleaving parent rule =>
    obtain ⟨ts, hts⟩ : ∃ ts, (Interleaving.mk parent rule true).Spelled ts :=
      Interleaving.exists_spelled h
    exact ⟨_, .setInterleaving hset hts⟩
  | addPolicy p =>
    obtain ⟨ts, hts⟩ := PolicyDef.exists_spelled h
    exact ⟨_, .addPolicy hadd hts⟩
  | replacePolicy p =>
    obtain ⟨k, hk⟩ := exists_keyword "REPLACE" (by decide)
    obtain ⟨ts, hts⟩ := PolicyDef.exists_spelled h
    exact ⟨_, .replacePolicy hk hts⟩
  | dropPolicy =>
    obtain ⟨ts, hts⟩ := exists_keywords ["DROP", "ROW", "DELETION", "POLICY"] (by decide)
    exact ⟨ts, .dropPolicy hts⟩
  | alterColumn name text =>
    obtain ⟨hname, ts, rfl⟩ := h
    obtain ⟨ks, hk⟩ := exists_keywords ["ALTER", "COLUMN"] (by decide)
    obtain ⟨ns, hns⟩ := Ident.exists_spelled hname
    exact ⟨ks ++ (ns ++ ts), .alterColumn hk hns⟩
  | setOnDelete rule =>
    obtain ⟨ts, hts⟩ := OnDelete.exists_spelled rule
    exact ⟨_, .setOnDelete hset hts h⟩
  | setOptions text =>
    obtain ⟨ks, hk⟩ := exists_keywords ["SET", "OPTIONS"] (by decide)
    obtain ⟨ts, hts⟩ := exists_group h
    exact ⟨_, .setOptions hk hts⟩
  | other text => exact absurd h id

theorem exists_storingSpelled (names : Option (List Ident))
    (h : ∀ is ∈ names, ∀ i ∈ is, i ≠ .missing) : ∃ ts, StoringSpelled names ts := by
  cases names with
  | none => exact ⟨[], .absent⟩
  | some names =>
    obtain ⟨ks, hk⟩ := exists_keywords ["STORING"] (by decide)
    obtain ⟨ts, hts⟩ := exists_listed names fun i hi => Ident.exists_spelled (h names rfl i hi)
    exact ⟨ks ++ ts, .given hk hts⟩

theorem CreateIndex.exists_spelled {i : CreateIndex} (h : i.Spellable) : ∃ ts, i.Spelled ts := by
  obtain ⟨ks, hk⟩ := exists_keywords ["CREATE"] (by decide)
  obtain ⟨unique, hunique⟩ := exists_clause (exists_keywords ["UNIQUE"] (by decide)) i.unique
  obtain ⟨nullFiltered, hnull⟩ :=
    exists_clause (exists_keywords ["NULL_FILTERED"] (by decide)) i.nullFiltered
  obtain ⟨ks', hk'⟩ := exists_keywords ["INDEX"] (by decide)
  obtain ⟨ifs, hifs⟩ :=
    exists_clause (exists_keywords ["IF", "NOT", "EXISTS"] (by decide)) i.ifNotExists
  obtain ⟨name, hname⟩ := Path.exists_spelled h.name
  obtain ⟨on', hon⟩ := exists_keywords ["ON"] (by decide)
  obtain ⟨table, htable⟩ := Path.exists_spelled h.table
  obtain ⟨keys, hkeys⟩ := exists_listed i.keys fun k hk => KeyPart.exists_spelled (h.keys k hk)
  obtain ⟨stored, hstored⟩ := exists_storingSpelled i.storing h.storing
  have hin : ∀ parent ∈ i.interleaveIn, ∃ ts, IndexParentSpelled parent ts := by
    intro parent hp
    obtain ⟨ks, hk⟩ := exists_keywords ["INTERLEAVE", "IN"] (by decide)
    obtain ⟨ts, hts⟩ := Ident.exists_spelled (h.interleaveIn parent hp)
    exact ⟨ks ++ ts, .mk hk hts⟩
  obtain ⟨parent, hparent⟩ := exists_behind i.interleaveIn hin
  exact ⟨_, .mk hk hunique hnull hk' hifs hname hon htable hkeys hstored hparent⟩

theorem Statement.exists_spelled {s : Statement} (h : s.Spellable) : ∃ ts, s.Spelled ts := by
  cases s with
  | createTable t =>
    obtain ⟨ts, hts⟩ := CreateTable.exists_spelled h
    exact ⟨ts, .createTable hts⟩
  | alterTable name change =>
    obtain ⟨ks, hk⟩ := exists_keywords ["ALTER", "TABLE"] (by decide)
    obtain ⟨ns, hns⟩ := Path.exists_spelled h.1
    obtain ⟨ts, hts⟩ := Alteration.exists_spelled h.2
    exact ⟨_, .alterTable hk hns hts⟩
  | createIndex i =>
    obtain ⟨ts, hts⟩ := CreateIndex.exists_spelled h
    exact ⟨ts, .createIndex hts⟩
  | other keyword text => exact absurd h id

/-- A statement that can be written is read back from every way of writing it, with no token left,
and there is such a way. -/
theorem Statement.read_spellings (s : Statement) (h : s.Spellable) :
    (∃ ts, s.Spelled ts) ∧ ∀ ts, s.Spelled ts → Grammar.statement ts = .ok s :=
  ⟨Statement.exists_spelled h, fun _ hts => statement_of_spelled hts⟩

/-- A table all of whose names are keywords. -/
def CreateTable.ofKeywords : CreateTable :=
  { name := ⟨[.named "CREATE", .named "TABLE"]⟩
    columns := [
      { name := .named "PRIMARY"
        type := .array (.array (.sized "STRING" false (.cast (.param "KEY"))) .missing)
          (.literal "3")
        notNull := true
        defaultSql := "(x)" },
      { name := .named "CHECK", type := .named [.named "ARRAY"], generatedSql := "x" }]
    primaryKey := [⟨.named "PRIMARY", some .desc⟩]
    constraints := [⟨.check "(x)", .named "CONSTRAINT"⟩]
    interleaving := some { parent := ⟨[.named "INTERLEAVE"]⟩, onDelete := .cascade }
    policy := some ⟨.named "ROW", .cast (.literal "30")⟩ }

theorem rendered_word : Rendered "x" :=
  ⟨[⟨.word, "x", 0, 0⟩], .other rfl rfl .nil, by decide⟩

theorem rendered_group : Rendered "(x)" :=
  ⟨[⟨.punct, "(", 0, 0⟩, ⟨.word, "x", 0, 0⟩, ⟨.punct, ")", 0, 0⟩],
    .group rfl (.other rfl rfl .nil) rfl .nil, by decide⟩

theorem CreateTable.spellable_ofKeywords : CreateTable.ofKeywords.Spellable where
  name := ⟨by decide, by decide⟩
  columns := by
    intro c hc
    rcases List.mem_pair.1 hc with rfl | rfl
    · refine ⟨nofun, ⟨⟨⟨by decide, trivial⟩, .inl rfl⟩, .inr trivial⟩, rendered_group, ?_⟩
      exact ⟨[], .nil, rfl⟩
    · refine ⟨nofun, ⟨⟨by decide, by decide⟩, ?_⟩, ⟨[], .nil, rfl⟩, rendered_word⟩
      rintro i hi
      cases hi
      decide
  primaryKey := by decide
  constraints := by
    intro c hc
    rw [List.mem_singleton.1 hc]
    exact rendered_group
  interleaving := by
    intro i hi
    cases hi
    exact ⟨by decide, by decide⟩
  policy := by
    intro p hp
    cases hp
    exact ⟨nofun, trivial⟩

theorem Statement.read_ofKeywords :
    ∃ ts, (Statement.createTable .ofKeywords).Spelled ts ∧
      Grammar.statement ts = .ok (.createTable .ofKeywords) := by
  have h := Statement.read_spellings (.createTable .ofKeywords) CreateTable.spellable_ofKeywords
  obtain ⟨ts, hts⟩ := h.1
  exact ⟨ts, hts, h.2 ts hts⟩

end SpannerDdl
