import Mathlib.Data.List.Forall2
import SpannerDdl.Grammar.Statement

/-! # Spellings of statements

How statements are written as tokens, clause by clause. Keywords are words in any case, names are
quoted identifiers of any text, and the columns of a table come before its constraints.

* `Keywords words ts`, `Clause spelled b ts`: keywords, and tokens that are there if `b` holds.
* `Separated`, `Listed`: items with a separator between them, and items in parentheses.
* `Balanced g`, `Group text ts`: tokens with matching parentheses, and such tokens in parentheses.
* `Statement.Spelled s ts`: the tokens `ts` spell the statement `s`. -/

set_option autoImplicit false

namespace SpannerDdl

namespace Grammar

variable {α : Type}

/-! ## Keywords and lists -/

/-- The tokens are the given keywords. -/
def Keywords (words : List String) (ts : List Token) : Prop :=
  List.Forall₂ (fun word t => t.isKeyword word = true) words ts

/-- Tokens that are there exactly if a flag is set. -/
inductive Clause (spelled : List Token → Prop) : Bool → List Token → Prop where
  | absent : Clause spelled false []
  | given {ts : List Token} (h : spelled ts) : Clause spelled true ts

/-- Items with a separator between them. -/
inductive Separated (separator : String) (one : α → List Token → Prop) :
    List α → List Token → Prop where
  | last {a : α} {ts : List Token} (h : one a ts) : Separated separator one [a] ts
  | more {a : α} {as : List α} {s : Token} {ts ts' : List Token} (h : one a ts)
      (hs : s.isPunct separator = true) (behind : Separated separator one as ts') :
      Separated separator one (a :: as) (ts ++ s :: ts')

/-- Items in parentheses with commas between them. -/
inductive Listed (one : α → List Token → Prop) : List α → List Token → Prop where
  | none {p q : Token} (hp : p.isPunct "(" = true) (hq : q.isPunct ")" = true) :
      Listed one [] [p, q]
  | some {as : List α} {p q : Token} {ts : List Token} (hp : p.isPunct "(" = true)
      (h : Separated "," one as ts) (hq : q.isPunct ")" = true) :
      Listed one as (p :: ts ++ [q])

/-- A clause behind a comma, which may be missing. -/
inductive Behind (spelled : α → List Token → Prop) : Option α → List Token → Prop where
  | absent : Behind spelled none []
  | given {a : α} {c : Token} {ts : List Token} (hc : c.isPunct "," = true) (h : spelled a ts) :
      Behind spelled (some a) (c :: ts)

/-! ## Groups in parentheses -/

/-- Tokens with matching parentheses. -/
inductive Balanced : List Token → Prop where
  | nil : Balanced []
  | other {t : Token} {g : List Token} (ho : t.isPunct "(" = false) (hc : t.isPunct ")" = false)
      (h : Balanced g) : Balanced (t :: g)
  | group {p q : Token} {inner g : List Token} (hp : p.isPunct "(" = true)
      (hi : Balanced inner) (hq : q.isPunct ")" = true) (h : Balanced g) :
      Balanced (p :: inner ++ q :: g)

/-- Tokens in parentheses, of which the text is kept. -/
inductive Group : String → List Token → Prop where
  | mk {p q : Token} {g : List Token} (hp : p.isPunct "(" = true) (hg : Balanced g)
      (hq : q.isPunct ")" = true) : Group (Token.renderAll g) (p :: g ++ [q])

/-- An expression in parentheses between keywords, which is missing if its text is empty. -/
inductive Expression (before after : List String) : String → List Token → Prop where
  | absent : Expression before after "" []
  | given {text : String} {ks g ks' : List Token} (hk : Keywords before ks) (hg : Group text g)
      (hk' : Keywords after ks') : Expression before after text (ks ++ (g ++ ks'))

end Grammar

open Grammar

/-! ## Names -/

inductive Ident.Spelled : Ident → List Token → Prop where
  | named {t : Token} (h : t.kind = .ident) : Spelled (.named t.text) [t]

def Path.Spelled (p : Path) (ts : List Token) : Prop :=
  Separated "." Ident.Spelled p.idents ts

inductive KeyPart.Spelled : KeyPart → List Token → Prop where
  | plain {t : Token} (h : t.kind = .ident) : Spelled ⟨.named t.text, none⟩ [t]
  | directed {t d : Token} {direction : Direction} (h : t.kind = .ident)
      (hd : d.isKeyword direction.keyword = true) :
      Spelled ⟨.named t.text, some direction⟩ [t, d]

/-! ## Values and types -/

inductive IntValue.Spelled : IntValue → List Token → Prop where
  | literal {t : Token} (h : t.kind = .number) : Spelled (.literal t.text) [t]
  | param {a t : Token} (ha : a.isPunct "@" = true) (h : t.kind = .ident) :
      Spelled (.param t.text) [a, t]
  | cast {value : IntValue} {c p a i q : Token} {ts : List Token} (hc : c.isKeyword "CAST" = true)
      (hp : p.isPunct "(" = true) (h : Spelled value ts) (ha : a.isKeyword "AS" = true)
      (hi : i.isKeyword "INT64" = true) (hq : q.isPunct ")" = true) :
      Spelled (.cast value) (c :: p :: (ts ++ [a, i, q]))

/-- The arrow in front of the length of an array, as one token or two. -/
inductive ArrowSpelled : List Token → Prop where
  | one {t : Token} (h : t.isPunct "=>" = true) : ArrowSpelled [t]
  | two {t t' : Token} (h : t.isPunct "=" = true) (h' : t'.isPunct ">" = true) :
      ArrowSpelled [t, t']

/-- The length of an array, which may be missing. -/
inductive LengthSpelled : IntValue → List Token → Prop where
  | absent : LengthSpelled .missing []
  | given {length : IntValue} {p k q : Token} {arrow ts : List Token} (hp : p.isPunct "(" = true)
      (hk : k.isKeyword "VECTOR_LENGTH" = true) (harrow : ArrowSpelled arrow)
      (h : length.Spelled ts) (hq : q.isPunct ")" = true) :
      LengthSpelled length (p :: k :: (arrow ++ (ts ++ [q])))

/-- The token is the name of a type in any case. No word can be taken for the name of an array. -/
structure TypeWord (name : String) (t : Token) : Prop where
  isName : t.kind = .ident ∨ t.kind = .word
  notArray : t.isKeyword "ARRAY" = false
  upper : Text.upper t.text = name

inductive ColumnType.Spelled : ColumnType → List Token → Prop where
  | scalar {name : String} {t : Token} (ht : TypeWord name t) (h : name ∈ scalarTypes) :
      Spelled (.scalar name) [t]
  | greatest {name : String} {t p m q : Token} (ht : TypeWord name t)
      (hp : p.isPunct "(" = true) (hm : m.isKeyword "MAX" = true) (hq : q.isPunct ")" = true) :
      Spelled (.sized name true .missing) [t, p, m, q]
  | sized {name : String} {size : IntValue} {t p q : Token} {ts : List Token}
      (ht : TypeWord name t) (hp : p.isPunct "(" = true) (h : size.Spelled ts)
      (hq : q.isPunct ")" = true) : Spelled (.sized name false size) (t :: p :: (ts ++ [q]))
  | array {item : ColumnType} {length : IntValue} {a p q : Token} {ts ls : List Token}
      (ha : a.isKeyword "ARRAY" = true) (hp : p.isPunct "<" = true) (h : Spelled item ts)
      (hq : q.isPunct ">" = true) (hl : LengthSpelled length ls) :
      Spelled (.array item length) (a :: p :: (ts ++ q :: ls))
  | named {path : List Ident} {ts : List Token} (h : Path.Spelled ⟨path⟩ ts)
      (other : ∀ i, path = [i] → Text.upper i.name ∉ scalarTypes) : Spelled (.named path) ts

/-! ## Columns and constraints -/

inductive ColumnDef.Spelled : ColumnDef → List Token → Prop where
  | mk {c : ColumnDef} {name type notNull key hidden default' generated : List Token}
      (hname : c.name.Spelled name) (htype : c.type.Spelled type)
      (hnotNull : Clause (Keywords ["NOT", "NULL"]) c.notNull notNull)
      (hkey : Clause (Keywords ["PRIMARY", "KEY"]) c.primaryKey key)
      (hhidden : Clause (Keywords ["HIDDEN"]) c.isHidden hidden)
      (hdefault : Expression ["DEFAULT"] [] c.defaultSql default')
      (hgenerated : Expression ["AS"] ["STORED"] c.generatedSql generated) :
      Spelled c (name ++ (type ++ (notNull ++ (key ++ (hidden ++ (default' ++ generated))))))

inductive OnDelete.Spelled : OnDelete → List Token → Prop where
  | unspecified : Spelled .unspecified []
  | cascade {ts : List Token} (h : Keywords ["ON", "DELETE", "CASCADE"] ts) : Spelled .cascade ts
  | noAction {ts : List Token} (h : Keywords ["ON", "DELETE", "NO", "ACTION"] ts) :
      Spelled .noAction ts

inductive ForeignKeyDef.Spelled : ForeignKeyDef → List Token → Prop where
  | mk {k : ForeignKeyDef} {ks columns rs table referenced rule : List Token}
      (hk : Keywords ["FOREIGN", "KEY"] ks) (hcolumns : Listed Ident.Spelled k.columns columns)
      (hr : Keywords ["REFERENCES"] rs) (htable : k.referencedTable.Spelled table)
      (hreferenced : Listed Ident.Spelled k.referencedColumns referenced)
      (hrule : k.onDelete.Spelled rule) :
      Spelled k (ks ++ (columns ++ (rs ++ (table ++ (referenced ++ rule)))))

inductive ConstraintBody.Spelled : ConstraintBody → List Token → Prop where
  | foreignKey {k : ForeignKeyDef} {ts : List Token} (h : k.Spelled ts) :
      Spelled (.foreignKey k) ts
  | check {text : String} {ks ts : List Token} (hk : Keywords ["CHECK"] ks) (h : Group text ts) :
      Spelled (.check text) (ks ++ ts)

inductive TableConstraint.Spelled : TableConstraint → List Token → Prop where
  | named {body : ConstraintBody} {name : Ident} {ks ns ts : List Token}
      (hk : Keywords ["CONSTRAINT"] ks) (hname : name.Spelled ns) (h : body.Spelled ts) :
      Spelled ⟨body, name⟩ (ks ++ (ns ++ ts))
  | unnamed {body : ConstraintBody} {ts : List Token} (h : body.Spelled ts) :
      Spelled ⟨body, .missing⟩ ts

inductive Grammar.Element.Spelled : Element → List Token → Prop where
  | column {c : ColumnDef} {ts : List Token} (h : c.Spelled ts) : Spelled (.column c) ts
  | constraint {c : TableConstraint} {ts : List Token} (h : c.Spelled ts) :
      Spelled (.constraint c) ts

/-! ## Clauses of a table -/

inductive Interleaving.Spelled : Interleaving → List Token → Prop where
  | mk {i : Interleaving} {ks ps table rule : List Token} (hk : Keywords ["INTERLEAVE", "IN"] ks)
      (hp : Clause (Keywords ["PARENT"]) i.enforced ps) (htable : i.parent.Spelled table)
      (hrule : i.onDelete.Spelled rule) : Spelled i (ks ++ (ps ++ (table ++ rule)))

inductive PolicyDef.Spelled : PolicyDef → List Token → Prop where
  | mk {p : PolicyDef} {ks column days : List Token} {open1 older open2 comma interval day close2
      close1 : Token} (hk : Keywords ["ROW", "DELETION", "POLICY"] ks)
      (h1 : open1.isPunct "(" = true) (holder : older.isKeyword "OLDER_THAN" = true)
      (h2 : open2.isPunct "(" = true) (hcolumn : p.column.Spelled column)
      (hcomma : comma.isPunct "," = true) (hinterval : interval.isKeyword "INTERVAL" = true)
      (hdays : p.days.Spelled days) (hday : day.isKeyword "DAY" = true)
      (h3 : close2.isPunct ")" = true) (h4 : close1.isPunct ")" = true) :
      Spelled p (ks ++ open1 :: older :: open2 ::
        (column ++ comma :: interval :: (days ++ [day, close2, close1])))

/-- The primary key of a table, which may be missing. -/
inductive KeySpelled : List KeyPart → List Token → Prop where
  | absent : KeySpelled [] []
  | given {keys : List KeyPart} {ks ts : List Token} (hk : Keywords ["PRIMARY", "KEY"] ks)
      (h : Listed KeyPart.Spelled keys ts) : KeySpelled keys (ks ++ ts)

/-! ## Statements -/

inductive CreateTable.Spelled : CreateTable → List Token → Prop where
  | mk {t : CreateTable} {ks ifs name elements key interleaving policy : List Token}
      (hk : Keywords ["CREATE", "TABLE"] ks)
      (hifs : Clause (Keywords ["IF", "NOT", "EXISTS"]) t.ifNotExists ifs)
      (hname : t.name.Spelled name)
      (helements : Listed Element.Spelled
        (t.columns.map .column ++ t.constraints.map .constraint) elements)
      (hkey : KeySpelled t.primaryKey key)
      (hinterleaving : Behind Interleaving.Spelled t.interleaving interleaving)
      (hpolicy : Behind PolicyDef.Spelled t.policy policy) :
      Spelled t (ks ++ (ifs ++ (name ++ (elements ++ (key ++ (interleaving ++ policy))))))

/-- What is behind the name of the altered table. The text about a column goes to the end. -/
inductive Alteration.Spelled : Alteration → List Token → Prop where
  | addColumn {c : ColumnDef} {ifNotExists : Bool} {ks ifs ts : List Token}
      (hk : Keywords ["ADD", "COLUMN"] ks)
      (hifs : Clause (Keywords ["IF", "NOT", "EXISTS"]) ifNotExists ifs) (h : c.Spelled ts) :
      Spelled (.addColumn c ifNotExists) (ks ++ (ifs ++ ts))
  | addConstraint {c : TableConstraint} {k : Token} {ts : List Token}
      (hk : k.isKeyword "ADD" = true) (h : c.Spelled ts) : Spelled (.addConstraint c) (k :: ts)
  | dropColumn {name : Ident} {ks ts : List Token} (hk : Keywords ["DROP", "COLUMN"] ks)
      (h : name.Spelled ts) : Spelled (.dropColumn name) (ks ++ ts)
  | dropConstraint {name : Ident} {ks ts : List Token} (hk : Keywords ["DROP", "CONSTRAINT"] ks)
      (h : name.Spelled ts) : Spelled (.dropConstraint name) (ks ++ ts)
  | setInterleaving {i : Interleaving} {k : Token} {ts : List Token}
      (hk : k.isKeyword "SET" = true) (h : i.Spelled ts) :
      Spelled (.setInterleaving i.parent i.onDelete) (k :: ts)
  | addPolicy {p : PolicyDef} {k : Token} {ts : List Token} (hk : k.isKeyword "ADD" = true)
      (h : p.Spelled ts) : Spelled (.addPolicy p) (k :: ts)
  | replacePolicy {p : PolicyDef} {k : Token} {ts : List Token}
      (hk : k.isKeyword "REPLACE" = true) (h : p.Spelled ts) :
      Spelled (.replacePolicy p) (k :: ts)
  | dropPolicy {ts : List Token} (h : Keywords ["DROP", "ROW", "DELETION", "POLICY"] ts) :
      Spelled .dropPolicy ts
  | alterColumn {name : Ident} {ks ns ts : List Token} (hk : Keywords ["ALTER", "COLUMN"] ks)
      (h : name.Spelled ns) : Spelled (.alterColumn name (Token.renderAll ts)) (ks ++ (ns ++ ts))
  | setOnDelete {rule : OnDelete} {k : Token} {ts : List Token} (hk : k.isKeyword "SET" = true)
      (h : rule.Spelled ts) (stated : rule ≠ .unspecified) : Spelled (.setOnDelete rule) (k :: ts)
  | setOptions {text : String} {ks ts : List Token} (hk : Keywords ["SET", "OPTIONS"] ks)
      (h : Group text ts) : Spelled (.setOptions text) (ks ++ ts)

/-- The stored columns of an index, which may be missing. -/
inductive StoringSpelled : Option (List Ident) → List Token → Prop where
  | absent : StoringSpelled none []
  | given {names : List Ident} {ks ts : List Token} (hk : Keywords ["STORING"] ks)
      (h : Listed Ident.Spelled names ts) : StoringSpelled (some names) (ks ++ ts)

/-- The table an index is interleaved in. -/
inductive IndexParentSpelled : Ident → List Token → Prop where
  | mk {parent : Ident} {ks ts : List Token} (hk : Keywords ["INTERLEAVE", "IN"] ks)
      (h : parent.Spelled ts) : IndexParentSpelled parent (ks ++ ts)

inductive CreateIndex.Spelled : CreateIndex → List Token → Prop where
  | mk {i : CreateIndex} {ks unique nullFiltered ks' ifs name on' table keys stored
      parent : List Token} (hk : Keywords ["CREATE"] ks)
      (hunique : Clause (Keywords ["UNIQUE"]) i.unique unique)
      (hnull : Clause (Keywords ["NULL_FILTERED"]) i.nullFiltered nullFiltered)
      (hk' : Keywords ["INDEX"] ks')
      (hifs : Clause (Keywords ["IF", "NOT", "EXISTS"]) i.ifNotExists ifs)
      (hname : i.name.Spelled name) (hon : Keywords ["ON"] on')
      (htable : i.table.Spelled table) (hkeys : Listed KeyPart.Spelled i.keys keys)
      (hstored : StoringSpelled i.storing stored)
      (hparent : Behind IndexParentSpelled i.interleaveIn parent) :
      Spelled i (ks ++ (unique ++ (nullFiltered ++ (ks' ++ (ifs ++ (name ++ (on' ++
        (table ++ (keys ++ (stored ++ parent))))))))))

inductive Statement.Spelled : Statement → List Token → Prop where
  | createTable {t : CreateTable} {ts : List Token} (h : t.Spelled ts) :
      Spelled (.createTable t) ts
  | alterTable {name : Path} {change : Alteration} {ks ns ts : List Token}
      (hk : Keywords ["ALTER", "TABLE"] ks) (hname : name.Spelled ns) (h : change.Spelled ts) :
      Spelled (.alterTable name change) (ks ++ (ns ++ ts))
  | createIndex {i : CreateIndex} {ts : List Token} (h : i.Spelled ts) :
      Spelled (.createIndex i) ts

end SpannerDdl
