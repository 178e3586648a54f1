import SpannerDdl.Grammar.Table

/-! # Whole statements

* `alteration`: what an `ALTER TABLE` statement does.
* `createIndex`: a `CREATE INDEX` statement.
* `statement`: the statement that a list of tokens spells; all tokens have to be used.
* `Statement.parse text source`: the statements of a DDL text.

Every statement that does not begin with `CREATE TABLE`, `ALTER TABLE` or `CREATE … INDEX` is taken
as it is.
-/

set_option autoImplicit false

namespace SpannerDdl.Grammar

/-! ## ALTER TABLE -/

/-- Whether the second token is one of the given keywords. -/
def secondIsOneOf (words : List String) : List Token → Bool
  | _ :: t :: _ => words.contains t.upper
  | _ => false

/-- What an `ALTER TABLE` statement does. -/
def alteration (ts : List Token) : Except Mismatch (Alteration × List Token) :=
  if atKeywords ["ADD", "ROW", "DELETION", "POLICY"] ts then
    (rowDeletionPolicy (ts.drop 1)).map fun p => (.addPolicy p.1, p.2)
  else if atKeywords ["REPLACE", "ROW", "DELETION", "POLICY"] ts then
    (rowDeletionPolicy (ts.drop 1)).map fun p => (.replacePolicy p.1, p.2)
  else if let some rest := keywords? ["DROP", "ROW", "DELETION", "POLICY"] ts then
    .ok (.dropPolicy, rest)
  else if let some rest := keywords? ["ADD", "COLUMN"] ts then
    let (ifNotExists, rest) := accept ["IF", "NOT", "EXISTS"] rest
    (columnDef rest).map fun p => (.addColumn p.1 ifNotExists, p.2)
  else if atKeywords ["ADD"] ts && secondIsOneOf ["CONSTRAINT", "FOREIGN", "CHECK"] ts then
    match tableConstraint? (ts.drop 1) with
    | .error e => .error e
    | .ok (some c, rest) => .ok (.addConstraint c, rest)
    | .ok (none, rest) => mismatch "table constraint" rest
  else if let some rest := keywords? ["DROP", "COLUMN"] ts then
    (ident rest).map fun p => (.dropColumn p.1, p.2)
  else if let some rest := keywords? ["DROP", "CONSTRAINT"] ts then
    (ident rest).map fun p => (.dropConstraint p.1, p.2)
  else if atKeywords ["SET", "INTERLEAVE"] ts then
    (interleaving (ts.drop 1)).map fun p => (.setInterleaving p.1.parent p.1.onDelete, p.2)
  else if atKeywords ["SET", "ON", "DELETE"] ts then
    (onDelete (ts.drop 1)).map fun p => (.setOnDelete p.1, p.2)
  else if let some rest := keywords? ["SET", "OPTIONS"] ts then
    (balancedText rest).map fun p => (.setOptions p.1, p.2)
  else if let some rest := keywords? ["ALTER", "COLUMN"] ts then
    (ident rest).map fun p => (.alterColumn p.1 (Token.renderAll p.2), [])
  else if ts.isEmpty then mismatch "table alteration" ts
  else .ok (.other (Token.renderAll ts), [])

/-- An `ALTER TABLE` statement. -/
def alterTable (ts : List Token) : Except Mismatch (Statement × List Token) := do
  let ts ← expectKeywords ["ALTER", "TABLE"] ts
  let (name, ts) ← path ts
  let (change, ts) ← alteration ts
  return (.alterTable name change, ts)

/-! ## CREATE INDEX -/

/-- Whether an index is unique and whether it leaves out nulls, by the keywords at the front in any
order and number. -/
def indexModifiers (unique nullFiltered : Bool) : List Token → Bool × Bool × List Token
  | [] => (unique, nullFiltered, [])
  | t :: ts =>
    if t.isKeyword "UNIQUE" then indexModifiers true nullFiltered ts
    else if t.isKeyword "NULL_FILTERED" then indexModifiers unique true ts
    else (unique, nullFiltered, t :: ts)

/-- Whether a statement creates an index. -/
def startsIndex (ts : List Token) : Bool :=
  match keywords? ["CREATE"] ts with
  | some rest => atKeywords ["INDEX"] (indexModifiers false false rest).2.2
  | none => false

/-- The stored columns of an index, if stated. -/
def storing (ts : List Token) : Except Mismatch (Option (List Ident) × List Token) :=
  match keywords? ["STORING"] ts with
  | some rest => (identList rest).map fun p => (some p.1, p.2)
  | none => .ok (none, ts)

/-- The tokens behind the condition of a partial index, which is not recorded. -/
def skipCondition (ts : List Token) : List Token :=
  match keywords? ["WHERE"] ts with
  | some rest => rest.dropWhile fun t => !(t.isPunct "," || t.isKeyword "OPTIONS")
  | none => ts

/-- The table an index is interleaved in, if stated. -/
def indexInterleaving (ts : List Token) : Except Mismatch (Option Ident × List Token) :=
  match punct? "," ts with
  | none => .ok (none, ts)
  | some rest => do
    let rest ← expectKeywords ["INTERLEAVE", "IN"] rest
    let (parent, rest) ← ident rest
    return (some parent, rest)

/-- The tokens behind the options of an index, if stated. -/
def skipOptions (ts : List Token) : Except Mismatch (List Token) :=
  match keywords? ["OPTIONS"] ts with
  | some rest => (balanced rest).map Prod.snd
  | none => .ok ts

/-- A `CREATE INDEX` statement. -/
def createIndex (ts : List Token) : Except Mismatch (CreateIndex × List Token) := do
  let ts ← expectKeywords ["CREATE"] ts
  let (unique, nullFiltered, ts) := indexModifiers false false ts
  let ts ← expectKeywords ["INDEX"] ts
  let (ifNotExists, ts) := accept ["IF", "NOT", "EXISTS"] ts
  let (name, ts) ← path ts
  let ts ← expectKeywords ["ON"] ts
  let (table, ts) ← path ts
  let (keys, ts) ← keyList ts
  let (storing, ts) ← storing ts
  let (interleaveIn, ts) ← indexInterleaving (skipCondition ts)
  let ts ← skipOptions ts
  return ({ name, table, keys, storing, interleaveIn, unique, nullFiltered, ifNotExists }, ts)

/-! ## Any statement -/

/-- The word by which a statement of another kind is known: a keyword in upper case, or the text of
any other token. -/
def leadingText (t : Token) : String := if t.upper == "" then t.text else t.upper

/-- The first keywords of a statement of another kind: two for `CREATE`, `ALTER` and `DROP`. -/
def leadingKeywords : List Token → String
  | [] => ""
  | [t] => leadingText t
  | t :: next :: _ =>
    if ["CREATE", "ALTER", "DROP"].contains (leadingText t) && next.upper != "" then
      leadingText t ++ " " ++ next.upper
    else leadingText t

/-- What was read, if no token is left. -/
def complete {α : Type} (read : Except Mismatch (α × List Token)) : Except Mismatch α :=
  match read with
  | .error e => .error e
  | .ok (a, []) => .ok a
  | .ok (_, t :: ts) => mismatch "end of statement" (t :: ts)

/-- The statement that the tokens spell. -/
def statement (ts : List Token) : Except Mismatch Statement :=
  if atKeywords ["CREATE", "TABLE"] ts then (complete (createTable ts)).map .createTable
  else if atKeywords ["ALTER", "TABLE"] ts then complete (alterTable ts)
  else if startsIndex ts then (complete (createIndex ts)).map .createIndex
  else .ok (.other (leadingKeywords ts) (Token.renderAll ts))

end SpannerDdl.Grammar

namespace SpannerDdl

/-- The error for a mismatch in a statement: its place is that of the token where it arose, or of
the last token if none was left. -/
def Grammar.Mismatch.sourceError (m : Grammar.Mismatch) (ts : List Token) (source : String) :
    SourceError :=
  let place := (m.rest.head?.or ts.getLast?).map fun t => (t.line, t.col)
  { fault := .expected m.expected m.rest.head?
    source
    line := (place.map Prod.fst).getD 0
    col := (place.map Prod.snd).getD 0 }

namespace Statement

/-- The statement that the tokens spell. -/
def ofTokens (source : String) (ts : List Token) : Except SourceError Statement :=
  match Grammar.statement ts with
  | .ok s => .ok s
  | .error m => .error (m.sourceError ts source)

/-- The statements that the tokens spell, with semicolons between them. -/
def listOfTokens (source : String) (ts : List Token) : Except SourceError (List Statement) :=
  (Token.statements ts).mapM (ofTokens source)

/-- The statements of a DDL text. -/
def parse (text source : String) : Except SourceError (List Statement) :=
  match tokenize text source with
  | .error e => .error e
  | .ok ts => listOfTokens source ts

end Statement

end SpannerDdl
