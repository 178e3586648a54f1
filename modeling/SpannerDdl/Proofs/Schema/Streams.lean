import SpannerDdl.Proofs.Schema.DdlOutcome

/-! # What comes of a stream of tokens

The statements of two streams with a semicolon between them are those of the first and then those
of the second. Two files are taken in order: the second is parsed when the statements of the first
have been applied. The two streams are parsed as a whole before anything is applied if they are
given as one.

* `Draft.consumeTokens d source ts`: the draft behind the statements of the stream `ts`.
* `Draft.consumeStreams d streams`: the draft behind several streams in order.
* `Schema.result_ofDdl`, `Schema.result_ofDdlFiles`: a text and files by their tokens.
* `Draft.streams_apart_and_joined`: two streams and the stream of both. -/

set_option autoImplicit false

namespace SpannerDdl

/-! ## Statements of a stream -/

namespace Token

variable {semicolon : Token} {ts : List Token}

theorem statementsFrom_append (h : semicolon.isSemicolon = true) (current a b : List Token) :
    statementsFrom current (a ++ semicolon :: b) = statementsFrom current a ++ statements b := by
  induction a generalizing current with
  | nil =>
    rw [List.nil_append, statementsFrom.eq_2, if_pos h, statementsFrom.eq_1]
    split
    · rfl
    · rfl
  | cons t a ih =>
    rw [List.cons_append, statementsFrom, statementsFrom]
    split
    · split
      · exact ih []
      · rw [ih [], List.cons_append]
    · exact ih (t :: current)

theorem statements_append (h : semicolon.isSemicolon = true) (a b : List Token) :
    statements (a ++ semicolon :: b) = statements a ++ statements b :=
  statementsFrom_append h [] a b

theorem statementsFrom_of_unbroken (h : ∀ t ∈ ts, t.isSemicolon = false)
    (current : List Token) :
    statementsFrom current ts =
      if (current.reverse ++ ts).isEmpty then [] else [current.reverse ++ ts] := by
  induction ts generalizing current with
  | nil => simp [statementsFrom]
  | cons t ts ih =>
    rw [List.forall_mem_cons] at h
    rw [statementsFrom, if_neg (by simp [h.1]), ih h.2]
    simp

/-- Without a semicolon the stream is a single statement. -/
theorem statements_of_unbroken (h : ∀ t ∈ ts, t.isSemicolon = false) (nonempty : ts ≠ []) :
    statements ts = [ts] := by
  rw [statements, statementsFrom_of_unbroken h]
  simp [nonempty]

end Token

/-- The same error in a text of another name. -/
def SourceError.under (source : String) (e : SourceError) : SourceError := { e with source }

namespace Statement

theorem listOfTokens_append {semicolon : Token} (h : semicolon.isSemicolon = true)
    (source : String) (a b : List Token) :
    listOfTokens source (a ++ semicolon :: b) = do
      let ss ← listOfTokens source a
      let ss' ← listOfTokens source b
      return ss ++ ss' := by
  rw [listOfTokens, Token.statements_append h, List.mapM_append]
  rfl

theorem ofTokens_under (source source' : String) (ts : List Token) :
    ofTokens source ts = (ofTokens source' ts).mapError (SourceError.under source) := by
  unfold ofTokens
  cases Grammar.statement ts with
  | error m => rfl
  | ok s => rfl

/-- The name of the source is only told in an error. -/
theorem listOfTokens_under (source source' : String) (ts : List Token) :
    listOfTokens source ts = (listOfTokens source' ts).mapError (SourceError.under source) := by
  unfold listOfTokens
  generalize Token.statements ts = parts
  induction parts with
  | nil => rfl
  | cons part parts ih =>
    rw [List.mapM_cons, List.mapM_cons, ih, ofTokens_under source source']
    cases ofTokens source' part with
    | error e => rfl
    | ok s =>
      cases parts.mapM (ofTokens source') with
      | error e => rfl
      | ok ss => rfl

theorem listOfTokens_eq_ok_under {source : String} {ts : List Token} {ss : List Statement}
    (h : listOfTokens source ts = .ok ss) (source' : String) :
    listOfTokens source' ts = .ok ss := by
  rw [listOfTokens_under source' source, h]
  rfl

theorem listOfTokens_eq_error_under {source : String} {ts : List Token} {e : SourceError}
    (h : listOfTokens source ts = .error e) (source' : String) :
    listOfTokens source' ts = .error (e.under source') := by
  rw [listOfTokens_under source' source, h]
  rfl

end Statement

/-! ## Drafts behind a stream -/

namespace Draft

/-- Statements are applied up to the first that is refused. -/
theorem result_consumeAll (d : Draft) (ss : List Statement) :
    (d.consumeAll ss).result =
      match d.applyAll ss with
      | (d', none) => .ok d'
      | (_, some e) => .error (.build e) := by
  induction ss generalizing d with
  | nil => rfl
  | cons s ss ih =>
    obtain ⟨d1, e?, applied⟩ : ∃ d1 e?, d.apply s = (d1, e?) := ⟨_, _, rfl⟩
    cases e? with
    | none => simp [consumeAll, consume, applyAll, applied, Traced.andThen, ih]
    | some e => simp [consumeAll, consume, applyAll, applied, Traced.andThen, Traced.fail]

theorem result_consumeAll_append (d : Draft) (ss ss' : List Statement) :
    (d.consumeAll (ss ++ ss')).result =
      (d.consumeAll ss).result.bind fun d' => (d'.consumeAll ss').result := by
  induction ss generalizing d with
  | nil => rfl
  | cons s ss ih =>
    simp only [List.cons_append, consumeAll, Traced.andThen]
    cases (d.consume s).result with
    | error e => rfl
    | ok d1 => exact ih d1

/-- Parses a stream of tokens and applies its statements. -/
def consumeTokens (d : Draft) (source : String) (ts : List Token) : Except LoadError Draft :=
  match Statement.listOfTokens source ts with
  | .error e => .error (.ddl e)
  | .ok ss => (d.consumeAll ss).result

theorem consumeTokens_of_parsed {source : String} {ts : List Token} {ss : List Statement}
    (h : Statement.listOfTokens source ts = .ok ss) (d : Draft) :
    d.consumeTokens source ts = (d.consumeAll ss).result := by
  rw [consumeTokens, h]

theorem consumeTokens_of_malformed {source : String} {ts : List Token} {e : SourceError}
    (h : Statement.listOfTokens source ts = .error e) (d : Draft) :
    d.consumeTokens source ts = .error (.ddl e) := by
  rw [consumeTokens, h]

/-- The draft behind streams in order, each with the name of its source. A stream is parsed when the
statements of those in front of it have been applied. -/
def consumeStreams (d : Draft) : List (String × List Token) → Except LoadError Draft
  | [] => .ok d
  | (source, ts) :: streams =>
    (d.consumeTokens source ts).bind fun d' => d'.consumeStreams streams

theorem consumeStreams_pair (d : Draft) (first second : String) (a b : List Token) :
    d.consumeStreams [(first, a), (second, b)] =
      (d.consumeTokens first a).bind fun d' => d'.consumeTokens second b := by
  simp only [consumeStreams]
  cases d.consumeTokens first a with
  | error e => rfl
  | ok d1 =>
    show (d1.consumeTokens second b).bind Except.ok = d1.consumeTokens second b
    cases d1.consumeTokens second b with
    | error e => rfl
    | ok d2 => rfl

theorem result_consumeText {text source : String} {ts : List Token}
    (h : tokenize text source = .ok ts) (d : Draft) :
    (d.consumeText text source).result = d.consumeTokens source ts := by
  unfold consumeText consumeTokens
  rw [Statement.parse, h]
  dsimp only
  cases Statement.listOfTokens source ts with
  | error e => rfl
  | ok ss => rfl

end Draft

namespace Schema

/-- A text by its tokens. -/
theorem result_ofDdl {text source : String} {ts : List Token}
    (h : tokenize text source = .ok ts) :
    (ofDdl text source).result = (Draft.consumeTokens {} source ts).map Draft.schema := by
  unfold Draft.consumeTokens
  cases parsed : Statement.listOfTokens source ts with
  | error e => exact result_ofDdl_of_malformed (by rw [Statement.parse, h]; exact parsed)
  | ok ss => exact result_ofDdl_of_parse (by rw [Statement.parse, h]; exact parsed)

/-- The stream is that of the file of its name. -/
def IsFile (w : Workspace) (stream : String × List Token) : Prop :=
  ∃ text, w.readSchema stream.1 = .ok text ∧ tokenize text stream.1 = .ok stream.2

theorem result_consumeFiles {w : Workspace} {streams : List (String × List Token)}
    (h : ∀ stream ∈ streams, IsFile w stream) (d : Draft) :
    (consumeFiles w d (streams.map Prod.fst)).result = d.consumeStreams streams := by
  induction streams generalizing d with
  | nil => rfl
  | cons stream streams ih =>
    rw [List.forall_mem_cons] at h
    obtain ⟨⟨text, read, tokens⟩, hs⟩ := h
    rw [List.map_cons, consumeFiles, Traced.result_bind, Traced.result_ofExcept, read]
    show (d.consumeText text stream.1 >>= fun d' => consumeFiles w d' _).result = _
    rw [Traced.result_bind, Draft.result_consumeText tokens]
    simp only [ih hs]
    rfl

/-- Files by their tokens. -/
theorem result_ofDdlFiles {w : Workspace} {streams : List (String × List Token)}
    (h : ∀ stream ∈ streams, IsFile w stream) :
    (ofDdlFiles w (streams.map Prod.fst)).result =
      (Draft.consumeStreams {} streams).map Draft.schema := by
  rw [ofDdlFiles, Traced.result_bind, result_consumeFiles h]
  cases Draft.consumeStreams {} streams with
  | error e => rfl
  | ok d => rfl

end Schema

/-! ## Two streams and one -/

namespace Draft

section

variable {semicolon : Token} (h : semicolon.isSemicolon = true) {first : String} {a : List Token}
include h

theorem consumeStreams_of_parsed {ss ss' : List Statement} {second : String} {b : List Token}
    (ha : Statement.listOfTokens first a = .ok ss)
    (hb : Statement.listOfTokens second b = .ok ss') (d : Draft) (whole : String) :
    d.consumeStreams [(first, a), (second, b)] =
      d.consumeTokens whole (a ++ semicolon :: b) := by
  have joined : Statement.listOfTokens whole (a ++ semicolon :: b) = .ok (ss ++ ss') := by
    rw [Statement.listOfTokens_append h, Statement.listOfTokens_eq_ok_under ha,
      Statement.listOfTokens_eq_ok_under hb]
    rfl
  have second : (fun d' : Draft => d'.consumeTokens second b) =
      fun d' => (d'.consumeAll ss').result := funext (consumeTokens_of_parsed hb)
  rw [consumeStreams_pair, consumeTokens_of_parsed ha, second, consumeTokens_of_parsed joined,
    result_consumeAll_append]

theorem consumeTokens_of_malformed_front {e : SourceError}
    (ha : Statement.listOfTokens first a = .error e) (d : Draft) (whole : String)
    (b : List Token) :
    d.consumeTokens whole (a ++ semicolon :: b) = .error (.ddl (e.under whole)) := by
  refine consumeTokens_of_malformed ?_ d
  rw [Statement.listOfTokens_append h, Statement.listOfTokens_eq_error_under ha]
  rfl

theorem consumeTokens_of_malformed_back {ss : List Statement} {second : String} {b : List Token}
    {e : SourceError} (ha : Statement.listOfTokens first a = .ok ss)
    (hb : Statement.listOfTokens second b = .error e) (d : Draft) (whole : String) :
    d.consumeTokens whole (a ++ semicolon :: b) = .error (.ddl (e.under whole)) := by
  refine consumeTokens_of_malformed ?_ d
  rw [Statement.listOfTokens_append h, Statement.listOfTokens_eq_ok_under ha,
    Statement.listOfTokens_eq_error_under hb]
  rfl

end

theorem consumeStreams_of_malformed_front {first second : String} {a b : List Token}
    {e : SourceError} (ha : Statement.listOfTokens first a = .error e) (d : Draft) :
    d.consumeStreams [(first, a), (second, b)] = .error (.ddl e) := by
  rw [consumeStreams_pair, consumeTokens_of_malformed ha]
  rfl

/-- The second file is not looked at if a statement of the first is refused. -/
theorem consumeStreams_of_malformed_back {first second : String} {a b : List Token}
    {ss : List Statement} {e : SourceError} (ha : Statement.listOfTokens first a = .ok ss)
    (hb : Statement.listOfTokens second b = .error e) (d : Draft) :
    d.consumeStreams [(first, a), (second, b)] =
      match (d.applyAll ss).2 with
      | some refusal => .error (.build refusal)
      | none => .error (.ddl e) := by
  rw [consumeStreams_pair, consumeTokens_of_parsed ha, result_consumeAll]
  obtain ⟨d1, e?, applied⟩ : ∃ d1 e?, d.applyAll ss = (d1, e?) := ⟨_, _, rfl⟩
  rw [applied]
  cases e? with
  | none => exact consumeTokens_of_malformed hb d1
  | some refusal => rfl

/-- Two streams in order make a draft exactly if the stream of both with a semicolon between them
does, and it is the same one. If both are well-formed the same statement is refused either way. If
the first is malformed, its error comes of both. If only the second is, its error comes of the
single stream; two streams end in it unless a statement of the first is refused. Files are loaded as
such streams, and so is a text. -/
theorem streams_apart_and_joined (a b : List Token) {semicolon : Token}
    (h : semicolon.isSemicolon = true) (first second whole : String) :
    (∀ d d' : Draft, d.consumeStreams [(first, a), (second, b)] = .ok d' ↔
      d.consumeTokens whole (a ++ semicolon :: b) = .ok d') ∧
    (∀ (d : Draft) (ss ss' : List Statement), Statement.listOfTokens first a = .ok ss →
      Statement.listOfTokens second b = .ok ss' →
      d.consumeStreams [(first, a), (second, b)] =
        d.consumeTokens whole (a ++ semicolon :: b)) ∧
    (∀ (d : Draft) (e : SourceError), Statement.listOfTokens first a = .error e →
      d.consumeStreams [(first, a), (second, b)] = .error (.ddl e) ∧
      d.consumeTokens whole (a ++ semicolon :: b) = .error (.ddl (e.under whole))) ∧
    (∀ (d : Draft) (ss : List Statement) (e : SourceError),
      Statement.listOfTokens first a = .ok ss → Statement.listOfTokens second b = .error e →
      d.consumeTokens whole (a ++ semicolon :: b) = .error (.ddl (e.under whole)) ∧
      d.consumeStreams [(first, a), (second, b)] =
        match (d.applyAll ss).2 with
        | some refusal => .error (.build refusal)
        | none => .error (.ddl e)) ∧
    (∀ w, Schema.IsFile w (first, a) → Schema.IsFile w (second, b) →
      (Schema.ofDdlFiles w [first, second]).result =
        (consumeStreams {} [(first, a), (second, b)]).map schema) ∧
    ∀ text, tokenize text whole = .ok (a ++ semicolon :: b) →
      (Schema.ofDdl text whole).result =
        (consumeTokens {} whole (a ++ semicolon :: b)).map schema := by
  refine ⟨fun d d' => ?drafts, fun d ss ss' ha hb => consumeStreams_of_parsed h ha hb d whole,
    fun d e ha => ⟨consumeStreams_of_malformed_front ha d,
      consumeTokens_of_malformed_front h ha d whole b⟩,
    fun d ss e ha hb => ⟨consumeTokens_of_malformed_back h ha hb d whole,
      consumeStreams_of_malformed_back ha hb d⟩,
    fun w ha hb => ?files, fun text tokens => Schema.result_ofDdl tokens⟩
  case drafts =>
    cases ha : Statement.listOfTokens first a with
    | error e =>
      rw [consumeStreams_of_malformed_front ha, consumeTokens_of_malformed_front h ha]
      exact ⟨fun he => (by cases he), fun he => (by cases he)⟩
    | ok ss =>
      cases hb : Statement.listOfTokens second b with
      | error e =>
        rw [consumeStreams_of_malformed_back ha hb, consumeTokens_of_malformed_back h ha hb]
        refine ⟨fun he => ?_, fun he => (by cases he)⟩
        split at he
        · cases he
        · cases he
      | ok ss' => rw [consumeStreams_of_parsed h ha hb d whole]
  case files =>
    have areFiles : ∀ stream ∈ [(first, a), (second, b)], Schema.IsFile w stream :=
      List.forall_mem_cons.2 ⟨ha, List.forall_mem_singleton.2 hb⟩
    exact Schema.result_ofDdlFiles areFiles

end Draft

/-! ## A table and its column -/

/-- A word in the first line. -/
def wordAt (col : Nat) (text : String) : Token := { kind := .word, text, line := 1, col }

/-- Punctuation in the first line. -/
def punctAt (col : Nat) (text : String) : Token := { kind := .punct, text, line := 1, col }

/-- A table. -/
def tableTokens : List Token :=
  [wordAt 6 "CREATE", wordAt 12 "TABLE", wordAt 14 "A", punctAt 16 "(", punctAt 17 ")"]

/-- A column for the table, in the place where it is behind the table and a semicolon. -/
def columnTokens : List Token :=
  [wordAt 23 "ALTER", wordAt 29 "TABLE", wordAt 31 "A", wordAt 35 "ADD", wordAt 42 "COLUMN",
    wordAt 44 "B", wordAt 49 "DATE"]

/-- The working directory of two files, the first of them named `a`. -/
def twoFiles (content content' : List UInt8) : Workspace :=
  ⟨{}, fun place =>
    if place = [] then .directory
    else if place = ["a"] then .file content else .file content'⟩

theorem readSchema_first {content content' : List UInt8} {text : String}
    (read : textOfBytes content = .ok text) :
    (twoFiles content content').readSchema "a" = .ok text :=
  Workspace.readSchema_of_file (Pathname.pieces_letter (.inl rfl)) (by decide) (by decide)
    (by decide) (by decide) rfl rfl read

theorem readSchema_second {content content' : List UInt8} {text : String}
    (read : textOfBytes content' = .ok text) :
    (twoFiles content content').readSchema "b" = .ok text :=
  Workspace.readSchema_of_file (Pathname.pieces_letter (.inr rfl)) (by decide) (by decide)
    (by decide) (by decide) rfl (by simp [twoFiles]) read

/-- The files of the table and of the column. -/
def tableColumnFiles : Workspace :=
  twoFiles "CREATE TABLE A ()".toUTF8.data.toList
    "                  ALTER TABLE A ADD COLUMN B DATE".toUTF8.data.toList

theorem isFile_table : Schema.IsFile tableColumnFiles ("a", tableTokens) := by
  have text : (textOfBytes "CREATE TABLE A ()".toUTF8.data.toList).toOption =
      some "CREATE TABLE A ()" := by decide +kernel
  exact ⟨_, readSchema_first (toOption_eq_some_iff.1 text), by decide +kernel⟩

theorem isFile_column : Schema.IsFile tableColumnFiles ("b", columnTokens) := by
  have text : (textOfBytes
      "                  ALTER TABLE A ADD COLUMN B DATE".toUTF8.data.toList).toOption =
      some "                  ALTER TABLE A ADD COLUMN B DATE" := by decide +kernel
  exact ⟨_, readSchema_second (toOption_eq_some_iff.1 text), by decide +kernel⟩

theorem tokenize_tableColumn :
    tokenize "CREATE TABLE A ();ALTER TABLE A ADD COLUMN B DATE" "" =
      .ok (tableTokens ++ punctAt 18 ";" :: columnTokens) := by
  decide +kernel

namespace Draft

/-- The same for a table, a column of it and a statement that breaks off. The column cannot be added
before there is the table. -/
theorem streams_apart_and_joined_column :
    ∃ (semicolon : Token) (d : Draft) (brokenOff : List Token) (e : SourceError),
      semicolon.isSemicolon = true ∧
      (Schema.ofDdlFiles tableColumnFiles ["a", "b"]).result = .ok d.schema ∧
      (Schema.ofDdl "CREATE TABLE A ();ALTER TABLE A ADD COLUMN B DATE" "").result =
        .ok d.schema ∧
      consumeStreams {} [("b", columnTokens), ("a", tableTokens)] =
        consumeTokens {} "" (columnTokens ++ semicolon :: tableTokens) ∧
      consumeStreams {} [("x", brokenOff), ("b", columnTokens)] = .error (.ddl e) ∧
      consumeTokens {} "x" (brokenOff ++ semicolon :: columnTokens) = .error (.ddl e) ∧
      consumeStreams {} [("b", columnTokens), ("x", brokenOff)] =
        .error (.build (.unknownTable "A")) ∧
      consumeTokens {} "x" (columnTokens ++ semicolon :: brokenOff) = .error (.ddl e) := by
  let semicolon := punctAt 18 ";"
  let d : Draft := {
    tables := [{ name := "A", columns := [{ name := "B", type := "DATE" }] }]
    places := [("A", 0)] }
  let brokenOff := [wordAt 6 "CREATE", wordAt 12 "TABLE"]
  let create : Statement := .createTable { name := ⟨[.named "A"]⟩ }
  let add : Statement := .alterTable ⟨[.named "A"]⟩
    (.addColumn { name := .named "B", type := .scalar "DATE" } false)
  let e : SourceError :=
    { fault := .expected "identifier" none, source := "x", line := 1, col := 12 }
  have created : Statement.listOfTokens "a" tableTokens = .ok [create] := by decide +kernel
  have added : Statement.listOfTokens "b" columnTokens = .ok [add] := by decide +kernel
  have malformed : Statement.listOfTokens "x" brokenOff = .error e := by decide +kernel
  have joined : (consumeTokens {} "" (tableTokens ++ semicolon :: columnTokens)).toOption =
      some d := by decide +kernel
  have separates : semicolon.isSemicolon = true := rfl
  obtain ⟨drafts, -, -, -, fromFiles, fromText⟩ :=
    streams_apart_and_joined tableTokens columnTokens separates "a" "b" ""
  obtain ⟨-, refused, -, -, -, -⟩ :=
    streams_apart_and_joined columnTokens tableTokens separates "b" "a" ""
  obtain ⟨-, -, front, -, -, -⟩ :=
    streams_apart_and_joined brokenOff columnTokens separates "x" "b" "x"
  obtain ⟨-, -, -, back, -, -⟩ :=
    streams_apart_and_joined columnTokens brokenOff separates "b" "x" "x"
  have single := toOption_eq_some_iff.1 joined
  have apart := (drafts {} d).2 single
  refine ⟨semicolon, d, brokenOff, e, separates, ?_, ?_, refused {} _ _ added created,
    (front {} e malformed).1, (front {} e malformed).2, (back {} _ e added malformed).2,
    (back {} _ e added malformed).1⟩
  · rw [fromFiles _ isFile_table isFile_column, apart]
    rfl
  · rw [fromText _ tokenize_tableColumn, single]
    rfl

end Draft

end SpannerDdl
