import SpannerDdl.CommandLine.Export
import SpannerDdl.Proofs.Grammar.Demands
import SpannerDdl.Proofs.Schema.DdlOutcome
import SpannerDdl.Proofs.Settings.Layers
import SpannerDdl.Proofs.Text.Lines
import SpannerDdl.Proofs.Token.Shapes

/-! # How exporting fails

A command that is given DDL without a schema prints nothing and tells the reason behind `error: `.
Three reasons show some of the input as it stands, and break the line where that does.

* `LoadError.verbatim e`: what a reason shows as it stands.
* `LoadError.onOneLine_message_iff`: a reason stands on one line exactly if that does.
* `Schema.notes_ofDdl_below_warning`: nothing else is told.
* `exportDocument_of_failed_ddl`: the outcome of the command. -/

set_option autoImplicit false

namespace SpannerDdl

open Text (OnOneLine)

/-! ## Tokens in messages -/

/-- A quoted identifier, which is shown as it stands. -/
def Token.identText (t : Token) : String := if t.kind = .ident then t.text else ""

theorem onOneLine_of_noBlank {s : String} (h : NoBlank s.toList) : OnOneLine s :=
  fun c hc => Text.isLineBreak_of_not_isBlank (h c hc)

theorem Token.onOneLine_describe_iff {t : Token}
    (h : t.kind ≠ .string → t.kind ≠ .ident → NoBlank t.text.toList) :
    OnOneLine t.describe ↔ OnOneLine t.identText := by
  obtain ⟨kind, text, line, col⟩ := t
  have empty : OnOneLine "" := by decide
  have mark : OnOneLine "`" := by decide
  cases kind with
  | string => exact iff_of_true (Text.onOneLine_quoted text) empty
  | ident =>
    show OnOneLine ("`" ++ text ++ "`") ↔ OnOneLine text
    simp only [Text.onOneLine_append, mark, true_and, and_true]
  | word => exact iff_of_true (onOneLine_of_noBlank (h (by simp) (by simp))) empty
  | number => exact iff_of_true (onOneLine_of_noBlank (h (by simp) (by simp))) empty
  | punct => exact iff_of_true (onOneLine_of_noBlank (h (by simp) (by simp))) empty

/-! ## Malformed text -/

/-- What the fault of a text shows as it stands: the surroundings of the place where the text ended
too early, or a quoted identifier in the place of something else. -/
def SourceFault.verbatim : SourceFault → String
  | .unreadable excerpt => excerpt
  | .expected _ found => (found.map Token.identText).getD ""

theorem SourceError.onOneLine_location {e : SourceError} (h : OnOneLine e.source) :
    OnOneLine e.location := by
  have name : OnOneLine (if e.source == "" then "<input>" else e.source) := by
    split
    · decide
    · exact h
  unfold location
  dsimp only
  split
  · exact name
  · simp only [Text.onOneLine_append, name, Text.onOneLine_toString_nat, and_true, true_and]
    decide

theorem SourceError.onOneLine_message_iff {e : SourceError} (h : OnOneLine e.source) :
    OnOneLine e.message ↔ OnOneLine e.fault.message := by
  have label : OnOneLine "syntax error: " := by decide
  have colon : OnOneLine ": " := by decide
  show OnOneLine ("syntax error: " ++ e.location ++ ": " ++ e.fault.message) ↔ _
  simp only [Text.onOneLine_append, label, colon, onOneLine_location h, true_and]

/-- Text is malformed because it ends too early, or because a statement lacks one of the things
that readers ask for. -/
theorem Statement.exists_of_parse_error {text source : String} {e : SourceError}
    (h : parse text source = .error e) :
    (∃ excerpt, e = { fault := .unreadable excerpt, source }) ∨
      ∃ what ∈ Grammar.demands, ∃ found line col,
        e = { fault := .expected what found, source, line, col } ∧
        ∃ ts, tokenize text source = .ok ts ∧ ∀ t ∈ found, t ∈ ts := by
  unfold parse at h
  cases tokenized : tokenize text source with
  | error e' =>
    rw [tokenized] at h
    cases h
    unfold tokenize at tokenized
    split at tokenized
    · cases tokenized
      exact .inl ⟨_, rfl⟩
    · cases tokenized
  | ok ts =>
    rw [tokenized] at h
    obtain ⟨st, ofTokens, failed⟩ := exists_mem_of_mapM_error h
    unfold Statement.ofTokens at failed
    split at failed
    · cases failed
    · next m mismatch =>
      cases failed
      have rest : m.rest <:+ st := by
        have texts : Grammar.Texts (fun _ => True) st := fun _ _ _ => trivial
        have ends := Grammar.ends_statement texts
        rw [mismatch] at ends
        exact ends
      refine .inr ⟨m.expected, Grammar.asks_statement st m mismatch, m.rest.head?, _, _, rfl, ts,
        rfl, fun t found => ?_⟩
      exact Token.mem_of_mem_statements ofTokens (rest.subset (List.mem_of_head? found))

theorem Statement.onOneLine_message_of_parse {text source : String} {e : SourceError}
    (h : parse text source = .error e) (ofSource : OnOneLine source) :
    OnOneLine e.message ↔ OnOneLine e.fault.verbatim := by
  obtain ⟨excerpt, rfl⟩ | ⟨what, asked, found, line, col, rfl, ts, tokenized, found_mem⟩ :=
    exists_of_parse_error h
  · have label : OnOneLine "Error tokenizing '" := by decide
    have quote : OnOneLine "'" := by decide
    rw [SourceError.onOneLine_message_iff ofSource]
    show OnOneLine ("Error tokenizing '" ++ excerpt ++ "'") ↔ OnOneLine excerpt
    simp only [Text.onOneLine_append, label, quote, true_and, and_true]
  · have label : OnOneLine "expected " := by decide
    have got : OnOneLine ", but got " := by decide
    have demanded : ∀ d ∈ Grammar.demands, OnOneLine d := by decide
    rw [SourceError.onOneLine_message_iff ofSource]
    show OnOneLine ("expected " ++ what ++ ", but got " ++
      (found.map Token.describe).getD "end of statement") ↔ _
    simp only [Text.onOneLine_append, label, got, demanded what asked, true_and]
    cases found with
    | none =>
      have empty : OnOneLine "" := by decide
      exact iff_of_true (by decide) empty
    | some t => exact Token.onOneLine_describe_iff (noBlank_of_tokenize tokenized (found_mem t rfl))

/-! ## Refused statements -/

/-- What a refusal shows as it stands: the name of an index without a table. -/
def BuildError.verbatim : BuildError → String
  | .indexWithoutTable index => index
  | _ => ""

theorem BuildError.onOneLine_message_iff {e : BuildError} (h : e.IsOfName) :
    OnOneLine e.message ↔ OnOneLine e.verbatim := by
  have empty : OnOneLine "" := by decide
  cases h with
  | unnamedTable => exact iff_of_true (by decide) empty
  | unnamedIndex => exact iff_of_true (by decide) empty
  | indexWithoutTable index =>
    have label : OnOneLine "CREATE INDEX " := by decide
    have missing : OnOneLine " is missing a table name" := by decide
    show OnOneLine ("CREATE INDEX " ++ index ++ " is missing a table name") ↔ OnOneLine index
    simp only [Text.onOneLine_append, label, missing, true_and, and_true]
  | duplicateTable table =>
    have label : OnOneLine "table " := by decide
    have taken : OnOneLine " already exists" := by decide
    refine iff_of_true ?_ empty
    show OnOneLine ("table " ++ Text.quoted table ++ " already exists")
    simp only [Text.onOneLine_append, Text.onOneLine_quoted, label, taken, and_self]
  | unknownTable table =>
    have label : OnOneLine "ALTER TABLE references unknown table " := by decide
    refine iff_of_true ?_ empty
    show OnOneLine ("ALTER TABLE references unknown table " ++ Text.quoted table)
    simp only [Text.onOneLine_append, Text.onOneLine_quoted, label, and_self]

/-! ## Reasons -/

/-- What the reason why DDL gives no schema shows as it stands in the input. -/
def LoadError.verbatim : LoadError → String
  | .ddl e => e.fault.verbatim
  | .build e => e.verbatim
  | _ => ""

theorem LoadError.onOneLine_message_iff {text source : String} {e : LoadError}
    (h : (Schema.ofDdl text source).result = .error e) (ofSource : OnOneLine source) :
    OnOneLine e.message ↔ OnOneLine e.verbatim := by
  rcases (Schema.ofDdl_outcome text source).1 with ⟨s, ok⟩ | ⟨e', parsed, malformed⟩ |
    ⟨e', refused, isOfName⟩
  · rw [ok] at h
    cases h
  · rw [malformed] at h
    cases h
    exact Statement.onOneLine_message_of_parse parsed ofSource
  · rw [refused] at h
    cases h
    exact BuildError.onOneLine_message_iff isOfName

/-! ## Notices -/

theorem Statement.notice_below_warning {s : Statement} {n : Notice} (h : n ∈ s.notice?) :
    n.isAtLeast .warning = false := by
  cases s with
  | createTable t =>
    cases h
    rfl
  | alterTable name change =>
    obtain ⟨kind, -, rfl⟩ := Option.map_eq_some_iff.1 h
    rfl
  | createIndex i => cases h
  | other keyword text =>
    cases h
    rfl

theorem Draft.notes_consumeAll_below_warning (d : Draft) (ss : List Statement) :
    ∀ n ∈ (d.consumeAll ss).notes, n.isAtLeast .warning = false := by
  induction ss generalizing d with
  | nil => simp [consumeAll, Traced.done]
  | cons s ss ih =>
    refine Traced.forall_notes_bind (fun n hn => ?_) fun d => ih d
    unfold consume at hn
    split at hn
    · exact Statement.notice_below_warning (Option.mem_toList.1 hn)
    · cases hn

theorem Schema.notes_ofDdl_below_warning (text source : String) :
    ∀ n ∈ (ofDdl text source).notes, n.isAtLeast .warning = false := by
  have told : ∀ {m : Notice}, m.isAtLeast .warning = false →
      ∀ n ∈ (Traced.note m : Traced Notice LoadError Unit).notes,
        n.isAtLeast .warning = false := by
    intro m hm n hn
    rwa [List.mem_singleton.1 hn]
  refine Traced.forall_notes_bind ?consumed fun d => Traced.forall_notes_bind (told rfl) ?made
  case consumed =>
    unfold Draft.consumeText
    split
    · simp [Traced.fail]
    · exact Traced.forall_notes_bind (told rfl) fun _ => Draft.notes_consumeAll_below_warning _ _
  case made => simp

theorem Outcome.shown_eq_empty {level : Severity} {ns : List Notice}
    (h : ∀ n ∈ ns, n.isAtLeast level = false) : shown level ns = "" := by
  have none : ns.filter (·.isAtLeast level) = [] :=
    List.filter_eq_nil_iff.2 fun n hn => by simp [h n hn]
  rw [shown, none]
  rfl

/-! ## The command -/

/-- The command is given a text on its standard input, with the settings that hold by default, and
is not asked to tell more. -/
structure Invocation.Feeds (i : Invocation) (text : String) : Prop where
  arguments : ∃ a, ExportArguments.parse i.words = .ok a ∧ a.verbose = false ∧
    a.file?.filter (fun p => p != "" && p != "-") = none
  settings : Settings.ofEnvironment i.workspace i.environment = .done {}
  input : textOfBytes i.input = .ok text

theorem exportDocument_of_error {i : Invocation} {text : String} {e : LoadError}
    (fed : i.Feeds text) (failed : (Schema.ofDdl text inputSource).result = .error e) :
    exportDocument i = { ending := .exit 1, errors := "error: " ++ e.message ++ "\n" } := by
  obtain ⟨⟨a, parsed, notVerbose, noFile⟩, settled, input⟩ := fed
  have source : i.source a.file? = .ok (text, inputSource) := by
    unfold Invocation.source
    rw [noFile]
    dsimp only
    rw [input]
    rfl
  have told : Outcome.shown (Outcome.level a.verbose {}) (Schema.ofDdl text inputSource).notes =
      "" := by
    rw [notVerbose]
    exact Outcome.shown_eq_empty (Schema.notes_ofDdl_below_warning text inputSource)
  have exported : exportWith i a {} = .failure e.message "" := by
    unfold exportWith
    rw [source]
    dsimp only
    rw [failed, told]
  unfold exportDocument
  rw [parsed]
  dsimp only
  unfold Outcome.withSettings
  rw [settled]
  dsimp only [Traced.done]
  rw [exported]
  simp [Outcome.failure, Outcome.lines, String.join]

/-- DDL without a schema makes the command fail: it ends with the exit code 1, prints and writes
nothing, and tells the reason. It tells it in exactly one line if and only if what the reason shows
as it stands in the input is on one line. -/
theorem exportDocument_of_failed_ddl {i : Invocation} {text : String} {e : LoadError}
    (fed : i.Feeds text) (failed : (Schema.ofDdl text inputSource).result = .error e) :
    exportDocument i = { ending := .exit 1, errors := "error: " ++ e.message ++ "\n" } ∧
      (Text.IsLine (exportDocument i).errors ↔ OnOneLine e.verbatim) := by
  have outcome := exportDocument_of_error fed failed
  have label : OnOneLine "error: " := by decide
  refine ⟨outcome, ?_⟩
  rw [outcome, Text.isLine_append_iff, Text.onOneLine_append, and_iff_right label]
  exact LoadError.onOneLine_message_iff failed (by decide)

/-- The command without arguments in an empty directory, with a text on its standard input. The
file of settings that is named is missing. -/
def Invocation.plain (text : String) : Invocation where
  words := []
  environment := { configPath := some "a" }
  workspace := .ofFiles ⟨"/", []⟩ []
  input := text.toUTF8.data.toList

theorem Invocation.feeds_plain {text : String}
    (input : textOfBytes text.toUTF8.data.toList = .ok text) : (plain text).Feeds text where
  arguments := ⟨{}, rfl, rfl, rfl⟩
  settings := by
    have missing : (plain text).workspace.entry (Pathname.ofText "a").text = .absent :=
      Settings.entry_letter rfl rfl
    have file : Settings.ofFile (plain text).workspace (some "a") = .done {} := by
      unfold Settings.ofFile
      dsimp only [Option.getD_some]
      rw [missing]
    have named : (plain text).environment.configPath.filter (· != "") = some "a" := rfl
    rw [Settings.ofEnvironment, named, file]
    rfl
  input := input

/-- A statement that goes on where it should end, with a string that holds a line feed. -/
def strayString : String := "ALTER TABLE T DROP COLUMN a 'x\ny'"

/-- The string is shown with quotes and an escape, on one line. -/
theorem exportDocument_of_strayString :
    let e : LoadError := .ddl {
      fault := .expected "end of statement" (some ⟨.string, "x\ny", 2, 2⟩)
      source := inputSource
      line := 2
      col := 2 }
    let i := Invocation.plain strayString
    i.Feeds strayString ∧ (Schema.ofDdl strayString inputSource).result = .error e ∧
      OnOneLine e.verbatim ∧
      exportDocument i = { ending := .exit 1, errors := "error: " ++ e.message ++ "\n" } ∧
      (Text.IsLine (exportDocument i).errors ↔ OnOneLine e.verbatim) := by
  intro e i
  have fed : i.Feeds strayString := Invocation.feeds_plain (by decide +kernel)
  have failed : (Schema.ofDdl strayString inputSource).result = .error e :=
    Schema.result_ofDdl_of_malformed (by decide +kernel)
  exact ⟨fed, failed, by decide +kernel, exportDocument_of_failed_ddl fed failed⟩

/-- A text that ends inside a string, behind a line feed. -/
def openString : String := "ALTER TABLE\n'"

/-- What is around the place is shown as it stands, on two lines. -/
theorem exportDocument_of_openString :
    let e : LoadError := .ddl { fault := .unreadable "ALTER TABLE\n", source := inputSource }
    let i := Invocation.plain openString
    i.Feeds openString ∧ (Schema.ofDdl openString inputSource).result = .error e ∧
      exportDocument i = {
        ending := .exit 1
        errors := "error: syntax error: <stdin>: Error tokenizing 'ALTER TABLE\n'\n" } ∧
      ¬ Text.IsLine (exportDocument i).errors := by
  intro e i
  have fed : i.Feeds openString := Invocation.feeds_plain (by decide +kernel)
  have failed : (Schema.ofDdl openString inputSource).result = .error e :=
    Schema.result_ofDdl_of_malformed (by decide +kernel)
  have outcome := exportDocument_of_error fed failed
  have told : "error: " ++ e.message ++ "\n" =
      "error: syntax error: <stdin>: Error tokenizing 'ALTER TABLE\n'\n" := by decide +kernel
  refine ⟨fed, failed, by rw [outcome, told], ?_⟩
  rw [outcome, Text.isLine_append_iff]
  decide +kernel

end SpannerDdl
