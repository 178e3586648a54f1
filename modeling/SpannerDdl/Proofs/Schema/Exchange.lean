import SpannerDdl.Diagram.Mermaid
import SpannerDdl.Proofs.Draft.Exchange
import SpannerDdl.Proofs.Grammar.ReadingStatements
import SpannerDdl.Proofs.Json.Exactness
import SpannerDdl.Proofs.Schema.Loading
import SpannerDdl.Proofs.Token.Words

/-! # Schemas that are exported and loaded again

A schema that was loaded from DDL is the same behind its document as text, whatever the layout. -/

set_option autoImplicit false

namespace SpannerDdl

/-! ## What is loaded -/

/-- Names among the tokens are given if no quoted identifier is empty. -/
theorem Grammar.texts_isGiven {text source : String} {ts : List Token}
    (h : tokenize text source = .ok ts) (named : ∀ t ∈ ts, t.kind = .ident → t.text ≠ "") :
    Grammar.Texts IsGiven ts := by
  intro t ht hk
  rcases hk with hk | hk
  · exact text_ne_of_word_of_tokenize h ht hk
  · exact named t ht hk

theorem Statement.complete_of_listOfTokens {P : String → Prop} {source : String}
    {ts : List Token} {ss : List Statement} (hP : Grammar.Texts P ts)
    (h : listOfTokens source ts = .ok ss) : ∀ s ∈ ss, s.Complete P := by
  intro s hs
  obtain ⟨piece, hp, hs⟩ := exists_mem_of_mapM h hs
  have texts : Grammar.Texts P piece := fun t ht => hP t (Token.mem_of_mem_statements hp ht)
  unfold ofTokens at hs
  split at hs
  · rename_i s' h'
    cases hs
    exact Grammar.complete_of_statement texts h'
  · cases hs

namespace Schema

/-! ## What is exported -/

/-- What is loaded from DDL without empty quoted identifiers can be exported in every layout whose
indentation can be made, and is loaded again from what was exported. The diagram is the same, too. -/
theorem ofJsonText_dump_of_ofDdl {text source : String} {s : Schema}
    (loaded : (ofDdl text source).result = .ok s)
    (named : ∀ ts, tokenize text source = .ok ts → ∀ t ∈ ts, t.kind = .ident → t.text ≠ "")
    {layout : Json.Layout} (possible : layout.IsPossible) (source' : String) :
    ∃ out, Json.dump layout s.toJson = .ok out ∧
      (ofJsonText out source').result = .ok s ∧
      ∀ s', (ofJsonText out source').result = .ok s' →
        s'.diagram = s.diagram ∧ s'.diagram.mermaid = s.diagram.mermaid := by
  obtain ⟨ts, ss, d, ht, hs, history, rfl⟩ := exists_history_of_ofDdl loaded
  have texts := Grammar.texts_isGiven ht (named ts ht)
  have complete := Statement.complete_of_listOfTokens texts hs
  have written : Json.dump layout d.schema.toJson = .ok (Json.render layout d.schema.toJson) :=
    Json.dump_eq_ok_iff.2 ⟨.inl possible, d.schema.exact_toJson.hasShortIntegers, rfl⟩
  have keys : ∀ k ∈ d.schema.foreignKeys, k.name ≠ "" := fun k hk =>
    (history.wellFormed.foreignKeys k hk).named
  have again := ofJsonText_render (history.isValid_schema complete) keys layout source'
  refine ⟨_, written, again, ?_⟩
  intro s' hs'
  rw [again] at hs'
  cases hs'
  exact ⟨rfl, rfl⟩

/-- The same for a table with a key. -/
theorem ofJsonText_dump_singers : ∃ s : Schema,
    (ofDdl "CREATE TABLE Singers (Id INT64 NOT NULL) PRIMARY KEY (Id)" "").result = .ok s ∧
    s.tableNames = ["Singers"] ∧
    ∃ out, Json.dump (.indented 2) s.toJson = .ok out ∧
      (ofJsonText out "").result = .ok s ∧
      ∀ s', (ofJsonText out "").result = .ok s' →
        s'.diagram = s.diagram ∧ s'.diagram.mermaid = s.diagram.mermaid := by
  have loaded : (ofDdl "CREATE TABLE Singers (Id INT64 NOT NULL) PRIMARY KEY (Id)" "").result =
      .ok { tables := [{
        name := "Singers"
        columns := [{ name := "Id", type := "INT64", notNull := true }]
        primaryKey := ["Id"] }] } := by
    rw [← toOption_eq_some_iff]
    decide +kernel
  have named : ∀ ts ∈ (tokenize "CREATE TABLE Singers (Id INT64 NOT NULL) PRIMARY KEY (Id)"
      "").toOption, ∀ t ∈ ts, t.kind = .ident → t.text ≠ "" := by
    decide +kernel
  have possible : (Json.Layout.indented 2).IsPossible :=
    Json.Layout.isPossible_indented_iff.2 (by decide)
  exact ⟨_, loaded, rfl, ofJsonText_dump_of_ofDdl loaded
    (fun ts ht => named ts (toOption_eq_some_iff.2 ht)) possible ""⟩

/-- An indentation whose width is no index cannot be made. -/
theorem dump_of_wide_indentation : ∃ s,
    (ofDdl "" "").result = .ok s ∧ tokenize "" "" = .ok [] ∧
    Json.dump (.indented 9223372036854775808) s.toJson = .error .noIndex := by
  refine ⟨{}, ?_, ?_, by decide +kernel⟩
  · rw [← toOption_eq_some_iff]
    decide +kernel
  · decide +kernel

end Schema

end SpannerDdl
