import SpannerDdl.Proofs.Draft.Step
import SpannerDdl.Proofs.Schema.ValidReading
import SpannerDdl.Schema.Loading

/-! # What loading goes through

* `Schema.exists_history_of_ofDdl`, `Schema.exists_history_of_ofDdlFiles`: a schema from DDL is
  what statements build, none of them refused.
* `Schema.ofValue_of_valid`, `Schema.ofValue_of_invalid`: what becomes of a decoded document.
* `Schema.ofJsonText_eq_ok_iff`: a document is loaded exactly if it can be decoded, is valid and
  can be read.
* `Schema.ofJsonText_render`: the document of a valid schema is. -/

set_option autoImplicit false

namespace SpannerDdl

/-! ## Files -/

/-- A file in the working directory is read by its name. -/
theorem Workspace.readSchema_of_file {w : Workspace} {name text : String} {content : List UInt8}
    (whole : Pathname.pieces name = [name]) (relative : Pathname.rootOf name = "")
    (plain : name ∉ ["", ".", ".."]) (noNul : Pathname.holdsNul name = false)
    (short : Pathname.isLongName name = false) (top : w.find w.cwd.parts = .directory)
    (found : w.find (w.cwd.parts ++ [name]) = .file content)
    (read : textOfBytes content = .ok text) : w.readSchema name = .ok text := by
  have fits : Pathname.isLong name = false := by
    simp only [Pathname.isLong, Pathname.isLongName, decide_eq_false_iff_not] at short ⊢
    omega
  simp only [List.mem_cons, List.not_mem_nil, or_false, not_or] at plain
  have normal : (Pathname.ofText name).text = name := by
    simp [Pathname.ofText, Pathname.text, whole, relative, plain]
  have there : w.entry name = .file content := by
    simp [entry, noNul, plain, fits, relative, whole, follow, top, short, found]
  unfold readSchema
  dsimp only
  rw [normal, there]
  dsimp only
  rw [read]
  rfl

/-! ## Loading DDL -/

namespace Draft

theorem history_consumeAll {log ss : List Statement} {d d' : Draft} (h : History log d)
    (consumed : (d.consumeAll ss).result = .ok d') : History (log ++ ss) d' := by
  induction ss generalizing log d with
  | nil =>
    cases consumed
    rwa [List.append_nil]
  | cons s ss ih =>
    simp only [consumeAll, Traced.andThen, consume] at consumed
    split at consumed
    · rename_i d1 hd1
      split at hd1
      · rename_i d2 applied
        cases hd1
        have s1 := ih (h.step (step_of_apply applied)) consumed
        rwa [List.append_assoc] at s1
      · cases hd1
    · cases consumed

theorem exists_history_of_consumeText {log : List Statement} {text source : String} {d d' : Draft}
    (h : History log d) (consumed : (d.consumeText text source).result = .ok d') :
    ∃ ts ss, tokenize text source = .ok ts ∧ Statement.listOfTokens source ts = .ok ss ∧
      History (log ++ ss) d' := by
  unfold consumeText at consumed
  split at consumed
  · cases consumed
  · rename_i ss parsed
    rw [Statement.parse] at parsed
    split at parsed
    · cases parsed
    · rename_i ts ht
      exact ⟨ts, ss, ht, parsed, history_consumeAll h consumed⟩

end Draft

namespace Schema

/-- A schema that is loaded from DDL is what its statements build, none of them refused. -/
theorem exists_history_of_ofDdl {text source : String} {s : Schema}
    (h : (ofDdl text source).result = .ok s) :
    ∃ ts ss d, tokenize text source = .ok ts ∧ Statement.listOfTokens source ts = .ok ss ∧
      Draft.History ss d ∧ d.schema = s := by
  obtain ⟨d, hd, hs⟩ := Traced.result_bind_eq_ok_iff.1 h
  obtain ⟨ts, ss, ht, hss, history⟩ := Draft.exists_history_of_consumeText .empty hd
  exact ⟨ts, ss, d, ht, hss, history, Except.ok.inj hs⟩

theorem exists_history_of_consumeFiles {w : Workspace} {paths : List String}
    {log : List Statement} {d d' : Draft} (h : Draft.History log d)
    (consumed : (consumeFiles w d paths).result = .ok d') :
    ∃ ss, Draft.History (log ++ ss) d' := by
  induction paths generalizing log d with
  | nil =>
    cases consumed
    exact ⟨[], by rwa [List.append_nil]⟩
  | cons path paths ih =>
    obtain ⟨text, -, consumed⟩ := Traced.result_bind_eq_ok_iff.1 consumed
    obtain ⟨d1, hd1, consumed⟩ := Traced.result_bind_eq_ok_iff.1 consumed
    obtain ⟨ts, ss, -, -, h1⟩ := Draft.exists_history_of_consumeText h hd1
    obtain ⟨ss', h2⟩ := ih h1 consumed
    exact ⟨ss ++ ss', by rwa [← List.append_assoc]⟩

/-- The same for files: all their statements build the schema. -/
theorem exists_history_of_ofDdlFiles {w : Workspace} {paths : List String} {s : Schema}
    (h : (ofDdlFiles w paths).result = .ok s) : ∃ ss d, Draft.History ss d ∧ d.schema = s := by
  obtain ⟨d, hd, hs⟩ := Traced.result_bind_eq_ok_iff.1 h
  obtain ⟨ss, history⟩ := exists_history_of_consumeFiles .empty hd
  exact ⟨[] ++ ss, d, history, Except.ok.inj hs⟩

/-- A single file is loaded as its text. -/
theorem ofDdlFiles_singleton_eq_ok_iff {w : Workspace} {path text : String} {s : Schema}
    (read : w.readSchema path = .ok text) :
    (ofDdlFiles w [path]).result = .ok s ↔ (ofDdl text path).result = .ok s := by
  simp [ofDdlFiles, ofDdl, consumeFiles, Traced.result_bind_eq_ok_iff, read, Traced.note,
    Traced.done]

/-! ## Loading documents -/

section

variable {doc : Json}

/-- Behind its structure only the references of a document are looked at. -/
theorem validate_of_valid (valid : validate doc false = []) :
    validate doc = referenceIssues doc := by
  rw [validate, Bool.and_false, if_neg Bool.false_ne_true] at valid
  rw [validate, valid]
  rfl

theorem isDocument_of_valid (valid : validate doc false = []) : doc.IsDocument :=
  Json.isDocument_iff_issues.1 (validate_eq_nil_iff.1 valid)

theorem ofDocument_of_valid (valid : validate doc false = []) :
    ofDocument doc = .ok (ofValid doc).nameKeys := by
  rw [ofDocument, ofJson_of_isDocument (isDocument_of_valid valid)]
  rfl

theorem ofValue_of_valid (valid : validate doc false = []) (source : String) :
    ofValue doc source =
      ⟨issueNotices (validate doc) source, .ok (ofValid doc).nameKeys⟩ := by
  have references := readReferenceIssues_of_isDocument (isDocument_of_valid valid)
  rw [ofValue, valid, validate_of_valid valid, ofDocument_of_valid valid]
  simp only [references, Except.mapError]

theorem ofValue_of_invalid (invalid : validate doc false ≠ []) (source : String) :
    ofValue doc source = .fail (.document (validate doc false) source) := by
  unfold ofValue
  split
  · rename_i valid
    exact absurd valid invalid
  · rfl

theorem ofValue_eq_ok_iff {source : String} {s : Schema} :
    (ofValue doc source).result = .ok s ↔ validate doc false = [] ∧ ofDocument doc = .ok s := by
  by_cases valid : validate doc false = []
  · rw [ofValue_of_valid valid, ofDocument_of_valid valid, and_iff_right valid, Except.ok.injEq,
      Except.ok.injEq]
  · rw [ofValue_of_invalid valid]
    exact iff_of_false (fun h => nomatch h) fun h => valid h.1

end

/-- The source of a document has no influence on whether and as what it is loaded. -/
theorem ofJsonText_eq_ok_iff {text source : String} {s : Schema} :
    (ofJsonText text source).result = .ok s ↔
      ∃ doc, Json.read text.toList = .ok doc ∧ validate doc false = [] ∧
        ofDocument doc = .ok s := by
  unfold ofJsonText
  split
  · rename_i unread
    simp [unread, Traced.fail]
  · rename_i unread
    simp [unread, Traced.fail]
  · rename_i doc read
    simp [read, ofValue_eq_ok_iff]

theorem nameKeys_of_named {s : Schema} (h : ∀ k ∈ s.foreignKeys, k.name ≠ "") :
    s.nameKeys = s := by
  have named : s.foreignKeys.map nameKey = s.foreignKeys := by
    conv_rhs => rw [← List.map_id s.foreignKeys]
    refine List.map_congr_left fun k hk => ?_
    rw [nameKey, if_neg (by simpa using h k hk)]
    rfl
  rw [nameKeys, named]

/-- A valid schema whose foreign keys have names is loaded from its document as text. -/
theorem ofJsonText_render {s : Schema} (valid : s.IsValid)
    (named : ∀ k ∈ s.foreignKeys, k.name ≠ "") (layout : Json.Layout) (source : String) :
    (ofJsonText (Json.render layout s.toJson) source).result = .ok s := by
  have hd : ofDocument s.toJson = .ok s := by
    rw [ofDocument, ofJson_toJson, Except.map, nameKeys_of_named named]
  exact ofJsonText_eq_ok_iff.2
    ⟨s.toJson, read_render_toJson s layout, validate_toJson_eq_nil_iff.2 valid, hd⟩

end Schema

end SpannerDdl
