import SpannerDdl.Proofs.Schema.Streams

/-! # Statements that do not shape a schema

A statement that creates no table and no index and alters no table is taken as it is, whatever its
tokens are, and changes nothing. A script is the same with it and without it.

* `Token.Shaping ts`: the tokens begin as a statement that shapes a schema does.
* `Grammar.statement_of_not_shaping`: how all others are read.
* `Schema.outcome_without_other`: a script with such a statement and without it. -/

set_option autoImplicit false

namespace SpannerDdl

/-- The tokens begin with the words `CREATE TABLE`, `ALTER TABLE`, or `CREATE` and `INDEX` with any
number of words `UNIQUE` and `NULL_FILTERED` between them, each in any case. -/
inductive Token.Shaping (ts : List Token) : Prop where
  | createTable (begins : ["CREATE", "TABLE"] <+: ts.map Token.upper)
  | alterTable (begins : ["ALTER", "TABLE"] <+: ts.map Token.upper)
  | createIndex (modifiers : List String)
      (known : ∀ word ∈ modifiers, word = "UNIQUE" ∨ word = "NULL_FILTERED")
      (begins : "CREATE" :: modifiers ++ ["INDEX"] <+: ts.map Token.upper)

namespace Grammar

variable {ts : List Token}

/-! ## How a statement begins -/

theorem prefix_of_keywords? {words : List String} {rest : List Token}
    (h : keywords? words ts = some rest) :
    ts.map Token.upper = words ++ rest.map Token.upper := by
  induction words generalizing ts with
  | nil =>
    cases h
    rfl
  | cons word words ih =>
    cases ts with
    | nil => cases h
    | cons t ts =>
      rw [keywords?] at h
      split at h
      · rename_i hw
        have s1 : t.upper = word := by simpa [Token.isKeyword] using hw
        rw [List.map_cons, ih h, s1, List.cons_append]
      · cases h

theorem prefix_of_atKeywords {words : List String} (h : atKeywords words ts = true) :
    words <+: ts.map Token.upper := by
  obtain ⟨rest, hr⟩ := Option.isSome_iff_exists.1 h
  rw [prefix_of_keywords? hr]
  exact List.prefix_append _ _

/-- What stands in front of the tokens behind the modifiers of an index is modifiers. -/
theorem exists_modifiers (ts : List Token) (unique nullFiltered : Bool) :
    ∃ modifiers : List String, (∀ word ∈ modifiers, word = "UNIQUE" ∨ word = "NULL_FILTERED") ∧
      ts.map Token.upper =
        modifiers ++ (indexModifiers unique nullFiltered ts).2.2.map Token.upper := by
  induction ts generalizing unique nullFiltered with
  | nil => exact ⟨[], by simp, rfl⟩
  | cons t ts ih =>
    have further : ∀ (word : String) (u n : Bool), word = "UNIQUE" ∨ word = "NULL_FILTERED" →
        t.isKeyword word = true → ∃ modifiers : List String,
          (∀ word ∈ modifiers, word = "UNIQUE" ∨ word = "NULL_FILTERED") ∧
          (t :: ts).map Token.upper = modifiers ++ (indexModifiers u n ts).2.2.map Token.upper := by
      intro word u n known hw
      obtain ⟨modifiers, hm, he⟩ := ih u n
      have s1 : t.upper = word := by simpa [Token.isKeyword] using hw
      refine ⟨word :: modifiers, List.forall_mem_cons.2 ⟨known, hm⟩, ?_⟩
      rw [List.map_cons, he, s1, List.cons_append]
    rw [indexModifiers]
    split
    · rename_i hw
      exact further "UNIQUE" _ _ (.inl rfl) hw
    · split
      · rename_i hw
        exact further "NULL_FILTERED" _ _ (.inr rfl) hw
      · exact ⟨[], by simp, rfl⟩

theorem shaping_of_startsIndex (h : startsIndex ts = true) : Token.Shaping ts := by
  unfold startsIndex at h
  split at h
  · rename_i rest hr
    obtain ⟨modifiers, known, hm⟩ := exists_modifiers rest false false
    obtain ⟨behind, hb⟩ := prefix_of_atKeywords h
    refine .createIndex modifiers known ⟨behind, ?_⟩
    rw [prefix_of_keywords? hr, hm, ← hb]
    simp
  · cases h

/-- Tokens that begin otherwise are taken as they are. -/
theorem statement_of_not_shaping (h : ¬Token.Shaping ts) :
    statement ts = .ok (.other (leadingKeywords ts) (Token.renderAll ts)) := by
  have table : atKeywords ["CREATE", "TABLE"] ts ≠ true :=
    fun hk => h (.createTable (prefix_of_atKeywords hk))
  have alter : atKeywords ["ALTER", "TABLE"] ts ≠ true :=
    fun hk => h (.alterTable (prefix_of_atKeywords hk))
  have index : startsIndex ts ≠ true := fun hk => h (shaping_of_startsIndex hk)
  rw [statement, if_neg table, if_neg alter, if_neg index]

end Grammar

/-! ## Scripts -/

section

variable {o : List Token} (nonempty : o ≠ []) (unbroken : ∀ t ∈ o, t.isSemicolon = false)
  (other : ¬Token.Shaping o)
include nonempty unbroken other

theorem Statement.listOfTokens_of_not_shaping (source : String) :
    listOfTokens source o = .ok [.other (Grammar.leadingKeywords o) (Token.renderAll o)] := by
  have s1 : ofTokens source o = .ok (.other (Grammar.leadingKeywords o) (Token.renderAll o)) := by
    rw [ofTokens, Grammar.statement_of_not_shaping other]
  rw [listOfTokens, Token.statements_of_unbroken unbroken nonempty, List.mapM_cons, s1]
  rfl

theorem Draft.consumeTokens_without_other (d : Draft) (source : String) {a b : List Token}
    {first second only : Token} (h1 : first.isSemicolon = true) (h2 : second.isSemicolon = true)
    (h3 : only.isSemicolon = true) :
    d.consumeTokens source (a ++ first :: (o ++ second :: b)) =
      d.consumeTokens source (a ++ only :: b) := by
  have parsed := Statement.listOfTokens_of_not_shaping nonempty unbroken other source
  have front := Statement.listOfTokens_append h1 source a (o ++ second :: b)
  rw [Statement.listOfTokens_append h2, parsed] at front
  have without := Statement.listOfTokens_append h3 source a b
  unfold consumeTokens
  rw [front, without]
  cases Statement.listOfTokens source a with
  | error e => rfl
  | ok ss =>
    cases Statement.listOfTokens source b with
    | error e => rfl
    | ok ss' =>
      show (d.consumeAll (ss ++ (_ :: ss'))).result = (d.consumeAll (ss ++ ss')).result
      rw [result_consumeAll_append, result_consumeAll_append]
      rfl

/-- A statement that does not shape a schema, however malformed it is, can be taken out of a script:
the same schema comes of it, or the same error in the same place. -/
theorem Schema.outcome_without_other {a b : List Token} {first second only : Token}
    (h1 : first.isSemicolon = true) (h2 : second.isSemicolon = true)
    (h3 : only.isSemicolon = true) :
    (∀ (d : Draft) (source : String),
      d.consumeTokens source (a ++ first :: (o ++ second :: b)) =
        d.consumeTokens source (a ++ only :: b)) ∧
    ∀ text text' source, tokenize text source = .ok (a ++ first :: (o ++ second :: b)) →
      tokenize text' source = .ok (a ++ only :: b) →
      (ofDdl text source).result = (ofDdl text' source).result := by
  have same : ∀ (d : Draft) (source : String),
      d.consumeTokens source (a ++ first :: (o ++ second :: b)) =
        d.consumeTokens source (a ++ only :: b) :=
    fun d source => d.consumeTokens_without_other nonempty unbroken other source h1 h2 h3
  refine ⟨same, fun text text' source ht ht' => ?_⟩
  rw [result_ofDdl ht, result_ofDdl ht', same]

end

/-- A column for the table behind another statement. -/
def laterColumnTokens : List Token :=
  [wordAt 37 "ALTER", wordAt 43 "TABLE", wordAt 45 "A", wordAt 49 "ADD", wordAt 56 "COLUMN",
    wordAt 58 "B", wordAt 63 "DATE"]

/-- A statement that would drop the table, if it were well-formed and not ignored. -/
def dropTokens : List Token := [wordAt 22 "DROP", wordAt 28 "TABLE", wordAt 30 "A", punctAt 31 ")"]

theorem not_shaping_drop : ¬Token.Shaping dropTokens := by
  have uppers : dropTokens.map Token.upper = ["DROP", "TABLE", "A", ""] := by decide +kernel
  rintro (begins | begins | ⟨modifiers, known, begins⟩)
  · rw [uppers, List.cons_prefix_cons] at begins
    exact absurd begins.1 (by decide)
  · rw [uppers, List.cons_prefix_cons] at begins
    exact absurd begins.1 (by decide)
  · rw [uppers, List.cons_append, List.cons_prefix_cons] at begins
    exact absurd begins.1 (by decide)

theorem tokenize_tableDropColumn :
    tokenize "CREATE TABLE A ();DROP TABLE A);ALTER TABLE A ADD COLUMN B DATE" "" =
      .ok (tableTokens ++ punctAt 18 ";" ::
        (dropTokens ++ punctAt 32 ";" :: laterColumnTokens)) := by
  decide +kernel

theorem tokenize_tableLaterColumn :
    tokenize "CREATE TABLE A ()              ;ALTER TABLE A ADD COLUMN B DATE" "" =
      .ok (tableTokens ++ punctAt 32 ";" :: laterColumnTokens) := by
  decide +kernel

/-- The same for a table that is altered behind a statement that would drop it. -/
theorem Schema.outcome_without_drop :
    (dropTokens ≠ [] ∧ (∀ t ∈ dropTokens, t.isSemicolon = false) ∧ ¬Token.Shaping dropTokens) ∧
    ∃ s : Schema, s.tableNames = ["A"] ∧
      (ofDdl "CREATE TABLE A ();DROP TABLE A);ALTER TABLE A ADD COLUMN B DATE" "").result =
        .ok s ∧
      (ofDdl "CREATE TABLE A ()              ;ALTER TABLE A ADD COLUMN B DATE" "").result =
        .ok s := by
  let d : Draft := {
    tables := [{ name := "A", columns := [{ name := "B", type := "DATE" }] }]
    places := [("A", 0)] }
  have nonempty : dropTokens ≠ [] := by decide +kernel
  have unbroken : ∀ t ∈ dropTokens, t.isSemicolon = false := by decide +kernel
  have consumed : (Draft.consumeTokens {} ""
      (tableTokens ++ punctAt 32 ";" :: laterColumnTokens)).toOption = some d := by
    decide +kernel
  have built : (ofDdl "CREATE TABLE A ()              ;ALTER TABLE A ADD COLUMN B DATE" "").result =
      .ok d.schema := by
    rw [result_ofDdl tokenize_tableLaterColumn, toOption_eq_some_iff.1 consumed]
    rfl
  have first : (punctAt 18 ";").isSemicolon = true := rfl
  have second : (punctAt 32 ";").isSemicolon = true := rfl
  have same := (outcome_without_other nonempty unbroken not_shaping_drop first second second).2
    _ _ "" tokenize_tableDropColumn tokenize_tableLaterColumn
  refine ⟨⟨nonempty, unbroken, not_shaping_drop⟩, d.schema, rfl, ?_, built⟩
  rw [same, built]

end SpannerDdl
