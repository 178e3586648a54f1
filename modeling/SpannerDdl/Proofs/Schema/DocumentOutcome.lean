import SpannerDdl.Proofs.Schema.Loading

/-! # What becomes of a schema document

A document as text is loaded, or there are complaints about it; nothing else can become of a text
that has no number with too many digits. What its names refer to has no influence on that: a name
that refers to nothing is told, and the schema is what is written in the document.

* `Schema.ofJsonText_of_malformed`, `ofJsonText_of_invalid`, `ofJsonText_of_valid`: the three
  courses of loading.
* `Schema.warnings_issueNotices`: a warning for every name that refers to nothing.
* `Schema.ofJsonText_outcome`: all of it. -/

set_option autoImplicit false

namespace SpannerDdl

/-- The warnings among what is told. -/
def Notice.warnings (notices : List Notice) : List Notice :=
  notices.filter fun n => n.severity = .warning

namespace Schema

/-! ## Warnings -/

theorem warnings_issues (place : String) (issues : List String) :
    Notice.warnings (issues.map (.issue place)) = issues.map (.issue place) := by
  refine List.filter_eq_self.2 fun n hn => ?_
  obtain ⟨issue, -, rfl⟩ := List.mem_map.1 hn
  rfl

/-- Besides the warnings only their number is told. -/
theorem warnings_issueNotices (issues : List String) (source : String) :
    Notice.warnings (issueNotices issues source) =
      issues.map (.issue (if source == "" then "schema" else source)) := by
  cases issues with
  | nil => rfl
  -- The number in front is told less loudly.
  | cons issue issues => exact warnings_issues _ (issue :: issues)

/-! ## The courses of loading -/

variable {text : String} {doc : Json}

theorem ofJsonText_of_malformed {cause : Json.Cause} {remaining : Nat}
    (unread : Json.read text.toList = .error (.malformed cause remaining)) (source : String) :
    ∃ errors, ofJsonText text source = .fail (.document errors source) := by
  rw [ofJsonText, unread]
  exact ⟨_, rfl⟩

theorem ofJsonText_of_read (read : Json.read text.toList = .ok doc) (source : String) :
    ofJsonText text source = ofValue doc source := by
  rw [ofJsonText, read]

theorem ofJsonText_of_invalid (read : Json.read text.toList = .ok doc)
    (invalid : validate doc false ≠ []) (source : String) :
    ofJsonText text source = .fail (.document (validate doc false) source) := by
  rw [ofJsonText_of_read read, ofValue_of_invalid invalid]

theorem ofJsonText_of_valid (read : Json.read text.toList = .ok doc)
    (valid : validate doc false = []) (source : String) :
    ofJsonText text source =
      ⟨issueNotices (validate doc) source, .ok (ofValid doc).nameKeys⟩ := by
  rw [ofJsonText_of_read read, ofValue_of_valid valid]

/-- Loading a document ends with a schema or with complaints. It ends with a schema exactly if the
text is that of a document whose structure is valid. The schema is that of the document then,
whatever its names refer to, and there is one warning for every name that refers to nothing. -/
theorem ofJsonText_outcome (source : String)
    (decides : ∀ digits, Json.read text.toList ≠ .error (.longNumber digits)) :
    ((∃ s, (ofJsonText text source).result = .ok s) ∨
      ∃ errors, ofJsonText text source = .fail (.document errors source)) ∧
    ((∃ s, (ofJsonText text source).result = .ok s) ↔
      ∃ doc, Json.read text.toList = .ok doc ∧ validate doc false = []) ∧
    ∀ doc, Json.read text.toList = .ok doc → validate doc false = [] →
      ∃ s, ofDocument doc = .ok s ∧ (ofJsonText text source).result = .ok s ∧
        Notice.warnings (ofJsonText text source).notes =
          (validate doc).map (.issue (if source == "" then "schema" else source)) := by
  have loaded : ∀ doc, Json.read text.toList = .ok doc → validate doc false = [] →
      ∃ s, ofDocument doc = .ok s ∧ (ofJsonText text source).result = .ok s ∧
        Notice.warnings (ofJsonText text source).notes =
          (validate doc).map (.issue (if source == "" then "schema" else source)) := by
    intro doc read valid
    rw [ofJsonText_of_valid read valid]
    exact ⟨_, ofDocument_of_valid valid, rfl, warnings_issueNotices _ _⟩
  refine ⟨?ends, ⟨?decoded, ?returns⟩, loaded⟩
  case ends =>
    cases read : Json.read text.toList with
    | error fault =>
      cases fault with
      | malformed cause remaining => exact .inr (ofJsonText_of_malformed read source)
      | longNumber digits => exact absurd read (decides digits)
    | ok doc =>
      by_cases valid : validate doc false = []
      · obtain ⟨s, -, result, -⟩ := loaded doc read valid
        exact .inl ⟨s, result⟩
      · exact .inr ⟨_, ofJsonText_of_invalid read valid source⟩
  case decoded =>
    rintro ⟨s, result⟩
    obtain ⟨doc, read, valid, -⟩ := ofJsonText_eq_ok_iff.1 result
    exact ⟨doc, read, valid⟩
  case returns =>
    rintro ⟨doc, read, valid⟩
    obtain ⟨s, -, result, -⟩ := loaded doc read valid
    exact ⟨s, result⟩

/-- A table whose primary key is no column of it. -/
def strayKey : Schema := { tables := [{ name := "A", primaryKey := ["B"] }] }

/-- It is loaded with a warning. -/
theorem ofJsonText_outcome_strayKey :
    (∀ digits, Json.read (Json.render .compact strayKey.toJson).toList ≠
      .error (.longNumber digits)) ∧
    (ofJsonText (Json.render .compact strayKey.toJson) "").result = .ok strayKey ∧
    Notice.warnings (ofJsonText (Json.render .compact strayKey.toJson) "").notes =
      [.issue "schema" "tables.0.primaryKey: column 'B' not found in table 'A'"] := by
  have read := read_render_toJson strayKey .compact
  have decides : ∀ digits, Json.read (Json.render .compact strayKey.toJson).toList ≠
      .error (.longNumber digits) := by simp [read]
  have valid : validate strayKey.toJson false = [] := by
    decide +kernel
  obtain ⟨-, -, loaded⟩ := ofJsonText_outcome "" decides
  obtain ⟨s, written, result, warned⟩ := loaded _ read valid
  rw [ofDocument, ofJson_toJson] at written
  obtain rfl : strayKey = s := Except.ok.inj written
  have issues : validate strayKey.toJson =
      ["tables.0.primaryKey: column 'B' not found in table 'A'"] := by
    decide +kernel
  rw [issues] at warned
  exact ⟨decides, result, warned⟩

end Schema

end SpannerDdl
