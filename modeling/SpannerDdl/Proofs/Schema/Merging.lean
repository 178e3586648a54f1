import SpannerDdl.Proofs.Schema.DocumentOutcome
import SpannerDdl.Proofs.Schema.TableNames

/-! # Several documents

Documents are loaded one after the other and put side by side. The first one that cannot be loaded,
or that has a table whose name was there before, is the end: its error is that of all of them, and
what comes behind it has no influence.

* `Schema.sideBySide ss`: everything in some schemas, in order.
* `Schema.Stops load before x e`: why a source behind schemas is the end.
* `Schema.mergeLoaded_of_loaded`, `Schema.mergeLoaded_of_stops`: the run up to the end, and the end.
* `Schema.ofJsonTexts_outcome`: what becomes of documents as texts. -/

set_option autoImplicit false

namespace SpannerDdl.Schema

variable {α : Type} {load : α → Traced Notice LoadError Schema}

/-! ## Side by side -/

/-- Everything in some schemas, in order. -/
def sideBySide (ss : List Schema) : Schema where
  tables := ss.flatMap tables
  foreignKeys := ss.flatMap foreignKeys
  indexes := ss.flatMap indexes

theorem tableNames_sideBySide (ss : List Schema) :
    (sideBySide ss).tableNames = ss.flatMap tableNames :=
  List.map_flatMap

theorem sideBySide_concat (ss : List Schema) (s : Schema) :
    sideBySide (ss ++ [s]) =
      { tables := (sideBySide ss).tables ++ s.tables
        foreignKeys := (sideBySide ss).foreignKeys ++ s.foreignKeys
        indexes := (sideBySide ss).indexes ++ s.indexes } := by
  simp [sideBySide]

/-- One more schema goes with the others exactly if its names are new. -/
theorem append_sideBySide {before : List Schema} {s : Schema}
    (nodup : ((before ++ [s]).flatMap tableNames).Nodup) :
    (sideBySide before).append s = .ok (sideBySide (before ++ [s])) := by
  rw [List.flatMap_append, List.flatMap_singleton, ← tableNames_sideBySide,
    List.nodup_append'] at nodup
  rw [sideBySide_concat]
  exact append_eq_ok_iff.2 ⟨nodup.2.1, nodup.2.2, rfl⟩

/-- A table whose name is taken is refused; only the tables in front of it are looked at. -/
theorem addTables_of_taken {s : Schema} {front back : List Table} {t : Table}
    (nodup : (s.tableNames ++ front.map Table.name).Nodup)
    (taken : t.name ∈ s.tableNames ++ front.map Table.name) :
    s.addTables (front ++ t :: back) = .error (.duplicateTable t.name) := by
  induction front generalizing s with
  | nil =>
    rw [List.map_nil, List.append_nil] at taken
    rw [List.nil_append, addTables, if_pos (List.contains_iff_mem.2 taken)]
  | cons f front ih =>
    have isNew : f.name ∉ s.tableNames := fun old =>
      (List.nodup_append'.1 nodup).2.2 old List.mem_cons_self
    have names : { s with tables := s.tables ++ [f] }.tableNames ++ front.map Table.name =
        s.tableNames ++ (f :: front).map Table.name := by
      simp [tableNames]
    rw [List.cons_append, addTables, if_neg (List.contains_iff_mem.not.2 isNew)]
    rw [← names] at nodup taken
    exact ih nodup taken

/-! ## Up to the end -/

/-- A source that is loaded and has new names is one step of the run. -/
theorem mergeLoaded_step {x : α} {s : Schema} {before : List Schema}
    (loaded : (load x).result = .ok s) (nodup : ((before ++ [s]).flatMap tableNames).Nodup)
    (behind : List α) :
    mergeLoaded load (sideBySide before) (x :: behind) =
      ⟨(load x).notes ++ (mergeLoaded load (sideBySide (before ++ [s])) behind).notes,
        (mergeLoaded load (sideBySide (before ++ [s])) behind).result⟩ := by
  rw [mergeLoaded, Traced.bind_of_ok _ loaded, append_sideBySide nodup]
  rfl

/-- Sources that are loaded and have new names are told of and put side by side, whatever comes
behind them. -/
theorem mergeLoaded_of_loaded {xs : List α} {ss : List Schema} (before : List Schema)
    (behind : List α)
    (loaded : List.Forall₂ (fun x s => (load x).result = .ok s) xs ss)
    (nodup : ((before ++ ss).flatMap tableNames).Nodup) :
    mergeLoaded load (sideBySide before) (xs ++ behind) =
      ⟨xs.flatMap (fun x => (load x).notes) ++
          (mergeLoaded load (sideBySide (before ++ ss)) behind).notes,
        (mergeLoaded load (sideBySide (before ++ ss)) behind).result⟩ := by
  induction loaded generalizing before with
  | nil => rw [List.append_nil]; rfl
  | @cons x s xs ss loaded _ ih =>
    rw [List.append_cons] at nodup
    have first : ((before ++ [s]).flatMap tableNames).Nodup := by
      rw [List.flatMap_append] at nodup
      exact nodup.of_append_left
    rw [List.cons_append, mergeLoaded_step loaded first, ih _ nodup, List.flatMap_cons,
      List.append_assoc (load x).notes, List.append_cons before s ss]

/-- Why a source behind schemas is the end: it is not loaded, or one of its tables has a name that
was there before, in another source or in the same. The first such table counts. -/
inductive Stops (load : α → Traced Notice LoadError Schema) (before : List Schema) (x : α) :
    LoadError → Prop where
  | unloaded {e : LoadError} (failed : (load x).result = .error e) : Stops load before x e
  | repeated {s : Schema} {front back : List Table} {t : Table}
      (loaded : (load x).result = .ok s) (tables : s.tables = front ++ t :: back)
      (nodup : (before.flatMap tableNames ++ front.map Table.name).Nodup)
      (taken : t.name ∈ before.flatMap tableNames ++ front.map Table.name) :
      Stops load before x (.build (.duplicateTable t.name))

/-- Behind the end nothing is loaded. -/
theorem mergeLoaded_of_stops {before : List Schema} {x : α} {e : LoadError}
    (h : Stops load before x e) (behind : List α) :
    mergeLoaded load (sideBySide before) (x :: behind) = ⟨(load x).notes, .error e⟩ := by
  cases h with
  | unloaded failed => rw [mergeLoaded, Traced.bind_of_error _ failed]
  | @repeated s front back t loaded tables nodup taken =>
    rw [← tableNames_sideBySide] at nodup taken
    have refused : (sideBySide before).append s = .error (.duplicateTable t.name) := by
      rw [append, tables, addTables_of_taken nodup taken]
      rfl
    rw [mergeLoaded, Traced.bind_of_ok _ loaded, refused]
    simp only [Except.mapError, Traced.bind_of_error _ (Traced.result_ofExcept _)]
    rw [Traced.ofExcept, List.append_nil]

/-- Names that are not all new have a first one that is not. -/
theorem exists_taken {names : List String} {ts : List Table} (nodup : names.Nodup)
    (h : ¬(names ++ ts.map Table.name).Nodup) :
    ∃ front t back, ts = front ++ t :: back ∧ (names ++ front.map Table.name).Nodup ∧
      t.name ∈ names ++ front.map Table.name := by
  induction ts generalizing names with
  | nil => exact absurd (by rwa [List.map_nil, List.append_nil]) h
  | cons t ts ih =>
    by_cases taken : t.name ∈ names
    · exact ⟨[], t, ts, rfl, by simpa using nodup, by simpa using taken⟩
    · have nodup' : (names ++ [t.name]).Nodup := by
        rw [← List.concat_eq_append]
        exact nodup.concat taken
      rw [List.map_cons, List.append_cons] at h
      obtain ⟨front, t', back, rfl, hn, ht⟩ := ih nodup' h
      rw [← List.append_cons, ← List.map_cons] at hn ht
      exact ⟨t :: front, t', back, rfl, hn, ht⟩

theorem exists_stops_at_head {before : List Schema} {x : α} {e : LoadError}
    (nodup : (before.flatMap tableNames).Nodup) (h : Stops load before x e) (xs : List α) :
    ∃ pre x' post ss e, x :: xs = pre ++ x' :: post ∧
      List.Forall₂ (fun x s => (load x).result = .ok s) pre ss ∧
      ((before ++ ss).flatMap tableNames).Nodup ∧ Stops load (before ++ ss) x' e := by
  rw [← List.append_nil before] at nodup h
  exact ⟨[], x, xs, [], e, rfl, .nil, nodup, h⟩

/-- Either all sources are loaded and have new names, or one of them is the first that is not so. -/
theorem loaded_or_stops (load : α → Traced Notice LoadError Schema) (xs : List α)
    (before : List Schema) (nodup : (before.flatMap tableNames).Nodup) :
    (∃ ss, List.Forall₂ (fun x s => (load x).result = .ok s) xs ss ∧
      ((before ++ ss).flatMap tableNames).Nodup) ∨
    ∃ pre x post ss e, xs = pre ++ x :: post ∧
      List.Forall₂ (fun x s => (load x).result = .ok s) pre ss ∧
      ((before ++ ss).flatMap tableNames).Nodup ∧ Stops load (before ++ ss) x e := by
  induction xs generalizing before with
  | nil => exact .inl ⟨[], .nil, by rwa [List.append_nil]⟩
  | cons x xs ih =>
    cases loaded : (load x).result with
    | error e => exact .inr (exists_stops_at_head nodup (.unloaded loaded) xs)
    | ok s =>
      by_cases isNew : ((before ++ [s]).flatMap tableNames).Nodup
      · rcases ih _ isNew with
          ⟨ss, rest, names⟩ | ⟨pre, x', post, ss, e, rfl, rest, names, stops⟩
        · rw [← List.append_cons] at names
          exact .inl ⟨s :: ss, .cons loaded rest, names⟩
        · rw [← List.append_cons] at names stops
          exact .inr ⟨x :: pre, x', post, s :: ss, e, rfl, .cons loaded rest, names, stops⟩
      · rw [List.flatMap_append, List.flatMap_singleton] at isNew
        obtain ⟨front, t, back, tables, names, taken⟩ := exists_taken nodup isNew
        exact .inr (exists_stops_at_head nodup (.repeated loaded tables names taken) xs)

/-! ## Documents as texts -/

/-- The name of the source of a document that has so many others in front of it. -/
def sourceBehind (n : Nat) : String := "schema #" ++ toString (n + 1)

/-- A document as text among several, by its place. -/
def ofNumbered (p : String × Nat) : Traced Notice LoadError Schema :=
  ofJsonText p.1 (sourceBehind p.2)

/-- What is told while documents are loaded one after the other. -/
def noticesOf (texts : List String) : List Notice :=
  texts.zipIdx.flatMap fun p => (ofNumbered p).notes

/-- Each text is loaded, by itself, as the schema at its place. -/
def AreLoaded (texts : List String) (ss : List Schema) : Prop :=
  List.Forall₂ (fun text s => (ofJsonText text "").result = .ok s) texts ss

theorem ofJsonTexts_eq (texts : List String) :
    ofJsonTexts texts = mergeLoaded ofNumbered (sideBySide []) texts.zipIdx := rfl

/-- The number of a document has no influence on whether and as what it is loaded. -/
theorem result_ofNumbered_eq_ok_iff {p : String × Nat} {s : Schema} :
    (ofNumbered p).result = .ok s ↔ (ofJsonText p.1 "").result = .ok s := by
  rw [ofNumbered, ofJsonText_eq_ok_iff, ofJsonText_eq_ok_iff]

theorem areLoaded_iff {texts : List String} {ss : List Schema} {n : Nat} :
    List.Forall₂ (fun p s => (ofNumbered p).result = .ok s) (texts.zipIdx n) ss ↔
      AreLoaded texts ss := by
  simp only [result_ofNumbered_eq_ok_iff]
  have firsts := List.forall₂_map_left_iff (f := Prod.fst) (l := texts.zipIdx n) (u := ss)
    (R := fun text s => (ofJsonText text "").result = .ok s)
  rw [List.zipIdx_map_fst] at firsts
  exact firsts.symm

/-- Why a document as text, behind schemas, is the end: there are complaints about it, it holds a
number that has too many digits to be read, or it repeats the name of a table. -/
inductive TextStops (before : List Schema) (text : String) (source : String) :
    LoadError → Prop where
  | complaints {errors : List String}
      (failed : ofJsonText text source = .fail (.document errors source)) :
      TextStops before text source (.document errors source)
  | longNumber {digits : Nat} (unread : Json.read text.toList = .error (.longNumber digits)) :
      TextStops before text source (.longNumber digits)
  | repeated {s : Schema} {front back : List Table} {t : Table}
      (loaded : (ofJsonText text "").result = .ok s) (tables : s.tables = front ++ t :: back)
      (nodup : (before.flatMap tableNames ++ front.map Table.name).Nodup)
      (taken : t.name ∈ before.flatMap tableNames ++ front.map Table.name) :
      TextStops before text source (.build (.duplicateTable t.name))

theorem textStops_of_stops {before : List Schema} {p : String × Nat} {e : LoadError}
    (h : Stops ofNumbered before p e) : TextStops before p.1 (sourceBehind p.2) e := by
  cases h with
  | unloaded failed =>
    cases read : Json.read p.1.toList with
    | error fault =>
      cases fault with
      | malformed cause remaining =>
        obtain ⟨errors, result⟩ := ofJsonText_of_malformed read (sourceBehind p.2)
        rw [ofNumbered, result] at failed
        cases failed
        exact .complaints result
      | longNumber digits =>
        rw [ofNumbered, ofJsonText, read] at failed
        cases failed
        exact .longNumber read
    | ok doc =>
      by_cases valid : validate doc false = []
      · rw [ofNumbered, ofJsonText_of_valid read valid] at failed
        cases failed
      · have result := ofJsonText_of_invalid read valid (sourceBehind p.2)
        rw [ofNumbered, result] at failed
        cases failed
        exact .complaints result
  | repeated loaded tables nodup taken =>
    exact .repeated (result_ofNumbered_eq_ok_iff.1 loaded) tables nodup taken

/-- Documents that are loaded and have no two tables of one name are put side by side. -/
theorem ofJsonTexts_of_loaded {texts : List String} {ss : List Schema}
    (loaded : AreLoaded texts ss) (nodup : (ss.flatMap tableNames).Nodup) :
    ofJsonTexts texts = ⟨noticesOf texts, .ok (sideBySide ss)⟩ := by
  have run := mergeLoaded_of_loaded [] [] (areLoaded_iff (n := 0).2 loaded) nodup
  rw [List.append_nil, mergeLoaded, Traced.done, List.append_nil] at run
  exact run

/-- At the first document that is the end, all is over. -/
theorem ofJsonTexts_of_stops {pre : List String} {text : String} {ss : List Schema} {e : LoadError}
    (loaded : AreLoaded pre ss) (nodup : (ss.flatMap tableNames).Nodup)
    (stops : Stops ofNumbered ss (text, pre.length) e) (others : List String) :
    ofJsonTexts (pre ++ text :: others) = ⟨noticesOf (pre ++ [text]), .error e⟩ := by
  have run := mergeLoaded_of_loaded [] ((text, pre.length) :: others.zipIdx (pre.length + 1))
    (areLoaded_iff (n := 0).2 loaded) nodup
  rw [List.nil_append, mergeLoaded_of_stops stops] at run
  rw [ofJsonTexts_eq, noticesOf, List.zipIdx_append, List.zipIdx_append, List.zipIdx_cons,
    List.zipIdx_singleton, List.flatMap_append, List.flatMap_singleton, Nat.zero_add]
  exact run

theorem areLoaded_or_stops (texts : List String) :
    (∃ ss, AreLoaded texts ss ∧ (ss.flatMap tableNames).Nodup) ∨
    ∃ pre text post ss e, texts = pre ++ text :: post ∧ AreLoaded pre ss ∧
      (ss.flatMap tableNames).Nodup ∧ Stops ofNumbered ss (text, pre.length) e := by
  rcases loaded_or_stops ofNumbered texts.zipIdx [] List.nodup_nil with
    ⟨ss, loaded, names⟩ | ⟨pre, p, post, ss, e, split, loaded, names, stops⟩
  · exact .inl ⟨ss, areLoaded_iff.1 loaded, names⟩
  · obtain ⟨pre, others, rfl, rfl, cut⟩ := List.zipIdx_eq_append_iff.1 split
    obtain ⟨text, post, rfl, rfl, rfl⟩ := List.zipIdx_eq_cons_iff.1 cut.symm
    rw [Nat.zero_add] at stops
    exact .inr ⟨pre, text, post, ss, e, rfl, areLoaded_iff.1 loaded, names, stops⟩

/-- Documents are loaded exactly if each of them is and no two tables have the same name. They make
up one schema then, in their order. Otherwise the error is that of the first document that is not
loaded or repeats a name, and nothing behind that document is looked at or told of. -/
theorem ofJsonTexts_outcome (texts : List String) :
    ((∃ s, (ofJsonTexts texts).result = .ok s) ↔
      ∃ ss, AreLoaded texts ss ∧ (ss.flatMap tableNames).Nodup) ∧
    (∀ ss, AreLoaded texts ss → (ss.flatMap tableNames).Nodup →
      ofJsonTexts texts = ⟨noticesOf texts, .ok (sideBySide ss)⟩) ∧
    ∀ e, (ofJsonTexts texts).result = .error e →
      ∃ pre text post ss, texts = pre ++ text :: post ∧ AreLoaded pre ss ∧
        (ss.flatMap tableNames).Nodup ∧ TextStops ss text (sourceBehind pre.length) e ∧
        ∀ others, ofJsonTexts (pre ++ text :: others) =
          ⟨noticesOf (pre ++ [text]), .error e⟩ := by
  refine ⟨⟨?loaded, ?returns⟩, fun ss => ofJsonTexts_of_loaded, ?stops⟩
  case loaded =>
    rintro ⟨s, result⟩
    rcases areLoaded_or_stops texts with
      found | ⟨pre, text, post, ss, e, rfl, loaded, names, stops⟩
    · exact found
    · rw [ofJsonTexts_of_stops loaded names stops] at result
      cases result
  case returns =>
    rintro ⟨ss, loaded, names⟩
    exact ⟨sideBySide ss, by rw [ofJsonTexts_of_loaded loaded names]⟩
  case stops =>
    intro e result
    rcases areLoaded_or_stops texts with
      ⟨ss, loaded, names⟩ | ⟨pre, text, post, ss, e', rfl, loaded, names, stops⟩
    · rw [ofJsonTexts_of_loaded loaded names] at result
      cases result
    · have run := ofJsonTexts_of_stops loaded names stops
      rw [run] at result
      cases result
      exact ⟨pre, text, post, ss, rfl, loaded, names, textStops_of_stops stops, run⟩

/-- The least number that has too many digits to be read. -/
def longNumber : Nat := 10 ^ Text.digitLimit

/-- As a document it is not loaded, and among several the error is no complaint that names its
source. -/
theorem ofJsonTexts_of_long_number :
    (∀ s, (ofJsonText (String.ofList (Json.intText longNumber)) "").result ≠ .ok s) ∧
    (∃ digits, (ofJsonTexts [String.ofList (Json.intText longNumber)]).result =
      .error (.longNumber digits)) ∧
    ∀ errors, (ofJsonTexts [String.ofList (Json.intText longNumber)]).result ≠
      .error (.document errors (sourceBehind 0)) := by
  have many : Text.digitLimit < (Nat.toDigits 10 (longNumber : Int).natAbs).length := by
    rw [Int.natAbs_natCast]
    exact Json.lt_length_toDigits_pow (by decide)
  have read := Json.read_intText_of_long many
  have failed : ∀ source, ofJsonText (String.ofList (Json.intText longNumber)) source =
      .fail (.longNumber (Nat.toDigits 10 (longNumber : Int).natAbs).length) := by
    intro source
    rw [ofJsonText, String.toList_ofList, read]
  have merged : (ofJsonTexts [String.ofList (Json.intText longNumber)]).result =
      .error (.longNumber (Nat.toDigits 10 (longNumber : Int).natAbs).length) := by
    rw [ofJsonTexts, List.zipIdx_singleton, mergeLoaded, failed]
    rfl
  refine ⟨fun s h => ?_, ⟨_, merged⟩, fun errors h => ?_⟩
  · rw [failed] at h
    cases h
  · rw [merged] at h
    cases h

end SpannerDdl.Schema
