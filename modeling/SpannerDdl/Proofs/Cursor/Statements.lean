import SpannerDdl.Proofs.Cursor.Tables

/-! # Whole statements by a cursor

* `alterTable`, `createIndex`: statements that are no `CREATE TABLE`.
* `statement`: the statement that the tokens spell; all tokens have to be used.
-/

set_option autoImplicit false

namespace SpannerDdl

/-! ## Ahead of the cursor -/

/-- How far ahead the first token is that is no modifier of an index, of those from `i` on. -/
def Cursor.modifiersAhead (c : Cursor) (i : Nat) : Option Nat :=
  if c.keywordAhead i == "UNIQUE" || c.keywordAhead i == "NULL_FILTERED" then
    c |>.modifiersAhead (i + 1)
  else some i
partial_fixpoint

namespace Reading

open Grammar

variable {c : Cursor}

/-! ## ALTER TABLE -/

/-- A constraint that has to be there. -/
def addedConstraint : Reading Alteration := do
  match ← tableConstraint with
  | some constraint => return .addConstraint constraint
  | none => fail "table constraint"

/-- What an `ALTER TABLE` statement does. -/
def alteration : Reading Alteration := do
  if ← look (·.atKeywords ["ADD", "ROW", "DELETION", "POLICY"]) then do
    let _ ← next
    return .addPolicy (← rowDeletionPolicy)
  else if ← look (·.atKeywords ["REPLACE", "ROW", "DELETION", "POLICY"]) then do
    let _ ← next
    return .replacePolicy (← rowDeletionPolicy)
  else if ← accept ["DROP", "ROW", "DELETION", "POLICY"] then return .dropPolicy
  else if ← accept ["ADD", "COLUMN"] then do
    let ifNotExists ← accept ["IF", "NOT", "EXISTS"]
    return .addColumn (← columnDef) ifNotExists
  else if ← look (fun c => c.atKeywords ["ADD"] &&
      ["CONSTRAINT", "FOREIGN", "CHECK"].contains (c.keywordAhead 1)) then do
    let _ ← next
    addedConstraint
  else if ← accept ["DROP", "COLUMN"] then return .dropColumn (← ident)
  else if ← accept ["DROP", "CONSTRAINT"] then return .dropConstraint (← ident)
  else if ← look (·.atKeywords ["SET", "INTERLEAVE"]) then do
    let _ ← next
    let i ← interleaving
    return .setInterleaving i.parent i.onDelete
  else if ← look (·.atKeywords ["SET", "ON", "DELETE"]) then do
    let _ ← next
    return .setOnDelete (← onDelete)
  else if ← accept ["SET", "OPTIONS"] then return .setOptions (← balancedText)
  else if ← accept ["ALTER", "COLUMN"] then do
    let name ← ident
    return .alterColumn name (Token.renderAll (← takeRest))
  else if ← look (·.atEnd) then fail "table alteration"
  else return .other (Token.renderAll (← takeRest))

/-- An `ALTER TABLE` statement. -/
def alterTable : Reading Statement := do
  expect ["ALTER", "TABLE"]
  let name ← path
  return .alterTable name (← alteration)

theorem secondIsOneOf_eq {words : List String} (hw : "" ∉ words) :
    words.contains (c.keywordAhead 1) = secondIsOneOf words c.left := by
  have none : words.contains "" = false := by simpa using hw
  rw [Cursor.keywordAhead_eq]
  match c.left with
  | [] => exact none
  | [t] => exact none
  | t :: u :: ts => rfl

theorem follows_readyConstraint (hc : c.Ready) :
    Follows c tableConstraint (tableConstraint? c.left) := by
  cases h : startsConstraint c.left with
  | true => exact follows_tableConstraint hc.toSound h
  | false =>
    obtain ⟨ends, read⟩ := tableConstraint_of_no_start h
    exact .ok ends (.refl c) hc read

/-- A constraint that has to be at the front of the tokens. -/
def readAddedConstraint (ts : List Token) : Except Mismatch (Alteration × List Token) :=
  tableConstraint? ts >>= fun p =>
    match p.1 with
    | some constraint => .ok (.addConstraint constraint, p.2)
    | none => mismatch "table constraint" p.2

theorem follows_addedConstraint (hc : c.Ready) :
    Follows c addedConstraint (readAddedConstraint c.left) := by
  refine (follows_readyConstraint hc).bind fun constraint c1 hc1 _ => ?_
  cases constraint with
  | some constraint => exact .pure hc1
  | none => exact .fail hc1.toSound

theorem follows_alteration (hc : c.Ready) : Follows c alteration (Grammar.alteration c.left) := by
  have hs := hc.toSound
  unfold Grammar.alteration
  refine .lookKeywords (by decide) (fun h => ?addPolicy) (fun h => ?_)
  case addPolicy =>
    rw [if_pos h]
    exact .skipKeyword hs h fun c1 hc1 h1 => h1 ▸ (follows_rowDeletionPolicy hc1.toSound).map _
  rw [if_neg h]
  refine .lookKeywords (by decide) (fun h => ?replacePolicy) (fun h => ?_)
  case replacePolicy =>
    rw [if_pos h]
    exact .skipKeyword hs h fun c1 hc1 h1 => h1 ▸ (follows_rowDeletionPolicy hc1.toSound).map _
  rw [if_neg h]
  refine .accept hs (by decide) (fun c1 hc1 h => ?dropPolicy) (fun h => ?_)
  case dropPolicy => rw [h]; exact .pure hc1
  rw [h]
  refine .accept hs (by decide) (fun c1 hc1 h => ?addColumn) (fun h => ?_)
  case addColumn =>
    rw [h]
    refine (follows_accept hc1 (by decide)).bindFound fun c2 hc2 h2 => ?_
    have found := (follows_columnDef hc2.toSound).map fun column =>
      Alteration.addColumn column (Grammar.accept ["IF", "NOT", "EXISTS"] c1.left).1
    rw [h2] at found
    exact found
  rw [h]
  refine .look (fun h => ?addConstraint) (fun h => ?_)
  case addConstraint =>
    rw [Cursor.atKeywords_eq (by decide), secondIsOneOf_eq (by decide)] at h
    rw [if_pos h]
    refine .skipKeyword hs (Bool.and_eq_true_iff.1 h).1 fun c1 hc1 h1 => ?_
    rw [← h1]
    refine (follows_addedConstraint hc1).congr ?_
    rw [readAddedConstraint]
    match tableConstraint? c1.left with
    | .error m => rfl
    | .ok (some constraint, rest) => rfl
    | .ok (none, rest) => rfl
  rw [Cursor.atKeywords_eq (by decide), secondIsOneOf_eq (by decide)] at h
  rw [if_neg (Bool.eq_false_iff.1 h)]
  refine .accept hs (by decide) (fun c1 hc1 h => ?dropColumn) (fun h => ?_)
  case dropColumn => rw [h]; exact (follows_ident hc1.toSound).map _
  rw [h]
  refine .accept hs (by decide) (fun c1 hc1 h => ?dropConstraint) (fun h => ?_)
  case dropConstraint => rw [h]; exact (follows_ident hc1.toSound).map _
  rw [h]
  refine .lookKeywords (by decide) (fun h => ?setInterleaving) (fun h => ?_)
  case setInterleaving =>
    rw [if_pos h]
    exact .skipKeyword hs h fun c1 hc1 h1 => h1 ▸ (follows_interleaving hc1.toSound).map _
  rw [if_neg h]
  refine .lookKeywords (by decide) (fun h => ?setOnDelete) (fun h => ?_)
  case setOnDelete =>
    rw [if_pos h]
    exact .skipKeyword hs h fun c1 hc1 h1 => h1 ▸ (follows_onDelete hc1).map _
  rw [if_neg h]
  refine .accept hs (by decide) (fun c1 hc1 h => ?setOptions) (fun h => ?_)
  case setOptions => rw [h]; exact (follows_balancedText hc1.toSound).map _
  rw [h]
  refine .accept hs (by decide) (fun c1 hc1 h => ?alterColumn) (fun h => ?_)
  case alterColumn =>
    rw [h]
    dsimp only
    rw [map_eq_bind]
    refine (follows_ident hc1.toSound).bind fun name c2 hc2 _ => ?_
    exact (follows_takeRest hc2).bindFound fun c3 hc3 h3 => .pure_of_left hc3 h3
  rw [h]
  refine .look (fun h => ?nothing) (fun h => ?other)
  case nothing =>
    rw [Cursor.atEnd_eq] at h
    rw [if_pos h]
    exact .fail hs
  case other =>
    rw [Cursor.atEnd_eq] at h
    rw [if_neg (Bool.eq_false_iff.1 h)]
    dsimp only
    exact (follows_takeRest hc).bindFound fun c1 hc1 h1 => .pure_of_left hc1 h1

theorem follows_alterTable (hc : c.Sound) :
    Follows c alterTable (Grammar.alterTable c.left) := by
  refine (follows_expect hc (by decide)).andThen fun c1 hc1 _ => ?_
  refine (follows_path hc1.toSound).bind fun name c2 hc2 _ => ?_
  exact (follows_alteration hc2).bind fun change c3 hc3 _ => .pure hc3

/-! ## CREATE INDEX -/

/-- One modifier of an index, if it stands at the cursor: whether the index is unique, and whether
it leaves out nulls. -/
def modifierTurn (known : Bool × Bool) : Reading (ForInStep (Bool × Bool)) := do
  if ← accept ["UNIQUE"] then return .yield (true, known.2)
  else if ← accept ["NULL_FILTERED"] then return .yield (known.1, true)
  else return .done known

/-- The modifiers of an index, in any order and number, and the keyword behind them. -/
def indexKind : Reading (Bool × Bool) := do
  let kind ← repeatWhile .indexModifier (look fun _ => true) modifierTurn (false, false)
  expect ["INDEX"]
  return kind

/-- Whether a statement creates an index: this is seen ahead of the cursor, which stays. -/
def startsIndex : Reading Bool := do
  let c ← get
  if c.atKeywords ["CREATE"] then return c.keywordAhead (← c.modifiersAhead 1) == "INDEX"
  else return false

/-- The stored columns of an index, if stated. -/
def storing : Reading (Option (List Ident)) := do
  if ← accept ["STORING"] then return some (← identList) else return none

/-- Moves behind the condition of a partial index, which is not recorded. -/
def skipCondition : Reading Unit := do
  if ← accept ["WHERE"] then
    repeatWhile .condition
      (look fun c => !(c.atEnd || c.atPunct "," || c.atKeywords ["OPTIONS"])) (fun _ => do
        let _ ← next
        return .yield ()) ()
  else return ()

/-- The table an index is interleaved in, if stated. -/
def indexInterleaving : Reading (Option Ident) := do
  if ← acceptPunct "," then do
    expect ["INTERLEAVE", "IN"]
    return some (← ident)
  else return none

/-- Moves behind the options of an index, if stated. -/
def skipOptions : Reading Unit := do
  if ← accept ["OPTIONS"] then do
    let _ ← balanced
    return ()
  else return ()

/-- A `CREATE INDEX` statement. -/
def createIndex : Reading CreateIndex := do
  expect ["CREATE"]
  let (unique, nullFiltered) ← indexKind
  let ifNotExists ← accept ["IF", "NOT", "EXISTS"]
  let name ← path
  expect ["ON"]
  let table ← path
  let keys ← keyList
  let storing ← storing
  skipCondition
  let interleaveIn ← indexInterleaving
  skipOptions
  return { name, table, keys, storing, interleaveIn, unique, nullFiltered, ifNotExists }

/-- The modifiers at the front by keywords. -/
theorem indexModifiers_eq (known : Bool × Bool) (ts : List Token) :
    indexModifiers known.1 known.2 ts =
      match keywords? ["UNIQUE"] ts with
      | some rest => indexModifiers true known.2 rest
      | none => match keywords? ["NULL_FILTERED"] ts with
        | some rest => indexModifiers known.1 true rest
        | none => (known.1, known.2, ts) := by
  cases ts with
  | nil => rfl
  | cons t ts =>
    simp only [indexModifiers, keywords?]
    split
    · rfl
    · split
      · rfl
      · rfl

/-- The last turn stops where it began: another reader has to move on before the next turn. -/
theorem follows_modifiers {α : Type} {F : Bool × Bool → Reading α}
    {r : Except Mismatch (α × List Token)} (hc : c.Ready) (known : Bool × Bool)
    (behind : ∀ c' kind, c'.Sound → indexModifiers known.1 known.2 c.left =
      (kind.1, kind.2, c'.left) → Follows c' (F kind) r) :
    Follows c (repeatWhile .indexModifier (look fun _ => true) modifierTurn known >>= F) r := by
  induction h : c.left.length using Nat.strongRecOn generalizing c known with
  | _ n ih =>
    have hc1 := hc.toSound.note .indexModifier hc.here hc.moved
    have turn : (repeatWhile .indexModifier (look fun _ => true) modifierTurn known).outcome c =
        (modifierTurn known >>= behindTurn .indexModifier (look fun _ => true) modifierTurn).outcome
          (c.note .indexModifier c.place) := repeatWhile_of_turn (outcome_look c _)
    refine Follows.behind ?_ (.note .indexModifier c.place) (outcome_bind_congr turn F)
    rw [indexModifiers_eq] at behind
    rw [modifierTurn, bind_assoc, bind_assoc]
    refine .accept hc1 (by decide) (fun c2 hc2 h2 => ?_) (fun h2 => ?_)
    · rw [Cursor.left_note] at h2
      have s1 := length_of_keywords? h2
      rw [h2] at behind
      exact ih c2.left.length (by simp at s1; omega) hc2 (true, known.2) behind rfl
    · rw [Cursor.left_note] at h2
      rw [h2] at behind
      dsimp only at behind
      rw [if_neg Bool.false_ne_true, bind_assoc]
      refine .accept hc1 (by decide) (fun c2 hc2 h2 => ?_) (fun h2 => ?_)
      · rw [Cursor.left_note] at h2
        have s1 := length_of_keywords? h2
        rw [h2] at behind
        exact ih c2.left.length (by simp at s1; omega) hc2 (known.1, true) behind rfl
      · rw [Cursor.left_note] at h2
        rw [h2] at behind
        exact behind _ known hc1 rfl

theorem follows_indexKind (hc : c.Ready) {unique nullFiltered : Bool} {rest : List Token}
    (h : indexModifiers false false c.left = (unique, nullFiltered, rest)) :
    Follows c indexKind (leaving (unique, nullFiltered) (expectKeywords ["INDEX"] rest)) := by
  refine follows_modifiers hc (false, false) fun c1 kind hc1 h1 => ?_
  cases h.symm.trans h1
  exact ((follows_expect hc1 (by decide)).map fun _ => kind).congr (map_map _ _ _)

/-- Looking past the modifiers comes to an end. -/
theorem exists_modifiersAhead (i : Nat) (unique nullFiltered : Bool) :
    ∃ j, c.modifiersAhead i = some j ∧
      (indexModifiers unique nullFiltered (c.left.drop i)).2.2 = c.left.drop j := by
  induction hl : c.left.drop i generalizing i unique nullFiltered with
  | nil =>
    refine ⟨i, ?_, hl.symm⟩
    have last : c.keywordAhead i = "" := by rw [Cursor.keywordAhead_eq, hl]; rfl
    rw [Cursor.modifiersAhead, last]
    rfl
  | cons t ts ih =>
    have first : c.keywordAhead i = t.upper := by rw [Cursor.keywordAhead_eq, hl]; rfl
    have further : c.left.drop (i + 1) = ts := by rw [← List.drop_drop, hl]; rfl
    rw [Cursor.modifiersAhead, first, indexModifiers]
    by_cases hu : t.isKeyword "UNIQUE"
    · have modifier : (t.upper == "UNIQUE" || t.upper == "NULL_FILTERED") = true :=
        Bool.or_eq_true_iff.2 (.inl hu)
      rw [if_pos hu, if_pos modifier]
      exact ih (i + 1) true nullFiltered further
    by_cases hn : t.isKeyword "NULL_FILTERED"
    · have modifier : (t.upper == "UNIQUE" || t.upper == "NULL_FILTERED") = true :=
        Bool.or_eq_true_iff.2 (.inr hn)
      rw [if_neg hu, if_pos hn, if_pos modifier]
      exact ih (i + 1) unique true further
    · have neither : ¬(t.upper == "UNIQUE" || t.upper == "NULL_FILTERED") = true :=
        fun h => (Bool.or_eq_true_iff.1 h).elim hu hn
      rw [if_neg hu, if_neg hn, if_neg neither]
      exact ⟨i, rfl, hl.symm⟩

theorem startsIndex_outcome :
    startsIndex.outcome c = some (.ok (Grammar.startsIndex c.left), c) := by
  rw [startsIndex, outcome_get_bind, Cursor.atKeywords_eq (by decide), Grammar.atKeywords,
    Grammar.startsIndex]
  cases h : keywords? ["CREATE"] c.left with
  | none => rfl
  | some rest =>
    have behind := keywords?_one h
    obtain ⟨j, found, left⟩ := exists_modifiersAhead (c := c) 1 false false
    dsimp only
    rw [Option.isSome_some, if_pos rfl, found, behind, left, ← Cursor.keywordAhead_beq (by decide)]
    rfl

theorem follows_storing (hc : c.Ready) : Follows c storing (Grammar.storing c.left) := by
  unfold Grammar.storing
  refine .accept hc.toSound (by decide) (fun c1 hc1 h => ?_) (fun h => ?_)
  · rw [h]
    exact (follows_identList hc1.toSound).map some
  · rw [h]
    exact .pure hc

theorem follows_condition (hc : c.Ready) :
    Follows c (repeatWhile .condition
      (look fun c => !(c.atEnd || c.atPunct "," || c.atKeywords ["OPTIONS"])) (fun _ => do
        let _ ← next
        return .yield ()) ())
      (.ok ((), c.left.dropWhile fun t => !(t.isPunct "," || t.isKeyword "OPTIONS"))) := by
  induction hl : c.left generalizing c with
  | nil =>
    refine .turn hc (fun h => ?_) (fun _ => by rw [hl]; rfl)
    rw [Cursor.atEnd_eq, hl] at h
    cases h
  | cons t ts ih =>
    have test : (!(c.atEnd || c.atPunct "," || c.atKeywords ["OPTIONS"])) =
        !(t.isPunct "," || t.isKeyword "OPTIONS") := by
      rw [Cursor.atEnd_eq, Cursor.atPunct_eq, Cursor.atKeywords_eq (by decide), hl, atPunct_cons,
        atKeywords_one, List.isEmpty_cons, Bool.false_or]
    refine .turn hc (fun h c1 hc1 h1 => ?_) (fun h => ?_)
    · rw [test] at h
      rw [List.dropWhile_cons, if_pos h, bind_assoc]
      rw [hl] at h1
      refine .skip hc1 h1 fun c2 hc2 h2 => ?_
      exact ih hc2 h2
    · rw [test] at h
      rw [List.dropWhile_cons, if_neg (Bool.eq_false_iff.1 h), hl]

theorem follows_skipCondition (hc : c.Ready) :
    Follows c skipCondition (.ok ((), Grammar.skipCondition c.left)) := by
  unfold Grammar.skipCondition
  refine .accept hc.toSound (by decide) (fun c1 hc1 h => ?_) (fun h => ?_)
  · rw [h]
    exact follows_condition hc1
  · rw [h]
    exact .pure hc

theorem follows_indexInterleaving (hc : c.Ready) :
    Follows c indexInterleaving (Grammar.indexInterleaving c.left) := by
  unfold Grammar.indexInterleaving
  refine .acceptPunct hc.toSound (fun c1 hc1 h => ?_) (fun h => ?_)
  · rw [h]
    refine (follows_expect hc1.toSound (by decide)).andThen fun c2 hc2 _ => ?_
    exact (follows_ident hc2.toSound).bind fun parent c3 hc3 _ => .pure hc3
  · rw [h]
    exact .pure hc

theorem follows_skipOptions (hc : c.Ready) :
    Follows c skipOptions (leaving () (Grammar.skipOptions c.left)) := by
  unfold Grammar.skipOptions
  refine .accept hc.toSound (by decide) (fun c1 hc1 h => ?_) (fun h => ?_)
  · rw [h, leaving]
    dsimp only
    rw [map_map]
    exact (follows_balanced hc1.toSound).map fun _ => ()
  · rw [h]
    exact .pure hc

theorem follows_createIndex (hc : c.Sound) :
    Follows c createIndex (Grammar.createIndex c.left) := by
  refine (follows_expect hc (by decide)).andThen fun c1 hc1 _ => ?_
  rcases h : indexModifiers false false c1.left with ⟨unique, nullFiltered, rest⟩
  refine (follows_indexKind hc1 h).andThen fun c2 hc2 _ => ?_
  refine (follows_accept hc2 (by decide)).bindFound fun c3 hc3 h3 => ?_
  dsimp only
  rw [← h3]
  refine (follows_path hc3.toSound).bind fun name c4 hc4 _ => ?_
  refine (follows_expect hc4.toSound (by decide)).andThen fun c5 hc5 _ => ?_
  refine (follows_path hc5.toSound).bind fun table c6 hc6 _ => ?_
  refine (follows_keyList hc6.toSound).bind fun keys c7 hc7 _ => ?_
  refine (follows_storing hc7).bind fun storing c8 hc8 _ => ?_
  refine (follows_skipCondition hc8).bindFound fun c9 hc9 h9 => ?_
  dsimp only at h9 ⊢
  rw [← h9]
  refine (follows_indexInterleaving hc9).bind fun interleaveIn c10 hc10 _ => ?_
  exact (follows_skipOptions hc10).andThen fun c11 hc11 _ => .pure hc11

/-! ## Any statement -/

/-- What is read, if no token is left. -/
def whole {α : Type} (read : Reading α) : Reading α := do
  let a ← read
  if ← look (·.atEnd) then return a else fail "end of statement"

/-- A statement of another kind, taken as it is. -/
def otherStatement : Reading Statement := do
  let keyword := leadingKeywords (← get).left
  return .other keyword (Token.renderAll (← takeRest))

/-- The statement that the tokens spell. -/
def statement : Reading Statement := do
  if ← look (·.atKeywords ["CREATE", "TABLE"]) then return .createTable (← whole createTable)
  else if ← look (·.atKeywords ["ALTER", "TABLE"]) then whole alterTable
  else if ← startsIndex then return .createIndex (← whole createIndex)
  else otherStatement

theorem follows_whole {α : Type} {read : Reading α} {r : Except Mismatch (α × List Token)}
    (h : Follows c read r) : Follows c (whole read) ((complete r).map fun a => (a, [])) := by
  have rest : (complete r).map (fun a => (a, ([] : List Token))) = r >>= fun p =>
      if p.2.isEmpty then .ok (p.1, p.2) else mismatch "end of statement" p.2 := by
    match r with
    | .error m => rfl
    | .ok (a, []) => rfl
    | .ok (a, t :: ts) => rfl
  rw [rest]
  refine h.bind fun a c1 hc1 _ => ?_
  refine .look (fun h1 => ?_) (fun h1 => ?_)
  · rw [Cursor.atEnd_eq] at h1
    rw [if_pos h1]
    exact .pure hc1
  · rw [Cursor.atEnd_eq] at h1
    rw [if_neg (Bool.eq_false_iff.1 h1)]
    exact .fail hc1.toSound

theorem follows_statement (hc : c.Ready) :
    Follows c statement ((Grammar.statement c.left).map fun s => (s, [])) := by
  unfold Grammar.statement
  refine .lookKeywords (by decide) (fun h => ?createTable) (fun h => ?_)
  case createTable =>
    rw [if_pos h, map_map]
    exact ((follows_whole (follows_createTable hc.toSound)).map _).congr (map_map _ _ _)
  rw [if_neg h]
  refine .lookKeywords (by decide) (fun h => ?alterTable) (fun h => ?_)
  case alterTable =>
    rw [if_pos h]
    exact follows_whole (follows_alterTable hc.toSound)
  rw [if_neg h]
  refine Follows.behind ?_ (.refl c) (outcome_bind_of_ok startsIndex_outcome _)
  cases Grammar.startsIndex c.left with
  | true =>
    rw [if_pos rfl, if_pos rfl, map_map]
    exact ((follows_whole (follows_createIndex hc.toSound)).map _).congr (map_map _ _ _)
  | false =>
    exact .get ((follows_takeRest hc).bindFound fun c1 hc1 h1 => .pure_of_left hc1 h1)

/-! ## The outcome -/

/-- An error is where the cursor is, or at the last token behind the end. -/
theorem line_col_error {t : Token} (h : c.peek.or c.tokens.getLast? = some t) (expected : String) :
    (c.error expected).line = t.line ∧ (c.error expected).col = t.col := by
  rw [Cursor.error, h]
  exact ⟨rfl, rfl⟩

theorem place_of_left_eq_nil (hc : c.Sound) (h : c.left = []) : c.place = c.tokens.length :=
  Nat.le_antisymm hc.inside (List.drop_eq_nil_iff.1 h)

section
variable {source : String} {ts : List Token}

/-- Where a statement lacks something, the error is the one that the cursor gives. -/
theorem ofTokens_of_mismatch (tokens : c.tokens = ts) (named : c.source = source) {what : String}
    (read : (Grammar.statement ts).map (fun s => (s, ([] : List Token))) = mismatch what c.left) :
    Statement.ofTokens source ts = .error (c.error what) := by
  cases found : Grammar.statement ts with
  | ok s =>
    rw [found] at read
    cases read
  | error m =>
    rw [found] at read
    cases read
    rw [Statement.ofTokens, found, Cursor.error_eq tokens named]

/-- An empty list of tokens is a statement, so that an error has a token for its place. -/
theorem exists_token_of_error {e : SourceError} (h : Statement.ofTokens source ts = .error e)
    (place : Nat) : ∃ t, ts[place]?.or ts.getLast? = some t := by
  have some : ts ≠ [] := by
    rintro rfl
    cases h
  have last : (ts[place]?.or ts.getLast?).isSome := by
    rw [Option.isSome_or, List.getLast?_isSome.2 some, Bool.or_true]
  exact Option.isSome_iff_exists.1 last

end

/-- Reading a statement comes to an end, with the statement or the error of its tokens. The cursor
never moves back and stays among the tokens; every turn of a loop, and every call of a reader by
itself, begins behind the one before. All tokens are used for a statement; an error is at the token
where the cursor is, or at the last token if none is left. -/
theorem statement_outcome (source : String) (ts : List Token) :
    ∃ c, statement.outcome (.start source ts) = some (Statement.ofTokens source ts, c) ∧
      c.tokens = ts ∧ c.Sound ∧
      (∀ s, Statement.ofTokens source ts = .ok s → c.place = ts.length) ∧
      ∀ e, Statement.ofTokens source ts = .error e → e.source = source ∧
        ∃ t, ts[c.place]?.or ts.getLast? = some t ∧ e.line = t.line ∧ e.col = t.col := by
  have follows := follows_statement (Cursor.ready_start source ts)
  change Follows _ _ ((Grammar.statement ts).map fun s => (s, [])) at follows
  cases follows with
  | @ok s c ends leads ready read =>
    obtain ⟨s', found, same⟩ := exists_of_map read
    obtain ⟨rfl, nothing⟩ := Prod.mk.inj same
    have result : Statement.ofTokens source ts = .ok s' := by rw [Statement.ofTokens, found]
    have place := place_of_left_eq_nil ready.toSound nothing.symm
    rw [leads.tokens] at place
    refine ⟨c, result ▸ ends, leads.tokens, ready.toSound, fun _ _ => place, fun e failed => ?_⟩
    cases result.symm.trans failed
  | @error what c ends leads sound read =>
    have result := ofTokens_of_mismatch leads.tokens leads.source read
    refine ⟨c, result ▸ ends, leads.tokens, sound, fun s read => ?_, fun e failed => ?_⟩
    · cases result.symm.trans read
    · cases result.symm.trans failed
      obtain ⟨t, place⟩ := exists_token_of_error result c.place
      refine ⟨leads.source, t, place, line_col_error ?_ what⟩
      rw [leads.tokens, Cursor.peek, Cursor.ahead, leads.tokens]
      exact place

end Reading

end SpannerDdl
