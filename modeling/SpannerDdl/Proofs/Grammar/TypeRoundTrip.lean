import SpannerDdl.Proofs.Grammar.SpelledParts
import SpannerDdl.Proofs.Statement.TypeText

/-! # Types are read back of their SQL text

The SQL text of a type is made of words, numbers and punctuation. The grammar reads the type of the
tokens that stand for these, in front of anything that may follow a type.

* `Piece`, `Piece.textOf`: pieces of SQL text, and the text that they make up.
* `Spells`: the tokens that stand for pieces.
* `IntValue.pieces`, `ColumnType.pieces`: the pieces of the SQL text of a value and of a type.
* `ColumnType.IsReadable`: types that are told from others by their text.
* `AtTypeEnd`: what may follow a type.
* `ColumnType.sql_reads_back`: the text of a type, and the type of its tokens. -/

set_option autoImplicit false

namespace SpannerDdl

open Grammar

/-! ## Pieces of SQL text -/

/-- A piece of SQL text. No token stands for a blank. -/
inductive Piece where
  | word (text : String)
  | number (text : String)
  | mark (text : String)
  | arrow
  | blank
  deriving DecidableEq, Repr

namespace Piece

def text : Piece → String
  | .word text => text
  | .number text => text
  | .mark text => text
  | .arrow => "=>"
  | .blank => " "

/-- The text of pieces one behind the other. -/
def textOf : List Piece → String
  | [] => ""
  | p :: ps => p.text ++ textOf ps

@[simp] theorem textOf_nil : textOf [] = "" := rfl

@[simp] theorem textOf_cons (p : Piece) (ps : List Piece) :
    textOf (p :: ps) = p.text ++ textOf ps := rfl

@[simp] theorem textOf_append (ps qs : List Piece) : textOf (ps ++ qs) = textOf ps ++ textOf qs := by
  induction ps with
  | nil => rw [List.nil_append, textOf_nil, String.empty_append]
  | cons p ps ih => rw [List.cons_append, textOf_cons, ih, textOf_cons, String.append_assoc]

/-- An arrow is one token or two, and any other piece of text is one. -/
inductive Spelled : Piece → List Token → Prop where
  | word {text : String} {t : Token} (hk : t.kind = .word) (ht : t.text = text) :
      Spelled (.word text) [t]
  | number {text : String} {t : Token} (hk : t.kind = .number) (ht : t.text = text) :
      Spelled (.number text) [t]
  | mark {text : String} {t : Token} (h : t.isPunct text = true) : Spelled (.mark text) [t]
  | arrow {ts : List Token} (h : ArrowSpelled ts) : Spelled .arrow ts
  | blank : Spelled .blank []

end Piece

/-- The tokens stand for the pieces. -/
inductive Spells : List Piece → List Token → Prop where
  | nil : Spells [] []
  | cons {p : Piece} {ps : List Piece} {ts ts' : List Token} (hp : p.Spelled ts)
      (h : Spells ps ts') : Spells (p :: ps) (ts ++ ts')

/-- Tokens for the piece, at no place in particular. -/
def Piece.tokens : Piece → List Token
  | .word text => [⟨.word, text, 0, 0⟩]
  | .number text => [⟨.number, text, 0, 0⟩]
  | .mark text => [⟨.punct, text, 0, 0⟩]
  | .arrow => [⟨.punct, "=>", 0, 0⟩]
  | .blank => []

theorem Piece.spelled_tokens (p : Piece) : p.Spelled p.tokens := by
  cases p with
  | word text => exact .word rfl rfl
  | number text => exact .number rfl rfl
  | mark text => exact .mark (by simp [Token.isPunct])
  | arrow => exact .arrow (.one rfl)
  | blank => exact .blank

theorem spells_tokens (ps : List Piece) : Spells ps (ps.flatMap Piece.tokens) := by
  induction ps with
  | nil => exact .nil
  | cons p ps ih => exact .cons p.spelled_tokens ih

/-! ## Pieces of values and types -/

def IntValue.pieces : IntValue → List Piece
  | .literal value => [.number value]
  | .param name => [.word "@", .word name]
  | .cast value => .word "CAST" :: .mark "(" :: (value.pieces ++
      [.blank, .word "AS", .blank, .word "INT64", .mark ")"])
  | .unknown => []
  | .missing => []

def pathPieces : List Ident → List Piece
  | [] => []
  | i :: is => .word i.name :: is.flatMap fun j => [.mark ".", .word j.name]

/-- The length of an array, which may be missing. -/
def lengthPieces (length : IntValue) : List Piece :=
  if length = .missing then []
  else .mark "(" :: .word "vector_length" :: .arrow :: (length.pieces ++ [.mark ")"])

def ColumnType.pieces : ColumnType → List Piece
  | .scalar name => [.word name]
  | .sized name max size =>
    .word name :: .mark "(" :: ((if max then [.word "MAX"] else size.pieces) ++ [.mark ")"])
  | .array item length =>
    .word "ARRAY" :: .mark "<" :: (item.pieces ++ .mark ">" :: lengthPieces length)
  | .named path => pathPieces path
  | .custom _ => []
  | .missing => []

/-- A type that is told from others by its text. No name may be taken for that of an array, and a
path of one name must not be the name of a type that stands alone. -/
inductive ColumnType.IsReadable : ColumnType → Prop where
  | scalar {name : String} (h : name ∈ scalarTypes) : IsReadable (.scalar name)
  | greatest {name : String} (upper : Text.upper name = name) (notArray : name ≠ "ARRAY") :
      IsReadable (.sized name true .missing)
  | sized {name : String} {size : IntValue} (upper : Text.upper name = name)
      (notArray : name ≠ "ARRAY") (h : size.Complete) : IsReadable (.sized name false size)
  | named {name : String} {names : List String} (notArray : Text.upper name ≠ "ARRAY")
      (notScalar : names = [] → Text.upper name ∉ scalarTypes) :
      IsReadable (.named ((name :: names).map .named))
  | array {item : ColumnType} {length : IntValue} (h : IsReadable item)
      (hl : length = .missing ∨ length.Complete) : IsReadable (.array item length)

/-! ## The text of the pieces -/

theorem IntValue.sql_eq_textOf {v : IntValue} (h : v.Complete) :
    v.sql = .ok (Piece.textOf v.pieces) := by
  induction v with
  | literal value => simp [sql, pieces, Piece.text]
  | param name => simp [sql, pieces, Piece.text]
  | cast value ih =>
    rw [sql, ih h]
    simp [pieces, Piece.text, Except.map, ← String.toList_inj]
  | unknown => exact h.elim
  | missing => exact h.elim

theorem textOf_pathPieces (is : List Ident) : Piece.textOf (pathPieces is) = Path.name ⟨is⟩ := by
  cases is with
  | nil => rfl
  | cons i is =>
    induction is generalizing i with
    | nil => simp [pathPieces, Piece.text, Path.name]
    | cons j is ih =>
      have behind : j.name ++ Piece.textOf (is.flatMap fun k => [.mark ".", .word k.name]) =
          ".".intercalate (j.name :: is.map Ident.name) := ih j
      rw [Path.name, List.map_cons, List.map_cons, String.intercalate_cons_cons, ← behind,
        pathPieces, List.flatMap_cons]
      simp [Piece.text, String.append_assoc]

theorem ColumnType.sql_eq_textOf {t : ColumnType} (h : t.IsReadable) :
    t.sql = .ok (Piece.textOf t.pieces) := by
  induction h with
  | scalar h => simp [sql, pieces, Piece.text]
  | greatest upper notArray => simp [sql, pieces, Piece.text]
  | @sized name size upper notArray h =>
    have stated : size ≠ .missing := by
      rintro rfl
      exact h
    simp [sql, stated, pieces, Piece.text, Except.map, IntValue.sql_eq_textOf h,
      ← String.toList_inj]
  | named _ _ => rw [sql, dottedSql_named, pieces, textOf_pathPieces]
  | @array item length _ hl ih =>
    rw [sql, ih, pieces, lengthPieces]
    by_cases missing : length = .missing
    · simp [missing, Piece.text, bind, Except.bind, pure, Except.pure, ← String.toList_inj]
    · have text := IntValue.sql_eq_textOf (hl.resolve_left missing)
      simp [missing, text, Piece.text, bind, Except.bind, pure, Except.pure, ← String.toList_inj]

/-! ## The tokens of pieces -/

theorem Token.isPunct_of_word {t : Token} (h : t.kind = .word) (text : String) :
    t.isPunct text = false := by
  rw [isPunct, h]
  rfl

theorem Token.isKeyword_of_word {t : Token} (h : t.kind = .word) (word : String) :
    t.isKeyword word = (Text.upper t.text == word) := by
  rw [isKeyword, upper, h]

namespace Spells

variable {ps qs : List Piece} {ts : List Token} {text : String}

theorem exists_append (h : Spells (ps ++ qs) ts) :
    ∃ us vs, ts = us ++ vs ∧ Spells ps us ∧ Spells qs vs := by
  induction ps generalizing ts with
  | nil => exact ⟨[], ts, rfl, .nil, h⟩
  | cons p ps ih =>
    cases h with
    | cons hp h =>
      obtain ⟨us, vs, rfl, hps, hqs⟩ := ih h
      exact ⟨_, vs, (List.append_assoc _ us vs).symm, .cons hp hps, hqs⟩

theorem exists_word (h : Spells (.word text :: ps) ts) :
    ∃ t us, ts = t :: us ∧ t.kind = .word ∧ t.text = text ∧ Spells ps us := by
  cases h with
  | cons hp h =>
    cases hp with
    | word hk ht => exact ⟨_, _, rfl, hk, ht, h⟩

theorem exists_keyword (h : Spells (.word text :: ps) ts) (word : String)
    (hw : Text.upper text = word) :
    ∃ t us, ts = t :: us ∧ t.isKeyword word = true ∧ Spells ps us := by
  obtain ⟨t, us, rfl, hk, ht, h⟩ := h.exists_word
  refine ⟨t, us, rfl, ?_, h⟩
  rw [Token.isKeyword_of_word hk, ht, hw, beq_self_eq_true]

theorem exists_number (h : Spells (.number text :: ps) ts) :
    ∃ t us, ts = t :: us ∧ t.kind = .number ∧ t.text = text ∧ Spells ps us := by
  cases h with
  | cons hp h =>
    cases hp with
    | number hk ht => exact ⟨_, _, rfl, hk, ht, h⟩

theorem exists_mark (h : Spells (.mark text :: ps) ts) :
    ∃ t us, ts = t :: us ∧ t.isPunct text = true ∧ Spells ps us := by
  cases h with
  | cons hp h =>
    cases hp with
    | mark ht => exact ⟨_, _, rfl, ht, h⟩

theorem exists_arrow (h : Spells (.arrow :: ps) ts) :
    ∃ us vs, ts = us ++ vs ∧ ArrowSpelled us ∧ Spells ps vs := by
  cases h with
  | cons hp h =>
    cases hp with
    | arrow ha => exact ⟨_, _, rfl, ha, h⟩

theorem of_blank (h : Spells (.blank :: ps) ts) : Spells ps ts := by
  cases h with
  | cons hp h =>
    cases hp with
    | blank => exact h

theorem eq_nil (h : Spells [] ts) : ts = [] := by
  cases h with
  | nil => rfl

end Spells

/-! ## Reading the tokens -/

namespace Grammar

variable {rest ts : List Token}

/-- Behind a type: the end, a word, a comma or a closing parenthesis or bracket comes next. -/
def AtTypeEnd (rest : List Token) : Prop :=
  ∀ t ∈ rest.head?, t.kind = .word ∨ t.isPunct "," = true ∨ t.isPunct ")" = true ∨
    t.isPunct ">" = true

theorem AtTypeEnd.endsType (h : AtTypeEnd rest) : EndsType rest := by
  cases rest with
  | nil => exact ⟨rfl, rfl⟩
  | cons t ts =>
    rcases h t rfl with word | comma | close | close
    · have none : ∀ text, punct? text (t :: ts) = none := by
        intro text
        rw [punct?, Token.isPunct_of_word word]
        rfl
      exact ⟨none _, none _⟩
    · exact endsType_of_isPunct comma (by decide) (by decide) ts
    · exact endsType_of_isPunct close (by decide) (by decide) ts
    · exact endsType_of_isPunct close (by decide) (by decide) ts

theorem ident?_of_word {t : Token} (h : t.kind = .word) : ident? t = some (.named t.text) := by
  simp [ident?, h]

/-- The at sign of a parameter is a word of its own. -/
theorem intValue_param {a t : Token} (ha : a.kind = .word) (hat : a.text = "@")
    (hk : t.kind = .word) (rest : List Token) :
    intValue (a :: t :: rest) = .ok (.param t.text, rest) := by
  have sign : isAt a = true := by
    rw [isAt, ha, hat]
    rfl
  have named : ident (t :: rest) = .ok (.named t.text, rest) := by
    rw [ident, ident?_of_word hk]
  unfold intValue
  rw [if_neg (by rw [ha]; decide), if_pos sign, named, ok_bind]
  rfl

theorem intValue_of_spells {v : IntValue} (given : v.Complete) (h : Spells v.pieces ts)
    (rest : List Token) : intValue (ts ++ rest) = .ok (v, rest) := by
  induction v generalizing ts rest with
  | literal value =>
    obtain ⟨t, us, rfl, hk, ht, behind⟩ := h.exists_number
    obtain rfl := behind.eq_nil
    subst ht
    exact intValue_of_number hk rest
  | param name =>
    obtain ⟨a, us, rfl, ha, hat, h⟩ := h.exists_word
    obtain ⟨t, us, rfl, hk, ht, behind⟩ := h.exists_word
    obtain rfl := behind.eq_nil
    subst ht
    exact intValue_param ha hat hk rest
  | cast value ih =>
    obtain ⟨c, us, rfl, hc, h⟩ := h.exists_keyword "CAST" (by decide)
    obtain ⟨p, us, rfl, hp, h⟩ := h.exists_mark
    obtain ⟨vs, us, rfl, hv, h⟩ := h.exists_append
    obtain ⟨a, us, rfl, ha, h⟩ := h.of_blank.exists_keyword "AS" (by decide)
    obtain ⟨i, us, rfl, hi, h⟩ := h.of_blank.exists_keyword "INT64" (by decide)
    obtain ⟨q, us, rfl, hq, h⟩ := h.exists_mark
    obtain rfl := h.eq_nil
    simp only [List.cons_append, List.append_assoc, List.nil_append]
    exact intValue_cast hc hp (ih given hv _) ha hi hq
  | unknown => exact given.elim
  | missing => exact given.elim

/-- No size can be taken for the greatest size. -/
theorem keywords?_max_of_spells {v : IntValue} (given : v.Complete) (h : Spells v.pieces ts)
    (rest : List Token) : keywords? ["MAX"] (ts ++ rest) = none := by
  have head : ∀ {t : Token} {us : List Token}, t.isKeyword "MAX" = false →
      keywords? ["MAX"] (t :: us) = none := by
    intro t us other
    rw [keywords?, other]
    rfl
  cases v with
  | literal value =>
    obtain ⟨t, us, rfl, hk, -⟩ := h.exists_number
    exact head (by rw [Token.isKeyword, Token.upper, hk]; rfl)
  | param name =>
    obtain ⟨a, us, rfl, ha, hat, -⟩ := h.exists_word
    exact head (by rw [Token.isKeyword_of_word ha, hat]; decide)
  | cast value =>
    obtain ⟨c, us, rfl, hc, hct, -⟩ := h.exists_word
    exact head (by rw [Token.isKeyword_of_word hc, hct]; decide)
  | unknown => exact given.elim
  | missing => exact given.elim

theorem vectorLength_of_spells {length : IntValue} (given : length = .missing ∨ length.Complete)
    (h : Spells (lengthPieces length) ts) (hr : punct? "(" rest = none) :
    vectorLength (ts ++ rest) = .ok (length, rest) := by
  by_cases missing : length = .missing
  · rw [lengthPieces, if_pos missing] at h
    obtain rfl := h.eq_nil
    rw [missing]
    exact vectorLength_of_none hr
  · rw [lengthPieces, if_neg missing] at h
    obtain ⟨p, us, rfl, hp, h⟩ := h.exists_mark
    obtain ⟨k, us, rfl, hk, h⟩ := h.exists_keyword "VECTOR_LENGTH" (by decide)
    obtain ⟨as, us, rfl, harrow, h⟩ := h.exists_arrow
    obtain ⟨vs, us, rfl, hv, h⟩ := h.exists_append
    obtain ⟨q, us, rfl, hq, h⟩ := h.exists_mark
    obtain rfl := h.eq_nil
    have complete := given.resolve_left missing
    simp only [List.cons_append, List.append_assoc, List.nil_append]
    exact vectorLength_given hp hk harrow (intValue_of_spells complete hv _) hq

theorem typeWord_of_word {t : Token} {name : String} (hk : t.kind = .word) (ht : t.text = name)
    (upper : Text.upper name = name) (notArray : name ≠ "ARRAY") : TypeWord name t where
  isName := .inr hk
  notArray := by
    rw [Token.isKeyword_of_word hk, ht, upper, beq_eq_false_iff_ne]
    exact notArray
  upper := by rw [ht, upper]

theorem identsBehind_of_spells {names : List String}
    (h : Spells ((names.map Ident.named).flatMap fun i => [.mark ".", .word i.name]) ts)
    (hr : punct? "." rest = none) :
    identsBehind "." (ts ++ rest) = .ok (names.map .named, rest) := by
  induction names generalizing ts with
  | nil =>
    obtain rfl := h.eq_nil
    exact identsBehind_of_none hr
  | cons name names ih =>
    rw [List.map_cons, List.flatMap_cons] at h
    obtain ⟨s, us, rfl, hs, h⟩ := h.exists_mark
    obtain ⟨t, us, rfl, hk, ht, behind⟩ := h.exists_word
    have named : ident? t = some (.named name) := by
      rw [ident?_of_word hk, ht, Ident.name_named]
    exact identsBehind_cons hs named (ih behind)

theorem columnType_of_spells {type : ColumnType} (readable : type.IsReadable)
    (h : Spells type.pieces ts) (hr : EndsType rest) :
    columnType (ts ++ rest) = .ok (type, rest) := by
  -- What is behind an item is the closing bracket, so `rest` is another one in every item.
  induction readable generalizing ts rest with
  | @scalar name member =>
    obtain ⟨t, us, rfl, hk, ht, h⟩ := h.exists_word
    obtain rfl := h.eq_nil
    have plain : ∀ name ∈ scalarTypes, Text.upper name = name ∧ name ≠ "ARRAY" := by decide
    obtain ⟨upper, notArray⟩ := plain name member
    exact columnType_scalar (typeWord_of_word hk ht upper notArray) member hr
  | greatest upper notArray =>
    obtain ⟨t, us, rfl, hk, ht, h⟩ := h.exists_word
    obtain ⟨p, us, rfl, hp, h⟩ := h.exists_mark
    obtain ⟨m, us, rfl, hm, h⟩ := Spells.exists_keyword h "MAX" (by decide)
    obtain ⟨q, us, rfl, hq, h⟩ := h.exists_mark
    obtain rfl := h.eq_nil
    exact columnType_greatest (typeWord_of_word hk ht upper notArray) hp hm hq
  | sized upper notArray given =>
    obtain ⟨t, us, rfl, hk, ht, h⟩ := h.exists_word
    obtain ⟨p, us, rfl, hp, h⟩ := h.exists_mark
    obtain ⟨vs, us, rfl, hv, h⟩ := h.exists_append
    obtain ⟨q, us, rfl, hq, h⟩ := h.exists_mark
    obtain rfl := h.eq_nil
    simp only [List.cons_append, List.append_assoc, List.nil_append]
    exact columnType_sized (typeWord_of_word hk ht upper notArray) hp
      (keywords?_max_of_spells given hv _) (intValue_of_spells given hv _) hq
  | @named name names notArray notScalar =>
    obtain ⟨t, us, rfl, hk, ht, h⟩ := h.exists_word
    have other : t.isKeyword "ARRAY" = false := by
      rw [Token.isKeyword_of_word hk, ht, beq_eq_false_iff_ne]
      exact notArray
    have read : path (t :: (us ++ rest)) = .ok (⟨(name :: names).map .named⟩, rest) := by
      rw [path, idents_cons (ident?_of_word hk) (identsBehind_of_spells h hr.noPoint), ht]
      rfl
    rw [List.cons_append, columnType_of_path other read]
    refine namedType_of_ne hr fun i single => ?_
    rw [List.map_cons, List.cons.injEq, List.map_eq_nil_iff] at single
    obtain ⟨rfl, alone⟩ := single
    exact notScalar alone
  | array _ given ih =>
    obtain ⟨a, us, rfl, ha, h⟩ := h.exists_keyword "ARRAY" (by decide)
    obtain ⟨p, us, rfl, hp, h⟩ := h.exists_mark
    obtain ⟨is, us, rfl, hi, h⟩ := h.exists_append
    obtain ⟨q, us, rfl, hq, h⟩ := h.exists_mark
    simp only [List.cons_append, List.append_assoc]
    exact columnType_array ha hp (ih hi (endsType_of_isPunct hq (by decide) (by decide) _)) hq
      (vectorLength_of_spells given h hr.noParenthesis)

end Grammar

/-- The SQL text of a type is that of its pieces. There are tokens that stand for them, and of all
such tokens the type is read, up to what comes behind. -/
theorem ColumnType.sql_reads_back {t : ColumnType} (h : t.IsReadable) :
    t.sql = .ok (Piece.textOf t.pieces) ∧ Spells t.pieces (t.pieces.flatMap Piece.tokens) ∧
      ∀ ts, Spells t.pieces ts → ∀ rest, AtTypeEnd rest →
        Grammar.columnType (ts ++ rest) = .ok (t, rest) := by
  refine ⟨t.sql_eq_textOf h, spells_tokens t.pieces, fun ts spelled rest ends => ?_⟩
  exact columnType_of_spells h spelled ends.endsType

/-- The same for an array of arrays of texts, in front of a clause of its column. -/
theorem ColumnType.nested_arrays_read_back :
    let text : ColumnType := .sized "STRING" false (.cast (.cast (.param "size")))
    let t : ColumnType := .array (.array text (.literal "3")) (.cast (.literal "2"))
    let ts := t.pieces.flatMap Piece.tokens
    let rest : List Token := [⟨.word, "NOT", 1, 2⟩, ⟨.word, "NULL", 1, 6⟩]
    t.IsReadable ∧ AtTypeEnd rest ∧
      t.sql = .ok ("ARRAY<ARRAY<STRING(CAST(CAST(@size AS INT64) AS INT64))>" ++
        "(vector_length=>3)>(vector_length=>CAST(2 AS INT64))") ∧
      ts.map Token.text = ["ARRAY", "<", "ARRAY", "<", "STRING", "(", "CAST", "(", "CAST", "(",
        "@", "size", "AS", "INT64", ")", "AS", "INT64", ")", ")", ">", "(", "vector_length", "=>",
        "3", ")", ">", "(", "vector_length", "=>", "CAST", "(", "2", "AS", "INT64", ")", ")"] ∧
      Grammar.columnType (ts ++ rest) = .ok (t, rest) := by
  intro text t ts rest
  have readable : t.IsReadable :=
    .array (.array (.sized (by decide) (by decide) trivial) (.inr trivial)) (.inr trivial)
  have ends : AtTypeEnd rest := by
    intro word hw
    cases hw
    exact .inl rfl
  obtain ⟨-, spelled, read⟩ := ColumnType.sql_reads_back readable
  exact ⟨readable, ends, by decide, by decide, read ts spelled rest ends⟩

end SpannerDdl
