import SpannerDdl.Text.Alphanumeric
import SpannerDdl.Text.Quoted
import SpannerDdl.Text.UpperCase

/-! # Tokens of DDL text

* `Token`: a piece of DDL text with its kind and place.
* `Token.upper t`: the upper case of a word, by which keywords are told; empty for other kinds.
* `Token.describe t`: how an error message shows a token.
* `Token.spelling t`, `Token.renderAll ts`: DDL text that denotes the tokens again.
* `Token.statements ts`: the tokens between the semicolons.
-/

set_option autoImplicit false

namespace SpannerDdl

/-- What a token is: a bare word, a quoted identifier, a string, a number or punctuation. -/
inductive TokenKind where
  | word
  | ident
  | string
  | number
  | punct
  deriving DecidableEq, Repr

/-- A piece of DDL text. Line and column are those of its last character. -/
structure Token where
  kind : TokenKind
  text : String
  line : Nat := 0
  col : Nat := 0
  deriving DecidableEq, Repr

namespace Token

/-- The upper case of a word; empty for every other kind, so that no quoted identifier is ever
taken for a keyword. -/
def upper (t : Token) : String :=
  match t.kind with
  | .word => Text.upper t.text
  | _ => ""

/-- Whether the token is the given keyword, in any case. -/
def isKeyword (t : Token) (word : String) : Bool := t.upper == word

/-- Whether the token is the given punctuation. -/
def isPunct (t : Token) (text : String) : Bool := t.kind == .punct && t.text == text

/-- How an error message shows the token. -/
def describe (t : Token) : String :=
  match t.kind with
  | .string => Text.quoted t.text
  | .ident => "`" ++ t.text ++ "`"
  | _ => t.text

/-- A text in which every single quote is behind a backslash. -/
def escapeQuotes (cs : List Char) : List Char :=
  cs.flatMap fun c => if c = '\'' then ['\\', '\''] else [c]

/-- DDL text for the token alone. -/
def spelling (t : Token) : String :=
  match t.kind with
  | .string => "'" ++ String.ofList (escapeQuotes t.text.toList) ++ "'"
  | .ident => "`" ++ t.text ++ "`"
  | _ => t.text

/-! ## Several tokens as one text -/

/-- Whether a piece of text joins the text before it without a space: closing punctuation always
does, everything does behind an opening parenthesis, a point or an at sign, and an opening
parenthesis does behind a letter or digit. -/
def joins (before piece : String) : Bool :=
  piece == ")" || piece == "," || piece == "." ||
  match before.toList.getLast? with
  | some c => c == '(' || c == '.' || c == '@' || (piece == "(" && Text.isAlphanumeric c)
  | none => false

/-- The pieces behind the text `before`, each with the space that keeps it apart. The text is
everything that is joined so far, not the last piece alone, which may be empty. -/
def tailText (before : String) : List String → List Char
  | [] => []
  | piece :: pieces =>
    if joins before piece then piece.toList ++ tailText (before ++ piece) pieces
    else ' ' :: piece.toList ++ tailText piece pieces

/-- DDL text for the tokens, with single spaces where tokens are kept apart. -/
def renderAll (ts : List Token) : String :=
  match ts.map spelling with
  | [] => ""
  | piece :: pieces => String.ofList (piece.toList ++ tailText piece pieces)

/-! ## Statements -/

/-- Whether the token ends a statement. -/
def isSemicolon (t : Token) : Bool := t.isPunct ";"

/-- The statements of a token list, where `current` holds the tokens already read of the first
one, last token first. -/
def statementsFrom : List Token → List Token → List (List Token)
  | current, [] => if current.isEmpty then [] else [current.reverse]
  | current, t :: ts =>
    if t.isSemicolon then
      if current.isEmpty then statementsFrom [] ts
      else current.reverse :: statementsFrom [] ts
    else statementsFrom (t :: current) ts

/-- The tokens between the semicolons; empty statements are left out. -/
def statements (ts : List Token) : List (List Token) := statementsFrom [] ts

@[simp] theorem statements_nil : statements [] = [] := rfl

end Token

end SpannerDdl
