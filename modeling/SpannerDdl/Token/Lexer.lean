import SpannerDdl.Token.Basic
import SpannerDdl.Token.Lexeme

/-! # From text to tokens

* `SourceError`: malformed DDL text, by its reason and place.
* `Lexeme.tokens l`: the tokens of a lexeme.
* `tokenize text source`: the tokens of a text. As everywhere, a character in the place of half a
  surrogate pair means the half (`Text.isTaken`).
-/

set_option autoImplicit false

namespace SpannerDdl

/-! ## Malformed text -/

/-- What is wrong with a text: it ends inside a string, an identifier or a comment, or a statement
goes on with another token than the grammar asks for. The token is missing at the end of a
statement. -/
inductive SourceFault where
  | unreadable (excerpt : String)
  | expected (what : String) (found : Option Token)
  deriving DecidableEq, Repr

/-- The reason in words. -/
def SourceFault.message : SourceFault → String
  | .unreadable excerpt => "Error tokenizing '" ++ excerpt ++ "'"
  | .expected what found =>
    "expected " ++ what ++ ", but got " ++ (found.map Token.describe).getD "end of statement"

/-- Malformed DDL text. The line is zero where no place is known. -/
structure SourceError where
  fault : SourceFault
  source : String
  line : Nat := 0
  col : Nat := 0
  deriving DecidableEq, Repr

namespace SourceError

/-- The reason in words. -/
def reason (e : SourceError) : String := e.fault.message

/-- The name of the source and the place, if known. -/
def location (e : SourceError) : String :=
  let name := if e.source == "" then "<input>" else e.source
  if e.line = 0 then name else name ++ ":" ++ toString e.line ++ ":" ++ toString e.col

/-- The whole message. -/
def message (e : SourceError) : String := "syntax error: " ++ e.location ++ ": " ++ e.reason

end SourceError

/-- The text around the place where the lexer ran over the end: fifty characters to either side,
without the last character of the text. -/
def Overrun.excerpt (o : Overrun) (text : List Char) : String :=
  let start := o.read - 50
  let stop := min (o.read + 50) (text.length - 1)
  String.ofList ((text.take stop).drop start)

/-! ## Tokens -/

/-- Whether a lexeme is punctuation: it has no letter, digit, underscore or at sign. -/
def isPunctuation (text : List Char) : Bool :=
  !text.any fun c => Text.isAlphanumeric c || c == '_' || c == '@'

/-- Whether a piece of punctuation is a run of closing or of opening angle brackets. -/
def isBracketRun (text : List Char) : Bool := text.all (· == '>') || text.all (· == '<')

/-- The tokens of a lexeme. A phrase makes one word token of each word and a run of angle brackets
one token of each bracket, all in the place of the lexeme. -/
def Lexeme.tokens (l : Lexeme) : List Token :=
  let token (kind : TokenKind) (text : List Char) : Token :=
    { kind, text := String.ofList text, line := l.line, col := l.col }
  match l.kind with
  | .ident => [token .ident l.text]
  | .string => [token .string l.text]
  | .number => [token .number l.text]
  | _ =>
    if isPunctuation l.text then
      if isBracketRun l.text then l.text.map fun c => token .punct [c] else [token .punct l.text]
    else (Text.blankWords l.text).map (token .word)

/-- The tokens of a DDL text. -/
def tokenize (text source : String) : Except SourceError (List Token) :=
  match lexemes text.toList with
  | .error o => .error { fault := .unreadable (o.excerpt text.toList), source }
  | .ok ls => .ok (ls.flatMap Lexeme.tokens)

end SpannerDdl
