import SpannerDdl.Text.Blank
import SpannerDdl.Token.Quote

/-! # The vocabulary of DDL text

The lexer knows a fixed set of operators, of phrases of several words, of comments and of quotes.
They are told regardless of the case of ASCII letters, and a space in a phrase stands for any run
of blanks. Where several entries fit, the longest counts.

* `Meaning`, `Entry`, `entries`: the vocabulary.
* `longest? cs`: the longest entry at the front of a text, with its length there.
* `isSymbol c`: the characters that end a word and stand for themselves.
* `commands`: the words that take the rest of their statement as text.
-/

set_option autoImplicit false

namespace SpannerDdl.Vocabulary

/-- What an entry is for. -/
inductive Meaning where
  | operator
  | phrase
  | lineComment
  | blockComment (closing : List Char)
  | quote (quote : Quote)
  deriving DecidableEq, Repr

/-- A text the lexer knows, in upper case. -/
structure Entry where
  text : List Char
  meaning : Meaning
  deriving DecidableEq, Repr

/-- The operators of more than one character. -/
def operators : List String :=
  ["!=", "#>", "#>>", "%\x7d", "&&", "&<", "&>", "+%\x7d", "+\x7d\x7d", "-%\x7d", "-\x7d\x7d",
   "->", "->>", "-|-", ":=", "::", "<->", "<<->>", "<=", "<=>", "<>", "==", "=>", ">=", "?::",
   "??", "\x7b%", "\x7b%+", "\x7b%-", "\x7b\x7b+", "\x7b\x7b-", "|>", "||", "~*", "~~", "~~*",
   "~~~"]

/-- The phrases. -/
def phrases : List String :=
  ["ANY TYPE", "BEGIN TRANSACTION", "CHAR VARYING", "CHARACTER VARYING", "CLUSTER BY",
   "CONNECT BY", "DISTRIBUTE BY", "DOUBLE PRECISION", "FOREIGN KEY", "GROUP BY",
   "GROUPING SETS", "ORDER BY", "PARTITION BY", "PARTITIONED BY", "PRIMARY KEY", "SIMILAR TO",
   "SORT BY", "SQL SECURITY", "USER-DEFINED"]

/-- The delimiters of strings. -/
def delimiters : List (List Char) :=
  [['\''], ['"'], ['\'', '\'', '\''], ['"', '"', '"']]

/-- The strings with a delimiter: plain ones, and those behind `B`, `N` and `R`. -/
def quoteEntries (delimiter : List Char) : List Entry :=
  let quote : Quote := { delimiter, escapes := ['\\'] }
  [⟨delimiter, .quote quote⟩,
   ⟨'B' :: delimiter, .quote { quote with bytes := true }⟩,
   ⟨'N' :: delimiter, .quote quote⟩,
   ⟨'R' :: delimiter, .quote { quote with raw := true }⟩]

/-- Identifiers in backticks, where a doubled backtick and a backslash are escapes. -/
def identQuote : Quote := { delimiter := ['`'], escapes := ['\\', '`'] }

/-- The whole vocabulary. -/
def entries : List Entry :=
  operators.map (⟨·.toList, .operator⟩) ++ phrases.map (⟨·.toList, .phrase⟩) ++
  [⟨['-', '-'], .lineComment⟩, ⟨['#'], .lineComment⟩,
   ⟨['/', '*'], .blockComment ['*', '/']⟩, ⟨['\x7b', '#'], .blockComment ['#', '\x7d']⟩] ++
  delimiters.flatMap quoteEntries

/-- The number of characters with which a text matches an entry at its front. -/
def matchLength? : List Char → List Char → Option Nat
  | [], _ => some 0
  | _ :: _, [] => none
  | e :: es, c :: cs =>
    if e == ' ' then
      if Text.isBlank c then
        let run := (cs.takeWhile Text.isBlank).length
        (matchLength? es (cs.drop run)).map (· + run + 1)
      else none
    else if c.toUpper == e then (matchLength? es cs).map (· + 1)
    else none

/-- The longer of two matches. -/
def longer? (best : Option (Entry × Nat)) (entry : Entry) (length? : Option Nat) :
    Option (Entry × Nat) :=
  match best, length? with
  | best, none => best
  | none, some n => some (entry, n)
  | some (e, m), some n => if m < n then some (entry, n) else some (e, m)

/-- The longest entry at the front of a text, with its length there. -/
def longest? (cs : List Char) : Option (Entry × Nat) :=
  entries.foldl (fun best entry => longer? best entry (matchLength? entry.text cs)) none

/-- The characters that end a word and stand for themselves. -/
def symbols : List Char :=
  ['(', ')', '[', ']', '\x7b', '\x7d', '&', '^', ':', ',', '.', '-', '=', '>', '<', '%', '!', '|',
   '+', ';', '/', '\\', '*', '~', '?', '@', '#', '\'', '"', '`']

/-- Whether a character ends a word and stands for itself. -/
def isSymbol (c : Char) : Bool := symbols.contains c

/-- Whether a character can stand inside a word. -/
def isWordChar (c : Char) : Bool := !Text.isBlank c && !isSymbol c

/-- The words that take the rest of their statement as text. -/
def commands : List String :=
  ["BEGIN", "CALL", "ELSEIF", "EXCEPTION", "EXECUTE", "EXPLAIN", "FETCH", "LOOP", "OPTIMIZE",
   "PREPARE", "RENAME", "REPEAT", "SHOW", "VACUUM", "WHILE"]

end SpannerDdl.Vocabulary
