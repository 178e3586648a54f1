import SpannerDdl.Text.CodePoints
import SpannerDdl.Text.Half
import SpannerDdl.Text.Hex
import SpannerDdl.Text.Printable

/-! # Quoted text in messages

Messages show a text in quotes so that it stays on one line and keeps its ends visible. Single
quotes are used unless the text holds a single quote and no double quote. A character in the place
of half a surrogate pair is shown as the half; texts hold none of these otherwise (`isTaken`).

* `quoteFor cs`: the quote character a text is shown in.
* `quoted s`: the text in quotes, with the quote, the backslash and every unprintable character
  written as escapes.
* `quotedPoints cs`: the same for a text that may hold halves of pairs, which are escapes too.
* `quotedBytes bs`: bytes in quotes, where every byte beyond ASCII is an escape.
* `escapedHalves cs`: a text in which only the halves are escapes.
-/

set_option autoImplicit false

namespace SpannerDdl.Text

/-- The quote a text is shown in. -/
def quoteFor (cs : List Char) : Char :=
  if cs.contains '\'' && !cs.contains '"' then '"' else '\''

/-- An unprintable character by its code point, with as few of two, four or eight digits as
hold it. -/
def escapeCode (n : Nat) : List Char :=
  if n < 0x100 then '\\' :: 'x' :: hexFixed 2 n
  else if n < 0x10000 then '\\' :: 'u' :: hexFixed 4 n
  else '\\' :: 'U' :: hexFixed 8 n

/-- One character as it stands between the quotes. -/
def quotedChar (quote c : Char) : List Char :=
  if c = quote ∨ c = '\\' then ['\\', c]
  else if c = '\n' then ['\\', 'n']
  else if c = '\r' then ['\\', 'r']
  else if c = '\t' then ['\\', 't']
  else if isPrintable c then [c]
  else escapeCode (codePoint c)

/-- A text in quotes. -/
def quoted (s : String) : String :=
  let cs := s.toList
  let quote := quoteFor cs
  String.ofList (quote :: cs.flatMap (quotedChar quote) ++ [quote])

/-! ## Halves of pairs -/

/-- A code point as one piece of text: by a function of its character, or as an escape. -/
def orEscape (f : Char → List Char) (n : Nat) : List Char := ((char? n).map f).getD (escapeCode n)

/-- A text by its code points in quotes. -/
def quotedPoints (cs : CodePoints) : String :=
  let quote := quoteFor (cs.filterMap char?)
  String.ofList (quote :: cs.flatMap (orEscape (quotedChar quote)) ++ [quote])

/-- A text by its code points, with halves written as escapes. -/
def escapedHalves (cs : CodePoints) : String := String.ofList (cs.flatMap (orEscape ([·])))

/-! ## Bytes -/

/-- Bytes in quotes, with the letter for bytes in front. -/
def quotedBytes (bytes : List UInt8) : String :=
  let cs := bytes.map fun b => Char.ofNat b.toNat
  let quote := quoteFor cs
  let shown (c : Char) : List Char := if c.toNat < 0x80 then quotedChar quote c else escapeCode c.toNat
  String.ofList ('b' :: quote :: cs.flatMap shown ++ [quote])

end SpannerDdl.Text
