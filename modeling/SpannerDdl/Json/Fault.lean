import SpannerDdl.Text.Numeral

/-! # Why a text is not JSON

* `Cause`: what is wrong, `Cause.message` in words.
* `Position`: a place in a text by line, column and number of characters before it.
* `Fault`: a cause with the number of characters from its place to the end, or a number that is too
  long.
* `Fault.message text f`: the words and the place.
-/

set_option autoImplicit false

namespace SpannerDdl.Json

/-- What is wrong with a text. -/
inductive Cause where
  | value
  | memberName
  | colon
  | comma
  | extraData
  | unterminatedString
  | controlCharacter
  | escape
  | unicodeEscape
  | byteOrderMark
  deriving DecidableEq, Repr

/-- What is wrong, in words. -/
def Cause.message : Cause → String
  | .value => "Expecting value"
  | .memberName => "Expecting property name enclosed in double quotes"
  | .colon => "Expecting ':' delimiter"
  | .comma => "Expecting ',' delimiter"
  | .extraData => "Extra data"
  | .unterminatedString => "Unterminated string starting at"
  | .controlCharacter => "Invalid control character at"
  | .escape => "Invalid \\escape"
  | .unicodeEscape => "Invalid \\uXXXX escape"
  | .byteOrderMark => "Unexpected UTF-8 BOM (decode using utf-8-sig)"

/-- A place in a text. Lines and columns count from one. -/
structure Position where
  line : Nat
  column : Nat
  offset : Nat
  deriving DecidableEq, Repr

/-- The place behind the given characters; a line feed ends a line. -/
def Position.after (before : List Char) : Position where
  line := before.count '\n' + 1
  column := (before.reverse.takeWhile (· != '\n')).length + 1
  offset := before.length

/-- Why a text is not read: something is wrong so many characters before its end, or an integer has
more digits than one is read from. -/
inductive Fault where
  | malformed (cause : Cause) (remaining : Nat)
  | longNumber (digits : Nat)
  deriving DecidableEq, Repr

/-- The place in a text that has so many characters behind it. -/
def Position.before (text : List Char) (remaining : Nat) : Position :=
  .after (text.take (text.length - remaining))

/-- What is wrong and where, in words. -/
def Fault.message (text : List Char) : Fault → String
  | .malformed cause remaining =>
    let place := Position.before text remaining
    cause.message ++ ": line " ++ toString place.line ++ " column " ++ toString place.column ++
      " (char " ++ toString place.offset ++ ")"
  | .longNumber digits => Text.tooManyDigitsText digits

end SpannerDdl.Json
