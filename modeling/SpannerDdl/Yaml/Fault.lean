import SpannerDdl.Text.Numeral
import SpannerDdl.Text.Quoted
import SpannerDdl.Text.Utf8
import SpannerDdl.Yaml.Moment

/-! # Faults of YAML texts

* `Fault`: why a text has no value.
* `Fault.message`: the reason in words.

A malformed text is one that breaks the rules of the language. All other faults are about scalars
that have no value of the kind they are said to be of, and about bytes that are no text.
-/

set_option autoImplicit false

namespace SpannerDdl.Yaml

open Text (CodePoints)

/-- Why a text has no value: it breaks the rules; its bytes are not text; an escape stands for no
code point, or for a number of more than thirty-one bits; a number has no characters, is not
written like an integer or a float, has too many digits to be read or to be shown, or has too many
parts to the base sixty; a word is no truth value; a text is not written like a date, is none, or
is a map; the text of a map is looked for in the map itself, without end. -/
inductive Fault where
  | malformed
  | notText (fault : Text.Utf8.Fault)
  | noCodePoint
  | escapeTooLarge
  | emptyNumber
  | integer (base : Nat) (text : CodePoints)
  | float (text : CodePoints)
  | tooManyDigits (digits : Nat)
  | tooLargeToShow
  | tooManyParts
  | truthValue (word : CodePoints)
  | noMoment
  | momentOfMap
  | moment (fault : MomentFault)
  | endlessText
  deriving DecidableEq, Repr

/-- The number of characters of a refused integer that are shown, its quotes among them. -/
def shownLength : Nat := 200

/-- The reason in words. -/
def Fault.message : Fault → String
  | .malformed => "malformed text"
  | .notText f => f.message
  | .noCodePoint => "chr() arg not in range(0x110000)"
  | .escapeTooLarge => "Python int too large to convert to C int"
  | .emptyNumber => "string index out of range"
  | .integer base text =>
    "invalid literal for int() with base " ++ toString base ++ ": " ++
      String.ofList ((Text.quotedPoints text).toList.take shownLength)
  | .float text => "could not convert string to float: " ++ Text.quotedPoints text
  | .tooManyDigits digits => Text.tooManyDigitsText digits
  | .tooLargeToShow => Text.digitLimitText ""
  | .tooManyParts => "int too large to convert to float"
  | .truthValue word => Text.quotedPoints word
  | .noMoment => "not written like a date"
  | .momentOfMap => "a map is no date"
  | .moment f => f.message
  | .endlessText => "maximum recursion depth exceeded"

end SpannerDdl.Yaml
