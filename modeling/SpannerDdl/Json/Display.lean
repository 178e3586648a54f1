import SpannerDdl.Decimal.Style
import SpannerDdl.Json.Basic
import SpannerDdl.Text.Quoted

/-! # Values in messages

Messages and tolerant conversions show a value in a notation of their own: `None`, `True` and
`False` for the constants, strings in single quotes, and containers as `[a, b]` and
`{'key': value}` on one line.

* `Json.literal v`: a value as it stands inside a message.
* `Json.plain v`: the same, but a string as its own characters.
-/

set_option autoImplicit false

namespace SpannerDdl.Json

/-- Number texts in messages. -/
def messageStyle : Decimal.Style := { nan := "nan", infinity := "inf" }

mutual

/-- A value as it stands inside a message. -/
def literal : Json → String
  | .null => "None"
  | .bool true => "True"
  | .bool false => "False"
  | .int n => toString n
  | .float x => messageStyle.text x
  | .str s => Text.quoted s
  | .arr items => "[" ++ ", ".intercalate (literals items) ++ "]"
  | .obj members => "\x7b" ++ ", ".intercalate (memberLiterals members) ++ "\x7d"

/-- The items of an array as they stand inside a message. -/
def literals : List Json → List String
  | [] => []
  | item :: items => literal item :: literals items

/-- The members of an object as they stand inside a message. -/
def memberLiterals : List (String × Json) → List String
  | [] => []
  | (key, value) :: members => (Text.quoted key ++ ": " ++ literal value) :: memberLiterals members

end

/-- A value as text: a string is its own text, any other value its message form. -/
def plain : Json → String
  | .str s => s
  | v => literal v

@[simp] theorem plain_str (s : String) : plain (.str s) = s := rfl

end SpannerDdl.Json
