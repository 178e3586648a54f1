import SpannerDdl.Decimal.Style
import SpannerDdl.Json.Basic
import SpannerDdl.Text.Hex
import SpannerDdl.Text.Numeral

/-! # Writing JSON

Two layouts: compact, with nothing between the tokens, and indented, with every item and member on
a line of its own. Inside strings only the quote, the backslash and the control characters below
U+0020 are escaped.

* `Layout`: the two layouts.
* `Json.write layout depth v`: the text of a value at a nesting depth.
* `Json.render layout v`: the text of a whole document.
* `DumpFault`: why a document is not written. How much room there is for it is left aside.
* `Json.integers v`: the integers in a value.
* `Json.dump layout v`: the text of a document, or why there is none.
-/

set_option autoImplicit false

namespace SpannerDdl.Json

/-- Number texts in JSON, with the customary names for what is not a number. -/
def numberStyle : Decimal.Style := { nan := "NaN", infinity := "Infinity" }

/-- An integer in decimal. -/
def intText (n : Int) : List Char :=
  if n < 0 then '-' :: Nat.toDigits 10 n.natAbs else Nat.toDigits 10 n.natAbs

/-- A character inside a string. -/
def escapeChar (c : Char) : List Char :=
  if c = '"' then ['\\', '"']
  else if c = '\\' then ['\\', '\\']
  else if c = '\n' then ['\\', 'n']
  else if c = '\r' then ['\\', 'r']
  else if c = '\t' then ['\\', 't']
  else if c = Char.ofNat 8 then ['\\', 'b']
  else if c = Char.ofNat 12 then ['\\', 'f']
  else if c.toNat < 0x20 then '\\' :: 'u' :: Text.hexFixed 4 c.toNat
  else [c]

/-- A string in quotes. -/
def stringText (s : String) : List Char := '"' :: s.toList.flatMap escapeChar ++ ['"']

/-- How the items of an array and the members of an object are laid out. An indented layout puts
`width` spaces per level in front of each; a negative width counts as none. -/
inductive Layout where
  | compact
  | indented (width : Int)
  deriving DecidableEq, Repr

/-- What separates a bracket from what it holds at a depth. -/
def Layout.break : Layout → Nat → List Char
  | .compact, _ => []
  | .indented width, depth => '\n' :: List.replicate (width.toNat * depth) ' '

/-- What stands between a key and its value. -/
def Layout.colon : Layout → List Char
  | .compact => [':']
  | .indented _ => [':', ' ']

mutual

/-- The text of a value inside `depth` brackets. -/
def write (layout : Layout) (depth : Nat) : Json → List Char
  | .null => "null".toList
  | .bool true => "true".toList
  | .bool false => "false".toList
  | .int n => intText n
  | .float x => (numberStyle.text x).toList
  | .str s => stringText s
  | .arr [] => ['[', ']']
  | .arr (item :: items) =>
    '[' :: layout.break (depth + 1) ++ write layout (depth + 1) item ++
      writeItems layout (depth + 1) items ++ layout.break depth ++ [']']
  | .obj [] => ['{', '}']
  | .obj ((key, value) :: members) =>
    '{' :: layout.break (depth + 1) ++ stringText key ++ layout.colon ++
      write layout (depth + 1) value ++
      writeMembers layout (depth + 1) members ++ layout.break depth ++ ['}']

/-- The items of an array behind the first, each with the comma in front of it. -/
def writeItems (layout : Layout) (depth : Nat) : List Json → List Char
  | [] => []
  | item :: items =>
    ',' :: layout.break depth ++ write layout depth item ++ writeItems layout depth items

/-- The members of an object behind the first, each with the comma in front of it. -/
def writeMembers (layout : Layout) (depth : Nat) : List (String × Json) → List Char
  | [] => []
  | (key, value) :: members =>
    ',' :: layout.break depth ++ stringText key ++ layout.colon ++ write layout depth value ++
      writeMembers layout depth members

end

/-- The text of a document. -/
def render (layout : Layout) (v : Json) : String := String.ofList (write layout 0 v)

/-! ## Documents that cannot be written -/

/-- Why a document is not written: the number of spaces per level is no index, or an integer has
more digits than are written. -/
inductive DumpFault where
  | noIndex
  | longInteger
  deriving DecidableEq, Repr

/-- The reason in words. -/
def DumpFault.message : DumpFault → String
  | .noIndex => "cannot fit 'int' into an index-sized integer"
  | .longInteger => Text.digitLimitText ""

/-- The first width that is no index any more. -/
def indexBound : Int := 0x8000000000000000

/-- Why the indentation of a layout cannot be made. -/
def Layout.fault? : Layout → Option DumpFault
  | .compact => none
  | .indented width => if width < -indexBound ∨ indexBound ≤ width then some .noIndex else none

mutual

/-- The integers in a value, in the order in which they are written. -/
def integers : Json → List Int
  | .int n => [n]
  | .arr items => itemIntegers items
  | .obj members => memberIntegers members
  | _ => []

/-- The integers in the items of an array. -/
def itemIntegers : List Json → List Int
  | [] => []
  | item :: items => integers item ++ itemIntegers items

/-- The integers in the values of the members of an object. -/
def memberIntegers : List (String × Json) → List Int
  | [] => []
  | (_, value) :: members => integers value ++ memberIntegers members

end

/-- Whether an integer has no more digits than are written. -/
def isShort (n : Int) : Bool := (Text.decimal? n).isSome

/-- Writes a document. The indentation is made first. A text by itself needs none. -/
def dump (layout : Layout) (v : Json) : Except DumpFault String :=
  match v with
  | .str _ => .ok (render layout v)
  | _ =>
    match layout.fault? with
    | some fault => .error fault
    | none => if v.integers.all isShort then .ok (render layout v) else .error .longInteger

end SpannerDdl.Json
