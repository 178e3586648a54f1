import SpannerDdl.Decimal.Binary
import SpannerDdl.Decimal.Reading
import SpannerDdl.Json.Display
import SpannerDdl.Text.Base64
import SpannerDdl.Text.LowerCase
import SpannerDdl.Yaml.Tag

/-! # Scalars

A plain scalar is a constant, a number or a date if it is written like one, and a text otherwise.
Under a tag a scalar is read more freely. Underscores in numbers are left out, and colons separate
digits to the base sixty.

* `Scalar`: the value of a scalar.
* `Tag.ofPlain text`: the kind of value that a plain scalar is written like.
* `Scalar.read tag origin text`: the value of a text under a tag.
* `Scalar.isSameKey`: whether two values are the same key of a map.
* `Scalar.literal`, `Scalar.plain`: a value in a message.
-/

set_option autoImplicit false

namespace SpannerDdl.Yaml

open Text (CodePoints)

/-- The value of a scalar. What is not a number is told apart by the node it comes from; only the
constant has no such node. -/
inductive Scalar where
  | null
  | bool (value : Bool)
  | int (value : Int)
  | float (value : Float)
  | notNumber (origin : Option Nat)
  | str (value : CodePoints)
  | bytes (value : List UInt8)
  | date (value : Date)
  | moment (value : Moment)
  deriving Repr

/-! ## Kinds of plain scalars -/

/-- Words that stand for the same constant in lower case, with a capital and in upper case. -/
def spellings (word : String) : List String := [word, word.capitalize, word.toUpper]

/-- The words for nothing. -/
def nullWords : List String := "" :: "~" :: spellings "null"

/-- The words for truth values. -/
def truthWords : List (String × Bool) :=
  [("yes", true), ("true", true), ("on", true), ("no", false), ("false", false), ("off", false)]

/-- Whether a character is an ASCII digit or an underscore. -/
def isDigitOrGap (c : Char) : Bool := c.isDigit || c == '_'

/-- The parts of a text between colons. -/
def colonParts : List Char → List (List Char)
  | [] => [[]]
  | c :: cs =>
    match colonParts cs with
    | [] => [[]]
    | part :: parts => if c = ':' then [] :: part :: parts else (c :: part) :: parts

/-- Whether a part is a number below sixty of one or two digits. -/
def isSixtieth : List Char → Bool
  | [d] => d.isDigit
  | [t, d] => '0' ≤ t && t ≤ '5' && d.isDigit
  | _ => false

/-- Whether characters without a sign are an integer. -/
def isSize (cs : List Char) : Bool :=
  match cs with
  | '0' :: 'b' :: rest => !rest.isEmpty && rest.all fun c => c == '0' || c == '1' || c == '_'
  | '0' :: 'x' :: rest => !rest.isEmpty && rest.all fun c => (Text.hexValue? c).isSome || c == '_'
  | '0' :: rest => rest.all fun c => '0' ≤ c && c ≤ '7' || c == '_'
  | c :: _ =>
    c.isDigit && match colonParts cs with
      | first :: rest => first.all isDigitOrGap && rest.all isSixtieth
      | [] => false
  | [] => false

/-- Whether characters are nothing or an exponent with its sign. -/
def isExponent : List Char → Bool
  | [] => true
  | e :: sign :: digits =>
    (e == 'e' || e == 'E') && (sign == '+' || sign == '-') && !digits.isEmpty &&
      digits.all Char.isDigit
  | _ => false

/-- Whether characters start with a digit and are digits with gaps, or such digits and numbers
below sixty between colons; the answer tells whether there are colons. -/
def wholeKind? (cs : List Char) : Option Bool :=
  match colonParts cs with
  | first :: rest =>
    if (first.head?.map Char.isDigit).getD false && first.all isDigitOrGap && rest.all isSixtieth then
      some (!rest.isEmpty)
    else none
  | [] => none

/-- Whether characters are a number with a point. One that starts with its point has no sign. -/
def isFloat (cs : List Char) : Bool :=
  let size := (Text.splitSign cs).2
  let behind := (size.dropWhile (· != '.')).drop 1
  let exponent := behind.dropWhile isDigitOrGap
  if !size.contains '.' then false
  else match wholeKind? (size.takeWhile (· != '.')) with
    | some hasColon => if hasColon then exponent.isEmpty else isExponent exponent
    | none =>
      (spellings "inf").contains (String.ofList (size.drop 1)) && size.head? == some '.' ||
        [".nan", ".NaN", ".NAN"].contains (String.ofList cs) ||
        cs.head? == some '.' && (behind.head?.map Char.isDigit).getD false && isExponent exponent

/-! ## Dates -/

/-- At most so many digits that come next, and what follows them. -/
def someDigits (most : Nat) (cs : List Char) : Option (Nat × List Char) :=
  let digits := (cs.takeWhile Char.isDigit).take most
  if digits.isEmpty then none else some (Text.numberOf 10 digits, cs.drop digits.length)

/-- So many digits that come next, and what follows them. -/
def digits (count : Nat) (cs : List Char) : Option (Nat × List Char) :=
  if ((cs.takeWhile Char.isDigit).take count).length = count then someDigits count cs else none

/-- What follows a character. -/
def behind (c : Char) (cs : List Char) : Option (List Char) :=
  if cs.head? = some c then some (cs.drop 1) else none

/-- The microseconds of a fraction of a second, of which six digits count. -/
def microseconds (fraction : List Char) : Nat :=
  Text.numberOf 10 ((fraction ++ List.replicate 6 '0').take 6)

/-- The offset at the end of a moment: none, a letter for zero, or hours and perhaps minutes. -/
def readOffset (cs : List Char) : Option (Option Offset) :=
  match cs.dropWhile isBlank with
  | [] => if cs.isEmpty then some none else none
  | ['Z'] => some (some ⟨0⟩)
  | sign :: rest => do
    if sign != '+' && sign != '-' then none
    let (hours, rest) ← someDigits 2 rest
    let minutes ← if rest.isEmpty then some 0 else do
      let (minutes, rest) ← digits 2 (← behind ':' rest)
      if rest.isEmpty then some minutes else none
    let size : Int := 60 * hours + minutes
    return some ⟨if sign == '-' then -size else size⟩

/-- The time of a day and the offset behind it. -/
def readTime (date : Date) (cs : List Char) : Option Moment := do
  let (hour, cs) ← someDigits 2 cs
  let (minute, cs) ← digits 2 (← behind ':' cs)
  let (second, cs) ← digits 2 (← behind ':' cs)
  let (fraction, cs) := match cs with
    | '.' :: rest => (rest.takeWhile Char.isDigit, rest.dropWhile Char.isDigit)
    | _ => ([], cs)
  let offset ← readOffset cs
  return ⟨date, hour, minute, second, microseconds fraction, offset⟩

/-- A date, and the moment if a time follows it. Nothing is checked yet. -/
def readMoment (cs : List Char) : Option (Date × Option Moment) := do
  let (year, cs) ← digits 4 cs
  let (month, cs) ← someDigits 2 (← behind '-' cs)
  let (day, cs) ← someDigits 2 (← behind '-' cs)
  let date : Date := ⟨year, month, day⟩
  match cs with
  | [] => return (date, none)
  | c :: rest =>
    if c == 'T' || c == 't' then return (date, some (← readTime date rest))
    else if isBlank c then return (date, some (← readTime date (rest.dropWhile isBlank)))
    else none

/-- Whether characters are a moment, or a date of ten characters. -/
def isMoment (cs : List Char) : Bool :=
  match readMoment cs with
  | some (_, time) => time.isSome || cs.length == 10
  | none => false

/-! ## Plain scalars -/

/-- A text without the line feed that may end it. -/
def withoutNewline (cs : List Char) : List Char :=
  if cs.getLast? = some '\n' then cs.dropLast else cs

/-- The kind of value that a plain scalar is written like. The signs of nodes are of no kind when
they stand alone. -/
def Tag.ofPlain (text : CodePoints) : Tag :=
  match text.toChars? with
  | none => .str
  | some whole =>
    let cs := withoutNewline whole
    let word := String.ofList cs
    if whole.head? = some '\n' then .str
    else if nullWords.contains word then .null
    else if (truthWords.flatMap fun p => spellings p.1).contains word then .bool
    else if word = "<<" then .merge
    else if word = "=" then .value
    else if ["!", "&", "*"].contains word then .other
    else if isFloat cs then .float
    else if isSize (Text.splitSign cs).2 then .int
    else if isMoment cs then .moment
    else .str

/-! ## Values under a tag -/

/-- The characters of a text, with a question mark for every half. It is no digit and no blank
either. -/
def plainChars (cs : CodePoints) : List Char := cs.map fun n => (Text.char? n).getD '?'

/-- The parts of a text between colons. -/
def partsOf : CodePoints → List CodePoints
  | [] => [[]]
  | n :: ns =>
    match partsOf ns with
    | [] => [[]]
    | part :: parts => if n = ':'.toNat then [] :: part :: parts else (n :: part) :: parts

/-- A text without underscores. -/
def withoutGaps (text : CodePoints) : CodePoints := text.filter (· != '_'.toNat)

/-- The sign of a text, minus or not, and the text behind it. It may not be empty. -/
def splitNumber (text : CodePoints) : Except Fault (Bool × CodePoints) :=
  match text with
  | [] => .error .emptyNumber
  | n :: ns =>
    .ok (if n = '-'.toNat then (true, ns) else if n = '+'.toNat then (false, ns)
      else (false, n :: ns))

/-- The integer of a text to a base. -/
def integerOf (base : Nat) (text : CodePoints) : Except Fault Int :=
  match Text.readInteger base (plainChars text) with
  | .ok n => .ok n
  | .error (.tooLong count) => .error (.tooManyDigits count)
  | .error .malformed => .error (.integer base text)

/-- The number of a text. -/
def floatOf (text : CodePoints) : Except Fault Float :=
  match Decimal.ofChars? (plainChars text) with
  | some x => .ok x
  | none => .error (.float text)

/-- The integer of a text. A zero in front stands for the base eight, or for another base with a
letter behind it. -/
def readInt (text : CodePoints) : Except Fault Int := do
  let (negative, size) ← splitNumber (withoutGaps text)
  let n ←
    if size == .ofString "0" then .ok 0
    else if (CodePoints.ofString "0b").isPrefixOf size then integerOf 2 (size.drop 2)
    else if (CodePoints.ofString "0x").isPrefixOf size then integerOf 16 (size.drop 2)
    else match size with
      | [] => .error .emptyNumber
      | first :: _ =>
        if first = '0'.toNat then integerOf 8 size
        else do
          let parts ← (partsOf size).mapM (integerOf 10)
          .ok (parts.foldl (fun n part => n * 60 + part) 0)
  return if negative then -n else n

/-- The greatest power of sixty that is a floating-point number. -/
def powerLimit : Nat := 173

/-- The sum of numbers to the base sixty, the last one first. -/
def sumOfSixty (parts : List Float) : Except Fault Float :=
  if powerLimit + 1 < parts.length then .error .tooManyParts
  else .ok ((parts.reverse.foldl (fun (p : Float × Nat) part =>
    (p.1 + part * Decimal.ofInt p.2, p.2 * 60)) (0.0, 1)).1)

/-- The number of a text. -/
def readFloat (origin : Nat) (text : CodePoints) : Except Fault Scalar := do
  let (negative, size) ← splitNumber (Text.lower (withoutGaps text))
  if size == .ofString ".nan" then return .notNumber none
  else
    let x ←
      if size == .ofString ".inf" then .ok (1.0 / 0.0)
      else match partsOf size with
        | [_] => floatOf size
        | parts => do sumOfSixty (← parts.mapM floatOf)
    return if x.isNaN then .notNumber (some origin) else .float (if negative then -x else x)

/-- The truth value of a word in any case. -/
def readBool (text : CodePoints) : Except Fault Bool :=
  let word := Text.lower text
  match word.toString?.bind (List.lookup · truthWords) with
  | some b => .ok b
  | none => .error (.truthValue word)

/-- The bytes of a text of ASCII characters. -/
def readBytes (text : CodePoints) : Except Fault (List UInt8) :=
  if text.all (· < 0x80) then
    match Text.Base64.decode? (plainChars text) with
    | some bytes => .ok bytes
    | none => .error .malformed
  else .error .malformed

/-- The date or moment of a text. -/
def readDate (text : CodePoints) : Except Fault Scalar :=
  match readMoment (withoutNewline (plainChars text)) with
  | none => .error .noMoment
  | some (_, some m) => (m.check.map .moment).mapError .moment
  | some (d, none) => (d.check.map .date).mapError .moment

namespace Scalar

/-- The value of a text under the tag of a scalar. Under any other tag there is none. -/
def read (tag : Tag) (origin : Nat) (text : CodePoints) : Except Fault Scalar :=
  match tag with
  | .null => .ok .null
  | .bool => (readBool text).map .bool
  | .int => (readInt text).map .int
  | .float => readFloat origin text
  | .binary => (readBytes text).map .bytes
  | .moment => readDate text
  | .str => .ok (.str text)
  | _ => .error .malformed

/-! ## Equal keys -/

/-- The number that a value counts as: truth values count as one and zero, and a floating-point
number counts as an integer if it is whole. -/
def asInt? : Scalar → Option Int
  | .bool true => some 1
  | .bool false => some 0
  | .int n => some n
  | .float x => if x.floor == x then Decimal.truncate? x else none
  | _ => none

/-- Whether two values are the same key of a map. -/
def isSameKey (v w : Scalar) : Bool :=
  match v, w with
  | .null, .null => true
  | .str s, .str t => s == t
  | .bytes s, .bytes t => s == t
  | .date d, .date e => d == e
  | .moment m, .moment n => m.isSame n
  | .notNumber a, .notNumber b => a == b
  | .float x, .float y => x == y
  | v, w =>
    match v.asInt?, w.asInt? with
    | some m, some n => m == n
    | _, _ => false

/-! ## In messages -/

/-- A value as it stands inside a message. -/
def literal : Scalar → Except Fault String
  | .null => .ok "None"
  | .bool true => .ok "True"
  | .bool false => .ok "False"
  | .int n =>
    match Text.decimal? n with
    | some text => .ok text
    | none => .error .tooLargeToShow
  | .float x => .ok (Json.messageStyle.text x)
  | .notNumber _ => .ok Json.messageStyle.nan
  | .str s => .ok (Text.quotedPoints s)
  | .bytes bs => .ok (Text.quotedBytes bs)
  | .date d => .ok d.literal
  | .moment m => .ok m.literal

/-- A value as text: a string is its own text, a date is written in digits, any other value has its
message form. -/
def plain : Scalar → Except Fault CodePoints
  | .str s => .ok s
  | .date d => .ok (.ofString d.text)
  | .moment m => .ok (.ofString m.text)
  | v => v.literal.map .ofString

end Scalar

end SpannerDdl.Yaml
