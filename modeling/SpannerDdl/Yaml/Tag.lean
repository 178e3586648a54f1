import SpannerDdl.Yaml.Cursor

/-! # Tags and directives

A tag tells what kind of value a node has. In a text it is written in full between angle brackets,
or as a handle and a suffix; directives in front of a document say what the handles stand for.

* `Tag`: the kinds of value, `Tag.ofText` from the full text of a tag.
* `WrittenTag`: a tag as it is written, `WrittenTag.read`.
* `Directive`: a directive, `Directive.read`.
* `Handles`: what handles stand for, `WrittenTag.fullText?`.
-/

set_option autoImplicit false

namespace SpannerDdl.Yaml

/-! ## Kinds of value -/

/-- The kinds of value that tags stand for. The sign of a merge and the sign of a value are plain
scalars of their own. -/
inductive Tag where
  | null
  | bool
  | int
  | float
  | binary
  | moment
  | str
  | list
  | map
  | set
  | orderedMap
  | pairs
  | merge
  | value
  | other
  deriving DecidableEq, Repr

namespace Tag

/-- The tags that start with the same words, by what follows them. -/
def core : List (String × Tag) :=
  [("null", .null), ("bool", .bool), ("int", .int), ("float", .float), ("binary", .binary),
    ("timestamp", .moment), ("str", .str), ("seq", .list), ("map", .map), ("set", .set),
    ("omap", .orderedMap), ("pairs", .pairs), ("merge", .merge), ("value", .value)]

/-- The words that these tags start with. -/
def coreStart : String := "tag:yaml.org,2002:"

/-- The kind of value of a tag in full. -/
def ofText (text : String) : Tag :=
  ((core.find? fun p => coreStart ++ p.1 == text).map Prod.snd).getD .other

end Tag

/-! ## Addresses -/

/-- The characters that a tag may hold in full, apart from escapes. -/
def isTagChar (c : Char) : Bool := c.isAlphanum || "-;/?:@&=+$,_.!~*'()[]".toList.contains c

/-- The bytes of the escapes that come next: a percent sign and two hexadecimal digits each. -/
def escapedBytes : Nat → Cursor → Except Fault (List UInt8 × Cursor)
  | 0, c => .ok ([], c)
  | fuel + 1, c =>
    if c.peek != some '%' then .ok ([], c)
    else
      let (digits, _) := c.next.span fun ch => (Text.hexValue? ch).isSome
      let digits := digits.take 2
      let c := c.next.forward digits.length
      if digits.length < 2 then c.refuse
      else (escapedBytes fuel c).map fun p => (UInt8.ofNat (Text.numberOf 16 digits) :: p.1, p.2)

/-- The characters of a tag that come next. The bytes of escapes that follow each other are text. -/
def tagChars : Nat → Cursor → Except Fault (List Char × Cursor)
  | 0, c => .ok ([], c)
  | fuel + 1, c => do
    let (plain, c) := c.span isTagChar
    if c.peek == some '%' then
      let (bytes, c) ← escapedBytes (c.rest.length + 1) c
      match Text.Utf8.decode bytes with
      | .error _ => .error .malformed
      | .ok escaped =>
        let (more, c) ← tagChars fuel c
        return (plain ++ escaped ++ more, c)
    else return (plain, c)

/-- The text of a tag that comes next, which may not be empty. -/
def tagText (c : Cursor) : Except Fault (String × Cursor) := do
  let (cs, behind) ← tagChars (c.rest.length + 1) c
  if cs.isEmpty then c.refuse else return (String.ofList cs, behind)

/-! ## Written tags -/

/-- A tag as it is written. One that is written in full has no handle. -/
structure WrittenTag where
  handle : Option String
  suffix : String
  deriving DecidableEq, Repr

/-- The mark that asks for no kind of value in particular. -/
def unspecificMark : String := "!"

/-- The handle that comes next: an exclamation mark, or a word between two of them. -/
def readHandle (c : Cursor) : Except Fault (String × Cursor) :=
  let inner := c.next
  if c.peek != some '!' then c.refuse
  else if inner.peek = some ' ' then .ok ("!", inner)
  else
    let (word, c) := inner.span isNameChar
    if c.peek = some '!' then .ok ("!" ++ String.ofList word ++ "!", c.next) else c.refuse

namespace WrittenTag

/-- The tag that comes next. Another exclamation mark in it ends its handle. -/
def read (c : Cursor) : Except Fault (WrittenTag × Cursor) := do
  let inner := c.next
  let word := inner.rest.takeWhile fun ch => ch != ' ' && !isBreak ch
  let (tag, c) ←
    if inner.peek = some '<' then do
      let (text, c) ← tagText inner.next
      if c.peek = some '>' then .ok (⟨none, text⟩, c.next) else c.refuse
    else if inner.isAtGap then .ok (⟨none, unspecificMark⟩, inner)
    else do
      let (handle, c) ← if word.contains '!' then readHandle c else .ok ("!", inner)
      let (suffix, c) ← tagText c
      .ok (⟨some handle, suffix⟩, c)
  if c.isAtSpace then return (tag, c) else c.refuse

end WrittenTag

/-! ## Directives -/

/-- What a directive says: the version of the language by its first number, what a handle stands
for, or something that means nothing here. -/
inductive Directive where
  | version (major : Nat)
  | handle (name start : String)
  | other
  deriving DecidableEq, Repr

namespace Directive

/-- The number that comes next. -/
def readNumber (c : Cursor) : Except Fault (Nat × Cursor) :=
  let (digits, behind) := c.span Char.isDigit
  if digits.isEmpty then c.refuse
  else if Text.digitLimit < digits.length then .error (.tooManyDigits digits.length)
  else .ok (Text.numberOf 10 digits, behind)

/-- The numbers of a version, with a point between them. -/
def readVersion (c : Cursor) : Except Fault (Directive × Cursor) := do
  let (major, c) ← readNumber c.skipSpaces
  if c.peek != some '.' then c.refuse
  else
    let (_, c) ← readNumber c.next
    if c.isAtSpace then return (.version major, c) else c.refuse

/-- A handle and what it stands for. -/
def readMeaning (c : Cursor) : Except Fault (Directive × Cursor) := do
  let (name, c) ← readHandle c.skipSpaces
  if c.peek != some ' ' then c.refuse
  else
    let (start, c) ← tagText c.skipSpaces
    if c.isAtSpace then return (.handle name start, c) else c.refuse

/-- The directive that comes next, with its line. -/
def read (c : Cursor) : Except Fault (Directive × Cursor) := do
  let (name, c) := c.next.span isNameChar
  if name.isEmpty || !c.isAtSpace then c.refuse
  else
    let (directive, c) ← match String.ofList name with
      | "YAML" => readVersion c
      | "TAG" => readMeaning c
      | _ => .ok (.other, (c.span (!isBreak ·)).2)
    let c := c.skipSpaces.skipComment
    if c.isAtLineEnd then return (directive, (c.lineBreak?.map Prod.snd).getD c) else c.refuse

end Directive

/-! ## Handles -/

/-- What handles stand for. -/
abbrev Handles := List (String × String)

/-- What two handles stand for unless a directive says otherwise. -/
def Handles.standard : Handles := [("!", "!"), ("!!", Tag.coreStart)]

/-- The tag in full, if its handle is known. -/
def WrittenTag.fullText? (t : WrittenTag) (handles : Handles) : Option String :=
  match t.handle with
  | none => some t.suffix
  | some handle => (handles.lookup handle).map (· ++ t.suffix)

end SpannerDdl.Yaml
