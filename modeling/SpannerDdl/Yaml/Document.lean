import SpannerDdl.Yaml.Scalar

/-! # YAML documents

The value of a document is a graph: collections are numbered, and values refer to them by number, so
that one collection may stand at several places, even inside itself.

* `Value`, `Collection`, `Document`: the parts.
* `Document.pairs? d v`: the pairs of a value that is a map.
* `Tree`: a value with all its parts, as deep as it goes; `Document.tree`.
* `Tree.literal`, `Tree.plain`: a value in a message.
-/

set_option autoImplicit false

namespace SpannerDdl.Yaml

open Text (CodePoints)

/-! ## Documents -/

/-- A value: that of a scalar, or a collection by its number. -/
inductive Value where
  | scalar (value : Scalar)
  | part (id : Nat)
  deriving Repr

/-- A collection. A map and a set have no two equal keys. -/
inductive Collection where
  | list (items : List Value)
  | pairs (items : List (Value × Value))
  | map (pairs : List (Scalar × Value))
  | set (members : List Scalar)
  deriving Repr

/-- A value and the collections by their numbers. -/
structure Document where
  root : Value
  parts : Array (Option Collection) := #[]
  deriving Repr

namespace Document

/-- The pairs of a value, if it is a map. -/
def pairs? (d : Document) (v : Value) : Option (List (Scalar × Value)) :=
  match v with
  | .scalar _ => none
  | .part id =>
    match d.parts[id]?.join with
    | some (.map pairs) => some pairs
    | _ => none

/-- The value under a text among pairs. -/
def lookup (pairs : List (Scalar × Value)) (key : String) : Option Value :=
  (pairs.find? fun p => p.1.isSameKey (.str (.ofString key))).map Prod.snd

end Document

/-! ## Trees -/

/-- A value with all its parts. Where a collection stands inside itself only its kind is kept. -/
inductive Tree where
  | scalar (value : Scalar)
  | list (items : List Tree)
  | pairs (items : List (Tree × Tree))
  | map (pairs : List (Scalar × Tree))
  | set (members : List Scalar)
  | again (isMap : Bool)
  deriving Inhabited, Repr

/-- The tree of a value inside of collections with the given numbers. -/
def Document.treeIn (d : Document) : Nat → List Nat → Value → Tree
  | 0, _, _ => .again false
  | fuel + 1, outer, v =>
    match v with
    | .scalar s => .scalar s
    | .part id =>
      let inner := d.treeIn fuel (id :: outer)
      let isAgain := outer.contains id
      match d.parts[id]?.join with
      | none => .again false
      | some (.list items) => if isAgain then .again false else .list (items.map inner)
      | some (.pairs items) =>
        if isAgain then .again false
        else .pairs (items.map fun p => (inner p.1, inner p.2))
      | some (.map pairs) =>
        if isAgain then .again true else .map (pairs.map fun p => (p.1, inner p.2))
      | some (.set members) => .set members

/-- The tree of a value. No collection is opened inside itself, so that the number of collections
bounds the depth. -/
def Document.tree (d : Document) (v : Value) : Tree := d.treeIn (d.parts.size + 2) [] v

/-! ## In messages -/

namespace Tree

/-- Texts between brackets, with commas between them. -/
def enclosed (opening closing : String) (texts : List String) : String :=
  opening ++ ", ".intercalate texts ++ closing

mutual

/-- A value as it stands inside a message. -/
def literal : Tree → Except Fault String
  | .scalar s => s.literal
  | .list items => (literals items).map (enclosed "[" "]")
  | .pairs items => (tupleLiterals items).map (enclosed "[" "]")
  | .map items => (pairLiterals items).map (enclosed "\x7b" "\x7d")
  | .set members =>
    if members.isEmpty then .ok "set()"
    else (members.mapM Scalar.literal).map (enclosed "\x7b" "\x7d")
  | .again true => .ok "\x7b...\x7d"
  | .again false => .ok "[...]"

/-- The items of a list as they stand inside a message. -/
def literals : List Tree → Except Fault (List String)
  | [] => .ok []
  | item :: items => do return (← literal item) :: (← literals items)

/-- Pairs as they stand inside a message, each in parentheses. -/
def tupleLiterals : List (Tree × Tree) → Except Fault (List String)
  | [] => .ok []
  | (first, second) :: items => do
    let texts := [← literal first, ← literal second]
    return enclosed "(" ")" texts :: (← tupleLiterals items)

/-- The pairs of a map as they stand inside a message. -/
def pairLiterals : List (Scalar × Tree) → Except Fault (List String)
  | [] => .ok []
  | (key, value) :: items => do
    let text := (← key.literal) ++ ": " ++ (← literal value)
    return text :: (← pairLiterals items)

end

/-- A value as text: a scalar as its own text, a collection as it stands inside a message. -/
def plain : Tree → Except Fault CodePoints
  | .scalar s => s.plain
  | t => t.literal.map .ofString

end Tree

end SpannerDdl.Yaml
