import SpannerDdl.Yaml.Document
import SpannerDdl.Yaml.Graph
import SpannerDdl.Yaml.SetOrder

/-! # From nodes to values

A scalar gets its value when it is met. A collection is met first and gets its parts later, in the
order in which collections are met; so it may stand inside itself. Before a map gets its pairs the
pairs of the maps that are merged into it are put in front of its own.

* `Build`: nodes, the values so far, and the collections that have no parts yet.
* `make`: the value of a node.
* `flatten`: the merging of maps.
* `fill`: the parts of a collection.
* `Document.ofGraph`: the document of a graph.
-/

set_option autoImplicit false

namespace SpannerDdl.Yaml

open Text (CodePoints)

/-! ## States -/

/-- The nodes, the values and the collections that are known, each by the number of its node, and
the collections whose parts are still to be made, the latest first. -/
structure Build where
  graph : Graph
  made : Array (Option Value)
  parts : Array (Option Collection)
  waiting : List Nat := []

/-- A step of the construction. -/
abbrev Builder := StateT Build (Except Fault)

namespace Builder

/-- The node of a number. -/
def node (id : Nat) : Builder Node := do
  match (← get).graph[id]? with
  | some n => return n
  | none => throw .malformed

/-- The pairs of a node, which has to be a map. -/
def pairs (id : Nat) : Builder (List (Nat × Nat)) := do
  match (← node id).content with
  | .map pairs => return pairs
  | _ => throw .malformed

/-- Gives a node other pairs. -/
def setPairs (id : Nat) (pairs : List (Nat × Nat)) : Builder Unit :=
  modify fun s => { s with graph := s.graph.modify id ({ · with content := .map pairs }) }

/-- Gives a node another tag. -/
def setTag (id : Nat) (tag : Tag) : Builder Unit :=
  modify fun s => { s with graph := s.graph.modify id ({ · with tag }) }

/-- The first of some pairs whose key has a tag: its place and its value. -/
def findTag (tag : Tag) (pairs : List (Nat × Nat)) : Builder (Option (Nat × Nat)) := do
  let graph := (← get).graph
  let isFound (p : Nat × Nat) : Bool := (graph[p.1]?.map Node.tag) == some tag
  return (pairs.findIdx? isFound).bind fun i => (pairs[i]?).map fun p => (i, p.2)

/-! ## Values -/

/-- The text of a node. That of a map is the text under its equals sign. A search of more steps than
there are nodes does not end. -/
def text : Nat → Nat → Builder CodePoints
  | 0, _ => throw .endlessText
  | fuel + 1, id => do
    match (← node id).content with
    | .scalar text => return text
    | .list _ => throw .malformed
    | .map pairs =>
      match ← findTag .value pairs with
      | some (_, value) => text fuel value
      | none => throw .malformed

/-- Whether a tag is that of a collection. -/
def isCollection (tag : Tag) : Bool := [Tag.list, .map, .set, .orderedMap, .pairs].contains tag

/-- The value of a scalar node. A date may not be a map. -/
def makeScalar (id : Nat) (n : Node) : Builder Value := do
  let text ← text ((← get).graph.size + 1) id
  match n.tag, n.content with
  | .moment, .map _ => throw .momentOfMap
  | tag, _ =>
    match Scalar.read tag id text with
    | .ok s => return .scalar s
    | .error f => throw f

/-- The value of a node. A collection that is met for the first time has to wait for its parts. -/
def make (id : Nat) : Builder Value := do
  match (← get).made[id]?.join with
  | some v => return v
  | none =>
    let n ← node id
    let v ← if isCollection n.tag then do
        modify fun s => { s with waiting := id :: s.waiting }
        pure (.part id)
      else if [Tag.merge, .value, .other].contains n.tag then throw .malformed
      else makeScalar id n
    modify fun s => { s with made := s.made.setIfInBounds id (some v) }
    return v

/-- The value of a key, which may not be a collection. -/
def makeKey (id : Nat) : Builder Scalar := do
  match ← make id with
  | .scalar s => return s
  | .part _ => throw .malformed

/-! ## Merging -/

/-- Makes the equals signs among the keys of a map texts. -/
def settleValues (pairs : List (Nat × Nat)) : Builder Unit :=
  pairs.forM fun p => do
    if (← node p.1).tag = .value then setTag p.1 .str

mutual

/-- Puts the pairs that are merged into a map in front of its own. -/
def flatten : Nat → Nat → Builder Unit
  | 0, _ => throw .malformed
  | fuel + 1, id => do
    settleValues (← pairs id)
    let merged ← takeMerged fuel id
    if !merged.isEmpty then setPairs id (merged ++ (← pairs id))

/-- Takes the signs of merges out of a map, and gives the pairs that they stand for. -/
def takeMerged : Nat → Nat → Builder (List (Nat × Nat))
  | 0, _ => throw .malformed
  | fuel + 1, id => do
    let own ← pairs id
    match ← findTag .merge own with
    | none => return []
    | some (place, value) =>
      setPairs id (own.eraseIdx place)
      let merged ← mergedPairs fuel value
      return merged ++ (← takeMerged fuel id)

/-- The pairs of a map that is merged into another, or those of a list of maps, the last map
first. -/
def mergedPairs : Nat → Nat → Builder (List (Nat × Nat))
  | 0, _ => throw .malformed
  | fuel + 1, id => do
    match (← node id).content with
    | .scalar _ => throw .malformed
    | .map _ =>
      flatten fuel id
      pairs id
    | .list items =>
      let all ← items.mapM fun item => do
        flatten fuel item
        pairs item
      return all.reverse.flatten

end

/-- The number of pairs of all maps. -/
def pairCount (graph : Graph) : Nat :=
  graph.foldl (fun n node => match node.content with
    | .map pairs => n + pairs.length
    | _ => n) 0

/-! ## Parts -/

/-- Sets the value under a key; a key that is there keeps its place and its form. -/
def put : List (Scalar × Value) → Scalar → Value → List (Scalar × Value)
  | [], key, value => [(key, value)]
  | (k, v) :: rest, key, value =>
    if k.isSameKey key then (k, value) :: rest else (k, v) :: put rest key value

/-- The pairs of a map with their values. Merging makes no new signs of merges, so that the pairs at
first bound its depth. -/
def makePairs (depth : Nat) (id : Nat) : Builder (List (Scalar × Value)) := do
  let _ ← pairs id
  flatten depth id
  (← pairs id).foldlM (fun made p => do return put made (← makeKey p.1) (← make p.2)) []

/-- The only pair of a map with its values. -/
def makePair (id : Nat) : Builder (Value × Value) := do
  match ← pairs id with
  | [p] => return (← make p.1, ← make p.2)
  | _ => throw .malformed

/-- The items of a list. -/
def items (id : Nat) : Builder (List Nat) := do
  match (← node id).content with
  | .list items => return items
  | _ => throw .malformed

/-- The parts of a collection. -/
def parts (depth : Nat) (id : Nat) : Builder Collection := do
  match (← node id).tag with
  | .list => return .list (← (← items id).mapM make)
  | .map => return .map (← makePairs depth id)
  | .set => return .set (inSetOrder ((← makePairs depth id).map Prod.fst))
  | _ => return .pairs (← (← items id).mapM makePair)

/-- Gives a collection its parts. -/
def fill (depth : Nat) (id : Nat) : Builder Unit := do
  let c ← parts depth id
  modify fun s => { s with parts := s.parts.setIfInBounds id (some c) }

/-- Gives all collections their parts: those at hand first, then those that have come to wait. -/
def fillAll (depth : Nat) : Nat → List Nat → Builder Unit
  | 0, _ => return
  | fuel + 1, id :: ids => do
    fill depth id
    fillAll depth fuel ids
  | fuel + 1, [] => do
    match (← get).waiting with
    | [] => return
    | waiting =>
      modify fun s => { s with waiting := [] }
      fillAll depth fuel waiting.reverse

end Builder

/-! ## Documents -/

/-- The document of a graph with a root. Every collection waits once, so that twice the number of
nodes bounds the steps. -/
def Document.ofGraph (graph : Graph) (root : Nat) : Except Fault Document := do
  let empty : Build := {
    graph, made := Array.replicate graph.size none, parts := Array.replicate graph.size none }
  let builder : Builder Value := do
    let v ← Builder.make root
    Builder.fillAll (3 * Builder.pairCount graph + 3) (2 * graph.size + 2) []
    return v
  let (v, s) ← builder.run empty
  return ⟨v, s.parts⟩

end SpannerDdl.Yaml
