import SpannerDdl.Yaml.Scalar
import SpannerDdl.Yaml.Token

/-! # The nodes of a YAML document

A document is a graph of numbered nodes: an alias stands for the very node of its anchor, even inside
that node.

* `Node`, `Graph`: a node by its tag and what it holds, and the nodes of a document.
* `Graph.Reader`: reading nodes off tokens.
* `Graph.ofTokens t`: the nodes of the only document among tokens, and the number of its root.
-/

set_option autoImplicit false

namespace SpannerDdl.Yaml

open Text (CodePoints)

/-- What a node holds: a text, or other nodes by their numbers. -/
inductive Content where
  | scalar (text : CodePoints)
  | list (items : List Nat)
  | map (pairs : List (Nat × Nat))
  deriving DecidableEq, Repr

/-- A node by the kind of value it stands for and what it holds. -/
structure Node where
  tag : Tag
  content : Content
  deriving DecidableEq, Repr

/-- The nodes of a document by their numbers. -/
abbrev Graph := Array Node

namespace Graph

/-! ## Readers -/

/-- Tokens to be read and the fault behind the last of them, what handles stand for, the anchors so
far, and the nodes so far. -/
structure State where
  tokens : List Token
  fault : Fault := .malformed
  handles : Handles := Handles.standard
  anchors : List (String × Nat) := []
  nodes : Graph := #[]
  deriving Repr

/-- A reader takes tokens and adds nodes. -/
abbrev Reader := StateT State (Except Fault)

/-- The next token. -/
def next : Reader Token := do
  let s ← get
  match s.tokens with
  | t :: _ => return t
  | [] => throw s.fault

/-- Passes over the next token. -/
def pass : Reader Unit := modify fun s => { s with tokens := s.tokens.tail }

/-- Whether the next token is one of the given ones. -/
def isAt (ts : List Token) : Reader Bool := return ts.contains (← next)

/-- Passes over a token if it comes next, which is told. -/
def passIf (t : Token) : Reader Bool := do
  if (← next) = t then
    pass
    return true
  else return false

/-- Passes over a token, which has to come next. -/
def expect (t : Token) : Reader Unit := do
  if !(← passIf t) then throw .malformed

/-- Adds a node. -/
def add (tag : Tag) (content : Content) : Reader Nat := do
  let s ← get
  set { s with nodes := s.nodes.push ⟨tag, content⟩ }
  return s.nodes.size

/-- The node where none is written. -/
def addEmpty : Reader Nat := add .null (.scalar [])

/-- Gives a node what it holds. -/
def fill (id : Nat) (content : Content) : Reader Unit :=
  modify fun s => { s with nodes := s.nodes.modify id ({ · with content }) }

/-- Gives a name to a node. A name can be given once. -/
def name (anchor : Option String) (id : Nat) : Reader Unit := do
  match anchor with
  | none => return
  | some a =>
    let s ← get
    if (s.anchors.lookup a).isSome then throw .malformed
    else set { s with anchors := (a, id) :: s.anchors }

/-! ## Properties -/

/-- The anchor and the tag in front of a node. -/
structure Properties where
  anchor : Option String := none
  tag : Option String := none

/-- The anchor that comes next, if there is one. -/
def readAnchor : Reader (Option String) := do
  match ← next with
  | .anchor a =>
    pass
    return some a
  | _ => return none

/-- The tag that comes next, if there is one. -/
def readTag : Reader (Option WrittenTag) := do
  match ← next with
  | .tag t =>
    pass
    return some t
  | _ => return none

/-- The anchor and the tag that come next, in either order. The handle of the tag has to be
known. -/
def readProperties : Reader Properties := do
  let before ← readAnchor
  let written ← readTag
  let anchor ← if before.isNone && written.isSome then readAnchor else pure before
  match written with
  | none => return ⟨anchor, none⟩
  | some t =>
    match t.fullText? (← get).handles with
    | none => throw .malformed
    | some text => return ⟨anchor, some text⟩

/-- Whether a node with a tag is what it is written like. -/
def Properties.isUnspecific (p : Properties) : Bool :=
  p.tag.isNone || p.tag == some unspecificMark

/-- The kind of value of a list or a map. -/
def Properties.tagOr (p : Properties) (usual : Tag) : Tag :=
  if p.isUnspecific then usual else (p.tag.map Tag.ofText).getD usual

/-- The kind of value of a scalar. Without a tag only a plain one is what it is written like. -/
def Properties.tagOfScalar (p : Properties) (text : CodePoints) (isPlain : Bool) : Tag :=
  if p.tag.isNone && !isPlain then .str else p.tagOr (.ofPlain text)

/-! ## Nodes -/

/-- Where a node stands: inside brackets, as a part of a block, or as a part of a map in a block,
where the items of a list need not be indented. -/
inductive Context where
  | flow
  | block
  | blockMap
  deriving DecidableEq, Repr

/-- Adds a node that holds others, which may refer to it, and reads what it holds. -/
def around (p : Properties) (usual : Tag) (empty : Content) (read : Reader Content) :
    Reader Nat := do
  let id ← add (p.tagOr usual) empty
  name p.anchor id
  fill id (← read)
  return id

mutual

/-- The node that comes next. -/
def read (context : Context) : Nat → Reader Nat
  | 0 => throw .malformed
  | fuel + 1 => do
    match ← next with
    | .alias a =>
      match (← get).anchors.lookup a with
      | some id =>
        pass
        return id
      | none => throw .malformed
    | _ =>
      let p ← readProperties
      readContent context p fuel

/-- The node behind its anchor and its tag. With either of them it may be empty. -/
def readContent (context : Context) (p : Properties) : Nat → Reader Nat
  | 0 => throw .malformed
  | fuel + 1 => do
    let list (read : Reader (List Nat)) := around p .list (.list []) (.list <$> read)
    let map (read : Reader (List (Nat × Nat))) := around p .map (.map []) (.map <$> read)
    let scalar (text : CodePoints) (isPlain : Bool) : Reader Nat := do
      let id ← add (p.tagOfScalar text isPlain) (.scalar text)
      name p.anchor id
      return id
    match ← next, context with
    | .scalar text isPlain, _ =>
      pass
      scalar text isPlain
    | .openList, _ =>
      list do
        pass
        readList true fuel
    | .openMap, _ =>
      map do
        pass
        readMap true fuel
    | .item, .blockMap => list (readBlockList false fuel)
    | .openBlockList, context =>
      if context = .flow then readEmpty p
      else list do
        pass
        readBlockList true fuel
    | .openBlockMap, context =>
      if context = .flow then readEmpty p
      else map do
        pass
        readBlockMap fuel
    | _, _ => readEmpty p

/-- The node that is only an anchor or a tag. -/
def readEmpty (p : Properties) : Reader Nat := do
  if p.anchor.isNone && p.tag.isNone then throw .malformed
  let id ← add (p.tagOfScalar [] true) (.scalar [])
  name p.anchor id
  return id

/-- The node that comes next, or the empty node in front of one of the given tokens. -/
def readUnless (stop : List Token) (context : Context) : Nat → Reader Nat
  | 0 => throw .malformed
  | fuel + 1 => do if ← isAt stop then addEmpty else read context fuel

/-- The node behind a colon, or the empty node if there is no colon. -/
def readValue (stop : List Token) (context : Context) : Nat → Reader Nat
  | 0 => throw .malformed
  | fuel + 1 => do if ← passIf .value then readUnless stop context fuel else addEmpty

/-- The items of a list in a block, which is closed if it was opened. -/
def readBlockList (isOpened : Bool) : Nat → Reader (List Nat)
  | 0 => throw .malformed
  | fuel + 1 => do
    if ← passIf .item then
      let stop := if isOpened then [.item, .closeBlock] else [.item, .key, .value, .closeBlock]
      let id ← readUnless stop .block fuel
      return id :: (← readBlockList isOpened fuel)
    else
      if isOpened then expect .closeBlock
      return []

/-- The pairs of a map in a block. -/
def readBlockMap : Nat → Reader (List (Nat × Nat))
  | 0 => throw .malformed
  | fuel + 1 => do
    let stop := [.key, .value, .closeBlock]
    if ← passIf .key then
      let key ← readUnless stop .blockMap fuel
      let value ← readValue stop .blockMap fuel
      return (key, value) :: (← readBlockMap fuel)
    else
      expect .closeBlock
      return []

/-- The items of a list in brackets. A pair among them is a map of its own. -/
def readList (isFirst : Bool) : Nat → Reader (List Nat)
  | 0 => throw .malformed
  | fuel + 1 => do
    if ← passIf .closeList then return []
    if !isFirst then expect .comma
    if ← isAt [.key] then
      let id ← around {} .map (.map []) do
        pass
        let key ← readUnless [.value, .comma, .closeList] .flow fuel
        let value ← readValue [.comma, .closeList] .flow fuel
        return .map [(key, value)]
      return id :: (← readList false fuel)
    else if ← passIf .closeList then return []
    else
      let id ← read .flow fuel
      return id :: (← readList false fuel)

/-- The pairs of a map in brackets. A key may stand without a value. -/
def readMap (isFirst : Bool) : Nat → Reader (List (Nat × Nat))
  | 0 => throw .malformed
  | fuel + 1 => do
    if ← passIf .closeMap then return []
    if !isFirst then expect .comma
    if ← passIf .key then
      let key ← readUnless [.value, .comma, .closeMap] .flow fuel
      let value ← readValue [.comma, .closeMap] .flow fuel
      return (key, value) :: (← readMap false fuel)
    else if ← passIf .closeMap then return []
    else
      let key ← read .flow fuel
      let value ← addEmpty
      return (key, value) :: (← readMap false fuel)

end

/-! ## Documents -/

/-- The directives that come next: at most one version, which has to be 1, and every handle once. -/
def readDirectives (hasVersion : Bool) : Nat → Handles → Reader Handles
  | 0, _ => throw .malformed
  | fuel + 1, handles => do
    match ← next with
    | .directive d =>
      pass
      match d with
      | .version major =>
        if hasVersion || major != 1 then throw .malformed
        readDirectives true fuel handles
      | .handle handle start =>
        if (handles.lookup handle).isSome then throw .malformed
        readDirectives hasVersion fuel ((handle, start) :: handles)
      | .other => readDirectives hasVersion fuel handles
    | _ => return handles

/-- Whether the next token is about documents, not in one. -/
def isAtDocument : Reader Bool := do
  match ← next with
  | .directive _ => return true
  | .documentStart => return true
  | .textEnd => return true
  | _ => return false

/-- The root of the document that comes next. Directives need a line of hyphens behind them. -/
def readRoot (fuel : Nat) : Reader Nat := do
  if ← isAtDocument then
    let handles ← readDirectives false fuel []
    expect .documentStart
    modify fun s => { s with handles := handles ++ Handles.standard }
    if (← isAtDocument) || (← isAt [.documentEnd]) then addEmpty else read .block fuel
  else read .block fuel

/-- Passes over the marks that end documents. -/
def passEnds : Nat → Reader Unit
  | 0 => return
  | fuel + 1 => do if ← passIf .documentEnd then passEnds fuel

/-- What stands behind the document has to be the end of the text. -/
def readEnd (fuel : Nat) : Reader Unit := do
  passEnds fuel
  if !(← isAt [.textEnd]) then
    let _ ← readDirectives false fuel []
    let _ ← next
    throw .malformed

/-- The root of the only document; the empty node if there is none. -/
def readAll (fuel : Nat) : Reader Nat := do
  if ← isAt [.textEnd] then addEmpty
  else
    let root ← readRoot fuel
    readEnd fuel
    return root

/-- The nodes of the only document among tokens, and the number of its root. -/
def ofTokens (t : TokenText) : Except Fault (Graph × Nat) :=
  let fuel := 4 * t.tokens.length + 8
  ((readAll fuel).run { tokens := t.tokens, fault := t.fault.getD .malformed }).map fun p =>
    (p.2.nodes, p.1)

end Graph

end SpannerDdl.Yaml
