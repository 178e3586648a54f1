import SpannerDdl.Text.Pieces
import SpannerDdl.Yaml.Construction

/-! # YAML texts in bytes

A text is read piece by piece as its tokens are asked for. So a piece that is no text, or that holds
a character which may not stand in one, is a fault only if nothing in front of it is.

* `isAllowed`: the characters that a text may hold.
* `Cursor.ofBytes bytes`: the start of the text, cut short at the first bad piece.
* `Document.ofBytes bytes`: the document that bytes hold.
-/

set_option autoImplicit false

namespace SpannerDdl.Yaml

/-- The characters that a text may hold: no control characters but tab and line ends, and not the
last two of the basic plane. -/
def isAllowed (c : Char) : Bool :=
  let n := c.toNat
  c == '\t' || c == '\n' || c == '\r' || 0x20 ≤ n && n ≤ 0x7E || n == 0x85 ||
    0xA0 ≤ n && n ≤ 0xFFFD || 0x10000 ≤ n

/-- The characters of pieces up to the first bad one, and the fault there. The fault behind the last
piece is given. -/
def joinPieces (last : Option Fault) : List (List Char) → List Char × Option Fault
  | [] => ([], last)
  | piece :: more =>
    if piece.all isAllowed then
      let (cs, fault) := joinPieces last more
      (piece ++ cs, fault)
    else ([], some .malformed)

/-- The start of the text that bytes hold. Its first two pieces are read at once. -/
def Cursor.ofBytes (bytes : List UInt8) : Cursor :=
  let (pieces, fault) := Text.pieces bytes
  let last := fault.map Fault.notText
  let (cs, cut) := match pieces, last with
    | [], _ => ([], last)
    | [_], some _ => ([], last)
    | [piece], none => joinPieces none [piece]
    | first :: second :: more, _ => joinPieces last ((first ++ second) :: more)
  { rest := cs, cut }

/-- The document that bytes hold. -/
def Document.ofBytes (bytes : List UInt8) : Except Fault Document := do
  let (graph, root) ← Graph.ofTokens (.ofCursor (.ofBytes bytes))
  Document.ofGraph graph root

end SpannerDdl.Yaml
