import SpannerDdl.Text.Quoted

/-! # Pathnames

* `Pathname`: a path by its parts; repeated slashes and parts that are a single point are left out.
* `Pathname.ofText s`, `Pathname.text p`: between paths and their text.
* `Pathname.within p base`: the path as seen from a directory, without any part `..`.
* `PathFault`: why a text is no path that can be followed; `Pathname.isLongName`, `Pathname.isLong`,
  `Pathname.holdsNul` tell.
-/

set_option autoImplicit false

namespace SpannerDdl

/-- A path by its root, which is empty for a relative path, and its parts. -/
structure Pathname where
  root : String := ""
  parts : List String := []
  deriving DecidableEq, Repr

namespace Pathname

/-- The texts between slashes. -/
def pieces (s : String) : List String := s.splitOn "/"

/-- The root of a path: two slashes are kept, any other number of them counts as one. -/
def rootOf (s : String) : String :=
  match s.toList with
  | '/' :: '/' :: '/' :: _ => "/"
  | '/' :: '/' :: _ => "//"
  | '/' :: _ => "/"
  | _ => ""

/-- The path that a text writes. -/
def ofText (s : String) : Pathname where
  root := rootOf s
  parts := (pieces s).filter fun piece => piece != "" && piece != "."

/-- The text of a path; a path without parts is the current directory. -/
def text (p : Pathname) : String :=
  if p.root == "" && p.parts.isEmpty then "." else p.root ++ "/".intercalate p.parts

/-- The parts below the root of a directory tree, where `..` takes back the part before it. The
parts passed over are kept in reverse. -/
def climb (above : List String) : List String → List String
  | [] => above.reverse
  | part :: parts =>
    if part = ".." then climb above.tail parts else climb (part :: above) parts

/-- The path as seen from a directory: an absolute path stays absolute, and every part `..` takes
back the part before it. -/
def within (p base : Pathname) : Pathname :=
  if p.root == "" then ⟨base.root, climb base.parts.reverse p.parts⟩ else ⟨p.root, climb [] p.parts⟩

/-! ## Paths that cannot be followed -/

/-- Whether a name has more bytes than a file system keeps. -/
def isLongName (name : String) : Bool := decide (255 < name.utf8ByteSize)

/-- Whether a path has more bytes than are looked at. -/
def isLong (path : String) : Bool := decide (4096 ≤ path.utf8ByteSize)

/-- Whether a text holds the character that ends a path where paths are stored. -/
def holdsNul (path : String) : Bool := path.toList.contains (Char.ofNat 0)

/-- A name of one letter is a single piece. -/
theorem pieces_letter {name : String} (h : name = "a" ∨ name = "b") : pieces name = [name] := by
  obtain rfl | rfl := h <;>
  · show String.splitOnAux _ "/" 0 0 0 [] = _
    -- one round passes the letter, the next one is at the end
    unfold String.splitOnAux
    rw [if_neg (by decide +kernel), if_neg (by decide +kernel)]
    unfold String.splitOnAux
    rw [if_pos (by decide +kernel)]
    decide +kernel

end Pathname

/-- Why a path names no place: it is too long or one of its names is, or it holds the character
that ends paths. -/
inductive PathFault where
  | tooLong
  | holdsNul
  deriving DecidableEq, Repr

namespace PathFault

/-- The reason in words. -/
def message : PathFault → String
  | .tooLong => "File name too long"
  | .holdsNul => "embedded null byte"

/-- The reason in words with its number and the path that is too long. -/
def tooLongText (path : String) : String :=
  "[Errno 36] " ++ message .tooLong ++ ": " ++ Text.quoted path

end PathFault

end SpannerDdl
