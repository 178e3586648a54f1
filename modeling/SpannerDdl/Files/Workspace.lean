import SpannerDdl.Files.Pathname
import SpannerDdl.Text.Quoted
import SpannerDdl.Text.Utf8

/-! # Workspaces

A workspace is what a command sees of the file system: a working directory and what lies under
each place. Places are lists of parts from the top; commands name them by paths.

* `Entry`, `Workspace`: what is at a place, and the whole.
* `Workspace.ofFiles cwd files`: the working directory with the given files in it.
* `Workspace.entry w path`: what a path leads to.
* `Workspace.read w path`: the text of a file, or why there is none.
* `Workspace.write w path text`: where a text is written, or why it cannot be.
-/

set_option autoImplicit false

namespace SpannerDdl

/-- What is at a place. A device is read like a file but is none. A place behind a file has a file
where a directory would have to be. What has no place is not there for a fault of its path. -/
inductive Entry where
  | file (content : List UInt8)
  | device (content : List UInt8)
  | directory
  | absent
  | behindFile
  | noPlace (fault : PathFault)
  deriving DecidableEq, Repr

/-- A working directory and what is at each place. -/
structure Workspace where
  cwd : Pathname
  find : List String → Entry

namespace Workspace

/-! ## Files of a working directory -/

/-- What is at a place if there are the given files and no empty directories but the working
directory. -/
def entryOfFiles (cwd : List String) (files : List (List String × List UInt8))
    (place : List String) : Entry :=
  match files.lookup place with
  | some content => .file content
  | none =>
    if place.isPrefixOf cwd || files.any (place.isPrefixOf ·.1) then .directory
    else if files.any (·.1.isPrefixOf place) then .behindFile
    else .absent

/-- The working directory with the given files, named from there. -/
def ofFiles (cwd : Pathname) (files : List (String × List UInt8)) : Workspace where
  cwd := cwd
  find := entryOfFiles cwd.parts
    (files.map fun f => (((Pathname.ofText f.1).within cwd).parts, f.2))

/-! ## Paths -/

/-- What the pieces of a path lead to from a place whose parts are kept in reverse. Every piece
but the last has to lead to a directory, and an empty piece leads nowhere. -/
def follow (w : Workspace) (above : List String) : List String → Entry
  | [] => w.find above.reverse
  | piece :: pieces =>
    match w.find above.reverse with
    | .directory =>
      if piece = "" || piece = "." then follow w above pieces
      else if piece = ".." then follow w above.tail pieces
      else if Pathname.isLongName piece then .noPlace .tooLong
      else follow w (piece :: above) pieces
    | .file _ => .behindFile
    | .device _ => .behindFile
    | .absent => .absent
    | .behindFile => .behindFile
    | .noPlace fault => .noPlace fault

/-- What a path leads to. -/
def entry (w : Workspace) (path : String) : Entry :=
  if Pathname.holdsNul path then .noPlace .holdsNul
  else if path = "" then .absent
  else if Pathname.isLong path then .noPlace .tooLong
  else if Pathname.rootOf path = "" then
    w.follow w.cwd.parts.reverse (Pathname.pieces path)
  else w.follow [] (Pathname.pieces path)

/-! ## Reading -/

end Workspace

/-- Why a file cannot be read. -/
inductive ReadFault where
  | absent
  | directory
  | behindFile
  | noPlace (fault : PathFault)
  | notText (fault : Text.Utf8.Fault)
  deriving DecidableEq, Repr

/-- The reason in words. -/
def ReadFault.message : ReadFault → String
  | .absent => "No such file or directory"
  | .directory => "Is a directory"
  | .behindFile => "Not a directory"
  | .noPlace fault => fault.message
  | .notText fault => fault.message

/-- The text of bytes, with a line feed at the end of every line. -/
def textOfBytes (bytes : List UInt8) : Except Text.Utf8.Fault String :=
  (Text.Utf8.decode bytes).map fun cs => String.ofList (Text.unifyNewlines cs)

/-- The text of an entry. -/
def Entry.read : Entry → Except ReadFault String
  | .file content => (textOfBytes content).mapError .notText
  | .device content => (textOfBytes content).mapError .notText
  | .directory => .error .directory
  | .absent => .error .absent
  | .behindFile => .error .behindFile
  | .noPlace fault => .error (.noPlace fault)

/-- The text of a file. -/
def Workspace.read (w : Workspace) (path : String) : Except ReadFault String :=
  (w.entry path).read

/-! ## Writing -/

/-- A text and the absolute path of the file it is written to. -/
structure Writing where
  path : Pathname
  text : String
  deriving DecidableEq, Repr

/-- Why a file cannot be written: the path is a directory, the directory it should be in is a
file, that directory should itself be in a file, a name is too long, the path holds the character
that ends paths, or the text has no bytes. -/
inductive WriteFault where
  | isDirectory (path : String)
  | fileExists (path : String)
  | notDirectory (path : String)
  | tooLong (path : String)
  | holdsNul
  | noBytes (path : Pathname) (fault : Text.Utf8.Unwritable)
  deriving DecidableEq, Repr

namespace WriteFault

/-- The reason in words, with its number if it is about a path. -/
def message : WriteFault → String
  | .isDirectory path => "[Errno 21] Is a directory: " ++ Text.quoted path
  | .fileExists path => "[Errno 17] File exists: " ++ Text.quoted path
  | .notDirectory path => "[Errno 20] Not a directory: " ++ Text.quoted path
  | .tooLong path => PathFault.tooLongText path
  | .holdsNul => PathFault.holdsNul.message
  | .noBytes _ fault => fault.message

/-- What is written all the same: a file is emptied before its text is looked at. -/
def left? : WriteFault → Option Writing
  | .noBytes path _ => some ⟨path, ""⟩
  | _ => none

end WriteFault

/-- A text that ends in a line feed. -/
def withNewline (text : String) : String :=
  if text.endsWith "\n" then text else text ++ "\n"

namespace Workspace

/-- How many of the parts on the way to a place lead to directories. -/
def depth (w : Workspace) (parts : List String) : Nat :=
  (((List.range parts.length).map fun n => parts.take (n + 1)).takeWhile
    (w.find · == .directory)).length

/-- The path that a name on the way to a file is too long for. Missing directories are made one by
one; if not even the first of them can be made, the whole way is refused. -/
def longPath? (w : Workspace) (target : Pathname) : Option Pathname :=
  let way := target.parts.dropLast
  match way.findIdx? Pathname.isLongName with
  | some n => some ⟨target.root, if n = w.depth way then way else way.take (n + 1)⟩
  | none => if target.parts.any Pathname.isLongName then some target else none

/-- Writes a text to a file, ended by a line feed. Missing directories are made. -/
def write (w : Workspace) (path : Pathname) (text : String) : Except WriteFault Writing :=
  let target := path.within w.cwd
  let parent : Pathname := ⟨target.root, target.parts.dropLast⟩
  if path.parts.any Pathname.holdsNul then .error .holdsNul
  else if Pathname.isLong parent.text then .error (.tooLong parent.text)
  else match w.find parent.parts, w.find target.parts with
  | .file _, _ => .error (.fileExists parent.text)
  | .device _, _ => .error (.fileExists parent.text)
  | .behindFile, _ => .error (.notDirectory parent.text)
  | _, .directory => .error (.isDirectory target.text)
  | _, _ =>
    match w.longPath? target, Text.Utf8.unwritable? text.toList with
    | some long, _ => .error (.tooLong long.text)
    | none, some fault => .error (.noBytes target fault)
    | none, none => .ok ⟨target, withNewline text⟩

end Workspace

end SpannerDdl
