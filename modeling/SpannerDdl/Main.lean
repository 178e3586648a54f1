import SpannerDdl.CommandLine.Draw
import SpannerDdl.CommandLine.Export

/-! # The program

The first word names the command; the others are its command line. What the command may look at is
read beforehand, so that the command itself is a function. -/

set_option autoImplicit false

namespace SpannerDdl.Program

/-! ## What a command may look at -/

/-- The files that a command line names. -/
def namedPaths (command : String) (words : List String) : List String :=
  if command = DrawArguments.command then
    match DrawArguments.parse words with
    | .ok a => a.inputPaths ++ a.ddlPaths ++ a.output.toList.map Pathname.text
    | .error _ => []
  else
    match ExportArguments.parse words with
    | .ok a => a.file?.toList
    | .error _ => []

/-- The beginnings of a list, the shortest first. -/
def beginnings (parts : List String) : List (List String) :=
  (List.range (parts.length + 1)).map parts.take

/-- The places on the way to a path, the top first. -/
def placesOf (cwd : Pathname) (path : String) : List (List String) :=
  let start := if Pathname.rootOf path = "" then cwd.parts else []
  let pieces := (Pathname.ofText path).parts
  let onTheWay := (beginnings pieces).map fun way => Pathname.climb start.reverse way
  let target := ((Pathname.ofText path).within cwd).parts
  beginnings start ++ onTheWay ++ beginnings target

/-- What is at a place of the file system, whose parent is known. -/
def look (place : List String) (parent : Entry) : IO Entry := do
  match parent with
  | .file _ => return .behindFile
  | .device _ => return .behindFile
  | .behindFile => return .behindFile
  | .absent => return .absent
  | .noPlace fault => return .noPlace fault
  | .directory =>
    let path ← IO.FS.realPath ("/" ++ "/".intercalate place)
    if ← path.isDir then return .directory
    else if ← path.pathExists then return .file (← IO.FS.readBinFile path).toList
    else return .absent

/-- Adds what is at a place to what is known. -/
def learn (known : List (List String × Entry)) (place : List String) :
    IO (List (List String × Entry)) := do
  if (known.lookup place).isSome then return known
  else
    let parent :=
      if place.isEmpty then Entry.directory else (known.lookup place.dropLast).getD .absent
    let entry ← try look place parent catch _ => pure .absent
    return (place, entry) :: known

/-- What a command may look at. -/
def workspace (paths : List String) : IO Workspace := do
  let cwd := Pathname.ofText (← IO.currentDir).toString
  let known ← (paths.flatMap (placesOf cwd)).foldlM learn []
  return ⟨cwd, fun place => (known.lookup place).getD .absent⟩

/-- The variables that give settings. -/
def environment : IO Environment := do
  return {
    configPath := ← IO.getEnv "SPANNERSPY_CONFIG"
    level := ← IO.getEnv "SPANNERSPY_LOG_LEVEL"
    pretty := ← IO.getEnv "SPANNERSPY_PRETTY"
    indent := ← IO.getEnv "SPANNERSPY_INDENT"
    format := ← IO.getEnv "SPANNERSPY_FORMAT" }

/-- All bytes of a stream. -/
partial def readAll (stream : IO.FS.Stream) (seen : ByteArray) : IO ByteArray := do
  let bytes ← stream.read 65536
  if bytes.isEmpty then return seen else readAll stream (seen ++ bytes)

/-! ## What a command leaves behind -/

/-- Writes the file of a command, with the directories it needs. -/
def write (w : Writing) : IO Unit := do
  IO.FS.createDirAll (⟨w.path.root, w.path.parts.dropLast⟩ : Pathname).text
  IO.FS.writeFile w.path.text w.text

/-- Carries out what a command decided, and gives its exit code. -/
def finish (o : Outcome) : IO UInt32 := do
  o.warnings.forM fun w => IO.eprintln (Text.escapedHalves w.message)
  o.writing.forM write
  IO.eprint o.errors
  IO.print o.output
  match o.ending with
  | .exit code => return UInt32.ofNat code
  | .crash c =>
    IO.eprintln c.message
    return 1

/-- Carries out a command. -/
def run (command : String) (words : List String) : IO UInt32 := do
  let env ← environment
  let paths := namedPaths command words
  let w ← workspace (env.configPath.getD Settings.defaultPath :: Settings.defaultPath :: paths)
  if command = DrawArguments.command then
    finish (draw { words, environment := env, workspace := w })
  else
    let input ← if paths.isEmpty || paths == ["-"] then readAll (← IO.getStdin) ByteArray.empty
      else pure ByteArray.empty
    finish (exportDocument { words, environment := env, workspace := w, input := input.toList })

end SpannerDdl.Program

open SpannerDdl in
/-- The program: a command and its command line. -/
def main (words : List String) : IO UInt32 := do
  match words with
  | [] =>
    IO.eprintln s!"usage: {DrawArguments.command} or {ExportArguments.command}, and its arguments"
    return 2
  | command :: words =>
    if [DrawArguments.command, ExportArguments.command].contains command then
      Program.run command words
    else
      IO.eprintln s!"unknown command: {command}"
      return 2
