import SpannerDdl.Text.DecimalDigit
import SpannerDdl.Text.Quoted

/-! # Options of a command line

A command line is a list of words. A word with a hyphen in front names an option, unless it looks
like a number or holds a space; long names may be cut short as long as they name one option. Behind
the word `--` every word is an argument of its own.

* `OptionSpec`: an option by its names and what it takes.
* `UsageError`: what is wrong with a command line.
* `Room`: how many arguments of their own a command takes.
* `OptionSpec.parse specs room words`: the options, the arguments, and the words that are neither.
-/

set_option autoImplicit false

namespace SpannerDdl

/-! ## Options and errors -/

/-- What an option takes: nothing, a value, or nothing because it asks for help. -/
inductive OptionKind where
  | flag
  | value
  | help
  deriving DecidableEq, Repr

/-- What is wrong with a command line. Options are given by all their names. -/
inductive UsageError where
  | missingValue (option : String)
  | needlessValue (option value : String)
  | unsupportedFormat (option value : String)
  | ambiguous (word : String) (names : List String)
  | unrecognized (words : List String)
  | twoPaths
  deriving DecidableEq, Repr

/-- An error in words. -/
def UsageError.message : UsageError → String
  | .missingValue option => "argument " ++ option ++ ": expected one argument"
  | .needlessValue option value =>
    "argument " ++ option ++ ": ignored explicit argument " ++ Text.quoted value
  | .unsupportedFormat option value =>
    "argument " ++ option ++ ": Unsupported format: " ++ value
  | .ambiguous word names =>
    "ambiguous option: " ++ word ++ " could match " ++ ", ".intercalate names
  | .unrecognized words => "unrecognized arguments: " ++ " ".intercalate words
  | .twoPaths => "give the DDL file either positionally or with --input, not both"

/-- Why a command line is not carried out: it asks for help, or something is wrong with it. -/
inductive UsageStop where
  | help
  | error (error : UsageError)
  deriving DecidableEq, Repr

/-- An option: what it is for, its names, what it takes, and whether it takes a value. -/
structure OptionSpec (α : Type) where
  tag : α
  names : List String
  kind : OptionKind
  accepts : String → Bool := fun _ => true

namespace OptionSpec

variable {α : Type}

/-- All names of an option. -/
def title (o : OptionSpec α) : String := "/".intercalate o.names

/-! ## Words -/

/-- What a word is: an option, known or not, with a value of its own if it has one, an argument,
or the mark behind which all words are arguments. A short option is known by its single letter. -/
inductive Word (α : Type) where
  | option (spec : OptionSpec α) (value : Option String)
  | unknown
  | argument
  | mark

/-- The options by each of their names. -/
def byName (specs : List (OptionSpec α)) : List (String × OptionSpec α) :=
  specs.flatMap fun o => o.names.map fun name => (name, o)

/-- A word in front of its first equals sign and behind it, if it has one. -/
def cutEquals (word : String) : String × Option String :=
  let cs := word.toList
  let behind := cs.dropWhile (· != '=')
  (String.ofList (cs.takeWhile (· != '=')),
    if behind.isEmpty then none else some (String.ofList (behind.drop 1)))

/-- Whether characters are a negative number: digits, with at most one point in front of the
last of them. -/
def isNegativeNumber (cs : List Char) : Bool :=
  let isDigit (c : Char) : Bool := (Text.digitValue? c).isSome
  match cs with
  | '-' :: rest =>
    match rest.dropWhile isDigit with
    | [] => !rest.isEmpty
    | '.' :: fraction => !fraction.isEmpty && fraction.all isDigit
    | _ => false
  | _ => false

/-- The options that a word may be short for, each by a name and with the value in the word. What
follows the letter for help is not looked at. -/
def candidates (specs : List (OptionSpec α)) (word : String) :
    List (String × OptionSpec α × Option String) :=
  match word.toList with
  | '-' :: '-' :: _ =>
    let (start, value) := cutEquals word
    ((byName specs).filter fun p => p.1.startsWith start).map fun p => (p.1, p.2, value)
  | cs =>
    (byName specs).filterMap fun p =>
      if p.1.toList == cs.take 2 then
        some (p.1, p.2, if p.2.kind = .help then none else some (String.ofList (cs.drop 2)))
      else if p.1.startsWith word then some (p.1, p.2, none)
      else none

/-- What a word in front of the mark is. -/
def classify (specs : List (OptionSpec α)) (word : String) : Except UsageError (Word α) :=
  if !word.startsWith "-" then .ok .argument
  else match (byName specs).lookup word with
    | some o => .ok (.option o none)
    | none =>
      if word = "-" then .ok .argument
      else
        let (start, value) := cutEquals word
        match (byName specs).lookup start, value with
        | some o, some value => .ok (.option o (some value))
        | _, _ =>
          match candidates specs word with
          | [(_, o, value)] => .ok (.option o value)
          | [] =>
            if isNegativeNumber word.toList || word.toList.contains ' ' then .ok .argument
            else .ok .unknown
          | many => .error (.ambiguous word (many.map Prod.fst))

/-- What the words of a command line are. -/
def classifyAll (specs : List (OptionSpec α)) :
    List String → Except UsageError (List (String × Word α))
  | [] => .ok []
  | word :: words =>
    if word = "--" then .ok ((word, .mark) :: words.map fun w => (w, .argument))
    else do
      let kind ← classify specs word
      let kinds ← classifyAll specs words
      return (word, kind) :: kinds

/-! ## Arguments -/

/-- How many arguments of its own a command takes. They have to stand together. -/
inductive Room where
  | none
  | one
  | many
  deriving DecidableEq, Repr

/-- How far the arguments are: not begun, begun with the mark, begun with an argument, or over. -/
inductive Intake where
  | waiting
  | marked
  | holding
  | over
  deriving DecidableEq, Repr

/-- Whether the next word that is no option is among the arguments, and how far they are behind it.
Where there is no room a mark is passed over if it comes first. -/
def Room.take (room : Room) (intake : Intake) (isMark : Bool) : Bool × Intake :=
  match room, intake with
  | _, .over => (false, .over)
  | .none, .waiting => (isMark, .over)
  | .none, _ => (false, .over)
  | .many, _ => (true, .holding)
  | .one, .holding => if isMark then (true, .holding) else (false, .over)
  | .one, _ => if isMark then (true, .marked) else (true, .holding)

/-- How far the arguments are behind an option. -/
def Intake.afterOption : Intake → Intake
  | .waiting => .waiting
  | _ => .over

/-! ## Command lines -/

/-- What is read off a command line: the options in order, those that take no value with an empty
one, the words among the arguments, and the words that are neither. -/
structure Reading (α : Type) where
  options : List (α × String) := []
  arguments : List String := []
  extras : List String := []
  deriving Repr

/-- The reading with one more option in front. -/
def Reading.addOption (o : OptionSpec α) (value : String) (r : Reading α) : Reading α :=
  { r with options := (o.tag, value) :: r.options }

/-- Reads words. Options are carried out in order, so that the first error counts. -/
def readWords (room : Room) : Intake → List (String × Word α) → Except UsageStop (Reading α)
  | _, [] => .ok {}
  | intake, (_, .option o (some value)) :: rest =>
    match o.kind with
    | .value =>
      if o.accepts value then (readWords room intake.afterOption rest).map (·.addOption o value)
      else .error (.error (.unsupportedFormat o.title value))
    | .flag => .error (.error (.needlessValue o.title value))
    | .help => .error (.error (.needlessValue o.title value))
  | intake, (_, .option o none) :: (value, .argument) :: rest =>
    match o.kind with
    | .value =>
      if o.accepts value then (readWords room intake.afterOption rest).map (·.addOption o value)
      else .error (.error (.unsupportedFormat o.title value))
    | .flag =>
      (readWords room intake.afterOption ((value, .argument) :: rest)).map (·.addOption o "")
    | .help => .error .help
  | intake, (_, .option o none) :: rest =>
    match o.kind with
    | .value => .error (.error (.missingValue o.title))
    | .flag => (readWords room intake.afterOption rest).map (·.addOption o "")
    | .help => .error .help
  | intake, (word, .unknown) :: rest =>
    (readWords room intake.afterOption rest).map fun r => { r with extras := word :: r.extras }
  | intake, (word, kind) :: rest =>
    let isMark := match kind with
      | .mark => true
      | _ => false
    let (taken, next) := room.take intake isMark
    (readWords room next rest).map fun r =>
      if taken then { r with arguments := word :: r.arguments }
      else { r with extras := word :: r.extras }

/-- Reads a command line. The mark, which is the first word `--` among the arguments, is none of
them. -/
def parse (specs : List (OptionSpec α)) (room : Room) (words : List String) :
    Except UsageStop (Reading α) :=
  match classifyAll specs words with
  | .error e => .error (.error e)
  | .ok kinds =>
    (readWords room .waiting kinds).map fun r => { r with arguments := r.arguments.erase "--" }

/-- Reads a command line in which arguments may stand between options: the options first, and the
arguments from what is left. -/
def parseIntermixed (specs : List (OptionSpec α)) (words : List String) :
    Except UsageStop (Reading α) := do
  let first ← parse specs .none words
  let second ← parse specs .many first.extras
  return { second with options := first.options ++ second.options }

/-- The reading, if no word is left over. -/
def Reading.complete (r : Reading α) : Except UsageStop (Reading α) :=
  if r.extras.isEmpty then .ok r else .error (.error (.unrecognized r.extras))

end OptionSpec

end SpannerDdl
