import SpannerDdl.Json.Display

/-! # Rules for JSON documents

A rule says what a value has to look like. Checking a value against a rule lists every way in which
it does not.

* `Rule`: objects with required and known members, arrays, texts, flags, and fixed choices.
* `Issue`: a complaint and the path to the value it is about.
* `Rule.issues r v`: the complaints in the order in which rule and value are walked through.
* `Rule.report r v`: the complaints in words, ordered by path.
-/

set_option autoImplicit false

namespace SpannerDdl

/-- What a value has to look like. -/
inductive Rule where
  | object (required : List String) (members : List (String × Rule))
  | array (item : Rule)
  | text (nonEmpty : Bool)
  | flag
  | oneOf (choices : List String)

/-- A complaint about the value at the end of a path of keys and indices. -/
structure Issue where
  path : List String
  message : String
  deriving DecidableEq, Repr

namespace Issue

/-- The complaint, seen from the value that holds the other under a key or index. -/
def under (step : String) (i : Issue) : Issue := { i with path := step :: i.path }

/-- The complaint in words, behind its path if there is one. -/
def text (i : Issue) : String :=
  let path := ".".intercalate i.path
  if path == "" then i.message else path ++ ": " ++ i.message

end Issue

namespace Rule

/-! ## Complaints about one value -/

/-- The complaint about a value of the wrong type. -/
def wrongType (v : Json) (type : String) : List Issue :=
  [⟨[], v.literal ++ " is not of type '" ++ type ++ "'"⟩]

/-- The complaints about missing members. -/
def missingMembers (required : List String) (members : Json.Members) : List Issue :=
  (required.filter fun key => (members.lookup key).isNone).map fun key =>
    ⟨[], Text.quoted key ++ " is a required property"⟩

/-- The keys that no rule is known for. -/
def unknownKeys (known : List String) (members : Json.Members) : List String :=
  (members.map Prod.fst).filter fun key => !known.contains key

/-- The one complaint about all unknown members, whose keys are listed in order. -/
def unknownMembers (known : List String) (members : Json.Members) : List Issue :=
  match (unknownKeys known members).mergeSort with
  | [] => []
  | keys =>
    [⟨[], "Additional properties are not allowed (" ++
      ", ".intercalate (keys.map Text.quoted) ++
      (if keys.length = 1 then " was" else " were") ++ " unexpected)"⟩]

/-! ## Complaints about a value and its parts -/

mutual

/-- The complaints about a value, in the order in which rule and value are walked through. -/
def issues (r : Rule) (v : Json) : List Issue :=
  match r with
  | .object required members =>
    match v with
    | .obj given =>
      missingMembers required given ++ unknownMembers (members.map Prod.fst) given ++
        memberIssues members given
    | v => wrongType v "object"
  | .array item =>
    match v with
    | .arr items =>
      items.zipIdx.flatMap fun p => (item.issues p.1).map (Issue.under (toString p.2))
    | v => wrongType v "array"
  | .text nonEmpty =>
    match v with
    | .str s =>
      if nonEmpty && s == "" then [⟨[], Text.quoted s ++ " should be non-empty"⟩] else []
    | v => wrongType v "string"
  | .flag =>
    match v with
    | .bool _ => []
    | v => wrongType v "boolean"
  | .oneOf choices =>
    let fits := match v with
      | .str s => choices.contains s
      | _ => false
    if fits then []
    else [⟨[], v.literal ++ " is not one of " ++ (Json.arr (choices.map .str)).literal⟩]

/-- The complaints about the members that are there, in the order of the rules. -/
def memberIssues (rules : List (String × Rule)) (given : Json.Members) : List Issue :=
  match rules with
  | [] => []
  | (key, rule) :: rules =>
    (match given.lookup key with
      | some value => (rule.issues value).map (Issue.under key)
      | none => []) ++ memberIssues rules given

end

/-! ## Reports -/

/-- Whether a path comes before another or is the same: steps are compared as texts, the first
difference counts, and a path comes before those that go on from it. -/
def pathLe : List String → List String → Bool
  | [], _ => true
  | _ :: _, [] => false
  | a :: as, b :: bs => if a == b then pathLe as bs else decide (a < b)

/-- The complaints about a value in words, ordered by path. -/
def report (r : Rule) (v : Json) : List String :=
  ((r.issues v).mergeSort fun a b => pathLe a.path b.path).map Issue.text

/-- A value without complaints has an empty report, and only such a value. -/
theorem report_eq_nil_iff {r : Rule} {v : Json} : r.report v = [] ↔ r.issues v = [] := by
  unfold report
  rw [List.map_eq_nil_iff, ← List.length_eq_zero_iff, List.length_mergeSort,
    List.length_eq_zero_iff]

end Rule

end SpannerDdl
