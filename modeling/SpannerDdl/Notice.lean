/-! # Notices

What a command tells about its work while it goes on.

* `Severity`: five degrees, `Severity.name` in words, `Severity.ofName?` back.
* `Notice`: the things told; `Notice.severity` and `Notice.message`.
-/

set_option autoImplicit false

namespace SpannerDdl

/-! ## Severities -/

/-- How serious a notice is. -/
inductive Severity where
  | debug
  | info
  | warning
  | error
  | critical
  deriving DecidableEq, Repr

namespace Severity

/-- The severities from the least to the greatest. -/
def all : List Severity := [.debug, .info, .warning, .error, .critical]

/-- The place of a severity in the order. -/
def rank : Severity → Nat
  | .debug => 0
  | .info => 1
  | .warning => 2
  | .error => 3
  | .critical => 4

/-- The name of a severity. -/
def name : Severity → String
  | .debug => "DEBUG"
  | .info => "INFO"
  | .warning => "WARNING"
  | .error => "ERROR"
  | .critical => "CRITICAL"

/-- The severity of a name. -/
def ofName? (name : String) : Option Severity := all.find? fun s => s.name == name

theorem ofName?_name (s : Severity) : ofName? s.name = some s := by
  cases s <;> decide

theorem ofName?_eq_some_iff {n : String} {s : Severity} : ofName? n = some s ↔ n = s.name := by
  constructor
  · intro h
    rw [ofName?] at h
    have found := List.find?_some h
    exact (eq_of_beq found).symm
  · rintro rfl
    exact ofName?_name s

end Severity

/-! ## Notices -/

/-- Something worth telling. Statements and alterations that change nothing are named by their
kinds. -/
inductive Notice where
  | parsed (statements : Nat) (source : String)
  | createdTable (table : String) (columns : Nat)
  | ignoredStatement (kind : String)
  | ignoredAlteration (kind table : String)
  | built (tables keys indexes : Nat) (source : String)
  | builtFromFiles (tables : Nat)
  | semanticIssues (count : Nat)
  | issue (source text : String)
  | wrote (path : String)
  deriving DecidableEq, Repr

namespace Notice

/-- How serious a notice is. -/
def severity : Notice → Severity
  | .parsed _ _ => .debug
  | .createdTable _ _ => .debug
  | .ignoredStatement _ => .debug
  | .ignoredAlteration _ _ => .debug
  | .built _ _ _ _ => .info
  | .builtFromFiles _ => .info
  | .semanticIssues _ => .debug
  | .issue _ _ => .warning
  | .wrote _ => .info

/-- A notice in words. -/
def message : Notice → String
  | .parsed statements source =>
    "Parsed " ++ toString statements ++ " statement(s) from " ++ source
  | .createdTable table columns =>
    "Created table " ++ table ++ " with " ++ toString columns ++ " column(s)"
  | .ignoredStatement kind => "Ignoring " ++ kind ++ " statement"
  | .ignoredAlteration kind table => "Ignoring " ++ kind ++ " on table " ++ table
  | .built tables keys indexes source =>
    "Built " ++ toString tables ++ " table(s), " ++ toString keys ++ " foreign key(s), " ++
      toString indexes ++ " index(es) from " ++ source
  | .builtFromFiles tables => "Built " ++ toString tables ++ " table(s) from DDL files"
  | .semanticIssues count => "Schema document has " ++ toString count ++ " semantic issue(s)"
  | .issue source text => source ++ ": " ++ text
  | .wrote path => "Wrote " ++ path

/-- Whether a notice is at least as serious as the given severity. -/
def isAtLeast (n : Notice) (s : Severity) : Bool := s.rank ≤ n.severity.rank

end Notice

end SpannerDdl
