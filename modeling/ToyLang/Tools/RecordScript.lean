import ToyLang.Text.Regex

/-!
# Scripts on records

A script on records is a list of rules.  Each rule has a pattern that selects records, and a body
that is run for them.

## Main definitions

* `RecordExpr`, `RecordStmt` — what scripts are made of.
* `RecordScript` — scripts.
-/

namespace ToyLang.Tools

open Text (Regex)

/-- A calculation with two numbers. -/
inductive RecordArith where
  | add
  | sub
  | mul
  | div
  | rem
  | pow
  deriving DecidableEq

/-- A comparison of two values. -/
inductive RecordOrder where
  | less
  | lessEqual
  | equal
  | unequal
  | greater
  | greaterEqual
  deriving DecidableEq

/-- Where a line is read from: the input of the script, a file, or the output of a command. -/
inductive RecordSource where
  | input
  | file
  | command
  deriving DecidableEq

/-- Where output goes: into a new file, behind what a file holds, or to a command. -/
inductive RecordSink where
  | file
  | appended
  | command
  deriving DecidableEq

/-- An expression. -/
inductive RecordExpr where
  | number (x : Float)
  | text (s : String)
  | regex (r : Regex)
  | var (name : String)
  | field (index : RecordExpr)
  | element (name : String) (index : List RecordExpr)
  | member (name : String) (index : List RecordExpr)
  | assign (target : RecordExpr) (op : Option RecordArith) (value : RecordExpr)
  /-- Count a variable up or down, with its value from before or after. -/
  | step (target : RecordExpr) (up before : Bool)
  | arith (op : RecordArith) (a b : RecordExpr)
  | negative (a : RecordExpr)
  | positive (a : RecordExpr)
  | not (a : RecordExpr)
  | compare (op : RecordOrder) (a b : RecordExpr)
  | matching (negated : Bool) (a b : RecordExpr)
  | both (a b : RecordExpr)
  | either (a b : RecordExpr)
  | choice (test a b : RecordExpr)
  | joined (a b : RecordExpr)
  | builtin (name : String) (arguments : List RecordExpr)
  | call (name : String) (arguments : List RecordExpr)
  | readLine (source : RecordSource) (place target : Option RecordExpr)
  deriving Inhabited

/-- A statement. -/
inductive RecordStmt where
  | expr (e : RecordExpr)
  | print (formatted : Bool) (arguments : List RecordExpr)
      (sink : Option (RecordSink × RecordExpr))
  | branch (test : RecordExpr) (body : RecordStmt) (otherwise : Option RecordStmt)
  | loop (test : RecordExpr) (body : RecordStmt)
  | loopAfter (body : RecordStmt) (test : RecordExpr)
  | count (start : Option RecordStmt) (test : Option RecordExpr) (step : Option RecordStmt)
      (body : RecordStmt)
  | each (name array : String) (body : RecordStmt)
  | block (body : List RecordStmt)
  | next
  | nextFile
  | exit (status : Option RecordExpr)
  | ret (value : Option RecordExpr)
  | stop
  | again
  | delete (name : String) (index : Option (List RecordExpr))
  deriving Inhabited

/-- What selects records. -/
inductive RecordPattern where
  | always
  | test (e : RecordExpr)
  | range (first last : RecordExpr)

/-- A rule.  Without a body the record is printed. -/
structure RecordRule where
  pattern : RecordPattern
  body : Option RecordStmt

/-- What a name stands for. -/
inductive RecordNameKind where
  | variable
  | array
  | function
  deriving DecidableEq

/-- A function of a script, with what is known of its parameters. -/
structure RecordFunction where
  name : String
  params : List String
  body : RecordStmt
  kinds : List (Option RecordNameKind)

/-- A script. -/
structure RecordScript where
  begins : List RecordStmt := []
  rules : List RecordRule := []
  ends : List RecordStmt := []
  functions : List RecordFunction := []

end ToyLang.Tools
