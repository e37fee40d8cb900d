import ToyLang.Shell.Redirect
import ToyLang.Shell.Parse
import ToyLang.Shell.Builtin.Options

/-!
# Assignments and traces

## Main definitions

* `doAssign` — an assignment.
* `trace` — a line that shows what is run.
-/

namespace ToyLang.Shell

open Run

/-! ### Tracing -/

/-- A member of a list that is assigned: its index, if it is said, whether it appends, and its
text. -/
structure Member where
  index : Option String := none
  append : Bool := false
  text : String

/-- A word as the extended shell shows it in a trace. -/
def traceWord (text : String) : String :=
  if text = "" then "''"
  else if hasMetaChars text then singleQuoted text
  else if hasEscapes text then escapeQuoted text
  else text

/-- The members of a list as a trace shows them. -/
def traceMembers (members : List Member) : String :=
  "(" ++ " ".intercalate (members.map fun m => match m.index with
    | some index =>
        "[" ++ singleQuoted index ++ "]" ++ (if m.append then "+=" else "=") ++ singleQuoted m.text
    | none => singleQuoted m.text) ++ ")"

/-- Write a line of a trace to an open file. -/
def trace (perform : Perform) (index : Option Nat) (texts : List String) : Run Unit := do
  if !(← hasOption 'x') then return
  match index with
  | none => pure ()
  | some index =>
      let sh ← shell
      setOption 'x' false
      let mark := (← lookup? "PS4").getD ""
      let reader : Reader := { rest := mark.toList, line := sh.line, dialect := sh.dialect }
      let mark ← match (parseParts (innerWithin deepest) .document).run reader with
        | .ok w _ => expandText perform w
        | .error _ _ => pure mark
      setOption 'x' true
      let mark := if sh.dialect = .extended then
          String.ofList (List.replicate sh.nesting (mark.toList.headD '+')) ++ mark
        else mark
      let before := (← process).streams
      setStream ownStream index
      discard (write ownStream (mark ++ " ".intercalate texts ++ "\n"))
      modifyProcess fun p => { p with streams := before }

/-! ### Assignments -/

/-- The index, whether it appends, and the word of a value that names its place in a list. -/
def placed? : Word → Option (Word × Bool × Word)
  | .text cs false :: rest =>
      match cs.toList with
      | '[' :: cs =>
          let inside := if cs.isEmpty then rest else .text (String.ofList cs) false :: rest
          splitIndex inside
      | _ => none
  | _ => none

/-- The members that the words of a list come to. -/
def listMembers (perform : Perform) (keyed : Bool) (values : List Word) : Run (List Member) := do
  let mut found : List Member := []
  for w in values do
    match placed? w with
    | some (index, append, value) =>
        let index ← expandText perform index
        found := ⟨some index, append, ← expandAssigned perform value⟩ :: found
    | none =>
        let texts ← if keyed then do pure [← expandAssigned perform w]
          else expandFields perform [w]
        for text in texts do
          found := ⟨none, false, text⟩ :: found
  return found.reverse

/-- The entries of a list that names its members in turn: an index, and the text for it. -/
def pairMembers : List Member → List Member
  | [] => []
  | [m] => [⟨some m.text, false, ""⟩]
  | m :: n :: rest => ⟨some m.text, false, n.text⟩ :: pairMembers rest

/-- Assign members to a list. -/
def assignMembers (name : String) (append : Bool) (members : List Member) : Run Unit := do
  let v ← changeable name
  let (keyed, old) := match v.value with
    | .list keyed entries => (keyed, entries)
    | .text s => (false, [("0", s)])
    | .unset => (false, [])
  let bare := (members.head?).any fun m => m.index.isNone
  let members := if keyed && bare then pairMembers members else members
  storeVariable name
    { v with value := .list keyed (if append then old else []), isBare := false }
  let mut place := if append then
      ((old.getLast?.bind fun e => e.1.toNat?).map (· + 1)).getD 0
    else 0
  for m in members do
    match m.index with
    | some index =>
        let text ← if m.append then do pure ((← textAt name index).getD "" ++ m.text)
          else pure m.text
        assignAt name index text
        if !keyed then
          place := ((← placeOf? name index).bind String.toNat?).getD place + 1
    | none =>
        if keyed then
          warn (name ++ ": " ++ singleQuoted m.text
            ++ ": must use subscript when assigning associative array")
        else
          storeAt name (toString place) (← Variable.accept v m.text)
          place := place + 1

/-- Assign a list of words. -/
def assignList (perform : Perform) (name : String) (append : Bool) (values : List Word) :
    Run Unit := do
  let base := (← aim name).1
  let v ← changeable base
  let keyed := match v.value with
    | .list keyed _ => keyed
    | _ => false
  assignMembers base append (← listMembers perform keyed values)

/-- An old text with a new one behind it; numbers are added instead. -/
def appended (v : Variable) (old text : String) : Run String := do
  if v.isNumber then return toString ((← numberOfText old) + (← numberOfText text))
  return old ++ text

/-- Do an assignment; the answer is how a trace shows it. -/
def doAssign (perform : Perform) (temporary : Bool) (a : Assign) : Run String := do
  match a with
  | .list name append values written =>
      assignList perform name append values
      return written
  | .word name index append value =>
      let text ← expandAssigned perform value
      let v := (← varOf? name).getD { value := .unset }
      match index with
      | some w =>
          let place ← expandText perform w
          let full ← if append then do appended v ((← textAt name place).getD "") text
            else pure text
          assignAt name place full
          return name ++ "[" ++ place ++ "]=" ++ text
      | none =>
          let full ← if append then do appended v ((← lookup? name).getD "") text else pure text
          if temporary then
            discard (changeable name)
            discard (keepLocal name)
          assign name full
          if temporary then exportVariable name
          let shown := if (← shell).dialect = .extended then
              (if text = "" then "" else traceWord text)
            else text
          return name ++ (if append then "+=" else "=") ++ shown

end ToyLang.Shell
