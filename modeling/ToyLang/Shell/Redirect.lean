import ToyLang.Shell.Expand

/-!
# Redirections

A redirection opens a file, or takes a stream for another one, before a command is run.

## Main definitions

* `redirectAll` — some redirections in order.
* `withRedirects` — actions under redirections, behind which the streams are as before.
-/

namespace ToyLang.Shell

open Run

/-- Why a file cannot be opened, in the words of a shell. -/
def openReason (dialect : Dialect) (creating : Bool) (e : FileError) : String :=
  if dialect = .extended then e.reason
  else match e with
    | .noEntry | .notDirectory => if creating then "Directory nonexistent" else "No such file"
    | e => e.reason

/-- Complain about a file that cannot be opened. -/
def warnOpen (path : String) (creating : Bool) (e : FileError) : Run Unit := do
  let dialect := (← shell).dialect
  let reason := openReason dialect creating e
  if dialect = .extended then warn (path ++ ": " ++ reason)
  else warn ((if creating then "cannot create " else "cannot open ") ++ path ++ ": " ++ reason)

/-- Open a file for a stream; the answer says whether that worked. -/
def redirectTo (stream : Nat) (path : String) (how : Opening) : Run Bool := do
  match ← openPath path how with
  | .ok index =>
      setStream stream index
      return true
  | .error e =>
      warnOpen path (how ≠ .reading) e
      return false

/-- Give a stream some bytes to read. -/
def redirectText (stream : Nat) (text : String) : Run Bool := do
  let pipe ← addPipe (Text.bytesOfRaw text) false
  setStream stream (← addOpenFile { target := .pipe pipe, readable := true })
  return true

/-- Take a stream for another one, whose number is written. -/
def redirectCopy (stream : Nat) (source : String) : Run Bool := do
  if source = "-" then
    closeStream stream
    return true
  let bad : Run Bool := do
    complain ((← blame (← shell).readTo) ++ "Syntax error: Bad fd number\n")
    throw (.failed failure)
  match source.toNat? with
  | some n =>
      if (← shell).dialect = .plain ∧ source.length ≠ 1 then return ← bad
      match ← openFile? n with
      | some (index, _) =>
          setStream stream index
          return true
      | none =>
          warn (toString n ++ ": Bad file descriptor")
          return false
  | none =>
      match (← shell).dialect, source.toList.reverse with
      | .plain, _ => bad
      | .extended, '-' :: digits =>
          match (String.ofList digits.reverse).toNat? with
          | some n =>
              match ← openFile? n with
              | some (index, _) =>
                  setStream stream index
                  closeStream n
                  return true
              | none =>
                  warn (source ++ ": Bad file descriptor")
                  return false
          | none => return false
      | .extended, _ =>
          warn (source ++ ": ambiguous redirect")
          return false

/-- Whether a path leads to a file that is not to be overwritten. -/
def isKept (path : String) : Run Bool := do
  match (← tree).locate (← process).folder path with
  | .ok number =>
      match (← tree).content number with
      | .file _ => return true
      | _ => return false
  | .error _ => return false

/-- How a word is written, as far as that can be told from its parts. -/
def writtenWord (w : Word) : String :=
  String.join (w.map fun p => match p with
    | .text cs _ => cs
    | .param (.mk name none .value) false => "$" ++ name
    | .param (.mk name none .value) true => "\"$" ++ name ++ "\""
    | .param (.mk name _ _) _ => "$\x7b" ++ name ++ "\x7d"
    | _ => "")

/-- The path that a redirection names.  In the extended shell the word has to come to one field. -/
def redirectPath (perform : Perform) (w : Word) : Run (Option String) := do
  if (← shell).dialect = .plain then return some (← expandText perform w)
  match ← expandFields perform [w] with
  | [path] => return some path
  | _ =>
      warn (writtenWord w ++ ": ambiguous redirect")
      return none

/-- Whether a path leads to a pipe that has a name. -/
def isNamedPipe (path : String) : Run Bool := do
  match (← tree).locate (← process).folder path with
  | .ok number => return match (← tree).content number with
    | .device (.pipe _) => true
    | _ => false
  | .error _ => return false

/-- Whether a stream is a pipe from which nothing can be read at present. -/
def isEmptyPipe (stream : Nat) : Run Bool := do
  match ← openFile? stream with
  | some (_, { target := .pipe number, .. }) =>
      return ((← get).pipes[number]?).any fun p => decide (p.bytes.size ≤ p.taken)
  | _ => return false

/-- Do one redirection of a stream, or of the usual one; the answer says whether that worked. -/
def redirectStream (perform : Perform) (stream : Option Nat) (kind : Redirection) (target : Word) :
    Run Bool := do
  let extended := (← shell).dialect = .extended
  let withPath (act : String → Run Bool) : Run Bool := do
    match ← redirectPath perform target with
    | some path => act path
    | none => return false
  let both (path : String) (how : Opening) : Run Bool := do
    if ← redirectTo 1 path how then redirectCopy 2 "1" else return false
  match kind with
  | .read => withPath fun path => do
      if ← isNamedPipe path then runJobs perform
      redirectTo (stream.getD 0) path .reading
  | .write => withPath fun path => do
      if (← hasOption 'C') ∧ (← isKept path) then
        if extended then warn (path ++ ": cannot overwrite existing file")
        else warnOpen path true .alreadyThere
        return false
      redirectTo (stream.getD 1) path .writing
  | .overwrite => withPath fun path => redirectTo (stream.getD 1) path .writing
  | .append => withPath fun path => redirectTo (stream.getD 1) path .appending
  | .readWrite => withPath fun path => redirectTo (stream.getD 0) path .both
  | .copyInput | .copyOutput =>
      let usual := if kind = .copyInput then 0 else 1
      let source ← expandText perform target
      if extended ∧ source = "" then
        warn (writtenWord target ++ ": ambiguous redirect")
        return false
      let numeric := source.toList.all Char.isDigit || source.endsWith "-"
      if extended ∧ kind = .copyOutput ∧ stream.isNone ∧ !numeric then both source .writing
      else
        if kind = .copyInput then
          match source.toNat? with
          | some n => if ← isEmptyPipe n then runJobs perform
          | none => pure ()
        redirectCopy (stream.getD usual) source
  | .writeBoth => withPath fun path => both path .writing
  | .appendBoth => withPath fun path => both path .appending
  | .text => do redirectText (stream.getD 0) ((← expandText perform target) ++ "\n")
  | .document number =>
      let body := (← shell).documents.getD number []
      redirectText (stream.getD 0) (← expandText perform body)
/-- The lowest stream that a redirection takes for a variable. -/
def lowestFree : Nat := 10

/-- Do one redirection; the answer says whether that worked. -/
def redirect (perform : Perform) : Redirect → Run Bool
  | .mk .usual kind target => redirectStream perform none kind target
  | .mk (.number n) kind target => redirectStream perform (some n) kind target
  | .mk (.variable name) kind target => do
      let closes := (kind = .copyInput ∨ kind = .copyOutput) ∧ plainText? target = some "-"
      if closes then
        match (← lookup? name).bind String.toNat? with
        | some n => do
            closeStream n
            return true
        | none => do
            warn (name ++ ": ambiguous redirect")
            return false
      let streams := (← process).streams
      let free := ((List.range 1000).map (lowestFree + ·)).find? fun n => (streams.lookup n).isNone
      let n := free.getD lowestFree
      if ← redirectStream perform (some n) kind target then
        assign name (toString n)
        return true
      return false

/-- Do redirections in order, up to the first one that does not work. -/
def redirectAll (perform : Perform) : List Redirect → Run Bool
  | [] => return true
  | r :: rs => do if ← redirect perform r then redirectAll perform rs else return false

/-- The streams whose numbers redirections have put into variables, which stay as they are. -/
def keptStreams (redirects : List Redirect) : Run (List Nat) := do
  let mut found : List Nat := []
  for r in redirects do
    match r with
    | .mk (.variable name) _ _ =>
        match (← lookup? name).bind String.toNat? with
        | some n => found := n :: found
        | none => pure ()
    | _ => pure ()
  return found

/-- Do redirections, something that depends on whether they worked, and take the streams back
that they have changed. -/
def withRedirects {α : Type} (perform : Perform) (redirects : List Redirect)
    (act : Bool → Run α) : Run α := do
  if redirects.isEmpty then return ← act true
  let before := (← process).streams
  let restore (after : List (Nat × Nat)) (kept : List Nat) : Run Unit := do
    let touched := (before ++ after).filter fun (k, _) =>
      before.lookup k != after.lookup k && !kept.contains k
    for (k, _) in touched do
      match before.lookup k with
      | some index => setStream k index
      | none => closeStream k
  let worked ←
    try redirectAll perform redirects
    catch e =>
      restore (← process).streams []
      throw e
  let after := (← process).streams
  let kept := (← shell).channels ++ (← keptStreams redirects)
  try
    let found ← act worked
    restore after kept
    return found
  catch e =>
    restore after kept
    throw e

end ToyLang.Shell
