import ToyLang.Format.Print
import ToyLang.Shell.Builtin.Variable

/-!
# Commands that print

## Main definitions

* `echoCommand` — the arguments with blanks between them.
* `printfCommand` — arguments in a format.
-/

namespace ToyLang.Shell

open Run Format

/-- Print the arguments; the standard shell replaces escapes in them. -/
def echoPlain (arguments : List String) : Run Nat := do
  let (newline, arguments) := match arguments with
    | "-n" :: rest => (false, rest)
    | all => (true, all)
  let u := unescape .plainArgument (" ".intercalate arguments)
  put (String.ofList u.text ++ if newline && !u.stopped then "\n" else "")
  return 0

/-- Whether an argument consists of options of the extended command. -/
def isEchoOption (argument : String) : Bool :=
  match argument.toList with
  | '-' :: c :: cs => (c :: cs).all fun c => c = 'n' || c = 'e' || c = 'E'
  | _ => false

/-- Print the arguments as the extended command does; options come first. -/
def echoExtended (arguments : List String) : Run Nat := do
  let options := arguments.takeWhile isEchoOption
  let letters := options.flatMap String.toList
  let usual := (← shell).longOptions.contains "xpg_echo"
  let escapes : Bool := match (letters.filter fun c => c = 'e' || c = 'E').getLast? with
    | some c => c = 'e'
    | none => usual
  let text := " ".intercalate (arguments.drop options.length)
  let u := if escapes then unescape .extendedEcho text else { text := text.toList }
  put (String.ofList u.text ++ if letters.contains 'n' || u.stopped then "" else "\n")
  return 0

/-- Print the arguments. -/
def echoCommand (arguments : List String) : Run Nat := do
  if (← shell).dialect = .extended then echoExtended arguments else echoPlain arguments

/-- How the standard shell prints. -/
def plainStyle : PrintStyle where
  formats := .plainFormat
  arguments := .plainArgument
  notNumeric s := s ++ ": expected numeric value"
  halfNumeric s := s ++ ": not completely converted"
  outOfRange s := s ++ ": Numerical result out of range"
  beyondQuoted := none
  badDirective s := s ++ ": invalid directive"
  cutDirective _ := "missing format character"
  flags := ['#', '-', '+', ' ', '0']
  sizes := []
  quote := none
  quotesMissing := true
  dates := false
  floats := .double
  bytes := true
  loneQuotes := true
  allows _ := true

/-- The complaint about a text that is no number, or only begins with one. -/
def invalidNumber (text : String) : String :=
  text ++ (match text.toList with
    | '0' :: c :: _ =>
        if c.isDigit then ": invalid octal number"
        else if c = 'x' then ": invalid hex number" else ": invalid number"
    | _ => ": invalid number")

/-- How the extended shell prints. -/
def extendedStyle : PrintStyle where
  formats := .extendedFormat
  arguments := .extendedArgument
  notNumeric := invalidNumber
  halfNumeric := invalidNumber
  outOfRange s := "warning: " ++ s ++ ": Numerical result out of range"
  beyondQuoted := none
  badDirective s := "\x60" ++ String.ofList (s.toList.drop (s.length - 1))
    ++ "': invalid format character"
  cutDirective s := "\x60" ++ s ++ "': missing format character"
  flags := ['#', '-', '+', ' ', '0', '\'']
  sizes := ['l', 'h', 'L', 'j', 'z', 't']
  quote := some fun c text =>
    let cut (text : String) : String := match c.precision with
      | some n => String.ofList (text.toList.take n)
      | none => text
    if c.letter = 'Q' then asWord (cut text) else cut (asWord text)
  quotesMissing := true
  dates := true
  floats := .extended
  bytes := false
  loneQuotes := true
  allows _ := true

/-- Print arguments in a format, as a shell with a style. -/
def printWith (style : PrintStyle) (format : String) (arguments : List String)
    (out : String → Run Unit) : Run Nat := do
  let p := print style format arguments
  let out := out (String.ofList p.text)
  if (← shell).dialect = .extended then
    for (_, text) in p.complaints do
      discard (refuse "printf" text)
    let status ← match p.failure with
      | some text => refuse "printf" text
      | none => pure (if p.failed then 1 else 0)
    out
    return status
  for (_, text) in p.complaints do
    warn text
  match p.failure with
  | some text =>
      warn text
      out
      throw (.failed failure)
  | none =>
      out
      return if p.failed then 1 else 0

/-- Print arguments in a format. -/
def printfCommand (arguments : List String) : Run Nat := do
  let style := if (← shell).dialect = .extended then extendedStyle else plainStyle
  let usage : Run Nat := do
    if (← shell).dialect = .extended then showUsage "printf"
    else
      warn "usage: printf format [arg ...]"
      return failure
  match arguments with
  | [] => usage
  | ["--"] => usage
  | "--" :: format :: rest => printWith style format rest put
  | format :: rest =>
      if (← shell).dialect = .extended then
        match format, rest with
        | "-v", name :: format :: rest =>
            if !isTarget true name then
              discard (refuseName "printf" name)
              return failure
            printWith style format rest (assignTo name)
        | "-v", [_] => showUsage "printf"
        | "-v", [] =>
            discard (refuse "printf" "-v: option requires an argument")
            showUsage "printf"
        | _, _ =>
            match format.toList with
            | '-' :: c :: _ =>
                if c = 'v' then
                  let name := String.ofList (format.toList.drop 2)
                  match rest with
                  | format :: rest => printWith style format rest (assignTo name)
                  | [] => showUsage "printf"
                else refuseOption "printf" c
            | _ => printWith style format rest put
      else if format.startsWith "-" ∧ format ≠ "-" then
        refuse "printf" ("Illegal option " ++ String.ofList (format.toList.take 2))
      else printWith style format rest put

end ToyLang.Shell
