/-!
# The command line

Options may stand before and after the file name, short ones may be joined, and `--` ends
them.  Arguments are taken in order: the first that is wrong is refused at once, and a
request for help or for the version is granted as soon as it is met.

## Main definitions

* `Options` — what to compile and what to do with the result.
* `Request` — what a command line asks for.
* `UsageError` — why a command line is refused.
* `Request.ofArgs` — reading a command line.
-/

namespace ToyLang.Command

/-- What to compile and what to do with the result. -/
structure Options where
  /-- The source file; without one the source is standard input. -/
  file : Option String := none
  /-- Whether to build and run the result instead of printing it. -/
  run : Bool := false
  /-- The compiler that builds the result, if one is named. -/
  cxx : Option String := none
  /-- Whether to log the stages. -/
  verbose : Bool := false
  deriving DecidableEq, Repr

/-- The compiler that is used if none is named. -/
def defaultCompiler : String := "c++"

/-- The compiler to use. -/
def Options.compiler (o : Options) : String := o.cxx.getD defaultCompiler

/-- What a command line asks for. -/
inductive Request where
  | compile (o : Options)
  | version
  | help
  deriving DecidableEq, Repr

/-- Why a command line is refused. -/
inductive UsageError where
  /-- No option has this name. -/
  | unknownOption (arg : String)
  /-- An option that takes no value was given one. -/
  | needlessValue (option : String)
  /-- An option that takes a value was given none. -/
  | missingValue (option : String)
  /-- An option was given twice. -/
  | repeated (option : String)
  /-- There is a second file name. -/
  | surplus (arg : String)
  deriving DecidableEq, Repr

/-- The wording of a usage error. -/
def UsageError.message : UsageError → String
  | unknownOption arg => "unexpected argument '" ++ arg ++ "' found"
  | needlessValue option => "unexpected value for '" ++ option ++ "' found; no more were expected"
  | missingValue option => "a value is required for '" ++ option ++ "' but none was supplied"
  | repeated option => "the argument '" ++ option ++ "' cannot be used multiple times"
  | surplus arg => "unexpected argument '" ++ arg ++ "' found"

namespace Options

/-- Ask for a run. -/
def setRun (o : Options) : Except UsageError Options :=
  if o.run then .error (.repeated "--run") else .ok { o with run := true }

/-- Ask for a log. -/
def setVerbose (o : Options) : Except UsageError Options :=
  if o.verbose then .error (.repeated "--verbose") else .ok { o with verbose := true }

/-- Name the compiler. -/
def setCompiler (o : Options) (cxx : String) : Except UsageError Options :=
  if o.cxx.isSome then .error (.repeated "--cxx <CXX>") else .ok { o with cxx := some cxx }

/-- Name the source file. -/
def setFile (o : Options) (file : String) : Except UsageError Options :=
  if o.file.isSome then .error (.surplus file) else .ok { o with file := some file }

end Options

/-- What follows an argument. -/
inductive Next where
  /-- Further arguments. -/
  | go (o : Options)
  /-- The name of the compiler, as the next argument. -/
  | compiler (o : Options)
  /-- Nothing: the request is granted whatever else stands on the command line. -/
  | done (r : Request)

/-- One short option. -/
def shortOption (o : Options) (c : Char) : Except UsageError Next :=
  if c = 'r' then .go <$> o.setRun
  else if c = 'v' then .go <$> o.setVerbose
  else if c = 'h' then .ok (.done .help)
  else if c = 'V' then .ok (.done .version)
  else .error (.unknownOption ("-" ++ String.singleton c))

/-- Short options that are joined. -/
def shortOptions (o : Options) : List Char → Except UsageError Next
  | [] => .ok (.go o)
  | c :: cs => do
      match ← shortOption o c with
      | .go o => shortOptions o cs
      | next => pure next

/-- A long option without a value attached to it. -/
def longOption (o : Options) (name : String) : Except UsageError Next :=
  if name = "run" then .go <$> o.setRun
  else if name = "verbose" then .go <$> o.setVerbose
  else if name = "cxx" then .ok (.compiler o)
  else if name = "help" then .ok (.done .help)
  else if name = "version" then .ok (.done .version)
  else .error (.unknownOption ("--" ++ name))

/-- The long options that take no value. -/
def plainOptions : List String := ["run", "verbose", "help", "version"]

/-- A long option with a value attached to it. -/
def longOptionWith (o : Options) (name value : String) : Except UsageError Next :=
  if name = "cxx" then .go <$> o.setCompiler value
  else if name ∈ plainOptions then .error (.needlessValue ("--" ++ name))
  else .error (.unknownOption ("--" ++ name))

/-- How an argument looks. -/
inductive Shape where
  /-- The mark behind which no options follow. -/
  | endOfOptions
  /-- A long option with the value attached to it. -/
  | long (name : String) (value : Option String)
  /-- Joined short options. -/
  | short (letters : List Char)
  /-- A file name or a value; a lone dash is one. -/
  | plain (text : String)

/-- The text before the first `=` and the text after it, if there is one. -/
def splitValue (cs : List Char) : String × Option String :=
  let name := cs.takeWhile (· ≠ '=')
  (String.ofList name,
    match cs.dropWhile (· ≠ '=') with
    | [] => none
    | _ :: value => some (String.ofList value))

/-- How an argument looks. -/
def shapeOf (arg : String) : Shape :=
  match arg.toList with
  | ['-', '-'] => .endOfOptions
  | '-' :: '-' :: cs => .long (splitValue cs).1 (splitValue cs).2
  | '-' :: c :: cs => .short (c :: cs)
  | _ => .plain arg

/-- The file names behind the end of the options. -/
def onlyFiles (o : Options) : List String → Except UsageError Request
  | [] => .ok (.compile o)
  | arg :: args => do
      let o ← o.setFile arg
      onlyFiles o args

/-- Read the arguments that follow those that led to `o`.  The flag says whether the name
of the compiler comes next. -/
def readArgs (o : Options) : (compiler : Bool) → List String → Except UsageError Request
  | true, [] => .error (.missingValue "--cxx <CXX>")
  | true, arg :: args =>
      match shapeOf arg with
      | .plain cxx => do
          let o ← o.setCompiler cxx
          readArgs o false args
      | _ => .error (.missingValue "--cxx <CXX>")
  | false, [] => .ok (.compile o)
  | false, arg :: args => do
      let next ← match shapeOf arg with
        | .endOfOptions => .done <$> onlyFiles o args
        | .plain file => .go <$> o.setFile file
        | .short letters => shortOptions o letters
        | .long name none => longOption o name
        | .long name (some value) => longOptionWith o name value
      match next with
      | .go o => readArgs o false args
      | .compiler o => readArgs o true args
      | .done request => pure request

/-- What a command line asks for. -/
def Request.ofArgs (args : List String) : Except UsageError Request := readArgs {} false args

/-- The text that `--version` prints. -/
def versionText : String := "toyc 0.1.0\n"

/-- How the command is called. -/
def usageLine : String := "Usage: toyc [OPTIONS] [FILE]"

/-- The text that `--help` prints. -/
def helpText : String :=
  "\n".intercalate
    [usageLine,
      "",
      "Arguments:",
      "  [FILE]  File name; the program is read from stdin if omitted",
      "",
      "Options:",
      "  -r, --run        Compile the generated C++ and run it",
      "      --cxx <CXX>  C++ compiler used by `--run` [default: c++]",
      "  -v, --verbose    Show debug logs",
      "  -h, --help       Print help",
      "  -V, --version    Print version",
      ""]

end ToyLang.Command
