import ToyLang.Command.Stages
import ToyLang.Files.Tree

/-!
# A run of the command line on any platform

A run reads its source and translates it.  The C++ text is printed, or built in a temporary folder
and run: the compiler gets the text as its input and writes a program to a path that it is told,
and then that program is run.

A run may end anywhere, with an exit code: a failure is reported and ends it, and so does a report
that cannot be made.  What cannot be logged is passed over.

## Main definitions

* `Session` — actions of a run, which may end it.
* `Platform.translate` — from the source to the C++ text.
* `BuildFailure` — why the result is not run.
* `Platform.buildAndRun` — building and running it.
* `Platform.run` — the run of a command line, and its exit code.
-/

namespace ToyLang.Command

/-- Actions of a run, which may end it with an exit code. -/
abbrev Session (σ : Type) := ExceptT Nat (StateM σ)

/-- The exit code of a run that cannot report what it has to. -/
def panicCode : Nat := 101

/-- Why the result is not built, or not run. -/
inductive BuildFailure where
  | noFolder (e : SystemError)
  | compilerMissing (compiler : String)
  | notStarted (program : String) (e : SystemError)
  /-- The compiler has not taken all of the C++ text. -/
  | textRefused (compiler : String) (e : SystemError)
  | notAwaited (compiler : String) (e : SystemError)
  | compilerFailed (compiler : String) (ending : Ending)
  deriving DecidableEq, Repr

/-- The wording of a build failure. -/
def BuildFailure.message : BuildFailure → String
  | noFolder e => "failed to create a temporary directory: " ++ e.message
  | compilerMissing compiler =>
      compiler ++ " command not found. You need to install a C++ compiler."
  | notStarted program e => "failed to run " ++ program ++ ": " ++ e.message
  | textRefused compiler e => "failed to pass the program to " ++ compiler ++ ": " ++ e.message
  | notAwaited compiler e => "failed to wait for " ++ compiler ++ ": " ++ e.message
  | compilerFailed compiler ending => compiler ++ " exited with " ++ ending.text

/-- Why a compiler was not started. -/
def BuildFailure.ofStart (compiler : String) (e : SystemError) : BuildFailure :=
  if e.isMissing then compilerMissing compiler else notStarted compiler e

/-- The arguments of the compiler, which reads standard input, for a program at a path. -/
def compilerArguments (program : String) : List String :=
  ["-std=c++17", "-x", "c++", "-O2", "-o", program, "-"]

/-- The exit code that stands for the end of a program. -/
def exitCode : Ending → Nat
  | .exited status => status
  | .signalled _ => 1

/-- What is said of a usage error. -/
def UsageError.report (e : UsageError) : String :=
  "error: " ++ e.message ++ "\n\n" ++ usageLine ++ "\n\n"
    ++ "For more information, try '--help'.\n"

namespace Platform

variable {σ α β : Type} (P : Platform σ α) (o : Options)

/-! ### Reports -/

/-- Report something. -/
def report (text : String) : Session σ Unit := do
  match ← P.complain text with
  | .ok () => pure ()
  | .error _ => throw panicCode

/-- Report something and end the run. -/
def refuse (text : String) : Session σ β := do
  P.report text
  throw 1

/-- Log something, if that is asked for. -/
def log (line : LogLine) : Session σ Unit := do
  if o.verbose then discard (P.complain (line.text ++ "\n"))

/-- Report a failure and end the run.  If the faults of a source cannot be reported, this is
reported in turn. -/
def fail (failure : Failure) : Session σ β :=
  match failure with
  | .faulty source faults => do
      match ← P.complain (Source.reportAll o.sourceName source faults) with
      | .ok () => throw 1
      | .error e => P.refuse ("failed to report parse errors: " ++ e.message ++ "\n")
  | failure => P.refuse (failure.report o.sourceName)

/-! ### Translating -/

/-- Read the source: a file, or standard input. -/
def readSource : StateM σ (Except SystemError String) := do
  let found ← match o.file with
    | some path => P.readFile path
    | none => P.readInput
  return found.bind textOf

/-- Translate the source. -/
def translate : Session σ String := do
  match ← P.readSource o with
  | .error e => P.fail o (.unreadable e)
  | .ok source =>
      let stages := compileText o.sourceName source
      stages.log.forM (P.log o)
      match stages.result with
      | .error failure => P.fail o failure
      | .ok code => pure code

/-! ### Building and running the result -/

/-- Report why the result is not built, or not run, and end the run. -/
def refuseBuild (failure : BuildFailure) : Session σ β := P.refuse (failure.message ++ "\n")

/-- Run a built program, and give the exit code. -/
def runBuilt (program : String) : Session σ Nat := do
  P.log o (.running program)
  match ← P.start program [] with
  | .error e => P.refuseBuild (.notStarted program e)
  | .ok child =>
      match ← P.await child with
      | .error e => P.refuseBuild (.notStarted program e)
      | .ok ending => return exitCode ending

/-- Build a C++ text in a folder and run the result. -/
def buildIn (code folder : String) : Session σ Nat := do
  let program := Path.join folder "a.out"
  match ← P.start o.compiler (compilerArguments program) with
  | .error e => P.refuseBuild (.ofStart o.compiler e)
  | .ok child =>
      P.log o (.building o.compiler)
      match ← P.feed child code with
      | .error e => P.refuseBuild (.textRefused o.compiler e)
      | .ok child =>
          match ← P.await child with
          | .error e => P.refuseBuild (.notAwaited o.compiler e)
          | .ok ending =>
              if ending = .exited 0 then P.runBuilt o program
              else P.refuseBuild (.compilerFailed o.compiler ending)

/-- Build a C++ text in a temporary folder, which is removed however the run ends, and run the
result. -/
def buildAndRun (code : String) : Session σ Nat := do
  match ← P.makeFolder with
  | .error e => P.refuseBuild (.noFolder e)
  | .ok folder => ExceptT.mk do
      let settled ← (P.buildIn o code folder).run
      P.removeFolder folder
      return settled

/-! ### Runs -/

/-- Translate the source, and print the C++ text or run it. -/
def compile : Session σ Nat := do
  let code ← P.translate o
  if o.run then P.buildAndRun o code
  else
    match ← P.print code with
    | .ok () => return 0
    | .error e => P.refuse ("error: failed to write the output: " ++ e.message ++ "\n")

/-- The run of a command line; its exit code is given. -/
def run (args : List String) : StateM σ Nat :=
  match Request.ofArgs args with
  | .error e => do
      discard (P.complain e.report)
      return 2
  | .ok .version => do
      discard (P.print versionText)
      return 0
  | .ok .help => do
      discard (P.print helpText)
      return 0
  | .ok (.compile o) => do
      match ← (P.compile o).run with
      | .ok code => return code
      | .error code => return code

end Platform

end ToyLang.Command
