import ToyLang.Command.Options
import ToyLang.Command.Platform
import ToyLang.Compilation
import ToyLang.Source.Diagnostic

/-!
# The stages up to the C++ text

A source is read, parsed and compiled.  The first stage that fails is the last one.  With the option
for it, a run logs its stages on standard error.

## Main definitions

* `LogLine`, `LogLine.text` — what is logged, and its line of the log.
* `textOf` — decoding what was read.
* `Failure`, `Failure.report` — why there is no C++ text.
* `compileText` — the stages behind reading.
-/

namespace ToyLang.Command

/-! ### The log -/

/-- What a run logs. -/
inductive LogLine where
  /-- The source was read. -/
  | source (name : String)
  /-- A stage of the compilation. -/
  | event (e : Event)
  /-- The C++ compiler was started. -/
  | building (compiler : String)
  /-- The built program is about to start. -/
  | running (program : String)
  deriving DecidableEq, Repr

/-- The place that a stage of the compilation is logged for. -/
def eventPlace : Event → String
  | .lowered _ => "compiler::gen_cpp"
  | .checked _ _ => "toy_ast::validate"

/-- A line of the log.  The verbs of a run are set flush right. -/
def LogLine.text : LogLine → String
  | source name => "[INFO]  Translating " ++ name
  | event e => "[DEBUG] (1) " ++ eventPlace e ++ ": " ++ e.message
  | building compiler => "[INFO]    Compiling with " ++ compiler
  | running program => "[INFO]      Running " ++ program

/-! ### Stages -/

/-- The text of some bytes, if they are the UTF-8 form of one. -/
def textOf (bytes : ByteArray) : Except SystemError String :=
  match String.fromUTF8? bytes with
  | some text => .ok text
  | none => .error { message := "stream did not contain valid UTF-8" }

/-- Why there is no C++ text. -/
inductive Failure where
  /-- The source cannot be read. -/
  | unreadable (e : SystemError)
  /-- The source is not a list of declarations. -/
  | faulty (source : String) (faults : List Source.Fault)
  /-- The program is refused. -/
  | refused (e : Error)
  deriving DecidableEq, Repr

/-- The name that stands for the source in messages. -/
def Options.sourceName (o : Options) : String := o.file.getD "<stdin>"

/-- The report of a failure, for a source of the given name. -/
def Failure.report (name : String) : Failure → String
  | unreadable e => "error: " ++ name ++ ": " ++ e.message ++ "\n"
  | faulty source faults => Source.reportAll name source faults
  | refused e => "error: " ++ e.message ++ "\n"

/-- What the stages come to, and their log. -/
structure Stages where
  result : Except Failure String
  log : List LogLine

/-- The stages on a source text that has been read. -/
def compileText (name source : String) : Stages :=
  match Source.parse source with
  | .error faults => ⟨.error (.faulty source faults), [.source name]⟩
  | .ok items =>
      let compiled := ToyLang.compile items
      ⟨compiled.result.mapError .refused,
        .source name :: compiled.events.map .event⟩

end ToyLang.Command
