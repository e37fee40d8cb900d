import ToyLang.Command.Run

/-!
# The command

The outer layer of the command line: it collects what a run finds, and shows what the run
comes to.
-/

namespace ToyLang.Command

/-- The paths that a request refers to. -/
def Request.paths : Request → List String
  | .compile o => o.file.toList ++ o.cxx.toList
  | .version | .help => []

/-- The files among some paths; a path that cannot be read is left out. -/
def readFiles (paths : List String) : IO (List (String × ByteArray)) :=
  paths.filterMapM fun (path : String) => do
    try
      let bytes ← IO.FS.readBinFile path
      pure (some (path, bytes))
    catch _ => pure none

/-- What a run finds. -/
def findSurroundings (args : List String) : IO Surroundings := do
  match Request.ofArgs args with
  | .error _ => pure ⟨[], ByteArray.empty⟩
  | .ok request =>
      let files ← readFiles request.paths
      let stdin ← IO.getStdin
      let input ← match request with
        | .compile o => if o.file.isNone ∨ o.run then stdin.readBinToEnd else pure ByteArray.empty
        | _ => pure ByteArray.empty
      pure ⟨files, input⟩

end ToyLang.Command

/-- Run the command line. -/
def main (args : List String) : IO UInt32 := do
  let outcome := ToyLang.Command.run args (← ToyLang.Command.findSurroundings args)
  let stdout ← IO.getStdout
  stdout.putStr outcome.output
  stdout.flush
  let stderr ← IO.getStderr
  stderr.putStr outcome.errors
  pure (UInt32.ofNat outcome.code)
