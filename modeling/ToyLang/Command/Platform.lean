import ToyLang.Process.Ending

/-!
# Platforms

What a run asks of the system that it runs on: to read, to write, and to start programs.  All of it
may fail, and what else it does is up to the system.

## Main definitions

* `SystemError` — why something was not done.
* `Platform` — the services of a system.
-/

namespace ToyLang.Command

/-- Why a system has not done what it was asked for. -/
structure SystemError where
  message : String
  /-- Whether there is no such file. -/
  isMissing : Bool := false
  deriving DecidableEq, Repr

/-- The services of a system whose states are the elements of `σ`.  What it knows of a program that
it has started is an element of `α`. -/
structure Platform (σ α : Type) where
  /-- The bytes of the file at a path. -/
  readFile (path : String) : StateM σ (Except SystemError ByteArray)
  /-- The bytes of standard input. -/
  readInput : StateM σ (Except SystemError ByteArray)
  /-- Write to standard output, up to the last byte. -/
  print (text : String) : StateM σ (Except SystemError Unit)
  /-- Write to standard error. -/
  complain (text : String) : StateM σ (Except SystemError Unit)
  /-- Make a folder for temporary use, and give its path. -/
  makeFolder : StateM σ (Except SystemError String)
  /-- Remove such a folder with everything in it. -/
  removeFolder (path : String) : StateM σ Unit
  /-- Start a program. -/
  start (program : String) (arguments : List String) : StateM σ (Except SystemError α)
  /-- Write a text to the standard input of a program, and close it. -/
  feed (child : α) (text : String) : StateM σ (Except SystemError α)
  /-- Wait until a program ends. -/
  await (child : α) : StateM σ (Except SystemError Ending)

end ToyLang.Command
