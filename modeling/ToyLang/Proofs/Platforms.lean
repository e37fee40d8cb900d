import ToyLang.Command.Session

/-!
# Runs on platforms with laws

A platform obeys a few laws, which say what reading and writing give and what they leave alone.  A
run reads its source, which has to be the UTF-8 form of a list of declarations that has a C++ text.
If one of these stages fails, the failure is reported and the run ends.  If none fails and no run
of the result is asked for, the C++ text is written.

## Main definitions

* `View` — what can be seen of the states of a platform.
* `View.Keeps` — what reading and reporting leave alone.
* `Platform.Obeys` — the laws of a platform.
* `View.Translates`, `View.Fails` — all stages succeed, or one of them fails.
* `Session.Proceeds`, `Session.Refuses` — an action comes to its end, or ends the run with a report.

## Main results

* `View.fails_iff` — a stage fails if and only if there is no translation.
* `Platform.run_of_fails` — a run on which a stage fails.
* `Platform.run_of_translates` — a run on which none fails, and which prints the text.
-/

namespace ToyLang.Command

variable {σ α β γ : Type}

/-! ### Platforms with laws -/

/-- What can be seen of the states of a platform. -/
structure View (σ : Type) where
  /-- What is found in the file at a path. -/
  file : σ → String → Except SystemError ByteArray
  /-- What is found on standard input. -/
  input : σ → Except SystemError ByteArray
  /-- What was written to standard output. -/
  shown : σ → ByteArray
  /-- How often a program was to be started. -/
  started : σ → Nat
  /-- Standard output can be written to. -/
  takesOutput : σ → Prop
  /-- Standard error can be written to. -/
  takesErrors : σ → Prop

/-- From one state to another nothing was written to standard output and no program was started, and
what could be written to can still be written to. -/
structure View.Keeps (v : View σ) (s s' : σ) : Prop where
  shown : v.shown s' = v.shown s
  started : v.started s' = v.started s
  takesOutput : v.takesOutput s → v.takesOutput s'
  takesErrors : v.takesErrors s → v.takesErrors s'

/-- The laws of a platform of which one sees this. -/
structure Platform.Obeys (P : Platform σ α) (v : View σ) : Prop where
  /-- Reading a file gives what is found there. -/
  readFile_found (s : σ) (path : String) : (P.readFile path s).1 = v.file s path
  readFile_keeps (s : σ) (path : String) : v.Keeps s (P.readFile path s).2
  /-- Reading standard input gives what is found on it. -/
  readInput_found (s : σ) : (P.readInput s).1 = v.input s
  readInput_keeps (s : σ) : v.Keeps s (P.readInput s).2
  /-- Writing to standard error succeeds where it can be written to. -/
  complain_succeeds (s : σ) (text : String) :
    v.takesErrors s → (P.complain text s).1 = .ok ()
  complain_keeps (s : σ) (text : String) : v.Keeps s (P.complain text s).2
  /-- Where standard output can be written to, all of a text gets there. -/
  print_shows (s : σ) (text : String) : v.takesOutput s →
    (P.print text s).1 = .ok () ∧ v.shown (P.print text s).2 = v.shown s ++ text.toUTF8
  /-- No start of a program goes unnoticed. -/
  start_counts (s : σ) (program : String) (arguments : List String) :
    v.started s < v.started (P.start program arguments s).2

namespace View.Keeps

variable {v : View σ} {s₁ s₂ s₃ : σ}

theorem refl (s : σ) : v.Keeps s s := ⟨rfl, rfl, id, id⟩

theorem trans (h : v.Keeps s₁ s₂) (h' : v.Keeps s₂ s₃) : v.Keeps s₁ s₃ :=
  ⟨h'.shown.trans h.shown, h'.started.trans h.started, h'.takesOutput ∘ h.takesOutput,
    h'.takesErrors ∘ h.takesErrors⟩

end View.Keeps

/-! ### The source -/

namespace View

variable (v : View σ) (s : σ) (o : Options)

/-- The bytes of the source: those of the file that is named, or those of standard input. -/
def source : Except SystemError ByteArray :=
  match o.file with
  | some path => v.file s path
  | none => v.input s

/-- All stages succeed: what is found is the UTF-8 form of a text, this is a list of declarations,
and they have the C++ text `code`. -/
def Translates (code : String) : Prop :=
  ∃ text items, v.source s o = .ok text.toUTF8 ∧ Source.parse text = .ok items ∧
    (ToyLang.compile items).result = .ok code

/-- A stage fails. -/
inductive Fails : Prop where
  /-- The source cannot be read. -/
  | unreadable {e : SystemError} (hfound : v.source s o = .error e)
  /-- What is found is not the UTF-8 form of any text. -/
  | notText {bytes : ByteArray} (hfound : v.source s o = .ok bytes)
      (hbytes : ∀ text : String, text.toUTF8 ≠ bytes)
  /-- The text is no list of declarations. -/
  | faulty {text : String} {faults : List Source.Fault} (hfound : v.source s o = .ok text.toUTF8)
      (hparse : Source.parse text = .error faults)
  /-- The declarations have no C++ text. -/
  | refused {text : String} {items : List Source.Item} {e : Error}
      (hfound : v.source s o = .ok text.toUTF8) (hparse : Source.parse text = .ok items)
      (hcompile : (ToyLang.compile items).result = .error e)

end View

/-- The text with a UTF-8 form is found from this form, and from no other bytes. -/
theorem fromUTF8?_eq_some_iff {bytes : ByteArray} {text : String} :
    String.fromUTF8? bytes = some text ↔ text.toUTF8 = bytes := by
  rw [String.fromUTF8?]
  constructor
  · intro h
    split at h
    · cases h
      rfl
    · cases h
  · rintro rfl
    exact dif_pos text.isValidUTF8

theorem textOf_toUTF8 (text : String) : textOf text.toUTF8 = .ok text := by
  rw [textOf, fromUTF8?_eq_some_iff.mpr rfl]

theorem exists_textOf_eq_error {bytes : ByteArray} (h : ∀ text : String, text.toUTF8 ≠ bytes) :
    ∃ e, textOf bytes = .error e := by
  have hnone : String.fromUTF8? bytes = none :=
    Option.eq_none_iff_forall_ne_some.mpr fun text htext => h text (fromUTF8?_eq_some_iff.mp htext)
  rw [textOf, hnone]
  exact ⟨_, rfl⟩

namespace View

variable {v : View σ} {s : σ} {o : Options}

/-- One of the stages fails, or all succeed. -/
theorem fails_or_translates (v : View σ) (s : σ) (o : Options) :
    v.Fails s o ∨ ∃ code, v.Translates s o code := by
  cases hfound : v.source s o with
  | error e => exact .inl (.unreadable hfound)
  | ok bytes =>
    cases htext : String.fromUTF8? bytes with
    | none =>
      refine .inl (.notText hfound fun text hbytes => ?_)
      rw [fromUTF8?_eq_some_iff.mpr hbytes] at htext
      cases htext
    | some text =>
      obtain rfl := fromUTF8?_eq_some_iff.mp htext
      cases hparse : Source.parse text with
      | error faults => exact .inl (.faulty hfound hparse)
      | ok items =>
        cases hcompile : (ToyLang.compile items).result with
        | error e => exact .inl (.refused hfound hparse hcompile)
        | ok code => exact .inr ⟨code, text, items, hfound, hparse, hcompile⟩

end View

/-! ### Sessions -/

namespace Session

variable {v : View σ} {s s' : σ} {x : Session σ β} {f : β → Session σ γ}

/-- What an action comes to in a state: its result or the exit code of the run, and the state that
it leaves. -/
def exec (x : Session σ β) (s : σ) : Except Nat β × σ := x.run.run s

theorem exec_bind_ok {b : β} (h : x.exec s = (.ok b, s')) :
    exec (x >>= f) s = (f b).exec s' := by
  change (x.run >>= ExceptT.bindCont f).run s = _
  rw [exec] at h
  rw [StateT.run_bind, h]
  rfl

theorem exec_bind_error {code : Nat} (h : x.exec s = (.error code, s')) :
    exec (x >>= f) s = (.error code, s') := by
  change (x.run >>= ExceptT.bindCont f).run s = _
  rw [exec] at h
  rw [StateT.run_bind, h]
  rfl

/-- What a platform does ends no run by itself. -/
theorem exec_lift (m : StateM σ β) (s : σ) :
    exec (liftM m : Session σ β) s = (.ok (m s).1, (m s).2) := rfl

/-- An action comes to its end, and leaves alone what reading and reporting leave alone. -/
def Proceeds (v : View σ) (x : Session σ β) (s : σ) (b : β) : Prop :=
  ∃ s', x.exec s = (.ok b, s') ∧ v.Keeps s s'

/-- A failure is reported and the run ends, with the exit code 1.  If standard error cannot be
written to, it may be the exit code of a run that cannot report what it has to. -/
def Refuses (v : View σ) (x : Session σ β) (s : σ) : Prop :=
  ∃ code s', x.exec s = (.error code, s') ∧ v.Keeps s s' ∧ (code = 1 ∨ code = panicCode) ∧
    (v.takesErrors s → code = 1)

theorem proceeds_pure (v : View σ) (b : β) (s : σ) : Proceeds v (pure b) s b :=
  ⟨s, rfl, .refl s⟩

theorem Proceeds.bind {b : β} {c : γ} (hx : Proceeds v x s b) (hf : ∀ s', Proceeds v (f b) s' c) :
    Proceeds v (x >>= f) s c := by
  obtain ⟨s', hexec, hkeeps⟩ := hx
  obtain ⟨s'', hexec', hkeeps'⟩ := hf s'
  exact ⟨s'', (exec_bind_ok hexec).trans hexec', hkeeps.trans hkeeps'⟩

theorem Proceeds.refuses {b : β} (hx : Proceeds v x s b) (hf : ∀ s', Refuses v (f b) s') :
    Refuses v (x >>= f) s := by
  obtain ⟨s', hexec, hkeeps⟩ := hx
  obtain ⟨code, s'', hexec', hkeeps', hcode, hone⟩ := hf s'
  exact ⟨code, s'', (exec_bind_ok hexec).trans hexec', hkeeps.trans hkeeps', hcode,
    hone ∘ hkeeps.takesErrors⟩

theorem Refuses.bind (hx : Refuses v x s) : Refuses v (x >>= f) s := by
  obtain ⟨code, s', hexec, hrest⟩ := hx
  exact ⟨code, s', exec_bind_error hexec, hrest⟩

theorem proceeds_lift {m : StateM σ β} (h : v.Keeps s (m s).2) : Proceeds v (liftM m) s (m s).1 :=
  ⟨_, rfl, h⟩

/-- Steps that come to their ends one by one come to their ends together. -/
theorem proceeds_forM {ι : Type} {step : ι → Session σ PUnit}
    (h : ∀ i s, Proceeds v (step i) s ⟨⟩) (is : List ι) (s : σ) :
    Proceeds v (is.forM step) s ⟨⟩ := by
  induction is generalizing s with
  | nil => exact proceeds_pure v _ s
  | cons i is ih => exact (h i s).bind ih

end Session

open Session

/-! ### Reports -/

namespace Platform

variable {P : Platform σ α} {v : View σ} (hP : P.Obeys v) (o : Options) (s : σ)
include hP

theorem log_proceeds (line : LogLine) : Proceeds v (P.log o line) s ⟨⟩ := by
  rw [log]
  split
  · exact (proceeds_lift (hP.complain_keeps s _)).bind fun s' => proceeds_pure v _ s'
  · exact proceeds_pure v _ s

/-- What cannot be reported ends the run as well. -/
theorem refuse_refuses (text : String) : Refuses v (P.refuse text : Session σ β) s := by
  have hkeeps := hP.complain_keeps s text
  cases hresult : (P.complain text s).1 with
  | ok _ =>
    have hreport : exec (P.report text) s = (.ok (), (P.complain text s).2) := by
      rw [report, exec_bind_ok (exec_lift _ _), hresult]
      rfl
    exact ⟨1, _, exec_bind_ok hreport, hkeeps, .inl rfl, fun _ => rfl⟩
  | error e =>
    have hreport : exec (P.report text) s = (.error panicCode, (P.complain text s).2) := by
      rw [report, exec_bind_ok (exec_lift _ _), hresult]
      rfl
    refine ⟨panicCode, _, exec_bind_error hreport, hkeeps, .inr rfl, fun htakes => ?_⟩
    rw [hP.complain_succeeds s text htakes] at hresult
    cases hresult

theorem fail_refuses (failure : Failure) : Refuses v (P.fail o failure : Session σ β) s := by
  cases failure with
  | unreadable e => exact refuse_refuses hP s _
  | refused e => exact refuse_refuses hP s _
  | faulty source faults =>
    -- whether the faults can be reported or not, the run ends here
    let text := Source.reportAll o.sourceName source faults
    refine Proceeds.refuses (proceeds_lift (hP.complain_keeps s text)) fun s' => ?_
    cases (P.complain text s).1 with
    | ok _ => exact ⟨1, s', rfl, .refl s', .inl rfl, fun _ => rfl⟩
    | error e => exact refuse_refuses hP s' _

/-! ### Stages -/

/-- Reading gives the text that has the bytes of the source as its UTF-8 form. -/
theorem readSource_proceeds :
    Proceeds v (liftM (P.readSource o)) s ((v.source s o).bind textOf) := by
  rw [readSource, View.source]
  cases o.file with
  | some path =>
    dsimp only
    rw [← hP.readFile_found s path]
    exact ⟨_, rfl, hP.readFile_keeps s path⟩
  | none =>
    dsimp only
    rw [← hP.readInput_found s]
    exact ⟨_, rfl, hP.readInput_keeps s⟩

/-- A source text that has been read is refused if a stage fails on it. -/
theorem translate_of_error {text : String} {failure : Failure}
    (hsource : v.source s o = .ok text.toUTF8)
    (hfailure : (compileText o.sourceName text).result = .error failure) :
    Refuses v (P.translate o) s := by
  have hread := readSource_proceeds hP o s
  rw [hsource, Except.bind, textOf_toUTF8] at hread
  refine hread.refuses fun s' => ?_
  refine (proceeds_forM (fun line s => log_proceeds hP o s line) _ s').refuses fun s'' => ?_
  rw [hfailure]
  exact fail_refuses hP o s'' failure

/-- A source that cannot be read as a text is refused. -/
theorem translate_of_unread {e : SystemError} (h : (v.source s o).bind textOf = .error e) :
    Refuses v (P.translate o) s := by
  have hread := readSource_proceeds hP o s
  rw [h] at hread
  exact hread.refuses fun s' => fail_refuses hP o s' _

variable {o s}

/-- If a stage fails, this is all that is reported, before anything is written or started. -/
theorem compile_refuses (h : v.Fails s o) : Refuses v (P.compile o) s := by
  refine Refuses.bind ?_
  cases h with
  | unreadable hfound => exact translate_of_unread hP o s (by rw [hfound]; rfl)
  | @notText bytes hfound hbytes =>
    obtain ⟨e, he⟩ := exists_textOf_eq_error hbytes
    exact translate_of_unread hP o s (by rw [hfound]; exact he)
  | @faulty text faults hfound hparse =>
    have hstages : (compileText o.sourceName text).result = .error (.faulty text faults) := by
      simp only [compileText, hparse]
    exact translate_of_error hP o s hfound hstages
  | @refused text items e hfound hparse hcompile =>
    have hstages : (compileText o.sourceName text).result = .error (.refused e) := by
      simp only [compileText, hparse, hcompile]
      rfl
    exact translate_of_error hP o s hfound hstages

theorem translate_proceeds {code : String} (h : v.Translates s o code) :
    Proceeds v (P.translate o) s code := by
  obtain ⟨text, items, hfound, hparse, hcompile⟩ := h
  have hstages : (compileText o.sourceName text).result = .ok code := by
    simp only [compileText, hparse, hcompile]
    rfl
  have hread := readSource_proceeds hP o s
  rw [hfound, Except.bind, textOf_toUTF8] at hread
  refine hread.bind fun s' => ?_
  refine (proceeds_forM (fun line s => log_proceeds hP o s line) _ s').bind fun s'' => ?_
  rw [hstages]
  exact proceeds_pure v code s''

/-- Where no run is asked for, a translation is written to standard output. -/
theorem compile_prints (hquiet : o.run = false) (houtput : v.takesOutput s) {code : String}
    (h : v.Translates s o code) : ∃ s', (P.compile o).exec s = (.ok 0, s') ∧
      v.shown s' = v.shown s ++ code.toUTF8 := by
  obtain ⟨s', hexec, hkeeps⟩ := translate_proceeds hP h
  obtain ⟨hprinted, hshown⟩ := hP.print_shows s' code (hkeeps.takesOutput houtput)
  refine ⟨_, ?_, hshown.trans (by rw [hkeeps.shown])⟩
  rw [compile, exec_bind_ok hexec, if_neg (by simp [hquiet]), exec_bind_ok (exec_lift _ _),
    hprinted]
  rfl

/-! ### Runs -/

omit hP in
/-- A run that is asked to compile has the exit code with which compiling ends. -/
theorem run_eq {args : List String} (hargs : Request.ofArgs args = .ok (.compile o)) {s' : σ}
    {code : Nat} (h : (P.compile o).exec s = (.ok code, s') ∨
      (P.compile o).exec s = (.error code, s')) : P.run args s = (code, s') := by
  have hsettled : ∃ r, (P.compile o).run.run s = (r, s') ∧ (r = .ok code ∨ r = .error code) := by
    rcases h with h | h
    · exact ⟨_, h, .inl rfl⟩
    · exact ⟨_, h, .inr rfl⟩
  obtain ⟨r, hr, hcode⟩ := hsettled
  rw [run, hargs]
  refine (StateT.run_bind ..).trans ?_
  rw [hr]
  rcases hcode with rfl | rfl <;> rfl

variable {args : List String} (hargs : Request.ofArgs args = .ok (.compile o))
include hargs

/-- **A run on which a stage fails** ends before anything is written or started. -/
theorem run_of_fails (h : v.Fails s o) : ∃ code s', P.run args s = (code, s') ∧ v.Keeps s s' ∧
    (code = 1 ∨ code = panicCode) ∧ (v.takesErrors s → code = 1) := by
  obtain ⟨code, s', hexec, hrest⟩ := compile_refuses hP h
  exact ⟨code, s', run_eq hargs (.inr hexec), hrest⟩

/-- **A run that prints** a translation. -/
theorem run_of_translates (hquiet : o.run = false) (houtput : v.takesOutput s) {code : String}
    (h : v.Translates s o code) :
    ∃ s', P.run args s = (0, s') ∧ v.shown s' = v.shown s ++ code.toUTF8 := by
  obtain ⟨s', hexec, hshown⟩ := compile_prints hP hquiet houtput h
  exact ⟨s', run_eq hargs (.inl hexec), hshown⟩

end Platform

/-- **A stage fails if and only if there is no translation.** -/
theorem View.fails_iff {v : View σ} {s : σ} {o : Options} :
    v.Fails s o ↔ ¬ ∃ code, v.Translates s o code := by
  refine ⟨?_, (v.fails_or_translates s o).resolve_right⟩
  rintro hfails ⟨code, text, items, hfound, hparse, hcompile⟩
  cases hfails with
  | unreadable h =>
    rw [hfound] at h
    cases h
  | notText h hbytes =>
    rw [hfound] at h
    exact hbytes text (Except.ok.inj h)
  | faulty h hparse' =>
    rw [hfound] at h
    obtain rfl := String.toByteArray_inj.mp (Except.ok.inj h)
    rw [hparse] at hparse'
    cases hparse'
  | refused h hparse' hcompile' =>
    rw [hfound] at h
    obtain rfl := String.toByteArray_inj.mp (Except.ok.inj h)
    rw [hparse] at hparse'
    cases hparse'
    rw [hcompile] at hcompile'
    cases hcompile'

end ToyLang.Command
