import ToyLang.Proofs.Faithfulness
import Mathlib.Data.List.Nodup

/-!
# Lines of a generated file

A generated file is a list of lines.  Most of them are code: two slashes never stand side by side
in them, and their parentheses are closed in the same line.  The others begin or end a block, and
hold nothing but a brace and a comment with its label.  A block begins and ends with lines of its
own and has its lines between them.

## Main definitions

* `Bracket.read`, `Nested` — brackets that are closed in the reverse order.
* `IsCode` — text within a line of code.
* `Lines` — the lines of a file, with blocks numbered from one number up to another.

## Main results

* `Nested.count_eq_one` — in nested brackets without repetition, each is opened and closed once.
* `isCode_cpp` — an expression is printed within a line.
* `Stmt.isLines_cpp`, `isLines_cppFile` — every part of a program is printed as such lines.
-/

namespace ToyLang.Source

open Text

/-! ### Brackets -/

/-- The beginning or the end of something. -/
inductive Bracket (α : Type) where
  | opening (a : α)
  | closing (a : α)
  deriving DecidableEq

/-- What begins or ends. -/
def Bracket.subject {α : Type} : Bracket α → α
  | .opening a => a
  | .closing a => a

section

variable {α : Type} [DecidableEq α]

/-- Read a bracket with a stack of what is open.  What ends has to be what was opened last. -/
def Bracket.read (st : List α) : Bracket α → Option (List α)
  | .opening a => some (a :: st)
  | .closing a =>
      match st with
      | [] => none
      | b :: st => if a = b then some st else none

/-- Read brackets one after the other. -/
def readBrackets (st : List α) (bs : List (Bracket α)) : Option (List α) :=
  bs.foldlM Bracket.read st

/-- All that is opened is closed, in the reverse order. -/
def Nested (bs : List (Bracket α)) : Prop := readBrackets [] bs = some []

instance (bs : List (Bracket α)) : Decidable (Nested bs) :=
  inferInstanceAs (Decidable (readBrackets [] bs = some []))

/-- Brackets that leave the stack as it was, whatever is open. -/
def Neutral (bs : List (Bracket α)) : Prop := ∀ st, readBrackets st bs = some st

variable {st st' : List α} {a : α} {b : Bracket α} {bs cs : List (Bracket α)}

/-- A bracket that can be read opens something or closes what was opened last. -/
theorem Bracket.read_eq_some_iff : b.read st = some st' ↔
    (∃ a, b = .opening a ∧ st' = a :: st) ∨ ∃ a, b = .closing a ∧ st = a :: st' := by
  cases b with
  | opening a => simp [read, eq_comm]
  | closing a =>
    cases st with
    | nil => simp [read]
    | cons c st =>
      by_cases hac : a = c
      · simp [read, hac]
      · simp [read, hac, Ne.symm hac]

theorem readBrackets_cons (b : Bracket α) (bs : List (Bracket α)) (st : List α) :
    readBrackets st (b :: bs) = (b.read st).bind fun st' => readBrackets st' bs :=
  List.foldlM_cons

theorem readBrackets_append (bs cs : List (Bracket α)) (st : List α) :
    readBrackets st (bs ++ cs) = (readBrackets st bs).bind fun st' => readBrackets st' cs :=
  List.foldlM_append

/-- What one bracket does does not depend on what stays open below it. -/
theorem Bracket.read_below (h : b.read st = some st') (below : List α) :
    b.read (st ++ below) = some (st' ++ below) := by
  rw [read_eq_some_iff] at h ⊢
  rcases h with ⟨a, rfl, rfl⟩ | ⟨a, rfl, rfl⟩
  · exact .inl ⟨a, rfl, rfl⟩
  · exact .inr ⟨a, rfl, rfl⟩

/-- Nor does what a row of brackets does. -/
theorem readBrackets_below (h : readBrackets st bs = some st') (below : List α) :
    readBrackets (st ++ below) bs = some (st' ++ below) := by
  induction bs generalizing st with
  | nil =>
    obtain rfl := Option.some.inj h
    rfl
  | cons b bs ih =>
    rw [readBrackets_cons] at h
    obtain ⟨mid, hb, hbs⟩ := Option.bind_eq_some_iff.mp h
    rw [readBrackets_cons, Bracket.read_below hb below, Option.bind_some]
    exact ih hbs

/-- What one bracket opens is open then, and what it closes was open. -/
theorem Bracket.count_read (h : b.read st = some st') (a : α) :
    [b].count (.opening a) + st.count a = [b].count (.closing a) + st'.count a := by
  rcases read_eq_some_iff.mp h with ⟨c, rfl, rfl⟩ | ⟨c, rfl, rfl⟩
  · simp [List.count_cons, Nat.add_comm]
  · simp [List.count_cons, Nat.add_comm]

/-- What is opened is closed as often, or open at the end. -/
theorem count_readBrackets (h : readBrackets st bs = some st') (a : α) :
    bs.count (.opening a) + st.count a = bs.count (.closing a) + st'.count a := by
  induction bs generalizing st with
  | nil =>
    obtain rfl := Option.some.inj h
    rfl
  | cons b bs ih =>
    rw [readBrackets_cons] at h
    obtain ⟨mid, hb, hbs⟩ := Option.bind_eq_some_iff.mp h
    have hfirst := Bracket.count_read hb a
    have hrest := ih hbs
    rw [← List.singleton_append, List.count_append, List.count_append]
    omega

theorem Neutral.nested (h : Neutral bs) : Nested bs := h []

theorem Nested.neutral (h : Nested bs) : Neutral bs := fun st => readBrackets_below h st

theorem neutral_nil : Neutral ([] : List (Bracket α)) := fun _ => rfl

theorem Neutral.append (hbs : Neutral bs) (hcs : Neutral cs) : Neutral (bs ++ cs) := by
  intro st
  rw [readBrackets_append, hbs, Option.bind_some, hcs]

theorem Neutral.wrap (h : Neutral bs) (a : α) : Neutral (.opening a :: (bs ++ [.closing a])) := by
  intro st
  have hopen : (Bracket.opening a).read st = some (a :: st) := rfl
  have hclose : (Bracket.closing a).read (a :: st) = some st := if_pos rfl
  rw [readBrackets_cons, hopen, Option.bind_some, readBrackets_append, h, Option.bind_some,
    readBrackets_cons, hclose]
  rfl

/-- In nested brackets without repetition, what occurs is opened once and closed once. -/
theorem Nested.count_eq_one (h : Nested bs) (hnodup : bs.Nodup)
    (ha : .opening a ∈ bs ∨ .closing a ∈ bs) :
    bs.count (.opening a) = 1 ∧ bs.count (.closing a) = 1 := by
  have hcount := count_readBrackets h a
  have hopening := List.nodup_iff_count.mp hnodup (.opening a)
  have hclosing := List.nodup_iff_count.mp hnodup (.closing a)
  rw [← List.count_pos_iff, ← List.count_pos_iff] at ha
  simp only [List.count_nil, Nat.add_zero] at hcount
  omega

end

/-! ### Code -/

/-- The two shapes of brackets in code. -/
inductive BracketShape where
  | round
  | curly
  deriving DecidableEq

/-- The bracket that a character is. -/
def bracket? : Char → Option (Bracket BracketShape)
  | '(' => some (.opening .round)
  | ')' => some (.closing .round)
  | '\x7b' => some (.opening .curly)
  | '\x7d' => some (.closing .curly)
  | _ => none

/-- The brackets among some characters. -/
def brackets (cs : List Char) : List (Bracket BracketShape) := cs.filterMap bracket?

/-- Behind every slash stands a blank. -/
def slashesApart : List Char → Bool
  | [] => true
  | c :: cs => (c != '/' || cs.head? == some ' ') && slashesApart cs

theorem slashesApart_append {cs ds : List Char} (hcs : slashesApart cs = true)
    (hds : slashesApart ds = true) : slashesApart (cs ++ ds) = true := by
  induction cs with
  | nil => exact hds
  | cons c cs ih =>
    simp only [slashesApart, Bool.and_eq_true, Bool.or_eq_true, bne_iff_ne, beq_iff_eq] at hcs
    obtain ⟨hfirst, hcs⟩ := hcs
    simp only [List.cons_append, slashesApart, ih hcs, Bool.and_true, Bool.or_eq_true, bne_iff_ne,
      beq_iff_eq]
    refine hfirst.imp_right fun hhead => ?_
    rw [List.head?_append, hhead, Option.some_or]

/-- Text within a line of code: it has no line break, behind every slash stands a blank, and
brackets are closed. -/
structure IsCode (cs : List Char) : Prop where
  line : '\n' ∉ cs
  slashes : slashesApart cs = true
  neutral : Neutral (brackets cs)

instance : DecidablePred IsCode := fun cs =>
  decidable_of_iff ('\n' ∉ cs ∧ slashesApart cs = true ∧ Nested (brackets cs))
    ⟨fun h => ⟨h.1, h.2.1, h.2.2.neutral⟩, fun h => ⟨h.line, h.slashes, h.neutral.nested⟩⟩

/-- A character that is no bracket, no slash and no line break. -/
def isQuiet (c : Char) : Bool := c != '\n' && c != '/' && (bracket? c).isNone

namespace IsCode

variable {cs ds : List Char}

theorem nil : IsCode [] := ⟨List.not_mem_nil, rfl, neutral_nil⟩

theorem append (hcs : IsCode cs) (hds : IsCode ds) : IsCode (cs ++ ds) where
  line := by
    rw [List.mem_append, not_or]
    exact ⟨hcs.line, hds.line⟩
  slashes := slashesApart_append hcs.slashes hds.slashes
  neutral := by
    rw [brackets, List.filterMap_append]
    exact hcs.neutral.append hds.neutral

theorem of_quiet (h : ∀ c ∈ cs, isQuiet c = true) : IsCode cs := by
  induction cs with
  | nil => exact nil
  | cons c cs ih =>
    obtain ⟨hc, hcs⟩ := List.forall_mem_cons.mp h
    simp only [isQuiet, Bool.and_eq_true, bne_iff_ne, ne_eq, Option.isNone_iff_eq_none] at hc
    obtain ⟨⟨hline, hslash⟩, hbracket⟩ := hc
    have hcode := ih hcs
    refine ⟨?_, ?_, ?_⟩
    · rw [List.mem_cons, not_or]
      exact ⟨Ne.symm hline, hcode.line⟩
    · rw [slashesApart, hcode.slashes]
      simp [hslash]
    · rw [brackets, List.filterMap_cons_none hbracket]
      exact hcode.neutral

theorem parens (h : IsCode cs) : IsCode ('(' :: (cs ++ [')'])) where
  line := by simpa using h.line
  slashes := by
    have hright : slashesApart [')'] = true := rfl
    rw [slashesApart, slashesApart_append h.slashes hright]
    rfl
  neutral := by
    have hbrackets : brackets ('(' :: (cs ++ [')']))
        = .opening .round :: (brackets cs ++ [.closing .round]) := by
      simp [brackets, bracket?]
    rw [hbrackets]
    exact h.neutral.wrap .round

end IsCode

/-- Texts with quiet text between them. -/
theorem isCode_intercalate {texts : List String} (h : ∀ s ∈ texts, IsCode s.toList) :
    IsCode (", ".intercalate texts).toList := by
  have hcomma : IsCode ", ".toList := by decide
  induction texts with
  | nil => exact .nil
  | cons s texts ih =>
    obtain ⟨hs, htexts⟩ := List.forall_mem_cons.mp h
    cases texts with
    | nil => rwa [String.intercalate_singleton]
    | cons t texts =>
      rw [String.intercalate_cons_cons, String.toList_append, String.toList_append]
      exact (hs.append hcomma).append (ih htexts)

/-- A character of a word is quiet, unless it is a slash. -/
theorem isQuiet_of_isSolid {c : Char} (h : isSolid c = true) (hslash : c ≠ '/') :
    isQuiet c = true := by
  obtain ⟨hgap, hdelimiter⟩ := isSolid_iff.mp h
  simp only [isGap, isDelimiter, Bool.or_eq_false_iff, decide_eq_false_iff_not] at hgap hdelimiter
  have hbracket : bracket? c = none := by
    rw [bracket?] <;> simp_all
  simp [isQuiet, hgap.2, hslash, hbracket]

theorem isQuiet_of_isContinue {c : Char} (h : isContinue c = true) : isQuiet c = true := by
  refine isQuiet_of_isSolid (isSolid_of_isContinue h) ?_
  rintro rfl
  exact absurd h (by decide +kernel)

theorem isQuiet_of_isNumeralChar {c : Char} (h : isNumeralChar c = true) : isQuiet c = true := by
  refine isQuiet_of_isSolid (isSolid_of_isNumeralChar h) ?_
  rintro rfl
  exact absurd h (by decide)

theorem isQuiet_of_isName {n : String} (h : isName n = true) :
    ∀ c ∈ n.toList, isQuiet c = true := by
  obtain ⟨c, cs, hcs, hc, hall⟩ := isWord_iff.mp (isWord_of_isName h)
  rw [hcs]
  exact List.forall_mem_cons.mpr ⟨isQuiet_of_isContinue (isContinue_of_isStart hc),
    fun d hd => isQuiet_of_isContinue (hall d hd)⟩

theorem isCode_of_isName {n : String} (h : isName n = true) : IsCode n.toList :=
  .of_quiet (isQuiet_of_isName h)

/-- The text of a finite number is code. -/
theorem isCode_text {x : Binary64} (h : x.isFinite = true) : IsCode x.text.toList := by
  have hlt : x.magnitude < Binary64.infiniteMagnitude := by simpa [Binary64.isFinite] using h
  have hsign : IsCode (signChars x.isNegative) := by
    cases x.isNegative
    · exact .nil
    · decide
  rw [toList_text h]
  exact hsign.append (.of_quiet fun c hc =>
    isQuiet_of_isNumeralChar ((looksPositive_magnitudeText hlt).chars c hc))

/-- Texts with an operator between them. -/
theorem isCode_infix {s t op : String} (hs : IsCode s.toList) (ht : IsCode t.toList)
    (hop : IsCode (" " ++ op ++ " ").toList) : IsCode (s ++ " " ++ op ++ " " ++ t).toList := by
  have htext : s ++ " " ++ op ++ " " ++ t = s ++ (" " ++ op ++ " ") ++ t := by
    simp only [String.append_assoc]
  rw [htext, String.toList_append, String.toList_append]
  exact (hs.append hop).append ht

/-- Behind some text stands other text in parentheses. -/
theorem isCode_parens {s t : String} (hs : IsCode s.toList) (ht : IsCode t.toList) :
    IsCode (s ++ "(" ++ t ++ ")").toList := by
  have hchars : (s ++ "(" ++ t ++ ")").toList = s.toList ++ '(' :: (t.toList ++ [')']) := by simp
  rw [hchars]
  exact hs.append ht.parens

/-- An expression is code. -/
theorem isCode_cpp {e : Expr} (h : e.WellFormed) :
    (∀ x ∈ e.floats, x.isFinite = true) → IsCode e.cpp.toList := by
  induction h with
  | int =>
    intro _
    exact .of_quiet fun c hc => isQuiet_of_isNumeralChar (isNumeralChar_int _ c hc)
  | float n hdigits hfraction =>
    intro hfinite
    exact isCode_text (hfinite _ List.mem_cons_self)
  | @bool value =>
    intro _
    cases value
    · decide
    · decide
  | ident hname =>
    intro _
    exact isCode_of_isName hname
  | @call callee args hname _ ih =>
    intro hfinite
    -- The induction hypothesis is about each argument.
    rw [Expr.floats_call, floatsOfArgs_eq_flatMap, List.forall_mem_flatMap] at hfinite
    rw [Expr.cpp_call]
    refine isCode_parens (isCode_of_isName (isName_mangle hname))
      (isCode_intercalate fun s hs => ?_)
    rw [cppEach_eq_map] at hs
    obtain ⟨a, ha, rfl⟩ := List.mem_map.mp hs
    exact ih a ha (hfinite a ha)
  | @arith op lhs rhs _ _ _ _ ihl ihr =>
    intro hfinite
    obtain ⟨hl, hr⟩ := List.forall_mem_append.mp hfinite
    rw [Expr.cpp_arith]
    refine isCode_infix (ihl hl) (ihr hr) ?_
    cases op <;> decide
  | @compare op lhs rhs _ _ _ _ ihl ihr =>
    intro hfinite
    obtain ⟨hl, hr⟩ := List.forall_mem_append.mp hfinite
    rw [Expr.cpp_compare]
    refine isCode_infix (ihl hl) (ihr hr) ?_
    cases op <;> decide
  | @assign target value hname _ ih =>
    intro hfinite
    have hequals : IsCode " = ".toList := by decide
    rw [Expr.cpp_assign, String.toList_append, String.toList_append]
    exact ((isCode_of_isName hname).append hequals).append (ih hfinite)
  | @paren inner _ ih =>
    intro hfinite
    have hchars : (Expr.paren inner).cpp.toList = '(' :: (inner.cpp.toList ++ [')']) := by
      simp
    rw [hchars]
    exact (ih hfinite).parens

/-! ### Lines -/

/-- The line that the block with number `n` begins with. -/
def startLine (n : Nat) : List Char :=
  '\x7b' :: ' ' :: '/' :: '/' :: (" start: " ++ toString n).toList

/-- The line that a block ends with. -/
def endLine (label : String) : List Char :=
  '\x7d' :: ' ' :: '/' :: '/' :: (" end: " ++ label).toList

/-- Lines of a file, among which the blocks with the numbers from the first one up to the second one
begin and end. -/
inductive Lines : Nat → Nat → List (List Char) → Prop
  | nil {n} : Lines n n []
  /-- A line of code. -/
  | code {n m line rest} (hline : IsCode line) (hrest : Lines n m rest) : Lines n m (line :: rest)
  /-- The lines of a function that every file has, without labels. -/
  | builtin {n k m head body rest} (hhead : IsCode head) (hbody : Lines n k body)
      (hrest : Lines k m rest) : Lines n m ((head ++ ['\x7b']) :: (body ++ ['\x7d'] :: rest))
  /-- The lines of a block with its number. -/
  | labelled {n k m body rest} (hbody : Lines (n + 1) k body) (hrest : Lines k m rest) :
      Lines n m (startLine n :: (body ++ endLine (toString n) :: rest))
  /-- The lines of a block that is the body of a function. -/
  | owned {n k m name body rest} (hname : isName name = true) (hbody : Lines (n + 1) k body)
      (hrest : Lines k m rest) : Lines n m (['\x7b'] :: (body ++ endLine name :: rest))

/-- Lines as a text. -/
def unlines (lines : List (List Char)) : List Char := lines.flatMap fun line => line ++ ['\n']

theorem unlines_cons (line : List Char) (lines : List (List Char)) :
    unlines (line :: lines) = line ++ '\n' :: unlines lines := by
  simp [unlines]

theorem unlines_append (lines lines' : List (List Char)) :
    unlines (lines ++ lines') = unlines lines ++ unlines lines' := List.flatMap_append

/-- A text that consists of such lines. -/
def IsLines (n m : Nat) (text : String) : Prop :=
  ∃ lines, Lines n m lines ∧ text.toList = unlines lines

theorem Lines.append {n k m : Nat} {lines lines' : List (List Char)} (h : Lines n k lines)
    (h' : Lines k m lines') : Lines n m (lines ++ lines') := by
  induction h with
  | nil => exact h'
  | code hline _ ih => exact .code hline (ih h')
  | builtin hhead hbody _ _ ih =>
    rw [List.cons_append, List.append_assoc]
    exact .builtin hhead hbody (ih h')
  | labelled hbody _ _ ih =>
    rw [List.cons_append, List.append_assoc]
    exact .labelled hbody (ih h')
  | owned hname hbody _ _ ih =>
    rw [List.cons_append, List.append_assoc]
    exact .owned hname hbody (ih h')

theorem toList_labelled (n : Nat) (body : String) : (labelled n body).toList
    = '\n' :: (startLine n ++ '\n' :: (body.toList ++ (endLine (toString n) ++ ['\n']))) := by
  have hopen : "\n\x7b // start: ".toList
      = '\n' :: '\x7b' :: ' ' :: '/' :: '/' :: " start: ".toList := by decide
  have hclose : "\x7d // end: ".toList = '\x7d' :: ' ' :: '/' :: '/' :: " end: ".toList := by decide
  have hline : "\n".toList = ['\n'] := by decide
  unfold labelled endLine startLine
  simp only [String.toList_append, hopen, hclose, hline, List.append_assoc, List.cons_append,
    List.nil_append]

theorem toList_owned (function body : String) : (owned function body).toList
    = '\n' :: '\x7b' :: '\n' :: (body.toList ++ (endLine function ++ ['\n'])) := by
  have hopen : "\n\x7b\n".toList = ['\n', '\x7b', '\n'] := by decide
  have hclose : "\x7d // end: ".toList = '\x7d' :: ' ' :: '/' :: '/' :: " end: ".toList := by decide
  have hline : "\n".toList = ['\n'] := by decide
  unfold owned endLine
  simp only [String.toList_append, hopen, hclose, hline, List.append_assoc, List.cons_append,
    List.nil_append]

namespace IsLines

variable {n k m : Nat} {s t head name body : String}

theorem nil : IsLines n n "" := ⟨[], .nil, rfl⟩

theorem append (hs : IsLines n k s) (ht : IsLines k m t) : IsLines n m (s ++ t) := by
  obtain ⟨lines, hlines, hs⟩ := hs
  obtain ⟨lines', hlines', ht⟩ := ht
  refine ⟨lines ++ lines', hlines.append hlines', ?_⟩
  rw [String.toList_append, hs, ht, unlines_append]

theorem code (hs : IsCode s.toList) : IsLines n n (s ++ "\n") := by
  refine ⟨[s.toList], .code hs .nil, ?_⟩
  rw [String.toList_append, unlines_cons]
  rfl

/-- A function that every file has. -/
theorem builtin (hhead : IsCode head.toList) (hbody : IsLines n m body) :
    IsLines n m (head ++ "\x7b\n" ++ body ++ "\x7d\n") := by
  obtain ⟨lines, hlines, hbody⟩ := hbody
  have hopen : "\x7b\n".toList = ['\x7b', '\n'] := by decide
  have hclose : "\x7d\n".toList = ['\x7d', '\n'] := by decide
  refine ⟨_, .builtin hhead hlines .nil, ?_⟩
  simp only [String.toList_append, hopen, hclose, hbody, unlines_cons, unlines_append,
    List.append_assoc, List.cons_append, List.nil_append]
  rfl

/-- A block with its number, behind the line that is its head. -/
theorem labelled (hhead : IsCode head.toList) (hbody : IsLines (n + 1) m body) :
    IsLines n m (head ++ ToyLang.labelled n body) := by
  obtain ⟨lines, hlines, hbody⟩ := hbody
  have hblock : Lines n m (startLine n :: (lines ++ [endLine (toString n)])) :=
    .labelled hlines .nil
  refine ⟨_, .code hhead hblock, ?_⟩
  rw [String.toList_append, toList_labelled, hbody, unlines_cons, unlines_cons, unlines_append,
    unlines_cons]
  rfl

/-- The body of a function, behind the line that is its head. -/
theorem owned (hhead : IsCode head.toList) (hname : isName name = true)
    (hbody : IsLines (n + 1) m body) : IsLines n m (head ++ ToyLang.owned name body) := by
  obtain ⟨lines, hlines, hbody⟩ := hbody
  have hblock : Lines n m (['\x7b'] :: (lines ++ [endLine name])) := .owned hname hlines .nil
  refine ⟨_, .code hhead hblock, ?_⟩
  rw [String.toList_append, toList_owned, hbody, unlines_cons, unlines_cons, unlines_append,
    unlines_cons]
  rfl

end IsLines

/-! ### What is printed -/

/-- The declaration of a variable is a line of code. -/
theorem Binding.isLines_cpp (n : Nat) {b : Binding} (h : b.WellFormed)
    (hfinite : ∀ x ∈ b.init.floats, x.isFinite = true) : IsLines n n b.cpp := by
  have hblank : IsCode " ".toList := by decide
  have hequals : IsCode " = ".toList := by decide
  have hend : IsCode ";".toList := by decide
  have htext : b.cpp = b.type ++ " " ++ b.name ++ " = " ++ b.init.cpp ++ ";" ++ "\n" := by
    have hline : ";\n" = ";" ++ "\n" := by decide
    simp only [Binding.cpp_eq, hline, String.append_assoc]
  rw [htext]
  refine .code ?_
  simp only [String.toList_append]
  exact (((((isCode_of_isName h.type).append hblank).append (isCode_of_isName h.name)).append
    hequals).append (isCode_cpp h.init hfinite)).append hend

/-- An expression behind a word, with a semicolon, is a line of code. -/
theorem isLines_ended (n : Nat) {word : String} (hword : IsCode word.toList) {e : Expr}
    (h : e.WellFormed) (hfinite : ∀ x ∈ e.floats, x.isFinite = true) :
    IsLines n n (word ++ e.cpp ++ ";\n") := by
  have hend : IsCode ";".toList := by decide
  have htext : word ++ e.cpp ++ ";\n" = word ++ e.cpp ++ ";" ++ "\n" := by
    have hline : ";\n" = ";" ++ "\n" := by decide
    simp only [hline, String.append_assoc]
  rw [htext]
  refine .code ?_
  rw [String.toList_append, String.toList_append]
  exact (hword.append (isCode_cpp h hfinite)).append hend

/-- An expression in parentheses behind a word is the head of a block. -/
theorem isLines_guarded {n m : Nat} {word body : String} (hword : IsCode word.toList) {e : Expr}
    (h : e.WellFormed) (hfinite : ∀ x ∈ e.floats, x.isFinite = true)
    (hbody : IsLines (n + 1) m body) :
    IsLines n m (word ++ "(" ++ e.cpp ++ ")" ++ labelled n body) :=
  .labelled (isCode_parens hword (isCode_cpp h hfinite)) hbody

/-- A condition, with what stands before it in its line and what follows its body. -/
theorem isLines_cond {n m k : Nat} {front body rest : String} (hfront : IsCode front.toList)
    {e : Expr} (h : e.WellFormed) (hfinite : ∀ x ∈ e.floats, x.isFinite = true)
    (hbody : IsLines (n + 1) m body) (hrest : IsLines m k rest) :
    IsLines n k (front ++ "\nif (" ++ e.cpp ++ ")" ++ labelled n body ++ rest) := by
  have htext : front ++ "\nif (" ++ e.cpp ++ ")" ++ labelled n body ++ rest
      = front ++ "\n" ++ ("if " ++ "(" ++ e.cpp ++ ")" ++ labelled n body ++ rest) := by
    have hif : "\nif (" = "\n" ++ ("if " ++ "(") := by decide
    simp only [hif, String.append_assoc]
  rw [htext]
  -- the line break that a condition begins with ends the line of what stands before it
  exact (IsLines.code hfront).append
    ((isLines_guarded (by decide) h hfinite hbody).append hrest)

/-- The head of a loop that counts. -/
theorem isCode_counted {var : String} {first bound : Expr} (hvar : isName var = true)
    (hfirst : IsCode first.cpp.toList) (hbound : IsCode bound.cpp.toList) :
    IsCode ("for (long long " ++ var ++ " = " ++ first.cpp ++ "; " ++ var ++ " < " ++ bound.cpp
      ++ "; ++" ++ var ++ ")").toList := by
  have hname := isCode_of_isName hvar
  have htext : "for (long long " ++ var ++ " = " ++ first.cpp ++ "; " ++ var ++ " < " ++ bound.cpp
      ++ "; ++" ++ var ++ ")" = "for " ++ "(" ++ ("long long " ++ var ++ " = " ++ first.cpp ++ "; "
        ++ var ++ " < " ++ bound.cpp ++ "; ++" ++ var) ++ ")" := by
    have hfor : "for (long long " = "for " ++ ("(" ++ "long long ") := by decide
    simp only [hfor, String.append_assoc]
  have hlong : IsCode "long long ".toList := by decide
  have hequals : IsCode " = ".toList := by decide
  have hsemicolon : IsCode "; ".toList := by decide
  have hless : IsCode " < ".toList := by decide
  have hplus : IsCode "; ++".toList := by decide
  rw [htext]
  refine isCode_parens (by decide) ?_
  simp only [String.toList_append]
  exact ((((((((hlong.append hname).append hequals).append hfirst).append hsemicolon).append
    hname).append hless).append hbound).append hplus).append hname

mutual

/-- A statement is printed as lines, with the blocks that open in it. -/
theorem Stmt.isLines_cpp (n : Nat) : (s : Stmt) → s.WellFormed →
    (∀ x ∈ s.floats, x.isFinite = true) → IsLines n (n + s.blocks) (s.cpp n)
  | .bind b, .bind hb, hfinite => b.isLines_cpp n hb hfinite
  | .ret value, .ret hvalue, hfinite => isLines_ended n (by decide) hvalue hfinite
  | .cond test body otherwise, .cond htest hbody hotherwise, hfinite => by
    obtain ⟨hftest, hfbody, hfother⟩ := forall_mem_append_append.mp hfinite
    have hempty : IsCode "".toList := by decide
    have hlines := isLines_cond hempty htest hftest (isLines_cppOfAll (n + 1) body hbody hfbody)
      (otherwise.isLines_cpp (n + 1 + blocksOfAll body) hotherwise hfother)
    rw [String.empty_append] at hlines
    rw [Stmt.cpp_cond, Stmt.blocks_cond, ← Nat.add_assoc, ← Nat.add_assoc]
    exact hlines
  | .loop test body, .loop htest hbody, hfinite => by
    obtain ⟨hftest, hfbody⟩ := List.forall_mem_append.mp hfinite
    have hword : IsCode "while ".toList := by decide
    have hwhile : "while (" = "while " ++ "(" := by decide
    rw [Stmt.cpp_loop, hwhile, Stmt.blocks_loop, ← Nat.add_assoc]
    exact isLines_guarded hword htest hftest (isLines_cppOfAll (n + 1) body hbody hfbody)
  | .count var first bound body, .count hvar hfirst hbound hbody, hfinite => by
    obtain ⟨hffirst, hfbound, hfbody⟩ := forall_mem_append_append.mp hfinite
    have hhead := isCode_counted hvar (isCode_cpp hfirst hffirst) (isCode_cpp hbound hfbound)
    rw [Stmt.cpp_count, Stmt.blocks_count, ← Nat.add_assoc]
    exact .labelled hhead (isLines_cppOfAll (n + 1) body hbody hfbody)
  | .block body, .block hbody, hfinite => by
    have hempty : IsCode "".toList := by decide
    have hblock := IsLines.labelled hempty (isLines_cppOfAll (n + 1) body hbody hfinite)
    rw [String.empty_append] at hblock
    rw [Stmt.cpp_block, Stmt.blocks_block, ← Nat.add_assoc]
    exact hblock
  | .eval value, .eval hvalue, hfinite => by
    have hempty : IsCode "".toList := by decide
    have hline := isLines_ended n hempty hvalue hfinite
    rwa [String.empty_append] at hline

theorem Else.isLines_cpp (n : Nat) : (o : Else) → o.WellFormed →
    (∀ x ∈ o.floats, x.isFinite = true) → IsLines n (n + o.blocks) (o.cpp n)
  | .none, .none, _ => .nil
  | .block body, .block hbody, hfinite => by
    rw [Else.cpp_block, Else.blocks_block, ← Nat.add_assoc]
    exact .labelled (by decide) (isLines_cppOfAll (n + 1) body hbody hfinite)
  | .cond test body otherwise, .cond htest hbody hotherwise, hfinite => by
    obtain ⟨hftest, hfbody, hfother⟩ := forall_mem_append_append.mp hfinite
    have hword : IsCode "else".toList := by decide
    have hif : "else\nif (" = "else" ++ "\nif (" := by decide
    rw [Else.cpp_cond, hif, Else.blocks_cond, ← Nat.add_assoc, ← Nat.add_assoc]
    exact isLines_cond hword htest hftest (isLines_cppOfAll (n + 1) body hbody hfbody)
      (otherwise.isLines_cpp (n + 1 + blocksOfAll body) hotherwise hfother)

theorem isLines_cppOfAll (n : Nat) : (ss : List Stmt) → (∀ s ∈ ss, s.WellFormed) →
    (∀ x ∈ floatsOfAll ss, x.isFinite = true) → IsLines n (n + blocksOfAll ss) (cppOfAll n ss)
  | [], _, _ => .nil
  | s :: ss, hwell, hfinite => by
    obtain ⟨hs, hss⟩ := List.forall_mem_cons.mp hwell
    obtain ⟨hfs, hfss⟩ := List.forall_mem_append.mp hfinite
    have hrest := isLines_cppOfAll (n + s.blocks) ss hss hfss
    rw [Nat.add_assoc] at hrest
    exact (s.isLines_cpp n hs hfs).append hrest

end

/-- A parameter is code. -/
theorem isCode_params {ps : List Param}
    (h : ∀ p ∈ ps, isName p.name = true ∧ isName p.type = true) :
    IsCode (", ".intercalate (ps.map fun p => p.type ++ " " ++ p.name)).toList := by
  have hblank : IsCode " ".toList := by decide
  refine isCode_intercalate fun s hs => ?_
  obtain ⟨p, hp, rfl⟩ := List.mem_map.mp hs
  obtain ⟨hname, htype⟩ := h p hp
  rw [String.toList_append, String.toList_append]
  exact ((isCode_of_isName htype).append hblank).append (isCode_of_isName hname)

/-- A function is printed as lines: a head, its body, and a line without anything. -/
theorem Function.isLines_cpp (n : Nat) {f : Function} (h : f.WellFormed)
    (hfinite : ∀ x ∈ floatsOfAll f.body, x.isFinite = true) :
    IsLines n (n + (1 + blocksOfAll f.body)) (f.cpp n) := by
  have hblank : IsCode " ".toList := by decide
  have hempty : IsCode "".toList := by decide
  have hname := isName_mangle h.name
  have hfront : IsCode (f.result ++ " " ++ Cpp.mangle f.name).toList := by
    rw [String.toList_append, String.toList_append]
    exact ((isCode_of_isName h.result).append hblank).append (isCode_of_isName hname)
  have hbody := IsLines.owned (isCode_parens hfront (isCode_params h.params)) hname
    (isLines_cppOfAll (n + 1) f.body h.body hfinite)
  rw [← Nat.add_assoc]
  exact hbody.append (.code hempty)

theorem Item.isLines_cpp (n : Nat) {i : Item} (h : i.WellFormed)
    (hfinite : ∀ x ∈ i.floats, x.isFinite = true) : IsLines n (n + i.blocks) (i.cpp n) := by
  cases i with
  | function f => exact Function.isLines_cpp n h hfinite
  | bind b => exact Binding.isLines_cpp n h hfinite

theorem isLines_cppOfItems (n : Nat) {items : List Item} (h : ∀ i ∈ items, i.WellFormed)
    (hfinite : ∀ i ∈ items, ∀ x ∈ i.floats, x.isFinite = true) :
    IsLines n (n + blocksOfItems items) (cppOfItems n items) := by
  induction items generalizing n with
  | nil => exact .nil
  | cons i items ih =>
    obtain ⟨hi, hitems⟩ := List.forall_mem_cons.mp h
    obtain ⟨hfi, hfitems⟩ := List.forall_mem_cons.mp hfinite
    rw [blocksOfItems_cons, ← Nat.add_assoc]
    exact (Item.isLines_cpp n hi hfi).append (ih _ hitems hfitems)

/-- A function that prints a number. -/
theorem isLines_printer (n : Nat) {head : String} (hhead : IsCode head.toList) :
    IsLines n n (head ++ "\x7b\n" ++ ("std::cout << arg << std::endl;" ++ "\n") ++ "\x7d\n") :=
  .builtin hhead (.code (by decide))

/-- What stands before the declarations of a program. -/
theorem isLines_front (n : Nat) : IsLines n n (prelude ++ "\n\n") := by
  have hempty : IsLines n n ("" ++ "\n") := .code .nil
  have hbreaks : IsLines n n "\n\n" := by
    have htext : "\n\n" = "" ++ "\n" ++ ("" ++ "\n") := by decide
    rw [htext]
    exact hempty.append hempty
  have hinclude : IsLines n n "#include <iostream>\n\n" := by
    have htext : "#include <iostream>\n\n" = "#include <iostream>" ++ "\n" ++ ("" ++ "\n") := by
      decide
    rw [htext]
    exact (IsLines.code (by decide)).append hempty
  have hinteger : IsLines n n
      "void printi(long long arg) \x7b\nstd::cout << arg << std::endl;\n\x7d\n\n" := by
    have htext : "void printi(long long arg) \x7b\nstd::cout << arg << std::endl;\n\x7d\n\n"
        = "void printi(long long arg) " ++ "\x7b\n" ++ ("std::cout << arg << std::endl;" ++ "\n")
          ++ "\x7d\n" ++ ("" ++ "\n") := by decide +kernel
    rw [htext]
    exact (isLines_printer n (by decide)).append hempty
  have hfloat : IsLines n n
      "void printd(double arg) \x7b\nstd::cout << arg << std::endl;\n\x7d\n" := by
    have htext : "void printd(double arg) \x7b\nstd::cout << arg << std::endl;\n\x7d\n"
        = "void printd(double arg) " ++ "\x7b\n" ++ ("std::cout << arg << std::endl;" ++ "\n")
          ++ "\x7d\n" := by decide +kernel
    rw [htext]
    exact isLines_printer n (by decide)
  exact ((hinclude.append hinteger).append hfloat).append hbreaks

/-- What stands behind them. -/
theorem isLines_back (n : Nat) : IsLines n n ("\n" ++ epilogue) := by
  have hbreak : "\n" = "" ++ "\n" := by decide
  have hmain : epilogue = "int main(int argc, char** argv) " ++ "\x7b\n"
      ++ ("main__func__();" ++ "\n" ++ ("return 0;" ++ "\n")) ++ "\x7d\n" := by decide +kernel
  have hcall : IsLines n n ("main__func__();" ++ "\n") := .code (by decide)
  have hreturn : IsLines n n ("return 0;" ++ "\n") := .code (by decide)
  have hempty : IsLines n n "\n" := hbreak ▸ .code .nil
  rw [hmain]
  exact hempty.append (.builtin (by decide) (hcall.append hreturn))

/-- The file of a program consists of lines. -/
theorem isLines_cppFile {items : List Item} (h : ∀ i ∈ items, i.WellFormed)
    (hfinite : ∀ i ∈ items, ∀ x ∈ i.floats, x.isFinite = true) :
    IsLines 1 (1 + blocksOfItems items) (cppFile items) := by
  rw [cppFile_eq, String.append_assoc]
  exact ((isLines_front 1).append (isLines_cppOfItems 1 h hfinite)).append (isLines_back _)

end ToyLang.Source
