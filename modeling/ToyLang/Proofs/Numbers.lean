import ToyLang.Proofs.Faithfulness
import ToyLang.Proofs.FloatLiterals

/-!
# The numbers of a generated file

C++ cuts a text into words and numbers by reading it once from the left, with a few places to keep
apart: a number goes on through letters, digits and points, and through a sign behind an exponent; a
comment, up to the end of its line.  A minus sign in front of a number is an operator of its own.
Read like this, a generated file has the numbers of the program in their order, each as it is
written, and the zero that `main` returns; the numbers in its labels and names do not count.

## Main definitions

* `Cpp.Place`, `Cpp.scan`, `Cpp.numbersOf` — the numbers that C++ finds in a text.
* `Expr.constant?` — the constant that an expression is.
* `Constant.written` — a constant as it is written.

## Main results

* `Cpp.Closed.append`, `Cpp.Holds.between` — the numbers of a text are those of its parts.
* `numbersOf_cppFile` — **the numbers of a generated file.**
-/

namespace ToyLang.Cpp

open Text

/-! ### Numbers in a text -/

/-- A number as C++ finds it, and whether a minus sign touches it from the left. -/
structure Number where
  negative : Bool
  chars : List Char
  deriving DecidableEq, Repr

/-- A number without a point, an exponent or a suffix. -/
def Number.isInteger (n : Number) : Bool := n.chars.all Char.isDigit

/-- Where the reader of a text stands: between words, behind a sign or a slash, in a comment, in a
word, or in a number, with the characters of it so far. -/
inductive Place where
  | gap
  | minus
  | slash
  | comment
  | word
  | number (negative : Bool) (chars : List Char)
  deriving DecidableEq

/-- The place behind a character that begins something. -/
def Place.enter (c : Char) : Place :=
  if c.isDigit then .number false [c]
  else if isStart c then .word
  else if c = '-' then .minus
  else if c = '/' then .slash
  else .gap

/-- Whether a number goes on in a character. -/
def goesOn (chars : List Char) (c : Char) : Bool :=
  isContinue c || c = '.' ||
    ((c = '+' || c = '-') && chars.getLast?.any fun d => d = 'e' || d = 'E')

/-- The number that is left at a place. -/
def Place.pending : Place → List Number
  | number negative chars => [⟨negative, chars⟩]
  | _ => []

/-- One character further: the numbers that end before it, and the place behind it. -/
def Place.step : Place → Char → List Number × Place
  | gap, c => ([], enter c)
  | minus, c => ([], if c.isDigit then number true [c] else enter c)
  | slash, c => ([], if c = '/' then comment else enter c)
  | comment, c => ([], if c = '\n' then gap else comment)
  | word, c => ([], if isContinue c then word else enter c)
  | number negative chars, c =>
      if goesOn chars c then ([], number negative (chars ++ [c]))
      else ([⟨negative, chars⟩], enter c)

/-- The numbers that end within a text, and the place behind it. -/
def scan (p : Place) : List Char → List Number × Place
  | [] => ([], p)
  | c :: cs => ((p.step c).1 ++ (scan (p.step c).2 cs).1, (scan (p.step c).2 cs).2)

/-- The numbers of a text.  String literals and comments over several lines, which no generated file
has, are not told apart. -/
def numbersOf (text : String) : List Number :=
  (scan .gap text.toList).1 ++ (scan .gap text.toList).2.pending

theorem scan_append (p : Place) (cs ds : List Char) :
    scan p (cs ++ ds)
      = ((scan p cs).1 ++ (scan (scan p cs).2 ds).1, (scan (scan p cs).2 ds).2) := by
  induction cs generalizing p with
  | nil => simp [scan]
  | cons c cs ih => rw [List.cons_append, scan, ih, scan, List.append_assoc]

theorem scan_cons_of_step {p q : Place} {c : Char} (h : p.step c = ([], q)) (cs : List Char) :
    scan p (c :: cs) = scan q cs := by
  rw [scan, h]
  rfl

/-! ### Parts of a text -/

/-- Neither a word nor a number goes on in the character. -/
def stops (c : Char) : Bool := !isContinue c && c != '.' && c != '+' && c != '-'

/-- A place behind a whole word or number. -/
def Place.Open : Place → Prop
  | gap | word | number _ _ => True
  | minus | slash | comment => False

theorem Place.step_of_stops {p : Place} (hp : p.Open) {c : Char} (hc : stops c = true) :
    p.step c = (p.pending, enter c) := by
  simp only [stops, Bool.and_eq_true, Bool.not_eq_true', bne_iff_ne] at hc
  obtain ⟨⟨⟨hcontinue, hpoint⟩, hplus⟩, hminus⟩ := hc
  cases p with
  | gap => rfl
  | word => simp [step, hcontinue, pending]
  | number negative chars => simp [step, goesOn, hcontinue, hpoint, hplus, hminus, pending]
  | minus => exact hp.elim
  | slash => exact hp.elim
  | comment => exact hp.elim

/-- A text with certain numbers that ends where something else may begin. -/
def Closed (text : String) (ns : List Number) : Prop := scan .gap text.toList = (ns, .gap)

instance (text : String) (ns : List Number) : Decidable (Closed text ns) :=
  inferInstanceAs (Decidable (_ = _))

/-- A text with certain numbers, the last of which may end with it. -/
def Holds (text : String) (ns : List Number) : Prop :=
  (scan .gap text.toList).2.Open ∧
    (scan .gap text.toList).1 ++ (scan .gap text.toList).2.pending = ns

/-- A text that separates words and numbers. -/
def Separates (text : String) : Prop := Closed text [] ∧ text.toList.head?.any stops = true

instance : DecidablePred Separates := fun _ => inferInstanceAs (Decidable (_ ∧ _))

variable {s t : String} {ns ms : List Number}

theorem closed_empty : Closed "" [] := rfl

theorem Closed.toHolds (hs : Closed s ns) : Holds s ns := by
  rw [Holds, hs]
  exact ⟨trivial, List.append_nil ns⟩

theorem Closed.append (hs : Closed s ns) (ht : Closed t ms) : Closed (s ++ t) (ns ++ ms) := by
  rw [Closed, String.toList_append, scan_append, hs, ht]

theorem Closed.holds (hs : Closed s ns) (ht : Holds t ms) : Holds (s ++ t) (ns ++ ms) := by
  rw [Holds, String.toList_append, scan_append, hs]
  exact ⟨ht.1, by rw [List.append_assoc, ht.2]⟩

/-- A part ends where one stands that begins with a separator. -/
theorem Holds.append (hs : Holds s ns) (ht : Closed t ms)
    (hstop : t.toList.head?.any stops = true) : Closed (s ++ t) (ns ++ ms) := by
  obtain ⟨hopen, rfl⟩ := hs
  rw [Closed, String.toList_append, scan_append]
  rw [Closed] at ht
  cases hcs : t.toList with
  | nil =>
    rw [hcs] at hstop
    exact absurd hstop (by decide)
  | cons c cs =>
    have hc : stops c = true := by simpa [hcs] using hstop
    rw [hcs, scan] at ht
    obtain ⟨hnumbers, hplace⟩ : (scan (Place.enter c) cs).1 = ms ∧
      (scan (Place.enter c) cs).2 = .gap := Prod.mk.inj ht
    rw [scan, Place.step_of_stops hopen hc, hnumbers, hplace, List.append_assoc]

theorem Holds.separate (hs : Holds s ns) (ht : Separates t) : Closed (s ++ t) ns := by
  have happend := hs.append ht.1 ht.2
  rwa [List.append_nil] at happend

/-- Two parts with a separator between them. -/
theorem Holds.between {mid : String} (hs : Holds s ns) (hmid : Separates mid) (ht : Holds t ms) :
    Holds (s ++ mid ++ t) (ns ++ ms) := (hs.separate hmid).holds ht

theorem Closed.numbersOf_eq (hs : Closed s ns) : numbersOf s = ns := by
  rw [numbersOf, hs]
  exact List.append_nil ns

/-- Separators between parts. -/
theorem holds_intercalate {α : Type} {mid : String} (hmid : Separates mid) {text : α → String}
    {numbers : α → List Number} {parts : List α} (h : ∀ a ∈ parts, Holds (text a) (numbers a)) :
    Holds (mid.intercalate (parts.map text)) (parts.flatMap numbers) := by
  induction parts with
  | nil => exact ⟨trivial, rfl⟩
  | cons a parts ih =>
    obtain ⟨ha, hparts⟩ := List.forall_mem_cons.mp h
    cases parts with
    | nil =>
      rw [List.map_singleton, String.intercalate_singleton, List.flatMap_singleton]
      exact ha
    | cons b parts =>
      rw [List.map_cons, List.map_cons, String.intercalate_cons_cons, List.flatMap_cons]
      exact ha.between hmid (ih hparts)

/-- A comment up to the end of its line. -/
theorem closed_comment {front label : String} (hfront : scan .gap front.toList = (ns, .comment))
    (hlabel : '\n' ∉ label.toList) : Closed (front ++ label ++ "\n") ns := by
  have hcomment {cs : List Char} (h : '\n' ∉ cs) : scan .comment cs = ([], .comment) := by
    induction cs with
    | nil => rfl
    | cons c cs ih =>
      rw [List.mem_cons, not_or] at h
      have hstep : Place.comment.step c = ([], .comment) := congrArg _ (if_neg (Ne.symm h.1))
      rw [scan_cons_of_step hstep, ih h.2]
  rw [Closed, String.toList_append, String.toList_append, scan_append, scan_append, hfront,
    hcomment hlabel]
  exact congrArg₂ Prod.mk (by simp [scan, Place.step]) rfl

end ToyLang.Cpp

namespace ToyLang.Source

open Text Cpp

/-! ### Constants -/

/-- A number that is written in a program. -/
inductive Constant where
  | int (value : Int64)
  | float (value : Binary64)
  deriving DecidableEq

/-- The number that an expression is. -/
def Expr.constant? : Expr → Option Constant
  | .int value => some (.int value)
  | .float value => some (.float value)
  | _ => none

/-- The numbers among some expressions. -/
def constantsOf (es : List Expr) : List Constant := es.filterMap Expr.constant?

/-- A number as it is written: its sign apart from what stands behind it. -/
def Constant.written : Constant → Number
  | .int value => ⟨decide (value.toInt < 0), Nat.toDigits 10 value.toInt.natAbs⟩
  | .float value => ⟨value.isNegative, Binary64.magnitudeText value.magnitude⟩

/-- The numbers among some expressions, as they are written. -/
def numbersIn (es : List Expr) : List Number := (constantsOf es).map Constant.written

@[simp] theorem numbersIn_append (es fs : List Expr) :
    numbersIn (es ++ fs) = numbersIn es ++ numbersIn fs := by
  rw [numbersIn, constantsOf, List.filterMap_append, List.map_append]
  rfl

theorem numbersIn_cons {e : Expr} (h : e.constant? = none) (es : List Expr) :
    numbersIn (e :: es) = numbersIn es := by
  rw [numbersIn, constantsOf, List.filterMap_cons, h]
  rfl

@[simp] theorem numbersIn_nil : numbersIn [] = [] := rfl

/-! ### The text of a number -/

theorem step_of_goesOn {negative : Bool} {chars : List Char} {c : Char}
    (h : goesOn chars c = true) :
    (Place.number negative chars).step c = ([], .number negative (chars ++ [c])) := if_pos h

/-- Characters in which a number goes on are read into it. -/
theorem scan_number {negative : Bool} {chars cs : List Char}
    (h : ∀ c ∈ cs, isContinue c = true ∨ c = '.') :
    scan (.number negative chars) cs = ([], .number negative (chars ++ cs)) := by
  induction cs generalizing chars with
  | nil => rw [scan, List.append_nil]
  | cons c cs ih =>
    obtain ⟨hc, hcs⟩ := List.forall_mem_cons.mp h
    have hgoes : goesOn chars c = true := by
      rcases hc with hc | rfl
      · simp [goesOn, hc]
      · simp [goesOn]
    rw [scan_cons_of_step (step_of_goesOn hgoes), ih hcs, List.append_assoc, List.singleton_append]

theorem goesOn_of_isDigit {ds : List Char} (h : ∀ c ∈ ds, c.isDigit = true) :
    ∀ c ∈ ds, isContinue c = true ∨ c = '.' :=
  fun c hc => .inl (isContinue_of_isDigit (h c hc))

/-- A sign and a digit begin a number. -/
theorem scan_signed (negative : Bool) {d : Char} (hd : d.isDigit = true) (cs : List Char) :
    scan .gap (signChars negative ++ d :: cs) = scan (.number negative [d]) cs := by
  cases negative with
  | false =>
    have hstep : Place.gap.step d = ([], .number false [d]) := congrArg _ (if_pos hd)
    rw [signChars, if_neg Bool.false_ne_true, List.nil_append, scan_cons_of_step hstep]
  | true =>
    have hminus : Place.gap.step '-' = ([], .minus) := by decide +kernel
    have hstep : Place.minus.step d = ([], .number true [d]) := congrArg _ (if_pos hd)
    rw [signChars, if_pos rfl, List.singleton_append, scan_cons_of_step hminus,
      scan_cons_of_step hstep]

theorem scan_powerChars {negative : Bool} (chars : List Char) {p : Option (Bool × List Char)}
    (h : ∀ r ∈ p, Digits r.2) :
    scan (.number negative chars) (powerChars p)
      = ([], .number negative (chars ++ powerChars p)) := by
  cases p with
  | none => rw [powerChars, scan, List.append_nil]
  | some r =>
    obtain ⟨n, ds⟩ := r
    have hds : Digits ds := h _ rfl
    have hletter : goesOn chars 'e' = true := by
      have hcontinue : isContinue 'e' = true := by decide +kernel
      simp [goesOn, hcontinue]
    rw [powerChars, scan_cons_of_step (step_of_goesOn hletter)]
    cases n with
    | false =>
      rw [signChars, if_neg Bool.false_ne_true, List.nil_append,
        scan_number (goesOn_of_isDigit hds.2), List.append_assoc, List.singleton_append]
    | true =>
      -- the sign stands behind the letter, so the number goes on in it
      have hsign : goesOn (chars ++ ['e']) '-' = true := by simp [goesOn]
      rw [signChars, if_pos rfl, List.singleton_append,
        scan_cons_of_step (step_of_goesOn hsign), scan_number (goesOn_of_isDigit hds.2),
        List.append_assoc, List.append_assoc]
      rfl

/-- A literal is one number. -/
theorem FloatLiteral.scan_spelling (l : FloatLiteral) :
    scan .gap l.spelling = ([], .number l.negative l.unsigned) := by
  obtain ⟨d, ds, hfirst, hd⟩ := exists_first l.whole_digits []
  rw [List.append_nil] at hfirst
  have hwhole := l.whole_digits.2
  rw [hfirst, List.forall_mem_cons] at hwhole
  have hpoint : ∀ c ∈ ds ++ pointChars l.fraction, isContinue c = true ∨ c = '.' := by
    refine List.forall_mem_append.mpr ⟨goesOn_of_isDigit hwhole.2, ?_⟩
    cases hfraction : l.fraction with
    | none => exact List.forall_mem_nil _
    | some es =>
      exact List.forall_mem_cons.mpr
        ⟨.inr rfl, goesOn_of_isDigit (l.fraction_digits es hfraction).2⟩
  rw [spelling, unsigned, hfirst, List.cons_append, scan_signed _ hd, ← List.append_assoc,
    scan_append, scan_number hpoint, scan_powerChars _ l.power_digits]
  rfl

theorem holds_float {x : Binary64} (h : x.isFinite = true) :
    Holds x.text [(Constant.float x).written] := by
  obtain ⟨l, hspelling, hunsigned, -, hsign⟩ := exists_literal_text h
  rw [Holds, ← hspelling, l.scan_spelling, hunsigned, ← hsign]
  exact ⟨trivial, rfl⟩

theorem holds_int (value : Int64) :
    Holds (toString value.toInt) [(Constant.int value).written] := by
  obtain ⟨d, ds, hfirst, hd⟩ := FloatLiteral.exists_first (digits_toDigits value.toInt.natAbs) []
  rw [List.append_nil] at hfirst
  have hdigits := isDigit_toDigits value.toInt.natAbs
  rw [hfirst, List.forall_mem_cons] at hdigits
  rw [Holds, toList_toString_int, hfirst, scan_signed _ hd,
    scan_number (goesOn_of_isDigit hdigits.2), Constant.written, hfirst]
  exact ⟨trivial, rfl⟩

/-! ### The text of an expression -/

theorem scan_word {cs : List Char} (h : ∀ c ∈ cs, isContinue c = true) :
    scan .word cs = ([], .word) := by
  induction cs with
  | nil => rfl
  | cons c cs ih =>
    obtain ⟨hc, hcs⟩ := List.forall_mem_cons.mp h
    have hstep : Place.word.step c = ([], .word) := congrArg _ (if_pos hc)
    rw [scan_cons_of_step hstep, ih hcs]

/-- A name has no number. -/
theorem holds_name {name : String} (h : isName name = true) : Holds name [] := by
  obtain ⟨c, cs, hcs, hc, hrest⟩ := isWord_iff.mp (isWord_of_isName h)
  have hdigit : c.isDigit = false := by
    cases hd : c.isDigit with
    | false => rfl
    | true => rw [isStart_eq_false_of_isDigit hd] at hc; exact hc.symm
  have hstep : Place.gap.step c = ([], .word) := by
    rw [Place.step, Place.enter, hdigit, hc]
    rfl
  rw [Holds, hcs, scan_cons_of_step hstep, scan_word hrest]
  exact ⟨trivial, rfl⟩

theorem separates_arith (op : ArithmeticOp) : Cpp.Separates (" " ++ op.token ++ " ") := by
  cases op <;> decide

theorem separates_compare (op : ComparisonOp) : Cpp.Separates (" " ++ op.token ++ " ") := by
  cases op <;> decide

theorem holds_args {args : List Expr} (h : ∀ a ∈ args, Holds a.cpp (numbersIn a.parts)) :
    Holds (", ".intercalate (cppEach args)) (numbersIn (partsOfEach args)) := by
  have hnumbers :
      numbersIn (args.flatMap Expr.parts) = args.flatMap fun a => numbersIn a.parts := by
    induction args with
    | nil => rfl
    | cons a args ih =>
      rw [List.flatMap_cons, numbersIn_append, ih (List.forall_mem_cons.mp h).2, List.flatMap_cons]
  rw [cppEach_eq_map, partsOfEach_eq_flatMap, hnumbers]
  exact holds_intercalate (by decide) h

/-- The numbers of an expression are those of the expressions inside it, if all of them are
finite. -/
theorem holds_cpp {e : Expr} (h : e.WellFormed) :
    (∀ x ∈ e.floats, x.isFinite = true) → Holds e.cpp (numbersIn e.parts) := by
  induction h with
  | @int value => exact fun _ => holds_int value
  | float n hdigits hfraction => exact fun hfinite => holds_float (hfinite _ List.mem_cons_self)
  | @bool value =>
    intro _
    cases value with
    | false =>
      have hscan : scan .gap " false".toList = ([], .word) := by decide +kernel
      rw [Expr.cpp_bool, if_neg Bool.false_ne_true, Holds, hscan]
      exact ⟨trivial, rfl⟩
    | true =>
      have hscan : scan .gap " true".toList = ([], .word) := by decide +kernel
      rw [Expr.cpp_bool, if_pos rfl, Holds, hscan]
      exact ⟨trivial, rfl⟩
  | ident hname => exact fun _ => holds_name hname
  | @call callee args hname _ ih =>
    intro hfinite
    rw [Expr.floats_call, floatsOfArgs_eq_flatMap, List.forall_mem_flatMap] at hfinite
    have hargs := holds_args fun a ha => ih a ha (hfinite a ha)
    have hcallee := holds_name (isName_mangle hname)
    exact ((hcallee.between (by decide) hargs).separate (by decide)).toHolds
  | @arith op lhs rhs _ _ _ _ ihl ihr =>
    intro hfinite
    obtain ⟨hl, hr⟩ := List.forall_mem_append.mp hfinite
    have hboth := (ihl hl).between (separates_arith op) (ihr hr)
    rw [Expr.parts, numbersIn_cons rfl, numbersIn_append, Expr.cpp_arith]
    simpa only [String.append_assoc] using hboth
  | @compare op lhs rhs _ _ _ _ ihl ihr =>
    intro hfinite
    obtain ⟨hl, hr⟩ := List.forall_mem_append.mp hfinite
    have hboth := (ihl hl).between (separates_compare op) (ihr hr)
    rw [Expr.parts, numbersIn_cons rfl, numbersIn_append, Expr.cpp_compare]
    simpa only [String.append_assoc] using hboth
  | @assign target value hname _ ih =>
    intro hfinite
    exact (holds_name hname).between (by decide) (ih hfinite)
  | @paren inner _ ih =>
    intro hfinite
    have hleft : Closed "(" [] := by decide
    exact ((hleft.holds (ih hfinite)).separate (by decide)).toHolds

/-! ### The text of a statement -/

theorem closed_binding {b : Binding} (h : b.WellFormed)
    (hfinite : ∀ x ∈ b.init.floats, x.isFinite = true) : Closed b.cpp (numbersIn b.init.parts) :=
  (((holds_name h.type).between (by decide) (holds_name h.name)).between (by decide)
    (holds_cpp h.init hfinite)).separate (by decide)

theorem newline_not_mem_digits (n : ℕ) : '\n' ∉ (toString n).toList := by
  rw [Nat.toString_eq_repr, Nat.toList_repr]
  exact fun hmem => absurd (isDigit_toDigits n _ hmem) (by decide)

theorem newline_not_mem_name {name : String} (h : isName name = true) : '\n' ∉ name.toList := by
  intro hmem
  exact absurd (isSolid_of_isWord (isWord_of_isName h) _ hmem) (by decide)

/-- The numbers in labels do not count. -/
theorem closed_closing {body label : String} {ns : List Number} (hbody : Closed body ns)
    (hlabel : '\n' ∉ label.toList) :
    Closed (body ++ "\x7d // end: " ++ label ++ "\n") ns := by
  have hend : scan .gap "\x7d // end: ".toList = ([], .comment) := by decide
  have hboth := hbody.append (closed_comment hend hlabel)
  rw [List.append_nil] at hboth
  simpa only [String.append_assoc] using hboth

theorem closed_labelled (n : ℕ) {body : String} {ns : List Number} (hbody : Closed body ns) :
    Closed (labelled n body) ns := by
  have hstart : scan .gap "\n\x7b // start: ".toList = ([], .comment) := by decide
  have hopen := closed_comment hstart (newline_not_mem_digits n)
  exact closed_closing (hopen.append hbody) (newline_not_mem_digits n)

theorem closed_owned {function body : String} {ns : List Number} (h : isName function = true)
    (hbody : Closed body ns) : Closed (owned function body) ns := by
  have hopen : Closed "\n\x7b\n" [] := by decide
  exact closed_closing (hopen.append hbody) (newline_not_mem_name h)

/-- A condition in parentheses with the block behind it. -/
theorem closed_guarded {front : String} (hfront : Closed front []) {test : Expr}
    (htest : Holds test.cpp (numbersIn test.parts)) (n : ℕ) {body : String} {ns : List Number}
    (hbody : Closed body ns) :
    Closed (front ++ test.cpp ++ ")" ++ labelled n body) (numbersIn test.parts ++ ns) :=
  ((hfront.holds htest).separate (by decide)).append (closed_labelled n hbody)

/-- The head of a loop that counts, and the block behind it. -/
theorem closed_counted {var : String} {first bound : Expr} (hvar : isName var = true)
    (hfirst : Holds first.cpp (numbersIn first.parts))
    (hbound : Holds bound.cpp (numbersIn bound.parts)) (n : ℕ) {body : String} {ns : List Number}
    (hbody : Closed body ns) :
    Closed ("for (long long " ++ var ++ " = " ++ first.cpp ++ "; " ++ var ++ " < " ++ bound.cpp
        ++ "; ++" ++ var ++ ")" ++ labelled n body)
      (numbersIn first.parts ++ (numbersIn bound.parts ++ ns)) := by
  have hfor : Closed "for (long long " [] := by decide
  have hequals : Cpp.Separates " = " := by decide
  have hsemicolon : Cpp.Separates "; " := by decide
  have hless : Cpp.Separates " < " := by decide
  have hplus : Cpp.Separates "; ++" := by decide
  have hright : Cpp.Separates ")" := by decide
  have hname := holds_name hvar
  have hhead := ((((hfor.holds hname).between hequals hfirst).between hsemicolon hname).between
    hless hbound).between hplus hname
  have hclosed := (hhead.separate hright).append (closed_labelled n hbody)
  simpa only [List.append_nil, List.nil_append, List.append_assoc] using hclosed

mutual

/-- The numbers of a statement are those of its expressions, if all of them are finite. -/
theorem Stmt.closed_cpp (n : ℕ) : (s : Stmt) → s.WellFormed →
    (∀ x ∈ s.floats, x.isFinite = true) → Closed (s.cpp n) (numbersIn s.exprs)
  | .bind b, .bind hb, hfinite => closed_binding hb hfinite
  | .ret value, .ret hvalue, hfinite => by
    have hreturn : Closed "return " [] := by decide
    exact (hreturn.holds (holds_cpp hvalue hfinite)).separate (by decide)
  | .cond test body otherwise, .cond htest hbody hotherwise, hfinite => by
    obtain ⟨hftest, hfbody, hfother⟩ := forall_mem_append_append.mp hfinite
    have hif : Closed "\nif (" [] := by decide
    have hguarded := closed_guarded hif (holds_cpp htest hftest) n
      (closed_cppOfAll (n + 1) body hbody hfbody)
    rw [Stmt.cpp_cond, Stmt.exprs, numbersIn_append, numbersIn_append, ← List.append_assoc]
    exact hguarded.append (otherwise.closed_cpp _ hotherwise hfother)
  | .loop test body, .loop htest hbody, hfinite => by
    obtain ⟨hftest, hfbody⟩ := List.forall_mem_append.mp hfinite
    have hwhile : Closed "while (" [] := by decide
    rw [Stmt.cpp_loop, Stmt.exprs, numbersIn_append]
    exact closed_guarded hwhile (holds_cpp htest hftest) n
      (closed_cppOfAll (n + 1) body hbody hfbody)
  | .count var first bound body, .count hvar hfirst hbound hbody, hfinite => by
    obtain ⟨hffirst, hfbound, hfbody⟩ := forall_mem_append_append.mp hfinite
    rw [Stmt.cpp_count, Stmt.exprs, numbersIn_append, numbersIn_append]
    exact closed_counted hvar (holds_cpp hfirst hffirst) (holds_cpp hbound hfbound) n
      (closed_cppOfAll (n + 1) body hbody hfbody)
  | .block body, .block hbody, hfinite =>
    closed_labelled n (closed_cppOfAll (n + 1) body hbody hfinite)
  | .eval value, .eval hvalue, hfinite => (holds_cpp hvalue hfinite).separate (by decide)

theorem Else.closed_cpp (n : ℕ) : (o : Else) → o.WellFormed →
    (∀ x ∈ o.floats, x.isFinite = true) → Closed (o.cpp n) (numbersIn o.exprs)
  | .none, .none, _ => closed_empty
  | .block body, .block hbody, hfinite => by
    have helse : Holds "else" [] := by
      have hscan : scan .gap "else".toList = ([], .word) := by decide +kernel
      rw [Holds, hscan]
      exact ⟨trivial, rfl⟩
    have hstop : (labelled n (cppOfAll (n + 1) body)).toList.head?.any stops = true := by
      have hfirst : "\n\x7b // start: ".toList.head?.any stops = true := by decide
      unfold labelled
      simp only [String.append_assoc, String.toList_append]
      exact hfirst
    exact helse.append (closed_labelled n (closed_cppOfAll (n + 1) body hbody hfinite)) hstop
  | .cond test body otherwise, .cond htest hbody hotherwise, hfinite => by
    obtain ⟨hftest, hfbody, hfother⟩ := forall_mem_append_append.mp hfinite
    have hif : Closed "else\nif (" [] := by decide
    have hguarded := closed_guarded hif (holds_cpp htest hftest) n
      (closed_cppOfAll (n + 1) body hbody hfbody)
    rw [Else.cpp_cond, Else.exprs, numbersIn_append, numbersIn_append, ← List.append_assoc]
    exact hguarded.append (otherwise.closed_cpp _ hotherwise hfother)

theorem closed_cppOfAll (n : ℕ) : (ss : List Stmt) → (∀ s ∈ ss, s.WellFormed) →
    (∀ x ∈ floatsOfAll ss, x.isFinite = true) →
    Closed (cppOfAll n ss) (numbersIn (exprsOfAll ss))
  | [], _, _ => closed_empty
  | s :: ss, hwell, hfinite => by
    obtain ⟨hs, hss⟩ := List.forall_mem_cons.mp hwell
    obtain ⟨hfs, hfss⟩ := List.forall_mem_append.mp hfinite
    rw [cppOfAll_cons, exprsOfAll, numbersIn_append]
    exact (s.closed_cpp n hs hfs).append (closed_cppOfAll (n + s.blocks) ss hss hfss)

end

/-! ### The text of a file -/

theorem holds_params {ps : List Param} (h : ∀ p ∈ ps, isName p.name = true ∧ isName p.type = true) :
    Holds (", ".intercalate (ps.map fun p => p.type ++ " " ++ p.name)) [] := by
  have hparts : ∀ p ∈ ps, Holds (p.type ++ " " ++ p.name) [] :=
    fun p hp => (holds_name (h p hp).2).between (by decide) (holds_name (h p hp).1)
  have hnone : (ps.flatMap fun _ => ([] : List Number)) = [] :=
    List.flatMap_eq_nil_iff.mpr fun _ _ => rfl
  rw [← hnone]
  exact holds_intercalate (by decide) hparts

theorem Function.closed_cpp (n : ℕ) {f : Function} (h : f.WellFormed)
    (hfinite : ∀ x ∈ floatsOfAll f.body, x.isFinite = true) :
    Closed (f.cpp n) (numbersIn (exprsOfAll f.body)) := by
  have hname := isName_mangle h.name
  have hline : Closed "\n" [] := by decide
  have hblank : Cpp.Separates " " := by decide
  have hleft : Cpp.Separates "(" := by decide
  have hright : Cpp.Separates ")" := by decide
  have hhead := ((holds_name h.result).between hblank (holds_name hname)).between hleft
    (holds_params h.params)
  have hbody := closed_owned hname (closed_cppOfAll (n + 1) f.body h.body hfinite)
  have hclosed := ((hhead.separate hright).append hbody).append hline
  rwa [List.append_nil] at hclosed

theorem Item.closed_cpp (n : ℕ) {i : Item} (h : i.WellFormed)
    (hfinite : ∀ x ∈ i.floats, x.isFinite = true) : Closed (i.cpp n) (numbersIn i.exprs) := by
  cases i with
  | function f => exact Function.closed_cpp n h hfinite
  | bind b => exact closed_binding h hfinite

theorem closed_cppOfItems (n : ℕ) {items : List Item} (h : ∀ i ∈ items, i.WellFormed)
    (hfinite : ∀ i ∈ items, ∀ x ∈ i.floats, x.isFinite = true) :
    Closed (cppOfItems n items) (numbersIn (items.flatMap Item.exprs)) := by
  induction items generalizing n with
  | nil => exact closed_empty
  | cons i items ih =>
    obtain ⟨hi, hitems⟩ := List.forall_mem_cons.mp h
    obtain ⟨hfi, hfitems⟩ := List.forall_mem_cons.mp hfinite
    rw [cppOfItems, List.flatMap_cons, numbersIn_append]
    exact (Item.closed_cpp n hi hfi).append (ih _ hitems hfitems)

/-- The numbers of a generated file are those of the program in their order, each as it is written,
and the zero that `main` returns. -/
theorem numbersOf_cppFile {items : List Item} (h : ∀ i ∈ items, i.WellFormed)
    (hfinite : ∀ x ∈ literals items, x.isFinite = true) :
    numbersOf (cppFile items) = numbersIn (items.flatMap Item.exprs) ++ [⟨false, ['0']⟩] := by
  have hprelude : Closed (prelude ++ "\n\n") [] := by decide +kernel
  have hepilogue : Closed ("\n" ++ epilogue) [⟨false, ['0']⟩] := by decide +kernel
  have hclosed := (hprelude.append (closed_cppOfItems 1 h
    (List.forall_mem_flatMap.mp hfinite))).append hepilogue
  have hfile : cppFile items
      = prelude ++ "\n\n" ++ cppOfItems 1 items ++ ("\n" ++ epilogue) := by
    rw [cppFile_eq]
    simp only [String.append_assoc]
  rw [hfile]
  exact hclosed.numbersOf_eq

end ToyLang.Source
