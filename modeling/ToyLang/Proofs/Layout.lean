import ToyLang.Proofs.Characters
import ToyLang.Source.Grammar

/-!
# Tokens and layouts

A source text is a sequence of tokens with trivia between them.  Here a text is related to
its tokens twice: `Layout` says how a text is made of tokens and trivia, and `Laid` walks
over the tokens as the readers do, dropping the trivia behind each and keeping what is left
of the text.  Both ask that no token goes on in the text behind it.

## Main definitions

* `Mark`, `Token` — the tokens; a name or a numeral carries the proof that it is one.
* `Token.Ends` — a token does not go on in the text behind it.
* `Trivia`, `Trailing` — what may stand between tokens, and at the end of a text.
* `Laid` — a text begins with some tokens and the trivia behind each of them.
* `Layout`, `Spaced` — a text made of tokens and trivia, with or without blanks between
  all tokens.

## Main results

* `exists_trivia` — what is skipped is trivia.
* `laid_append` — tokens laid one after the other.
* `laid_iff_layout` — the two relations agree.
-/

namespace ToyLang.Source

open Text

/-! ### Tokens -/

/-- The punctuation marks. -/
inductive Mark where
  | leftParen | rightParen | leftBrace | rightBrace | colon | semicolon | comma | equals
  | arrow | dots
  deriving DecidableEq, Repr

/-- The mark as it is written. -/
def Mark.text : Mark → String
  | leftParen => "("
  | rightParen => ")"
  | leftBrace => "\x7b"
  | rightBrace => "\x7d"
  | colon => ":"
  | semicolon => ";"
  | comma => ","
  | equals => "="
  | arrow => "->"
  | dots => ".."

/-- Digits of a whole number: a lone zero, or digits that begin with another one. -/
def IsWhole : List Char → Prop
  | [] => False
  | c :: cs => c = '0' ∧ cs = [] ∨ c ≠ '0' ∧ c.isDigit = true ∧ ∀ d ∈ cs, d.isDigit = true

/-- Digits behind a point, at least one. -/
def IsFraction : List Char → Prop
  | [] => False
  | c :: cs => c.isDigit = true ∧ ∀ d ∈ cs, d.isDigit = true

/-- A token of the language. -/
inductive Token where
  | keyword (k : Keyword)
  | name (text : String) (valid : isName text = true)
  | whole (n : WholeNumeral) (valid : IsWhole n.digits)
  | fractional (n : FractionalNumeral) (valid : IsWhole n.digits ∧ IsFraction n.fraction)
  | arith (op : ArithmeticOp)
  | compare (op : ComparisonOp)
  | mark (m : Mark)

/-- An optional minus sign. -/
def signChars (negative : Bool) : List Char := if negative then ['-'] else []

/-- The characters of a token. -/
def Token.spelling : Token → List Char
  | keyword k => k.spelling.toList
  | name text _ => text.toList
  | whole n _ => signChars n.negative ++ n.digits
  | fractional n _ => signChars n.negative ++ (n.digits ++ '.' :: n.fraction)
  | arith op => op.token.toList
  | compare op => op.token.toList
  | mark m => m.text.toList

/-- A token does not go on in the text behind it: a word is as long as it can be, a numeral
has no further digits and a whole one no fraction, and no operator becomes another one or a
comment. -/
def Token.Ends : Token → List Char → Prop
  | keyword _, after | name _ _, after => ∀ c ∈ after.head?, isContinue c = false
  | whole n _, after =>
      (n.digits = ['0'] ∨ ∀ c ∈ after.head?, c.isDigit = false) ∧ takeFraction? after = none
  | fractional _ _, after => ∀ c ∈ after.head?, c.isDigit = false
  | arith .div, after => after.head? ≠ some '/'
  | compare .lt, after | compare .gt, after => after.head? ≠ some '='
  | _, _ => True

/-- The value of a whole numeral; one that is out of range counts as zero. -/
def WholeNumeral.value (n : WholeNumeral) : Int64 :=
  (int64Of? (signedValue n.negative n.digits)).getD 0

/-- The value of a numeral with a fraction. -/
def FractionalNumeral.value (n : FractionalNumeral) : Binary64 :=
  Binary64.ofDecimal n.negative n.digits n.fraction

/-- A token that is a whole numeral denotes a signed 64-bit word. -/
def Token.InRange : Token → Prop
  | whole n _ => Int64.minValue.toInt ≤ signedValue n.negative n.digits ∧
      signedValue n.negative n.digits ≤ Int64.maxValue.toInt
  | _ => True

instance : DecidablePred Token.InRange
  | .whole n _ => inferInstanceAs (Decidable
      (Int64.minValue.toInt ≤ signedValue n.negative n.digits ∧
        signedValue n.negative n.digits ≤ Int64.maxValue.toInt))
  | .keyword _ | .name _ _ | .fractional _ _ | .arith _ | .compare _ | .mark _ => .isTrue trivial

/-- The fault that the first token of a text gives rise to. -/
def Token.overflows (text : List Char) : Token → List Overflow
  | whole n _ =>
      match int64Of? (signedValue n.negative n.digits) with
      | some _ => []
      | none => [⟨byteLength text, n.width⟩]
  | _ => []

theorem Token.overflows_eq_nil {t : Token} (text : List Char) :
    t.overflows text = [] ↔ t.InRange := by
  cases t with
  | whole n _ =>
    simp only [overflows, InRange, int64Of?]
    split <;> simp_all
  | _ => simp [overflows, InRange]

/-! ### Trivia -/

/-- Blanks and comments, each comment up to the end of its line. -/
inductive Trivia : List Char → Prop
  | nil : Trivia []
  | blank {c : Char} {cs : List Char} : isBlank c = true → Trivia cs → Trivia (c :: cs)
  | comment {body cs : List Char} :
      '\n' ∉ body → Trivia cs → Trivia ('/' :: '/' :: (body ++ '\n' :: cs))

/-- What may stand at the end of a text: trivia, and then a comment that the text ends in. -/
def Trailing (cs : List Char) : Prop :=
  ∃ gap body, Trivia gap ∧ '\n' ∉ body ∧ (cs = gap ∨ cs = gap ++ '/' :: '/' :: body)

theorem Trivia.append {gap cs : List Char} (h : Trivia gap) (hcs : Trivia cs) :
    Trivia (gap ++ cs) := by
  induction h with
  | nil => exact hcs
  | blank hc _ ih => exact .blank hc ih
  | comment hbody _ ih =>
    simp only [List.cons_append, List.append_assoc]
    exact .comment hbody ih

theorem Trivia.trailing {gap : List Char} (h : Trivia gap) : Trailing gap :=
  ⟨gap, [], h, by simp, .inl rfl⟩

theorem Trailing.append {gap cs : List Char} (h : Trivia gap) (hcs : Trailing cs) :
    Trailing (gap ++ cs) := by
  obtain ⟨gap', body, hgap', hbody, rfl | rfl⟩ := hcs
  · exact (h.append hgap').trailing
  · exact ⟨gap ++ gap', body, h.append hgap', hbody, .inr (by simp)⟩

theorem skipTriviaFrom_comment {body : List Char} (h : '\n' ∉ body) (cs : List Char) :
    skipTriviaFrom true (body ++ cs) = skipTriviaFrom true cs := by
  induction body with
  | nil => rfl
  | cons c body ih =>
    simp only [List.mem_cons, not_or] at h
    rw [List.cons_append, skipTriviaFrom, if_neg (Ne.symm h.1), ih h.2]

theorem isBlank_slash : isBlank '/' = false := by decide

theorem skipTrivia_blank {c : Char} (h : isBlank c = true) (cs : List Char) :
    skipTrivia (c :: cs) = skipTrivia cs := by
  have hc : c ≠ '/' := by
    rintro rfl
    simp [isBlank_slash] at h
  rw [skipTrivia, skipTriviaFrom, if_pos h, skipTrivia]
  simp [hc]

theorem skipTrivia_comment {body : List Char} (h : '\n' ∉ body) (cs : List Char) :
    skipTrivia ('/' :: '/' :: (body ++ '\n' :: cs)) = skipTrivia cs := by
  rw [skipTrivia, skipTriviaFrom, skipTriviaFrom_comment h, skipTriviaFrom, if_pos rfl, skipTrivia]

/-- Trivia at the front of a text is skipped. -/
theorem Trivia.skip {gap : List Char} (h : Trivia gap) (cs : List Char) :
    skipTrivia (gap ++ cs) = skipTrivia cs := by
  induction h with
  | nil => rfl
  | blank hc _ ih => rw [List.cons_append, skipTrivia_blank hc, ih]
  | comment hbody _ ih =>
    simp only [List.cons_append, List.append_assoc]
    rw [skipTrivia_comment hbody, ih]

theorem Trailing.skip {cs : List Char} (h : Trailing cs) : skipTrivia cs = [] := by
  obtain ⟨gap, body, hgap, hbody, rfl | rfl⟩ := h
  · simpa [skipTrivia, skipTriviaFrom] using hgap.skip []
  · have hend := skipTriviaFrom_comment hbody []
    rw [hgap.skip, skipTrivia, skipTriviaFrom]
    simpa [skipTriviaFrom] using hend

/-- A text that begins with neither a blank nor a comment. -/
def Visible (cs : List Char) : Prop := skipTrivia cs = cs

theorem visible_nil : Visible [] := rfl

theorem visible_cons {c : Char} {cs : List Char} (hc : isBlank c = false)
    (hslash : c = '/' → cs.head? ≠ some '/') : Visible (c :: cs) := by
  rw [Visible, skipTrivia, skipTriviaFrom]
  · simp [hc]
  · rintro cs' rfl rfl
    simp at hslash

/-- What is skipped at the front of a text is trivia, or the text is nothing else. -/
theorem exists_trivia (cs : List Char) :
    (∃ gap, cs = gap ++ skipTrivia cs ∧ Trivia gap) ∨ skipTrivia cs = [] ∧ Trailing cs := by
  cases cs with
  | nil => exact .inl ⟨[], rfl, .nil⟩
  | cons c cs =>
    by_cases hc : isBlank c = true
    · rw [skipTrivia_blank hc]
      obtain ⟨gap, hcs, hgap⟩ | ⟨hskip, htrailing⟩ := exists_trivia cs
      · exact .inl ⟨c :: gap, by rw [List.cons_append, ← hcs], .blank hc hgap⟩
      · have hgap : Trivia [c] := .blank hc .nil
        exact .inr ⟨hskip, htrailing.append hgap⟩
    by_cases hslash : c = '/' ∧ cs.head? = some '/'
    · obtain ⟨rfl, hslash⟩ := hslash
      obtain ⟨cs, rfl⟩ := List.head?_eq_some_iff.mp hslash
      by_cases hline : '\n' ∈ cs
      · -- the comment ends at the first line feed
        obtain ⟨body, cs, rfl, hbody⟩ := List.eq_append_cons_of_mem hline
        rw [skipTrivia_comment hbody]
        obtain ⟨gap, hcs, hgap⟩ | ⟨hskip, htrailing⟩ := exists_trivia cs
        · exact .inl ⟨_, by rw [List.cons_append, List.cons_append, List.append_assoc,
            List.cons_append, ← hcs], .comment hbody hgap⟩
        · refine .inr ⟨hskip, ?_⟩
          simpa using htrailing.append (.comment hbody .nil)
      · have htrailing : Trailing ('/' :: '/' :: cs) := ⟨[], cs, .nil, hline, .inr rfl⟩
        exact .inr ⟨htrailing.skip, htrailing⟩
    · have hvisible : Visible (c :: cs) :=
        visible_cons (by simpa using hc) fun h h' => hslash ⟨h, h'⟩
      exact .inl ⟨[], by rw [hvisible, List.nil_append], .nil⟩
termination_by cs.length

theorem visible_skipTrivia (cs : List Char) : Visible (skipTrivia cs) := by
  obtain ⟨gap, hcs, hgap⟩ | ⟨hskip, -⟩ := exists_trivia cs
  · have hskip := hgap.skip (skipTrivia cs)
    rw [← hcs] at hskip
    exact hskip.symm
  · rw [hskip]
    exact visible_nil

theorem length_skipTriviaFrom_le (comment : Bool) (cs : List Char) :
    (skipTriviaFrom comment cs).length ≤ cs.length := by
  fun_induction skipTriviaFrom comment cs with
  | case1 => exact Nat.le_refl _
  | case2 cs ih => exact Nat.le_succ_of_le ih
  | case3 c cs _ ih => exact Nat.le_succ_of_le ih
  | case4 cs ih => exact Nat.le_succ_of_le (Nat.le_succ_of_le ih)
  | case5 c cs _ _ ih => exact Nat.le_succ_of_le ih
  | case6 => exact Nat.le_refl _

/-- Behind a slash that is skipped to there is no other one. -/
theorem Visible.head?_ne_slash {cs : List Char} (h : Visible ('/' :: cs)) :
    cs.head? ≠ some '/' := by
  intro hslash
  obtain ⟨cs, rfl⟩ := List.head?_eq_some_iff.mp hslash
  have hskip : skipTriviaFrom true cs = '/' :: '/' :: cs := h
  have hlength := length_skipTriviaFrom_le true cs
  rw [hskip, List.length_cons, List.length_cons] at hlength
  omega

/-! ### Tokens in a text -/

theorem IsWhole.exists_first {cs : List Char} (h : IsWhole cs) :
    ∃ c ds, cs = c :: ds ∧ c.isDigit = true := by
  cases cs with
  | nil => exact h.elim
  | cons c ds =>
    obtain ⟨rfl, rfl⟩ | ⟨-, hc, -⟩ := h
    · exact ⟨_, _, rfl, by decide⟩
    · exact ⟨c, ds, rfl, hc⟩

/-- A numeral begins with a minus sign or with a digit. -/
theorem IsWhole.exists_first_signed {cs : List Char} (h : IsWhole cs) (negative : Bool)
    (rest : List Char) : ∃ c ds, signChars negative ++ (cs ++ rest) = c :: ds ∧
      (c = '-' ∨ c.isDigit = true) := by
  cases negative with
  | true => exact ⟨_, _, rfl, .inl rfl⟩
  | false =>
    obtain ⟨c, ds, rfl, hc⟩ := h.exists_first
    exact ⟨c, ds ++ rest, rfl, .inr hc⟩

/-- A character that begins neither a blank nor a comment. -/
def isPlain (c : Char) : Bool := !isBlank c && c != '/'

theorem exists_first_of_plain {cs : List Char} (h : cs.head?.any isPlain = true) :
    ∃ c ds, cs = c :: ds ∧ isPlain c = true := by
  cases cs with
  | nil => simp at h
  | cons c ds => exact ⟨c, ds, rfl, by simpa using h⟩

theorem isPlain_of_signed {c : Char} (h : c = '-' ∨ c.isDigit = true) : isPlain c = true := by
  obtain rfl | h := h
  · decide
  · have hslash : c ≠ '/' := by
      rintro rfl
      simp at h
    simp [isPlain, isBlank_eq_false_of_isDigit h, hslash]

theorem isPlain_of_isStart {c : Char} (h : isStart c = true) : isPlain c = true := by
  have hslash : c ≠ '/' := by
    rintro rfl
    exact absurd h (by decide)
  simp [isPlain, isBlank_eq_false_of_isContinue (isContinue_of_isStart h), hslash]

/-- Only one token begins like a comment. -/
theorem Token.exists_first (t : Token) :
    t = arith .div ∨ ∃ c cs, t.spelling = c :: cs ∧ isPlain c = true := by
  cases t with
  | keyword k =>
    refine .inr (exists_first_of_plain ?_)
    cases k <;> decide
  | arith op =>
    cases op with
    | div => exact .inl rfl
    | _ => exact .inr (exists_first_of_plain (by decide))
  | compare op =>
    refine .inr (exists_first_of_plain ?_)
    cases op <;> decide
  | mark m =>
    refine .inr (exists_first_of_plain ?_)
    cases m <;> decide
  | name text valid =>
    obtain ⟨c, cs, htext, hc, -⟩ := isWord_iff.mp (isWord_of_isName valid)
    exact .inr ⟨c, cs, htext, isPlain_of_isStart hc⟩
  | whole n valid =>
    obtain ⟨c, cs, hchars, hc⟩ := valid.exists_first_signed n.negative []
    rw [List.append_nil] at hchars
    exact .inr ⟨c, cs, hchars, isPlain_of_signed hc⟩
  | fractional n valid =>
    obtain ⟨c, cs, hchars, hc⟩ := valid.1.exists_first_signed n.negative ('.' :: n.fraction)
    exact .inr ⟨c, cs, hchars, isPlain_of_signed hc⟩

theorem Token.spelling_ne_nil (t : Token) : t.spelling ≠ [] := by
  obtain rfl | ⟨c, cs, hspelling, -⟩ := t.exists_first
  · decide
  · simp [hspelling]

theorem Token.visible {t : Token} {after : List Char} (h : t.Ends after) :
    Visible (t.spelling ++ after) := by
  obtain rfl | ⟨c, cs, hspelling, hc⟩ := t.exists_first
  · exact visible_cons (by decide) fun _ => h
  · simp only [isPlain, Bool.and_eq_true, Bool.not_eq_true', bne_iff_ne] at hc
    rw [hspelling]
    exact visible_cons hc.1 fun hslash => absurd hslash hc.2

/-- A character that no token goes on with ends every token. -/
theorem Token.ends_of_stop (t : Token) {c : Char} (hcontinue : isContinue c = false)
    (hdigit : c.isDigit = false) (hpoint : c ≠ '.') (hslash : c ≠ '/') (hequals : c ≠ '=')
    (cs : List Char) : t.Ends (c :: cs) := by
  have hfraction : takeFraction? (c :: cs) = none := by
    rw [takeFraction?]
    rintro d ds h
    exact hpoint (List.cons.inj h).1
  cases t with
  | keyword k => simpa [Ends] using hcontinue
  | name text valid => simpa [Ends] using hcontinue
  | whole n valid => exact ⟨.inr (by simpa using hdigit), hfraction⟩
  | fractional n valid => simpa [Ends] using hdigit
  | arith op => cases op <;> simp [Ends, hslash]
  | compare op => cases op <;> simp [Ends, hequals]
  | mark m => trivial

/-- A blank ends every token. -/
theorem Token.ends_of_isBlank (t : Token) {c : Char} (h : isBlank c = true) (cs : List Char) :
    t.Ends (c :: cs) := by
  have hdigit : c.isDigit = false := by
    cases hc : c.isDigit with
    | false => rfl
    | true => rw [isBlank_eq_false_of_isDigit hc] at h; exact h.symm
  have hne (d : Char) (hd : isBlank d = false) : c ≠ d := by
    rintro rfl
    simp [hd] at h
  exact t.ends_of_stop (isContinue_eq_false_of_isBlank h) hdigit (hne '.' (by decide))
    (hne '/' (by decide)) (hne '=' (by decide)) cs

/-- A text begins with some tokens and the trivia behind each of them.  With the tokens go
the faults that they give rise to and the rest of the text. -/
def Laid : List Token → List Char → List Overflow → List Char → Prop
  | [], cs, os, rest => cs = rest ∧ os = []
  | t :: ts, cs, os, rest => ∃ after os', cs = t.spelling ++ after ∧ t.Ends after ∧
      os = t.overflows cs ++ os' ∧ Laid ts (skipTrivia after) os' rest

@[simp] theorem laid_nil {cs rest : List Char} {os : List Overflow} :
    Laid [] cs os rest ↔ cs = rest ∧ os = [] := Iff.rfl

/-- Tokens are laid one after the other. -/
theorem laid_append {ts us : List Token} {cs rest : List Char} {os : List Overflow} :
    Laid (ts ++ us) cs os rest ↔
      ∃ mid os₁ os₂, Laid ts cs os₁ mid ∧ Laid us mid os₂ rest ∧ os = os₁ ++ os₂ := by
  induction ts generalizing cs os with
  | nil =>
    constructor
    · intro h
      exact ⟨cs, [], os, ⟨rfl, rfl⟩, h, rfl⟩
    · rintro ⟨mid, os₁, os₂, ⟨rfl, rfl⟩, h, rfl⟩
      exact h
  | cons t ts ih =>
    constructor
    · rintro ⟨after, os', rfl, hends, rfl, h⟩
      obtain ⟨mid, os₁, os₂, hts, hus, rfl⟩ := ih.mp h
      exact ⟨mid, _, os₂, ⟨after, os₁, rfl, hends, rfl, hts⟩, hus, by simp⟩
    · rintro ⟨mid, os₁, os₂, ⟨after, os', rfl, hends, rfl, hts⟩, hus, rfl⟩
      exact ⟨after, os' ++ os₂, rfl, hends, by simp, ih.mpr ⟨mid, os', os₂, hts, hus, rfl⟩⟩

/-- Behind tokens there is neither a blank nor a comment. -/
theorem Laid.visible {ts : List Token} {cs rest : List Char} {os : List Overflow}
    (h : Laid ts cs os rest) (hcs : Visible cs) : Visible rest := by
  induction ts generalizing cs os with
  | nil =>
    obtain ⟨rfl, rfl⟩ := h
    exact hcs
  | cons t ts ih =>
    obtain ⟨after, os', -, -, -, h⟩ := h
    exact ih h (visible_skipTrivia after)

/-- There are no faults exactly where the numerals are in range. -/
theorem Laid.overflows_eq_nil {ts : List Token} {cs rest : List Char} {os : List Overflow}
    (h : Laid ts cs os rest) : os = [] ↔ ∀ t ∈ ts, t.InRange := by
  induction ts generalizing cs os with
  | nil =>
    obtain ⟨-, rfl⟩ := h
    simp
  | cons t ts ih =>
    obtain ⟨after, os', -, -, rfl, h⟩ := h
    rw [List.append_eq_nil_iff, ih h, Token.overflows_eq_nil, List.forall_mem_cons]

/-! ### Layouts -/

/-- A text made of tokens, with trivia between them and at its end. -/
def Layout : List Token → List Char → Prop
  | [], cs => Trailing cs
  | t :: ts, cs => ∃ gap rest, cs = t.spelling ++ (gap ++ rest) ∧ Trivia gap ∧
      t.Ends (gap ++ rest) ∧ Layout ts rest

/-- A text made of tokens, with trivia that begins with a blank between them and any trivia
at its end. -/
def Spaced : List Token → List Char → Prop
  | [], cs => Trailing cs
  | [t], cs => ∃ rest, cs = t.spelling ++ rest ∧ Trailing rest
  | t :: ts, cs => ∃ c gap rest, cs = t.spelling ++ (c :: gap ++ rest) ∧ isBlank c = true ∧
      Trivia (c :: gap) ∧ Spaced ts rest

/-- The tokens with one blank between each two of them. -/
def joinTokens : List Token → List Char
  | [] => []
  | [t] => t.spelling
  | t :: ts => t.spelling ++ ' ' :: joinTokens ts

theorem spaced_joinTokens : (ts : List Token) → Spaced ts (joinTokens ts)
  | [] => Trivia.nil.trailing
  | [t] => ⟨[], (List.append_nil _).symm, Trivia.nil.trailing⟩
  | _ :: t :: ts => ⟨' ', [], joinTokens (t :: ts), rfl, by decide, .blank (by decide) .nil,
    spaced_joinTokens (t :: ts)⟩

/-- Trivia that begins with a blank is enough to keep tokens apart. -/
theorem Spaced.layout {ts : List Token} {cs : List Char} (h : Spaced ts cs)
    (hlast : ∀ t ∈ ts.getLast?, ∃ m, t = .mark m) : Layout ts cs := by
  match ts with
  | [] => exact h
  | [t] =>
    obtain ⟨rest, rfl, hrest⟩ := h
    obtain ⟨m, rfl⟩ := hlast t rfl
    exact ⟨[], rest, rfl, .nil, trivial, hrest⟩
  | t :: t' :: ts =>
    obtain ⟨c, gap, rest, rfl, hc, hgap, h⟩ := h
    have hlast : ∀ u ∈ (t' :: ts).getLast?, ∃ m, u = .mark m := by simpa using hlast
    exact ⟨c :: gap, rest, rfl, hgap, t.ends_of_isBlank hc _, Spaced.layout h hlast⟩

/-- The readers' walk over the tokens of a layout. -/
theorem Layout.laid {ts : List Token} {cs : List Char} (h : Layout ts cs) :
    ∃ os, Laid ts (skipTrivia cs) os [] := by
  induction ts generalizing cs with
  | nil => exact ⟨[], Trailing.skip h, rfl⟩
  | cons t ts ih =>
    obtain ⟨gap, rest, rfl, hgap, hends, h⟩ := h
    obtain ⟨os, hos⟩ := ih h
    refine ⟨_, gap ++ rest, os, Token.visible hends, hends, rfl, ?_⟩
    rwa [hgap.skip]

/-- What the readers walked over is a layout. -/
theorem Laid.layout {ts : List Token} {cs : List Char} {os : List Overflow}
    (h : Laid ts (skipTrivia cs) os []) :
    ∃ lead body, cs = lead ++ body ∧ Trivia lead ∧ Layout ts body := by
  induction ts generalizing cs os with
  | nil =>
    obtain ⟨hskip, -⟩ := h
    obtain ⟨gap, hcs, hgap⟩ | ⟨-, htrailing⟩ := exists_trivia cs
    · rw [hskip, List.append_nil] at hcs
      exact ⟨[], cs, rfl, .nil, hcs ▸ hgap.trailing⟩
    · exact ⟨[], cs, rfl, .nil, htrailing⟩
  | cons t ts ih =>
    obtain ⟨after, os', hskip, hends, -, h⟩ := h
    obtain ⟨gap, body, rfl, hgap, hbody⟩ := ih h
    obtain ⟨lead, hcs, hlead⟩ | ⟨hnil, -⟩ := exists_trivia cs
    · exact ⟨lead, _, hcs, hlead, gap, body, hskip, hgap, hends, hbody⟩
    · rw [hnil, eq_comm, List.append_eq_nil_iff] at hskip
      exact absurd hskip.1 t.spelling_ne_nil

/-- **The two relations agree.** -/
theorem laid_iff_layout {ts : List Token} {cs : List Char} :
    (∃ os, Laid ts (skipTrivia cs) os []) ↔
      ∃ lead body, cs = lead ++ body ∧ Trivia lead ∧ Layout ts body := by
  constructor
  · rintro ⟨os, h⟩
    exact h.layout
  · rintro ⟨lead, body, rfl, hlead, h⟩
    rw [hlead.skip]
    exact h.laid

end ToyLang.Source
