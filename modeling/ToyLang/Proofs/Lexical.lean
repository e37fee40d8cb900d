import ToyLang.Proofs.Recursion
import ToyLang.Source.Grammar

/-!
# Rules for characters and tokens

Trivia, words and digits are each taken by a scanner of its own.  Here they are rules: trivia are
blanks and comments, as many as there are; a comment is two slashes and characters up to the end of
the line; a word and a number are a character of one kind and then characters of another.  Their
rounds take a character each, and a token with the trivia around it takes at least one.

## Main definitions

* `Reader.one` — a character of some kind.
* `Rule.comment`, `Rule.trivia`, `Rule.word`, `Rule.digits`, `Rule.fraction` — the rules.

## Main results

* `Rule.read_trivia`, `Rule.read_word`, `Rule.read_digits`, `Rule.read_fraction` — the scanners read
  what their rules say.
* `consumes_token`, `consumes_whole` and the like — tokens take at least one character.
-/

namespace ToyLang.Source

open Reader Text

variable {α : Type}

/-! ### Characters -/

/-- A character of some kind. -/
def Reader.one (f : Char → Bool) : Reader Char := fun cs =>
  match cs with
  | c :: cs => if f c then some ⟨c, [], cs⟩ else none
  | [] => none

theorem one_of_pos {f : Char → Bool} {c : Char} (h : f c = true) (cs : List Char) :
    one f (c :: cs) = some ⟨c, [], cs⟩ := if_pos h

theorem one_of_neg {f : Char → Bool} {cs : List Char} (h : ∀ c ∈ cs.head?, f c = false) :
    one f cs = none := by
  cases cs with
  | nil => rfl
  | cons c cs => simpa [one] using h c rfl

theorem consumes_one (f : Char → Bool) : Consumes (one f) := by
  intro cs r hr
  cases cs with
  | nil => cases hr
  | cons c cs =>
    rw [one] at hr
    split at hr
    · obtain rfl := Option.some.inj hr
      exact later_append (List.cons_ne_nil c []) cs
    · cases hr

/-- A scanner that takes at least one character. -/
theorem consumes_scan {take : List Char → Option (α × List Char)}
    (h : ∀ ⦃cs a rest⦄, take cs = some (a, rest) → Later rest cs) : Consumes (scan take) := by
  intro cs r hr
  rw [scan, Option.map_eq_some_iff] at hr
  obtain ⟨⟨a, rest⟩, htake, rfl⟩ := hr
  exact h htake

namespace Rule

variable {N : Type} {V : N → Type} {ρ : (n : N) → Reader (V n)} {allowed : N → Prop}

/-- A character of some kind. -/
def one (f : Char → Bool) : Rule V Char := .token (Reader.one f) (consumes_one f)

@[simp]
theorem advances_one (f : Char → Bool) : (one f : Rule V Char).Advances := trivial

@[simp]
theorem guarded_one (f : Char → Bool) : (one f : Rule V Char).Guarded allowed := trivial

/-- The two characters that begin a comment. -/
def slashes : Rule V Unit :=
  .token (scan fun cs => (takeSymbol? ['/', '/'] cs).map fun rest => ((), rest)) <| by
    refine consumes_scan fun cs a rest h => ?_
    obtain ⟨rest', htake, hrest⟩ := Option.map_eq_some_iff.mp h
    obtain rfl := (Prod.mk.inj hrest).2
    obtain rfl := takeSymbol?_eq_some_iff.mp htake
    exact later_append (List.cons_ne_nil _ _) rest'

/-- A comment, up to the end of the line. -/
def comment : Rule V Unit := do
  slashes
  let _ ← .repeated (one (· ≠ '\n'))
  pure ()

/-- A blank or a comment. -/
def gap : Rule V Unit :=
  (do
    let _ ← one isBlank
    pure ())
  <|> comment

/-- Blanks and comments. -/
def trivia : Rule V Unit := do
  let _ ← .repeated gap
  pure ()

/-- A word. -/
def word : Rule V String := do
  let c ← one isStart
  let cs ← .repeated (one isContinue)
  pure (String.ofList (c :: cs))

/-- The digits of a whole number. -/
def digits : Rule V (List Char) :=
  (do
    let c ← one (· = '0')
    pure [c])
  <|> (do
    let c ← one Char.isDigit
    let cs ← .repeated (one Char.isDigit)
    pure (c :: cs))

/-- A point and the digits behind it. -/
def fraction : Rule V (List Char) := do
  let _ ← one (· = '.')
  let c ← one Char.isDigit
  let cs ← .repeated (one Char.isDigit)
  pure (c :: cs)

theorem guarded_trivia : (trivia : Rule V Unit).Guarded allowed := by
  simp [trivia, gap, comment, slashes]

theorem guarded_word : (word : Rule V String).Guarded allowed := by simp [word]

theorem guarded_digits : (digits : Rule V (List Char)).Guarded allowed := by simp [digits]

theorem guarded_fraction : (fraction : Rule V (List Char)).Guarded allowed := by simp [fraction]

/-- As many characters of a kind as there are. -/
theorem read_repeated_one (f : Char → Bool) (cs : List Char) :
    (repeated (one f)).read ρ cs = some ⟨cs.takeWhile f, [], cs.dropWhile f⟩ := by
  change many (Reader.one f) cs.length cs = _
  induction cs with
  | nil => rfl
  | cons c cs ih =>
    cases hc : f c with
    | true =>
      rw [List.length_cons, many_of_some (one_of_pos hc cs) ih, List.takeWhile_cons_of_pos hc,
        List.dropWhile_cons_of_pos hc]
      rfl
    | false =>
      have hnone : Reader.one f (c :: cs) = none := one_of_neg (by simpa using hc)
      rw [many_of_none hnone, List.takeWhile_cons_of_neg (by simp [hc]),
        List.dropWhile_cons_of_neg (by simp [hc])]

/-- A character of some kind, and then as many of another kind as there are. -/
theorem read_one_then {f g : Char → Bool} {c : Char} (h : f c = true) (cs : List Char)
    (k : Char → List Char → α) :
    (do let c ← one f; let cs ← .repeated (one g); pure (k c cs) : Rule V α).read ρ (c :: cs)
      = some ⟨k c (cs.takeWhile g), [], cs.dropWhile g⟩ :=
  bind_of_some (one_of_pos h cs) (bind_of_some (read_repeated_one g cs) rfl)

theorem read_one_of_neg {f : Char → Bool} {cs : List Char} (h : ∀ c ∈ cs.head?, f c = false)
    (k : Char → Rule V α) : (one f >>= k).read ρ cs = none :=
  bind_of_none (one_of_neg h) _

/-- A word is taken as its rule says. -/
theorem read_word : word.read ρ = scan takeWord? := by
  funext cs
  cases cs with
  | nil => rfl
  | cons c cs =>
    cases h : isStart c with
    | true =>
      refine (read_one_then h cs fun c cs => String.ofList (c :: cs)).trans ?_
      simp [scan, takeWord?, h]
    | false =>
      refine (read_one_of_neg (by simpa using h) _).trans ?_
      simp [scan, takeWord?, h]

/-- The digits of a whole number are taken as their rule says. -/
theorem read_digits : digits.read ρ = scan takeDigits? := by
  funext cs
  cases cs with
  | nil => rfl
  | cons c cs =>
    by_cases hzero : c = '0'
    · subst hzero
      rfl
    · refine (orElse_of_none (read_one_of_neg (by simpa using hzero) _)).trans ?_
      cases h : c.isDigit with
      | true =>
        refine (read_one_then h cs fun c cs => c :: cs).trans ?_
        simp [scan, takeDigits?, h, hzero]
      | false =>
        refine (read_one_of_neg (by simpa using h) _).trans ?_
        simp [scan, takeDigits?, h, hzero]

/-- A point and the digits behind it are taken as their rule says. -/
theorem read_fraction : fraction.read ρ = scan takeFraction? := by
  funext cs
  cases cs with
  | nil => rfl
  | cons c cs =>
    by_cases hpoint : c = '.'
    · subst hpoint
      cases cs with
      | nil => rfl
      | cons c cs =>
        cases h : c.isDigit with
        | true =>
          refine (bind_of_some (one_of_pos rfl (c :: cs))
            (read_one_then h cs fun c cs => c :: cs)).trans ?_
          simp [scan, takeFraction?, h]
        | false =>
          refine (bind_of_none_right (one_of_pos rfl (c :: cs))
            (read_one_of_neg (by simpa using h) _)).trans ?_
          simp [scan, takeFraction?, h]
    · refine (read_one_of_neg (by simpa using hpoint) _).trans ?_
      have hnone : takeFraction? (c :: cs) = none := by
        cases cs with
        | nil => rw [takeFraction?]; simp
        | cons d cs => unfold takeFraction?; split <;> simp_all
      simp [scan, hnone]

/-- A comment leaves what is behind its line. -/
theorem read_comment (ds : List Char) : comment.read ρ ('/' :: '/' :: ds)
    = some ⟨(), [], ds.dropWhile (· ≠ '\n')⟩ := by
  have hslashes : slashes.read ρ ('/' :: '/' :: ds) = some ⟨(), [], ds⟩ := rfl
  have hline : (do let _ ← .repeated (one (· ≠ '\n')); pure () : Rule V Unit).read ρ ds
      = some ⟨(), [], ds.dropWhile (· ≠ '\n')⟩ := bind_of_some (read_repeated_one _ ds) rfl
  exact bind_of_some hslashes hline

theorem read_comment_eq_none {c : Char} {cs : List Char} (h : c = '/' → cs.head? ≠ some '/') :
    comment.read ρ (c :: cs) = none := by
  have htake : takeSymbol? ['/', '/'] (c :: cs) = none := by
    by_cases hc : c = '/'
    · subst hc
      rw [takeSymbol?, if_pos rfl, takeSymbol?_eq_none (h rfl)]
    · exact takeSymbol?_eq_none (by simpa using hc)
  have hslashes : slashes.read ρ (c :: cs) = none := by
    change ((takeSymbol? ['/', '/'] (c :: cs)).map _).map _ = none
    rw [htake]
    rfl
  exact bind_of_none hslashes _

theorem skipTriviaFrom_dropWhile (ds : List Char) :
    skipTriviaFrom true ds = skipTrivia (ds.dropWhile (· ≠ '\n')) := by
  induction ds with
  | nil => rfl
  | cons d ds ih =>
    by_cases hd : d = '\n'
    · subst hd
      rfl
    · rw [skipTriviaFrom, if_neg hd, ih, List.dropWhile_cons_of_pos (by simpa using hd)]

/-- Where a blank or a comment stands it is taken, and then the same is left to be skipped. -/
theorem read_gap (cs : List Char) :
    gap.read ρ cs = none ∧ skipTrivia cs = cs ∨
    ∃ rest, gap.read ρ cs = some ⟨(), [], rest⟩ ∧ rest.length < cs.length ∧
      skipTrivia rest = skipTrivia cs := by
  cases cs with
  | nil => exact .inl ⟨rfl, rfl⟩
  | cons c cs =>
    cases hc : isBlank c with
    | true =>
      have hblank : (do let _ ← one isBlank; pure () : Rule V Unit).read ρ (c :: cs)
          = some ⟨(), [], cs⟩ := bind_of_some (one_of_pos hc cs) rfl
      exact .inr ⟨cs, orElse_of_some hblank, Nat.lt_succ_self _, (skipTrivia_blank hc cs).symm⟩
    | false =>
      have hblank : (do let _ ← one isBlank; pure () : Rule V Unit).read ρ (c :: cs) = none :=
        read_one_of_neg (by simpa using hc) _
      by_cases hslash : c = '/' ∧ cs.head? = some '/'
      · obtain ⟨rfl, hslash⟩ := hslash
        obtain ⟨ds, rfl⟩ := List.head?_eq_some_iff.mp hslash
        have hle : (ds.dropWhile (· ≠ '\n')).length ≤ ds.length :=
          (List.dropWhile_suffix _).length_le
        refine .inr ⟨_, (orElse_of_none hblank).trans (read_comment ds), ?_,
          (skipTriviaFrom_dropWhile ds).symm⟩
        simp only [List.length_cons]
        omega
      · have hcomment := read_comment_eq_none (ρ := ρ) fun h h' => hslash ⟨h, h'⟩
        exact .inl ⟨orElse_eq_none hblank hcomment, visible_cons hc fun h h' => hslash ⟨h, h'⟩⟩

/-- Trivia are skipped as their rule says. -/
theorem read_trivia : trivia.read ρ = Reader.trivia := by
  funext cs
  -- each gap that is taken leaves the same to be skipped, and there is a round for each
  have hgaps : ∀ rounds (cs : List Char), cs.length ≤ rounds →
      ∃ us, many (gap.read ρ) rounds cs = some ⟨us, [], skipTrivia cs⟩ := by
    intro rounds
    induction rounds with
    | zero =>
      intro cs hle
      obtain rfl := List.length_eq_zero_iff.mp (Nat.le_zero.mp hle)
      exact ⟨[], rfl⟩
    | succ rounds ih =>
      intro cs hle
      rcases read_gap (ρ := ρ) cs with ⟨hnone, hskip⟩ | ⟨rest, hsome, hlt, hskip⟩
      · exact ⟨[], by rw [many_of_none hnone, hskip]⟩
      · obtain ⟨us, hus⟩ := ih rest (by omega)
        exact ⟨() :: us, by rw [many_of_some hsome hus, hskip]; rfl⟩
  obtain ⟨us, hus⟩ := hgaps cs.length cs (Nat.le_refl _)
  have hrepeated : (repeated gap).read ρ cs = some ⟨us, [], skipTrivia cs⟩ := hus
  exact bind_of_some hrepeated rfl

end Rule

/-! ### Tokens -/

/-- Skipping trivia leaves an end of the text. -/
theorem keeps_trivia : Keeps trivia := by
  let ρ (n : Empty) : Reader (n.elim : Type) := n.elim
  rw [← Rule.read_trivia (ρ := ρ)]
  exact Rule.keeps_run (fun n => n.elim) _

/-- A token takes at least one character. -/
theorem consumes_token {take : List Char → Option (α × List Char)}
    (h : ∀ ⦃cs a rest⦄, take cs = some (a, rest) → Later rest cs) : Consumes (token take) :=
  keeps_trivia.bind_consumes fun _ => (consumes_scan h).bind fun _ => keeps_trivia.bind fun _ =>
    keeps_pure _

theorem takeSymbol?_later {symbol : List Char} (hsymbol : symbol ≠ []) {cs rest : List Char}
    (h : takeSymbol? symbol cs = some rest) : Later rest cs := by
  obtain rfl := takeSymbol?_eq_some_iff.mp h
  exact later_append hsymbol rest

theorem takeWord?_later {cs rest : List Char} {word : String}
    (h : takeWord? cs = some (word, rest)) : Later rest cs := by
  obtain ⟨rfl, hword, -⟩ := takeWord?_eq_some_iff.mp h
  refine later_append ?_ rest
  rintro hnil
  rw [hnil] at hword
  cases hword

theorem consumes_name : Consumes name :=
  consumes_token fun _ _ _ h => takeWord?_later (Option.filter_eq_some_iff.mp h).1

theorem consumes_keyword (k : Keyword) : Consumes (keyword k) := by
  refine consumes_token fun cs a rest h => ?_
  unfold takeKeyword? at h
  split at h
  · next word rest' hword =>
    split at h
    · obtain rfl := (Prod.mk.inj (Option.some.inj h)).2
      exact takeWord?_later hword
    · cases h
  · cases h

theorem consumes_symbol (m : Mark) : Consumes (symbol m.text) := by
  have hne : m.text.toList ≠ [] := by cases m <;> decide
  refine consumes_token fun cs a rest h => ?_
  obtain ⟨rest', htake, hrest⟩ := Option.map_eq_some_iff.mp h
  obtain rfl := (Prod.mk.inj hrest).2
  exact takeSymbol?_later hne htake

theorem consumes_oneOf {token : α → String} (htoken : ∀ a, (token a).toList ≠ [])
    (choices : List α) : Consumes (Reader.token (takeOneOf? token choices)) := by
  refine consumes_token fun cs a rest h => ?_
  obtain ⟨-, rfl⟩ := takeOneOf?_eq_some h
  exact later_append (htoken a) rest

theorem consumes_arithmeticOp (choices : List ArithmeticOp) : Consumes (arithmeticOp choices) :=
  consumes_oneOf (fun op => by cases op <;> decide) choices

theorem consumes_comparisonOp : Consumes comparisonOp :=
  consumes_oneOf (fun op => by cases op <;> decide) ComparisonOp.all

theorem takeWhole?_later {cs rest : List Char} {n : WholeNumeral}
    (h : takeWhole? cs = some (n, rest)) : Later rest cs := by
  obtain ⟨rfl, hdigits, -⟩ := takeWhole?_eq_some_iff.mp h
  obtain ⟨d, ds, hds, -⟩ := hdigits.exists_first
  have hne : n.digits ≠ [] := by simp [hds]
  exact (later_append hne rest).trans_suffix (List.suffix_append _ _)

theorem consumes_fractional : Consumes fractional := by
  have htoken : Consumes (token takeFractional?) := by
    refine consumes_token fun cs n rest h => ?_
    obtain ⟨rfl, -, -, -⟩ := takeFractional?_eq_some_iff.mp h
    have hpoint : Later rest ('.' :: (n.fraction ++ rest)) :=
      later_append (List.cons_ne_nil '.' n.fraction) rest
    exact hpoint.trans_suffix ((List.suffix_append _ _).trans (List.suffix_append _ _))
  exact htoken.bind fun n => keeps_pure _

theorem consumes_whole : Consumes whole := by
  have hvalue : ∀ start n, Keeps (wholeValue start n) := by
    intro start n cs r hr
    unfold wholeValue at hr
    split at hr <;> obtain rfl := Option.some.inj hr <;> exact List.suffix_refl cs
  have hremaining : Keeps remaining := by
    intro cs r hr
    obtain rfl := Option.some.inj hr
    exact List.suffix_refl cs
  exact keeps_trivia.bind_consumes fun _ => hremaining.bind_consumes fun start =>
    (consumes_scan fun _ _ _ h => takeWhole?_later h).bind fun n => keeps_trivia.bind fun _ =>
      hvalue start n

end ToyLang.Source
