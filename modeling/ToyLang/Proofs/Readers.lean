import ToyLang.Proofs.Scanners
import ToyLang.Proofs.Spelling

/-!
# What readers read

A reader is specified from both sides.  From a successful run: the text it read was laid out
from tokens that belong to the value.  From the text: laid out from the tokens of a value,
the text is read as that value — provided that what follows the tokens does not go on with
them, and, in a choice, that no earlier alternative reads something.

## Main definitions

* `Yields p P` — what `p` reads are tokens of the value, as `P` says.
* `Reads p a ts F` — `p` reads `a` from its tokens `ts`, where `F` holds of what follows.
* `Refuses p ts F` — `p` reads nothing there.

## Main results

* `Yields.bind`, `Reads.bind` and the like — the specifications go through every way of
  putting readers together.
* `name_yields`, `name_reads`, `keyword_yields`, `keyword_reads` and the like — the readers
  of single tokens.
-/

namespace ToyLang.Source

open Text Reader

variable {α β : Type}

/-! ### Running a reader -/

theorem bind_eq_some {p : Reader α} {f : α → Reader β} {cs : List Char} {s : Reading β} :
    (p >>= f) cs = some s ↔ ∃ r, p cs = some r ∧ ∃ r', f r.value r.rest = some r' ∧
      s = ⟨r'.value, r.overflows ++ r'.overflows, r'.rest⟩ := by
  simp only [bind, Reader.bind]
  cases p cs with
  | none => simp
  | some r =>
    cases hf : f r.value r.rest with
    | none => simp [hf]
    | some r' => simp [hf, eq_comm]

theorem bind_of_some {p : Reader α} {f : α → Reader β} {cs mid rest : List Char} {a : α} {b : β}
    {os os' : List Overflow} (hp : p cs = some ⟨a, os, mid⟩) (hf : f a mid = some ⟨b, os', rest⟩) :
    (p >>= f) cs = some ⟨b, os ++ os', rest⟩ :=
  bind_eq_some.mpr ⟨_, hp, _, hf, rfl⟩

theorem bind_of_none {p : Reader α} {cs : List Char} (h : p cs = none) (f : α → Reader β) :
    (p >>= f) cs = none := by
  simp only [bind, Reader.bind, h]

theorem bind_of_none_right {p : Reader α} {f : α → Reader β} {cs mid : List Char} {a : α}
    {os : List Overflow} (hp : p cs = some ⟨a, os, mid⟩) (hf : f a mid = none) :
    (p >>= f) cs = none := by
  simp only [bind, Reader.bind, hp, hf]

theorem map_eq_bind (g : α → β) (p : Reader α) : g <$> p = p >>= fun a => pure (g a) := rfl

theorem map_of_some {p : Reader α} {cs : List Char} {r : Reading α} (h : p cs = some r)
    (g : α → β) : (g <$> p) cs = some ⟨g r.value, r.overflows, r.rest⟩ := by
  rw [map_eq_bind, bind_of_some h rfl, List.append_nil]

theorem map_of_none {p : Reader α} {cs : List Char} (h : p cs = none) (g : α → β) :
    (g <$> p) cs = none := bind_of_none h _

theorem orElse_of_some {p q : Reader α} {cs : List Char} {r : Reading α} (h : p cs = some r) :
    (p <|> q) cs = some r := by
  change Reader.orElse p q cs = some r
  rw [Reader.orElse, h]

theorem orElse_of_none {p q : Reader α} {cs : List Char} (h : p cs = none) :
    (p <|> q) cs = q cs := by
  change Reader.orElse p q cs = q cs
  rw [Reader.orElse, h]

theorem orElse_eq_none {p q : Reader α} {cs : List Char} (hp : p cs = none) (hq : q cs = none) :
    (p <|> q) cs = none := by
  rw [orElse_of_none hp, hq]

/-- Repetition always reads something, if only nothing. -/
theorem exists_many (p : Reader α) (rounds : Nat) (cs : List Char) :
    ∃ r, many p rounds cs = some r := by
  cases rounds with
  | zero => exact ⟨_, rfl⟩
  | succ rounds =>
    cases hfirst : (do let a ← p; let as ← many p rounds; pure (a :: as)) cs with
    | some r => exact ⟨r, orElse_of_some hfirst⟩
    | none => exact ⟨⟨[], [], cs⟩, orElse_of_none hfirst⟩

/-- At a visible character a token is taken where it stands, and the trivia behind it goes
with it. -/
theorem token_apply {take : List Char → Option (α × List Char)} {cs : List Char}
    (h : Visible cs) :
    token take cs = (take cs).map fun r => ⟨r.1, [], skipTrivia r.2⟩ := by
  simp only [token, bind, Reader.bind, trivia, scan, pure, Reader.pure]
  rw [show skipTrivia cs = cs from h]
  cases take cs <;> rfl

/-! ### From a run to the tokens -/

/-- What a reader reads are tokens of the value. -/
def Yields (p : Reader α) (P : α → List Token → Prop) : Prop :=
  ∀ ⦃cs r⦄, Visible cs → p cs = some r → ∃ ts, Laid ts cs r.overflows r.rest ∧ P r.value ts

namespace Yields

variable {p q : Reader α} {P : α → List Token → Prop}

theorem pure {a : α} (h : P a []) : Yields (pure a) P := by
  rintro cs r - hr
  cases hr
  exact ⟨[], ⟨rfl, rfl⟩, h⟩

theorem fail : Yields (failure : Reader α) P := by
  rintro cs r - hr
  cases hr

theorem bind {f : α → Reader β} {Q : β → List Token → Prop} (hp : Yields p P)
    (hf : ∀ a ts, P a ts → Yields (f a) fun b us => Q b (ts ++ us)) : Yields (p >>= f) Q := by
  intro cs s hcs hs
  obtain ⟨r, hr, r', hr', rfl⟩ := bind_eq_some.mp hs
  obtain ⟨ts, hts, hP⟩ := hp hcs hr
  obtain ⟨us, hus, hQ⟩ := hf r.value ts hP (hts.visible hcs) hr'
  exact ⟨ts ++ us, laid_append.mpr ⟨_, _, _, hts, hus, rfl⟩, hQ⟩

theorem imp {Q : α → List Token → Prop} (hp : Yields p P) (h : ∀ a ts, P a ts → Q a ts) :
    Yields p Q := by
  intro cs r hcs hr
  obtain ⟨ts, hts, hP⟩ := hp hcs hr
  exact ⟨ts, hts, h _ _ hP⟩

theorem map {g : α → β} {Q : β → List Token → Prop} (hp : Yields p P)
    (h : ∀ a ts, P a ts → Q (g a) ts) : Yields (g <$> p) Q := by
  rw [map_eq_bind]
  refine hp.bind fun a ts ha => .pure ?_
  rw [List.append_nil]
  exact h a ts ha

theorem orElse (hp : Yields p P) (hq : Yields q P) : Yields (p <|> q) P := by
  intro cs r hcs hr
  cases hread : p cs with
  | some r' =>
    rw [orElse_of_some hread] at hr
    obtain rfl := Option.some.inj hr
    exact hp hcs hread
  | none =>
    rw [orElse_of_none hread] at hr
    exact hq hcs hr

theorem many (hp : Yields p P) (rounds : Nat) : Yields (many p rounds) (Each P) := by
  induction rounds with
  | zero => exact .pure .nil
  | succ rounds ih =>
    refine .orElse (.bind hp fun a ts ha => .bind ih fun as us has => .pure ?_) (.pure .nil)
    rw [List.append_nil]
    exact .cons ha has

end Yields

/-- A token is read from its spelling. -/
theorem token_yields {take : List Char → Option (α × List Char)} {P : α → List Token → Prop}
    (h : ∀ ⦃cs a rest⦄, Visible cs → take cs = some (a, rest) → ∃ t : Token,
      cs = t.spelling ++ rest ∧ t.Ends rest ∧ t.overflows cs = [] ∧ P a [t]) :
    Yields (token take) P := by
  intro cs r hcs hr
  rw [token_apply hcs, Option.map_eq_some_iff] at hr
  obtain ⟨⟨a, rest⟩, htake, rfl⟩ := hr
  obtain ⟨t, hspelling, hends, hoverflows, hP⟩ := h hcs htake
  exact ⟨[t], ⟨rest, [], hspelling, hends, by rw [hoverflows]; rfl, rfl, rfl⟩, hP⟩

theorem symbol_yields (m : Mark) : Yields (symbol m.text) fun _ ts => ts = [.mark m] := by
  refine token_yields fun cs a rest _ h => ?_
  rw [Option.map_eq_some_iff] at h
  obtain ⟨rest, h, hrest⟩ := h
  obtain rfl := (Prod.mk.inj hrest).2
  exact ⟨.mark m, takeSymbol?_eq_some_iff.mp h, trivial, rfl, rfl⟩

/-- A thing with a comma before it. -/
def BehindComma (P : α → List Token → Prop) (a : α) (us : List Token) : Prop :=
  ∃ ts, us = .mark .comma :: ts ∧ P a ts

theorem commaTail_iff {P : α → List Token → Prop} {as : List α} {us : List Token} :
    CommaTail P as us ↔ ∃ vs trail, us = vs ++ trail ∧ Each (BehindComma P) as vs ∧
      (trail = [] ∨ trail = [.mark .comma]) := by
  constructor
  · intro h
    induction h with
    | nil => exact ⟨[], [], rfl, .nil, .inl rfl⟩
    | trailing => exact ⟨[], _, rfl, .nil, .inr rfl⟩
    | cons ha _ ih =>
      obtain ⟨vs, trail, rfl, has, htrail⟩ := ih
      exact ⟨_, trail, by simp, .cons ⟨_, rfl, ha⟩ has, htrail⟩
  · rintro ⟨vs, trail, rfl, has, htrail⟩
    induction has with
    | nil =>
      obtain rfl | rfl := htrail
      · exact .nil
      · exact .trailing
    | cons ha _ ih =>
      obtain ⟨ts, rfl, ha⟩ := ha
      simpa using CommaTail.cons ha ih

theorem Yields.commaList {p : Reader α} {P : α → List Token → Prop} (hp : Yields p P)
    (rounds : Nat) : Yields (commaList p rounds) (Commas P) := by
  have hother : Yields (do symbol ","; p) (BehindComma P) := by
    refine .bind (symbol_yields .comma) fun _ _ hcomma => hp.imp fun a ts ha => ?_
    exact ⟨ts, by rw [hcomma]; rfl, ha⟩
  have htrail : Yields (symbol "," <|> Pure.pure ()) fun _ ts => ts = [] ∨ ts = [.mark .comma] :=
    .orElse ((symbol_yields .comma).imp fun _ _ => .inr) (.pure (.inl rfl))
  refine .orElse (.bind hp fun a ts ha => .bind (hother.many rounds) fun as us has =>
    .bind htrail fun _ vs hvs => .pure ?_) (.pure .nil)
  rw [List.append_nil]
  exact .cons ha (commaTail_iff.mpr ⟨us, vs, rfl, has, hvs⟩)

theorem keyword_yields (k : Keyword) : Yields (keyword k) fun _ ts => ts = [.keyword k] := by
  refine token_yields fun cs a rest _ h => ?_
  unfold takeKeyword? at h
  split at h
  · next word rest' hword =>
    split at h
    · next hk =>
      obtain ⟨hcs, -, hrest⟩ := takeWord?_eq_some_iff.mp hword
      obtain rfl := (Prod.mk.inj (Option.some.inj h)).2
      exact ⟨.keyword k, by rw [hcs, hk]; rfl, hrest, rfl, rfl⟩
    · cases h
  · cases h

theorem name_yields : Yields name fun n ts => ∃ valid, ts = [.name n valid] := by
  refine token_yields fun cs n rest _ h => ?_
  rw [takeName?, Option.filter_eq_some_iff] at h
  obtain ⟨h, hkeyword⟩ := h
  obtain ⟨hcs, hword, hrest⟩ := takeWord?_eq_some_iff.mp h
  have hname : isName n = true := by simpa [isName, hword] using hkeyword
  exact ⟨.name n hname, hcs, hrest, rfl, hname, rfl⟩

/-- The operator that is taken is one of the choices, and its token stands there. -/
theorem takeOneOf?_eq_some {token : α → String} {choices : List α} {cs rest : List Char} {a : α}
    (h : takeOneOf? token choices cs = some (a, rest)) :
    a ∈ choices ∧ cs = (token a).toList ++ rest := by
  rw [takeOneOf?] at h
  obtain ⟨b, hb, hfound⟩ := List.exists_of_findSome?_eq_some h
  rw [Option.map_eq_some_iff] at hfound
  obtain ⟨rest', hsymbol, hrest⟩ := hfound
  obtain ⟨rfl, rfl⟩ := Prod.mk.inj hrest
  exact ⟨hb, takeSymbol?_eq_some_iff.mp hsymbol⟩

theorem arithmeticOp_yields (choices : List ArithmeticOp) :
    Yields (arithmeticOp choices) fun op ts => op ∈ choices ∧ ts = [.arith op] := by
  refine token_yields fun cs op rest hcs h => ?_
  obtain ⟨hop, hspelling⟩ := takeOneOf?_eq_some h
  refine ⟨.arith op, hspelling, ?_, rfl, hop, rfl⟩
  cases op with
  | div =>
    subst hspelling
    exact Visible.head?_ne_slash hcs
  | _ => trivial

/-- The longer of two operators that begin alike is taken where it fits. -/
theorem comparisonOp_yields : Yields comparisonOp fun op ts => ts = [.compare op] := by
  refine token_yields fun cs op rest _ h => ?_
  obtain ⟨-, hspelling⟩ := takeOneOf?_eq_some h
  refine ⟨.compare op, hspelling, ?_, rfl, rfl⟩
  cases op with
  | lt =>
    intro hequals
    obtain ⟨rest, rfl⟩ := List.head?_eq_some_iff.mp hequals
    have hle : takeOneOf? ComparisonOp.token ComparisonOp.all ('<' :: '=' :: rest)
        = some (.le, rest) := rfl
    rw [hspelling] at h
    exact absurd (h.symm.trans hle) (by simp)
  | gt =>
    intro hequals
    obtain ⟨rest, rfl⟩ := List.head?_eq_some_iff.mp hequals
    have hge : takeOneOf? ComparisonOp.token ComparisonOp.all ('>' :: '=' :: rest)
        = some (.ge, rest) := rfl
    rw [hspelling] at h
    exact absurd (h.symm.trans hge) (by simp)
  | _ => trivial

theorem fractional_yields : Yields fractional fun x ts =>
    ∃ n valid, x = FractionalNumeral.value n ∧ ts = [.fractional n valid] := by
  have htoken : Yields (token takeFractional?) fun n ts => ∃ valid, ts = [.fractional n valid] := by
    refine token_yields fun cs n rest _ h => ?_
    obtain ⟨hcs, hdigits, hfraction, hrest⟩ := takeFractional?_eq_some_iff.mp h
    exact ⟨.fractional n ⟨hdigits, hfraction⟩, by simpa [Token.spelling] using hcs, hrest, rfl,
      ⟨hdigits, hfraction⟩, rfl⟩
  refine htoken.bind ?_
  rintro n _ ⟨valid, rfl⟩
  exact .pure ⟨n, valid, rfl, rfl⟩

theorem wholeValue_eq (n : WholeNumeral) (valid : IsWhole n.digits) (start cs : List Char) :
    wholeValue start n cs = some ⟨n.value, (Token.whole n valid).overflows start, cs⟩ := by
  cases hvalue : int64Of? (signedValue n.negative n.digits) <;>
    simp [wholeValue, Token.overflows, WholeNumeral.value, hvalue]

theorem whole_apply {cs : List Char} (h : Visible cs) :
    whole cs = (takeWhole? cs).bind fun r => wholeValue cs r.1 (skipTrivia r.2) := by
  simp only [whole, bind, Reader.bind, trivia, remaining, scan]
  rw [show skipTrivia cs = cs from h]
  cases takeWhole? cs with
  | none => rfl
  | some r =>
    simp only [Option.map_some, Option.bind_some]
    cases wholeValue cs r.1 (skipTrivia r.2) <;> rfl

/-- A numeral without a fraction, where there is none with a fraction. -/
theorem whole_yields {cs : List Char} {r : Reading Int64} (hcs : Visible cs)
    (hfractional : fractional cs = none) (h : whole cs = some r) :
    ∃ n valid, Laid [.whole n valid] cs r.overflows r.rest ∧ r.value = n.value := by
  rw [whole_apply hcs, Option.bind_eq_some_iff] at h
  obtain ⟨⟨n, rest⟩, htake, h⟩ := h
  obtain ⟨hspelling, valid, hrest⟩ := takeWhole?_eq_some_iff.mp htake
  have hfraction : takeFraction? rest = none := by
    cases hfraction : takeFraction? rest with
    | none => rfl
    | some f =>
      have htoken : fractional cs ≠ none := by
        simp [fractional, bind, Reader.bind, pure, Reader.pure, token_apply hcs, takeFractional?,
          htake, hfraction]
      exact absurd hfractional htoken
  rw [wholeValue_eq n valid] at h
  obtain rfl := Option.some.inj h
  exact ⟨n, valid, ⟨rest, [], by simpa [Token.spelling] using hspelling, ⟨hrest, hfraction⟩,
    (List.append_nil _).symm, rfl, rfl⟩, rfl⟩

/-! ### From the tokens to a run -/

/-- A value is read from its tokens, if what follows does not go on with them. -/
def Reads (p : Reader α) (a : α) (ts : List Token) (F : List Char → Prop) : Prop :=
  ∀ ⦃cs os rest⦄, Visible cs → Laid ts cs os rest → F rest → p cs = some ⟨a, os, rest⟩

/-- Nothing is read where some tokens stand. -/
def Refuses (p : Reader α) (ts : List Token) (F : List Char → Prop) : Prop :=
  ∀ ⦃cs os rest⦄, Visible cs → Laid ts cs os rest → F rest → p cs = none

/-- What follows some tokens is what follows the tokens behind them. -/
def Leads (us : List Token) (G F : List Char → Prop) : Prop :=
  ∀ ⦃mid os rest⦄, Laid us mid os rest → G rest → F mid

/-- Anything may follow. -/
def Anything (_ : List Char) : Prop := True

theorem leads_anything {us : List Token} {G : List Char → Prop} : Leads us G Anything :=
  fun _ _ _ _ _ => trivial

section

variable {p q : Reader α} {a : α} {b : β} {t : Token} {ts us : List Token}
  {F G : List Char → Prop}

theorem Reads.pure : Reads (pure a) a [] F := by
  rintro cs os rest - ⟨rfl, rfl⟩ -
  rfl

theorem Reads.bind {f : α → Reader β} (hp : Reads p a ts F) (hf : Reads (f a) b us G)
    (hF : Leads us G F) : Reads (p >>= f) b (ts ++ us) G := by
  intro cs os rest hcs h hG
  obtain ⟨mid, os₁, os₂, hts, hus, rfl⟩ := laid_append.mp h
  exact bind_of_some (hp hcs hts (hF hus hG)) (hf (hts.visible hcs) hus hG)

/-- What a token ends in does not matter to the token. -/
theorem Reads.token_bind {f : α → Reader β} (hp : Reads p a [t] Anything)
    (hf : Reads (f a) b us G) : Reads (p >>= f) b (t :: us) G :=
  hp.bind hf leads_anything

theorem Reads.map (hp : Reads p a ts F) (g : α → β) : Reads (g <$> p) (g a) ts F := by
  intro cs os rest hcs h hF
  exact map_of_some (hp hcs h hF) g

theorem Reads.orElse_left (hp : Reads p a ts F) : Reads (p <|> q) a ts F :=
  fun _ _ _ hcs h hF => orElse_of_some (hp hcs h hF)

theorem Reads.orElse_right (hp : Refuses p ts F) (hq : Reads q a ts F) :
    Reads (p <|> q) a ts F := fun _ _ _ hcs h hF => by
  rw [orElse_of_none (hp hcs h hF)]
  exact hq hcs h hF

theorem Reads.imp (hp : Reads p a ts F) (h : ∀ rest, G rest → F rest) : Reads p a ts G :=
  fun _ _ rest hcs hts hG => hp hcs hts (h rest hG)

theorem Refuses.bind (hp : Refuses p ts F) (f : α → Reader β) : Refuses (p >>= f) ts F :=
  fun _ _ _ hcs h hF => bind_of_none (hp hcs h hF) f

theorem Refuses.map (hp : Refuses p ts F) (g : α → β) : Refuses (g <$> p) ts F :=
  hp.bind _

/-- Nothing is read if nothing is read behind the first tokens. -/
theorem Refuses.bind_right {f : α → Reader β} (hp : Reads p a ts F) (hf : Refuses (f a) us G)
    (hF : Leads us G F) : Refuses (p >>= f) (ts ++ us) G := by
  intro cs os rest hcs h hG
  obtain ⟨mid, os₁, os₂, hts, hus, rfl⟩ := laid_append.mp h
  exact bind_of_none_right (hp hcs hts (hF hus hG)) (hf (hts.visible hcs) hus hG)

end

/-! ### Repetition -/

/-- A token opens a text of which `F` holds. -/
def Token.Opens (F : List Char → Prop) (t : Token) : Prop :=
  ∀ after, t.Ends after → F (t.spelling ++ after)

section

variable {p : Reader α} {P : α → List Token → Prop} {as : List α} {ts us : List Token}
  {F G : List Char → Prop}

theorem Leads.nil (h : ∀ rest, G rest → F rest) : Leads [] G F := by
  rintro mid os rest ⟨rfl, -⟩ hG
  exact h mid hG

theorem Leads.cons {t : Token} (h : t.Opens F) : Leads (t :: us) G F := by
  rintro mid os rest ⟨after, os', rfl, hends, -, -⟩ -
  exact h after hends

theorem Leads.append {H : List Char → Prop} {vs : List Token} (hus : Leads us G F)
    (hvs : Leads vs H G) : Leads (us ++ vs) H F := by
  intro mid os rest h hH
  obtain ⟨mid', os₁, os₂, hmid, hrest, -⟩ := laid_append.mp h
  exact hus hmid (hvs hrest hH)

theorem Each.leads (hP : ∀ a ts, P a ts → ∃ t ts', ts = t :: ts' ∧ t.Opens F)
    (hGF : ∀ rest, G rest → F rest) (h : Each P as us) : Leads us G F := by
  cases h with
  | nil => exact .nil hGF
  | cons ha _ =>
    obtain ⟨t, ts', rfl, ht⟩ := hP _ _ ha
    exact .cons ht

/-- Values are read one after the other, until nothing more is read. -/
theorem Reads.many (hp : ∀ a ts, P a ts → Reads p a ts F)
    (hP : ∀ a ts, P a ts → ∃ t ts', ts = t :: ts' ∧ t.Opens F)
    (hGF : ∀ rest, G rest → F rest) (hstop : Refuses p [] G) (h : Each P as ts)
    {rounds : Nat} (hrounds : as.length ≤ rounds) : Reads (many p rounds) as ts G := by
  induction h generalizing rounds with
  | nil =>
    cases rounds with
    | zero => exact .pure
    | succ rounds => exact .orElse_right (hstop.bind _) .pure
  | @cons a _ _ _ ha has ih =>
    cases rounds with
    | zero => simp at hrounds
    | succ rounds =>
      have hothers := (ih (Nat.le_of_succ_le_succ hrounds)).map (a :: ·)
      exact .orElse_left ((hp _ _ ha).bind hothers (has.leads hP hGF))

end

/-! ### Single tokens -/

theorem forall_head?_of_eq {q : Char → Prop} {c : Char} {cs : List Char}
    (h : cs.head? = some c) (hc : q c) : ∀ d ∈ cs.head?, q d := by
  intro d hd
  obtain rfl := Option.some.inj (h.symm.trans hd)
  exact hc

/-- A text begins with the first character of its first token. -/
theorem Token.head?_append (t : Token) (after : List Char) :
    (t.spelling ++ after).head? = t.spelling.head? := by
  cases h : t.spelling with
  | nil => exact absurd h t.spelling_ne_nil
  | cons c cs => rfl

theorem Laid.head? {t : Token} {us : List Token} {cs rest : List Char} {os : List Overflow}
    (h : Laid (t :: us) cs os rest) : cs.head? = t.spelling.head? := by
  obtain ⟨after, os', rfl, -⟩ := h
  exact t.head?_append after

theorem IsWhole.head? {ds rest : List Char} (h : IsWhole ds) (negative : Bool) :
    ∀ c ∈ (signChars negative ++ (ds ++ rest)).head?, c = '-' ∨ c.isDigit = true := by
  obtain ⟨c, cs, hchars, hc⟩ := h.exists_first_signed negative rest
  rw [hchars]
  rintro d ⟨⟩
  exact hc

theorem isStart_eq_false_of_signed {c : Char} (h : c = '-' ∨ c.isDigit = true) :
    isStart c = false := by
  obtain rfl | h := h
  · decide
  · exact isStart_eq_false_of_isDigit h

/-- The word that a token is, if it is one. -/
def Token.word? : Token → Option String
  | keyword k => some k.spelling
  | name text _ => some text
  | _ => none

/-- A token that is no word does not begin like one. -/
theorem Token.isStart_eq_false {t : Token} (h : t.word? = none) :
    ∀ c ∈ t.spelling.head?, isStart c = false := by
  cases t with
  | keyword k => cases h
  | name text valid => cases h
  | whole n valid =>
    intro c hc
    rw [spelling, ← List.append_nil n.digits] at hc
    exact isStart_eq_false_of_signed (valid.head? n.negative c hc)
  | fractional n valid =>
    intro c hc
    exact isStart_eq_false_of_signed (valid.1.head? n.negative c hc)
  | arith op => cases op <;> rintro c ⟨⟩ <;> decide
  | compare op => cases op <;> rintro c ⟨⟩ <;> decide
  | mark m => cases m <;> rintro c ⟨⟩ <;> decide

section

variable {take : List Char → Option (α × List Char)} {a : α} {t : Token} {us : List Token}
  {cs : List Char} {F : List Char → Prop}

theorem token_reads (htake : ∀ after, t.Ends after → take (t.spelling ++ after) = some (a, after))
    (hoverflows : ∀ cs, t.overflows cs = []) : Reads (token take) a [t] F := by
  rintro cs os rest hcs ⟨after, os', rfl, hends, rfl, rfl, rfl⟩ -
  rw [token_apply hcs, htake after hends, hoverflows]
  rfl

theorem token_refuses (htake : ∀ after, t.Ends after → take (t.spelling ++ after) = none) :
    Refuses (token take) (t :: us) F := by
  rintro cs os rest hcs ⟨after, os', rfl, hends, -, -⟩ -
  rw [token_apply hcs, htake after hends]
  rfl

theorem token_eq_none (hcs : Visible cs) (htake : take cs = none) : token take cs = none := by
  rw [token_apply hcs, htake]
  rfl

/-- A word is taken exactly where the token is one. -/
theorem takeWord?_spelling {after : List Char} (h : t.Ends after) :
    takeWord? (t.spelling ++ after) = t.word?.map fun word => (word, after) := by
  cases hword : t.word? with
  | none =>
    refine takeWord?_eq_none ?_
    rw [t.head?_append]
    exact Token.isStart_eq_false hword
  | some word =>
    cases t with
    | keyword k =>
      obtain rfl := Option.some.inj hword
      exact takeWord?_eq_some_iff.mpr ⟨rfl, k.isWord_spelling, h⟩
    | name text valid =>
      obtain rfl := Option.some.inj hword
      exact takeWord?_eq_some_iff.mpr ⟨rfl, isWord_of_isName valid, h⟩
    | _ => cases hword

theorem keyword_reads (k : Keyword) : Reads (keyword k) () [.keyword k] F := by
  refine token_reads (fun after hends => ?_) fun _ => rfl
  rw [takeKeyword?, takeWord?_spelling hends]
  simp [Token.word?]

theorem takeKeyword?_eq_none {k : Keyword} {after : List Char} (hends : t.Ends after)
    (h : t.word? ≠ some k.spelling) : takeKeyword? k (t.spelling ++ after) = none := by
  rw [takeKeyword?, takeWord?_spelling hends]
  cases hword : t.word? with
  | none => rfl
  | some word =>
    have hne : word ≠ k.spelling := fun heq => h (by rw [hword, heq])
    simp [hne]

theorem keyword_refuses {k : Keyword} (h : t.word? ≠ some k.spelling) :
    Refuses (keyword k) (t :: us) F :=
  token_refuses fun _ hends => takeKeyword?_eq_none hends h

theorem keyword_eq_none (k : Keyword) (hcs : Visible cs)
    (h : ∀ c ∈ cs.head?, isStart c = false) : keyword k cs = none := by
  refine token_eq_none hcs ?_
  rw [takeKeyword?, takeWord?_eq_none h]

theorem name_reads {n : String} (valid : isName n = true) : Reads name n [.name n valid] F := by
  refine token_reads (fun after hends => ?_) fun _ => rfl
  have hkeyword : isKeyword n = false := by
    simp only [isName, Bool.and_eq_true, Bool.not_eq_true'] at valid
    exact valid.2
  rw [takeName?, takeWord?_spelling hends]
  simp [Token.word?, hkeyword]

theorem name_refuses (h : ∀ word, t.word? = some word → isKeyword word = true) :
    Refuses name (t :: us) F := by
  refine token_refuses fun after hends => ?_
  rw [takeName?, takeWord?_spelling hends]
  cases hword : t.word? with
  | none => rfl
  | some word => simp [h word hword]

theorem name_eq_none (hcs : Visible cs) (h : ∀ c ∈ cs.head?, isStart c = false) :
    name cs = none := by
  refine token_eq_none hcs ?_
  rw [takeName?, takeWord?_eq_none h]
  rfl

theorem symbol_reads (m : Mark) : Reads (symbol m.text) () [.mark m] F := by
  refine token_reads (fun after _ => ?_) fun _ => rfl
  rw [Token.spelling, takeSymbol?_eq_some_iff.mpr rfl]
  rfl

theorem symbol_eq_none (m : Mark) (hcs : Visible cs) (h : cs.head? ≠ m.text.toList.head?) :
    symbol m.text cs = none := by
  refine token_eq_none hcs ?_
  obtain ⟨c, ds, hchars⟩ : ∃ c ds, m.text.toList = c :: ds := by
    cases m <;> exact ⟨_, _, rfl⟩
  rw [hchars] at h ⊢
  rw [takeSymbol?_eq_none h]
  rfl

theorem symbol_refuses {m : Mark} (h : t.spelling.head? ≠ m.text.toList.head?) :
    Refuses (symbol m.text) (t :: us) F :=
  fun _ _ _ hcs hts _ => symbol_eq_none m hcs (by rwa [hts.head?])

theorem fractional_reads (n : FractionalNumeral)
    (valid : IsWhole n.digits ∧ IsFraction n.fraction) :
    Reads fractional n.value [.fractional n valid] F := by
  refine (token_reads (fun after hends => ?_) fun _ => rfl).map _
  refine takeFractional?_eq_some_iff.mpr ⟨?_, valid.1, valid.2, hends⟩
  simp [Token.spelling]

theorem takeWhole?_spelling {n : WholeNumeral} {valid : IsWhole n.digits} {after : List Char}
    (h : (Token.whole n valid).Ends after) :
    takeWhole? ((Token.whole n valid).spelling ++ after) = some (n, after) :=
  takeWhole?_eq_some_iff.mpr ⟨by simp [Token.spelling], valid, h.1⟩

theorem whole_reads (n : WholeNumeral) (valid : IsWhole n.digits) :
    Reads whole n.value [.whole n valid] F := by
  rintro cs os rest hcs ⟨after, os', rfl, hends, rfl, rfl, rfl⟩ -
  rw [whole_apply hcs, takeWhole?_spelling hends, Option.bind_some, wholeValue_eq n valid,
    List.append_nil]

/-- A whole numeral behind which no fraction follows is not read as one with a fraction. -/
theorem fractional_refuses_whole (n : WholeNumeral) (valid : IsWhole n.digits) :
    Refuses fractional (.whole n valid :: us) F :=
  (token_refuses fun _ hends => takeFractional?_of_whole (takeWhole?_spelling hends) hends.2).map _

theorem fractional_eq_none (hcs : Visible cs) (h : ∀ c ∈ cs.head?, c ≠ '-' ∧ c.isDigit = false) :
    fractional cs = none :=
  bind_of_none (token_eq_none hcs (takeFractional?_eq_none h)) _

theorem fractional_refuses (h : ∀ c ∈ t.spelling.head?, c ≠ '-' ∧ c.isDigit = false) :
    Refuses fractional (t :: us) F :=
  fun _ _ _ hcs hts _ => fractional_eq_none hcs (by rwa [hts.head?])

theorem whole_eq_none (hcs : Visible cs) (h : ∀ c ∈ cs.head?, c ≠ '-' ∧ c.isDigit = false) :
    whole cs = none := by
  rw [whole_apply hcs, takeWhole?_eq_none h]
  rfl

theorem whole_refuses (h : ∀ c ∈ t.spelling.head?, c ≠ '-' ∧ c.isDigit = false) :
    Refuses whole (t :: us) F :=
  fun _ _ _ hcs hts _ => whole_eq_none hcs (by rwa [hts.head?])

theorem takeOneOf?_eq_none {token : β → String} {choices : List β}
    (h : ∀ b ∈ choices, takeSymbol? (token b).toList cs = none) :
    takeOneOf? token choices cs = none := by
  rw [takeOneOf?, List.findSome?_eq_none_iff]
  intro b hb
  rw [h b hb]
  rfl

theorem arithmeticOp_reads {choices : List ArithmeticOp} {op : ArithmeticOp}
    (h : op ∈ choices) : Reads (arithmeticOp choices) op [.arith op] F := by
  refine token_reads (fun after _ => ?_) fun _ => rfl
  induction choices with
  | nil => cases h
  | cons b choices ih =>
    by_cases hb : b = op
    · subst hb
      rw [takeOneOf?, List.findSome?_cons, Token.spelling, takeSymbol?_eq_some_iff.mpr rfl]
      rfl
    · have hnone : takeSymbol? b.token.toList ((Token.arith op).spelling ++ after) = none := by
        cases b <;> cases op <;> first | rfl | exact absurd rfl hb
      rw [takeOneOf?, List.findSome?_cons, hnone]
      exact ih (List.mem_of_ne_of_mem (Ne.symm hb) h)

theorem arithmeticOp_eq_none {choices : List ArithmeticOp} (hcs : Visible cs)
    (h : ∀ op ∈ choices, cs.head? ≠ op.token.toList.head?) :
    arithmeticOp choices cs = none := by
  refine token_eq_none hcs (takeOneOf?_eq_none fun op hop => ?_)
  have hne := h op hop
  cases op <;> exact takeSymbol?_eq_none hne

theorem comparisonOp_reads (op : ComparisonOp) : Reads comparisonOp op [.compare op] F := by
  refine token_reads (fun after hends => ?_) fun _ => rfl
  cases op with
  | lt =>
    have hle : takeSymbol? ComparisonOp.le.token.toList ((Token.compare .lt).spelling ++ after)
        = none := (takeSymbol?_eq_none hends : takeSymbol? ['='] after = none)
    rw [takeOneOf?, ComparisonOp.all]
    simp only [List.findSome?_cons, hle]
    rfl
  | gt =>
    have hge : takeSymbol? ComparisonOp.ge.token.toList ((Token.compare .gt).spelling ++ after)
        = none := (takeSymbol?_eq_none hends : takeSymbol? ['='] after = none)
    rw [takeOneOf?, ComparisonOp.all]
    simp only [List.findSome?_cons, hge]
    rfl
  | _ => rfl

theorem comparisonOp_eq_none (hcs : Visible cs)
    (h : ∀ op : ComparisonOp, cs.head? ≠ op.token.toList.head?) : comparisonOp cs = none := by
  refine token_eq_none hcs (takeOneOf?_eq_none fun op _ => ?_)
  have hne := h op
  cases op <;> exact takeSymbol?_eq_none hne

end

/-! ### Lists with commas -/

section

variable {p : Reader α} {P : α → List Token → Prop} {as : List α} {ts : List Token}
  {F : List Char → Prop}

/-- The next character is a closing parenthesis. -/
def Closes (rest : List Char) : Prop := rest.head? = some ')'

/-- No further element follows: what follows is no comma, or a comma with no element behind
it. -/
def StopsList (p : Reader α) (F : List Char → Prop) (rest : List Char) : Prop :=
  F rest ∧ (Visible rest → (do symbol ","; p) rest = none)

/-- A list is read up to the parenthesis that closes it, where no element begins. -/
theorem Reads.commaList (hp : ∀ a ts, P a ts → Reads p a ts F)
    (hcomma : ∀ after, F (',' :: after)) (hF : ∀ rest, Closes rest → F rest)
    (hclose : ∀ ⦃cs⦄, Visible cs → Closes cs → p cs = none) (h : Commas P as ts) {rounds : Nat}
    (hrounds : as.length ≤ rounds) : Reads (commaList p rounds) as ts Closes := by
  have hnocomma {cs : List Char} (hcs : Visible cs) (h : Closes cs) : symbol "," cs = none :=
    symbol_eq_none .comma hcs (by rw [h]; decide)
  cases h with
  | nil =>
    refine .orElse_right (Refuses.bind ?_ _) .pure
    rintro cs os rest hcs ⟨rfl, -⟩ hrest
    exact hclose hcs hrest
  | @cons a as ts us ha htail =>
    obtain ⟨vs, trail, rfl, has, htrail⟩ := commaTail_iff.mp htail
    have hother (b : α) (us : List Token) (hb : BehindComma P b us) :
        Reads (do symbol ","; p) b us F := by
      obtain ⟨ts, rfl, hb⟩ := hb
      exact (symbol_reads .comma).token_bind (hp b ts hb)
    have hfirst (b : α) (us : List Token) (hb : BehindComma P b us) :
        ∃ t ts', us = t :: ts' ∧ t.Opens F := by
      obtain ⟨ts, rfl, -⟩ := hb
      exact ⟨_, ts, rfl, fun after _ => hcomma after⟩
    have hstop : Refuses (do symbol ","; p) [] (StopsList p F) := by
      rintro cs os rest hcs ⟨rfl, -⟩ hrest
      exact hrest.2 hcs
    have hothers : Reads (Reader.many (do symbol ","; p) rounds) as vs (StopsList p F) :=
      .many hother hfirst (fun _ h => h.1) hstop has (Nat.le_of_succ_le hrounds)
    have hleads : Leads trail Closes (StopsList p F) := by
      obtain rfl | rfl := htrail
      · exact .nil fun rest h => ⟨hF rest h, fun hrest => bind_of_none (hnocomma hrest h) _⟩
      · rintro mid os rest hmid hrest
        refine ⟨?_, fun hvisible => ?_⟩
        · obtain ⟨after, os', rfl, -⟩ := hmid
          exact hcomma after
        · have hread := symbol_reads (F := Anything) .comma hvisible hmid trivial
          exact bind_of_none_right hread (hclose (hmid.visible hvisible) hrest)
    have htrailing : Reads (symbol "," <|> Pure.pure ()) () trail Closes := by
      obtain rfl | rfl := htrail
      · refine .orElse_right ?_ .pure
        rintro cs os rest hcs ⟨rfl, -⟩ hrest
        exact hnocomma hcs hrest
      · exact .orElse_left (symbol_reads .comma)
    have hbehind : Leads (vs ++ trail) Closes F :=
      (has.leads hfirst fun _ h => h.1).append hleads
    exact .orElse_left ((hp a ts ha).bind (hothers.bind (htrailing.map fun _ => a :: as) hleads)
      hbehind)

end

end ToyLang.Source
