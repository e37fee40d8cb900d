import Mathlib.Data.List.Chain
import ToyLang.Proofs.Readers

/-!
# Grammars whose readers end

Readers that take each other as an argument do not say by themselves that reading ends.  A *rule*
says as data what a reader is put together from: tokens, notions of the grammar, and ways of
putting readers together.  So what happens during a reading can be said as well: which notion is
asked for at which place, and from where to where a round of a repetition goes.

A rule that takes a character before it asks for a notion asks later in the text.  Where nothing
has been taken yet, a rule may only ask for a notion of a lower rank; and what is repeated has to
take something in each round.  A *grammar* is a rule for each notion that keeps to this.  Its
notions are then read in one way only, and the recursion is no deeper than the text that is left
allows.

## Main definitions

* `Later`, `Consumes` — a place further on, and readers that take at least one character.
* `Rule`, `Rule.read` — what a reader is put together from, and the reader.
* `Rule.Does` — what happens while a rule is read.
* `Rule.Advances`, `Rule.Guarded` — what can be seen from a rule.
* `Grammar`, `Grammar.unroll`, `Grammar.read` — reading with a bounded depth, and reading.

## Main results

* `Rule.Does.descends` — **guarded rules call later in the text or for what is allowed.**
* `Rule.run_congr` — only the notions that are called for matter.
* `Grammar.eq_read_iff` — **a grammar is read in one way only.**
* `Grammar.unroll_eq_read` — beyond a bound, more depth changes nothing.
* `Grammar.length_lt_bound` — calls are nested less deeply than the bound.
-/

namespace ToyLang.Source

open Reader

variable {α β : Type}

/-! ### Progress -/

/-- What is left of a text behind at least one character. -/
def Later (ds cs : List Char) : Prop := ds <:+ cs ∧ ds.length < cs.length

theorem Later.trans_suffix {cs ds es : List Char} (h : Later es ds) (hds : ds <:+ cs) :
    Later es cs := ⟨h.1.trans hds, Nat.lt_of_lt_of_le h.2 hds.length_le⟩

theorem later_of_suffix {cs ds es : List Char} (h : es <:+ ds) (hds : Later ds cs) :
    Later es cs := ⟨h.trans hds.1, Nat.lt_of_le_of_lt h.length_le hds.2⟩

theorem later_append {taken : List Char} (h : taken ≠ []) (rest : List Char) :
    Later rest (taken ++ rest) := by
  refine ⟨List.suffix_append taken rest, ?_⟩
  have hpos := List.length_pos_iff.mpr h
  rw [List.length_append]
  omega

/-- A reader that takes at least one character where it reads something. -/
def Consumes (p : Reader α) : Prop := ∀ ⦃cs r⦄, p cs = some r → Later r.rest cs

/-- A reader that leaves an end of the text. -/
def Keeps (p : Reader α) : Prop := ∀ ⦃cs r⦄, p cs = some r → r.rest <:+ cs

theorem Consumes.keeps {p : Reader α} (h : Consumes p) : Keeps p := fun _ _ hr => (h hr).1

/-- At the end of a text there is no character to be taken. -/
theorem Consumes.at_end {p : Reader α} (h : Consumes p) : p [] = none := by
  cases hr : p [] with
  | none => rfl
  | some r => exact absurd (h hr).2 (Nat.not_lt_zero _)

theorem keeps_pure (a : α) : Keeps (pure a) := by
  intro cs r hr
  cases hr
  exact List.suffix_refl cs

theorem Keeps.bind {p : Reader α} {f : α → Reader β} (hp : Keeps p) (hf : ∀ a, Keeps (f a)) :
    Keeps (p >>= f) := by
  intro cs s hs
  obtain ⟨r, hr, r', hr', rfl⟩ := bind_eq_some.mp hs
  have hrest : r'.rest <:+ r.rest := hf r.value hr'
  exact hrest.trans (hp hr)

theorem Consumes.bind {p : Reader α} {f : α → Reader β} (hp : Consumes p)
    (hf : ∀ a, Keeps (f a)) : Consumes (p >>= f) := by
  intro cs s hs
  obtain ⟨r, hr, r', hr', rfl⟩ := bind_eq_some.mp hs
  have hrest : r'.rest <:+ r.rest := hf r.value hr'
  exact later_of_suffix hrest (hp hr)

theorem Keeps.bind_consumes {p : Reader α} {f : α → Reader β} (hp : Keeps p)
    (hf : ∀ a, Consumes (f a)) : Consumes (p >>= f) := by
  intro cs s hs
  obtain ⟨r, hr, r', hr', rfl⟩ := bind_eq_some.mp hs
  have hrest : Later r'.rest r.rest := hf r.value hr'
  exact hrest.trans_suffix (hp hr)

/-- Readers that read the same first and then go on alike. -/
theorem bind_congr_of_some {p q : Reader α} {f g : α → Reader β} {cs : List Char} {r : Reading α}
    (hp : p cs = some r) (hq : q cs = some r) (h : f r.value r.rest = g r.value r.rest) :
    (p >>= f) cs = (q >>= g) cs := by
  simp only [Bind.bind, Reader.bind, hp, hq, h]

theorem orElse_eq_some {p q : Reader α} {cs : List Char} {r : Reading α}
    (h : (p <|> q) cs = some r) : p cs = some r ∨ q cs = some r := by
  cases hp : p cs with
  | some r' => exact .inl (hp ▸ (orElse_of_some hp).symm.trans h)
  | none => exact .inr ((orElse_of_none hp).symm.trans h)

theorem Keeps.orElse {p q : Reader α} (hp : Keeps p) (hq : Keeps q) : Keeps (p <|> q) :=
  fun _ _ h => (orElse_eq_some h).elim (hp ·) (hq ·)

theorem Consumes.orElse {p q : Reader α} (hp : Consumes p) (hq : Consumes q) :
    Consumes (p <|> q) :=
  fun _ _ h => (orElse_eq_some h).elim (hp ·) (hq ·)

theorem Keeps.many {p : Reader α} (hp : Keeps p) (rounds : Nat) : Keeps (many p rounds) := by
  induction rounds with
  | zero => exact keeps_pure []
  | succ rounds ih =>
    exact .orElse (.bind hp fun _ => .bind ih fun _ => keeps_pure _) (keeps_pure _)

/-! ### Repetition -/

theorem many_of_none {p : Reader α} {cs : List Char} (h : p cs = none) (rounds : Nat) :
    many p rounds cs = some ⟨[], [], cs⟩ := by
  cases rounds with
  | zero => rfl
  | succ rounds =>
    rw [many, orElse_of_none (bind_of_none h _)]
    rfl

/-- A round, and then the rounds behind it. -/
theorem many_of_some {p : Reader α} {cs : List Char} {r : Reading α} (h : p cs = some r)
    {rounds : Nat} {s : Reading (List α)} (hs : many p rounds r.rest = some s) :
    many p (rounds + 1) cs
      = some ⟨r.value :: s.value, r.overflows ++ s.overflows, s.rest⟩ := by
  rw [many]
  refine orElse_of_some ?_
  have hrest := bind_of_some (f := fun as => (pure (r.value :: as) : Reader (List α))) hs rfl
  rw [bind_of_some h hrest, List.append_nil]

/-! ### Rules -/

/-- What a reader of an `α` is put together from, where the notions `N` are read as values of the
types `V`. -/
inductive Rule {N : Type} (V : N → Type) : Type → Type 1
  | nothing {α : Type} (a : α) : Rule V α
  | token {α : Type} (p : Reader α) (consumes : Consumes p) : Rule V α
  | notion (n : N) : Rule V (V n)
  | seq {α β : Type} (first : Rule V α) (next : α → Rule V β) : Rule V β
  | either {α : Type} (left right : Rule V α) : Rule V α
  | repeated {α : Type} (round : Rule V α) : Rule V (List α)

/-- What happens while a rule is read. -/
inductive Event (N : Type)
  /-- A notion is asked for at the front of a text. -/
  | call (n : N) (front : List Char)
  /-- A round of a repetition goes from the front of one text to the front of another. -/
  | round (front back : List Char)

/-- A call is for something later in the text, or for what is allowed at the front of it, and a
round takes at least one character. -/
def Event.Descends {N : Type} (allowed : N → Prop) (cs : List Char) : Event N → Prop
  | .call n front => Later front cs ∨ front = cs ∧ allowed n
  | .round front back => front <:+ cs ∧ Later back front

namespace Rule

variable {N : Type} {V : N → Type}

instance : Monad (Rule V) where
  pure := nothing
  bind := seq

instance : OrElse (Rule V α) where
  orElse p q := either p (q ())

/-- The reader that a rule describes, given readers of the notions.  How many rounds a repetition
may have is said by the text that is left where it begins. -/
def run (rounds : List Char → Nat) (ρ : (n : N) → Reader (V n)) : {α : Type} → Rule V α → Reader α
  | _, nothing a => pure a
  | _, token p _ => p
  | _, notion n => ρ n
  | _, seq p f => run rounds ρ p >>= fun a => run rounds ρ (f a)
  | _, either p q => run rounds ρ p <|> run rounds ρ q
  | _, repeated p => fun cs => many (run rounds ρ p) (rounds cs) cs

/-- The reader that a rule describes, with a round for each character. -/
abbrev read (ρ : (n : N) → Reader (V n)) (p : Rule V α) : Reader α := p.run List.length ρ

/-- What happens while a rule is read at the front of a text, given readers of the notions. -/
inductive Does (ρ : (n : N) → Reader (V n)) : {α : Type} → Rule V α → List Char → Event N → Prop
  | notion {n : N} {cs : List Char} : Does ρ (notion n) cs (.call n cs)
  | first {α β : Type} {p : Rule V α} {f : α → Rule V β} {cs : List Char} {e : Event N} :
      Does ρ p cs e → Does ρ (seq p f) cs e
  | next {α β : Type} {p : Rule V α} {f : α → Rule V β} {cs : List Char} {r : Reading α}
      {e : Event N} : p.read ρ cs = some r → Does ρ (f r.value) r.rest e → Does ρ (seq p f) cs e
  | left {α : Type} {p q : Rule V α} {cs : List Char} {e : Event N} :
      Does ρ p cs e → Does ρ (either p q) cs e
  | right {α : Type} {p q : Rule V α} {cs : List Char} {e : Event N} :
      p.read ρ cs = none → Does ρ q cs e → Does ρ (either p q) cs e
  | round {α : Type} {p : Rule V α} {cs : List Char} {r : Reading α} :
      p.read ρ cs = some r → Does ρ (repeated p) cs (.round cs r.rest)
  | inRound {α : Type} {p : Rule V α} {cs : List Char} {e : Event N} :
      Does ρ p cs e → Does ρ (repeated p) cs e
  | later {α : Type} {p : Rule V α} {cs : List Char} {r : Reading α} {e : Event N} :
      p.read ρ cs = some r → Does ρ (repeated p) r.rest e → Does ρ (repeated p) cs e

/-- Where something is read by the rule at least one character is taken, if all notions are like
that. -/
def Advances : {α : Type} → Rule V α → Prop
  | _, nothing _ => False
  | _, token _ _ => True
  | _, notion _ => True
  | _, seq p f => p.Advances ∨ ∀ a, (f a).Advances
  | _, either p q => p.Advances ∧ q.Advances
  | _, repeated _ => False

/-- Only what is allowed is asked for before a character is taken, and each repetition takes
something in each round. -/
def Guarded : {α : Type} → (N → Prop) → Rule V α → Prop
  | _, _, nothing _ => True
  | _, _, token _ _ => True
  | _, allowed, notion n => allowed n
  | _, allowed, seq p f => p.Guarded allowed ∧
      (p.Advances ∧ (∀ a, (f a).Guarded fun _ => True) ∨ ∀ a, (f a).Guarded allowed)
  | _, allowed, either p q => p.Guarded allowed ∧ q.Guarded allowed
  | _, allowed, repeated p => p.Advances ∧ p.Guarded allowed

section

variable {allowed : N → Prop} {p q : Rule V α} {f : α → Rule V β}

@[simp]
theorem map_eq (g : α → β) : g <$> p = p >>= fun a => pure (g a) := rfl

@[simp]
theorem not_advances_pure (a : α) : ¬ (pure a : Rule V α).Advances := id

@[simp]
theorem advances_token (r : Reader α) (hr : Consumes r) : (token r hr : Rule V α).Advances :=
  trivial

@[simp]
theorem advances_notion (n : N) : (notion n : Rule V (V n)).Advances := trivial

@[simp]
theorem advances_bind : (p >>= f).Advances ↔ p.Advances ∨ ∀ a, (f a).Advances := Iff.rfl

@[simp]
theorem advances_orElse : (p <|> q).Advances ↔ p.Advances ∧ q.Advances := Iff.rfl

@[simp]
theorem guarded_pure (a : α) : (pure a : Rule V α).Guarded allowed := trivial

@[simp]
theorem guarded_token (r : Reader α) (hr : Consumes r) : (token r hr : Rule V α).Guarded allowed :=
  trivial

@[simp]
theorem guarded_notion (n : N) : (notion n : Rule V (V n)).Guarded allowed ↔ allowed n := Iff.rfl

@[simp]
theorem guarded_bind : (p >>= f).Guarded allowed ↔ p.Guarded allowed ∧
    (p.Advances ∧ (∀ a, (f a).Guarded fun _ => True) ∨ ∀ a, (f a).Guarded allowed) := Iff.rfl

@[simp]
theorem guarded_orElse : (p <|> q).Guarded allowed ↔ p.Guarded allowed ∧ q.Guarded allowed :=
  Iff.rfl

@[simp]
theorem guarded_repeated : (repeated p).Guarded allowed ↔ p.Advances ∧ p.Guarded allowed := Iff.rfl

end

variable {ρ ρ' : (n : N) → Reader (V n)} {rounds : List Char → Nat}

theorem keeps_run (hρ : ∀ n, Consumes (ρ n)) (p : Rule V α) : Keeps (p.run rounds ρ) := by
  induction p with
  | nothing a => exact keeps_pure a
  | token p hp => exact hp.keeps
  | notion n => exact (hρ n).keeps
  | seq p f ihp ihf => exact ihp.bind ihf
  | either p q ihp ihq => exact ihp.orElse ihq
  | repeated p ih => exact fun cs _ h => ih.many (rounds cs) h

theorem consumes_run (hρ : ∀ n, Consumes (ρ n)) {p : Rule V α} (hp : p.Advances) :
    Consumes (p.run rounds ρ) := by
  induction p with
  | nothing a => exact hp.elim
  | token p h => exact h
  | notion n => exact hρ n
  | seq p f ihp ihf =>
    rcases hp with hp | hf
    · exact (ihp hp).bind fun a => keeps_run hρ (f a)
    · exact (keeps_run hρ p).bind_consumes fun a => ihf a (hf a)
  | either p q ihp ihq => exact (ihp hp.1).orElse (ihq hp.2)
  | repeated p ih => exact hp.elim

end Rule

theorem Event.Descends.of_later {N : Type} {allowed allowed' : N → Prop} {cs ds : List Char}
    {e : Event N} (h : e.Descends allowed' ds) (hds : Later ds cs) : e.Descends allowed cs := by
  cases e with
  | call n front =>
    rcases h with h | ⟨rfl, -⟩
    · exact .inl (h.trans_suffix hds.1)
    · exact .inl hds
  | round front back => exact ⟨h.1.trans hds.1, h.2⟩

theorem Event.Descends.of_suffix {N : Type} {allowed : N → Prop} {cs ds : List Char}
    {e : Event N} (h : e.Descends allowed ds) (hds : ds <:+ cs) : e.Descends allowed cs := by
  rcases Nat.lt_or_eq_of_le hds.length_le with hlt | heq
  · exact h.of_later ⟨hds, hlt⟩
  · rwa [← hds.eq_of_length heq]

/-- **Guarded rules call later in the text or for what is allowed**, and their rounds take at least
one character each. -/
theorem Rule.Does.descends {N : Type} {V : N → Type} {ρ : (n : N) → Reader (V n)}
    (hρ : ∀ n, Consumes (ρ n)) {p : Rule V α} {cs : List Char} {e : Event N} (h : p.Does ρ cs e)
    {allowed : N → Prop} (hp : p.Guarded allowed) : e.Descends allowed cs := by
  induction h generalizing allowed with
  | notion => exact .inr ⟨rfl, hp⟩
  | first _ ih => exact ih hp.1
  | next hr _ ih =>
    rcases hp.2 with ⟨hadvances, hf⟩ | hf
    · exact (ih (hf _)).of_later (consumes_run hρ hadvances hr)
    · exact (ih (hf _)).of_suffix (keeps_run hρ _ hr)
  | left _ ih => exact ih hp.1
  | right _ _ ih => exact ih hp.2
  | round hr => exact ⟨List.suffix_refl _, consumes_run hρ hp.1 hr⟩
  | inRound _ ih => exact ih hp.2
  | later hr _ ih => exact (ih hp).of_later (consumes_run hρ hp.1 hr)

/-! ### Only calls matter -/

section

variable {N : Type} {V : N → Type} {ρ ρ' : (n : N) → Reader (V n)} {rounds : List Char → Nat}

/-- Repetition, if each round is read alike where it is read and there are rounds enough. -/
theorem many_congr {p : Rule V α} {q : Reader α} (hp : Consumes (p.read ρ)) {cs : List Char}
    (h : ∀ ds, ds <:+ cs → (∀ n es, p.Does ρ ds (.call n es) → ρ' n es = ρ n es) →
      q ds = p.read ρ ds)
    (hcalls : ∀ n ds, (Rule.repeated p).Does ρ cs (.call n ds) → ρ' n ds = ρ n ds)
    {j k : Nat} (hj : cs.length ≤ j) (hk : cs.length ≤ k) :
    many q j cs = many (p.read ρ) k cs := by
  have hround : q cs = p.read ρ cs :=
    h cs (List.suffix_refl cs) fun n ds hcall => hcalls n ds (.inRound hcall)
  -- the induction is on the rounds that are left; each takes a character, so they suffice
  induction k generalizing cs j with
  | zero =>
    obtain rfl := List.length_eq_zero_iff.mp (Nat.le_zero.mp hk)
    rw [many_of_none (hround.trans hp.at_end), many_of_none hp.at_end]
  | succ k ih =>
    cases hr : p.read ρ cs with
    | none => rw [many_of_none (hround.trans hr), many_of_none hr]
    | some r =>
      obtain ⟨hsuffix, hlt⟩ := hp hr
      obtain ⟨j, rfl⟩ : ∃ i, j = i + 1 := ⟨j - 1, by omega⟩
      have hlater : ∀ n ds, (Rule.repeated p).Does ρ r.rest (.call n ds) → ρ' n ds = ρ n ds :=
        fun n ds hcall => hcalls n ds (.later hr hcall)
      have hrest : many q j r.rest = many (p.read ρ) k r.rest := by
        refine ih (fun ds hds => h ds (hds.trans hsuffix)) hlater (by omega) (by omega) ?_
        exact h r.rest hsuffix fun n ds hcall => hlater n ds (.inRound hcall)
      obtain ⟨s, hs⟩ := exists_many (p.read ρ) k r.rest
      rw [many_of_some hr hs, many_of_some (hround.trans hr) (hrest.trans hs)]

/-- **Only the notions that are called for matter**, where they are called for; and more rounds
than characters change nothing. -/
theorem Rule.run_congr (hρ : ∀ n, Consumes (ρ n)) {p : Rule V α} {allowed : N → Prop}
    (hp : p.Guarded allowed) {cs : List Char}
    (hcalls : ∀ n ds, p.Does ρ cs (.call n ds) → ρ' n ds = ρ n ds)
    (hrounds : ∀ ds, ds <:+ cs → ds.length ≤ rounds ds) : p.run rounds ρ' cs = p.read ρ cs := by
  induction p generalizing allowed cs with
  | nothing a => rfl
  | token p h => rfl
  | notion n => exact hcalls n cs .notion
  | seq p f ihp ihf =>
    have hfirst := ihp hp.1 (fun n ds h => hcalls n ds (.first h)) hrounds
    cases hr : p.read ρ cs with
    | none => exact (bind_of_none (hfirst.trans hr) _).trans (bind_of_none hr _).symm
    | some r =>
      have hsuffix : r.rest <:+ cs := keeps_run hρ p hr
      -- what may be called for at the new place does not matter, only that rounds take something
      obtain ⟨allowed', hf⟩ : ∃ allowed', (f r.value).Guarded allowed' := by
        rcases hp.2 with ⟨-, hf⟩ | hf
        · exact ⟨_, hf r.value⟩
        · exact ⟨_, hf r.value⟩
      have hnext := ihf r.value hf (fun n ds h => hcalls n ds (.next hr h))
        fun ds hds => hrounds ds (hds.trans hsuffix)
      exact bind_congr_of_some (hfirst.trans hr) hr hnext
  | either p q ihp ihq =>
    have hleft := ihp hp.1 (fun n ds h => hcalls n ds (.left h)) hrounds
    cases hr : p.read ρ cs with
    | some r => exact (orElse_of_some (hleft.trans hr)).trans (orElse_of_some hr).symm
    | none =>
      have hright := ihq hp.2 (fun n ds h => hcalls n ds (.right hr h)) hrounds
      exact (orElse_of_none (hleft.trans hr)).trans (hright.trans (orElse_of_none hr).symm)
  | repeated p ih =>
    refine many_congr (consumes_run hρ hp.1) (fun ds hds h => ?_) hcalls
      (hrounds cs (List.suffix_refl cs)) (Nat.le_refl _)
    exact ih hp.2 h fun es hes => hrounds es (hes.trans hds)

end

/-! ### Grammars -/

/-- A rule for each notion.  Each rule takes something, and before that it asks for notions of
lower ranks only. -/
structure Grammar {N : Type} (V : N → Type) where
  rule : (n : N) → Rule V (V n)
  rank : N → Nat
  height : Nat
  rank_lt : ∀ n, rank n < height
  advances : ∀ n, (rule n).Advances
  guarded : ∀ n, (rule n).Guarded fun m => rank m < rank n

namespace Grammar

variable {N : Type} {V : N → Type} (G : Grammar V)

/-- How deeply calls can be nested while a notion is read at the front of a text: there are as many
of them at one place as there are ranks. -/
def bound (n : N) (cs : List Char) : Nat := cs.length * G.height + G.rank n + 1

/-- The notions as they are read if calls may only be nested so deeply. -/
def unroll : (depth : Nat) → (n : N) → Reader (V n)
  | 0, _ => failure
  | depth + 1, n => (G.rule n).read (unroll depth)

/-- The notions as they are read. -/
def read (n : N) : Reader (V n) := fun cs => G.unroll (G.bound n cs) n cs

theorem consumes_unroll (depth : Nat) (n : N) : Consumes (G.unroll depth n) := by
  induction depth generalizing n with
  | zero =>
    intro cs r hr
    cases hr
  | succ depth ih => exact Rule.consumes_run ih (G.advances n)

theorem consumes_read (n : N) : Consumes (G.read n) := fun _ _ hr => G.consumes_unroll _ n hr

variable {G}

/-- A call needs less depth than what it is made for. -/
theorem bound_lt {ρ : (n : N) → Reader (V n)} (hρ : ∀ n, Consumes (ρ n)) {m n : N}
    {cs ds : List Char} (h : (G.rule n).Does ρ cs (.call m ds)) : G.bound m ds < G.bound n cs := by
  rcases h.descends hρ (G.guarded n) with hlater | ⟨rfl, hrank⟩
  · -- one character less is worth all the ranks
    have hlevel : (ds.length + 1) * G.height ≤ cs.length * G.height :=
      Nat.mul_le_mul_right G.height hlater.2
    have hrank := G.rank_lt m
    rw [Nat.succ_mul] at hlevel
    unfold bound
    omega
  · unfold bound
    omega

/-- Depths that are enough are all the same. -/
theorem unroll_eq_unroll {i j : Nat} {n : N} {cs : List Char} (hi : G.bound n cs ≤ i)
    (hj : G.bound n cs ≤ j) : G.unroll i n cs = G.unroll j n cs := by
  induction i generalizing j n cs with
  | zero => exact absurd hi (Nat.not_succ_le_zero _)
  | succ i ih =>
    cases j with
    | zero => exact absurd hj (Nat.not_succ_le_zero _)
    | succ j =>
      -- the calls that either makes are within what the smaller depths agree on
      symm
      refine Rule.run_congr (G.consumes_unroll i) (G.guarded n) (fun m ds hcall => ?_)
        fun _ _ => Nat.le_refl _
      have hlt := bound_lt (G.consumes_unroll i) hcall
      exact (ih (by omega) (by omega)).symm

/-- Beyond the bound, more depth changes nothing. -/
theorem unroll_eq_read {depth : Nat} {n : N} {cs : List Char} (h : G.bound n cs ≤ depth) :
    G.unroll depth n cs = G.read n cs := unroll_eq_unroll h (Nat.le_refl _)

/-- A notion is read by its rule. -/
theorem read_eq (n : N) : G.read n = (G.rule n).read G.read := by
  funext cs
  symm
  refine Rule.run_congr (G.consumes_unroll _) (G.guarded n) (fun m ds hcall => ?_)
    fun _ _ => Nat.le_refl _
  have hlt : G.bound m ds < G.bound n cs := bound_lt (G.consumes_unroll _) hcall
  exact (unroll_eq_read (Nat.le_of_lt_succ hlt)).symm

/-- **A grammar is read in one way only.** -/
theorem eq_read_iff {ρ : (n : N) → Reader (V n)} :
    ρ = G.read ↔ ∀ n, ρ n = (G.rule n).read ρ := by
  constructor
  · rintro rfl
    exact read_eq
  · intro h
    -- the induction is on the depth that reading needs
    have hread : ∀ depth n cs, G.bound n cs ≤ depth → ρ n cs = G.read n cs := by
      intro depth
      induction depth with
      | zero => exact fun n cs hle => absurd hle (Nat.not_succ_le_zero _)
      | succ depth ih =>
        intro n cs hle
        rw [h n, read_eq n]
        refine Rule.run_congr G.consumes_read (G.guarded n) (fun m ds hcall => ?_)
          fun _ _ => Nat.le_refl _
        have hlt := bound_lt G.consumes_read hcall
        exact ih m ds (by omega)
    funext n cs
    exact hread _ n cs (Nat.le_refl _)

/-- A notion at the front of a text calls for a notion at the front of a text. -/
def Calls (G : Grammar V) (caller callee : N × List Char) : Prop :=
  (G.rule caller.1).Does G.read caller.2 (.call callee.1 callee.2)

/-- Calls are nested less deeply than the bound. -/
theorem length_lt_bound {caller : N × List Char} {calls : List (N × List Char)}
    (h : List.IsChain G.Calls (caller :: calls)) : calls.length < G.bound caller.1 caller.2 := by
  induction calls generalizing caller with
  | nil => exact Nat.succ_pos _
  | cons callee calls ih =>
    rw [List.isChain_cons_cons] at h
    have hlt : G.bound callee.1 callee.2 < G.bound caller.1 caller.2 := bound_lt G.consumes_read h.1
    have hrest := ih h.2
    rw [List.length_cons]
    omega

end Grammar

end ToyLang.Source
