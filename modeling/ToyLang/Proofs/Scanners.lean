import ToyLang.Proofs.Layout

/-!
# What scanners take

Each scanner takes the spelling of a token that ends where the scanner stops, and it takes
every such spelling whole.

## Main results

* `takeWord?_eq_some_iff` — words.
* `takeSymbol?_eq_some_iff` — fixed sequences of characters.
* `takeDigits?_eq_some_iff`, `takeFraction?_eq_some_iff`, `takeWhole?_eq_some_iff`,
  `takeFractional?_eq_some_iff` — numerals.
-/

namespace ToyLang.Source

open Text

/-! ### Runs of characters -/

section

variable {p : Char → Bool} {cs ds rest : List Char}

theorem takeWhile_append_of_stop (hds : ∀ c ∈ ds, p c = true)
    (hrest : ∀ c ∈ rest.head?, p c = false) : (ds ++ rest).takeWhile p = ds := by
  rw [List.takeWhile_append_of_pos hds]
  cases rest with
  | nil => simp
  | cons c rest => simp [hrest c rfl]

theorem dropWhile_append_of_stop (hds : ∀ c ∈ ds, p c = true)
    (hrest : ∀ c ∈ rest.head?, p c = false) : (ds ++ rest).dropWhile p = rest := by
  rw [List.dropWhile_append_of_pos hds]
  cases rest with
  | nil => simp
  | cons c rest => simp [hrest c rfl]

theorem head?_dropWhile_eq_false (p : Char → Bool) (cs : List Char) :
    ∀ c ∈ (cs.dropWhile p).head?, p c = false := by
  intro c hc
  have h := List.head?_dropWhile_not p cs
  rw [Option.mem_def.mp hc] at h
  simpa using h

theorem forall_mem_takeWhile (p : Char → Bool) (cs : List Char) :
    ∀ c ∈ cs.takeWhile p, p c = true :=
  List.all_eq_true.mp List.all_takeWhile

end

/-! ### Words -/

/-- A word is taken as long as it goes. -/
theorem takeWord?_eq_some_iff {cs rest : List Char} {word : String} :
    takeWord? cs = some (word, rest) ↔ cs = word.toList ++ rest ∧ isWord word.toList = true ∧
      ∀ c ∈ rest.head?, isContinue c = false := by
  constructor
  · intro h
    cases cs with
    | nil => cases h
    | cons c cs =>
      rw [takeWord?] at h
      split at h
      · next hc =>
        simp only [Option.some.injEq, Prod.mk.injEq] at h
        obtain ⟨rfl, rfl⟩ := h
        have hword : isWord (c :: cs.takeWhile isContinue) = true :=
          isWord_iff.mpr ⟨c, _, rfl, hc, forall_mem_takeWhile isContinue cs⟩
        simpa [hword] using head?_dropWhile_eq_false isContinue cs
      · cases h
  · rintro ⟨rfl, hword, hrest⟩
    obtain ⟨c, ds, hchars, hc, hds⟩ := isWord_iff.mp hword
    rw [hchars, List.cons_append, takeWord?, if_pos hc, takeWhile_append_of_stop hds hrest,
      dropWhile_append_of_stop hds hrest, ← hchars, String.ofList_toList]

theorem takeWord?_eq_none {cs : List Char} (h : ∀ c ∈ cs.head?, isStart c = false) :
    takeWord? cs = none := by
  cases cs with
  | nil => rfl
  | cons c cs => simp [takeWord?, h c rfl]

/-! ### Symbols -/

theorem takeSymbol?_eq_some_iff {symbol cs rest : List Char} :
    takeSymbol? symbol cs = some rest ↔ cs = symbol ++ rest := by
  induction symbol generalizing cs with
  | nil => simp [takeSymbol?]
  | cons s symbol ih =>
    cases cs with
    | nil => simp [takeSymbol?]
    | cons c cs =>
      rw [takeSymbol?]
      split
      · next h => simp [ih, h]
      · next h => simp [Ne.symm h]

theorem takeSymbol?_eq_none {s : Char} {symbol cs : List Char} (h : cs.head? ≠ some s) :
    takeSymbol? (s :: symbol) cs = none := by
  cases cs with
  | nil => rfl
  | cons c cs =>
    rw [takeSymbol?, if_neg]
    rintro rfl
    exact h rfl

/-! ### Numerals -/

theorem takeDigits?_eq_some_iff {cs ds rest : List Char} :
    takeDigits? cs = some (ds, rest) ↔ cs = ds ++ rest ∧ IsWhole ds ∧
      (ds = ['0'] ∨ ∀ c ∈ rest.head?, c.isDigit = false) := by
  constructor
  · intro h
    cases cs with
    | nil => cases h
    | cons c cs =>
      rw [takeDigits?] at h
      split at h
      · next hzero =>
        simp only [Option.some.injEq, Prod.mk.injEq] at h
        obtain ⟨rfl, rfl⟩ := h
        exact ⟨by simp [hzero], .inl ⟨rfl, rfl⟩, .inl rfl⟩
      split at h
      · next hzero hdigit =>
        simp only [Option.some.injEq, Prod.mk.injEq] at h
        obtain ⟨rfl, rfl⟩ := h
        exact ⟨by simp, .inr ⟨hzero, hdigit, forall_mem_takeWhile _ cs⟩,
          .inr (head?_dropWhile_eq_false _ cs)⟩
      · cases h
  · rintro ⟨rfl, hwhole, hrest⟩
    cases ds with
    | nil => exact hwhole.elim
    | cons c ds =>
      rw [List.cons_append, takeDigits?]
      obtain ⟨rfl, rfl⟩ | ⟨hzero, hdigit, hds⟩ := hwhole
      · rfl
      · have hrest : ∀ c ∈ rest.head?, c.isDigit = false :=
          hrest.resolve_left fun h => hzero (List.cons.inj h).1
        rw [if_neg hzero, if_pos hdigit, takeWhile_append_of_stop hds hrest,
          dropWhile_append_of_stop hds hrest]

theorem takeFraction?_eq_some_iff {cs ds rest : List Char} :
    takeFraction? cs = some (ds, rest) ↔ cs = '.' :: (ds ++ rest) ∧ IsFraction ds ∧
      ∀ c ∈ rest.head?, c.isDigit = false := by
  constructor
  · intro h
    unfold takeFraction? at h
    split at h
    · next c cs =>
      split at h
      · next hdigit =>
        simp only [Option.some.injEq, Prod.mk.injEq] at h
        obtain ⟨rfl, rfl⟩ := h
        exact ⟨by simp, ⟨hdigit, forall_mem_takeWhile _ cs⟩, head?_dropWhile_eq_false _ cs⟩
      · cases h
    · cases h
  · rintro ⟨rfl, hfraction, hrest⟩
    cases ds with
    | nil => exact hfraction.elim
    | cons c ds =>
      obtain ⟨hdigit, hds⟩ := hfraction
      rw [List.cons_append, takeFraction?, if_pos hdigit, takeWhile_append_of_stop hds hrest,
        dropWhile_append_of_stop hds hrest]

/-- A sign is taken off the front of digits. -/
theorem takeSign_signChars {ds : List Char} (h : IsWhole ds) (negative : Bool)
    (rest : List Char) :
    takeSign (signChars negative ++ (ds ++ rest)) = (negative, ds ++ rest) := by
  cases negative with
  | true => rfl
  | false =>
    obtain ⟨c, cs, rfl, hc⟩ := h.exists_first
    have hminus : c ≠ '-' := by
      rintro rfl
      exact absurd hc (by decide)
    simp [signChars, takeSign, hminus]

theorem signChars_takeSign (cs : List Char) :
    cs = signChars (takeSign cs).1 ++ (takeSign cs).2 := by
  unfold takeSign
  split <;> rfl

theorem takeWhole?_eq_some_iff {cs rest : List Char} {n : WholeNumeral} :
    takeWhole? cs = some (n, rest) ↔ cs = signChars n.negative ++ (n.digits ++ rest) ∧
      IsWhole n.digits ∧ (n.digits = ['0'] ∨ ∀ c ∈ rest.head?, c.isDigit = false) := by
  constructor
  · intro h
    simp only [takeWhole?, Option.map_eq_some_iff, Prod.exists, Prod.mk.injEq] at h
    obtain ⟨ds, rest, h, rfl, rfl⟩ := h
    obtain ⟨hcs, hwhole, hrest⟩ := takeDigits?_eq_some_iff.mp h
    refine ⟨?_, hwhole, hrest⟩
    rw [← hcs]
    exact signChars_takeSign cs
  · rintro ⟨rfl, hwhole, hrest⟩
    have hdigits := takeDigits?_eq_some_iff.mpr ⟨rfl, hwhole, hrest⟩
    simp only [takeWhole?, takeSign_signChars hwhole, hdigits, Option.map_some]

theorem takeFractional?_eq_some_iff {cs rest : List Char} {n : FractionalNumeral} :
    takeFractional? cs = some (n, rest) ↔
      cs = signChars n.negative ++ (n.digits ++ '.' :: (n.fraction ++ rest)) ∧
      IsWhole n.digits ∧ IsFraction n.fraction ∧ ∀ c ∈ rest.head?, c.isDigit = false := by
  constructor
  · intro h
    simp only [takeFractional?, Option.bind_eq_some_iff, Option.map_eq_some_iff, Prod.exists,
      Prod.mk.injEq] at h
    obtain ⟨whole, mid, hwhole, fraction, rest, hfraction, rfl, rfl⟩ := h
    obtain ⟨hcs, hdigits, -⟩ := takeWhole?_eq_some_iff.mp hwhole
    obtain ⟨rfl, hfraction, hrest⟩ := takeFraction?_eq_some_iff.mp hfraction
    exact ⟨hcs, hdigits, hfraction, hrest⟩
  · rintro ⟨rfl, hdigits, hfraction, hrest⟩
    have hwhole := takeWhole?_eq_some_iff (n := ⟨n.negative, n.digits⟩).mpr
      ⟨rfl, hdigits, .inr (by simp : ∀ c ∈ ('.' :: (n.fraction ++ rest)).head?, c.isDigit = false)⟩
    have hfraction := takeFraction?_eq_some_iff.mpr ⟨rfl, hfraction, hrest⟩
    simp only [takeFractional?, hwhole, hfraction, Option.bind_some, Option.map_some]

/-- A numeral begins with a minus sign or a digit. -/
theorem takeWhole?_eq_none {cs : List Char} (h : ∀ c ∈ cs.head?, c ≠ '-' ∧ c.isDigit = false) :
    takeWhole? cs = none := by
  cases cs with
  | nil => rfl
  | cons c cs =>
    obtain ⟨hminus, hdigit⟩ := h c rfl
    have hzero : c ≠ '0' := by
      rintro rfl
      exact absurd hdigit (by decide)
    simp [takeWhole?, takeSign, takeDigits?, hminus, hzero, hdigit]

theorem takeFractional?_eq_none {cs : List Char}
    (h : ∀ c ∈ cs.head?, c ≠ '-' ∧ c.isDigit = false) : takeFractional? cs = none := by
  rw [takeFractional?, takeWhole?_eq_none h, Option.bind_none]

/-- A whole numeral behind which no fraction follows is not one with a fraction. -/
theorem takeFractional?_of_whole {cs rest : List Char} {n : WholeNumeral}
    (hwhole : takeWhole? cs = some (n, rest)) (hfraction : takeFraction? rest = none) :
    takeFractional? cs = none := by
  simp [takeFractional?, hwhole, hfraction]

end ToyLang.Source
