import ToyLang.Proofs.Layout

/-!
# The lexemes of a generated text

A generated file is cut into words and punctuation marks, whatever its language: blanks and
line feeds separate, a bracket, a comma, a semicolon or a colon stands for itself, and all
other characters that touch form one word.  No token of the source language is split this way,
and none goes on in what stands behind it; so a text whose lexemes are tokens is read as these.

## Main definitions

* `Lexeme`, `cut`, `lexemesOf` — the pieces of a text.
* `Broken`, `Ended`, `Separates` — texts that a word cannot go on into, or out of.
* `spread` — texts with a blank behind each of them.

## Main results

* `cut_append`, `Separates.lexemesOf` — the lexemes of a text are those of its parts.
* `laid_of_cut` — a text is laid out as the tokens that are its lexemes.
* `laid_spread` — the same where a blank stands behind each token.
-/

namespace ToyLang.Source

open Text

/-! ### Cutting a text -/

/-- A character that separates lexemes. -/
def isGap (c : Char) : Bool := c = ' ' || c = '\n'

/-- A character that is a lexeme of its own. -/
def isDelimiter (c : Char) : Bool :=
  c = '(' || c = ')' || c = ',' || c = ';' || c = ':' || c = '\x7b' || c = '\x7d'

/-- A character of a word. -/
def isSolid (c : Char) : Bool := !isGap c && !isDelimiter c

/-- A piece of a text. -/
inductive Lexeme where
  | word (chars : List Char)
  | mark (c : Char)
  deriving DecidableEq

/-- A lexeme as it is written. -/
def Lexeme.chars : Lexeme → List Char
  | word cs => cs
  | mark c => [c]

/-- Put a character in front: into the first word, if there is one that it touches. -/
def attach (c : Char) : (touches : Bool) → List Lexeme → List Lexeme
  | true, .word cs :: ls => .word (c :: cs) :: ls
  | _, ls => .word [c] :: ls

/-- The lexemes of a sequence of characters. -/
def cut : List Char → List Lexeme
  | [] => []
  | c :: cs =>
      if isGap c then cut cs
      else if isDelimiter c then .mark c :: cut cs
      else attach c (cs.head?.any isSolid) (cut cs)

/-- The lexemes of a text. -/
def lexemesOf (text : String) : List Lexeme := cut text.toList

/-- No word goes on into the text. -/
def Broken (cs : List Char) : Prop := ∀ c ∈ cs.head?, isSolid c = false

/-- No word goes on behind the text. -/
def Ended (cs : List Char) : Prop := ∀ c ∈ cs.getLast?, isSolid c = false

theorem forall_not_solid_iff {o : Option Char} :
    (∀ c ∈ o, isSolid c = false) ↔ o.any isSolid = false := by
  cases o with
  | none => simp
  | some c => simp

instance : DecidablePred Broken := fun _ => decidable_of_iff _ forall_not_solid_iff.symm

instance : DecidablePred Ended := fun _ => decidable_of_iff _ forall_not_solid_iff.symm

theorem isSolid_iff {c : Char} : isSolid c = true ↔ isGap c = false ∧ isDelimiter c = false := by
  simp [isSolid]

@[simp] theorem cut_nil : cut [] = [] := rfl

theorem cut_gap {c : Char} (h : isGap c = true) (cs : List Char) : cut (c :: cs) = cut cs :=
  if_pos h

theorem isGap_of_isDelimiter {c : Char} (h : isDelimiter c = true) : isGap c = false := by
  cases hgap : isGap c with
  | false => rfl
  | true =>
    simp only [isGap, Bool.or_eq_true, decide_eq_true_eq] at hgap
    rcases hgap with rfl | rfl
    · exact absurd h (by decide)
    · exact absurd h (by decide)

theorem cut_mark {c : Char} (h : isDelimiter c = true) (cs : List Char) :
    cut (c :: cs) = .mark c :: cut cs := by
  rw [cut, isGap_of_isDelimiter h, h]
  rfl

theorem cut_solid {c : Char} (h : isSolid c = true) (cs : List Char) :
    cut (c :: cs) = attach c (cs.head?.any isSolid) (cut cs) := by
  obtain ⟨hgap, hdelimiter⟩ := isSolid_iff.mp h
  rw [cut, hgap, hdelimiter]
  rfl

theorem Broken.append {cs : List Char} (h : Broken cs) (hne : cs ≠ []) (rest : List Char) :
    Broken (cs ++ rest) := by
  cases cs with
  | nil => exact absurd rfl hne
  | cons c cs => exact h

/-- The end of a text ends it. -/
theorem Ended.append_left {ds : List Char} (h : Ended ds) (hne : ds ≠ []) (cs : List Char) :
    Ended (cs ++ ds) := by
  rw [Ended, List.getLast?_append, List.getLast?_eq_some_getLast hne, Option.some_or,
    ← List.getLast?_eq_some_getLast hne]
  exact h

theorem Ended.append {cs ds : List Char} (hcs : Ended cs) (hds : Ended ds) :
    Ended (cs ++ ds) := by
  cases ds with
  | nil => rwa [List.append_nil]
  | cons d ds => exact hds.append_left (List.cons_ne_nil d ds) cs

/-- A solid character behind a text that begins with one touches a word. -/
theorem exists_word {c : Char} (h : isSolid c = true) (cs : List Char) :
    ∃ ds ls, cut (c :: cs) = .word ds :: ls := by
  rw [cut_solid h]
  cases cs.head?.any isSolid with
  | false => exact ⟨_, _, rfl⟩
  | true =>
    cases cut cs with
    | nil => exact ⟨_, _, rfl⟩
    | cons l ls => cases l <;> exact ⟨_, _, rfl⟩

/-- The lexemes of a text are those of its two parts, unless a word spans both. -/
theorem cut_append {cs rest : List Char} (h : Ended cs ∨ Broken rest) :
    cut (cs ++ rest) = cut cs ++ cut rest := by
  induction cs with
  | nil => rfl
  | cons c cs ih =>
    have htail : Ended cs ∨ Broken rest := by
      refine h.imp_left fun hended d hd => hended d ?_
      cases cs with
      | nil => simp at hd
      | cons e cs => rwa [List.getLast?_cons_cons]
    rw [List.cons_append]
    by_cases hgap : isGap c = true
    · rw [cut_gap hgap, cut_gap hgap, ih htail]
    by_cases hdelimiter : isDelimiter c = true
    · rw [cut_mark hdelimiter, cut_mark hdelimiter, ih htail, List.cons_append]
    have hsolid : isSolid c = true :=
      isSolid_iff.mpr ⟨by simpa using hgap, by simpa using hdelimiter⟩
    rw [cut_solid hsolid, cut_solid hsolid, ih htail]
    cases cs with
    | nil =>
      -- the character is the last one of its part, so what follows is no word that it touches
      have hrest : Broken rest := by
        refine h.resolve_left fun hended => ?_
        have hlast := hended c rfl
        rw [hsolid] at hlast
        exact absurd hlast (by decide)
      have hany := forall_not_solid_iff.mp hrest
      simp only [List.nil_append, cut_nil, hany]
      rfl
    | cons d cs =>
      rw [List.cons_append, List.head?_cons, List.head?_cons, Option.any_some]
      cases hd : isSolid d with
      | false => rfl
      | true =>
        obtain ⟨ds, ls, hcut⟩ := exists_word hd cs
        rw [hcut]
        rfl

/-- Solid characters form one word. -/
theorem cut_solids {cs : List Char} (hne : cs ≠ []) (h : ∀ c ∈ cs, isSolid c = true) :
    cut cs = [.word cs] := by
  induction cs with
  | nil => exact absurd rfl hne
  | cons c cs ih =>
    obtain ⟨hc, hcs⟩ := List.forall_mem_cons.mp h
    rw [cut_solid hc]
    cases cs with
    | nil => rfl
    | cons d cs =>
      rw [ih (List.cons_ne_nil d cs) hcs, List.head?_cons, Option.any_some,
        hcs d List.mem_cons_self]
      rfl

/-- A word is as long as it can be. -/
theorem cut_word {cs rest : List Char} (hne : cs ≠ []) (h : ∀ c ∈ cs, isSolid c = true)
    (hrest : Broken rest) : cut (cs ++ rest) = .word cs :: cut rest := by
  rw [cut_append (.inr hrest), cut_solids hne h, List.singleton_append]

theorem lexemesOf_append {s t : String} (h : Ended s.toList ∨ Broken t.toList) :
    lexemesOf (s ++ t) = lexemesOf s ++ lexemesOf t := by
  rw [lexemesOf, String.toList_append, cut_append h, lexemesOf, lexemesOf]

/-- Words go on neither into the text nor out of it. -/
def Separates (s : String) : Prop := s.toList ≠ [] ∧ Broken s.toList ∧ Ended s.toList

instance : DecidablePred Separates := fun s =>
  inferInstanceAs (Decidable (s.toList ≠ [] ∧ Broken s.toList ∧ Ended s.toList))

theorem Separates.lexemesOf {mid : String} (h : Separates mid) (s t : String) :
    lexemesOf (s ++ mid ++ t) = lexemesOf s ++ (lexemesOf mid ++ lexemesOf t) := by
  obtain ⟨hne, hbroken, hended⟩ := h
  have hleft : Ended (s ++ mid).toList := by
    rw [String.toList_append]
    exact hended.append_left hne _
  rw [lexemesOf_append (.inl hleft), lexemesOf_append (.inr hbroken), List.append_assoc]

theorem lexemesOf_blank (s t : String) :
    lexemesOf (s ++ " " ++ t) = lexemesOf s ++ lexemesOf t := by
  have hblank : Separates " " := by decide
  rw [hblank.lexemesOf]
  rfl

theorem lexemesOf_comma (s t : String) :
    lexemesOf (s ++ ", " ++ t) = lexemesOf s ++ .mark ',' :: lexemesOf t := by
  have hcomma : Separates ", " := by decide
  rw [hcomma.lexemesOf]
  rfl

theorem lexemesOf_equals (s t : String) :
    lexemesOf (s ++ " = " ++ t) = lexemesOf s ++ .word ['='] :: lexemesOf t := by
  have hequals : Separates " = " := by decide
  rw [hequals.lexemesOf]
  rfl

theorem lexemesOf_left (s t : String) :
    lexemesOf (s ++ "(" ++ t) = lexemesOf s ++ .mark '(' :: lexemesOf t := by
  have hleft : Separates "(" := by decide
  rw [hleft.lexemesOf]
  rfl

theorem lexemesOf_right (s t : String) :
    lexemesOf (s ++ ")" ++ t) = lexemesOf s ++ .mark ')' :: lexemesOf t := by
  have hright : Separates ")" := by decide
  rw [hright.lexemesOf]
  rfl

theorem lexemesOf_ended (s : String) : lexemesOf (s ++ ";\n") = lexemesOf s ++ [.mark ';'] := by
  rw [lexemesOf_append (.inr (by decide))]
  rfl

theorem lexemesOf_word {s : String} (hne : s.toList ≠ [])
    (h : ∀ c ∈ s.toList, isSolid c = true) : lexemesOf s = [.word s.toList] := cut_solids hne h

/-- Commas between texts are commas between their lexemes. -/
theorem lexemesOf_intercalate (texts : List String) :
    lexemesOf (", ".intercalate texts) = [.mark ','].intercalate (texts.map lexemesOf) := by
  induction texts with
  | nil => rfl
  | cons s texts ih =>
    cases texts with
    | nil => rw [String.intercalate_singleton, List.map_singleton, List.intercalate_singleton]
    | cons t texts =>
      rw [String.intercalate_cons_cons, lexemesOf_comma, ih]
      simp only [List.map_cons, List.intercalate_cons_cons, List.append_assoc,
        List.singleton_append]

/-! ### Characters -/

theorem isBlank_of_isGap {c : Char} (h : isGap c = true) : isBlank c = true := by
  simp only [isGap, Bool.or_eq_true, decide_eq_true_eq] at h
  rcases h with rfl | rfl <;> decide

/-- The characters at which words end. -/
def wordEnds : List Char := [' ', '\n', '(', ')', ',', ';', ':', '\x7b', '\x7d']

/-- What holds of the characters at which words end holds of every character that is not solid. -/
theorem of_not_solid {p : Char → Bool} (hp : wordEnds.all p = true) {c : Char}
    (h : isSolid c = false) : p c = true := by
  refine List.all_eq_true.mp hp c ?_
  simp only [isSolid, isGap, isDelimiter, Bool.and_eq_false_iff, Bool.not_eq_false',
    Bool.or_eq_true, decide_eq_true_eq] at h
  simp only [wordEnds, List.mem_cons, List.not_mem_nil, or_false]
  simpa only [or_assoc] using h

/-- Names are solid. -/
theorem isSolid_of_isContinue {c : Char} (h : isContinue c = true) : isSolid c = true := by
  cases hsolid : isSolid c with
  | true => rfl
  | false =>
    have hends : wordEnds.all (fun d => !isContinue d) = true := by decide +kernel
    have hstop := of_not_solid hends hsolid
    simp [h] at hstop

theorem isSolid_of_isWord {cs : List Char} (h : isWord cs = true) : ∀ c ∈ cs, isSolid c = true := by
  obtain ⟨c, ds, rfl, hc, hds⟩ := isWord_iff.mp h
  refine List.forall_mem_cons.mpr ⟨isSolid_of_isContinue (isContinue_of_isStart hc), ?_⟩
  intro d hd
  exact isSolid_of_isContinue (hds d hd)

/-- Every token ends where no word goes on. -/
theorem Broken.ends {rest : List Char} (h : Broken rest) (t : Token) : t.Ends rest := by
  cases rest with
  | nil =>
    cases t with
    | whole n valid => exact ⟨.inr (by simp), rfl⟩
    | arith op => cases op <;> simp [Token.Ends]
    | compare op => cases op <;> simp [Token.Ends]
    | mark m => trivial
    | _ => simp [Token.Ends]
  | cons c cs =>
    have hends : wordEnds.all (fun d =>
        !isContinue d && (!d.isDigit && (d != '.' && (d != '/' && d != '=')))) = true := by
      decide +kernel
    have hstop := of_not_solid hends (h c rfl)
    simp only [Bool.and_eq_true, Bool.not_eq_true', bne_iff_ne] at hstop
    obtain ⟨hcontinue, hdigit, hpoint, hslash, hequals⟩ := hstop
    exact t.ends_of_stop hcontinue hdigit hpoint hslash hequals cs

/-- A token that is a delimiter is a punctuation mark. -/
theorem Token.exists_mark {t : Token} {c : Char} (hspelling : t.spelling = [c])
    (h : isDelimiter c = true) : ∃ m, t = .mark m := by
  have hsolid : isSolid c = false := by simp [isSolid, h]
  have hends : wordEnds.all (fun d => !isStart d && (!d.isDigit && d != '-')) = true := by
    decide +kernel
  have hstop := of_not_solid hends hsolid
  simp only [Bool.and_eq_true, Bool.not_eq_true', bne_iff_ne] at hstop
  obtain ⟨hstart, hdigit, hminus⟩ := hstop
  cases t with
  | mark m => exact ⟨m, rfl⟩
  | keyword k =>
    obtain ⟨d, ds, hword, hd, -⟩ := isWord_iff.mp k.isWord_spelling
    obtain ⟨rfl, -⟩ := List.cons.inj (hspelling.symm.trans hword)
    rw [hstart] at hd
    exact absurd hd (by decide)
  | name text valid =>
    obtain ⟨d, ds, hword, hd, -⟩ := isWord_iff.mp (isWord_of_isName valid)
    obtain ⟨rfl, -⟩ := List.cons.inj (hspelling.symm.trans hword)
    rw [hstart] at hd
    exact absurd hd (by decide)
  | whole n valid =>
    obtain ⟨d, ds, hfirst, hd⟩ := valid.exists_first_signed n.negative []
    rw [List.append_nil] at hfirst
    obtain ⟨rfl, -⟩ := List.cons.inj (hspelling.symm.trans hfirst)
    simp [hdigit, hminus] at hd
  | fractional n valid =>
    obtain ⟨d, ds, hfirst, hd⟩ := valid.1.exists_first_signed n.negative ('.' :: n.fraction)
    obtain ⟨rfl, -⟩ := List.cons.inj (hspelling.symm.trans hfirst)
    simp [hdigit, hminus] at hd
  | arith op =>
    cases op <;> obtain ⟨rfl, -⟩ := List.cons.inj hspelling <;> exact absurd h (by decide)
  | compare op =>
    cases op <;> obtain ⟨rfl, -⟩ := List.cons.inj hspelling <;> exact absurd h (by decide)

/-! ### Lexemes and tokens -/

/-- A token that ends where it should is laid out in front of what is. -/
theorem Laid.cons {t : Token} {ts : List Token} {after rest : List Char} {os : List Overflow}
    (hends : t.Ends after) (h : Laid ts (skipTrivia after) os rest) :
    ∃ os', Laid (t :: ts) (t.spelling ++ after) os' rest :=
  ⟨_, after, os, rfl, hends, rfl, h⟩

/-- A text whose lexemes are tokens is laid out as these tokens. -/
theorem laid_of_cut {ts : List Token} (cs : List Char)
    (h : ts.map Token.spelling = (cut cs).map Lexeme.chars) :
    ∃ os, Laid ts (skipTrivia cs) os [] := by
  -- by recursion on the text, one lexeme at a time
  match hcs : cs with
  | [] =>
    obtain rfl : ts = [] := by simpa using h
    exact ⟨[], rfl, rfl⟩
  | c :: ds =>
    by_cases hgap : isGap c = true
    · rw [cut_gap hgap] at h
      rw [skipTrivia_blank (isBlank_of_isGap hgap)]
      exact laid_of_cut ds h
    by_cases hdelimiter : isDelimiter c = true
    · rw [cut_mark hdelimiter, List.map_cons] at h
      obtain ⟨t, us, rfl, ht, hus⟩ := List.map_eq_cons_iff.mp h
      obtain ⟨m, rfl⟩ := Token.exists_mark ht hdelimiter
      obtain ⟨os, hos⟩ := laid_of_cut ds hus
      have hends : (Token.mark m).Ends ds := trivial
      have htext : c :: ds = (Token.mark m).spelling ++ ds := by
        rw [ht]
        rfl
      rw [htext, Token.visible hends]
      exact hos.cons hends
    -- the word as long as it goes, and the text behind it
    have hsolid : isSolid c = true :=
      isSolid_iff.mpr ⟨by simpa using hgap, by simpa using hdelimiter⟩
    have hsplit : (c :: ds.takeWhile isSolid) ++ ds.dropWhile isSolid = c :: ds := by
      rw [List.cons_append, List.takeWhile_append_dropWhile]
    have hword : ∀ d ∈ c :: ds.takeWhile isSolid, isSolid d = true :=
      List.forall_mem_cons.mpr ⟨hsolid, List.all_eq_true.mp List.all_takeWhile⟩
    have hrest : Broken (ds.dropWhile isSolid) := by
      intro d hd
      have hnot := List.head?_dropWhile_not isSolid ds
      rw [Option.mem_def.mp hd] at hnot
      simpa using hnot
    have hlength : (ds.dropWhile isSolid).length < (c :: ds).length :=
      Nat.lt_succ_of_le (List.dropWhile_suffix isSolid).length_le
    rw [← hsplit, cut_word (List.cons_ne_nil _ _) hword hrest, List.map_cons] at h
    obtain ⟨t, us, rfl, ht, hus⟩ := List.map_eq_cons_iff.mp h
    obtain ⟨os, hos⟩ := laid_of_cut (ds.dropWhile isSolid) hus
    have hends : t.Ends (ds.dropWhile isSolid) := hrest.ends t
    have htext : c :: ds = t.spelling ++ ds.dropWhile isSolid := by
      rw [ht]
      exact hsplit.symm
    rw [htext, Token.visible hends]
    exact hos.cons hends
termination_by cs.length
decreasing_by
  · exact Nat.lt_succ_self ds.length
  · exact Nat.lt_succ_self ds.length
  · exact hlength

/-- Texts with a blank behind each of them. -/
def spread (texts : List (List Char)) : List Char := texts.flatMap fun cs => cs ++ [' ']

@[simp] theorem spread_append (texts more : List (List Char)) :
    spread (texts ++ more) = spread texts ++ spread more := List.flatMap_append

@[simp] theorem spread_nil : spread [] = [] := rfl

@[simp] theorem spread_cons (cs : List Char) (texts : List (List Char)) :
    spread (cs :: texts) = cs ++ ' ' :: spread texts := by
  simp [spread]

theorem visible_spread {t : Token} {ts : List Token} {rest : List Char} :
    Visible (spread ((t :: ts).map Token.spelling) ++ rest) := by
  rw [List.map_cons, spread_cons, List.append_assoc]
  exact Token.visible (t.ends_of_isBlank (by decide) _)

/-- Tokens with a blank behind each of them are laid out in front of anything. -/
theorem laid_spread (ts : List Token) {rest : List Char} (hrest : Visible rest) :
    ∃ os, Laid ts (spread (ts.map Token.spelling) ++ rest) os rest := by
  induction ts with
  | nil => exact ⟨[], rfl, rfl⟩
  | cons t ts ih =>
    obtain ⟨os, hos⟩ := ih
    have hskip : skipTrivia (' ' :: (spread (ts.map Token.spelling) ++ rest))
        = spread (ts.map Token.spelling) ++ rest := by
      rw [skipTrivia_blank (by decide)]
      cases ts with
      | nil => exact hrest
      | cons u ts => exact visible_spread
    rw [← hskip] at hos
    rw [List.map_cons, spread_cons, List.append_assoc, List.cons_append]
    exact hos.cons (t.ends_of_isBlank (by decide) _)

end ToyLang.Source
