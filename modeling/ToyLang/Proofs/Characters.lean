import ToyLang.Text.Identifier

/-!
# Classes of characters

Blanks, digits, and the characters that start a word exclude each other, and no blank stands
inside a word.

## Main results

* `isContinue_eq_false_of_isBlank`, `isStart_eq_false_of_isDigit` — the classes are apart.
* `isWord_cons` — the first character of a word.
-/

namespace ToyLang.Text

/-- The code points of the blanks, one by one. -/
def blankPoints : List Nat :=
  [0x9, 0xa, 0xb, 0xc, 0xd, 0x20, 0x85, 0xa0, 0x1680, 0x2000, 0x2001, 0x2002, 0x2003, 0x2004,
   0x2005, 0x2006, 0x2007, 0x2008, 0x2009, 0x200a, 0x2028, 0x2029, 0x202f, 0x205f, 0x3000]

theorem mem_blankPoints {n : Nat} (h : blankRanges.has n = true) : n ∈ blankPoints := by
  simp [blankRanges, Ranges.has] at h
  simp only [blankPoints, List.mem_cons, List.not_mem_nil, or_false]
  omega

/-- No blank stands inside a word. -/
theorem isContinue_eq_false_of_isBlank {c : Char} (h : isBlank c = true) :
    isContinue c = false := by
  have hpoints : ∀ n ∈ blankPoints,
      identifierStartRanges.has n = false ∧ identifierMarkRanges.has n = false := by
    decide +kernel
  obtain ⟨hstart, hmark⟩ := hpoints c.toNat (mem_blankPoints h)
  rw [isContinue, Ranges.hasChar, Ranges.hasChar, hstart, hmark, Bool.or_self]

theorem isBlank_eq_false_of_isContinue {c : Char} (h : isContinue c = true) :
    isBlank c = false := by
  cases hblank : isBlank c with
  | false => rfl
  | true => rw [isContinue_eq_false_of_isBlank hblank] at h; exact h.symm

theorem toNat_of_isDigit {c : Char} (h : c.isDigit = true) : 48 ≤ c.toNat ∧ c.toNat ≤ 57 := by
  simp only [Char.isDigit, Bool.and_eq_true, decide_eq_true_eq] at h
  exact h

theorem isBlank_eq_false_of_isDigit {c : Char} (h : c.isDigit = true) : isBlank c = false := by
  obtain ⟨hlow, hhigh⟩ := toNat_of_isDigit h
  cases hblank : isBlank c with
  | false => rfl
  | true =>
    have hpoint := mem_blankPoints hblank
    simp only [blankPoints, List.mem_cons, List.not_mem_nil, or_false] at hpoint
    omega

theorem isStart_eq_false_of_isDigit {c : Char} (h : c.isDigit = true) : isStart c = false := by
  obtain ⟨-, hhigh⟩ := toNat_of_isDigit h
  have hrange : identifierStartRanges.has c.toNat = false := if_pos (by omega)
  have hline : c ≠ '_' := by
    rintro rfl
    simp at hhigh
  simp [isStart, Ranges.hasChar, hrange, hline]

/-- A digit may stand inside a word. -/
theorem isContinue_of_isDigit {c : Char} (h : c.isDigit = true) : isContinue c = true := by
  have hpoints : ∀ n ∈ List.range' 48 10, identifierMarkRanges.has n = true := by decide
  obtain ⟨hlow, hhigh⟩ := toNat_of_isDigit h
  have hmem : c.toNat ∈ List.range' 48 10 := by
    rw [List.mem_range'_1]
    omega
  rw [isContinue, Ranges.hasChar, Ranges.hasChar, hpoints _ hmem, Bool.or_true]

/-- A word is a character that starts it and others that go on with it. -/
theorem isWord_iff {cs : List Char} : isWord cs = true ↔
    ∃ c ds, cs = c :: ds ∧ isStart c = true ∧ ∀ d ∈ ds, isContinue d = true := by
  cases cs with
  | nil => simp [isWord]
  | cons c cs =>
    simp only [isWord, Bool.and_eq_true, List.all_eq_true]
    constructor
    · intro h
      exact ⟨c, cs, rfl, h⟩
    · rintro ⟨d, ds, h, hd⟩
      obtain ⟨rfl, rfl⟩ := List.cons.inj h
      exact hd

theorem isWord_of_isName {text : String} (h : isName text = true) : isWord text.toList = true := by
  simp only [isName, Bool.and_eq_true] at h
  exact h.1

/-- The spelling of a keyword is a word. -/
theorem Keyword.isWord_spelling (k : Keyword) : isWord k.spelling.toList = true := by
  cases k <;> decide

theorem isKeyword_spelling (k : Keyword) : isKeyword k.spelling = true := by
  simp only [isKeyword, List.any_eq_true, decide_eq_true_eq]
  exact ⟨k, k.mem_all, rfl⟩

/-- No name is a keyword. -/
theorem ne_spelling_of_isName {text : String} (h : isName text = true) (k : Keyword) :
    text ≠ k.spelling := by
  rintro rfl
  simp [isName, isKeyword_spelling] at h

theorem Keyword.spelling_inj {j k : Keyword} (h : j.spelling = k.spelling) : j = k := by
  revert h
  cases j <;> cases k <;> decide

end ToyLang.Text
