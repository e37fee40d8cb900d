import ToyLang.Proofs.Faults
import ToyLang.Source.Diagnostic

/-!
# Where faults are reported

The place of a character is the number of its line and the number of the character in this line.
The place that is reported for a numeral out of range is looked up by the number of bytes in front
of it, as if every one of these bytes were a character.  So it is the place of the numeral where all
characters in front of it take one byte, and only there.

## Main definitions

* `Place.Holds` — the place of a character.

## Main results

* `placeOf_of_holds`, `eq_of_placeOf` — looking a place up finds the place of a character, and no
  other index has the same place.
* `place_intOutOfRange` — the place that is reported for a numeral, and when it is the place of the
  numeral.
-/

namespace ToyLang.Text

/-! ### Places of characters -/

/-- The place of the character with an index: so many lines are above it, and so many characters up
to it, with itself, are in its line. -/
def Place.Holds (text : List Char) (i : Nat) (p : Place) : Prop :=
  ∃ above line below, splitLines text = above ++ line :: below ∧ p.line = above.length + 1 ∧
    1 ≤ p.column ∧ p.column ≤ line.length ∧ i + 1 = above.flatten.length + p.column

theorem placeAmong_append (n : Nat) (above : List (List Char)) {line : List Char}
    (below : List (List Char)) {k : Nat} (hk : k < line.length) :
    placeAmong n (above ++ line :: below) (above.flatten.length + k)
      = some ⟨n + above.length, k + 1⟩ := by
  induction above generalizing n with
  | nil =>
    cases below with
    | nil => simp [placeAmong, Nat.le_of_lt hk]
    | cons second below => simp [placeAmong, hk]
  | cons first above ih =>
    -- The search asks for a second line before it passes over the first.
    obtain ⟨second, lines, hlines⟩ : ∃ second lines, above ++ line :: below = second :: lines := by
      cases above <;> exact ⟨_, _, rfl⟩
    have hfar : ¬ (first :: above).flatten.length + k < first.length := by
      simp only [List.flatten_cons, List.length_append]
      omega
    have hnear : (first :: above).flatten.length + k - first.length = above.flatten.length + k := by
      simp only [List.flatten_cons, List.length_append]
      omega
    have hline : n + 1 + above.length = n + (first :: above).length := by
      simp only [List.length_cons]
      omega
    rw [List.cons_append, hlines, placeAmong, if_neg hfar, hnear, ← hlines, ih, hline]

/-- A place leads back to the index that it was found for. -/
theorem index_of_placeAmong {n : Nat} {lines : List (List Char)} {i : Nat} {p : Place}
    (h : placeAmong n lines i = some p) :
    n ≤ p.line ∧ i + 1 = (lines.take (p.line - n)).flatten.length + p.column := by
  induction lines generalizing n i with
  | nil => cases h
  | cons first lines ih =>
    cases lines with
    | nil =>
      rw [placeAmong] at h
      split at h
      · cases h
        simp
      · cases h
    | cons second lines =>
      rw [placeAmong] at h
      split at h
      · cases h
        simp
      · next hfar =>
        obtain ⟨hle, hindex⟩ := ih h
        obtain ⟨m, hm⟩ : ∃ m, p.line - n = m + 1 := ⟨p.line - n - 1, by omega⟩
        have hrest : p.line - (n + 1) = m := by omega
        rw [hrest] at hindex
        refine ⟨by omega, ?_⟩
        rw [hm, List.take_succ_cons, List.flatten_cons, List.length_append]
        omega

theorem exists_line {lines : List (List Char)} {i : Nat} (hi : i < lines.flatten.length) :
    ∃ above line below k, lines = above ++ line :: below ∧ k < line.length ∧
      i = above.flatten.length + k := by
  induction lines generalizing i with
  | nil => simp at hi
  | cons first lines ih =>
    rw [List.flatten_cons, List.length_append] at hi
    by_cases hfirst : i < first.length
    · exact ⟨[], first, lines, i, rfl, hfirst, by simp⟩
    · obtain ⟨above, line, below, k, rfl, hk, hindex⟩ := ih (i := i - first.length) (by omega)
      refine ⟨first :: above, line, below, k, rfl, hk, ?_⟩
      rw [List.flatten_cons, List.length_append]
      omega

/-- Every character has a place. -/
theorem exists_holds {text : List Char} {i : Nat} (hi : i < text.length) :
    ∃ p : Place, p.Holds text i := by
  rw [← flatten_splitLines text] at hi
  obtain ⟨above, line, below, k, hlines, hk, rfl⟩ := exists_line hi
  exact ⟨⟨above.length + 1, k + 1⟩, above, line, below, hlines, rfl, by simp, hk, rfl⟩

/-- The place of a character is found. -/
theorem placeOf_of_holds {text : List Char} {i : Nat} {p : Place} (h : p.Holds text i) :
    placeOf text i = some p := by
  obtain ⟨above, line, below, hlines, hline, hpos, hle, hindex⟩ := h
  obtain ⟨k, hk⟩ : ∃ k, p.column = k + 1 := ⟨p.column - 1, by omega⟩
  have hi : i = above.flatten.length + k := by omega
  have hp : p = ⟨1 + above.length, k + 1⟩ := by
    cases p
    simp_all
    omega
  rw [placeOf, hlines, hi, placeAmong_append 1 above below (by omega), ← hp]

/-- No other index has the place of a character. -/
theorem eq_of_placeOf {text : List Char} {i j : Nat} {p : Place} (h : p.Holds text i)
    (hj : placeOf text j = some p) : j = i := by
  have hi := (index_of_placeAmong (placeOf_of_holds h)).2
  have hj := (index_of_placeAmong hj).2
  omega

end ToyLang.Text

namespace ToyLang.Source

open Text

/-! ### Bytes and characters -/

theorem length_le_byteLength (cs : List Char) : cs.length ≤ byteLength cs := by
  induction cs with
  | nil => exact Nat.le_refl _
  | cons c cs ih =>
    have hpos := c.utf8Size_pos
    simp only [byteLength, List.foldr_cons, List.length_cons] at ih ⊢
    omega

/-- There are as many bytes as characters where each character takes one. -/
theorem byteLength_eq_length_iff {cs : List Char} :
    byteLength cs = cs.length ↔ ∀ c ∈ cs, c.utf8Size = 1 := by
  induction cs with
  | nil => simp [byteLength]
  | cons c cs ih =>
    have hpos := c.utf8Size_pos
    have hle := length_le_byteLength cs
    rw [List.forall_mem_cons, ← ih]
    simp only [byteLength, List.foldr_cons, List.length_cons] at hle ⊢
    omega

/-! ### The place of a numeral -/

theorem joined_append (ss ss' : List Segment) : joined (ss ++ ss') = joined ss ++ joined ss' := by
  induction ss with
  | nil => rfl
  | cons s ss ih => simp [joined, ih]

/-- A numeral out of range stands in the text, behind as many bytes as its offset says. -/
theorem Beginning.Overflows.exists_split {text : List Char} {b : Beginning text}
    {offset width : Nat} (h : b.Overflows offset width) : ∃ before n valid after,
      text = before ++ ((Token.whole n valid).spelling ++ after) ∧
      ¬ (Token.whole n valid).InRange ∧ offset = byteLength before ∧
      width = (Token.whole n valid).spelling.length := by
  obtain ⟨before, ⟨t, gap⟩, after, hsegments, hrange, hoffset, hwidth⟩ := h
  have htext := b.text_eq
  rw [hsegments, joined_append, joined] at htext
  cases t with
  | whole n valid =>
    exact ⟨b.lead ++ joined before, n, valid, gap ++ (joined after ++ b.rest),
      htext.trans (by simp), hrange, hoffset, hwidth⟩
  | _ => exact absurd trivial hrange

/-- **Where a numeral out of range is reported.**  The numeral stands in the text behind as many
bytes as its offset says, and the place is looked up by this number.  It is the line and the column
of the numeral if and only if each character in front of it takes one byte. -/
theorem place_intOutOfRange {text : String} {faults : List Fault}
    (hparse : parse text = .error faults) {offset width : Nat}
    (hfault : .intOutOfRange offset width ∈ faults) :
    ∃ before n valid after truth,
      text.toList = before ++ ((Token.whole n valid).spelling ++ after) ∧
      ¬ (Token.whole n valid).InRange ∧ offset = byteLength before ∧
      width = (Token.whole n valid).spelling.length ∧
      truth.Holds text.toList before.length ∧
      (Fault.intOutOfRange offset width).place text.toList
        = placeOf text.toList (byteLength before) ∧
      ((Fault.intOutOfRange offset width).place text.toList = some truth ↔
        ∀ c ∈ before, c.utf8Size = 1) := by
  obtain ⟨b, hb⟩ := exists_isLongest text.toList
  have hfaults : b.faults = faults := by
    rw [parse_eq_of_isLongest hb] at hparse
    split at hparse
    · cases hparse
    · exact Except.error.inj hparse
  rw [← hfaults] at hfault
  obtain ⟨before, n, valid, after, htext, hrange, rfl, hwidth⟩ :=
    (Beginning.mem_faults_intOutOfRange.mp hfault).exists_split
  have hlt : before.length < text.toList.length := by
    have hpos := List.length_pos_iff.mpr (Token.whole n valid).spelling_ne_nil
    have hlength := congrArg List.length htext
    simp only [List.length_append] at hlength
    omega
  obtain ⟨truth, htruth⟩ := exists_holds hlt
  refine ⟨before, n, valid, after, truth, htext, hrange, rfl, hwidth, htruth, rfl, ?_⟩
  -- Different indices have different places, so the places agree only if the indices do.
  rw [← byteLength_eq_length_iff]
  refine ⟨fun hplace => eq_of_placeOf htruth hplace, fun hbytes => ?_⟩
  rw [Fault.place, hbytes]
  exact placeOf_of_holds htruth

instance (text : String) (faults : List Fault) : Decidable (parse text = .error faults) :=
  match parse text with
  | .ok _ => isFalse nofun
  | .error found => decidable_of_iff (found = faults) ⟨congrArg _, Except.error.inj⟩

/-- A declaration whose name has a character of two bytes, so that the place of its numeral is told
as that of the next character. -/
def accented : String := "let \u00e9: int = 9223372036854775808;"

theorem place_intOutOfRange_accented :
    parse accented = .error [.intOutOfRange 14 19] ∧
      (Fault.intOutOfRange 14 19).place accented.toList = some ⟨1, 15⟩ ∧
      (⟨1, 14⟩ : Place).Holds accented.toList 13 ∧
      ∃ before n valid after truth,
        accented.toList = before ++ ((Token.whole n valid).spelling ++ after) ∧
        ¬ (Token.whole n valid).InRange ∧ 14 = byteLength before ∧
        19 = (Token.whole n valid).spelling.length ∧ truth.Holds accented.toList before.length ∧
        (Fault.intOutOfRange 14 19).place accented.toList
          = placeOf accented.toList (byteLength before) ∧
        ((Fault.intOutOfRange 14 19).place accented.toList = some truth ↔
          ∀ c ∈ before, c.utf8Size = 1) := by
  have hparse : parse accented = .error [.intOutOfRange 14 19] := by decide +kernel
  have htruth : (⟨1, 14⟩ : Place).Holds accented.toList 13 :=
    ⟨[], accented.toList, [], by decide +kernel, rfl, by decide, by decide +kernel, rfl⟩
  exact ⟨hparse, by decide +kernel, htruth, place_intOutOfRange hparse (.head _)⟩

end ToyLang.Source
