import ToyLang.Proofs.Faults

/-!
# Texts that are joined

A text that matches the grammar may be followed by a line break and any other text.  Nothing that
is read in the first text depends on what follows, as the line break ends its last token and the
comment that it may end in.  So the declarations of the second text are read behind those of the
first one as they would be by themselves, and so are its faults, each of them so many bytes further
behind.

## Main definitions

* `faultsOf` — the faults of a text, none if it is a program.
* `Fault.shift` — a fault in a text that so many bytes are put in front of.
* `Beginning.joined` — a beginning of a text, as one of the joined text.

## Main results

* `file_join` — how a joined text is read.
* `parse_join` — **the faults and the declarations of a joined text.**
-/

namespace ToyLang.Source

open Text Reader

/-- The faults of a text, none if it is a program. -/
def faultsOf (text : String) : List Fault :=
  match parse text with
  | .ok _ => []
  | .error faults => faults

/-- The same fault in a text that so many bytes are put in front of. -/
def Fault.shift (bytes : Nat) : Fault → Fault
  | intOutOfRange offset width => intOutOfRange (bytes + offset) width
  | syntaxError => syntaxError

/-- The faults of a text are those of what is read of it. -/
theorem faultsOf_eq_of_file {text : String} {r : Reading (List Item)}
    (hfile : file text.toList.length text.toList = some r) :
    faultsOf text = r.faults (byteLength text.toList) := by
  rw [faultsOf, parse_eq_of_file hfile]
  by_cases hnil : r.faults (byteLength text.toList) = []
  · rw [if_pos hnil, hnil]
  · rw [if_neg hnil]

/-- The faults of a text are those of its longest beginning. -/
theorem Beginning.IsLongest.faultsOf_eq {text : String} {b : Beginning text.toList}
    (hb : b.IsLongest) : faultsOf text = b.faults := by
  rw [faultsOf, parse_eq_of_isLongest hb]
  by_cases hnil : b.faults = []
  · rw [if_pos hnil, hnil]
  · rw [if_neg hnil]

/-- A program is what is read of it. -/
theorem eq_value_of_parse {text : String} {r : Reading (List Item)} {items : List Item}
    (hfile : file text.toList.length text.toList = some r) (hparse : parse text = .ok items) :
    items = r.value := by
  rw [parse_eq_ok_iff, hfile] at hparse
  rw [Option.some.inj hparse]

/-- A text is a program exactly if it has no faults. -/
theorem faultsOf_eq_nil_iff {text : String} :
    faultsOf text = [] ↔ ∃ items, parse text = .ok items := by
  obtain ⟨b, hb⟩ := exists_isLongest text.toList
  rw [hb.faultsOf_eq, parse_eq_of_isLongest hb]
  by_cases hnil : b.faults = []
  · simp [hnil]
  · simp [hnil]

/-- A text matches the grammar exactly if it has no syntax error. -/
theorem matches_iff {text : String} : Matches text.toList ↔ .syntaxError ∉ faultsOf text := by
  obtain ⟨b, hb⟩ := exists_isLongest text.toList
  rw [hb.faultsOf_eq, Beginning.mem_faults_syntaxError, hb.trailing_iff, Classical.not_not]

/-! ### Faults further behind -/

theorem faultsFrom_add (bytes offset : Nat) (ss : List Segment) :
    faultsFrom (bytes + offset) ss = (faultsFrom offset ss).map (Fault.shift bytes) := by
  induction ss generalizing offset with
  | nil => rfl
  | cons s ss ih =>
    rw [faultsFrom, faultsFrom, List.map_append, Nat.add_assoc, ih]
    split
    · rfl
    · rfl

/-! ### Behind a line break -/

/-- No fraction begins at a point with a line break behind it. -/
theorem takeFraction?_append_line {cs : List Char} (h : takeFraction? cs = none)
    (more : List Char) : takeFraction? (cs ++ '\n' :: more) = none := by
  match cs with
  | [] => rfl
  | [c] =>
    by_cases hc : c = '.'
    · rw [hc]
      rfl
    · simp [takeFraction?, hc]
  | c :: d :: cs =>
    by_cases hc : c = '.'
    · subst hc
      simpa [takeFraction?] using h
    · simp [takeFraction?, hc]

/-- A token that ends in a text ends there as well if a line break follows the text. -/
theorem Token.Ends.append_line {t : Token} {after : List Char} (h : t.Ends after)
    (more : List Char) : t.Ends (after ++ '\n' :: more) := by
  cases after with
  | nil => exact t.ends_of_isBlank (by decide) more
  | cons c after =>
    cases t with
    | whole n valid => exact ⟨h.1, takeFraction?_append_line h.2 more⟩
    | arith op => cases op <;> exact h
    | compare op => cases op <;> exact h
    | _ => exact h

theorem Apart.append_line {ss : List Segment} {rest : List Char} (h : Apart ss rest)
    (more : List Char) : Apart ss (rest ++ '\n' :: more) := by
  induction ss with
  | nil => trivial
  | cons s ss ih =>
    obtain ⟨hgap, hends, h⟩ := h
    refine ⟨hgap, ?_, ih h⟩
    have hends := hends.append_line more
    rwa [List.append_assoc, List.append_assoc] at hends

/-- A line break ends the comment that a text may end in. -/
theorem Trailing.append_line {cs : List Char} (h : Trailing cs) : Trivia (cs ++ ['\n']) := by
  have hline : Trivia ['\n'] := .blank (by decide) .nil
  obtain ⟨gap, body, hgap, hbody, rfl | rfl⟩ := h
  · exact hgap.append hline
  · rw [List.append_assoc]
    exact hgap.append (.comment hbody .nil)

namespace Beginning

variable {text : List Char}

/-- A beginning of a text begins the joined text as well. -/
def join (b : Beginning text) (more : List Char) : Beginning (text ++ '\n' :: more) where
  lead := b.lead
  segments := b.segments
  rest := b.rest ++ '\n' :: more
  items := b.items
  text_eq := by
    have htext := congrArg (· ++ '\n' :: more) b.text_eq
    simpa only [List.append_assoc] using htext
  trivia := b.trivia
  apart := b.apart.append_line more
  wellFormed := b.wellFormed
  tokens := b.tokens

end Beginning

/-! ### Joined texts -/

section

variable {cs ds : List Char} {b₁ : Beginning cs} {b₂ : Beginning ds}

/-- Behind a text that is read to its end the other text is read as it is by itself. -/
theorem file_join (h₁ : Trailing b₁.rest) (h₂ : b₂.IsLongest) :
    file (cs ++ '\n' :: ds).length (cs ++ '\n' :: ds) = some ⟨b₁.items ++ b₂.items,
      overflowsOf b₁.segments (b₁.rest ++ '\n' :: ds) ++ overflowsOf b₂.segments b₂.rest,
      skipTrivia b₂.rest⟩ := by
  have hlength : (cs ++ '\n' :: ds).length = cs.length + ds.length + 1 := by
    rw [List.length_append, List.length_cons, Nat.add_assoc]
  have hskip : skipTrivia (b₁.rest ++ '\n' :: ds) = skipTrivia ds := by
    have hskip := h₁.append_line.skip ds
    rwa [List.append_assoc] at hskip
  have hfirst := b₁.length_items_le
  have hsecond := b₂.length_items_le
  -- There is a round for each character, and the first text takes no more than its own.
  have hmany : many (item (cs ++ '\n' :: ds).length)
      ((cs ++ '\n' :: ds).length - b₁.items.length) (skipTrivia (b₁.join ds).rest)
        = some ⟨b₂.items, overflowsOf b₂.segments b₂.rest, skipTrivia b₂.rest⟩ := by
    have hrest : (b₁.join ds).rest = b₁.rest ++ '\n' :: ds := rfl
    rw [hrest, hskip]
    exact h₂.many_eq (by omega) (by omega)
  have hall := (b₁.join ds).many_eq (Nat.le_refl _) hmany
  have hitems : (b₁.join ds).items = b₁.items := rfl
  rw [hitems, Nat.add_sub_cancel' (by omega)] at hall
  exact file_of_many hall

/-- The faults of the joined text are those of the two texts. -/
theorem faults_join (h₁ : Trailing b₁.rest) :
    Reading.faults (byteLength (cs ++ '\n' :: ds)) ⟨b₁.items ++ b₂.items,
      overflowsOf b₁.segments (b₁.rest ++ '\n' :: ds) ++ overflowsOf b₂.segments b₂.rest,
      skipTrivia b₂.rest⟩ = b₁.faults ++ b₂.faults.map (Fault.shift (byteLength cs + 1)) := by
  have hlength : byteLength (cs ++ '\n' :: ds) = byteLength cs + 1 + byteLength ds := by
    have hline : byteLength ('\n' :: ds) = 1 + byteLength ds := rfl
    rw [byteLength_append, hline, Nat.add_assoc]
  have hfirst := (b₁.join ds).map_fault 0
  rw [Nat.zero_add, Nat.zero_add] at hfirst
  have hsecond := b₂.map_fault (byteLength cs + 1)
  rw [← hlength, faultsFrom_add] at hsecond
  have hend : b₁.faults = faultsFrom (byteLength b₁.lead) b₁.segments := by
    rw [Beginning.faults, if_pos h₁.skip, List.append_nil]
  have hsyntax : (if skipTrivia b₂.rest = [] then [] else [Fault.syntaxError]).map
      (Fault.shift (byteLength cs + 1))
        = if skipTrivia b₂.rest = [] then [] else [.syntaxError] := by
    split <;> rfl
  rw [Reading.faults, List.map_append, hsecond, hend, Beginning.faults, List.map_append, hsyntax,
    ← List.append_assoc]
  exact congrArg (· ++ _ ++ _) hfirst

end

theorem mem_map_shift_syntaxError {bytes : Nat} {faults : List Fault} :
    .syntaxError ∈ faults.map (Fault.shift bytes) ↔ .syntaxError ∈ faults := by
  rw [List.mem_map]
  constructor
  · rintro ⟨fault, hfault, hshift⟩
    cases fault with
    | intOutOfRange offset width => cases hshift
    | syntaxError => exact hfault
  · exact fun h => ⟨.syntaxError, h, rfl⟩

/-- **Texts may be joined between declarations.**  If a text matches the grammar, whether its
numerals are in range or not, then the faults of this text, a line break and any other text are
those of the two texts, where those of the second one are as many bytes further behind as the first
one and the line break have.  There is a syntax error exactly if the second text has one.  If both
texts are programs, the declarations are those of the first one and then those of the second one. -/
theorem parse_join (s₁ s₂ : String) (h : Matches s₁.toList) :
    faultsOf (s₁ ++ "\n" ++ s₂)
        = faultsOf s₁ ++ (faultsOf s₂).map (Fault.shift (byteLength s₁.toList + 1)) ∧
      (.syntaxError ∈ faultsOf (s₁ ++ "\n" ++ s₂) ↔ .syntaxError ∈ faultsOf s₂) ∧
      ∀ items₁ items₂, parse s₁ = .ok items₁ → parse s₂ = .ok items₂ →
        parse (s₁ ++ "\n" ++ s₂) = .ok (items₁ ++ items₂) := by
  obtain ⟨b₁, hb₁⟩ := exists_isLongest s₁.toList
  obtain ⟨b₂, hb₂⟩ := exists_isLongest s₂.toList
  have hrest := hb₁.trailing_iff.mpr h
  have htext : (s₁ ++ "\n" ++ s₂).toList = s₁.toList ++ '\n' :: s₂.toList := by simp
  have hfile := file_join hrest hb₂
  rw [← htext] at hfile
  have hfaults : faultsOf (s₁ ++ "\n" ++ s₂)
      = faultsOf s₁ ++ (faultsOf s₂).map (Fault.shift (byteLength s₁.toList + 1)) := by
    rw [faultsOf_eq_of_file hfile, hb₁.faultsOf_eq, hb₂.faultsOf_eq, htext, faults_join hrest]
  refine ⟨hfaults, ?_, fun items₁ items₂ hparse₁ hparse₂ => ?_⟩
  · rw [hfaults, List.mem_append, mem_map_shift_syntaxError]
    exact or_iff_right (matches_iff.mp h)
  · have hnone : faultsOf (s₁ ++ "\n" ++ s₂) = [] := by
      rw [hfaults, faultsOf_eq_nil_iff.mpr ⟨_, hparse₁⟩, faultsOf_eq_nil_iff.mpr ⟨_, hparse₂⟩]
      rfl
    obtain ⟨items, hparse⟩ := faultsOf_eq_nil_iff.mp hnone
    rw [hparse, eq_value_of_parse hfile hparse, eq_value_of_parse hb₁.file_eq hparse₁,
      eq_value_of_parse hb₂.file_eq hparse₂]

/-- A numeral out of range and a comment at the end, joined with a text that breaks off behind
another such numeral; and two programs, the first of which ends in a comment. -/
theorem parse_join_tooLarge :
    faultsOf "let a: int = 99999999999999999999; // é" = [.intOutOfRange 13 20] ∧
      faultsOf "let b: int = 88888888888888888888; let" = [.intOutOfRange 13 20, .syntaxError] ∧
      Matches "let a: int = 99999999999999999999; // é".toList ∧
      faultsOf ("let a: int = 99999999999999999999; // é" ++ "\n"
        ++ "let b: int = 88888888888888888888; let")
        = [.intOutOfRange 13 20, .intOutOfRange 54 20, .syntaxError] ∧
      Matches "let a: int = 1; // é".toList ∧
      parse ("let a: int = 1; // é" ++ "\n" ++ "fn main() -> int \x7b return a; \x7d")
        = .ok [.bind ⟨"a", "int", .int 1⟩, .function ⟨"main", [], "int", [.ret (.ident "a")]⟩] := by
  have hfirst : faultsOf "let a: int = 99999999999999999999; // é" = [.intOutOfRange 13 20] := by
    decide +kernel
  have hsecond : faultsOf "let b: int = 88888888888888888888; let"
      = [.intOutOfRange 13 20, .syntaxError] := by
    decide +kernel
  have hmatches : Matches "let a: int = 99999999999999999999; // é".toList :=
    matches_iff.mpr (by simp [hfirst])
  have hparse₁ : parse "let a: int = 1; // é" = .ok [.bind ⟨"a", "int", .int 1⟩] := by
    decide +kernel
  have hparse₂ : parse "fn main() -> int \x7b return a; \x7d"
      = .ok [.function ⟨"main", [], "int", [.ret (.ident "a")]⟩] := by
    decide +kernel
  have hmatches₁ : Matches "let a: int = 1; // é".toList :=
    matches_iff.mpr (by simp [faultsOf_eq_nil_iff.mpr ⟨_, hparse₁⟩])
  refine ⟨hfirst, hsecond, hmatches, ?_, hmatches₁, ?_⟩
  · rw [(parse_join _ _ hmatches).1, hfirst, hsecond]
    decide
  · exact (parse_join _ _ hmatches₁).2.2 _ _ hparse₁ hparse₂

end ToyLang.Source
