import ToyLang.Proofs.Lines

/-!
# Comments and brackets in a generated file

Comments reach up to the ends of their lines.  In a generated file they are the labels of blocks, so
nothing is lost if they are deleted.  The brackets of what is left are nested, because a block has
its lines between its own braces; and so are the numbers in the labels.

## Main definitions

* `uncommented`, `comment?`, `label?` — a line without its comment, its comment, and the number
  that a block begins or ends with there.
* `codeOf`, `labelsOf` — the code and the labels of a text.
* `Commented` — two slashes stand in a line only where a label begins.
* `Numbered` — nested labels with numbers in a range.

## Main results

* `Lines.commented`, `Lines.neutral`, `Lines.numbered` — comments, brackets and labels of lines.
* `comments_of_compile` — **comments, brackets and labels of a compiled program.**
-/

namespace ToyLang.Source

open Text

/-! ### Reading lines -/

/-- A line without the comment that it may end in. -/
def uncommented : List Char → List Char
  | [] => []
  | '/' :: '/' :: _ => []
  | c :: cs => c :: uncommented cs

/-- The comment that a line may end in, behind its two slashes. -/
def comment? : List Char → Option (List Char)
  | [] => none
  | '/' :: '/' :: cs => some cs
  | _ :: cs => comment? cs

/-- The number that a comment says a block begins or ends with. -/
def label? (comment : List Char) : Option (Bracket Nat) :=
  (((takeSymbol? " start: ".toList comment).bind readDigits?).map .opening)
  <|> (((takeSymbol? " end: ".toList comment).bind readDigits?).map .closing)

/-- The lines of a text. -/
def linesOf (text : String) : List (List Char) := text.toList.splitOn '\n'

/-- A text in which all comments have been deleted up to the ends of their lines. -/
def codeOf (text : String) : List Char := ['\n'].intercalate ((linesOf text).map uncommented)

/-- The numbers that blocks begin and end with in some lines. -/
def labelsAmong (lines : List (List Char)) : List (Bracket Nat) :=
  lines.filterMap fun line => (comment? line).bind label?

/-- The numbers that blocks begin and end with in a text. -/
def labelsOf (text : String) : List (Bracket Nat) := labelsAmong (linesOf text)

/-- No comment begins where behind every slash stands a blank. -/
theorem not_comment_of_slashesApart {before after : List Char} :
    slashesApart (before ++ '/' :: '/' :: after) = false := by
  induction before with
  | nil => rfl
  | cons c before ih => rw [List.cons_append, slashesApart, ih, Bool.and_false]

theorem uncommented_cons {c : Char} {cs : List Char} (h : c ≠ '/' ∨ cs.head? ≠ some '/') :
    uncommented (c :: cs) = c :: uncommented cs := by
  rw [uncommented]
  rintro ds rfl rfl
  simp at h

theorem comment?_cons {c : Char} {cs : List Char} (h : c ≠ '/' ∨ cs.head? ≠ some '/') :
    comment? (c :: cs) = comment? cs := by
  rw [comment?]
  rintro ds rfl rfl
  simp at h

/-- Text in which behind every slash stands a blank has no comment. -/
theorem uncommented_of_slashesApart {cs : List Char} (h : slashesApart cs = true) :
    uncommented cs = cs ∧ comment? cs = none := by
  induction cs with
  | nil => exact ⟨rfl, rfl⟩
  | cons c cs ih =>
    simp only [slashesApart, Bool.and_eq_true, Bool.or_eq_true, bne_iff_ne, beq_iff_eq] at h
    obtain ⟨hfirst, h⟩ := h
    have hnext : c ≠ '/' ∨ cs.head? ≠ some '/' := by
      refine hfirst.imp_right fun hhead => ?_
      simp [hhead]
    obtain ⟨hcode, hcomment⟩ := ih h
    rw [uncommented_cons hnext, comment?_cons hnext, hcode, hcomment]
    exact ⟨rfl, rfl⟩

/-! ### Comments -/

/-- A line that begins or ends a block, cut at its comment. -/
def IsLabel (before after : List Char) : Prop :=
  (before = ['\x7b', ' '] ∧ ∃ n : Nat, after = (" start: " ++ toString n).toList) ∨
    (before = ['\x7d', ' '] ∧ ∃ label : String, after = (" end: " ++ label).toList ∧
      ((∃ n : Nat, label = toString n) ∨ isName label = true))

/-- Wherever two slashes stand in a line, the line begins or ends a block. -/
def Commented (line : List Char) : Prop :=
  ∀ before after, line = before ++ '/' :: '/' :: after → IsLabel before after

theorem commented_of_slashesApart {line : List Char} (h : slashesApart line = true) :
    Commented line := by
  rintro before after rfl
  rw [not_comment_of_slashesApart] at h
  cases h

/-- Neither a slash nor a line break is quiet. -/
theorem not_mem_of_isQuiet {cs : List Char} (h : ∀ c ∈ cs, isQuiet c = true) :
    '/' ∉ cs ∧ '\n' ∉ cs :=
  ⟨fun hmem => absurd (h _ hmem) (by decide), fun hmem => absurd (h _ hmem) (by decide)⟩

/-- No other slash stands in a line with a label. -/
theorem commented_label {c : Char} {comment : List Char} (hc : c ≠ '/') (hbreak : c ≠ '\n')
    (hquiet : ∀ d ∈ comment, isQuiet d = true) (h : IsLabel [c, ' '] comment) :
    '\n' ∉ c :: ' ' :: '/' :: '/' :: comment ∧ Commented (c :: ' ' :: '/' :: '/' :: comment) := by
  obtain ⟨hslash, hline⟩ := not_mem_of_isQuiet hquiet
  refine ⟨by simp [hline, Ne.symm hbreak], fun before after heq => ?_⟩
  match before with
  | [] => exact absurd (List.cons.inj heq).1 hc
  | [d] => exact absurd (List.cons.inj (List.cons.inj heq).2).1 (by decide)
  | [d, e] =>
    simp only [List.cons_append, List.nil_append, List.cons.injEq, true_and] at heq
    obtain ⟨rfl, rfl, rfl⟩ := heq
    exact h
  | d :: e :: f :: before =>
    -- From here on the second slash of a pair would stand in the comment.
    simp only [List.cons_append, List.cons.injEq] at heq
    obtain ⟨-, -, -, heq⟩ := heq
    refine absurd ?_ hslash
    cases before with
    | nil => exact (List.cons.inj heq).2 ▸ .head _
    | cons g before =>
      rw [(List.cons.inj heq).2]
      exact List.mem_append_right _ (.head _)

/-- The text of a label: a number, or a name. -/
theorem isQuiet_label {label : String} (h : (∃ n : Nat, label = toString n) ∨ isName label = true) :
    ∀ c ∈ label.toList, isQuiet c = true := by
  rcases h with ⟨n, rfl⟩ | hname
  · intro c hc
    rw [Nat.toString_eq_repr, Nat.toList_repr] at hc
    exact isQuiet_of_isNumeralChar (isNumeralChar_of_isDigit (isDigit_toDigits n c hc))
  · exact isQuiet_of_isName hname

theorem commented_startLine (n : Nat) : '\n' ∉ startLine n ∧ Commented (startLine n) := by
  refine commented_label (by decide) (by decide) ?_ (.inl ⟨rfl, n, rfl⟩)
  have hword : " start: ".toList.all isQuiet = true := by decide
  rw [String.toList_append]
  exact List.forall_mem_append.mpr ⟨List.all_eq_true.mp hword, isQuiet_label (.inl ⟨n, rfl⟩)⟩

theorem commented_endLine {label : String}
    (h : (∃ n : Nat, label = toString n) ∨ isName label = true) :
    '\n' ∉ endLine label ∧ Commented (endLine label) := by
  refine commented_label (by decide) (by decide) ?_ (.inr ⟨rfl, label, rfl, h⟩)
  have hword : " end: ".toList.all isQuiet = true := by decide
  rw [String.toList_append]
  exact List.forall_mem_append.mpr ⟨List.all_eq_true.mp hword, isQuiet_label h⟩

theorem IsCode.commented {line : List Char} (h : IsCode line) : '\n' ∉ line ∧ Commented line :=
  ⟨h.line, commented_of_slashesApart h.slashes⟩

/-- The line that a builtin function begins with. -/
theorem IsCode.slashes_head {head : List Char} (h : IsCode head) :
    slashesApart (head ++ ['\x7b']) = true := slashesApart_append h.slashes rfl

/-- Two slashes stand only in lines that begin or end a block. -/
theorem Lines.commented {n m : Nat} {lines : List (List Char)} (h : Lines n m lines) :
    ∀ line ∈ lines, '\n' ∉ line ∧ Commented line := by
  have hright : '\n' ∉ ['\x7d'] ∧ Commented ['\x7d'] :=
    ⟨by decide, commented_of_slashesApart rfl⟩
  have hleft : '\n' ∉ ['\x7b'] ∧ Commented ['\x7b'] :=
    ⟨by decide, commented_of_slashesApart rfl⟩
  induction h with
  | nil => exact List.forall_mem_nil _
  | code hline _ ih => exact List.forall_mem_cons.mpr ⟨hline.commented, ih⟩
  | builtin hhead _ _ ihbody ihrest =>
    have hfirst := commented_of_slashesApart hhead.slashes_head
    refine List.forall_mem_cons.mpr ⟨⟨?_, hfirst⟩, List.forall_mem_append.mpr
      ⟨ihbody, List.forall_mem_cons.mpr ⟨hright, ihrest⟩⟩⟩
    simpa using hhead.line
  | labelled _ _ ihbody ihrest =>
    exact List.forall_mem_cons.mpr ⟨commented_startLine _, List.forall_mem_append.mpr
      ⟨ihbody, List.forall_mem_cons.mpr ⟨commented_endLine (.inl ⟨_, rfl⟩), ihrest⟩⟩⟩
  | owned hname _ _ ihbody ihrest =>
    exact List.forall_mem_cons.mpr ⟨hleft, List.forall_mem_append.mpr
      ⟨ihbody, List.forall_mem_cons.mpr ⟨commented_endLine (.inr hname), ihrest⟩⟩⟩

/-! ### Brackets in code -/

/-- The brackets in lines without their comments. -/
def bracketsAmong (lines : List (List Char)) : List (Bracket BracketShape) :=
  lines.flatMap fun line => brackets (uncommented line)

theorem IsCode.uncommented {line : List Char} (h : IsCode line) : uncommented line = line :=
  (uncommented_of_slashesApart h.slashes).1

theorem bracketsAmong_cons (line : List Char) (lines : List (List Char)) :
    bracketsAmong (line :: lines) = brackets (uncommented line) ++ bracketsAmong lines :=
  List.flatMap_cons

theorem bracketsAmong_append (lines lines' : List (List Char)) :
    bracketsAmong (lines ++ lines') = bracketsAmong lines ++ bracketsAmong lines' :=
  List.flatMap_append

/-- Lines between two lines with a brace each. -/
theorem bracketsAmong_block (first last : List Char) (body rest : List (List Char))
    (hfirst : brackets (uncommented first) = [.opening .curly])
    (hlast : brackets (uncommented last) = [.closing .curly]) :
    bracketsAmong (first :: (body ++ last :: rest))
      = .opening .curly :: (bracketsAmong body ++ [.closing .curly]) ++ bracketsAmong rest := by
  rw [bracketsAmong_cons, bracketsAmong_append, bracketsAmong_cons, hfirst, hlast]
  simp

/-- In the code of lines brackets are nested. -/
theorem Lines.neutral {n m : Nat} {lines : List (List Char)} (h : Lines n m lines) :
    Neutral (bracketsAmong lines) := by
  induction h with
  | nil => exact neutral_nil
  | code hline _ ih =>
    rw [bracketsAmong_cons, hline.uncommented]
    exact hline.neutral.append ih
  | @builtin n k m head body rest hhead _ _ ihbody ihrest =>
    -- The brace stands at the end of the head, which has brackets of its own.
    have hcode : Source.uncommented (head ++ ['\x7b']) = head ++ ['\x7b'] :=
      (uncommented_of_slashesApart hhead.slashes_head).1
    have hbrackets : bracketsAmong ((head ++ ['\x7b']) :: (body ++ ['\x7d'] :: rest))
        = brackets head ++ bracketsAmong (['\x7b'] :: (body ++ ['\x7d'] :: rest)) := by
      rw [bracketsAmong_cons, bracketsAmong_cons, hcode, ← List.append_assoc]
      congr 1
      exact List.filterMap_append
    rw [hbrackets, bracketsAmong_block _ _ _ _ rfl rfl]
    exact hhead.neutral.append ((ihbody.wrap .curly).append ihrest)
  | labelled _ _ ihbody ihrest =>
    rw [bracketsAmong_block _ _ _ _ rfl rfl]
    exact (ihbody.wrap .curly).append ihrest
  | owned _ _ _ ihbody ihrest =>
    rw [bracketsAmong_block _ _ _ _ rfl rfl]
    exact (ihbody.wrap .curly).append ihrest

/-! ### Labels -/

theorem readDigits?_toString (n : Nat) : readDigits? (toString n).toList = some n := by
  have hdigits : (Nat.toDigits 10 n).all Char.isDigit = true :=
    List.all_eq_true.mpr (isDigit_toDigits n)
  rw [Nat.toString_eq_repr, Nat.toList_repr, readDigits?, if_pos ⟨Nat.toDigits_ne_nil, hdigits⟩]
  exact congrArg some (Nat.ofDigitChars_toDigits (by decide) (by decide))

/-- A name is no number. -/
theorem readDigits?_eq_none {name : String} (h : isName name = true) :
    readDigits? name.toList = none := by
  obtain ⟨c, cs, hcs, hc, -⟩ := isWord_iff.mp (isWord_of_isName h)
  have hdigit : c.isDigit ≠ true := by
    intro hdigit
    rw [isStart_eq_false_of_isDigit hdigit] at hc
    cases hc
  rw [hcs, readDigits?, if_neg]
  simp [hdigit]

theorem label?_startLine (n : Nat) :
    (comment? (startLine n)).bind label? = some (.opening n) := by
  have htake : takeSymbol? " start: ".toList (" start: " ++ toString n).toList
      = some (toString n).toList := takeSymbol?_eq_some_iff.mpr String.toList_append
  have hcomment : comment? (startLine n) = some (" start: " ++ toString n).toList := rfl
  rw [hcomment, Option.bind_some, label?, htake, Option.bind_some, readDigits?_toString]
  rfl

/-- The line that a block ends with has a label if the block has a number. -/
theorem label?_endLine (label : String) :
    (comment? (endLine label)).bind label? = (readDigits? label.toList).map .closing := by
  have htake : takeSymbol? " end: ".toList (" end: " ++ label).toList = some label.toList :=
    takeSymbol?_eq_some_iff.mpr String.toList_append
  have hnone : takeSymbol? " start: ".toList (" end: " ++ label).toList = none := by
    rw [String.toList_append]
    rfl
  have hcomment : comment? (endLine label) = some (" end: " ++ label).toList := rfl
  rw [hcomment, Option.bind_some, label?, htake, hnone]
  rfl

theorem label?_of_slashesApart {line : List Char} (h : slashesApart line = true) :
    (comment? line).bind label? = none := by
  rw [(uncommented_of_slashesApart h).2, Option.bind_none]

theorem labelsAmong_append (lines lines' : List (List Char)) :
    labelsAmong (lines ++ lines') = labelsAmong lines ++ labelsAmong lines' :=
  List.filterMap_append

theorem labelsAmong_cons {line : List Char} {b : Bracket Nat}
    (h : (comment? line).bind label? = some b) (lines : List (List Char)) :
    labelsAmong (line :: lines) = b :: labelsAmong lines :=
  List.filterMap_cons_some h

theorem labelsAmong_cons_of_slashesApart {line : List Char} (h : slashesApart line = true)
    (lines : List (List Char)) : labelsAmong (line :: lines) = labelsAmong lines :=
  List.filterMap_cons_none (label?_of_slashesApart h)

/-- Nested labels without repetition, with numbers from the first one up to the second one. -/
structure Numbered (n m : Nat) (bs : List (Bracket Nat)) : Prop where
  le : n ≤ m
  neutral : Neutral bs
  range : ∀ b ∈ bs, n ≤ b.subject ∧ b.subject < m
  nodup : bs.Nodup

namespace Numbered

variable {n k m : Nat} {bs cs : List (Bracket Nat)}

theorem nil : Numbered n n [] := ⟨Nat.le_refl n, neutral_nil, List.forall_mem_nil _, List.nodup_nil⟩

theorem append (hbs : Numbered n k bs) (hcs : Numbered k m cs) : Numbered n m (bs ++ cs) where
  le := Nat.le_trans hbs.le hcs.le
  neutral := hbs.neutral.append hcs.neutral
  range := by
    have hle := hbs.le
    have hle' := hcs.le
    refine List.forall_mem_append.mpr ⟨fun b hb => ?_, fun c hc => ?_⟩
    · have hrange := hbs.range b hb
      omega
    · have hrange := hcs.range c hc
      omega
  nodup := by
    refine List.nodup_append.mpr ⟨hbs.nodup, hcs.nodup, ?_⟩
    rintro b hb c hc rfl
    have hbelow := (hbs.range b hb).2
    have habove := (hcs.range b hc).1
    omega

/-- A number may be skipped. -/
theorem skip (h : Numbered (n + 1) m bs) : Numbered n m bs where
  le := Nat.le_of_succ_le h.le
  neutral := h.neutral
  range b hb := ⟨Nat.le_of_succ_le (h.range b hb).1, (h.range b hb).2⟩
  nodup := h.nodup

theorem wrap (h : Numbered (n + 1) m bs) :
    Numbered n m (.opening n :: (bs ++ [.closing n])) where
  le := h.skip.le
  neutral := h.neutral.wrap n
  range := by
    have hn : n ≤ n ∧ n < m := ⟨Nat.le_refl n, h.le⟩
    exact List.forall_mem_cons.mpr ⟨hn, List.forall_mem_append.mpr
      ⟨h.skip.range, List.forall_mem_singleton.mpr hn⟩⟩
  nodup := by
    have hfresh : ∀ b ∈ bs, b.subject ≠ n := fun b hb hn => by
      have hrange := (h.range b hb).1
      omega
    rw [List.nodup_cons, List.mem_append, not_or, List.nodup_append]
    refine ⟨⟨fun hmem => hfresh _ hmem rfl, by simp⟩, h.nodup, List.nodup_singleton _, ?_⟩
    rintro b hb c hc rfl
    rw [List.mem_singleton] at hc
    exact hfresh b hb (congrArg Bracket.subject hc)

end Numbered

/-- In lines, the labels of blocks are nested, and each of them occurs once. -/
theorem Lines.numbered {n m : Nat} {lines : List (List Char)} (h : Lines n m lines) :
    Numbered n m (labelsAmong lines) := by
  induction h with
  | nil => exact .nil
  | code hline _ ih => rwa [labelsAmong_cons_of_slashesApart hline.slashes]
  | builtin hhead _ _ ihbody ihrest =>
    rw [labelsAmong_cons_of_slashesApart hhead.slashes_head, labelsAmong_append,
      labelsAmong_cons_of_slashesApart rfl]
    exact ihbody.append ihrest
  | @labelled n k m body rest _ _ ihbody ihrest =>
    have hend : (comment? (endLine (toString n))).bind label? = some (.closing n) := by
      rw [label?_endLine, readDigits?_toString, Option.map_some]
    have hlabels : labelsAmong (startLine n :: (body ++ endLine (toString n) :: rest))
        = .opening n :: (labelsAmong body ++ [.closing n]) ++ labelsAmong rest := by
      rw [labelsAmong_cons (label?_startLine n), labelsAmong_append, labelsAmong_cons hend,
        List.cons_append, List.append_assoc]
      rfl
    rw [hlabels]
    exact ihbody.wrap.append ihrest
  | @owned n k m name body rest hname _ _ ihbody ihrest =>
    -- The block has a number, but its label is a name: the number does not occur.
    have hend : (comment? (endLine name)).bind label? = none := by
      rw [label?_endLine, readDigits?_eq_none hname, Option.map_none]
    have hlabels : labelsAmong (endLine name :: rest) = labelsAmong rest :=
      List.filterMap_cons_none hend
    rw [labelsAmong_cons_of_slashesApart rfl, labelsAmong_append, hlabels]
    exact ihbody.skip.append ihrest

/-! ### Compiled programs -/

theorem unlines_eq_intercalate (lines : List (List Char)) :
    unlines lines = ['\n'].intercalate (lines ++ [[]]) := by
  induction lines with
  | nil => rfl
  | cons line lines ih =>
    rw [unlines_cons, ih, List.cons_append, List.intercalate_cons_of_ne_nil (by simp),
      List.append_assoc]
    rfl

/-- A text that consists of lines has these lines, and nothing behind the last line break. -/
theorem linesOf_eq {text : String} {lines : List (List Char)} (htext : text.toList = unlines lines)
    (hlines : ∀ line ∈ lines, '\n' ∉ line) : linesOf text = lines ++ [[]] := by
  have hall : ∀ line ∈ lines ++ [[]], '\n' ∉ line :=
    List.forall_mem_append.mpr ⟨hlines, List.forall_mem_singleton.mpr List.not_mem_nil⟩
  rw [linesOf, htext, unlines_eq_intercalate]
  exact List.splitOn_intercalate _ hall (by simp)

theorem brackets_intercalate (lines : List (List Char)) :
    brackets (['\n'].intercalate lines) = lines.flatMap brackets := by
  induction lines with
  | nil => rfl
  | cons line lines ih =>
    cases lines with
    | nil => simp
    | cons line' lines =>
      have hbreak : ['\n'].filterMap bracket? = [] := rfl
      rw [List.intercalate_cons_cons, List.flatMap_cons, ← ih]
      simp only [brackets, List.filterMap_append, hbreak, List.append_nil]

/-- The brackets in the code of a text are those in the code of its lines. -/
theorem brackets_codeOf (text : String) :
    brackets (codeOf text) = bracketsAmong (linesOf text) := by
  rw [codeOf, brackets_intercalate, List.flatMap_map]
  rfl

theorem uncommented_eq_or (line : List Char) : uncommented line = line ∨
    ∃ after, line = uncommented line ++ '/' :: '/' :: after := by
  fun_induction uncommented line with
  | case1 => exact .inl rfl
  | case2 after => exact .inr ⟨after, rfl⟩
  | case3 c cs _ ih =>
    rcases ih with hcode | ⟨after, hcomment⟩
    · exact .inl (congrArg _ hcode)
    · exact .inr ⟨after, congrArg (c :: ·) hcomment⟩

/-- Only labels are deleted with the comments. -/
theorem Commented.uncommented {line : List Char} (h : Commented line) :
    uncommented line = line ∨ ∃ label, line = uncommented line ++ '/' :: '/' :: label ∧
      IsLabel (uncommented line) label :=
  (uncommented_eq_or line).imp_right fun ⟨label, hline⟩ => ⟨label, hline, h _ _ hline⟩

/-- **Comments, brackets and labels of a compiled program.**  In the file of a program two slashes
stand only between the brace and the label of a block, and only these labels are deleted with the
comments; brackets are nested in what is left, and so are the numbers of the blocks, each of which
begins once and ends once. -/
theorem comments_of_compile {source text : String} {items : List Item}
    (hparse : parse source = .ok items) (hcompile : (compile items).result = .ok text) :
    (∀ line ∈ linesOf text, Commented line ∧
      (uncommented line = line ∨ ∃ label, line = uncommented line ++ '/' :: '/' :: label ∧
        IsLabel (uncommented line) label)) ∧
    Nested (brackets (codeOf text)) ∧
    Nested (labelsOf text) ∧
    ∀ n, .opening n ∈ labelsOf text ∨ .closing n ∈ labelsOf text →
      (labelsOf text).count (.opening n) = 1 ∧ (labelsOf text).count (.closing n) = 1 := by
  obtain ⟨hwell, -⟩ := file_yields (parse_eq_ok_iff.mp hparse)
  obtain ⟨hfaultless, rfl⟩ := faultless_of_compile hcompile
  obtain ⟨lines, hlines, htext⟩ := isLines_cppFile hwell hfaultless.floats_finite
  -- behind the last line break stands an empty line, which has neither brackets nor labels
  have hlast : Commented [] := commented_of_slashesApart rfl
  have hall := linesOf_eq htext fun line hline => (hlines.commented line hline).1
  have hbrackets : bracketsAmong (lines ++ [[]]) = bracketsAmong lines := by
    rw [bracketsAmong_append]
    exact List.append_nil _
  have hlabels : labelsOf (cppFile items) = labelsAmong lines := by
    rw [labelsOf, hall, labelsAmong_append]
    exact List.append_nil _
  have hnumbered := hlines.numbered
  rw [brackets_codeOf, hlabels, hall, hbrackets]
  refine ⟨fun line hline => ?_, hlines.neutral.nested, hnumbered.neutral.nested,
    fun n hn => hnumbered.neutral.nested.count_eq_one hnumbered.nodup hn⟩
  have hcommented : Commented line := by
    rcases List.mem_append.mp hline with hmem | hmem
    · exact (hlines.commented line hmem).2
    · rwa [List.mem_singleton.mp hmem]
  exact ⟨hcommented, hcommented.uncommented⟩

/-- A program with blocks inside blocks, whose entry point calls itself. -/
def nestedProgram : List Item :=
  [.function ⟨"main", [], "int",
    [.cond (.ident "a") [.block []] (.block [.eval (.call "main" [])]), .ret (.ident "n")]⟩]

theorem comments_of_compile_nestedProgram :
    ∃ text, parse "fn main() -> int \x7bif a \x7b\x7b\x7d\x7d else \x7bmain();\x7d return n;\x7d"
        = .ok nestedProgram ∧
      (compile nestedProgram).result = .ok text ∧
      (∀ line ∈ linesOf text, Commented line ∧
        (uncommented line = line ∨ ∃ label, line = uncommented line ++ '/' :: '/' :: label ∧
          IsLabel (uncommented line) label)) ∧
      Nested (brackets (codeOf text)) ∧
      labelsOf text = [.opening 2, .opening 3, .closing 3, .closing 2, .opening 4, .closing 4] ∧
      Nested (labelsOf text) ∧
      ∀ n, .opening n ∈ labelsOf text ∨ .closing n ∈ labelsOf text →
        (labelsOf text).count (.opening n) = 1 ∧ (labelsOf text).count (.closing n) = 1 := by
  have hparse :
      parse "fn main() -> int \x7bif a \x7b\x7b\x7d\x7d else \x7bmain();\x7d return n;\x7d"
        = .ok nestedProgram := by decide +kernel
  have hcompile : (compile nestedProgram).result = .ok (cppFile nestedProgram) :=
    compile_of_firstFault (by decide) (by decide)
  have hlabels : labelsOf (cppFile nestedProgram)
      = [.opening 2, .opening 3, .closing 3, .closing 2, .opening 4, .closing 4] := by
    decide +kernel
  obtain ⟨hcomments, hbrackets, hnested⟩ := comments_of_compile hparse hcompile
  exact ⟨_, hparse, hcompile, hcomments, hbrackets, hlabels, hnested⟩

example : labelsOf "\x7b\n\x7b // start: 2\n\x7d // end: 2\n\x7d // end: f\n"
    = [.opening 2, .closing 2] := by
  decide +kernel

end ToyLang.Source
