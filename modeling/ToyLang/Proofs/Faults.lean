import ToyLang.Proofs.Completeness

/-!
# Which faults a text has

A text begins with some complete declarations, and at one of its beginnings there are the most of
them.  What is behind it may be the first half of another declaration, and the readers may have gone
far into it and back again; none of this counts.  The faults of a text are the whole numerals out of
range in its longest beginning, in their order, and then a syntax error if more follows.

## Main definitions

* `Segment`, `Beginning` — a token with the trivia behind it, and a front part of a text that is cut
  into such segments and consists of complete declarations.
* `Beginning.IsLongest`, `Matches` — no beginning has more declarations; one leaves nothing behind.
* `Beginning.Overflows` — a numeral of a beginning is out of range.
* `Fault.Before` — the order of faults.

## Main results

* `parse_faults` — the faults of a text are those of its longest beginning.
-/

namespace ToyLang.Source

open Text Reader

/-! ### Beginnings of a text -/

/-- A token in a text, with the trivia that is skipped behind it. -/
structure Segment where
  token : Token
  gap : List Char

/-- The characters of some segments. -/
def joined : List Segment → List Char
  | [] => []
  | s :: ss => s.token.spelling ++ (s.gap ++ joined ss)

/-- Some segments stand in front of a text: each token ends where its segment says, and trivia is
all that is skipped. -/
def Apart : List Segment → List Char → Prop
  | [], _ => True
  | s :: ss, rest =>
      Trivia s.gap ∧ s.token.Ends (s.gap ++ (joined ss ++ rest)) ∧ Apart ss rest

/-- A front part of a text that consists of complete declarations. -/
structure Beginning (text : List Char) where
  lead : List Char
  segments : List Segment
  rest : List Char
  items : List Item
  text_eq : text = lead ++ (joined segments ++ rest)
  trivia : Trivia lead
  apart : Apart segments rest
  wellFormed : ∀ i ∈ items, i.WellFormed
  tokens : Each Item.Tokens items (segments.map Segment.token)

/-- No beginning has more declarations. -/
def Beginning.IsLongest {text : List Char} (b : Beginning text) : Prop :=
  ∀ b' : Beginning text, b'.items.length ≤ b.items.length

/-- The whole text matches the grammar, the range of numerals apart: it consists of declarations,
and what is behind them means nothing. -/
def Matches (text : List Char) : Prop := ∃ b : Beginning text, Trailing b.rest

/-- A whole numeral out of range, of so many characters, begins so many bytes behind the start of
the text, and lies in its beginning. -/
def Beginning.Overflows {text : List Char} (b : Beginning text) (offset width : Nat) : Prop :=
  ∃ before s after, b.segments = before ++ s :: after ∧ ¬ s.token.InRange ∧
    offset = byteLength (b.lead ++ joined before) ∧ width = s.token.spelling.length

/-- The order of faults: numerals by their places, and a syntax error last. -/
def Fault.Before : Fault → Fault → Prop
  | intOutOfRange offset _, intOutOfRange offset' _ => offset < offset'
  | intOutOfRange _ _, syntaxError => True
  | syntaxError, _ => False

/-! ### Segments and tokens -/

theorem byteLength_append (cs ds : List Char) :
    byteLength (cs ++ ds) = byteLength cs + byteLength ds := by
  induction cs with
  | nil => simp [byteLength]
  | cons c cs ih =>
    simp only [byteLength, List.cons_append, List.foldr_cons] at ih ⊢
    omega

theorem byteLength_pos {cs : List Char} (h : cs ≠ []) : 0 < byteLength cs := by
  cases cs with
  | nil => exact absurd rfl h
  | cons c cs =>
    have hpos := c.utf8Size_pos
    simp only [byteLength, List.foldr_cons]
    omega

/-- The overflows of some segments in front of a text. -/
def overflowsOf : List Segment → List Char → List Overflow
  | [], _ => []
  | s :: ss, rest =>
      s.token.overflows (s.token.spelling ++ (s.gap ++ (joined ss ++ rest))) ++ overflowsOf ss rest

theorem joined_cons_append (s : Segment) (ss : List Segment) (rest : List Char) :
    joined (s :: ss) ++ rest = s.token.spelling ++ (s.gap ++ (joined ss ++ rest)) := by
  simp [joined]

/-- The readers' walk over some segments. -/
theorem Apart.laid {ss : List Segment} {rest : List Char} (h : Apart ss rest) :
    Laid (ss.map Segment.token) (skipTrivia (joined ss ++ rest)) (overflowsOf ss rest)
      (skipTrivia rest) := by
  induction ss with
  | nil => exact ⟨rfl, rfl⟩
  | cons s ss ih =>
    obtain ⟨hgap, hends, h⟩ := h
    rw [joined_cons_append, show skipTrivia _ = _ from Token.visible hends]
    refine ⟨_, overflowsOf ss rest, rfl, hends, rfl, ?_⟩
    rw [hgap.skip]
    exact ih h

/-- What the readers walked over is a beginning of the text. -/
theorem Laid.exists_apart {ts : List Token} {cs rest : List Char} {os : List Overflow}
    (h : Laid ts (skipTrivia cs) os rest) : ∃ lead ss tail, cs = lead ++ (joined ss ++ tail) ∧
      Trivia lead ∧ Apart ss tail ∧ ss.map Segment.token = ts := by
  induction ts generalizing cs os with
  | nil => exact ⟨[], [], cs, rfl, .nil, trivial, rfl⟩
  | cons t ts ih =>
    obtain ⟨after, os', hskip, hends, -, h⟩ := h
    -- What is skipped in front of the other tokens is the trivia behind this one.
    obtain ⟨gap, ss, tail, rfl, hgap, hapart, htokens⟩ := ih h
    obtain ⟨lead, hcs, hlead⟩ | ⟨hnil, -⟩ := exists_trivia cs
    · refine ⟨lead, ⟨t, gap⟩ :: ss, tail, ?_, hlead, ⟨hgap, hends, hapart⟩, ?_⟩
      · rw [joined_cons_append, hcs, hskip]
      · rw [List.map_cons, htokens]
    · rw [hnil, eq_comm, List.append_eq_nil_iff] at hskip
      exact absurd hskip.1 t.spelling_ne_nil

theorem skipTrivia_eq_nil_iff {cs : List Char} : skipTrivia cs = [] ↔ Trailing cs := by
  refine ⟨fun hskip => ?_, Trailing.skip⟩
  obtain ⟨gap, hcs, hgap⟩ | ⟨-, htrailing⟩ := exists_trivia cs
  · rw [hskip, List.append_nil] at hcs
    exact hcs ▸ hgap.trailing
  · exact htrailing

/-! ### Reading a beginning -/

section

variable {α : Type} {p : Reader α} {cs rest : List Char}

/-- Where repetition reads no value it takes nothing. -/
theorem many_eq_nil {rounds : Nat} {r : Reading (List α)} (h : many p rounds cs = some r)
    (hr : r.value = []) : r = ⟨[], [], cs⟩ := by
  cases rounds with
  | zero =>
    cases h
    rfl
  | succ rounds =>
    cases hfirst : (do let a ← p; let as ← many p rounds; pure (a :: as)) cs with
    | some r' =>
      rw [many, orElse_of_some hfirst] at h
      obtain rfl := Option.some.inj h
      obtain ⟨r₁, -, r₂, hr₂, hvalue⟩ := bind_eq_some.mp hfirst
      obtain ⟨r₃, -, r₄, hr₄, rfl⟩ := bind_eq_some.mp hr₂
      cases hr₄
      rw [hvalue] at hr
      cases hr
    | none =>
      rw [many, orElse_of_none hfirst] at h
      cases h
      rfl

/-- Repetition reads the values whose tokens the text begins with, and goes on behind them. -/
theorem many_of_laid {P : α → List Token → Prop} (hP : ∀ a us, P a us → Reads p a us Anything)
    {as : List α} {ts : List Token} (has : Each P as ts) {os : List Overflow} (hcs : Visible cs)
    (hlaid : Laid ts cs os rest) {rounds : Nat} {r : Reading (List α)}
    (hr : many p rounds rest = some r) :
    many p (as.length + rounds) cs = some ⟨as ++ r.value, os ++ r.overflows, r.rest⟩ := by
  induction has generalizing cs os with
  | nil =>
    obtain ⟨rfl, rfl⟩ := hlaid
    simpa using hr
  | @cons a as ts us ha has ih =>
    obtain ⟨mid, os₁, os₂, hts, hus, rfl⟩ := laid_append.mp hlaid
    have hothers := ih (hts.visible hcs) hus
    have hlength : (a :: as).length + rounds = (as.length + rounds) + 1 := by
      simp only [List.length_cons]
      omega
    rw [hlength, List.append_assoc]
    refine orElse_of_some (bind_of_some (hP a ts ha hcs hts trivial) ?_)
    exact map_of_some hothers (a :: ·)

end

namespace Beginning

variable {text : List Char}

/-- There are no more tokens than characters. -/
theorem length_segments_le (b : Beginning text) :
    (b.segments.map Segment.token).length ≤ text.length := by
  have hskip := length_skipTriviaFrom_le false (joined b.segments ++ b.rest)
  have htext := congrArg List.length b.text_eq
  rw [List.length_append] at htext
  exact Nat.le_trans b.apart.laid.length_le (Nat.le_trans hskip (by omega))

theorem length_items_le (b : Beginning text) : b.items.length ≤ text.length :=
  Nat.le_trans (Source.length_items_le b.tokens) b.length_segments_le

/-- Any budget and rounds that are enough for a beginning read its declarations, and then more
behind it. -/
theorem many_eq (b : Beginning text) {budget rounds : Nat} (hbudget : text.length ≤ budget)
    {r : Reading (List Item)} (hr : many (item budget) rounds (skipTrivia b.rest) = some r) :
    many (item budget) (b.items.length + rounds) (skipTrivia text)
      = some ⟨b.items ++ r.value, overflowsOf b.segments b.rest ++ r.overflows, r.rest⟩ := by
  have hlaid := b.apart.laid
  have hskip := b.trivia.skip (joined b.segments ++ b.rest)
  rw [← b.text_eq] at hskip
  rw [← hskip] at hlaid
  have hitems := each_item_bounded b.wellFormed b.tokens
    (Nat.le_trans b.length_segments_le hbudget)
  exact many_of_laid (fun i us h => item_reads h.1 h.2.1 h.2.2 Anything) hitems
    (visible_skipTrivia text) hlaid hr

/-- A text is read as the declarations of any of its beginnings, and of more behind it. -/
theorem exists_file_eq (b : Beginning text) : ∃ rounds r,
    many (item text.length) rounds (skipTrivia b.rest) = some r ∧
      file text.length text = some ⟨b.items ++ r.value,
        overflowsOf b.segments b.rest ++ r.overflows, r.rest⟩ := by
  -- There is a round for each character, so the declarations leave some of them for the rest.
  obtain ⟨r, hr⟩ := exists_many (item text.length) (text.length - b.items.length)
    (skipTrivia b.rest)
  have hmany := b.many_eq (Nat.le_refl _) hr
  rw [Nat.add_sub_cancel' b.length_items_le] at hmany
  exact ⟨_, r, hr, file_of_many hmany⟩

end Beginning

/-- What is read of a text is a beginning of it, whatever the budget. -/
theorem exists_beginning_of_many {text : List Char} {budget rounds : Nat}
    {r : Reading (List Item)} (h : many (item budget) rounds (skipTrivia text) = some r) :
    ∃ b : Beginning text, r.value = b.items := by
  obtain ⟨ts, hlaid, hitems⟩ := (item_yields budget).many rounds (visible_skipTrivia text) h
  have hwell : ∀ i ∈ r.value, i.WellFormed := hitems.forall_mem fun _ _ h => h.1
  obtain ⟨lead, ss, tail, htext, hlead, hapart, rfl⟩ := hlaid.exists_apart
  exact ⟨⟨lead, ss, tail, r.value, htext, hlead, hapart, hwell, hitems.imp fun _ _ _ _ h => h.2⟩,
    rfl⟩

/-- What is read of a text is a beginning of it. -/
theorem exists_beginning (text : List Char) : ∃ (b : Beginning text) (r : Reading (List Item)),
    file text.length text = some r ∧ r.value = b.items := by
  obtain ⟨r, hr⟩ := exists_many (item text.length) text.length (skipTrivia text)
  obtain ⟨b, hvalue⟩ := exists_beginning_of_many hr
  exact ⟨b, r, file_of_many hr, hvalue⟩

/-- The declarations that are read are the most that there are. -/
theorem exists_isLongest (text : List Char) : ∃ b : Beginning text, b.IsLongest := by
  obtain ⟨b, r, hfile, hvalue⟩ := exists_beginning text
  refine ⟨b, fun b' => ?_⟩
  obtain ⟨rounds, r', -, hfile'⟩ := b'.exists_file_eq
  rw [hfile'] at hfile
  obtain rfl := Option.some.inj hfile
  rw [← hvalue, List.length_append]
  omega

/-- Any budget and rounds that are enough read the declarations of the longest beginning of a text,
with the overflows in it, up to where it ends. -/
theorem Beginning.IsLongest.many_eq {text : List Char} {b : Beginning text} (hb : b.IsLongest)
    {budget rounds : Nat} (hbudget : text.length ≤ budget) (hrounds : b.items.length ≤ rounds) :
    many (item budget) rounds (skipTrivia text)
      = some ⟨b.items, overflowsOf b.segments b.rest, skipTrivia b.rest⟩ := by
  obtain ⟨r, hr⟩ := exists_many (item budget) (rounds - b.items.length) (skipTrivia b.rest)
  have hmany := b.many_eq hbudget hr
  rw [Nat.add_sub_cancel' hrounds] at hmany
  -- Anything more that is read would belong to a longer beginning.
  have hnone : r.value = [] := by
    obtain ⟨b', hvalue⟩ := exists_beginning_of_many hmany
    have hle := hb b'
    rw [← hvalue, List.length_append] at hle
    exact List.eq_nil_of_length_eq_zero (by omega)
  rw [hmany, many_eq_nil hr hnone]
  simp

/-- A text is read as the declarations of its longest beginning, with the overflows in it, up to
where it ends. -/
theorem Beginning.IsLongest.file_eq {text : List Char} {b : Beginning text} (hb : b.IsLongest) :
    file text.length text
      = some ⟨b.items, overflowsOf b.segments b.rest, skipTrivia b.rest⟩ :=
  file_of_many (hb.many_eq (Nat.le_refl _) b.length_items_le)

/-! ### Faults by their places -/

/-- The faults in some segments, the first of which begins at an offset. -/
def faultsFrom (offset : Nat) : List Segment → List Fault
  | [] => []
  | s :: ss =>
      (if s.token.InRange then [] else [.intOutOfRange offset s.token.spelling.length])
        ++ faultsFrom (offset + byteLength (s.token.spelling ++ s.gap)) ss

theorem Token.overflows_of_not_inRange {t : Token} (h : ¬ t.InRange) (text : List Char) :
    t.overflows text = [⟨byteLength text, t.spelling.length⟩] := by
  cases t with
  | whole n valid =>
    have hwidth : n.width = (signChars n.negative ++ n.digits).length := by
      cases hn : n.negative with
      | false => simp [WholeNumeral.width, signChars, hn]
      | true => simp [WholeNumeral.width, signChars, hn, Nat.add_comm]
    cases hvalue : int64Of? (signedValue n.negative n.digits) with
    | none => simp [overflows, hvalue, hwidth, spelling]
    | some value =>
      refine absurd ((overflows_eq_nil (t := .whole n valid) text).mp ?_) h
      simp [overflows, hvalue]
  | _ => exact absurd trivial h

/-- The readers count from the end of a text, and faults from its start. -/
theorem map_fault_overflowsOf (offset : Nat) (ss : List Segment) (rest : List Char) :
    (overflowsOf ss rest).map (Overflow.fault (offset + byteLength (joined ss ++ rest)))
      = faultsFrom offset ss := by
  induction ss generalizing offset with
  | nil => rfl
  | cons s ss ih =>
    have hbytes : offset + byteLength (joined (s :: ss) ++ rest)
        = offset + byteLength (s.token.spelling ++ s.gap) + byteLength (joined ss ++ rest) := by
      rw [joined_cons_append, ← List.append_assoc, byteLength_append, Nat.add_assoc]
    have hfirst : (s.token.overflows (joined (s :: ss) ++ rest)).map
        (Overflow.fault (offset + byteLength (joined (s :: ss) ++ rest)))
          = if s.token.InRange then [] else [.intOutOfRange offset s.token.spelling.length] := by
      split
      · next h => rw [(Token.overflows_eq_nil _).mpr h, List.map_nil]
      · next h =>
        rw [Token.overflows_of_not_inRange h, List.map_singleton, Overflow.fault]
        simp
    rw [overflowsOf, List.map_append, ← joined_cons_append, hfirst, hbytes, ih, faultsFrom]

theorem mem_faultsFrom {front : List Char} {ss : List Segment} {offset width : Nat} :
    .intOutOfRange offset width ∈ faultsFrom (byteLength front) ss ↔
      ∃ before s after, ss = before ++ s :: after ∧ ¬ s.token.InRange ∧
        offset = byteLength (front ++ joined before) ∧ width = s.token.spelling.length := by
  induction ss generalizing front with
  | nil => simp [faultsFrom]
  | cons s ss ih =>
    rw [faultsFrom, List.mem_append, ← byteLength_append, ih]
    constructor
    · rintro (hfirst | ⟨before, s', after, rfl, hrange, rfl, rfl⟩)
      · split at hfirst
        · cases hfirst
        · next hrange =>
          obtain ⟨rfl, rfl⟩ : offset = _ ∧ width = _ := by simpa using hfirst
          exact ⟨[], s, ss, rfl, hrange, by simp [joined], rfl⟩
      · exact ⟨s :: before, s', after, rfl, hrange, by simp [joined], rfl⟩
    · rintro ⟨_ | ⟨s', before⟩, s'', after, hss, hrange, rfl, rfl⟩
      · obtain ⟨rfl, rfl⟩ := List.cons.inj hss
        exact .inl (by simp [hrange, joined])
      · obtain ⟨rfl, rfl⟩ := List.cons.inj hss
        exact .inr ⟨before, s'', after, rfl, hrange, by simp [joined], rfl⟩

/-- Every fault in some segments lies where they begin or behind it. -/
theorem exists_of_mem_faultsFrom {offset : Nat} {ss : List Segment} {fault : Fault}
    (h : fault ∈ faultsFrom offset ss) :
    ∃ offset' width, fault = .intOutOfRange offset' width ∧ offset ≤ offset' := by
  induction ss generalizing offset with
  | nil => cases h
  | cons s ss ih =>
    rw [faultsFrom, List.mem_append] at h
    rcases h with h | h
    · split at h
      · cases h
      · exact ⟨offset, _, List.mem_singleton.mp h, Nat.le_refl _⟩
    · obtain ⟨offset', width, rfl, hle⟩ := ih h
      exact ⟨offset', width, rfl, by omega⟩

/-- Faults come in the order of their places, as every token has a character. -/
theorem pairwise_faultsFrom (offset : Nat) (ss : List Segment) :
    (faultsFrom offset ss).Pairwise Fault.Before := by
  induction ss generalizing offset with
  | nil => exact .nil
  | cons s ss ih =>
    rw [faultsFrom, List.pairwise_append]
    refine ⟨?_, ih _, fun fault hfault fault' hfault' => ?_⟩
    · split
      · exact .nil
      · exact List.pairwise_singleton _ _
    · split at hfault
      · cases hfault
      · obtain rfl := List.mem_singleton.mp hfault
        obtain ⟨offset', width, rfl, hle⟩ := exists_of_mem_faultsFrom hfault'
        have hpos := byteLength_pos s.token.spelling_ne_nil
        rw [byteLength_append] at hle
        change offset < offset'
        omega

/-! ### The faults of a text -/

namespace Beginning

variable {text : List Char}

/-- The faults in a beginning, and the syntax error behind it. -/
def faults (b : Beginning text) : List Fault :=
  faultsFrom (byteLength b.lead) b.segments ++
    if skipTrivia b.rest = [] then [] else [.syntaxError]

theorem mem_faults_intOutOfRange {b : Beginning text} {offset width : Nat} :
    .intOutOfRange offset width ∈ b.faults ↔ b.Overflows offset width := by
  have hsyntax : .intOutOfRange offset width ∉
      if skipTrivia b.rest = [] then [] else [Fault.syntaxError] := by
    split <;> simp
  rw [faults, List.mem_append, or_iff_left hsyntax, mem_faultsFrom, Overflows]

theorem mem_faults_syntaxError {b : Beginning text} :
    .syntaxError ∈ b.faults ↔ ¬ Trailing b.rest := by
  have hfirst : .syntaxError ∉ faultsFrom (byteLength b.lead) b.segments := by
    intro h
    obtain ⟨offset, width, hne, -⟩ := exists_of_mem_faultsFrom h
    cases hne
  rw [faults, List.mem_append, or_iff_right hfirst, ← skipTrivia_eq_nil_iff]
  split <;> simp_all

theorem pairwise_faults (b : Beginning text) : b.faults.Pairwise Fault.Before := by
  rw [faults, List.pairwise_append]
  refine ⟨pairwise_faultsFrom _ _, ?_, fun fault hfault fault' hfault' => ?_⟩
  · split
    · exact .nil
    · exact List.pairwise_singleton _ _
  · obtain ⟨offset, width, rfl, -⟩ := exists_of_mem_faultsFrom hfault
    split at hfault'
    · cases hfault'
    · obtain rfl := List.mem_singleton.mp hfault'
      trivial

/-- If some beginning leaves nothing behind, the longest one does not either. -/
theorem IsLongest.trailing_iff {b : Beginning text} (hb : b.IsLongest) :
    Trailing b.rest ↔ Matches text := by
  refine ⟨fun hrest => ⟨b, hrest⟩, ?_⟩
  rintro ⟨b', hrest'⟩
  -- The text is read to its end through `b'`, and there is only one way to read it.
  obtain ⟨rounds, r, hmany, hfile⟩ := b'.exists_file_eq
  rw [hrest'.skip] at hmany
  have hstop : many (item text.length) rounds [] = some ⟨[], [], []⟩ := by
    cases rounds with
    | zero => rfl
    | succ rounds => exact orElse_of_none (bind_of_none (item_nil _) _)
  rw [hstop] at hmany
  obtain rfl := Option.some.inj hmany
  rw [hb.file_eq] at hfile
  exact skipTrivia_eq_nil_iff.mp (congrArg Reading.rest (Option.some.inj hfile))

end Beginning

/-- What is read behind so many bytes has the faults that it has by itself, further behind. -/
theorem Beginning.map_fault {text : List Char} (b : Beginning text) (bytes : Nat) :
    (overflowsOf b.segments b.rest).map (Overflow.fault (bytes + byteLength text))
      = faultsFrom (bytes + byteLength b.lead) b.segments := by
  have hlength : bytes + byteLength text
      = bytes + byteLength b.lead + byteLength (joined b.segments ++ b.rest) := by
    rw [Nat.add_assoc, ← byteLength_append, ← b.text_eq]
  rw [hlength, map_fault_overflowsOf]

/-- A text is judged by what is read of it. -/
theorem parse_eq_of_file {text : String} {r : Reading (List Item)}
    (hfile : file text.toList.length text.toList = some r) :
    parse text = if r.faults (byteLength text.toList) = [] then .ok r.value
      else .error (r.faults (byteLength text.toList)) := by
  simp only [parse, hfile]
  split
  · next h => rw [if_pos h]
  · next h => rw [if_neg h]

theorem parse_eq_of_isLongest {text : String} {b : Beginning text.toList} (hb : b.IsLongest) :
    parse text = if b.faults = [] then .ok b.items else .error b.faults := by
  have hfaults : Reading.faults (byteLength text.toList)
      ⟨b.items, overflowsOf b.segments b.rest, skipTrivia b.rest⟩ = b.faults := by
    have hmap := b.map_fault 0
    rw [Nat.zero_add, Nat.zero_add] at hmap
    rw [Reading.faults, hmap, Beginning.faults]
  rw [parse_eq_of_file hb.file_eq, hfaults]

/-- **The faults of a text are those of its longest beginning.**  There is a longest beginning, and
if the text has no faults, it is read as the declarations of this.  Its whole numerals out of range,
and no others, are the first faults, each one once and in the order of their places; last comes a
syntax error if the text does not match the grammar, and if it does, the longest beginning leaves
nothing behind. -/
theorem parse_faults (text : String) : (∃ b : Beginning text.toList, b.IsLongest) ∧
    ∀ b : Beginning text.toList, b.IsLongest → ∃ faults,
      parse text = (if faults = [] then .ok b.items else .error faults) ∧
      (∀ offset width, .intOutOfRange offset width ∈ faults ↔ b.Overflows offset width) ∧
      faults.Pairwise Fault.Before ∧
      (.syntaxError ∈ faults ↔ ¬ Matches text.toList) ∧
      (Matches text.toList → Trailing b.rest) := by
  refine ⟨exists_isLongest text.toList, fun b hb => ⟨b.faults, parse_eq_of_isLongest hb,
    fun _ _ => Beginning.mem_faults_intOutOfRange, b.pairwise_faults, ?_, hb.trailing_iff.mpr⟩⟩
  rw [Beginning.mem_faults_syntaxError, hb.trailing_iff]

end ToyLang.Source
