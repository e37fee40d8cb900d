import ToyLang.Proofs.Prints

/-!
# Which `if` an `else` goes with

In C++ an `else` goes with the nearest `if` before it that has none yet and stands between the same
braces.  A condition may have any statement as its body, and conditions are printed without braces
of their own, so an `else` may be printed for one condition and go with the `if` of another one.

A reader goes through the pieces of a text and keeps a stack of the `if`s that have no `else` yet,
with a mark for every brace that is open; this settles which `if` each `else` goes with.  What is
printed for a node puts some of its own `if`s on the stack and looks at no others.

## Main definitions

* `Sign`, `Graph.sign` — what a piece is to the reader.
* `Sign.after`, `Sign.pairings` — the stack after some signs, and the `if`s that `else`s go with.
* `Graph.Open` — a statement that leaves an `if` without an `else`.
* `Graph.Clear` — no condition with an `else` has such a statement as its body.

## Main results

* `Program.Built.nests` — what is printed for a node leaves an `if` open exactly if the node is
  open, and its `else`s go with their own `if`s exactly if the node is clear.
* `elses_runAll` — **which programs have all their `else`s with the right `if`s.**
-/

namespace ToyLang

open ToyLang.Graph

/-! ### Reading -/

/-- What a piece is to the reader: a brace, the `if` or the `else` of the condition at the end of a
path, or something else. -/
inductive Sign where
  | other
  | opening
  | closing
  | ifWord (path : List Nat)
  | elseWord (path : List Nat)
  deriving DecidableEq

/-- An `else`, printed for the condition at the end of a path, and the condition whose `if` it goes
with. -/
structure Pairing where
  path : List Nat
  partner : Option (List Nat)
  deriving DecidableEq

namespace Graph

/-- Whether a node is a condition. -/
def isCondition (g : Graph) : Handle → Bool
  | .stmt s =>
      match g.stmt? s with
      | some (.cond _ _ _) => true
      | _ => false
  | _ => false

/-- What a printed piece is to the reader.  What stands in a name is no `if` and no `else`. -/
def sign (g : Graph) (w : Print) : Sign :=
  match w.piece with
  | .opened _ (.braces _) => .opening
  | .closed _ (.braces _) => .closing
  | .text s =>
      if !g.isCondition w.node then .other
      else if s = "\nif (" then .ifWord w.path
      else if s = "else" then .elseWord w.path
      else .other
  | _ => .other

/-- What printed pieces are to the reader. -/
def signs (g : Graph) (ws : List Print) : List Sign := ws.map g.sign

end Graph

namespace Sign

/-- A stack of `if`s without `else`, the last one first; a mark stands for an open brace.  An `if`
stays on the stack when its statement is over, but no `else` gets down to it: each has an `if` of
its own above, or one of its body. -/
abbrev Stack := List (Option (List Nat))

/-- The stack as it was before the last open brace. -/
def leave : Stack → Stack
  | [] => []
  | none :: st => st
  | some _ :: st => leave st

/-- The stack after a sign. -/
def step (st : Stack) : Sign → Stack
  | other => st
  | opening => none :: st
  | closing => leave st
  | ifWord path => some path :: st
  | elseWord _ =>
      match st with
      | some _ :: st => st
      | st => st

/-- The stack after some signs. -/
def after (st : Stack) (ss : List Sign) : Stack := ss.foldl step st

/-- The `if`s that the `else`s among some signs go with: for each the last one on the stack, if no
brace stands before it. -/
def pairings (st : Stack) : List Sign → List Pairing
  | [] => []
  | elseWord path :: ss => ⟨path, st.head?.join⟩ :: pairings (step st (elseWord path)) ss
  | s :: ss => pairings (step st s) ss

variable {st : Stack} {ss ss' : List Sign}

theorem after_append : after st (ss ++ ss') = after (after st ss) ss' := List.foldl_append

theorem pairings_append : pairings st (ss ++ ss')
    = pairings st ss ++ pairings (after st ss) ss' := by
  induction ss generalizing st with
  | nil => rfl
  | cons s ss ih =>
    cases s with
    | elseWord path => exact congrArg _ ih
    | _ => exact ih

/-- A block takes back all that was put on the stack in it. -/
theorem leave_append (left : List (List Nat)) : leave (left.map some ++ none :: st) = st := by
  induction left with
  | nil => rfl
  | cons path left ih => exact ih

end Sign

/-- Signs that put some `if`s on the stack and whose `else`s go with these `if`s, whatever stands
below them on the stack. -/
structure Settles (ss : List Sign) (left : List (List Nat)) (pairs : List Pairing) : Prop where
  after_eq : ∀ st, Sign.after st ss = left.map some ++ st
  pairings_eq : ∀ st, Sign.pairings st ss = pairs

namespace Settles

variable {ss ss' : List Sign} {left left' : List (List Nat)} {pairs pairs' : List Pairing}
  {path : List Nat}

theorem nil : Settles [] [] [] := ⟨fun _ => rfl, fun _ => rfl⟩

theorem other : Settles [.other] [] [] := ⟨fun _ => rfl, fun _ => rfl⟩

theorem ifWord : Settles [.ifWord path] [path] [] := ⟨fun _ => rfl, fun _ => rfl⟩

theorem append (h : Settles ss left pairs) (h' : Settles ss' left' pairs') :
    Settles (ss ++ ss') (left' ++ left) (pairs ++ pairs') where
  after_eq := fun st => by
    rw [Sign.after_append, h.after_eq, h'.after_eq, List.map_append, List.append_assoc]
  pairings_eq := fun st => by rw [Sign.pairings_append, h.pairings_eq, h'.pairings_eq]

/-- An `else` goes with the last `if` and takes it off the stack. -/
theorem elseWord {last : List Nat} (h : Settles ss (last :: left) pairs) :
    Settles (ss ++ [.elseWord path]) left (pairs ++ [⟨path, some last⟩]) where
  after_eq := fun st => by
    rw [Sign.after_append, h.after_eq]
    rfl
  pairings_eq := fun st => by
    rw [Sign.pairings_append, h.pairings_eq, h.after_eq]
    rfl

/-- What stands in braces leaves nothing open. -/
theorem braces (h : Settles ss left pairs) :
    Settles (.opening :: ss ++ [.closing]) [] pairs where
  after_eq := fun st => by
    have hinside : Sign.after st (.opening :: ss) = left.map some ++ none :: st :=
      h.after_eq (none :: st)
    rw [Sign.after_append, hinside]
    exact Sign.leave_append left
  pairings_eq := fun st => by
    have hinside : Sign.pairings st (.opening :: ss) = pairs := h.pairings_eq (none :: st)
    rw [Sign.pairings_append, hinside]
    exact List.append_nil pairs

end Settles

/-! ### Open and clear nodes -/

namespace Graph

variable {g : Graph} {h k : Handle}

/-- A statement is open if it is a condition without `else`, or a condition with one whose body or
whose other branch is open: then some `if` in it has no `else`. -/
inductive Open (g : Graph) : Handle → Prop
  | ifThen {s test body} (hs : g.stmt? s = some (.cond test body none)) : Open g (.stmt s)
  | body {s test body otherwise} (hs : g.stmt? s = some (.cond test body (some otherwise)))
      (hbody : Open g (.stmt body)) : Open g (.stmt s)
  | otherwise {s test body otherwise} (hs : g.stmt? s = some (.cond test body (some otherwise)))
      (hotherwise : Open g (.stmt otherwise)) : Open g (.stmt s)

/-- No condition with an `else` at a node or below it has an open body. -/
def Clear (g : Graph) (h : Handle) : Prop :=
  ∀ path s test body otherwise, g.follow h path = some (.stmt s) →
    g.stmt? s = some (.cond test body (some otherwise)) → ¬ g.Open (.stmt body)

theorem Open.isCondition (ho : g.Open h) : g.isCondition h = true := by
  cases ho with
  | ifThen hs | body hs | otherwise hs => simp [Graph.isCondition, hs]

theorem open_iff_of_cond {s : StmtRef} {test : ExprRef} {body otherwise : StmtRef}
    (hs : g.stmt? s = some (.cond test body (some otherwise))) :
    g.Open (.stmt s) ↔ g.Open (.stmt body) ∨ g.Open (.stmt otherwise) := by
  constructor
  · intro ho
    cases ho with
    | ifThen hs' =>
      rw [hs] at hs'
      cases hs'
    | body hs' hbody =>
      rw [hs] at hs'
      cases hs'
      exact .inl hbody
    | otherwise hs' hotherwise =>
      rw [hs] at hs'
      cases hs'
      exact .inr hotherwise
  · rintro (hbody | hotherwise)
    · exact .body hs hbody
    · exact .otherwise hs hotherwise

/-- A node that is no condition with an `else` is clear if what it holds is. -/
theorem clear_iff_of_not_else
    (hh : ∀ s test body otherwise, h = .stmt s →
      g.stmt? s ≠ some (.cond test body (some otherwise))) :
    g.Clear h ↔ ∀ k ∈ g.children h, g.Clear k :=
  eachElse_iff_of_not_else hh

theorem clear_iff_of_ifThen {s : StmtRef} {test : ExprRef} {body : StmtRef}
    (hs : g.stmt? s = some (.cond test body none)) :
    g.Clear (.stmt s) ↔ g.Clear (.expr test) ∧ g.Clear (.stmt body) := by
  have hchildren : g.children (.stmt s) = [.expr test, .stmt body] := children_stmt hs
  rw [clear_iff_of_not_else (fun s' test' body' otherwise hs' hnode => ?_), hchildren]
  · simp
  · cases hs'
    cases hs.symm.trans hnode

theorem clear_iff_of_ifElse {s : StmtRef} {test : ExprRef} {body otherwise : StmtRef}
    (hs : g.stmt? s = some (.cond test body (some otherwise))) :
    g.Clear (.stmt s) ↔ ¬ g.Open (.stmt body) ∧
      (g.Clear (.expr test) ∧ g.Clear (.stmt body)) ∧ g.Clear (.stmt otherwise) :=
  eachElse_iff_of_ifElse hs

/-! ### Pieces that mean nothing to the reader -/

/-- A piece that is no brace, of a node that is no condition, is no word of a condition either. -/
theorem sign_eq_other {path : List Nat} {q : Piece} (hh : g.isCondition h = false)
    (hq : ∀ b owner, q ≠ .opened b (.braces owner) ∧ q ≠ .closed b (.braces owner)) :
    g.sign ⟨path, h, q⟩ = .other := by
  cases q with
  | text s => simp [sign, hh]
  | opened b e =>
    cases e with
    | bare => rfl
    | braces owner => exact absurd rfl (hq b owner).1
  | closed b e =>
    cases e with
    | bare => rfl
    | braces owner => exact absurd rfl (hq b owner).2
  | _ => rfl

/-- Only blocks have braces. -/
theorem ne_brace_of_mem_own {parts : List Part} (htemplate : g.template h = .ok parts)
    (hh : ∀ b, h ≠ .block b) {q : Piece} (hq : q ∈ own parts) (b : BlockRef)
    (owner : Option String) : q ≠ .opened b (.braces owner) ∧ q ≠ .closed b (.braces owner) := by
  have hnone : q.enclosed? = none := by
    have hmarks : (g.marks h).filterMap Piece.enclosed? = [] := by
      refine List.filterMap_eq_nil_iff.mpr fun a ha => ?_
      obtain ⟨e, x, rfl, -, rfl⟩ | ⟨f, rfl, rfl⟩ | ⟨b, e, rfl, -⟩ := marks_cases ha
      · rfl
      · rfl
      · exact absurd rfl (hh b)
    rw [← selected_template (fun _ => rfl) htemplate] at hmarks
    exact List.filterMap_eq_nil_iff.mp hmarks q hq
  constructor <;>
  · rintro rfl
    cases hnone

end Graph

/-! ### What is printed for a node -/

/-- Every `else` goes with the `if` of its own condition. -/
def AllOwn (pairs : List Pairing) : Prop := ∀ e ∈ pairs, e.partner = some e.path

theorem allOwn_nil : AllOwn [] := fun _ he => absurd he List.not_mem_nil

theorem allOwn_append {pairs pairs' : List Pairing} :
    AllOwn (pairs ++ pairs') ↔ AllOwn pairs ∧ AllOwn pairs' := List.forall_mem_append

/-- What is printed for the node at the end of a path leaves `if`s on the stack exactly if the node
is open, and only those of conditions at the node or below it; its `else`s go with their own `if`s
exactly if it is clear. -/
def Graph.Nests (g : Graph) (path : List Nat) (h : Handle) (ws : List Print) : Prop :=
  ∃ left pairs, Settles (g.signs ws) left pairs ∧ (∀ a ∈ left, path <+: a) ∧
    (left = [] ↔ ¬ g.Open h) ∧ (AllOwn pairs ↔ g.Clear h)

section

variable {g : Graph} {path : List Nat} {h : Handle} {i : Nat} {parts : List Part} {ws : List Print}

/-- Among pieces that mean nothing to the reader, the nodes are read one after the other. -/
theorem Spread.exists_settles (hspread : Spread g.Nests path h i parts ws)
    (hplain : ∀ q ∈ own parts, g.sign ⟨path, h, q⟩ = .other) :
    ∃ left pairs, Settles (g.signs ws) left pairs ∧
      ((∀ k ∈ held parts, ¬ g.Open k) → left = []) ∧
      (AllOwn pairs ↔ ∀ k ∈ held parts, g.Clear k) := by
  induction hspread with
  | nil => exact ⟨[], [], .nil, fun _ => rfl, by simp [allOwn_nil]⟩
  | @piece i q parts ws hrest ih =>
    obtain ⟨left, pairs, hsettles, hleft, hown⟩ := ih fun q' hq' => hplain q' (.tail _ hq')
    refine ⟨left, pairs, ?_, hleft, hown⟩
    have hsigns : g.signs (⟨path, h, q⟩ :: ws) = [.other] ++ g.signs ws := by
      rw [signs, List.map_cons, hplain q (.head _)]
      rfl
    rw [hsigns]
    simpa using Settles.other.append hsettles
  | @node i k first parts rest hfirst hrest ih =>
    obtain ⟨left, pairs, hsettles, -, hopen, hclear⟩ := hfirst
    obtain ⟨left', pairs', hsettles', hleft', hown'⟩ := ih hplain
    refine ⟨left' ++ left, pairs ++ pairs', ?_, fun hnone => ?_, ?_⟩
    · rw [signs, List.map_append]
      exact hsettles.append hsettles'
    · rw [held_node, List.forall_mem_cons] at hnone
      rw [hleft' hnone.2, hopen.mpr hnone.1, List.append_nil]
    · rw [held_node, List.forall_mem_cons, allOwn_append, hclear, hown']

/-- Only conditions and blocks hold statements. -/
theorem Graph.not_open_child (hcond : g.isCondition h = false) (hblock : ∀ b, h ≠ .block b)
    {k : Handle} (hk : k ∈ g.children h) : ¬ g.Open k := by
  have hkind : ∀ s, k ≠ .stmt s := by
    rintro s rfl
    cases h with
    | expr e => cases he : g.expr? e <;> simp [children, he] at hk
    | stmt r =>
      cases hr : g.stmt? r with
      | none => simp [children, hr] at hk
      | some node =>
        cases node <;> simp [children, isCondition, hr, StmtNode.references] at hk hcond
    | block b => exact hblock b rfl
    | var v => cases hv : g.var? v <;> simp [children, hv] at hk
    | function f => cases hf : g.function? f <;> simp [children, hf] at hk
  intro ho
  cases ho <;> exact hkind _ rfl

/-- A node that is neither a condition nor a block. -/
theorem Graph.nests_plain (hcond : g.isCondition h = false) (hblock : ∀ b, h ≠ .block b)
    (htemplate : g.template h = .ok parts) (hspread : Spread g.Nests path h 0 parts ws) :
    g.Nests path h ws := by
  obtain ⟨left, pairs, hsettles, hleft, hown⟩ := hspread.exists_settles fun q hq =>
    sign_eq_other hcond fun b owner => ne_brace_of_mem_own htemplate hblock hq b owner
  rw [held_template htemplate] at hleft hown
  obtain rfl := hleft fun k hk => not_open_child hcond hblock hk
  have hnot : ¬ g.Open h := fun ho => by
    rw [ho.isCondition] at hcond
    cases hcond
  refine ⟨[], pairs, hsettles, by simp, by simp [hnot], hown.trans ?_⟩
  refine (clear_iff_of_not_else fun s test body otherwise hs hnode => ?_).symm
  simp [isCondition, hs, hnode] at hcond

/-- A block in braces. -/
theorem Graph.nests_block {b : BlockRef} {node : BlockNode} {owner : Option String}
    (hnode : g.block? b = some node)
    (hspread : Spread g.Nests path (.block b) 0 (node.template b (.braces owner)) ws) :
    g.Nests path (.block b) ws := by
  rw [BlockNode.template, List.cons_append, spread_piece_iff] at hspread
  obtain ⟨ws, hspread, rfl⟩ := hspread
  obtain ⟨j, inside, last, hinside, hlast, rfl⟩ := hspread.exists_append
  obtain ⟨rest, hrest, rfl⟩ := spread_piece_iff.mp hlast
  obtain rfl := spread_nil_iff.mp hrest
  obtain ⟨left, pairs, hsettles, -, hown⟩ := hinside.exists_settles fun q hq => by
    simp [own, Part.piece?] at hq
  have hnot : ¬ g.Open (.block b) := fun ho => by cases ho
  refine ⟨[], pairs, ?_, by simp, by simp [hnot], ?_⟩
  · rw [signs, List.map_cons, List.map_append]
    exact hsettles.braces
  · have hchildren : held (node.stmts.map fun s => .node (.stmt s)) = g.children (.block b) := by
      simp [held_stmts, children, hnode]
    rw [hown, hchildren]
    exact (clear_iff_of_not_else fun s test body otherwise hs => by cases hs).symm

/-- The `if` of a condition lies below what the body leaves on the stack. -/
theorem Graph.exists_settles_head {s body : StmtRef} {test : ExprRef} {first second : List Print}
    (hcond : g.isCondition (.stmt s) = true) (htest : g.Nests (path ++ [0]) (.expr test) first)
    (hbody : g.Nests (path ++ [1]) (.stmt body) second) :
    ∃ left pairs, Settles (g.signs (⟨path, .stmt s, .text "\nif ("⟩ ::
        (first ++ ⟨path, .stmt s, .text ")"⟩ :: second))) (left ++ [path]) pairs ∧
      (∀ a ∈ left, path ++ [1] <+: a) ∧ (left = [] ↔ ¬ g.Open (.stmt body)) ∧
      (AllOwn pairs ↔ g.Clear (.expr test) ∧ g.Clear (.stmt body)) := by
  obtain ⟨left₁, pairs₁, hsettles₁, -, hopen₁, hclear₁⟩ := htest
  obtain ⟨left₂, pairs₂, hsettles₂, hbelow₂, hopen₂, hclear₂⟩ := hbody
  obtain rfl := hopen₁.mpr fun ho => by cases ho
  refine ⟨left₂, pairs₁ ++ pairs₂, ?_, hbelow₂, hopen₂, ?_⟩
  · have hif : g.sign ⟨path, .stmt s, .text "\nif ("⟩ = .ifWord path := by simp [sign, hcond]
    have hbracket : g.sign ⟨path, .stmt s, .text ")"⟩ = .other := by simp [sign, hcond]
    have hword : Settles [.ifWord path] [path] [] := .ifWord
    have hall := hword.append (hsettles₁.append (Settles.other.append hsettles₂))
    simpa [signs, hif, hbracket] using hall
  · rw [allOwn_append, hclear₁, hclear₂]

/-- A condition without `else` leaves its own `if` on the stack. -/
theorem Graph.nests_ifThen {s body : StmtRef} {test : ExprRef}
    (hs : g.stmt? s = some (.cond test body none))
    (hspread : Spread g.Nests path (.stmt s) 0 (StmtNode.cond test body none).template ws) :
    g.Nests path (.stmt s) ws := by
  have ho : g.Open (.stmt s) := .ifThen hs
  simp only [StmtNode.template, spread_piece_iff, spread_node_iff, spread_nil_iff] at hspread
  obtain ⟨_, ⟨first, _, htest, ⟨_, ⟨second, _, hbody, rfl, rfl⟩, rfl⟩, rfl⟩, rfl⟩ := hspread
  obtain ⟨left, pairs, hsettles, hbelow, -, hown⟩ := exists_settles_head ho.isCondition htest hbody
  refine ⟨left ++ [path], pairs, ?_, ?_, by simp [ho], ?_⟩
  · rwa [List.append_nil]
  · intro a ha
    rcases List.mem_append.mp ha with ha | ha
    · exact (List.prefix_append _ _).trans (hbelow a ha)
    · rw [List.mem_singleton.mp ha]
  · rw [hown, clear_iff_of_ifThen hs]

/-- A condition with an `else`.  What its body leaves on the stack lies above its own `if`, so the
`else` goes with this `if` exactly if the body leaves nothing. -/
theorem Graph.nests_ifElse {s body otherwise : StmtRef} {test : ExprRef}
    (hs : g.stmt? s = some (.cond test body (some otherwise)))
    (hspread : Spread g.Nests path (.stmt s) 0
      (StmtNode.cond test body (some otherwise)).template ws) :
    g.Nests path (.stmt s) ws := by
  have hcond : g.isCondition (.stmt s) = true := by simp [isCondition, hs]
  simp only [StmtNode.template, spread_piece_iff, spread_node_iff, spread_nil_iff] at hspread
  obtain ⟨_, ⟨first, _, htest, ⟨_, ⟨second, _, hbody, ⟨_, ⟨third, _, hotherwise, rfl, rfl⟩, rfl⟩,
    rfl⟩, rfl⟩, rfl⟩, rfl⟩ := hspread
  obtain ⟨left, pairs, hsettles, hbelow, hopen, hown⟩ := exists_settles_head hcond htest hbody
  obtain ⟨left', pairs', hsettles', hbelow', hopen', hown'⟩ := hotherwise
  have helse : g.sign ⟨path, .stmt s, .text "else"⟩ = .elseWord path := by simp [sign, hcond]
  have hsigns : g.signs (⟨path, .stmt s, .text "\nif ("⟩ :: (first ++ ⟨path, .stmt s, .text ")"⟩ ::
      (second ++ ⟨path, .stmt s, .text "else"⟩ :: (third ++ []))))
      = g.signs (⟨path, .stmt s, .text "\nif ("⟩ :: (first ++ ⟨path, .stmt s, .text ")"⟩ :: second))
        ++ [.elseWord path] ++ g.signs third := by
    simp [signs, helse]
  have hprefix {i : Nat} {a : List Nat} (ha : path ++ [i] <+: a) : path <+: a :=
    (List.prefix_append path [i]).trans ha
  rw [Nests, hsigns, open_iff_of_cond hs, clear_iff_of_ifElse hs]
  cases left with
  | nil =>
    have hnot : ¬ g.Open (.stmt body) := hopen.mp rfl
    refine ⟨_, _, hsettles.elseWord.append hsettles', fun a ha => ?_, ?_, ?_⟩
    · rw [List.append_nil] at ha
      exact hprefix (hbelow' a ha)
    · rw [List.append_nil, hopen', or_iff_right hnot]
    · have hself : AllOwn [⟨path, some path⟩] := by simp [AllOwn]
      rw [allOwn_append, allOwn_append, hown, hown', and_iff_left hself, and_iff_right hnot]
  | cons last left =>
    have ho : g.Open (.stmt body) := by
      by_contra hnot
      cases hopen.mpr hnot
    refine ⟨_, _, hsettles.elseWord.append hsettles', fun a ha => ?_, by simp [ho], ?_⟩
    · rcases List.mem_append.mp ha with ha | ha
      · exact hprefix (hbelow' a ha)
      · rcases List.mem_append.mp ha with ha | ha
        · exact hprefix (hbelow a (.tail _ ha))
        · rw [List.mem_singleton.mp ha]
    · have hother : ¬ AllOwn [⟨path, some last⟩] := by
        intro hall
        have hlast : last = path := Option.some.inj (hall _ (.head _))
        have hlonger := (hbelow last (.head _)).length_le
        rw [hlast, List.length_append, List.length_singleton] at hlonger
        omega
      rw [allOwn_append, allOwn_append]
      simp [hother, ho]

end

/-! ### Programs -/

open Program

section

variable {p : Program} (hp : p.Built) (hsound : p.Sound) {path : List Nat} {h : Handle}
  {parts : List Part} {ws : List Print}

include hp hsound

/-- What is printed for a node below the root, given the nodes in it. -/
theorem Program.Built.nests (hpath : p.at? path = some h) (hbelow : path ≠ [])
    (htemplate : p.graph.template h = .ok parts)
    (hspread : Spread p.graph.Nests path h 0 parts ws) : p.graph.Nests path h ws := by
  cases hcond : p.graph.isCondition h with
  | true =>
    cases h with
    | stmt s =>
      obtain ⟨node, hs, rfl⟩ := template_stmt_iff.mp htemplate
      cases node with
      | cond test body otherwise =>
        cases otherwise with
        | none => exact nests_ifThen hs hspread
        | some otherwise => exact nests_ifElse hs hspread
      | _ => simp [isCondition, hs] at hcond
    | _ => cases hcond
  | false =>
    by_cases hblock : ∃ b, h = .block b
    · obtain ⟨b, rfl⟩ := hblock
      obtain ⟨node, hb, rfl⟩ := hp.of_template_block htemplate
      -- Only the mark of the root leaves braces out, and the root is not below itself.
      have hroot : b ≠ p.root := by
        rintro rfl
        exact hbelow (hsound.onePath hpath rfl)
      rw [if_neg hroot] at hspread
      exact nests_block hb hspread
    · exact nests_plain hcond (fun b hb => hblock ⟨b, hb⟩) htemplate hspread

/-- The `else`s of a program all go with their own `if`s exactly if the program is clear. -/
theorem Program.Built.allOwn_iff (hprinted : p.Printed ws) :
    AllOwn (Sign.pairings [] (p.graph.signs ws)) ↔ p.graph.Clear (.block p.root) := by
  obtain ⟨parts, htemplate, hprints⟩ := hprinted
  have hspread : Spread p.graph.Nests [] (.block p.root) 0 parts ws :=
    hprints.spread (fun _ _ _ _ => hp.nests hsound) rfl (held_template htemplate).symm
  obtain ⟨node, hb, rfl⟩ := hp.of_template_block htemplate
  rw [if_pos rfl] at hspread htemplate
  obtain ⟨left, pairs, hsettles, -, hown⟩ := hspread.exists_settles fun q hq => by
    have hq : q = .opened p.root .bare ∨ q = .closed p.root .bare := by
      simpa [BlockNode.template, own, Part.piece?] using hq
    rcases hq with rfl | rfl <;> rfl
  rw [hsettles.pairings_eq, hown, held_template htemplate]
  exact (clear_iff_of_not_else fun s test body otherwise hs => by cases hs).symm

end

/-- **Which `if` each `else` goes with.**  Whatever steps build a graph, and whichever of its blocks
is the root, if the check accepts the program, then each piece of its text is printed for the node
at the end of a path.  By the rule that an `else` goes with the nearest `if` between the same braces
that has none, all `else`s go with the `if`s of the conditions that they are printed for if and only
if no condition with an `else` has a body that leaves an `if` open. -/
theorem elses_runAll (steps : List Step) (root : BlockRef)
    (hroot : (Step.runAll steps Graph.empty).has (.block root)) {c : Checked}
    (hcheck : (Program.new (Step.runAll steps Graph.empty) root).check = .ok c) :
    let p := Program.new (Step.runAll steps Graph.empty) root
    ∃ ws, p.Printed ws ∧
      p.render.result = .ok (piecesText (Cpp.openingPieces ++ ws.map Print.piece
        ++ Cpp.closingPieces)) ∧
      (∀ w ∈ ws, p.at? w.path = some w.node) ∧
      ((∀ e ∈ Sign.pairings [] (p.graph.signs ws), e.partner = some e.path) ↔
        ∀ path s test body otherwise, p.at? path = some (.stmt s) →
          p.graph.stmt? s = some (.cond test body (some otherwise)) →
          ¬ p.graph.Open (.stmt body)) := by
  intro p
  have hp : p.Built := built_runAll steps hroot
  have hsound := (hp.valid_of_check hcheck).toSound
  obtain ⟨ps, hw, hrender⟩ := hp.exists_writes hsound hcheck
  cases hw with
  | @node _ inner first _ rest htemplate hinner hrest =>
    cases hrest
    obtain ⟨ws, hprints, rfl⟩ := hinner.exists_prints [] (.block p.root) 0
    rw [List.append_nil] at hrender
    have hprinted : p.Printed ws := ⟨inner, htemplate, hprints⟩
    exact ⟨ws, hprinted, hrender, hprints.at?_eq rfl (held_template htemplate).symm,
      hp.allOwn_iff hsound hprinted⟩

/-- A function with a condition that has an `else` and whose body is a condition without one. -/
def danglingElse : List Step :=
  [.block, .block, .block, .block, .bool true, .bool false, .stmt (.block ⟨2⟩),
    .stmt (.cond ⟨1⟩ ⟨0⟩ none), .stmt (.block ⟨3⟩), .stmt (.cond ⟨0⟩ ⟨1⟩ (some ⟨2⟩)),
    .push ⟨1⟩ ⟨3⟩, .function "main" [] "int" ⟨1⟩, .stmt (.function ⟨0⟩), .push ⟨0⟩ ⟨4⟩]

/-- The `else` of the outer condition goes with the `if` of the inner one. -/
theorem elses_runAll_danglingElse :
    let p := Program.new (Step.runAll danglingElse Graph.empty) ⟨0⟩
    (Step.runAll danglingElse Graph.empty).has (.block ⟨0⟩) ∧ (∃ c, p.check = .ok c) ∧
      ∃ ws, p.Printed ws ∧
        ∃ e ∈ Sign.pairings [] (p.graph.signs ws), e.partner ≠ some e.path := by
  intro p
  have hroot : (Step.runAll danglingElse Graph.empty).has (.block ⟨0⟩) := by decide
  obtain ⟨c, hcheck⟩ : ∃ c, p.check = .ok c := ⟨_, rfl⟩
  obtain ⟨ws, hprinted, -, -, hiff⟩ := elses_runAll danglingElse ⟨0⟩ hroot hcheck
  refine ⟨hroot, ⟨c, hcheck⟩, ws, hprinted, ?_⟩
  by_contra hnone
  have hall : ∀ e ∈ Sign.pairings [] (p.graph.signs ws), e.partner = some e.path := by
    intro e he
    by_contra hother
    exact hnone ⟨e, he, hother⟩
  have hpath : p.at? [0, 0, 0, 0] = some (.stmt ⟨3⟩) := rfl
  exact hiff.mp hall [0, 0, 0, 0] ⟨3⟩ ⟨0⟩ ⟨1⟩ ⟨2⟩ hpath rfl (.ifThen rfl)

end ToyLang
