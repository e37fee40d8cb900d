import ToyLang.Proofs.Rendering

/-!
# What a rendered file consists of

A program that the check accepts is rendered completely, and the pieces that the file consists of
are known from the nodes that are reached: the blocks that are opened and closed, the literals that
are printed and the functions that are defined.

## Main results

* `rendered_runAll` — rendering is total on accepted programs: it writes finitely much, only finite
  literals, every block that is reached once, and the root block alone without braces.
* `defined_runAll` — no function is defined twice, and the one that the generated entry point calls
  is defined once.
-/

namespace ToyLang

open ToyLang.Graph

namespace Program

variable {p : Program}

/-- What is written for the root is written between what every file begins and ends with. -/
theorem exists_budget_write {ps : List Piece} (hw : Writes p.graph [.node (.block p.root)] ps) :
    ∃ least, ∀ budget ≥ least,
      p.write budget = .ok (Cpp.openingPieces ++ ps ++ Cpp.closingPieces) := by
  obtain ⟨least, hleast⟩ := hw.exists_write
  refine ⟨least, fun budget hbudget => ?_⟩
  rw [Program.write, hleast budget hbudget]
  rfl

/-- Only the root stands without braces. -/
theorem Built.bare_iff (hp : p.Built) {b : BlockRef} {e : Enclosure}
    (he : p.graph.enclosure (p.graph.block b) = .ok e) : e = .bare ↔ b = p.root := by
  rw [hp.enclosure_eq b, Except.ok.injEq] at he
  subst he
  split <;> simp_all

/-- The block that a handle names. -/
def blockAt? : Handle → Option BlockRef
  | .block b => some b
  | _ => none

/-- A selector that takes one piece of each block, and nothing else, takes each block that is
reached once. -/
theorem Built.blocks_once (hp : p.Built) (hsound : p.Sound) {ps : List Piece}
    (hw : Writes p.graph [.node (.block p.root)] ps) (sel : Piece → Option BlockRef)
    (htext : ∀ s, sel (.text s) = none) (hfloat : ∀ x, sel (.float x) = none)
    (hdefined : ∀ n, sel (.defined n) = none)
    (hblock : ∀ b e, [Piece.opened b e, .closed b e].filterMap sel = [b]) :
    (ps.filterMap sel).Nodup ∧
      ∀ b, b ∈ ps.filterMap sel ↔ ∃ path, p.at? path = some (.block b) := by
  have hvalue (h : Handle) : (p.graph.marks h).filterMap sel = (blockAt? h).toList := by
    cases h with
    | block b =>
      rw [marks, hp.enclosure_eq b]
      exact hblock b _
    | expr e =>
      rw [marks]
      split <;> simp [blockAt?, hfloat]
    | function f => simp [marks, blockAt?, hdefined]
    | _ => rfl
  have hat {h : Handle} {b : BlockRef} : blockAt? h = some b ↔ h = .block b := by
    cases h <;> simp [blockAt?]
  obtain ⟨hnodup, hmem⟩ := hw.once_node htext hvalue fun path path' h h' b hpath hpath' hb hb' => by
    rw [hat.mp hb] at hpath
    rw [hat.mp hb'] at hpath'
    exact hsound.onePath hpath hpath'
  refine ⟨hnodup, fun b => (hmem b).trans ?_⟩
  simp only [hat, exists_eq_right]
  rfl

/-- What every file begins and ends with does not count where it has nothing that is selected. -/
theorem filterMap_file {α : Type} (sel : Piece → Option α) (ps : List Piece)
    (hopening : Cpp.openingPieces.filterMap sel = [])
    (hclosing : Cpp.closingPieces.filterMap sel = []) :
    (Cpp.openingPieces ++ ps ++ Cpp.closingPieces).filterMap sel = ps.filterMap sel := by
  rw [List.filterMap_append, List.filterMap_append, hopening, hclosing, List.append_nil,
    List.nil_append]

theorem mem_marks_float {h : Handle} {x : Binary64}
    (hx : x ∈ (p.graph.marks h).filterMap Piece.float?) :
    ∃ e, h = .expr e ∧ p.graph.expr? e = some (.float x) := by
  obtain ⟨a, ha, hx⟩ := List.mem_filterMap.mp hx
  rcases marks_cases ha with ⟨e, y, rfl, he, rfl⟩ | ⟨f, -, rfl⟩ | ⟨b, e, -, -, rfl | rfl⟩
  · obtain rfl := Option.some.inj hx
    exact ⟨e, rfl, he⟩
  all_goals cases hx

/-- Every literal that is written is one of a node that is reached, and so the check has seen it. -/
theorem Sound.finite_of_writes (hsound : p.Sound) {ps : List Piece}
    (hw : Writes p.graph [.node (.block p.root)] ps) {x : Binary64}
    (hx : x ∈ ps.filterMap Piece.float?) : x.isFinite := by
  obtain ⟨path, h, hat, hx⟩ := (hw.mem_node_iff fun _ => rfl).mp hx
  obtain ⟨e, rfl, he⟩ := mem_marks_float hx
  exact hsound.finite hat he

/-- The name of the function that a node is. -/
def nameAt? (p : Program) : Handle → Option String
  | .function f => some (p.graph.function f).name
  | _ => none

theorem nameAt?_eq_some {h : Handle} {n : String} :
    p.nameAt? h = some n ↔ ∃ f, h = .function f ∧ (p.graph.function f).name = n := by
  cases h <;> simp [nameAt?]

/-- The functions that are defined are those that are reached, and no name is defined twice. -/
theorem Built.names_once (hp : p.Built) (hsound : p.Sound) {ps : List Piece}
    (hw : Writes p.graph [.node (.block p.root)] ps) :
    (ps.filterMap Piece.defined?).Nodup ∧
      ∀ n, n ∈ ps.filterMap Piece.defined? ↔ ∃ path, p.DeclaresAt path n := by
  have hvalue (h : Handle) :
      (p.graph.marks h).filterMap Piece.defined? = (p.nameAt? h).toList := by
    cases h with
    | expr e =>
      rw [marks]
      split <;> rfl
    | block b =>
      rw [marks]
      split <;> rfl
    | _ => rfl
  obtain ⟨hnodup, hmem⟩ := hw.once_node (fun _ => rfl) hvalue
    fun path path' h h' n hpath hpath' hn hn' => by
      obtain ⟨f, rfl, rfl⟩ := nameAt?_eq_some.mp hn
      obtain ⟨f', rfl, hname⟩ := nameAt?_eq_some.mp hn'
      exact (hsound.eq_of_name_eq hp.ordered hpath hpath' hname.symm).1
  have himage := (hsound.bijOn_name hp.ordered).image_eq
  rw [Set.ext_iff] at himage
  refine ⟨hnodup, fun n => (hmem n).trans (Iff.trans ?_ (himage n))⟩
  constructor
  · rintro ⟨path, h, hpath, hn⟩
    obtain ⟨f, rfl, hname⟩ := nameAt?_eq_some.mp hn
    exact ⟨f, ⟨path, hpath⟩, hname⟩
  · rintro ⟨f, ⟨path, hpath⟩, hname⟩
    exact ⟨path, _, hpath, nameAt?_eq_some.mpr ⟨f, rfl, hname⟩⟩

/-- No node is written as a call by the generated entry point. -/
theorem started_of_writes {ps : List Piece} (hw : Writes p.graph [.node (.block p.root)] ps) :
    ps.filterMap Piece.started? = [] := by
  refine List.eq_nil_iff_forall_not_mem.mpr fun n hn => ?_
  obtain ⟨path, h, -, hn⟩ := (hw.mem_node_iff fun _ => rfl).mp hn
  obtain ⟨a, ha, hn⟩ := List.mem_filterMap.mp hn
  rcases marks_cases ha with ⟨e, x, -, -, rfl⟩ | ⟨f, -, rfl⟩ | ⟨b, e, -, -, rfl | rfl⟩ <;> cases hn

/-- A name that is declared below the root is none that every file defines. -/
theorem Valid.name_ne (hvalid : p.Valid) (hp : p.Built) {path : List Nat} {n : String}
    (h : p.DeclaresAt path n) : n ≠ "printi" ∧ n ≠ "printd" ∧ n ≠ "main" := by
  refine ⟨(hvalid.free h .printInt).symm, (hvalid.free h .printFloat).symm, ?_⟩
  obtain ⟨s, f, node, -, -, hf, rfl⟩ := h
  exact hp.named hf

/-- Different names stay different beside those that every file defines. -/
theorem nodup_defined {names : List String} (honce : names.Nodup)
    (hne : ∀ n ∈ names, n ≠ "printi" ∧ n ≠ "printd" ∧ n ≠ "main") :
    (["printi", "printd"] ++ names ++ ["main"]).Nodup := by
  have hbuiltins : ["printi", "printd"].Nodup := by decide
  refine List.nodup_append.mpr ⟨List.nodup_append.mpr ⟨hbuiltins, honce, ?_⟩, by simp, ?_⟩
  · rintro b hb n hn rfl
    obtain ⟨hprinti, hprintd, -⟩ := hne b hn
    simp [hprinti, hprintd] at hb
  · rintro n hn b hb rfl
    obtain rfl := List.mem_singleton.mp hb
    rcases List.mem_append.mp hn with hn | hn
    · simp at hn
    · exact (hne _ hn).2.2 rfl

/-- The root is the only block without braces, at both of its ends. -/
theorem Built.bare_iff_of_writes (hp : p.Built) {ps : List Piece}
    (hw : Writes p.graph [.node (.block p.root)] ps) {b : BlockRef} {e : Enclosure}
    (hb : (b, e) ∈ ps.filterMap Piece.enclosed?) : e = .bare ↔ b = p.root := by
  obtain ⟨path, h, -, hb⟩ := (hw.mem_node_iff fun _ => rfl).mp hb
  obtain ⟨a, ha, hb⟩ := List.mem_filterMap.mp hb
  rcases marks_cases ha with ⟨e', x, -, -, rfl⟩ | ⟨f, -, rfl⟩ | ⟨b', e', -, he, rfl | rfl⟩
  · cases hb
  · cases hb
  · cases hb
    exact hp.bare_iff he
  · cases hb
    exact hp.bare_iff he

end Program

open Program

/-- **Rendering is total on accepted programs.**  Whatever steps build a graph, and whichever of its
blocks is the root, if the check accepts the program, then writing it directly comes to an end, with
the text that rendering gives.  No literal among its pieces is infinite or not a number; every block
that is reached is opened once and closed once; and the root block, no other one, stands without
braces. -/
theorem rendered_runAll (steps : List Step) (root : BlockRef)
    (hroot : (Step.runAll steps Graph.empty).has (.block root)) {c : Checked}
    (hcheck : (Program.new (Step.runAll steps Graph.empty) root).check = .ok c) :
    let p := Program.new (Step.runAll steps Graph.empty) root
    ∃ pieces, (∃ least, ∀ budget ≥ least, p.write budget = .ok pieces) ∧
      p.render.result = .ok (piecesText pieces) ∧
      (∀ x, .float x ∈ pieces → x.isFinite) ∧
      (pieces.filterMap Piece.opened?).Nodup ∧
      (∀ b, b ∈ pieces.filterMap Piece.opened? ↔ ∃ path, p.at? path = some (.block b)) ∧
      (pieces.filterMap Piece.closed?).Perm (pieces.filterMap Piece.opened?) ∧
      ∀ b e, .opened b e ∈ pieces ∨ .closed b e ∈ pieces → (e = .bare ↔ b = p.root) := by
  intro p
  have hp : p.Built := built_runAll steps hroot
  have hsound : p.Sound := (hp.valid_of_check hcheck).toSound
  obtain ⟨ps, hw, hrender⟩ := hp.exists_writes hsound hcheck
  have hopened := filterMap_file Piece.opened? ps rfl rfl
  have hclosed := filterMap_file Piece.closed? ps rfl rfl
  obtain ⟨honce, hreached⟩ := hp.blocks_once hsound hw Piece.opened? (fun _ => rfl)
    (fun _ => rfl) (fun _ => rfl) fun _ _ => rfl
  obtain ⟨honce', hreached'⟩ := hp.blocks_once hsound hw Piece.closed? (fun _ => rfl)
    (fun _ => rfl) (fun _ => rfl) fun _ _ => rfl
  refine ⟨_, exists_budget_write hw, hrender, fun x hx => ?_, ?_, ?_, ?_, fun b e hb => ?_⟩
  · have hx : x ∈ ps.filterMap Piece.float? := by
      rw [← filterMap_file Piece.float? ps rfl rfl]
      exact List.mem_filterMap.mpr ⟨_, hx, rfl⟩
    exact hsound.finite_of_writes hw hx
  · rwa [hopened]
  · rwa [hopened]
  · rw [hopened, hclosed, List.perm_ext_iff_of_nodup honce' honce]
    exact fun b => (hreached' b).trans (hreached b).symm
  · have hb : (b, e) ∈ ps.filterMap Piece.enclosed? := by
      rw [← filterMap_file Piece.enclosed? ps rfl rfl]
      rcases hb with hb | hb <;> exact List.mem_filterMap.mpr ⟨_, hb, rfl⟩
    exact hp.bare_iff_of_writes hw hb

/-- A function that returns a sum of one expression with itself, beside a block that nothing else
holds and that holds itself. -/
def cycleElsewhere : List Step :=
  [.block, .block, .block, .int 1, .arith ⟨0⟩ "+" ⟨0⟩, .stmt (.ret ⟨1⟩), .push ⟨1⟩ ⟨0⟩,
    .function "main" [] "int" ⟨1⟩, .stmt (.function ⟨0⟩), .push ⟨0⟩ ⟨1⟩, .stmt (.block ⟨2⟩),
    .push ⟨2⟩ ⟨2⟩]

theorem rendered_runAll_cycleElsewhere :
    let p := Program.new (Step.runAll cycleElsewhere Graph.empty) ⟨0⟩
    (Step.runAll cycleElsewhere Graph.empty).has (.block ⟨0⟩) ∧ (∃ c, p.check = .ok c) ∧
      ∃ pieces, (∃ least, ∀ budget ≥ least, p.write budget = .ok pieces) ∧
        p.render.result = .ok (piecesText pieces) ∧ (pieces.filterMap Piece.opened?).Nodup := by
  intro p
  have hroot : (Step.runAll cycleElsewhere Graph.empty).has (.block ⟨0⟩) := by decide
  obtain ⟨c, hcheck⟩ : ∃ c, p.check = .ok c := ⟨_, rfl⟩
  obtain ⟨pieces, hwrite, hrender, -, hopened, -⟩ := rendered_runAll cycleElsewhere ⟨0⟩ hroot hcheck
  exact ⟨hroot, ⟨c, hcheck⟩, pieces, hwrite, hrender, hopened⟩

/-- **No function is defined twice.**  Whatever steps build a graph, and whichever of its blocks is
the root, if the check accepts the program, then its file defines the builtin functions, one
function for each one that is reached, and the generated entry point, all under different names, and
the function that the generated entry point calls is one of those that are reached. -/
theorem defined_runAll (steps : List Step) (root : BlockRef)
    (hroot : (Step.runAll steps Graph.empty).has (.block root)) {c : Checked}
    (hcheck : (Program.new (Step.runAll steps Graph.empty) root).check = .ok c) :
    let p := Program.new (Step.runAll steps Graph.empty) root
    ∃ pieces names, (∃ least, ∀ budget ≥ least, p.write budget = .ok pieces) ∧
      p.render.result = .ok (piecesText pieces) ∧
      pieces.filterMap Piece.defined? = ["printi", "printd"] ++ names ++ ["main"] ∧
      (["printi", "printd"] ++ names ++ ["main"]).Nodup ∧
      Set.BijOn (fun f => (p.graph.function f).name)
        {f | ∃ path, p.at? path = some (.function f)} {n | n ∈ names} ∧
      pieces.filterMap Piece.started? = ["main__func__"] ∧ names.count "main__func__" = 1 := by
  intro p
  have hp : p.Built := built_runAll steps hroot
  have hvalid : p.Valid := hp.valid_of_check hcheck
  obtain ⟨ps, hw, hrender⟩ := hp.exists_writes hvalid.toSound hcheck
  obtain ⟨honce, hnames⟩ := hp.names_once hvalid.toSound hw
  have hset : {n | ∃ path, p.DeclaresAt path n} = {n | n ∈ ps.filterMap Piece.defined?} :=
    Set.ext fun n => (hnames n).symm
  have hmain : "main__func__" ∈ ps.filterMap Piece.defined? := (hnames _).mpr hvalid.entry
  refine ⟨_, ps.filterMap Piece.defined?, exists_budget_write hw, hrender, ?_, ?_, ?_, ?_, ?_⟩
  · rw [List.filterMap_append, List.filterMap_append]
    rfl
  · refine nodup_defined honce fun n hn => ?_
    obtain ⟨path, hpath⟩ := (hnames n).mp hn
    exact hvalid.name_ne hp hpath
  · rw [← hset]
    exact hvalid.bijOn_name hp.ordered
  · rw [List.filterMap_append, List.filterMap_append, started_of_writes hw]
    rfl
  · exact List.count_eq_one_of_mem honce hmain

/-- Two functions, one of them with a name that only begins like that of the entry point. -/
def twoFunctions : List Step :=
  [.block, .block, .block, .function "main" [] "int" ⟨1⟩, .function "main_" [] "int" ⟨2⟩,
    .stmt (.function ⟨0⟩), .stmt (.function ⟨1⟩), .push ⟨0⟩ ⟨1⟩, .push ⟨0⟩ ⟨0⟩]

theorem defined_runAll_twoFunctions :
    let p := Program.new (Step.runAll twoFunctions Graph.empty) ⟨0⟩
    (Step.runAll twoFunctions Graph.empty).has (.block ⟨0⟩) ∧ (∃ c, p.check = .ok c) ∧
      ∃ pieces names, (∃ least, ∀ budget ≥ least, p.write budget = .ok pieces) ∧
        pieces.filterMap Piece.defined? = ["printi", "printd"] ++ names ++ ["main"] ∧
        (["printi", "printd"] ++ names ++ ["main"]).Nodup ∧ names.count "main__func__" = 1 := by
  intro p
  have hroot : (Step.runAll twoFunctions Graph.empty).has (.block ⟨0⟩) := by decide
  obtain ⟨c, hcheck⟩ : ∃ c, p.check = .ok c := ⟨_, rfl⟩
  obtain ⟨pieces, names, hwrite, -, hdefined, honce, -, -, hmain⟩ :=
    defined_runAll twoFunctions ⟨0⟩ hroot hcheck
  exact ⟨hroot, ⟨c, hcheck⟩, pieces, names, hwrite, hdefined, honce, hmain⟩

end ToyLang
