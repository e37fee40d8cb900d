import Mathlib.Data.Set.Card
import ToyLang.Compilation
import ToyLang.Proofs.Visiting

/-!
# What the check decides

A program is valid if every block occurs at one place only, functions are declared at the top level
and under names that are free, one of them is the entry point, variables have initial values and
literals are finite.  An occurrence is a path from the root block: a graph may hold a node many
times over, and may have cycles.

## Main definitions

* `Program.Sound`, `Program.Valid` — the conditions without and with the entry point.
* `Program.Explains` — the paths that an error speaks of.

## Main results

* `check_runAll` — on a graph that is built step by step, the check accepts the valid programs, each
  of its errors is explained by the paths that it speaks of, and it counts functions and blocks.
-/

namespace ToyLang

open ToyLang.Graph

namespace Program

/-- A path leads to a statement that declares a function with this name. -/
def DeclaresAt (p : Program) (path : List Nat) (n : String) : Prop :=
  ∃ s f node, p.at? path = some (.stmt s) ∧ p.graph.stmt? s = some (.function f) ∧
    p.graph.function? f = some node ∧ node.name = n

/-- What a valid program fulfils apart from the entry point. -/
structure Sound (p : Program) : Prop where
  /-- Every block, the root as well, occurs along one path only. -/
  onePath : ∀ {b path path'}, p.at? path = some (.block b) → p.at? path' = some (.block b) →
    path = path'
  /-- Functions are declared directly in the root block. -/
  topLevel : ∀ {path n}, p.DeclaresAt path n → ∃ i, path = [i]
  /-- No two occurrences of declarations have the same name. -/
  distinct : ∀ {path path' n}, p.DeclaresAt path n → p.DeclaresAt path' n → path = path'
  /-- No function has the name of a builtin function. -/
  free : ∀ {path n}, p.DeclaresAt path n → ∀ b : Cpp.Builtin, b.name ≠ n
  /-- Variables have initial values. -/
  initialised : ∀ {path v node}, p.at? path = some (.var v) → p.graph.var? v = some node →
    node.init ≠ none
  /-- Floating-point literals are finite. -/
  finite : ∀ {path e x}, p.at? path = some (.expr e) → p.graph.expr? e = some (.float x) →
    x.isFinite

/-- What the check accepts. -/
structure Valid (p : Program) : Prop extends Sound p where
  /-- There is an entry point. -/
  entry : ∃ path, p.DeclaresAt path "main__func__"

/-- An error speaks of paths that there are. -/
inductive Explains (p : Program) : Error → Prop
  | sharedBlock {b path path'} (hpath : p.at? path = some (.block b))
      (hpath' : p.at? path' = some (.block b)) (hne : path ≠ path') :
      Explains p (.sharedBlock b.index)
  | nestedFunction {path n} (hpath : p.DeclaresAt path n) (hnested : ∀ i, path ≠ [i]) :
      Explains p (.nestedFunction n)
  | missingInitializer {path v node} (hpath : p.at? path = some (.var v))
      (hnode : p.graph.var? v = some node) (hinit : node.init = none) :
      Explains p (.missingInitializer node.name)
  | nonFiniteFloat {path e x} (hpath : p.at? path = some (.expr e))
      (hnode : p.graph.expr? e = some (.float x)) (hfinite : ¬ x.isFinite) :
      Explains p (.nonFiniteFloat x.text)
  | builtinName {path} {b : Cpp.Builtin} (hpath : p.DeclaresAt path b.name) :
      Explains p (.duplicateFunction b.name)
  | sameName {path path' n} (hpath : p.DeclaresAt path n) (hpath' : p.DeclaresAt path' n)
      (hne : path ≠ path') : Explains p (.duplicateFunction n)
  | noEntry (hsound : p.Sound) (hentry : ∀ path, ¬ p.DeclaresAt path "main__func__") :
      Explains p (.missingEntryPoint "main")

/-- A valid program gives no error an explanation. -/
theorem Valid.not_explains {p : Program} (hp : p.Valid) {e : Error} : ¬ p.Explains e := by
  rintro (⟨hpath, hpath', hne⟩ | ⟨hpath, hnested⟩ | ⟨hpath, hnode, hinit⟩ |
    ⟨hpath, hnode, hfinite⟩ | ⟨hpath⟩ | ⟨hpath, hpath', hne⟩ | ⟨hsound, hentry⟩)
  · exact hne (hp.onePath hpath hpath')
  · obtain ⟨i, hi⟩ := hp.topLevel hpath
    exact hnested i hi
  · exact hp.initialised hpath hnode hinit
  · exact hfinite (hp.finite hpath hnode)
  · exact hp.free hpath _ rfl
  · exact hne (hp.distinct hpath hpath')
  · obtain ⟨path, hpath⟩ := hp.entry
    exact hentry path hpath

end Program

/-! ### Faults and claims in terms of nodes -/

namespace Graph

variable {g : Graph}

/-- Only a statement holds a function, and this statement declares it. -/
theorem exists_stmt_of_function_mem {h : Handle} {f : FunctionRef}
    (hf : .function f ∈ g.children h) : ∃ s, h = .stmt s ∧ g.stmt? s = some (.function f) := by
  cases h with
  | stmt s =>
    refine ⟨s, rfl, ?_⟩
    rw [children] at hf
    cases hnode : g.stmt? s with
    | none =>
      rw [hnode] at hf
      cases hf
    | some node =>
      rw [hnode] at hf
      cases node with
      | cond test body otherwise =>
        cases otherwise <;> simp [StmtNode.references] at hf
      | _ => simp_all [StmtNode.references]
  | expr e =>
    rw [children] at hf
    cases hnode : g.expr? e <;> simp [hnode] at hf
  | block b => simp [children_block] at hf
  | var v => simp [children_var] at hf
  | function f' =>
    rw [children] at hf
    cases hnode : g.function? f' <;> simp [hnode] at hf

/-- In an ordered graph every path leads to a node that exists. -/
theorem Ordered.has_of_follow (hg : g.Ordered) {path : List Nat} {h k : Handle} (hh : g.has h)
    (hpath : g.follow h path = some k) : g.has k := by
  induction path generalizing h with
  | nil =>
    cases hpath
    exact hh
  | cons i path ih =>
    obtain ⟨m, hm, hpath⟩ := follow_cons.mp hpath
    exact ih (hg.has_of_mem (List.mem_of_getElem? hm)) hpath

/-- A statement that claims a name is out of place below the top level, and at the top level the
name may be one of a builtin function. -/
theorem fault?_of_claim {level : Nat} {h : Handle} {n : String}
    (hclaim : g.claim? h = some (.name n)) : g.fault? level h =
      if level = 1 then if Cpp.isBuiltinName n then some (.duplicateFunction n) else none
      else some (.nestedFunction n) := by
  cases h with
  | stmt s =>
    rw [claim?] at hclaim
    split at hclaim
    · next f hs =>
      cases hclaim
      simp only [fault?, hs]
    · cases hclaim
  | _ => cases hclaim

/-- The faults that there can be at a node. -/
theorem fault?_cases {level : Nat} {h : Handle} {err : Error}
    (hfault : g.fault? level h = some err) :
    (∃ e x, h = .expr e ∧ g.expr? e = some (.float x) ∧ ¬ x.isFinite ∧
      err = .nonFiniteFloat x.text) ∨
    (∃ v, h = .var v ∧ (g.var v).init = none ∧ err = .missingInitializer (g.var v).name) ∨
    ∃ n, g.claim? h = some (.name n) ∧
      (level ≠ 1 ∧ err = .nestedFunction n ∨
        level = 1 ∧ Cpp.isBuiltinName n ∧ err = .duplicateFunction n) := by
  cases h with
  | expr e =>
    refine .inl ⟨e, ?_⟩
    rw [fault?] at hfault
    split at hfault
    · next x hx =>
      split at hfault
      · cases hfault
      · next hfinite =>
        cases hfault
        exact ⟨x, rfl, hx, hfinite, rfl⟩
    · cases hfault
  | var v =>
    refine .inr (.inl ⟨v, rfl, ?_⟩)
    rw [fault?] at hfault
    split at hfault
    · next hinit =>
      cases hfault
      exact ⟨hinit, rfl⟩
    · cases hfault
  | stmt s =>
    refine .inr (.inr ?_)
    cases hclaim : g.claim? (.stmt s) with
    | none =>
      rw [claim?] at hclaim
      rw [fault?] at hfault
      split at hclaim <;> simp_all
    | some c =>
      cases c with
      | block b => exact absurd (claim?_eq_block hclaim) (by simp)
      | name n =>
        rw [fault?_of_claim hclaim] at hfault
        refine ⟨n, rfl, ?_⟩
        split at hfault
        · next hlevel =>
          split at hfault
          · next hbuiltin =>
            cases hfault
            exact .inr ⟨hlevel, hbuiltin, rfl⟩
          · cases hfault
        · next hlevel =>
          cases hfault
          exact .inl ⟨hlevel, rfl⟩
  | block b => cases hfault
  | function f => cases hfault

end Graph

namespace Program

variable {p : Program}

theorem among_root_iff {path : List Nat} {h : Handle} :
    p.graph.among [.block p.root] path = some h
      ↔ ∃ path', path = 0 :: path' ∧ p.at? path' = some h := by
  rcases path with _ | ⟨_ | i, path⟩
  · simp [among]
  · simp [at?]
  · simp

variable (hg : p.graph.Ordered)

include hg

/-- A function is declared where its name is claimed. -/
theorem declaresAt_iff {path : List Nat} {n : String} :
    p.DeclaresAt path n ↔ ∃ h, p.at? path = some h ∧ p.graph.claim? h = some (.name n) := by
  constructor
  · rintro ⟨s, f, node, hpath, hs, hnode, rfl⟩
    refine ⟨_, hpath, ?_⟩
    simp only [claim?, hs, Graph.function, hnode, Option.getD_some]
  · rintro ⟨h, hpath, hclaim⟩
    cases h with
    | stmt s =>
      rw [claim?] at hclaim
      split at hclaim
      · next f hs =>
        cases hclaim
        have hf : p.graph.has (.function f) := hg.has_of_mem_references hs (.head _)
        exact ⟨s, f, _, hpath, hs, function?_eq hf, rfl⟩
      · cases hclaim
    | _ => cases hclaim

/-- What the walk says about a program when it comes to its end. -/
theorem sound_of_passes {v : Visited} (hpasses : Passes p.graph 0 [.block p.root] {} v) :
    p.Sound where
  onePath := fun {b path path'} hpath hpath' => by
    have hsame := hpasses.once (among_root_iff.mpr ⟨path, rfl, hpath⟩)
      (among_root_iff.mpr ⟨path', rfl, hpath'⟩) (c := .block b) rfl rfl
    exact (List.cons.inj hsame).2
  topLevel := fun {path n} hpath => by
    obtain ⟨h, hpath, hclaim⟩ := (declaresAt_iff hg).mp hpath
    have hfine := hpasses.fine (i := 0) hpath
    rw [fault?_of_claim hclaim] at hfine
    split at hfine
    · next hlevel => exact List.length_eq_one_iff.mp (by simpa using hlevel)
    · cases hfine
  distinct := fun {path path' n} hpath hpath' => by
    obtain ⟨h, hpath, hclaim⟩ := (declaresAt_iff hg).mp hpath
    obtain ⟨h', hpath', hclaim'⟩ := (declaresAt_iff hg).mp hpath'
    have hsame := hpasses.once (among_root_iff.mpr ⟨path, rfl, hpath⟩)
      (among_root_iff.mpr ⟨path', rfl, hpath'⟩) hclaim hclaim'
    exact (List.cons.inj hsame).2
  free := fun {path n} hpath b hb => by
    obtain ⟨h, hpath, hclaim⟩ := (declaresAt_iff hg).mp hpath
    have hfine := hpasses.fine (i := 0) hpath
    have hbuiltin : Cpp.isBuiltinName n := by
      subst hb
      cases b <;> decide
    rw [fault?_of_claim hclaim, if_pos hbuiltin] at hfine
    split at hfine <;> cases hfine
  initialised := fun {path v node} hpath hnode hinit => by
    have hfine := hpasses.fine (i := 0) hpath
    have hvar : p.graph.var v = node := by rw [Graph.var, hnode, Option.getD_some]
    rw [fault?, hvar, if_pos hinit] at hfine
    cases hfine
  finite := fun {path e x} hpath hnode => by
    have hfine := hpasses.fine (i := 0) hpath
    simp only [fault?, hnode] at hfine
    split at hfine
    · next hfinite => exact hfinite
    · cases hfine

/-- A name is met in the end if some path declares a function under it. -/
theorem mem_functions_iff {v : Visited} (hpasses : Passes p.graph 0 [.block p.root] {} v)
    {n : String} : n ∈ v.functions ↔ ∃ path, p.DeclaresAt path n := by
  have htaken := hpasses.taken_iff (c := .name n)
  simp only [Claim.Taken, List.not_mem_nil, false_or, among_root_iff] at htaken
  rw [htaken]
  constructor
  · rintro ⟨_, h, ⟨path, rfl, hpath⟩, hclaim⟩
    exact ⟨path, (declaresAt_iff hg).mpr ⟨h, hpath, hclaim⟩⟩
  · rintro ⟨path, hpath⟩
    obtain ⟨h, hpath, hclaim⟩ := (declaresAt_iff hg).mp hpath
    exact ⟨_, h, ⟨path, rfl, hpath⟩, hclaim⟩

omit hg in
theorem mem_blocks_iff {v : Visited} (hpasses : Passes p.graph 0 [.block p.root] {} v)
    {b : BlockRef} : b ∈ v.blocks ↔ ∃ path, p.at? path = some (.block b) := by
  have htaken := hpasses.taken_iff (c := .block b)
  simp only [Claim.Taken, List.not_mem_nil, false_or, among_root_iff] at htaken
  rw [htaken]
  constructor
  · rintro ⟨_, h, ⟨path, rfl, hpath⟩, hclaim⟩
    rw [claim?_eq_block hclaim] at hpath
    exact ⟨path, hpath⟩
  · rintro ⟨path, hpath⟩
    exact ⟨_, _, ⟨path, rfl, hpath⟩, rfl⟩

theorem explains_of_stops (hroot : p.graph.has (.block p.root)) {e : Error}
    (hstops : Walks.Stops p.graph 0 [.block p.root] {} e) : p.Explains e := by
  rcases hstops with ⟨i, path, h, hat, hfault⟩ | ⟨path, h, c, hat, hclaim, rfl, hmet⟩
  · obtain ⟨_, hcons, hpath⟩ := among_root_iff.mp hat
    cases hcons
    rcases fault?_cases hfault with ⟨e, x, rfl, hnode, hfinite, rfl⟩ | ⟨v, rfl, hinit, rfl⟩ |
      ⟨n, hclaim, ⟨hlevel, rfl⟩ | ⟨hlevel, hbuiltin, rfl⟩⟩
    · exact .nonFiniteFloat hpath hnode hfinite
    · have hhas : p.graph.has (.var v) := hg.has_of_follow hroot hpath
      exact .missingInitializer hpath (var?_eq hhas) hinit
    · refine .nestedFunction ((declaresAt_iff hg).mpr ⟨h, hpath, hclaim⟩) ?_
      rintro i rfl
      exact hlevel rfl
    · obtain ⟨b, -, hb⟩ := List.any_eq_true.mp hbuiltin
      have hb : b.name = n := by simpa using hb
      subst hb
      exact .builtinName ((declaresAt_iff hg).mpr ⟨h, hpath, hclaim⟩)
  · obtain ⟨path, rfl, hpath⟩ := among_root_iff.mp hat
    have hother : ∃ path' h', path' ≠ path ∧ p.at? path' = some h' ∧
        p.graph.claim? h' = some c := by
      rcases hmet with htaken | ⟨_, h', hne, hat', hclaim'⟩
      · cases c <;> cases htaken
      · obtain ⟨path', rfl, hpath'⟩ := among_root_iff.mp hat'
        exact ⟨path', h', by simpa using hne, hpath', hclaim'⟩
    obtain ⟨path', h', hne, hpath', hclaim'⟩ := hother
    cases c with
    | block b =>
      rw [claim?_eq_block hclaim] at hpath
      rw [claim?_eq_block hclaim'] at hpath'
      exact .sharedBlock hpath' hpath hne
    | name n =>
      exact .sameName ((declaresAt_iff hg).mpr ⟨h', hpath', hclaim'⟩)
        ((declaresAt_iff hg).mpr ⟨h, hpath, hclaim⟩) hne

/-! ### Counting -/

/-- A function is reached from the statement that declares it, which holds nothing else. -/
theorem exists_declaration {path : List Nat} {f : FunctionRef}
    (hpath : p.at? path = some (.function f)) :
    ∃ above, path = above ++ [0] ∧ p.DeclaresAt above (p.graph.function f).name := by
  rcases List.eq_nil_or_concat path with rfl | ⟨above, i, rfl⟩
  · cases hpath
  · rw [List.concat_eq_append] at hpath
    obtain ⟨m, hm, hlast⟩ := follow_append.mp hpath
    have hlast := follow_singleton.mp hlast
    obtain ⟨s, rfl, hs⟩ := exists_stmt_of_function_mem (List.mem_of_getElem? hlast)
    rw [children_stmt hs, StmtNode.references] at hlast
    obtain rfl : i = 0 := by
      have hi := (List.getElem?_eq_some_iff.mp hlast).1
      simpa using hi
    refine ⟨above, List.concat_eq_append, (declaresAt_iff hg).mpr ⟨_, hm, ?_⟩⟩
    simp only [claim?, hs]

/-- In a sound program a function is known by its name, and so is the path to it. -/
theorem Sound.eq_of_name_eq (hp : p.Sound) {path path' : List Nat} {f f' : FunctionRef}
    (hpath : p.at? path = some (.function f)) (hpath' : p.at? path' = some (.function f'))
    (hname : (p.graph.function f).name = (p.graph.function f').name) : path = path' ∧ f = f' := by
  obtain ⟨above, rfl, hdeclares⟩ := exists_declaration hg hpath
  obtain ⟨above', rfl, hdeclares'⟩ := exists_declaration hg hpath'
  obtain rfl := hp.distinct hdeclares (hname ▸ hdeclares')
  cases hpath.symm.trans hpath'
  exact ⟨rfl, rfl⟩

/-- In a sound program every name that is declared is the name of one function that is reached. -/
theorem Sound.bijOn_name (hp : p.Sound) : Set.BijOn (fun f => (p.graph.function f).name)
    {f | ∃ path, p.at? path = some (.function f)} {n | ∃ path, p.DeclaresAt path n} := by
  refine ⟨?_, ?_, ?_⟩
  · rintro f ⟨path, hpath⟩
    obtain ⟨above, -, hdeclares⟩ := exists_declaration hg hpath
    exact ⟨above, hdeclares⟩
  · rintro f ⟨path, hpath⟩ f' ⟨path', hpath'⟩ hname
    exact (hp.eq_of_name_eq hg hpath hpath' hname).2
  · rintro n ⟨path, s, f, node, hpath, hs, hnode, rfl⟩
    refine ⟨f, ⟨path ++ [0], follow_append.mpr ⟨_, hpath, follow_singleton.mpr ?_⟩⟩, ?_⟩
    · rw [children_stmt hs]
      rfl
    · change (p.graph.function f).name = node.name
      rw [Graph.function, hnode, Option.getD_some]

omit hg in
theorem encard_of_nodup {α : Type} [DecidableEq α] {xs : List α} (hxs : xs.Nodup) :
    {x | x ∈ xs}.encard = xs.length := by
  rw [← List.coe_toFinset, Set.encard_coe_eq_coe_finsetCard, List.toFinset_card_of_nodup hxs]

omit hg in
theorem encard_blocks {v : Visited} (hpasses : Passes p.graph 0 [.block p.root] {} v) :
    {b | ∃ path, p.at? path = some (.block b)}.encard = v.blocks.length := by
  rw [← encard_of_nodup (hpasses.blocks_nodup .nil)]
  exact congrArg Set.encard (Set.ext fun b => (mem_blocks_iff hpasses).symm)

/-- There are as many functions as names: a function is reached where its name is declared, and a
name is declared at one path only. -/
theorem encard_functions {v : Visited} (hpasses : Passes p.graph 0 [.block p.root] {} v) :
    {f | ∃ path, p.at? path = some (.function f)}.encard = v.functions.length := by
  have hbij := (sound_of_passes hg hpasses).bijOn_name hg
  have hmet : {n | ∃ path, p.DeclaresAt path n} = {n | n ∈ v.functions} :=
    Set.ext fun n => (mem_functions_iff hg hpasses).symm
  rw [← encard_of_nodup (hpasses.functions_nodup .nil), ← hmet, ← hbij.image_eq,
    hbij.injOn.encard_image]

end Program

/-! ### The check -/

open Program

/-- In an ordered graph the check accepts the valid programs only, and all of them, since an error
has an explanation. -/
theorem Graph.Ordered.check_cases {p : Program} (hg : p.graph.Ordered)
    (hroot : p.graph.has (.block p.root)) :
    (∃ e, p.check = .error e ∧ p.Explains e) ∨
    ∃ c, p.check = .ok c ∧ p.Valid ∧
      {f | ∃ path, p.at? path = some (.function f)}.encard = c.functions ∧
      {b | ∃ path, p.at? path = some (.block b)}.encard = c.blocks := by
  rcases check_walks hg hroot with ⟨e, hwalk, hcheck⟩ | ⟨v, hwalk, hmain⟩
  · exact .inl ⟨e, hcheck, explains_of_stops hg hroot (hwalk.stops rfl)⟩
  · have hpasses := hwalk.passes rfl
    have hsound := sound_of_passes hg hpasses
    rcases hmain with ⟨hmain, file, hcheck⟩ | ⟨hmain, hcheck⟩
    · exact .inr ⟨_, hcheck, ⟨hsound, (mem_functions_iff hg hpasses).mp hmain⟩,
        encard_functions hg hpasses, encard_blocks hpasses⟩
    · refine .inl ⟨_, hcheck, .noEntry hsound fun path hpath => hmain ?_⟩
      exact (mem_functions_iff hg hpasses).mpr ⟨path, hpath⟩

/-- Whatever steps build a graph, and whichever of its blocks is the root: the check accepts the
program exactly if it is valid, an error is explained by the paths that it speaks of, and the event
of an accepted program counts the functions and the blocks that are reached. -/
theorem check_runAll (steps : List Step) (root : BlockRef)
    (hroot : (Step.runAll steps Graph.empty).has (.block root)) :
    let p := Program.new (Step.runAll steps Graph.empty) root
    ((∃ c, p.check = .ok c) ↔ p.Valid) ∧
    (∀ e, p.check = .error e → p.Explains e) ∧
    ∀ c, p.check = .ok c → ∃ functions blocks,
      p.checkLogged.events = [.checked functions blocks] ∧
      {f | ∃ path, p.at? path = some (.function f)}.encard = functions ∧
      {b | ∃ path, p.at? path = some (.block b)}.encard = blocks := by
  intro p
  have hg : p.graph.Ordered := (ordered_runAll steps ordered_empty).markOutermost root
  have hhas : p.graph.has (.block p.root) := by
    change (markOutermost _ root).has (.block root)
    rwa [has_markOutermost]
  rcases hg.check_cases hhas with ⟨e, hcheck, hexplains⟩ | ⟨c, hcheck, hvalid, hfunctions, hblocks⟩
  · refine ⟨⟨?_, fun hvalid => absurd hexplains hvalid.not_explains⟩, ?_, ?_⟩
    · rintro ⟨c, hc⟩
      rw [hcheck] at hc
      cases hc
    · intro e' he'
      rw [hcheck] at he'
      cases he'
      exact hexplains
    · intro c hc
      rw [hcheck] at hc
      cases hc
  · refine ⟨⟨fun _ => hvalid, fun _ => ⟨c, hcheck⟩⟩, ?_, fun c' hc' => ?_⟩
    · intro e he
      rw [hcheck] at he
      cases he
    · rw [Program.checkLogged, hcheck]
      exact ⟨_, _, rfl, hfunctions, hblocks⟩

/-- Two blocks, the second of which occurs twice in the first. -/
def twiceHeld : List Step :=
  [.block, .block, .stmt (.block ⟨1⟩), .push ⟨0⟩ ⟨0⟩, .push ⟨0⟩ ⟨0⟩]

theorem check_runAll_twiceHeld :
    (Step.runAll twiceHeld Graph.empty).has (.block ⟨0⟩) ∧
      (Program.new (Step.runAll twiceHeld Graph.empty) ⟨0⟩).Explains (.sharedBlock 1) := by
  refine ⟨by decide, (check_runAll twiceHeld ⟨0⟩ (by decide)).2.1 _ ?_⟩
  rfl

end ToyLang
