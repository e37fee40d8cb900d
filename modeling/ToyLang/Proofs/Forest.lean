import Mathlib.Data.List.Induction
import Mathlib.Data.List.Nodup
import ToyLang.Proofs.Occurrences

/-!
# Forests

While a program is lowered, its nodes form trees.  The roots of these trees are the nodes that
nothing holds yet: a new node takes some of them as what it holds and becomes a root itself, and a
block or a variable that is a root takes in one more.

## Main definitions

* `Graph.Forest` — the nodes of a graph form trees with given roots.

## Main results

* `Graph.Forest.adds`, `Graph.Forest.refills` — building keeps the nodes in trees.
* `Graph.Forest.path_unique` — a node of a forest is reached along one path only.
-/

namespace ToyLang.Graph

/-- The nodes of a graph form trees with these roots: the roots are held by nothing, every other
node is held at one place, and every node is reached from a root. -/
structure Forest (g : Graph) (roots : List Handle) : Prop where
  nodup : roots.Nodup
  has_root : ∀ r ∈ roots, g.has r
  has_held : ∀ {h k}, k ∈ g.children h → g.has k
  root_free : ∀ r ∈ roots, ∀ h, r ∉ g.children h
  held_once : ∀ {h h' k} {i i' : Nat}, (g.children h)[i]? = some k → (g.children h')[i']? = some k →
    h = h' ∧ i = i'
  reached : ∀ {h}, g.has h → ∃ r ∈ roots, ∃ path, g.follow r path = some h

variable {g g' : Graph}

/-- A path stays where it is when nodes hold more behind what they held. -/
theorem follow_mono
    (hmono : ∀ {h k} {i : Nat}, (g.children h)[i]? = some k → (g'.children h)[i]? = some k)
    {path : List Nat} {h k : Handle} (hpath : g.follow h path = some k) :
    g'.follow h path = some k := by
  induction path generalizing h with
  | nil => exact hpath
  | cons i path ih =>
    obtain ⟨m, hm, hpath⟩ := follow_cons.mp hpath
    exact follow_cons.mpr ⟨m, hmono hm, ih hpath⟩

namespace Forest

variable {h : Handle} {more roots roots' : List Handle}

theorem perm (hf : g.Forest roots) (hperm : roots.Perm roots') : g.Forest roots' where
  nodup := hperm.nodup_iff.mp hf.nodup
  has_root := fun r hr => hf.has_root r (hperm.mem_iff.mpr hr)
  has_held := hf.has_held
  root_free := fun r hr => hf.root_free r (hperm.mem_iff.mpr hr)
  held_once := hf.held_once
  reached := fun hh => by
    obtain ⟨r, hr, hpath⟩ := hf.reached hh
    exact ⟨r, hperm.mem_iff.mp hr, hpath⟩

/-- The only step of building a forest: some roots become what a node holds in addition.  The node
is a root, or it is new and becomes one. -/
theorem attach (hf : g.Forest (more ++ roots)) (hhas : ∀ k, g'.has k ↔ k = h ∨ g.has k)
    (hown : g'.children h = g.children h ++ more) (hother : ∀ k ≠ h, g'.children k = g.children k)
    (hfree : ∀ k, h ∉ g.children k) (hmore : h ∉ more) (hnodup : roots'.Nodup)
    (hroots : ∀ r, r ∈ roots' ↔ r = h ∨ r ∈ roots) : g'.Forest roots' := by
  have hmono {m : Handle} {i : Nat} {k : Handle} (hi : (g.children m)[i]? = some k) :
      (g'.children m)[i]? = some k := by
    by_cases hm : m = h
    · rw [hm] at hi ⊢
      rw [hown]
      exact List.getElem?_append_left (List.getElem?_eq_some_iff.mp hi).1 ▸ hi
    · rwa [hother m hm]
  -- What is held now was held before, or it is a former root at its place behind that.
  have hinv {m : Handle} {i : Nat} {k : Handle} (hi : (g'.children m)[i]? = some k) :
      (g.children m)[i]? = some k ∨
        m = h ∧ ∃ j, i = (g.children h).length + j ∧ more[j]? = some k := by
    by_cases hm : m = h
    · rw [hm, hown] at hi
      rcases Nat.lt_or_ge i (g.children h).length with hlt | hge
      · rw [List.getElem?_append_left hlt] at hi
        exact .inl (hm ▸ hi)
      · rw [List.getElem?_append_right hge] at hi
        exact .inr ⟨hm, i - (g.children h).length, by omega, hi⟩
    · rw [hother m hm] at hi
      exact .inl hi
  have hdisjoint := List.disjoint_of_nodup_append hf.nodup
  have hfree_more {k : Handle} (hk : k ∈ more) (m : Handle) : k ∉ g.children m :=
    hf.root_free k (List.mem_append_left roots hk) m
  exact
    { nodup := hnodup
      has_root := fun r hr => by
        rw [hhas]
        exact ((hroots r).mp hr).imp_right fun hr => hf.has_root r (List.mem_append_right more hr)
      has_held := fun {m k} hk => by
        obtain ⟨i, hi⟩ := List.mem_iff_getElem?.mp hk
        rw [hhas]
        rcases hinv hi with hi | ⟨-, j, -, hj⟩
        · exact .inr (hf.has_held (List.mem_of_getElem? hi))
        · exact .inr (hf.has_root k (List.mem_append_left roots (List.mem_of_getElem? hj)))
      root_free := fun r hr m hmem => by
        obtain ⟨i, hi⟩ := List.mem_iff_getElem?.mp hmem
        rcases (hroots r).mp hr with rfl | hr <;> rcases hinv hi with hi | ⟨-, j, -, hj⟩
        · exact hfree m (List.mem_of_getElem? hi)
        · exact hmore (List.mem_of_getElem? hj)
        · exact hf.root_free r (List.mem_append_right more hr) m (List.mem_of_getElem? hi)
        · exact hdisjoint (List.mem_of_getElem? hj) hr
      held_once := fun {m m' k i i'} hi hi' => by
        rcases hinv hi with hi | ⟨rfl, j, rfl, hj⟩ <;>
          rcases hinv hi' with hi' | ⟨rfl, j', rfl, hj'⟩
        · exact hf.held_once hi hi'
        · exact absurd (List.mem_of_getElem? hi) (hfree_more (List.mem_of_getElem? hj') m)
        · exact absurd (List.mem_of_getElem? hi') (hfree_more (List.mem_of_getElem? hj) m')
        · have hmoreNodup : more.Nodup := (List.nodup_append.mp hf.nodup).1
          have hlt : j < more.length := (List.getElem?_eq_some_iff.mp hj).1
          obtain rfl : j = j' :=
            (List.getElem?_inj hlt hmoreNodup).mp (hj.trans hj'.symm)
          exact ⟨rfl, rfl⟩
      reached := fun {k} hk => by
        rcases (hhas k).mp hk with rfl | hk
        · exact ⟨k, (hroots k).mpr (.inl rfl), [], rfl⟩
        · obtain ⟨r, hr, path, hpath⟩ := hf.reached hk
          have hpath := follow_mono hmono hpath
          rcases List.mem_append.mp hr with hr | hr
          · obtain ⟨j, hj⟩ := List.mem_iff_getElem?.mp hr
            refine ⟨h, (hroots h).mpr (.inl rfl), ((g.children h).length + j) :: path, ?_⟩
            refine follow_cons.mpr ⟨r, ?_, hpath⟩
            rw [hown, List.getElem?_append_right (by omega), Nat.add_sub_cancel_left, hj]
          · exact ⟨r, (hroots r).mpr (.inr hr), path, hpath⟩ }

/-- A new node takes some roots as what it holds, and is a root. -/
theorem adds (hf : g.Forest (more ++ roots)) (hadds : g.Adds g' h more) :
    g'.Forest (h :: roots) := by
  have hchildren : g.children h = [] := by
    rw [List.eq_nil_iff_forall_not_mem]
    exact fun k hk => hadds.fresh (has_of_mem_children hk)
  have hnew : ∀ r ∈ more ++ roots, r ≠ h := by
    rintro r hr rfl
    exact hadds.fresh (hf.has_root r hr)
  refine hf.attach hadds.has_iff (by rw [hadds.own, hchildren, List.nil_append]) hadds.other
    (fun k hk => hadds.fresh (hf.has_held hk)) ?_ ?_ (by simp)
  · exact fun hmem => hnew h (List.mem_append_left roots hmem) rfl
  · refine List.nodup_cons.mpr ⟨fun hmem => hnew h (List.mem_append_right more hmem) rfl, ?_⟩
    exact (List.nodup_append.mp hf.nodup).2.1

/-- A root takes another root in behind what it holds. -/
theorem refills {k : Handle} (hf : g.Forest (k :: roots)) (hh : h ∈ roots)
    (hrefills : g.Refills g' h (g.children h ++ [k])) : g'.Forest roots := by
  have hnodup := List.nodup_cons.mp hf.nodup
  have hhas : g.has h := hf.has_root h (.tail k hh)
  have hne : h ≠ k := by
    rintro rfl
    exact hnodup.1 hh
  have hf' : g.Forest ([k] ++ roots) := hf
  refine hf'.attach (fun m => ?_) hrefills.own hrefills.other
    (hf.root_free h (.tail k hh)) (by simpa using hne) hnodup.2 fun r => ?_
  · rw [hrefills.has_iff]
    exact ⟨.inr, fun hm => hm.elim (fun hm => hm ▸ hhas) id⟩
  · exact ⟨.inr, fun hr => hr.elim (fun hr => hr ▸ hh) id⟩

/-- A path that ends at a root is empty. -/
theorem follow_root (hf : g.Forest roots) {r k : Handle} (hr : r ∈ roots) {path : List Nat}
    (hpath : g.follow k path = some r) : path = [] := by
  rcases List.eq_nil_or_concat path with rfl | ⟨path, i, rfl⟩
  · rfl
  · rw [List.concat_eq_append] at hpath
    obtain ⟨m, -, hlast⟩ := follow_append.mp hpath
    exact absurd (List.mem_of_getElem? (follow_singleton.mp hlast)) (hf.root_free r hr m)

/-- A node is reached from one root and along one path only.  Two paths to it end alike, since it is
held at one place, so the induction is on their ends. -/
theorem path_unique (hf : g.Forest roots) {r r' k : Handle} (hr : r ∈ roots) (hr' : r' ∈ roots)
    {path path' : List Nat} (hpath : g.follow r path = some k)
    (hpath' : g.follow r' path' = some k) : r = r' ∧ path = path' := by
  induction path using List.reverseRecOn generalizing path' k with
  | nil =>
    cases hpath
    obtain rfl := hf.follow_root hr hpath'
    cases hpath'
    exact ⟨rfl, rfl⟩
  | append_singleton path i ih =>
    rcases List.eq_nil_or_concat path' with rfl | ⟨path', i', rfl⟩
    · cases hpath'
      exact absurd (hf.follow_root hr' hpath) (by simp)
    · rw [List.concat_eq_append] at hpath' ⊢
      obtain ⟨m, hm, hlast⟩ := follow_append.mp hpath
      obtain ⟨m', hm', hlast'⟩ := follow_append.mp hpath'
      obtain ⟨rfl, rfl⟩ :=
        hf.held_once (follow_singleton.mp hlast) (follow_singleton.mp hlast')
      obtain ⟨rfl, rfl⟩ := ih hm hm'
      exact ⟨rfl, rfl⟩

end Forest

theorem forest_empty : Graph.empty.Forest [] where
  nodup := .nil
  has_root := by simp
  has_held := fun hk => absurd (has_of_mem_children hk) (not_has_empty _)
  root_free := by simp
  held_once := fun hi _ =>
    absurd (has_of_mem_children (List.mem_of_getElem? hi)) (not_has_empty _)
  reached := fun hh => absurd hh (not_has_empty _)

end ToyLang.Graph
