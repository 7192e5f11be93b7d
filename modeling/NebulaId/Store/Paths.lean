import Mathlib.Data.List.AList

/-!
# Trees of maps and the paths to their leaves

A tree is a value, or a map of trees under keys. A path goes down a tree by its keys.

* `mem_leaves_iff`: in a tree whose maps have each key once, the leaves with their paths are what
  the paths lead to.
* `lookup_foldl_insert`: a map that entries are put into one after the other, where entries of one
  name agree.
-/

namespace Store

universe u v w

inductive MapTree (κ : Type u) (β : Type v) where
  | leaf (value : β)
  | node (entries : List (κ × MapTree κ β))

namespace MapTree

variable {κ : Type u} {β : Type v}

/-! ## Leaves -/

mutual

/-- The leaves in their order, each with its path. -/
def leaves : MapTree κ β → List (List κ × β)
  | .leaf value => [([], value)]
  | .node entries => leavesOf entries

def leavesOf : List (κ × MapTree κ β) → List (List κ × β)
  | [] => []
  | (key, tree) :: entries =>
    (leaves tree).map (fun l => (key :: l.1, l.2)) ++ leavesOf entries

end

mutual

/-- No map has a key twice. -/
def Distinct : MapTree κ β → Prop
  | .leaf _ => True
  | .node entries => (entries.map Prod.fst).Nodup ∧ DistinctIn entries

def DistinctIn : List (κ × MapTree κ β) → Prop
  | [] => True
  | (_, tree) :: entries => Distinct tree ∧ DistinctIn entries

end

mutual

/-- Every key of every map is a good one. -/
def Keys (good : κ → Prop) : MapTree κ β → Prop
  | .leaf _ => True
  | .node entries => KeysIn good entries

def KeysIn (good : κ → Prop) : List (κ × MapTree κ β) → Prop
  | [] => True
  | (key, tree) :: entries => good key ∧ Keys good tree ∧ KeysIn good entries

end

/-- What the path leads to, if it is a value. -/
def get? [DecidableEq κ] : List κ → MapTree κ β → Option β
  | [], .leaf value => some value
  | key :: path, .node entries => (entries.lookup key).bind (get? path)
  | _, _ => none

variable {good : κ → Prop} {entries : List (κ × MapTree κ β)} {key : κ} {path : List κ}
  {tree : MapTree κ β} {value : β} {l : List κ × β}

mutual

/-- Induction over a tree, with the hypothesis for all that its map has. -/
@[elab_as_elim]
theorem induct {P : MapTree κ β → Prop} (leaf : ∀ value, P (.leaf value))
    (node : ∀ entries, (∀ e ∈ entries, P e.2) → P (.node entries)) : ∀ tree, P tree
  | .leaf value => leaf value
  | .node entries => node entries (inductIn leaf node entries)

theorem inductIn {P : MapTree κ β → Prop} (leaf : ∀ value, P (.leaf value))
    (node : ∀ entries, (∀ e ∈ entries, P e.2) → P (.node entries)) :
    ∀ (entries : List (κ × MapTree κ β)), ∀ e ∈ entries, P e.2
  | [] => fun _ he => absurd he List.not_mem_nil
  | (_, tree) :: entries =>
    List.forall_mem_cons.mpr ⟨induct leaf node tree, inductIn leaf node entries⟩

end

theorem leavesOf_eq :
    leavesOf entries = entries.flatMap fun e => e.2.leaves.map fun l => (e.1 :: l.1, l.2) := by
  induction entries with
  | nil => rw [leavesOf, List.flatMap_nil]
  | cons e entries ih => rw [leavesOf, List.flatMap_cons, ih]

theorem mem_leaves_node :
    l ∈ (node entries).leaves ↔
      ∃ key tree, (key, tree) ∈ entries ∧ ∃ path, (path, l.2) ∈ tree.leaves ∧ l.1 = key :: path := by
  rw [leaves, leavesOf_eq, List.mem_flatMap]
  constructor
  · rintro ⟨⟨key, tree⟩, hmem, hl⟩
    obtain ⟨⟨path, value⟩, hpath, rfl⟩ := List.mem_map.mp hl
    exact ⟨key, tree, hmem, path, hpath, rfl⟩
  · rintro ⟨key, tree, hmem, path, hpath, hl⟩
    exact ⟨(key, tree), hmem, List.mem_map.mpr ⟨(path, l.2), hpath, Prod.ext hl.symm rfl⟩⟩

theorem distinctIn_iff : DistinctIn entries ↔ ∀ e ∈ entries, e.2.Distinct := by
  induction entries with
  | nil => simp [DistinctIn]
  | cons e entries ih => rw [DistinctIn, ih, List.forall_mem_cons]

theorem keysIn_iff : KeysIn good entries ↔ ∀ e ∈ entries, good e.1 ∧ e.2.Keys good := by
  induction entries with
  | nil => simp [KeysIn]
  | cons e entries ih => rw [KeysIn, ih, List.forall_mem_cons, and_assoc]

theorem Keys.imp {good' : κ → Prop} (himp : ∀ key, good key → good' key)
    (hkeys : tree.Keys good) : tree.Keys good' := by
  induction tree using MapTree.induct with
  | leaf value => trivial
  | node entries ih =>
    rw [Keys, keysIn_iff] at hkeys ⊢
    exact fun e he => ⟨himp _ (hkeys e he).1, ih e he (hkeys e he).2⟩

/-- The path to a leaf has keys of the tree only. -/
theorem forall_mem_path (hkeys : tree.Keys good) (hl : l ∈ tree.leaves) :
    ∀ key ∈ l.1, good key := by
  obtain ⟨path, value⟩ := l
  induction path generalizing tree with
  | nil => exact fun key hkey => absurd hkey List.not_mem_nil
  | cons key path ih =>
    cases tree with
    | leaf value => simp [leaves] at hl
    | node entries =>
      obtain ⟨key', tree, hmem, path', hpath, heq⟩ := mem_leaves_node.mp hl
      obtain ⟨rfl, rfl⟩ := List.cons.inj heq
      rw [Keys, keysIn_iff] at hkeys
      obtain ⟨hgood, htree⟩ := hkeys _ hmem
      exact List.forall_mem_cons.mpr ⟨hgood, ih htree hpath⟩

/-! ## Paths -/

variable [DecidableEq κ]

theorem lookup_eq_some_iff (hnodup : (entries.map Prod.fst).Nodup) :
    entries.lookup key = some tree ↔ (key, tree) ∈ entries := by
  induction entries with
  | nil => simp
  | cons e entries ih =>
    obtain ⟨key', tree'⟩ := e
    rw [List.map_cons, List.nodup_cons] at hnodup
    by_cases hkey : key = key'
    · subst hkey
      rw [List.lookup_cons_self, Option.some.injEq, List.mem_cons]
      constructor
      · rintro rfl
        exact Or.inl rfl
      · rintro (heq | hmem)
        · exact (Prod.ext_iff.mp heq).2.symm
        · exact absurd (List.mem_map.mpr ⟨_, hmem, rfl⟩) hnodup.1
    · have hne : (key == key') = false := beq_eq_false_iff_ne.mpr hkey
      rw [List.lookup_cons, hne, ih hnodup.2, List.mem_cons]
      exact ⟨Or.inr, fun hmem => hmem.resolve_left fun heq => hkey (Prod.ext_iff.mp heq).1⟩

theorem mem_leaves_iff (hdistinct : tree.Distinct) :
    (path, value) ∈ tree.leaves ↔ tree.get? path = some value := by
  induction path generalizing tree with
  | nil =>
    cases tree with
    | leaf value' => simp [leaves, get?, eq_comm]
    | node entries =>
      rw [mem_leaves_node]
      simp [get?]
  | cons key path ih =>
    cases tree with
    | leaf value' => simp [leaves, get?]
    | node entries =>
      rw [Distinct, distinctIn_iff] at hdistinct
      rw [mem_leaves_node, get?, Option.bind_eq_some_iff]
      constructor
      · rintro ⟨key', tree, hmem, path', hpath, heq⟩
        obtain ⟨rfl, rfl⟩ := List.cons.inj heq
        exact ⟨tree, (lookup_eq_some_iff hdistinct.1).mpr hmem,
          (ih (hdistinct.2 _ hmem)).mp hpath⟩
      · rintro ⟨tree, hlookup, hget⟩
        have hmem := (lookup_eq_some_iff hdistinct.1).mp hlookup
        exact ⟨key, tree, hmem, path, (ih (hdistinct.2 _ hmem)).mpr hget, rfl⟩

end MapTree

/-! ## Entries put into a map -/

section Insert

variable {ι : Type u} {κ : Type w} {β : Type v} [DecidableEq κ] (name : ι → κ) (value : ι → β)
  {entries : List ι} {m : AList fun _ : κ => β} {key : κ} {v : β}

/-- A name that no entry has keeps what is under it. -/
theorem lookup_foldl_insert_of_ne (hne : ∀ e ∈ entries, name e ≠ key) :
    (entries.foldl (fun m e => m.insert (name e) (value e)) m).lookup key = m.lookup key := by
  induction entries generalizing m with
  | nil => rfl
  | cons e entries ih =>
    obtain ⟨hfirst, hrest⟩ := List.forall_mem_cons.mp hne
    rw [List.foldl_cons, ih hrest, AList.lookup_insert_ne hfirst.symm]

theorem lookup_foldl_insert (hagree : ∀ e ∈ entries, name e = key → value e = v)
    (hmem : ∃ e ∈ entries, name e = key) :
    (entries.foldl (fun m e => m.insert (name e) (value e)) m).lookup key = some v := by
  induction entries generalizing m with
  | nil =>
    obtain ⟨e, he, -⟩ := hmem
    exact absurd he List.not_mem_nil
  | cons e entries ih =>
    obtain ⟨hfirst, hrest⟩ := List.forall_mem_cons.mp hagree
    rw [List.foldl_cons]
    by_cases hlater : ∃ e ∈ entries, name e = key
    · exact ih hrest hlater
    · have hname : name e = key := by
        obtain ⟨e', he', hname⟩ := hmem
        rcases List.mem_cons.mp he' with rfl | he'
        · exact hname
        · exact absurd ⟨e', he', hname⟩ hlater
      rw [lookup_foldl_insert_of_ne name value fun e he hname => hlater ⟨e, he, hname⟩, hname,
        AList.lookup_insert, hfirst hname]

end Insert

end Store
