import CascadingForms.Proofs.WellFormedMenus
import Mathlib.Order.Bounds.Basic

/-!
# The paths to the leaves

Where no two children of an entry share a key, the leaves of a menu are listed under the paths that
lead to them. `Entry.Precedes` is the order of the menu on paths: where two paths part, the key of
the earlier one belongs to the earlier child. It is asymmetric, so that a list which ascends in it
holds no path twice and is in no other order.
-/

namespace CascadingForms

namespace Entry

/-- The order of the menu on paths: where two of them first differ, the key of the first one stands
earlier among the children of the entry there. -/
inductive Precedes : Entry → List String → List String → Prop
  | here {e : Entry} {key key' : String} (rest rest' : List String)
      (h : e.childKeys.idxOf key < e.childKeys.idxOf key') :
      Precedes e (key :: rest) (key' :: rest')
  | inside {e child : Entry} {key : String} {p q : List String} (hc : e.child? key = some child)
      (h : Precedes child p q) : Precedes e (key :: p) (key :: q)

/-- No two children of an entry share a key, and the same holds everywhere below it. -/
def DistinctKeys (e : Entry) : Prop :=
  ∀ place d, node? Entry.children e place = some d → d.childKeys.Nodup

variable {e child leaf : Entry} {p q : List String}

lemma DistinctKeys.childKeys (h : e.DistinctKeys) : e.childKeys.Nodup :=
  h [] e (node?_nil Entry.children e)

lemma DistinctKeys.of_mem (h : e.DistinctKeys) (hc : child ∈ e.children) : child.DistinctKeys := by
  intro place d hd
  obtain ⟨i, hi⟩ := List.mem_iff_getElem?.mp hc
  apply h (i :: place) d
  rw [node?_cons, hi, Option.bind_some, hd]

/-! ### The order of paths -/

lemma Precedes.asymm (h : e.Precedes p q) : ¬e.Precedes q p := by
  induction h with
  | here rest rest' hlt =>
    intro hback
    cases hback with
    | here _ _ hlt' => exact absurd hlt (Nat.lt_asymm hlt')
    | inside _ _ => exact Nat.lt_irrefl _ hlt
  | inside hc _ ih =>
    intro hback
    cases hback with
    | here _ _ hlt => exact Nat.lt_irrefl _ hlt
    | inside hc' hback =>
      obtain rfl := Option.some.inj (hc.symm.trans hc')
      exact ih hback

lemma Precedes.ne (h : e.Precedes p q) : p ≠ q := by
  intro hsame
  rw [hsame] at h
  exact h.asymm h

/-! ### The leaves of an entry -/

lemma leaves_of_isLeaf (h : e.isLeaf = true) : e.leaves = [([], e)] := by
  rcases e with ⟨key, label, prompt, _ | ⟨child, children⟩, descriptor⟩
  · rw [leaves]
  · cases h

lemma leaves_of_isLeaf_false (h : e.isLeaf = false) : e.leaves = leavesOf e.children := by
  rcases e with ⟨key, label, prompt, _ | ⟨child, children⟩, descriptor⟩
  · cases h
  · rw [leaves]

lemma leavesOf_eq_flatMap (children : List Entry) :
    leavesOf children =
      children.flatMap fun child => child.leaves.map fun (path, leaf) => (child.key :: path, leaf) := by
  induction children with
  | nil => simp [leavesOf]
  | cons child children ih => rw [leavesOf, ih, List.flatMap_cons]

lemma mem_leavesOf_iff {children : List Entry} :
    (p, leaf) ∈ leavesOf children ↔
      ∃ child ∈ children, ∃ rest, (rest, leaf) ∈ child.leaves ∧ p = child.key :: rest := by
  rw [leavesOf_eq_flatMap, List.mem_flatMap]
  constructor
  · rintro ⟨child, hc, hmem⟩
    obtain ⟨⟨rest, found⟩, hrest, hsame⟩ := List.mem_map.mp hmem
    obtain ⟨rfl, rfl⟩ := Prod.mk.inj hsame
    exact ⟨child, hc, rest, hrest, rfl⟩
  · rintro ⟨child, hc, rest, hrest, rfl⟩
    exact ⟨child, hc, List.mem_map.mpr ⟨(rest, leaf), hrest, rfl⟩⟩

lemma map_fst_leaves (h : e.isLeaf = false) :
    e.leaves.map Prod.fst =
      e.children.flatMap fun child => (child.leaves.map Prod.fst).map (child.key :: ·) := by
  rw [leaves_of_isLeaf_false h, leavesOf_eq_flatMap, List.map_flatMap]
  simp only [List.map_map, Function.comp_def]

/-- A leaf is listed under the path that leads to it, and nothing else is listed. -/
theorem mem_leaves_iff (h : e.DistinctKeys) :
    (p, leaf) ∈ e.leaves ↔ e.descend? p = some leaf ∧ leaf.isLeaf = true := by
  induction e using Entry.induction generalizing p with
  | h e ih =>
    cases hl : e.isLeaf with
    | true =>
      rw [leaves_of_isLeaf hl, List.mem_singleton, Prod.mk.injEq]
      constructor
      · rintro ⟨rfl, rfl⟩
        exact ⟨descend?_nil leaf, hl⟩
      · rintro ⟨hd, -⟩
        cases p with
        | nil => exact ⟨rfl, (Option.some.inj ((descend?_nil e).symm.trans hd)).symm⟩
        | cons key keys => simp [descend?_cons, child?_of_isLeaf hl] at hd
    | false =>
      rw [leaves_of_isLeaf_false hl, mem_leavesOf_iff]
      constructor
      · rintro ⟨child, hc, rest, hrest, rfl⟩
        rw [descend?_cons, child?_of_mem h.childKeys hc, Option.bind_some]
        exact (ih child hc (h.of_mem hc)).mp hrest
      · rintro ⟨hd, hleaf⟩
        cases p with
        | nil =>
          obtain rfl : e = leaf := by simpa using hd
          rw [hl] at hleaf
          cases hleaf
        | cons key keys =>
          rw [descend?_cons, Option.bind_eq_some_iff] at hd
          obtain ⟨child, hc, hd⟩ := hd
          have hmem := mem_children_of_child? hc
          refine ⟨child, hmem, keys, (ih child hmem (h.of_mem hmem)).mpr ⟨hd, hleaf⟩, ?_⟩
          rw [key_of_child? hc]

/-- Earlier children have keys that are found earlier. -/
lemma pairwise_idxOf_childKeys (h : e.childKeys.Nodup) :
    e.children.Pairwise fun child other =>
      e.childKeys.idxOf child.key < e.childKeys.idxOf other.key := by
  have hindex : ∀ i (hi : i < e.children.length), e.childKeys.idxOf e.children[i].key = i := by
    intro i hi
    have hkeys : i < e.childKeys.length := by simpa [childKeys] using hi
    have hkey : e.children[i].key = e.childKeys[i] := by simp [childKeys]
    rw [hkey, h.idxOf_getElem]
  rw [List.pairwise_iff_getElem]
  intro i j hi hj hij
  rwa [hindex i hi, hindex j hj]

/-- The paths to the leaves ascend in the order of the menu: within a child because they do so below
it, and from one child to the next because of their first keys. -/
theorem pairwise_paths_leaves (h : e.DistinctKeys) :
    (e.leaves.map Prod.fst).Pairwise e.Precedes := by
  induction e using Entry.induction with
  | h e ih =>
    cases hl : e.isLeaf with
    | true => simp [leaves_of_isLeaf hl]
    | false =>
      rw [map_fst_leaves hl, List.pairwise_flatMap]
      constructor
      · intro child hc
        rw [List.pairwise_map]
        exact (ih child hc (h.of_mem hc)).imp (.inside (child?_of_mem h.childKeys hc))
      · refine (pairwise_idxOf_childKeys h.childKeys).imp ?_
        intro child other hlt p hp q hq
        obtain ⟨rest, -, rfl⟩ := List.mem_map.mp hp
        obtain ⟨rest', -, rfl⟩ := List.mem_map.mp hq
        exact .here rest rest' hlt

/-! ### Height -/

lemma height_eq (e : Entry) : e.height = heightOf e.children := by
  rcases e with ⟨key, label, prompt, children, descriptor⟩
  rw [height]

lemma height_of_isLeaf (h : e.isLeaf = true) : e.height = 0 := by
  rw [height_eq, List.isEmpty_iff.mp h, heightOf]

lemma lt_heightOf {children : List Entry} (h : child ∈ children) :
    child.height < heightOf children := by
  induction children with
  | nil => cases h
  | cons first children ih =>
    rw [heightOf]
    rcases List.mem_cons.mp h with rfl | h
    · omega
    · have hrest := ih h
      omega

lemma exists_heightOf {children : List Entry} (h : children ≠ []) :
    ∃ child ∈ children, heightOf children = child.height + 1 := by
  induction children with
  | nil => exact absurd rfl h
  | cons first children ih =>
    by_cases hmax : heightOf children ≤ first.height + 1
    · exact ⟨first, List.mem_cons_self, by rw [heightOf]; omega⟩
    · have hne : children ≠ [] := by
        rintro rfl
        rw [heightOf] at hmax
        omega
      obtain ⟨child, hc, hheight⟩ := ih hne
      exact ⟨child, List.mem_cons_of_mem first hc, by rw [heightOf]; omega⟩

/-- Choosing a child leaves less to choose. -/
lemma height_lt_of_mem (h : child ∈ e.children) : child.height < e.height := by
  rw [height_eq e]
  exact lt_heightOf h

/-- A path uses up the height of the entry where it starts. -/
lemma length_add_height_le {d : Entry} (h : e.descend? p = some d) :
    p.length + d.height ≤ e.height := by
  induction p generalizing e with
  | nil =>
    obtain rfl : e = d := by simpa using h
    simp
  | cons key keys ih =>
    rw [descend?_cons, Option.bind_eq_some_iff] at h
    obtain ⟨child, hc, h⟩ := h
    have hlt := height_lt_of_mem (mem_children_of_child? hc)
    have hrest := ih h
    rw [List.length_cons]
    omega

/-- The height of an entry is the length of the path to one of its leaves. -/
lemma exists_mem_leaves_length (e : Entry) : ∃ p leaf, (p, leaf) ∈ e.leaves ∧ p.length = e.height := by
  induction e using Entry.induction with
  | h e ih =>
    cases hl : e.isLeaf with
    | true => exact ⟨[], e, by simp [leaves_of_isLeaf hl], (height_of_isLeaf hl).symm⟩
    | false =>
      have hne : e.children ≠ [] := by simpa [isLeaf] using hl
      obtain ⟨child, hc, hheight⟩ := exists_heightOf hne
      obtain ⟨rest, leaf, hrest, hlength⟩ := ih child hc
      refine ⟨child.key :: rest, leaf, ?_, ?_⟩
      · rw [leaves_of_isLeaf_false hl, mem_leavesOf_iff]
        exact ⟨child, hc, rest, hrest, rfl⟩
      · rw [List.length_cons, hlength, height_eq e, hheight]

end Entry

namespace Menu

/-- A list of the leaves of a menu, each with its path, and the greatest number of selections that
one of them takes. -/
structure EnumeratesLeaves (m : Menu) (leaves : List (List String × Entry)) (height : Nat) :
    Prop where
  mem_iff : ∀ p e, (p, e) ∈ leaves ↔ m.entryAt? p = some e ∧ e.children = []
  nodup : (leaves.map Prod.fst).Nodup
  ordered : ∀ (i j : Nat) p q, (leaves.map Prod.fst)[i]? = some p → (leaves.map Prod.fst)[j]? = some q →
    (i < j ↔ m.root.Precedes p q)
  height : IsGreatest {n | ∃ p ∈ leaves.map Prod.fst, p.length = n} height

variable {m : Menu}

lemma leaves_eq_leaves_root (h : m.root.isLeaf = false) : m.leaves = m.root.leaves := by
  rw [leaves, Entry.leaves_of_isLeaf_false h]

lemma mem_leaves_iff (h : m.issues = []) (p : List String) (e : Entry) :
    (p, e) ∈ m.leaves ↔ m.entryAt? p = some e ∧ e.isLeaf = true := by
  have hdistinct : m.root.DistinctKeys := fun place e he => nodup_childKeys_of_holds h ⟨place, he⟩
  rw [leaves_eq_leaves_root (root_of_issues h).1]
  exact Entry.mem_leaves_iff hdistinct

/-- The leaves of a menu are listed completely, once each and in the order of the menu, and the
height of the menu is the length of the longest path among them. -/
theorem leaves_enumerated (hroot : m.root.children ≠ [])
    (hkeys : ∀ e, m.Holds e → e.childKeys.Nodup) : m.EnumeratesLeaves m.leaves m.height := by
  have hleaf : m.root.isLeaf = false := by simpa [Entry.isLeaf] using hroot
  have hdistinct : m.root.DistinctKeys := fun place e he => hkeys e ⟨place, he⟩
  have hsorted := Entry.pairwise_paths_leaves hdistinct
  rw [leaves_eq_leaves_root hleaf]
  refine ⟨?_, hsorted.imp Entry.Precedes.ne, ?_, ?_, ?_⟩
  · intro p e
    rw [Entry.mem_leaves_iff hdistinct, Entry.isLeaf, List.isEmpty_iff]
    rfl
  · intro i j p q hp hq
    obtain ⟨hi, rfl⟩ := List.getElem?_eq_some_iff.mp hp
    obtain ⟨hj, rfl⟩ := List.getElem?_eq_some_iff.mp hq
    have hpairs := List.pairwise_iff_getElem.mp hsorted
    constructor
    · exact hpairs i j hi hj
    · intro hprecedes
      rcases Nat.lt_trichotomy i j with hlt | rfl | hlt
      · exact hlt
      · exact absurd rfl hprecedes.ne
      · exact absurd hprecedes (hpairs j i hj hi hlt).asymm
  · obtain ⟨p, leaf, hmem, hlength⟩ := m.root.exists_mem_leaves_length
    exact ⟨p, List.mem_map_of_mem hmem, hlength⟩
  · rintro n ⟨p, hp, rfl⟩
    obtain ⟨⟨p, leaf⟩, hmem, rfl⟩ := List.mem_map.mp hp
    have hd := ((Entry.mem_leaves_iff hdistinct).mp hmem).1
    have hle := Entry.length_add_height_le hd
    exact Nat.le_trans (Nat.le_add_right _ _) hle

theorem leaves_enumerated_in_sample :
    (sample .student).root.children ≠ [] ∧
      (∀ e, (sample .student).Holds e → e.childKeys.Nodup) ∧
      (sample .student).leaves.map Prod.fst =
        [["Algo", "Ex1"], ["Algo", "Ex2", "Q1"], ["Algo", "Ex2", "Q2"], ["Unix", "G1"]] ∧
      (sample .student).height = 3 ∧
      (sample .student).EnumeratesLeaves (sample .student).leaves (sample .student).height := by
  have hwell := wellFormed_of_issues (issues_sample .student)
  exact ⟨hwell.root, hwell.siblings, by decide +kernel, by decide +kernel,
    leaves_enumerated hwell.root hwell.siblings⟩

end Menu

end CascadingForms
