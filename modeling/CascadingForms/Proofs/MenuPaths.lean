import CascadingForms.Menu.Basic
import CascadingForms.Proofs.Lineages
import Mathlib.Data.List.Nodup

/-!
# Paths of keys

`Entry.descend?` follows a path from an entry downwards. This file splits a path at any
point, and gives the part of a path that leads to entries, `Entry.reach`: it is the whole
path exactly if the path leads to an entry, and no longer start of the path leads to one.
-/

namespace CascadingForms

namespace Entry

/-- A statement about menu entries holds for all of them if it passes from the children of every
entry to the entry itself. -/
@[elab_as_elim]
theorem induction {motive : Entry → Prop}
    (h : ∀ e : Entry, (∀ child ∈ e.children, motive child) → motive e) (e : Entry) : motive e :=
  h e fun child _ => induction h child
termination_by sizeOf e
decreasing_by
  rcases e with ⟨key, label, prompt, children, descriptor⟩
  have hsize := List.sizeOf_lt_of_mem ‹child ∈ _›
  simp only [Entry.mk.sizeOf_spec]
  simp only at hsize
  omega

lemma mem_children_of_child? {e child : Entry} {key : String} (h : e.child? key = some child) :
    child ∈ e.children :=
  List.mem_of_find?_eq_some h

lemma key_of_child? {e child : Entry} {key : String} (h : e.child? key = some child) :
    child.key = key := by
  have hp := List.find?_some h
  simpa using hp

lemma child?_of_isLeaf {e : Entry} (h : e.isLeaf = true) (key : String) : e.child? key = none := by
  have hc : e.children = [] := List.isEmpty_iff.mp h
  simp [child?, hc]

lemma child?_eq_none_iff (e : Entry) (key : String) :
    e.child? key = none ↔ key ∉ e.childKeys := by
  simp [child?, childKeys]

/-- Where no two children share a key, every child is found under its own. -/
lemma child?_of_mem {e child : Entry} (hkeys : e.childKeys.Nodup) (h : child ∈ e.children) :
    e.child? child.key = some child := by
  have hmem : child.key ∈ e.childKeys := List.mem_map_of_mem h
  cases hfound : e.child? child.key with
  | none => exact absurd hmem ((child?_eq_none_iff e child.key).mp hfound)
  | some found =>
    have hsame := List.inj_on_of_nodup_map hkeys (mem_children_of_child? hfound) h
      (key_of_child? hfound)
    rw [hsame]

lemma isLeaf_of_child? {e child : Entry} {key : String} (h : e.child? key = some child) :
    e.isLeaf = false := by
  cases hl : e.isLeaf with
  | false => rfl
  | true => simp [child?_of_isLeaf hl] at h

@[simp] lemma descend?_nil (e : Entry) : e.descend? [] = some e := by
  rw [descend?]

lemma descend?_cons (e : Entry) (key : String) (keys : List String) :
    e.descend? (key :: keys) = (e.child? key).bind (·.descend? keys) := by
  rw [descend?]
  cases e.child? key <;> rfl

lemma child?_of_descend?_cons {e : Entry} {key : String} {keys : List String}
    (h : (e.descend? (key :: keys)).isSome) :
    ∃ child, e.child? key = some child ∧ (child.descend? keys).isSome := by
  rw [descend?_cons] at h
  cases hc : e.child? key with
  | none => simp [hc] at h
  | some child => exact ⟨child, rfl, by simpa [hc] using h⟩

lemma descend?_append (e : Entry) (p q : List String) :
    e.descend? (p ++ q) = (e.descend? p).bind (·.descend? q) := by
  induction p generalizing e with
  | nil => simp
  | cons key keys ih =>
    simp only [List.cons_append, descend?_cons]
    cases e.child? key with
    | none => rfl
    | some child => exact ih child

lemma descend?_concat (e : Entry) (p : List String) (key : String) :
    e.descend? (p ++ [key]) = (e.descend? p).bind (·.child? key) := by
  rw [descend?_append]
  congr 1
  funext d
  rw [descend?_cons]
  cases d.child? key <;> simp

lemma descend?_isSome_of_isPrefix {e : Entry} {p q : List String} (hq : q <+: p)
    (h : (e.descend? p).isSome) : (e.descend? q).isSome := by
  obtain ⟨rest, rfl⟩ := hq
  rw [descend?_append] at h
  cases hd : e.descend? q with
  | none => simp [hd] at h
  | some d => rfl

/-- The keys of a path are those of the entries on the way to where it leads. -/
lemma exists_lineage?_of_descend? {e d : Entry} {p : List String} (h : e.descend? p = some d) :
    ∃ place above, lineage? Entry.children e place = some (above, d) ∧
      (above ++ [d]).map Entry.key = e.key :: p := by
  induction p generalizing e with
  | nil =>
    obtain rfl : e = d := by simpa using h
    exact ⟨[], [], rfl, rfl⟩
  | cons key keys ih =>
    obtain ⟨child, hc, -⟩ := child?_of_descend?_cons (Option.isSome_of_eq_some h)
    rw [descend?_cons, hc, Option.bind_some] at h
    obtain ⟨place, above, hl, hkeys⟩ := ih h
    obtain ⟨place', hl'⟩ := exists_lineage?_of_mem (mem_children_of_child? hc) hl
    rw [key_of_child? hc] at hkeys
    exact ⟨place', e :: above, hl', by rw [List.cons_append, List.map_cons, hkeys]⟩

/-- An entry on the way to another one has children. -/
lemma isLeaf_of_longer_path {e d : Entry} {p : List String} {key : String} {rest : List String}
    (hd : e.descend? p = some d) (h : (e.descend? (p ++ key :: rest)).isSome) :
    d.isLeaf = false := by
  rw [descend?_append, hd, Option.bind_some, descend?_cons] at h
  cases hc : d.child? key with
  | none => simp [hc] at h
  | some child => exact isLeaf_of_child? hc

/-- The keys of a path as far as they lead to entries. -/
def reach (e : Entry) : List String → List String
  | [] => []
  | key :: keys =>
    match e.child? key with
    | none => []
    | some child => key :: child.reach keys

lemma reach_cons_of_child? {e child : Entry} {key : String} (h : e.child? key = some child)
    (keys : List String) : e.reach (key :: keys) = key :: child.reach keys := by
  rw [reach, h]

lemma reach_cons_of_child?_none {e : Entry} {key : String} (h : e.child? key = none)
    (keys : List String) : e.reach (key :: keys) = [] := by
  rw [reach, h]

lemma descend?_reach_isSome (e : Entry) (keys : List String) :
    (e.descend? (e.reach keys)).isSome := by
  induction keys generalizing e with
  | nil => simp [reach]
  | cons key keys ih =>
    cases h : e.child? key with
    | none => simp [reach_cons_of_child?_none h]
    | some child =>
      rw [reach_cons_of_child? h, descend?_cons, h]
      exact ih child

lemma reach_isPrefix (e : Entry) (keys : List String) : e.reach keys <+: keys := by
  induction keys generalizing e with
  | nil => simp [reach]
  | cons key keys ih =>
    cases h : e.child? key with
    | none => simp [reach_cons_of_child?_none h]
    | some child =>
      rw [reach_cons_of_child? h]
      exact (List.prefix_cons_inj key).mpr (ih child)

/-- Every start of a path that leads to an entry lies within the part that is reached. -/
theorem prefix_reach {e : Entry} {keys q : List String} (hq : q <+: keys)
    (h : (e.descend? q).isSome) : q <+: e.reach keys := by
  induction keys generalizing e q with
  | nil =>
    rw [List.prefix_nil.mp hq]
    exact List.nil_prefix
  | cons key keys ih =>
    cases q with
    | nil => exact List.nil_prefix
    | cons first rest =>
      obtain ⟨rfl, hrest⟩ := List.cons_prefix_cons.mp hq
      obtain ⟨child, hc, hs⟩ := child?_of_descend?_cons h
      rw [reach_cons_of_child? hc]
      exact (List.prefix_cons_inj first).mpr (ih hrest hs)

theorem reach_eq_self_iff (e : Entry) (keys : List String) :
    e.reach keys = keys ↔ (e.descend? keys).isSome := by
  constructor
  · intro h
    have hs := descend?_reach_isSome e keys
    rwa [h] at hs
  · intro h
    exact (reach_isPrefix e keys).eq_of_length_le (prefix_reach (List.prefix_refl keys) h).length_le

end Entry

namespace Menu

variable {m : Menu} {p : List String}

@[simp] lemma entryAt?_nil (m : Menu) : m.entryAt? [] = some m.root :=
  Entry.descend?_nil m.root

lemma entryAt?_concat {d : Entry} (hd : m.entryAt? p = some d) (key : String) :
    m.entryAt? (p ++ [key]) = d.child? key := by
  unfold entryAt? at hd ⊢
  rw [Entry.descend?_concat, hd, Option.bind_some]

lemma entryAt?_isSome_of_isPrefix {q : List String} (hq : q <+: p) (h : (m.entryAt? p).isSome) :
    (m.entryAt? q).isSome :=
  Entry.descend?_isSome_of_isPrefix hq h

end Menu

end CascadingForms
