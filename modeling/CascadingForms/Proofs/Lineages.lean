import Mathlib.Tactic.Lemma

/-!
# Places in trees

Two children of an entry may share a key, so a place in a menu, or in the document of one, is given
by the child numbers on the way down from the root. `lineage?` finds the node at a place together
with the nodes above it, for the entries of menus and for their drafts alike.
-/

namespace CascadingForms

variable {α : Type} {children : α → List α} {a b : α} {place : List Nat} {above : List α}

/-- The nodes above a place, from the root down, and the node at the place. -/
def lineage? (children : α → List α) (a : α) : List Nat → Option (List α × α)
  | [] => some ([], a)
  | i :: place =>
    match (children a)[i]? with
    | none => none
    | some child => (lineage? children child place).map fun (above, b) => (a :: above, b)

def node? (children : α → List α) (a : α) (place : List Nat) : Option α :=
  (lineage? children a place).map Prod.snd

lemma lineage?_cons_eq_some_iff {i : Nat} :
    lineage? children a (i :: place) = some (above, b) ↔
      ∃ child rest, (children a)[i]? = some child ∧
        lineage? children child place = some (rest, b) ∧ above = a :: rest := by
  rw [lineage?]
  cases hc : (children a)[i]? with
  | none => simp
  | some child =>
    constructor
    · intro h
      obtain ⟨⟨rest, c⟩, hl, heq⟩ := Option.map_eq_some_iff.mp h
      obtain ⟨rfl, rfl⟩ := Prod.mk.inj heq
      exact ⟨child, rest, rfl, hl, rfl⟩
    · rintro ⟨_, rest, hsame, hl, rfl⟩
      obtain rfl := Option.some.inj hsame
      simp [hl]

lemma node?_nil (children : α → List α) (a : α) : node? children a [] = some a := rfl

lemma node?_cons (children : α → List α) (a : α) (i : Nat) (place : List Nat) :
    node? children a (i :: place) =
      (children a)[i]?.bind fun child => node? children child place := by
  unfold node?
  rw [lineage?]
  cases (children a)[i]? with
  | none => rfl
  | some child => simp [Option.map_map, Function.comp_def]

/-- Whatever lies at a place below a child lies at a place below its parent. -/
lemma exists_lineage?_of_mem {child : α} (hc : child ∈ children a)
    (h : lineage? children child place = some (above, b)) :
    ∃ place, lineage? children a place = some (a :: above, b) := by
  obtain ⟨i, hi⟩ := List.mem_iff_getElem?.mp hc
  exact ⟨i :: place, lineage?_cons_eq_some_iff.mpr ⟨child, above, hi, h, rfl⟩⟩

end CascadingForms
