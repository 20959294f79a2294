import CascadingForms.Proofs.MenuPaths
import CascadingForms.Selector.Operations

/-!
# The levels along a path

`Entry.levels` lists the levels that a selector shows for a path, without any history: level `i`
belongs to the entry that the first `i` keys lead to, and `Entry.controlsShowing` spells out its
controls with the selected option in place. The parameter `last` is the option shown in the last
dropdown, so that the two halves of a choice, marking an option and rendering the entry below it,
are statements about the same list.
-/

namespace CascadingForms

lemma Descriptor.isDropdown_of_mem_controls {d : Descriptor} {labels : Labels} {c : Control}
    (hc : c ∈ d.controls labels) : c.isDropdown = false := by
  revert c
  unfold Descriptor.controls
  cases d.collectsFiles <;> cases d.requiresFunctionName <;> cases d.hasPicker <;>
    simp [Control.isDropdown]

namespace Entry

/-- The controls of an entry with one of its children selected, or none. At a leaf there is nothing
to select. -/
def controlsShowing (e : Entry) (labels : Labels) (selected : Option String) : List Control :=
  if e.isLeaf then e.controls labels
  else [.dropdown e.key ("-- " ++ e.prompt.getD "" ++ " --") e.choices selected]

/-- The level of an entry at some depth, with an option selected in its dropdown, or none. -/
def level (e : Entry) (labels : Labels) (depth : Nat) (selected : Option String) : Level :=
  ⟨depth, e.key, e.controlsShowing labels selected⟩

/-- The levels along a path. Each dropdown shows the next key, and the last one shows `last`. -/
def levels (e : Entry) (labels : Labels) (depth : Nat) (last : Option String) :
    List String → List Level
  | [] => [e.level labels depth last]
  | key :: keys =>
    e.level labels depth (some key) ::
      match e.child? key with
      | none => []
      | some child => child.levels labels (depth + 1) last keys

lemma controls_of_isLeaf_false {e : Entry} (h : e.isLeaf = false) (labels : Labels) :
    e.controls labels = [e.dropdown] := by
  simp [controls, h]

lemma controlsShowing_of_isLeaf {e : Entry} (h : e.isLeaf = true) (labels : Labels)
    (selected : Option String) : e.controlsShowing labels selected = e.controls labels := by
  rw [controlsShowing, if_pos h]

lemma controlsShowing_of_isLeaf_false {e : Entry} (h : e.isLeaf = false) (labels : Labels)
    (selected : Option String) :
    e.controlsShowing labels selected =
      [.dropdown e.key ("-- " ++ e.prompt.getD "" ++ " --") e.choices selected] := by
  simp [controlsShowing, h]

@[simp] lemma controlsShowing_none (e : Entry) (labels : Labels) :
    e.controlsShowing labels none = e.controls labels := by
  cases h : e.isLeaf with
  | true => exact controlsShowing_of_isLeaf h labels none
  | false => rw [controlsShowing_of_isLeaf_false h, controls_of_isLeaf_false h, dropdown]

lemma level_none (e : Entry) (labels : Labels) (depth : Nat) :
    e.level labels depth none = ⟨depth, e.key, e.controls labels⟩ := by
  rw [level, controlsShowing_none]

/-- Choosing in the first control of a level is choosing in all of them. -/
@[simp] lemma choose_level (e : Entry) (labels : Labels) (depth : Nat) (old new : Option String) :
    (e.level labels depth old).choose new = e.level labels depth new := by
  cases h : e.isLeaf with
  | false =>
    rw [level, level, controlsShowing_of_isLeaf_false h, controlsShowing_of_isLeaf_false h]
    rfl
  | true =>
    rw [level, level, controlsShowing_of_isLeaf h, controlsShowing_of_isLeaf h, controls, if_pos h]
    -- The first control of a leaf is hidden, if it has any.
    cases e.descriptor <;> rfl

lemma levels_nil (e : Entry) (labels : Labels) (depth : Nat) (last : Option String) :
    e.levels labels depth last [] = [e.level labels depth last] := by
  rw [levels]

lemma levels_cons {e child : Entry} {key : String} (h : e.child? key = some child)
    (labels : Labels) (depth : Nat) (last : Option String) (keys : List String) :
    e.levels labels depth last (key :: keys) =
      e.level labels depth (some key) :: child.levels labels (depth + 1) last keys := by
  rw [levels, h]

lemma length_levels {e : Entry} {p : List String} (h : (e.descend? p).isSome) (labels : Labels)
    (depth : Nat) (last : Option String) :
    (e.levels labels depth last p).length = p.length + 1 := by
  induction p generalizing e depth with
  | nil => simp [levels_nil]
  | cons key keys ih =>
    obtain ⟨child, hc, hk⟩ := child?_of_descend?_cons h
    rw [levels_cons hc, List.length_cons, ih hk, List.length_cons]

/-- One more key marks an option in the last dropdown and adds the level of the entry below. -/
lemma levels_concat {e d child : Entry} {p : List String} {key : String}
    (hd : e.descend? p = some d) (hc : d.child? key = some child) (labels : Labels) (depth : Nat)
    (last : Option String) :
    e.levels labels depth last (p ++ [key]) =
      e.levels labels depth (some key) p ++ [child.level labels (depth + p.length + 1) last] := by
  induction p generalizing e depth with
  | nil =>
    obtain rfl : e = d := by simpa using hd
    simp [levels_cons hc, levels_nil]
  | cons first rest ih =>
    obtain ⟨next, hn, -⟩ := child?_of_descend?_cons (Option.isSome_of_eq_some hd)
    rw [descend?_cons, hn, Option.bind_some] at hd
    have hdepth : depth + 1 + rest.length + 1 = depth + (first :: rest).length + 1 := by
      rw [List.length_cons]
      omega
    rw [List.cons_append, levels_cons hn, levels_cons hn, ih hd, hdepth, List.cons_append]

/-- Keeping the first levels and choosing in the last of them shows the start of the path. -/
lemma modify_take_levels {e : Entry} {p : List String} (h : (e.descend? p).isSome) {k : Nat}
    (hk : k ≤ p.length) (labels : Labels) (depth : Nat) (last selected : Option String) :
    ((e.levels labels depth last p).take (k + 1)).modify k (Level.choose selected) =
      e.levels labels depth selected (p.take k) := by
  induction p generalizing e depth k with
  | nil =>
    obtain rfl : k = 0 := by simpa using hk
    simp [levels_nil]
  | cons key keys ih =>
    obtain ⟨child, hc, hs⟩ := child?_of_descend?_cons h
    rw [levels_cons hc]
    cases k with
    | zero => simp [levels_nil]
    | succ k =>
      have hk' : k ≤ keys.length := by simpa using hk
      rw [List.take_succ_cons, List.modify_succ_cons, ih hs hk', List.take_succ_cons,
        levels_cons hc]

/-- Level `i` belongs to the entry that the first `i` keys lead to, and its dropdown shows key
`i`, if there is one. -/
lemma getElem?_levels {e : Entry} {p : List String} (h : (e.descend? p).isSome) {i : Nat}
    (hi : i ≤ p.length) (labels : Labels) (depth : Nat) :
    (e.levels labels depth none p)[i]? =
      (e.descend? (p.take i)).map fun d => d.level labels (depth + i) p[i]? := by
  induction p generalizing e depth i with
  | nil =>
    obtain rfl : i = 0 := by simpa using hi
    simp [levels_nil]
  | cons key keys ih =>
    obtain ⟨child, hc, hs⟩ := child?_of_descend?_cons h
    rw [levels_cons hc]
    cases i with
    | zero => simp
    | succ i =>
      have hi' : i ≤ keys.length := by simpa using hi
      have hdepth : depth + 1 + i = depth + (i + 1) := by omega
      rw [List.getElem?_cons_succ, ih hs hi', List.take_succ_cons, descend?_cons, hc, hdepth,
        List.getElem?_cons_succ, Option.bind_some]

end Entry

end CascadingForms
