import CascadingForms.Proofs.DocumentPlaces

/-!
# Documents with one more entry

An entry that is added to the mapping at a place moves what stands behind it. All nodes keep their
shapes, and if nothing in the entry carries an anchor, all aliases stand for the nodes that they
stood for.
-/

namespace CascadingForms.Yaml.Node

variable {n n' c c' root root' key value : Node} {items before after : List Node}
  {place : List Nat} {index : Nat}

/-- The second node is the first one with an entry added to the mapping at a place, as entry
`index`. -/
inductive Added (key value : Node) (index : Nat) : List Nat → Node → Node → Prop
  | here {before after : List (Node × Node)} (h : before.length = index) :
    Added key value index [] (mapping (before ++ after)) (mapping (before ++ (key, value) :: after))
  | anchored {place : List Nat} {n n' : Node} (anchor : Nat) (h : Added key value index place n n') :
    Added key value index place (anchored anchor n) (anchored anchor n')
  | item {place : List Nat} {n n' : Node} (before after : List Node)
    (h : Added key value index place n n') :
    Added key value index (before.length :: place) (sequence (before ++ n :: after))
      (sequence (before ++ n' :: after))
  | key {place : List Nat} {n n' : Node} (before after : List (Node × Node)) (v : Node)
    (h : Added key value index place n n') :
    Added key value index (2 * before.length :: place) (mapping (before ++ (n, v) :: after))
      (mapping (before ++ (n', v) :: after))
  | value {place : List Nat} {n n' : Node} (before after : List (Node × Node)) (k : Node)
    (h : Added key value index place n n') :
    Added key value index ((2 * before.length + 1) :: place) (mapping (before ++ (k, n) :: after))
      (mapping (before ++ (k, n') :: after))

/-- Where the node at a place lies once the mapping at `place` has a new entry `index`. No place is
moved into the new entry. -/
def moved (index : Nat) : List Nat → List Nat → List Nat
  | _, [] => []
  | [], i :: p => (if i < 2 * index then i else i + 2) :: p
  | j :: place, i :: p => i :: if i = j then moved index place p else p

lemma moved_self (index : Nat) (place : List Nat) : moved index place place = place := by
  induction place with
  | nil => rfl
  | cons j place ih => rw [moved, if_pos rfl, ih]

/-- The parts of a node stay its parts, and only those of the mapping itself get other numbers. -/
lemma moved_concat (index : Nat) (place p : List Nat) (i : Nat) :
    moved index place (p ++ [i]) =
      moved index place p ++ [if p = place ∧ 2 * index ≤ i then i + 2 else i] := by
  induction place generalizing p with
  | nil =>
    cases p with
    | nil =>
      by_cases hi : i < 2 * index
      · simp [moved, hi]
      · simp [moved, hi, Nat.le_of_not_lt hi]
    | cons k p => simp [moved]
  | cons j place ih =>
    cases p with
    | nil => simp [moved]
    | cons k p =>
      by_cases hk : k = j
      · simp [moved, hk, ih]
      · simp [moved, hk]

/-- The key and the value of an entry stay together. -/
lemma exists_moved_entry (index : Nat) (place p : List Nat) (i : Nat) :
    ∃ j, moved index place (p ++ [2 * i]) = moved index place p ++ [2 * j] ∧
      moved index place (p ++ [2 * i + 1]) = moved index place p ++ [2 * j + 1] := by
  rw [moved_concat, moved_concat]
  by_cases h : p = place ∧ index ≤ i
  · exact ⟨i + 1, by rw [if_pos ⟨h.1, by omega⟩]; rfl, by rw [if_pos ⟨h.1, by omega⟩]; rfl⟩
  · have hkey : ¬(p = place ∧ 2 * index ≤ 2 * i) := by
      rintro ⟨hp, hle⟩
      exact h ⟨hp, by omega⟩
    have hvalue : ¬(p = place ∧ 2 * index ≤ 2 * i + 1) := by
      rintro ⟨hp, hle⟩
      exact h ⟨hp, by omega⟩
    exact ⟨i, by rw [if_neg hkey], by rw [if_neg hvalue]⟩

/-- Above the mapping an addition changes a single part, whichever kind of part it is. -/
lemma Added.parts_induction {P : List Nat → Node → Node → Prop}
    (here : ∀ {before after : List (Node × Node)}, before.length = index →
      P [] (mapping (before ++ after)) (mapping (before ++ (key, value) :: after)))
    (behind : ∀ {place n n'} (anchor : Nat), P place n n' →
      P place (.anchored anchor n) (.anchored anchor n'))
    (below : ∀ {place before after c c' n m}, m.shape = n.shape → m.marks = n.marks →
      n.parts = before ++ c :: after → m.parts = before ++ c' :: after → P place c c' →
      P (before.length :: place) n m)
    (h : Added key value index place n n') : P place n n' := by
  induction h with
  | here h => exact here h
  | anchored anchor _ ih => exact behind anchor ih
  | @item place c c' before after _ ih =>
    exact below (n := sequence (before ++ c :: after)) (m := sequence (before ++ c' :: after))
      rfl rfl rfl rfl ih
  | @key place c c' before after v _ ih =>
    rw [← length_flatten]
    exact below (n := mapping (before ++ (c, v) :: after))
      (m := mapping (before ++ (c', v) :: after)) rfl rfl (flatten_append _ _)
      (flatten_append _ _) ih
  | @value place c c' before after k _ ih =>
    have hlength : 2 * before.length + 1 = (flatten before ++ [k]).length := by
      rw [List.length_append, length_flatten, List.length_singleton]
    have hparts : ∀ c, (mapping (before ++ (k, c) :: after)).parts =
        (flatten before ++ [k]) ++ c :: flatten after := by
      intro c
      rw [List.append_assoc]
      exact flatten_append _ _
    rw [hlength]
    exact below (n := mapping (before ++ (k, c) :: after))
      (m := mapping (before ++ (k, c') :: after)) rfl rfl (hparts c) (hparts c') ih

/-! ### What an addition keeps -/

lemma shapeAt?_below (hshape : n'.shape = n.shape) (hparts : n.parts = before ++ c :: after)
    (hparts' : n'.parts = before ++ c' :: after)
    (h : ∀ p, c'.shapeAt? (moved index place p) = c.shapeAt? p) (p : List Nat) :
    n'.shapeAt? (moved index (before.length :: place) p) = n.shapeAt? p := by
  cases p with
  | nil => rw [moved, shapeAt?_nil, shapeAt?_nil, hshape]
  | cons i p =>
    rw [moved, shapeAt?_cons, shapeAt?_cons, hparts, hparts']
    by_cases hi : i = before.length
    · simp [hi, h p]
    · rw [if_neg hi, List.getElem?_append, List.getElem?_append]
      split
      · rfl
      · obtain ⟨k, hk⟩ : ∃ k, i - before.length = k + 1 := ⟨i - before.length - 1, by omega⟩
        rw [hk]
        rfl

lemma shapeAt?_here (entries after : List (Node × Node)) (p : List Nat) :
    (mapping (entries ++ (key, value) :: after)).shapeAt? (moved entries.length [] p) =
      (mapping (entries ++ after)).shapeAt? p := by
  cases p with
  | nil => rfl
  | cons i p =>
    have hlength := length_flatten entries
    rw [moved, shapeAt?_cons, shapeAt?_cons, parts, parts, flatten_append, flatten_append,
      flatten_cons]
    split
    · rw [List.getElem?_append_left (by omega), List.getElem?_append_left (by omega)]
    · have hi : i + 2 - (flatten entries).length = i - (flatten entries).length + 2 := by omega
      rw [List.getElem?_append_right (by omega), List.getElem?_append_right (by omega), hi]
      rfl

/-- Every node keeps its shape at the place to which it is moved. -/
lemma Added.shapeAt?_moved (h : Added key value index place root root') (p : List Nat) :
    root'.shapeAt? (moved index place p) = root.shapeAt? p := by
  revert p
  refine h.parts_induction (P := fun place n n' =>
    ∀ p, n'.shapeAt? (moved index place p) = n.shapeAt? p) ?_ ?_ ?_
  · rintro before after rfl p
    exact shapeAt?_here before after p
  · intro place n n' anchor ih p
    rw [shapeAt?_anchored, shapeAt?_anchored]
    exact ih p
  · intro place before after c c' n n' hshape _ hparts hparts' ih p
    exact shapeAt?_below hshape hparts hparts' ih p

/-- The places of anchors, each moved. -/
def relocate (index : Nat) (place : List Nat) (places : List (Nat × List Nat)) :
    List (Nat × List Nat) :=
  places.map fun x => (x.1, moved index place x.2)

lemma relocate_append (index : Nat) (place : List Nat) (l r : List (Nat × List Nat)) :
    relocate index place (l ++ r) = relocate index place l ++ relocate index place r :=
  List.map_append

lemma relocate_marks (index : Nat) (place : List Nat) (marks : List Nat) :
    relocate index place (marks.map fun anchor => (anchor, [])) =
      marks.map fun anchor => (anchor, []) := by
  rw [relocate, List.map_map]
  refine List.map_congr_left fun anchor _ => ?_
  rw [Function.comp_apply, moved]

lemma relocate_items {start : Nat}
    (h : ∀ i p, start ≤ i → i < start + items.length → moved index place (i :: p) = i :: p) :
    relocate index place (anchorPlacesOfItems start items) = anchorPlacesOfItems start items := by
  rw [relocate]
  refine (List.map_congr_left fun x hx => ?_).trans (List.map_id _)
  obtain ⟨i, p, hp, hle, hlt⟩ := mem_anchorPlacesOfItems hx
  rw [hp, h i p hle hlt, ← hp]
  rfl

lemma relocate_part (index j : Nat) (place : List Nat) (places : List (Nat × List Nat)) :
    relocate index (j :: place) (under j places) = under j (relocate index place places) := by
  rw [relocate, relocate, under, under, List.map_map, List.map_map]
  refine List.map_congr_left fun x _ => ?_
  rw [Function.comp_apply, Function.comp_apply, moved, if_pos rfl]

/-- The parts behind a new entry get numbers that are higher by two. -/
lemma relocate_behind {start : Nat} (h : 2 * index ≤ start) (items : List Node) :
    relocate index [] (anchorPlacesOfItems start items) =
      anchorPlacesOfItems (start + 2) items := by
  induction items generalizing start with
  | nil => rfl
  | cons item items ih =>
    have hrest : relocate index [] (anchorPlacesOfItems (start + 1) items) =
        anchorPlacesOfItems (start + 1 + 2) items := ih (by omega)
    rw [anchorPlacesOfItems, anchorPlacesOfItems, relocate_append, hrest]
    congr 1
    rw [relocate, under, under, List.map_map]
    refine List.map_congr_left fun x _ => ?_
    rw [Function.comp_apply, moved, if_neg (by omega)]

lemma anchorPlaces_below (hmarks : n'.marks = n.marks) (hparts : n.parts = before ++ c :: after)
    (hparts' : n'.parts = before ++ c' :: after)
    (h : c'.anchorPlaces = relocate index place c.anchorPlaces) :
    n'.anchorPlaces = relocate index (before.length :: place) n.anchorPlaces := by
  -- Only the part that changes has places that begin with its number.
  have hbefore : relocate index (before.length :: place) (anchorPlacesOfItems 0 before) =
      anchorPlacesOfItems 0 before :=
    relocate_items fun i p _ hlt => by rw [moved, if_neg (by omega)]
  have hafter : relocate index (before.length :: place)
      (anchorPlacesOfItems (0 + before.length + 1) after) =
        anchorPlacesOfItems (0 + before.length + 1) after :=
    relocate_items fun i p hle _ => by rw [moved, if_neg (by omega)]
  rw [anchorPlaces_eq n, anchorPlaces_eq n', hmarks, hparts, hparts', anchorPlacesOfItems_append,
    anchorPlacesOfItems_append, anchorPlacesOfItems, anchorPlacesOfItems, relocate_append,
    relocate_append, relocate_append, relocate_marks, hbefore, hafter, h, Nat.zero_add,
    relocate_part]

lemma anchorPlaces_here (hkey : key.anchors = []) (hvalue : value.anchors = [])
    (entries after : List (Node × Node)) :
    (mapping (entries ++ (key, value) :: after)).anchorPlaces =
      relocate entries.length [] (mapping (entries ++ after)).anchorPlaces := by
  have hlength := length_flatten entries
  have hbefore : relocate entries.length [] (anchorPlacesOfItems 0 (flatten entries)) =
      anchorPlacesOfItems 0 (flatten entries) :=
    relocate_items fun i p _ hlt => by rw [moved, if_pos (by omega)]
  have hafter : relocate entries.length []
      (anchorPlacesOfItems (flatten entries).length (flatten after)) =
        anchorPlacesOfItems ((flatten entries).length + 2) (flatten after) :=
    relocate_behind (by omega) _
  rw [anchorPlaces_eq, anchorPlaces_eq, parts, parts, flatten_append, flatten_append, flatten_cons,
    anchorPlacesOfItems_append, anchorPlacesOfItems_append, anchorPlacesOfItems,
    anchorPlacesOfItems, anchorPlaces_eq_nil hkey, anchorPlaces_eq_nil hvalue, relocate_append,
    relocate_append, relocate_marks, hbefore, Nat.zero_add, hafter]
  rfl

/-- Without anchors in the entry, those of the document are moved and no other is there. -/
lemma Added.anchorPlaces_eq (h : Added key value index place root root')
    (hkey : key.anchors = []) (hvalue : value.anchors = []) :
    root'.anchorPlaces = relocate index place root.anchorPlaces := by
  refine h.parts_induction (P := fun place n n' =>
    n'.anchorPlaces = relocate index place n.anchorPlaces) ?_ ?_ ?_
  · rintro before after rfl
    exact anchorPlaces_here hkey hvalue before after
  · intro place n n' anchor ih
    rw [anchorPlaces, anchorPlaces, ih, relocate, relocate, List.map_cons, moved]
  · intro place before after c c' n n' _ hmarks hparts hparts' ih
    exact anchorPlaces_below hmarks hparts hparts' ih

lemma Added.targetPlace?_eq (h : Added key value index place root root')
    (hkey : key.anchors = []) (hvalue : value.anchors = []) (anchor : Nat) :
    root'.targetPlace? anchor = (root.targetPlace? anchor).map (moved index place) := by
  rw [targetPlace?, targetPlace?, h.anchorPlaces_eq hkey hvalue, relocate, List.filter_map,
    List.getLast?_map, Option.map_map, Option.map_map]
  rfl

/-- Without anchors in the entry, every place stands for the node that it stood for. -/
lemma Added.standing?_moved (h : Added key value index place root root')
    (hkey : key.anchors = []) (hvalue : value.anchors = []) (p : List Nat) :
    root'.standing? (moved index place p) = (root.standing? p).map (moved index place) := by
  rw [standing?, standing?, h.shapeAt?_moved]
  split
  · exact h.targetPlace?_eq hkey hvalue _
  · rfl
  · rfl

lemma Added.spelling?_moved (h : Added key value index place root root')
    (hkey : key.anchors = []) (hvalue : value.anchors = []) (p : List Nat) :
    root'.spelling? (moved index place p) = root.spelling? p := by
  have hshape : root'.shapeAt? ∘ moved index place = root.shapeAt? := funext h.shapeAt?_moved
  rw [spelling?, spelling?, h.standing?_moved hkey hvalue, Option.bind_map, hshape]

/-- What an entry is added to is a mapping. -/
lemma Added.shapeAt?_place (h : Added key value index place root root') :
    root'.shapeAt? place = some .mapping := by
  refine h.parts_induction (P := fun place _ n' => n'.shapeAt? place = some .mapping) ?_ ?_ ?_
  · intro before after _
    rfl
  · intro place n n' anchor ih
    rw [shapeAt?_anchored, ih]
  · intro place before after c c' n n' _ _ _ hparts ih
    rw [shapeAt?_cons, hparts, List.getElem?_append_right (Nat.le_refl _), Nat.sub_self]
    exact ih

end CascadingForms.Yaml.Node
