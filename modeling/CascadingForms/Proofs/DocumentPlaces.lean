import CascadingForms.Proofs.Lineages
import CascadingForms.Yaml.Reading

/-!
# Places in documents

The parts of a node are the items of a sequence, or the keys and values of a mapping in turns; an
anchor adds no part, since readers see through it. So entry `i` of a mapping has its key at part
`2 * i` and its value right behind. An alias stands for the node at another place, the last one in
the document that carries its anchor.
-/

namespace CascadingForms.Yaml

/-- What a node is, without its parts. -/
inductive Shape where
  | alias (anchor : Nat)
  | scalar (text : String)
  | sequence
  | mapping
deriving DecidableEq

namespace Node

def flatten (entries : List (Node × Node)) : List Node :=
  entries.flatMap fun (key, value) => [key, value]

def parts : Node → List Node
  | reference _ => []
  | scalar _ _ _ => []
  | sequence items => items
  | mapping entries => flatten entries
  | anchored _ node => node.parts

def shape : Node → Shape
  | reference anchor => .alias anchor
  | scalar _ _ text => .scalar text
  | sequence _ => .sequence
  | mapping _ => .mapping
  | anchored _ node => node.shape

/-- The anchors in front of a node. -/
def marks : Node → List Nat
  | anchored anchor node => anchor :: node.marks
  | _ => []

/-- The node at a place, without its anchors. -/
def at? (root : Node) (place : List Nat) : Option Node := (node? parts root place).map strip

def shapeAt? (root : Node) (place : List Nat) : Option Shape := (root.at? place).map shape

/-- Places of a node, as places of one that has this node as a part. -/
def under (i : Nat) (places : List (Nat × List Nat)) : List (Nat × List Nat) :=
  places.map fun x => (x.1, i :: x.2)

mutual

/-- The places of the nodes that carry an anchor, in the order in which they start. -/
def anchorPlaces : Node → List (Nat × List Nat)
  | reference _ => []
  | scalar _ _ _ => []
  | sequence items => anchorPlacesOfItems 0 items
  | mapping entries => anchorPlacesOfEntries 0 entries
  | anchored anchor node => (anchor, []) :: node.anchorPlaces

def anchorPlacesOfItems (start : Nat) : List Node → List (Nat × List Nat)
  | [] => []
  | item :: items => under start item.anchorPlaces ++ anchorPlacesOfItems (start + 1) items

def anchorPlacesOfEntries (start : Nat) : List (Node × Node) → List (Nat × List Nat)
  | [] => []
  | (key, value) :: entries =>
    under start key.anchorPlaces ++ under (start + 1) value.anchorPlaces ++
      anchorPlacesOfEntries (start + 2) entries

end

/-- The place of the node that an alias for an anchor stands for. -/
def targetPlace? (root : Node) (anchor : Nat) : Option (List Nat) :=
  ((root.anchorPlaces.filter (·.1 = anchor)).getLast?).map (·.2)

/-- The place whose node stands at a place: that of its target for an alias, and else the place
itself. -/
def standing? (root : Node) (place : List Nat) : Option (List Nat) :=
  match root.shapeAt? place with
  | some (.alias anchor) => root.targetPlace? anchor
  | some _ => some place
  | none => none

/-- The text of the scalar that stands at a place. -/
def spelling? (root : Node) (place : List Nat) : Option String :=
  match (root.standing? place).bind root.shapeAt? with
  | some (.scalar text) => some text
  | _ => none

/-! ### Parts -/

variable {n c root : Node} {items before : List Node} {p : List Nat}

lemma flatten_cons (entry : Node × Node) (entries : List (Node × Node)) :
    flatten (entry :: entries) = entry.1 :: entry.2 :: flatten entries := rfl

lemma flatten_append (before after : List (Node × Node)) :
    flatten (before ++ after) = flatten before ++ flatten after := by
  rw [flatten, List.flatMap_append]
  rfl

lemma length_flatten (entries : List (Node × Node)) :
    (flatten entries).length = 2 * entries.length := by
  induction entries with
  | nil => rfl
  | cons entry entries ih =>
    rw [flatten_cons, List.length_cons, List.length_cons, List.length_cons, ih]
    omega

lemma getElem?_flatten (entries : List (Node × Node)) (i : Nat) :
    (flatten entries)[2 * i]? = entries[i]?.map Prod.fst ∧
      (flatten entries)[2 * i + 1]? = entries[i]?.map Prod.snd := by
  induction entries generalizing i with
  | nil => simp [flatten]
  | cons entry entries ih =>
    cases i with
    | zero => exact ⟨rfl, rfl⟩
    | succ i => exact ih i

lemma parts_strip : ∀ n : Node, n.strip.parts = n.parts
  | reference _ => rfl
  | scalar _ _ _ => rfl
  | sequence _ => rfl
  | mapping _ => rfl
  | anchored _ node => parts_strip node

lemma shape_strip : ∀ n : Node, n.strip.shape = n.shape
  | reference _ => rfl
  | scalar _ _ _ => rfl
  | sequence _ => rfl
  | mapping _ => rfl
  | anchored _ node => shape_strip node

lemma strip_strip : ∀ n : Node, n.strip.strip = n.strip
  | reference _ => rfl
  | scalar _ _ _ => rfl
  | sequence _ => rfl
  | mapping _ => rfl
  | anchored _ node => strip_strip node

lemma strip_ne_anchored : ∀ (n : Node) (anchor : Nat) (m : Node), n.strip ≠ anchored anchor m
  | reference _, _, _ => nofun
  | scalar _ _ _, _, _ => nofun
  | sequence _, _, _ => nofun
  | mapping _, _, _ => nofun
  | anchored _ node, anchor, m => strip_ne_anchored node anchor m

lemma size_le_of_mem_items (h : c ∈ items) : c.size ≤ sizeOfItems items := by
  induction items with
  | nil => cases h
  | cons item items ih =>
    rw [sizeOfItems]
    rcases List.mem_cons.mp h with rfl | h
    · omega
    · have hle := ih h
      omega

lemma sizeOfEntries_eq (entries : List (Node × Node)) :
    sizeOfEntries entries = sizeOfItems (flatten entries) := by
  induction entries with
  | nil => rfl
  | cons entry entries ih =>
    rw [flatten_cons, sizeOfEntries, sizeOfItems, sizeOfItems, ih]
    omega

lemma size_lt_of_mem_parts : ∀ {n : Node}, c ∈ n.parts → c.size < n.size
  | sequence items, h => by
    have hle : c.size ≤ sizeOfItems items := size_le_of_mem_items h
    rw [size]
    omega
  | mapping entries, h => by
    have hle : c.size ≤ sizeOfItems (flatten entries) := size_le_of_mem_items h
    rw [size, sizeOfEntries_eq]
    omega
  | anchored _ node, h => size_lt_of_mem_parts (n := node) h

/-- What holds of a node if it holds of its parts holds of every node. -/
lemma parts_induction {P : Node → Prop} (step : ∀ n : Node, (∀ c ∈ n.parts, P c) → P n)
    (n : Node) : P n := by
  induction hsize : n.size using Nat.strongRecOn generalizing n with
  | _ size ih =>
    refine step n fun c hc => ih c.size ?_ c rfl
    rw [← hsize]
    exact size_lt_of_mem_parts hc

/-! ### Nodes at places -/

lemma at?_nil (n : Node) : n.at? [] = some n.strip := rfl

lemma at?_cons (n : Node) (i : Nat) (place : List Nat) :
    n.at? (i :: place) = n.parts[i]?.bind fun c => c.at? place := by
  rw [at?, node?_cons, Option.map_bind]
  rfl

lemma at?_anchored (anchor : Nat) (n : Node) (place : List Nat) :
    (anchored anchor n).at? place = n.at? place := by
  cases place with
  | nil => rfl
  | cons i place =>
    rw [at?_cons, at?_cons]
    rfl

lemma at?_concat (n : Node) (place : List Nat) (i : Nat) :
    n.at? (place ++ [i]) = (n.at? place).bind fun m => m.parts[i]?.map strip := by
  induction place generalizing n with
  | nil =>
    rw [List.nil_append, at?_cons, at?_nil, Option.bind_some, parts_strip]
    cases n.parts[i]? <;> rfl
  | cons j place ih =>
    rw [List.cons_append, at?_cons, at?_cons]
    cases n.parts[j]? with
    | none => rfl
    | some c => exact ih c

lemma shapeAt?_nil (n : Node) : n.shapeAt? [] = some n.shape := by
  rw [shapeAt?, at?_nil, Option.map_some, shape_strip]

lemma shapeAt?_cons (n : Node) (i : Nat) (place : List Nat) :
    n.shapeAt? (i :: place) = n.parts[i]?.bind fun c => c.shapeAt? place := by
  rw [shapeAt?, at?_cons, Option.map_bind]
  rfl

lemma shapeAt?_anchored (anchor : Nat) (n : Node) (place : List Nat) :
    (anchored anchor n).shapeAt? place = n.shapeAt? place := by
  rw [shapeAt?, at?_anchored]
  rfl

lemma eq_mapping_of_shape : ∀ {n : Node}, n.shape = .mapping →
    ∃ entries, n.strip = .mapping entries
  | mapping entries, _ => ⟨entries, rfl⟩
  | anchored _ node, h => eq_mapping_of_shape (n := node) h

lemma eq_sequence_of_shape : ∀ {n : Node}, n.shape = .sequence →
    ∃ items, n.strip = .sequence items
  | sequence items, _ => ⟨items, rfl⟩
  | anchored _ node, h => eq_sequence_of_shape (n := node) h

lemma eq_scalar_of_shape {text : String} : ∀ {n : Node}, n.shape = .scalar text →
    ∃ tag style, n.strip = .scalar tag style text
  | scalar tag style _, h => ⟨tag, style, congrArg (scalar tag style) (Shape.scalar.inj h)⟩
  | anchored _ node, h => eq_scalar_of_shape (n := node) h

lemma strip_of_at? (h : root.at? p = some n) : n.strip = n := by
  obtain ⟨m, -, rfl⟩ := Option.map_eq_some_iff.mp h
  exact strip_strip m

lemma shapeAt?_of_at? (h : root.at? p = some n) : root.shapeAt? p = some n.shape := by
  rw [shapeAt?, h, Option.map_some]

lemma at?_of_shape_mapping (h : root.shapeAt? p = some .mapping) :
    ∃ entries, root.at? p = some (.mapping entries) := by
  obtain ⟨n, hn, hshape⟩ := Option.map_eq_some_iff.mp h
  obtain ⟨entries, hentries⟩ := eq_mapping_of_shape hshape
  rw [strip_of_at? hn] at hentries
  exact ⟨entries, by rw [hn, hentries]⟩

lemma at?_of_shape_sequence (h : root.shapeAt? p = some .sequence) :
    ∃ items, root.at? p = some (.sequence items) := by
  obtain ⟨n, hn, hshape⟩ := Option.map_eq_some_iff.mp h
  obtain ⟨items, hitems⟩ := eq_sequence_of_shape hshape
  rw [strip_of_at? hn] at hitems
  exact ⟨items, by rw [hn, hitems]⟩

/-! ### Anchors and aliases -/

lemma anchorsOfEntries_eq (entries : List (Node × Node)) :
    anchorsOfEntries entries = anchorsOfItems (flatten entries) := by
  induction entries with
  | nil => rfl
  | cons entry entries ih =>
    rw [flatten_cons, anchorsOfEntries, anchorsOfItems, anchorsOfItems, ih, List.append_assoc]

lemma anchorPlacesOfEntries_eq (start : Nat) (entries : List (Node × Node)) :
    anchorPlacesOfEntries start entries = anchorPlacesOfItems start (flatten entries) := by
  induction entries generalizing start with
  | nil => rfl
  | cons entry entries ih =>
    rw [flatten_cons, anchorPlacesOfEntries, anchorPlacesOfItems, anchorPlacesOfItems, ih,
      List.append_assoc]

lemma anchorPlaces_eq : ∀ n : Node,
    n.anchorPlaces = n.marks.map (fun anchor => (anchor, [])) ++ anchorPlacesOfItems 0 n.parts
  | reference _ => rfl
  | scalar _ _ _ => rfl
  | sequence _ => rfl
  | mapping entries => anchorPlacesOfEntries_eq 0 entries
  | anchored anchor node => congrArg ((anchor, []) :: ·) (anchorPlaces_eq node)

lemma anchorPlacesOfItems_append (start : Nat) (before after : List Node) :
    anchorPlacesOfItems start (before ++ after) =
      anchorPlacesOfItems start before ++ anchorPlacesOfItems (start + before.length) after := by
  induction before generalizing start with
  | nil => rfl
  | cons item before ih =>
    have hstart : start + (item :: before).length = start + 1 + before.length := by
      rw [List.length_cons]
      omega
    rw [List.cons_append, anchorPlacesOfItems, anchorPlacesOfItems, ih, List.append_assoc, hstart]

lemma mem_anchorPlacesOfItems {start : Nat} {x : Nat × List Nat}
    (h : x ∈ anchorPlacesOfItems start items) :
    ∃ i place, x.2 = i :: place ∧ start ≤ i ∧ i < start + items.length := by
  induction items generalizing start with
  | nil => cases h
  | cons item items ih =>
    rw [List.length_cons]
    rcases List.mem_append.mp h with h | h
    · obtain ⟨y, -, rfl⟩ := List.mem_map.mp h
      exact ⟨start, y.2, rfl, by omega, by omega⟩
    · obtain ⟨i, place, hplace, hle, hlt⟩ := ih h
      exact ⟨i, place, hplace, by omega, by omega⟩

/-- The anchored nodes are, in order, the nodes at the places of the anchors. -/
def AnchorsAgree (n : Node) : Prop :=
  n.anchors.map (fun x => (x.1, some x.2.strip)) =
    n.anchorPlaces.map fun x => (x.1, n.at? x.2)

lemma anchorsAgree_items (hparts : n.parts = before ++ items)
    (hitems : ∀ c ∈ items, AnchorsAgree c) :
    (anchorsOfItems items).map (fun x => (x.1, some x.2.strip)) =
      (anchorPlacesOfItems before.length items).map fun x => (x.1, n.at? x.2) := by
  induction items generalizing before with
  | nil => rfl
  | cons item items ih =>
    have hitem : n.parts[before.length]? = some item := by
      rw [hparts]
      simp
    have hrestParts : n.parts = (before ++ [item]) ++ items := by
      rw [hparts]
      simp
    have hrest := ih hrestParts fun c hc => hitems c (List.mem_cons_of_mem _ hc)
    rw [List.length_append, List.length_singleton] at hrest
    rw [anchorsOfItems, anchorPlacesOfItems, List.map_append, List.map_append, hrest,
      hitems item List.mem_cons_self, under, List.map_map]
    congr 2
    funext x
    rw [Function.comp_apply, at?_cons, hitem, Option.bind_some]

lemma anchorsAgree_of_parts : ∀ n : Node, (∀ c ∈ n.parts, AnchorsAgree c) → AnchorsAgree n
  | reference _, _ => rfl
  | scalar _ _ _, _ => rfl
  | sequence _, h => anchorsAgree_items (List.nil_append _).symm h
  | mapping entries, h => by
    rw [AnchorsAgree, anchors, anchorPlaces, anchorsOfEntries_eq, anchorPlacesOfEntries_eq]
    exact anchorsAgree_items (n := mapping entries) (List.nil_append _).symm h
  | anchored anchor node, h => by
    have hnode := anchorsAgree_of_parts node h
    rw [AnchorsAgree] at hnode
    rw [AnchorsAgree, anchors, anchorPlaces, List.map_cons, List.map_cons, hnode]
    simp only [at?_anchored, at?_nil]
    rfl

lemma anchorsAgree (n : Node) : AnchorsAgree n := parts_induction anchorsAgree_of_parts n

/-- An alias stands for the node at the place that is found for its anchor. -/
lemma target?_map_strip (root : Node) (anchor : Nat) :
    (root.target? anchor).map strip = (root.targetPlace? anchor).bind root.at? := by
  have hagree := congrArg (fun l => (l.filter (·.1 = anchor)).getLast?.bind (·.2))
    (anchorsAgree root)
  simp only [List.filter_map, List.getLast?_map, Option.bind_map] at hagree
  rw [target?, targetPlace?, Option.map_map, Option.map_eq_bind, Option.bind_map]
  exact hagree

lemma anchorPlaces_eq_nil (h : n.anchors = []) : n.anchorPlaces = [] := by
  have hagree := anchorsAgree n
  rw [AnchorsAgree, h, List.map_nil] at hagree
  exact List.map_eq_nil_iff.mp hagree.symm

/-! ### Comparing documents -/

mutual

/-- Whether two nodes are the same, to be decided by computation. -/
def same : Node → Node → Bool
  | reference a, reference b => a = b
  | scalar tag style text, scalar tag' style' text' => tag = tag' && style = style' && text = text'
  | sequence items, sequence items' => sameItems items items'
  | mapping entries, mapping entries' => sameEntries entries entries'
  | anchored a n, anchored b m => a = b && n.same m
  | _, _ => false

def sameItems : List Node → List Node → Bool
  | [], [] => true
  | item :: items, item' :: items' => item.same item' && sameItems items items'
  | _, _ => false

def sameEntries : List (Node × Node) → List (Node × Node) → Bool
  | [], [] => true
  | (key, value) :: entries, (key', value') :: entries' =>
    key.same key' && value.same value' && sameEntries entries entries'
  | _, _ => false

end

mutual

lemma eq_of_same : ∀ {n m : Node}, n.same m = true → n = m
  | reference a, reference b, h => by simpa [same] using h
  | scalar tag style text, scalar tag' style' text', h => by simpa [same, and_assoc] using h
  | sequence items, sequence items', h => congrArg sequence (eq_of_sameItems h)
  | mapping entries, mapping entries', h => congrArg mapping (eq_of_sameEntries h)
  | anchored a n, anchored b m, h => by
    rw [same, Bool.and_eq_true] at h
    rw [of_decide_eq_true h.1, eq_of_same h.2]

lemma eq_of_sameItems : ∀ {items items' : List Node}, sameItems items items' = true → items = items'
  | [], [], _ => rfl
  | item :: items, item' :: items', h => by
    rw [sameItems, Bool.and_eq_true] at h
    rw [eq_of_same h.1, eq_of_sameItems h.2]

lemma eq_of_sameEntries : ∀ {entries entries' : List (Node × Node)},
    sameEntries entries entries' = true → entries = entries'
  | [], [], _ => rfl
  | (key, value) :: entries, (key', value') :: entries', h => by
    rw [sameEntries, Bool.and_eq_true, Bool.and_eq_true] at h
    rw [eq_of_same h.1.1, eq_of_same h.1.2, eq_of_sameEntries h.2]

end

/-- The document of a text, found by comparison. -/
lemma ofText_eq_of_same {text : String} (h : (ofText text).toOption.any (·.same root) = true) :
    ofText text = .ok root := by
  cases htext : ofText text with
  | error e =>
    rw [htext] at h
    cases h
  | ok n =>
    rw [htext] at h
    rw [eq_of_same h]

end Node

end CascadingForms.Yaml
