import CascadingForms.Proofs.WellFormedMenus
import Mathlib.Data.List.Count
import Mathlib.Data.List.Sort

/-!
# Located issues

The issues of a menu are collected in one pass from the root down. This file says what the pass
comes to place by place: `Entry.places` lists the places of a menu in order, each once, and
`Entry.multiplicity` how often each defect is found at an entry. So no defect hides another, and
what lies at and below a place has no influence on the issues of all other places, as long as its
key stays.
-/

namespace CascadingForms

/-! ### The defects of one entry -/

namespace Text

/-- A template path that is absolute, has a backslash or goes up. -/
def Escapes (path : String) : Prop :=
  path.toList.head? = some '/' ∨ '\\' ∈ path.toList ∨ ['.', '.'] ∈ path.toList.splitOn '/'

instance (path : String) : Decidable (Escapes path) := inferInstanceAs (Decidable (_ ∨ _ ∨ _))

/-- A dot and something after it. -/
def IsFileExtension (s : String) : Prop := s.toList.head? = some '.' ∧ 2 ≤ s.utf8ByteSize

instance (s : String) : Decidable (IsFileExtension s) := inferInstanceAs (Decidable (_ ∧ _))

end Text

lemma escapesScripts_eq_decide (path : String) :
    escapesScripts path = decide (Text.Escapes path) := by
  have hfalse := escapesScripts_eq_false_iff path
  cases hescapes : escapesScripts path with
  | false =>
    obtain ⟨hrelative, hbackslash, hparent⟩ := hfalse.mp hescapes
    simp [Text.Escapes, hrelative, hbackslash, hparent]
  | true =>
    symm
    rw [decide_eq_true_iff]
    by_contra hnot
    rw [Text.Escapes, not_or, not_or] at hnot
    cases (hfalse.mpr hnot).symm.trans hescapes

lemma isExtension_eq_decide (s : String) : isExtension s = decide (Text.IsFileExtension s) := by
  rw [Bool.eq_iff_iff, isExtension_iff, decide_eq_true_iff, Text.IsFileExtension]

lemma count_defectIf (condition : Bool) (defect other : Defect) :
    (defectIf condition defect).count other =
      if condition = true ∧ defect = other then 1 else 0 := by
  cases condition with
  | false => simp [defectIf]
  | true => simp [defectIf, List.count_singleton]

/-- A key is repeated as often as it comes after the first time, or at all if it has been seen. -/
lemma count_repeats (seen keys : List String) (key : String) :
    (repeats seen keys).count key = keys.count key - if key ∈ seen then 0 else 1 := by
  induction keys generalizing seen with
  | nil => simp [repeats]
  | cons first keys ih =>
    rw [repeats]
    by_cases hseen : first ∈ seen
    · rw [if_pos (by simpa using hseen), List.count_cons, List.count_cons, ih]
      by_cases hfirst : first = key
      · subst hfirst
        simp [hseen]
      · simp [hfirst]
    · rw [if_neg (by simpa using hseen), List.count_cons, ih]
      by_cases hfirst : first = key
      · subst hfirst
        simp [hseen]
      · simp [hfirst, Ne.symm hfirst]

lemma count_map_of_ne {f : String → Defect} {defect : Defect} (h : ∀ s, f s ≠ defect)
    (l : List String) : (l.map f).count defect = 0 := by
  rw [List.count_eq_zero]
  intro hmem
  obtain ⟨s, -, hs⟩ := List.mem_map.mp hmem
  exact h s hs

lemma count_map_repeatedSibling (l : List String) (key : String) :
    (l.map Defect.repeatedSibling).count (.repeatedSibling key) = l.count key :=
  List.count_map_of_injective l _ (fun _ _ h => Defect.repeatedSibling.inj h) key

lemma count_map_repeatedExercise (l : List String) (key : String) :
    (l.map Defect.repeatedExercise).count (.repeatedExercise key) = l.count key :=
  List.count_map_of_injective l _ (fun _ _ h => Defect.repeatedExercise.inj h) key

lemma count_map_badExtension (l : List String) (s : String) :
    (l.map Defect.badExtension).count (.badExtension s) = l.count s :=
  List.count_map_of_injective l _ (fun _ _ h => Defect.badExtension.inj h) s

lemma count_filter_not_isExtension (l : List String) (s : String) :
    (l.filter fun e => !isExtension e).count s =
      if Text.IsFileExtension s then 0 else l.count s := by
  by_cases hs : Text.IsFileExtension s
  · rw [if_pos hs, List.count_eq_zero]
    intro hmem
    have hbad := (List.mem_filter.mp hmem).2
    simp [isExtension_eq_decide, hs] at hbad
  · rw [if_neg hs]
    exact List.count_filter (by simp [isExtension_eq_decide, hs])

/-- How often a defect is found at a key, given the keys above it. -/
def Entry.keyMultiplicity (ancestors : List String) (key : String) : Defect → Nat
  | .emptyKey => if key = "" then 1 else 0
  | .blankInKey other => if key.toList.any Text.isBlank ∧ key = other then 1 else 0
  | .reservedKey other => if key ∈ Field.reserved ∧ key = other then 1 else 0
  | .repeatedAncestor other => if key ∈ ancestors ∧ key = other then 1 else 0
  | _ => 0

def Descriptor.multiplicity (d : Descriptor) : Defect → Nat
  | .escapingPath path => if Text.Escapes d.path ∧ d.path = path then 1 else 0
  | .badExtension s => if Text.IsFileExtension s then 0 else d.acceptedExtensions.count s
  | .repeatedExercise key => (d.exercises.map Choice.key).count key - 1
  | .emptyPicker => if d.allowsMultipleExercises = true ∧ d.exercises = [] then 1 else 0
  | _ => 0

namespace Entry

def leafMultiplicity (e : Entry) (defect : Defect) : Nat :=
  (if e.prompt ≠ none ∧ .missingChildren = defect then 1 else 0) +
    match e.descriptor with
    | none => if .missingDescriptor = defect then 1 else 0
    | some d => d.multiplicity defect

def branchMultiplicity (e : Entry) : Defect → Nat
  | .missingPrompt => if e.prompt.all fun s => s.toList.all Text.isBlank then 1 else 0
  | .unexpectedDescriptor => if e.descriptor ≠ none then 1 else 0
  | .repeatedSibling key => e.childKeys.count key - 1
  | _ => 0

/-- How often a defect is found at an entry itself, given the keys above it. -/
def multiplicity (ancestors : List String) (e : Entry) (defect : Defect) : Nat :=
  keyMultiplicity ancestors e.key defect +
    if e.children = [] then e.leafMultiplicity defect else e.branchMultiplicity defect

lemma count_keyDefects (ancestors : List String) (key : String) (defect : Defect) :
    (keyDefects ancestors key).count defect = keyMultiplicity ancestors key defect := by
  unfold keyDefects keyMultiplicity
  by_cases hkey : key = ""
  · subst hkey
    cases defect <;> simp [count_defectIf]
  · cases defect <;> simp [hkey, count_defectIf]

end Entry

lemma Descriptor.count_defects (d : Descriptor) (defect : Defect) :
    d.defects.count defect = d.multiplicity defect := by
  unfold defects multiplicity
  cases defect <;>
    simp [count_defectIf, count_map_of_ne, count_map_badExtension, count_filter_not_isExtension,
      count_map_repeatedExercise, count_repeats, escapesScripts_eq_decide]

namespace Entry

lemma count_leafDefects (e : Entry) (defect : Defect) :
    e.leafDefects.count defect = e.leafMultiplicity defect := by
  unfold leafDefects leafMultiplicity
  rw [List.count_append, count_defectIf]
  congr 1
  · simp [Option.isSome_iff_ne_none]
  · cases e.descriptor with
    | none => simp [List.count_singleton]
    | some d => exact d.count_defects defect

lemma count_branchDefects (e : Entry) (defect : Defect) :
    e.branchDefects.count defect = e.branchMultiplicity defect := by
  have hprompt : isBlankPrompt e.prompt = e.prompt.all fun s => s.toList.all Text.isBlank := by
    cases e.prompt <;> rfl
  unfold branchDefects branchMultiplicity
  cases defect <;>
    simp [count_defectIf, count_map_of_ne, count_map_repeatedSibling, count_repeats, hprompt,
      Option.isSome_iff_ne_none]

/-- The defects of an entry itself are those that apply to its kind, each as often as it does. -/
theorem count_ownDefects (ancestors : List String) (e : Entry) (defect : Defect) :
    (e.ownDefects ancestors).count defect = e.multiplicity ancestors defect := by
  unfold ownDefects multiplicity
  rw [List.count_append, count_keyDefects]
  congr 1
  by_cases hchildren : e.children = []
  · have hleaf : e.isLeaf = true := List.isEmpty_iff.mpr hchildren
    rw [if_pos hleaf, if_pos hchildren, count_leafDefects]
  · have hbranch : ¬e.isLeaf = true := fun h => hchildren (List.isEmpty_iff.mp h)
    rw [if_neg hbranch, if_neg hchildren, count_branchDefects]

/-! ### Places in order -/

mutual

/-- The places at and below an entry, from its own one on, in the order of the children. -/
def places : Entry → List (List Nat)
  | ⟨_, _, _, children, _⟩ => [] :: placesFrom 0 children

def placesFrom (i : Nat) : List Entry → List (List Nat)
  | [] => []
  | child :: children => child.places.map (i :: ·) ++ placesFrom (i + 1) children

end

lemma places_eq (e : Entry) : e.places = [] :: placesFrom 0 e.children := by
  rcases e with ⟨key, label, prompt, children, descriptor⟩
  rw [places]

lemma mem_placesFrom_iff (i : Nat) (children : List Entry) (place : List Nat) :
    place ∈ placesFrom i children ↔
      ∃ j child rest, children[j]? = some child ∧ rest ∈ child.places ∧
        place = (i + j) :: rest := by
  induction children generalizing i with
  | nil => simp [placesFrom]
  | cons child children ih =>
    rw [placesFrom, List.mem_append, List.mem_map, ih]
    constructor
    · rintro (⟨rest, hrest, rfl⟩ | ⟨j, other, rest, hj, hrest, rfl⟩)
      · exact ⟨0, child, rest, rfl, hrest, rfl⟩
      · exact ⟨j + 1, other, rest, hj, hrest, by rw [Nat.add_assoc, Nat.add_comm 1]⟩
    · rintro ⟨j, other, rest, hj, hrest, rfl⟩
      cases j with
      | zero =>
        obtain rfl := Option.some.inj hj
        exact .inl ⟨rest, hrest, rfl⟩
      | succ j =>
        exact .inr ⟨j, other, rest, hj, hrest, by rw [Nat.add_assoc, Nat.add_comm 1]⟩

/-- Every place that holds an entry is listed, and no other. -/
theorem mem_places_iff (e : Entry) (place : List Nat) :
    place ∈ e.places ↔ (node? Entry.children e place).isSome := by
  induction place generalizing e with
  | nil => simp [places_eq, node?_nil]
  | cons i place ih =>
    rw [places_eq, List.mem_cons, mem_placesFrom_iff, node?_cons]
    constructor
    · rintro (h | ⟨j, child, rest, hj, hrest, h⟩)
      · cases h
      · obtain ⟨rfl, rfl⟩ := List.cons.inj h
        rw [Nat.zero_add, hj, Option.bind_some]
        exact (ih child).mp hrest
    · intro h
      cases hc : e.children[i]? with
      | none => simp [hc] at h
      | some child =>
        rw [hc, Option.bind_some] at h
        exact .inr ⟨i, child, place, hc, (ih child).mpr h, by rw [Nat.zero_add]⟩

lemma pairwise_placesFrom (i : Nat) {children : List Entry}
    (h : ∀ child ∈ children, child.places.Pairwise (· < ·)) :
    (placesFrom i children).Pairwise (· < ·) := by
  induction children generalizing i with
  | nil => simp [placesFrom]
  | cons child children ih =>
    rw [placesFrom, List.pairwise_append]
    refine ⟨?_, ih (i + 1) fun other hother => h other (List.mem_cons_of_mem child hother), ?_⟩
    · refine List.pairwise_map.mpr ((h child List.mem_cons_self).imp ?_)
      intro place other hlt
      exact List.cons_lt_cons_iff.mpr (.inr ⟨rfl, hlt⟩)
    · intro place hplace other hother
      obtain ⟨rest, -, rfl⟩ := List.mem_map.mp hplace
      obtain ⟨j, found, rest', -, -, rfl⟩ := (mem_placesFrom_iff _ _ _).mp hother
      exact List.cons_lt_cons_iff.mpr (.inl (by omega))

/-- Places are listed in lexicographic order, so an entry comes before those below it, and these
come child by child. -/
theorem pairwise_places (e : Entry) : e.places.Pairwise (· < ·) := by
  induction e using Entry.induction with
  | h e ih =>
    rw [places_eq, List.pairwise_cons]
    refine ⟨?_, pairwise_placesFrom 0 ih⟩
    intro place hplace
    obtain ⟨j, child, rest, -, -, rfl⟩ := (mem_placesFrom_iff _ _ _).mp hplace
    exact List.nil_lt_cons _ _

/-! ### Issues place by place -/

/-- The issues that are found at a place itself, given the keys above the entry where the place
begins. -/
def issuesAt (ancestors : List String) (e : Entry) (place : List Nat) : List Issue :=
  match lineage? Entry.children e place with
  | none => []
  | some (above, d) => d.ownIssues (ancestors ++ above.map Entry.key)

lemma issuesAt_nil (ancestors : List String) (e : Entry) :
    e.issuesAt ancestors [] = e.ownIssues ancestors := by
  simp [issuesAt, lineage?]

lemma issuesAt_cons (ancestors : List String) (e : Entry) (i : Nat) (place : List Nat) :
    e.issuesAt ancestors (i :: place) =
      (e.children[i]?.map fun child => child.issuesAt (ancestors ++ [e.key]) place).getD [] := by
  unfold issuesAt
  rw [lineage?]
  cases hc : e.children[i]? with
  | none => simp
  | some child =>
    cases hl : lineage? Entry.children child place <;> simp [hl]

lemma issues_eq (ancestors : List String) (e : Entry) :
    e.issues ancestors =
      e.ownIssues ancestors ++ issuesOf (ancestors ++ [e.key]) e.children := by
  rcases e with ⟨key, label, prompt, children, descriptor⟩
  rw [issues]

/-- The children of an entry from some child on contribute the issues at the places from there
on. -/
lemma issuesOf_eq_flatMap {ancestors : List String} {e : Entry} {before children : List Entry}
    (hsplit : e.children = before ++ children)
    (h : ∀ child ∈ children, ∀ ancestors,
      child.issues ancestors = child.places.flatMap (child.issuesAt ancestors)) :
    issuesOf (ancestors ++ [e.key]) children =
      (placesFrom before.length children).flatMap (e.issuesAt ancestors) := by
  induction children generalizing before with
  | nil => rfl
  | cons child children ih =>
    have hchild : e.children[before.length]? = some child := by simp [hsplit]
    have hnext : e.children = (before ++ [child]) ++ children := by simp [hsplit]
    have hrest := ih hnext fun other hother => h other (List.mem_cons_of_mem child hother)
    rw [List.length_append, List.length_singleton] at hrest
    rw [issuesOf, placesFrom, List.flatMap_append, hrest, h child List.mem_cons_self,
      List.flatMap_map]
    congr 1
    refine congrArg (List.flatMap · _) ?_
    funext place
    rw [issuesAt_cons, hchild]
    rfl

/-- The pass over an entry and all below it finds, place by place, what is found at each place. -/
theorem issues_eq_flatMap (ancestors : List String) (e : Entry) :
    e.issues ancestors = e.places.flatMap (e.issuesAt ancestors) := by
  induction e using Entry.induction generalizing ancestors with
  | h e ih =>
    have hsplit : e.children = [] ++ e.children := rfl
    have hchildren : issuesOf (ancestors ++ [e.key]) e.children =
        (placesFrom 0 e.children).flatMap (e.issuesAt ancestors) := issuesOf_eq_flatMap hsplit ih
    rw [issues_eq, places_eq, List.flatMap_cons, issuesAt_nil, hchildren]

/-! ### Another entry in place of one -/

/-- An entry with another one in place of what lies at a place below it. -/
def replace (new : Entry) : List Nat → Entry → Entry
  | [], _ => new
  | i :: place, e => { e with children := e.children.modify i (replace new place) }

lemma key_replace {new e old : Entry} {place : List Nat}
    (hold : node? Entry.children e place = some old) (hkey : new.key = old.key) :
    (replace new place e).key = e.key := by
  cases place with
  | nil =>
    obtain rfl : e = old := Option.some.inj hold
    exact hkey
  | cons i place => rfl

lemma childKeys_replace_cons {new e old : Entry} {i : Nat} {place : List Nat}
    (hold : node? Entry.children e (i :: place) = some old) (hkey : new.key = old.key) :
    (replace new (i :: place) e).childKeys = e.childKeys := by
  apply List.ext_getElem?
  intro j
  simp only [childKeys, replace, List.getElem?_map, List.getElem?_modify]
  by_cases hj : i = j
  · subst hj
    cases hc : e.children[i]? with
    | none => rfl
    | some child =>
      have hchild : node? Entry.children child place = some old := by
        rwa [node?_cons, hc, Option.bind_some] at hold
      simp [key_replace hchild hkey]
  · simp [hj]

/-- What is found at an entry itself does not depend on what lies below its children. -/
lemma ownIssues_replace_cons {new e old : Entry} {i : Nat} {place : List Nat}
    (hold : node? Entry.children e (i :: place) = some old) (hkey : new.key = old.key)
    (ancestors : List String) :
    (replace new (i :: place) e).ownIssues ancestors = e.ownIssues ancestors := by
  have hkeys := childKeys_replace_cons hold hkey
  have hleaf : (replace new (i :: place) e).isLeaf = e.isLeaf := by
    have hchildKeys (d : Entry) : d.isLeaf = d.childKeys.isEmpty := by simp [isLeaf, childKeys]
    rw [hchildKeys, hchildKeys, hkeys]
  have hleafDefects : (replace new (i :: place) e).leafDefects = e.leafDefects := rfl
  have hbranchDefects : (replace new (i :: place) e).branchDefects = e.branchDefects := by
    unfold branchDefects
    rw [hkeys]
    rfl
  unfold ownIssues ownDefects
  rw [hleaf, hleafDefects, hbranchDefects]
  rfl

lemma getElem?_children_replace_cons (new e : Entry) (i : Nat) (place : List Nat) (j : Nat) :
    (replace new (i :: place) e).children[j]? =
      e.children[j]?.map fun child => if i = j then replace new place child else child := by
  simp only [replace, List.getElem?_modify]
  rfl

/-- Off the place where an entry is exchanged, the same places hold an entry, and the same issues
are found there. -/
theorem issuesAt_replace {new e old : Entry} {place other : List Nat}
    (hold : node? Entry.children e place = some old) (hkey : new.key = old.key)
    (hoff : ¬place <+: other) (ancestors : List String) :
    (node? Entry.children (replace new place e) other).isSome =
        (node? Entry.children e other).isSome ∧
      (replace new place e).issuesAt ancestors other = e.issuesAt ancestors other := by
  induction place generalizing e ancestors other with
  | nil => exact absurd List.nil_prefix hoff
  | cons i place ih =>
    cases other with
    | nil =>
      rw [issuesAt_nil, issuesAt_nil, ownIssues_replace_cons hold hkey]
      exact ⟨rfl, rfl⟩
    | cons j other =>
      have hsame : (replace new (i :: place) e).key = e.key := rfl
      rw [issuesAt_cons, issuesAt_cons, hsame, node?_cons, node?_cons,
        getElem?_children_replace_cons]
      cases hc : e.children[j]? with
      | none => exact ⟨rfl, rfl⟩
      | some child =>
        by_cases hj : i = j
        · subst hj
          have hrest : ¬place <+: other := fun h => hoff ((List.prefix_cons_inj i).mpr h)
          have hchild : node? Entry.children child place = some old := by
            rwa [node?_cons, hc, Option.bind_some] at hold
          simpa using ih hchild hrest (ancestors ++ [e.key])
        · simp [hj]

lemma issuesOf_append (ancestors : List String) (before after : List Entry) :
    issuesOf ancestors (before ++ after) =
      issuesOf ancestors before ++ issuesOf ancestors after := by
  induction before with
  | nil => rfl
  | cons child before ih => simp only [List.cons_append, issuesOf, ih, List.append_assoc]

/-- What lies at a place contributes one stretch to the issues. Before and after it, they are the
same with another entry in place of it. -/
theorem exists_issues_replace {e old : Entry} {place : List Nat} {above : List Entry}
    (hold : lineage? Entry.children e place = some (above, old)) (ancestors : List String) :
    ∃ before after, ∀ new : Entry, new.key = old.key →
      (replace new place e).issues ancestors =
        before ++ new.issues (ancestors ++ above.map Entry.key) ++ after := by
  induction place generalizing e ancestors above with
  | nil =>
    obtain ⟨rfl, rfl⟩ : [] = above ∧ e = old := by simpa [lineage?] using hold
    exact ⟨[], [], fun new _ => by simp [replace]⟩
  | cons i place ih =>
    obtain ⟨child, rest, hi, hrest, rfl⟩ := lineage?_cons_eq_some_iff.mp hold
    obtain ⟨before, after, hchild⟩ := ih hrest (ancestors ++ [e.key])
    refine ⟨e.ownIssues ancestors ++ issuesOf (ancestors ++ [e.key]) (e.children.take i) ++ before,
      after ++ issuesOf (ancestors ++ [e.key]) (e.children.drop (i + 1)), ?_⟩
    intro new hkey
    have hnode : node? Entry.children e (i :: place) = some old := by simp [node?, hold]
    have hchildren : (replace new (i :: place) e).children =
        e.children.take i ++ replace new place child :: e.children.drop (i + 1) := by
      obtain ⟨hlt, hget⟩ := List.getElem?_eq_some_iff.mp hi
      simp only [replace]
      rw [List.modify_eq_take_cons_drop hlt, hget]
    have hsame : (replace new (i :: place) e).key = e.key := rfl
    rw [issues_eq, hsame, hchildren, ownIssues_replace_cons hnode hkey, issuesOf_append, issuesOf,
      hchild new hkey]
    simp only [List.map_cons, List.append_assoc, List.singleton_append]

lemma replace_of_node? {e old : Entry} {place : List Nat}
    (hold : node? Entry.children e place = some old) : replace old place e = e := by
  induction place generalizing e with
  | nil => exact (Option.some.inj hold).symm
  | cons i place ih =>
    rw [node?_cons] at hold
    obtain ⟨child, hi, hchild⟩ := Option.bind_eq_some_iff.mp hold
    have hmodify : e.children.modify i (replace old place) = e.children := by
      apply List.ext_getElem?
      intro j
      rw [List.getElem?_modify]
      by_cases hj : i = j
      · subst hj
        simp [hi, ih hchild]
      · simp [hj]
    rw [replace, hmodify]
    cases e
    rfl

end Entry

/-! ### The issues of a menu -/

namespace Menu

def places (m : Menu) : List (List Nat) := m.root.places

/-- The issues that are found at a place itself. -/
def issuesAt (m : Menu) (place : List Nat) : List Issue := m.root.issuesAt [] place

/-- A menu with another entry in place of what lies at a place. -/
def replace (m : Menu) (place : List Nat) (new : Entry) : Menu :=
  { m with root := Entry.replace new place m.root }

lemma issues_of_children {m : Menu} (h : m.root.children ≠ []) : m.issues = m.root.issues [] := by
  have hbranch : ¬m.root.isLeaf = true := fun hleaf => h (List.isEmpty_iff.mp hleaf)
  rw [issues, if_neg hbranch]

/-- What is found at a place are the defects of its entry, each as often as it applies there, and
located by the keys from the root. -/
lemma exists_issuesAt {m : Menu} {place : List Nat} {above : List Entry} {e : Entry}
    (hl : lineage? Entry.children m.root place = some (above, e)) :
    ∃ defects : List Defect,
      m.issuesAt place =
          defects.map (⟨"/".intercalate ((above ++ [e]).map Entry.key), ·⟩) ∧
        ∀ defect, defects.count defect = e.multiplicity (above.map Entry.key) defect := by
  refine ⟨e.ownDefects (above.map Entry.key), ?_, e.count_ownDefects _⟩
  unfold issuesAt Entry.issuesAt
  rw [hl]
  simp only [List.nil_append, Entry.ownIssues, Text.join_eq_intercalate, List.map_append,
    List.map_cons, List.map_nil]

/-- The root keeps its children, whatever replaces an entry below it. -/
lemma children_root_replace {m : Menu} {new : Entry} {place : List Nat}
    (hroot : m.root.children ≠ []) (hnew : place = [] → new.children ≠ []) :
    (m.replace place new).root.children ≠ [] := by
  cases place with
  | nil => exact hnew rfl
  | cons i place => simpa [replace, Entry.replace] using hroot

lemma mem_places_replace {m : Menu} {new old : Entry} {place other : List Nat}
    (hold : node? Entry.children m.root place = some old) (hkey : new.key = old.key)
    (hoff : ¬place <+: other) : other ∈ (m.replace place new).places ↔ other ∈ m.places := by
  have hisSome := (Entry.issuesAt_replace hold hkey hoff []).1
  unfold places replace
  rw [Entry.mem_places_iff, Entry.mem_places_iff, hisSome]

/-- The issues of a menu are what is found at its places, one place after the other. No defect hides
another, and what lies at and below a place bears on no issue elsewhere. -/
theorem issues_complete_and_located (m : Menu) (hroot : m.root.children ≠ []) :
    m.issues = m.places.flatMap m.issuesAt ∧
      (m.places.Pairwise (· < ·) ∧
        ∀ place, place ∈ m.places ↔ (node? Entry.children m.root place).isSome) ∧
      (∀ place above e, lineage? Entry.children m.root place = some (above, e) →
        ∃ defects : List Defect,
          m.issuesAt place =
              defects.map (⟨"/".intercalate ((above ++ [e]).map Entry.key), ·⟩) ∧
            ∀ defect, defects.count defect = e.multiplicity (above.map Entry.key) defect) ∧
      ∀ place above old, lineage? Entry.children m.root place = some (above, old) →
        (∃ before after, m.issues = before ++ old.issues (above.map Entry.key) ++ after ∧
          ∀ new : Entry, new.key = old.key → (place = [] → new.children ≠ []) →
            (m.replace place new).issues =
              before ++ new.issues (above.map Entry.key) ++ after) ∧
        ∀ new : Entry, new.key = old.key → ∀ other, ¬place <+: other →
          (other ∈ (m.replace place new).places ↔ other ∈ m.places) ∧
            (m.replace place new).issuesAt other = m.issuesAt other := by
  refine ⟨?_, ⟨m.root.pairwise_places, m.root.mem_places_iff⟩, ?_, ?_⟩
  · rw [issues_of_children hroot]
    exact m.root.issues_eq_flatMap []
  · intro place above e hl
    exact exists_issuesAt hl
  · intro place above old hl
    have hold : node? Entry.children m.root place = some old := by simp [node?, hl]
    constructor
    · obtain ⟨before, after, hreplace⟩ := Entry.exists_issues_replace hl []
      refine ⟨before, after, ?_, ?_⟩
      · have hsame := hreplace old rfl
        rwa [Entry.replace_of_node? hold, ← issues_of_children hroot] at hsame
      · intro new hkey hnew
        rw [issues_of_children (children_root_replace hroot hnew)]
        exact hreplace new hkey
    · intro new hkey other hoff
      exact ⟨mem_places_replace hold hkey hoff, (Entry.issuesAt_replace hold hkey hoff []).2⟩

/-- A course without a prompt, with three exercises of one name and a descriptor of its own. -/
def faultyCourse : Entry :=
  ⟨"Algo", "Algorithms", none,
    [sampleLeaf "Ex1" "../ex1.bad" true [], sampleLeaf "Ex1" "" false [],
      sampleLeaf "Ex1" "" false []],
    (sampleLeaf "Ex1" "" false []).descriptor⟩

theorem issues_complete_and_located_in_faulty_sample :
    (sample .student).root.children ≠ [] ∧
      (∃ before after, before ++ after = [] ∧
        ((sample .student).replace [0] faultyCourse).issues =
          before ++ faultyCourse.issues ["Course"] ++ after) ∧
      ∃ defects : List Defect,
        ((sample .student).replace [0] faultyCourse).issuesAt [0] =
            defects.map (⟨"Course/Algo", ·⟩) ∧
          defects.count .missingPrompt = 1 ∧ defects.count .unexpectedDescriptor = 1 ∧
            defects.count (.repeatedSibling "Ex1") = 2 := by
  have hroot : (sample .student).root.children ≠ [] := by decide
  obtain ⟨-, -, -, hreplace⟩ := issues_complete_and_located (sample .student) hroot
  obtain ⟨before, after, hissues, hnew⟩ := (hreplace [0] [(sample .student).root] _ rfl).1
  rw [issues_sample, eq_comm, List.append_eq_nil_iff, List.append_eq_nil_iff] at hissues
  have hfaulty : ((sample .student).replace [0] faultyCourse).root.children ≠ [] := by decide
  obtain ⟨-, -, hlocated, -⟩ := issues_complete_and_located _ hfaulty
  obtain ⟨defects, hat, hcount⟩ :=
    hlocated [0] [((sample .student).replace [0] faultyCourse).root] faultyCourse rfl
  refine ⟨hroot, ⟨before, after, by simp [hissues], hnew faultyCourse rfl (by simp)⟩, defects, ?_⟩
  exact ⟨hat, by rw [hcount]; decide, by rw [hcount]; decide, by rw [hcount]; decide⟩

end Menu

end CascadingForms
