import CascadingForms.Proofs.MenuIssues
import CascadingForms.Proofs.Texts
import Mathlib.Data.List.Basic

/-!
# Well-formed menus

The issues of a menu are collected in one pass with the keys above an entry at hand.
`Menu.WellFormed` says of the menu as a whole what a form needs of it, in terms of its entries and
of the paths to them. This file proves that a menu without issues is one that is well-formed.
-/

namespace CascadingForms

/-- What can be submitted under a descriptor: a template inside the tree of scripts, file names
with an extension, and exercises to pick from. -/
structure Descriptor.WellFormed (d : Descriptor) : Prop where
  relative : d.path.toList.head? ≠ some '/'
  backslash : '\\' ∉ d.path.toList
  parent : ['.', '.'] ∉ d.path.toList.splitOn '/'
  extensions : ∀ e ∈ d.acceptedExtensions, e.toList.head? = some '.' ∧ 2 ≤ e.utf8ByteSize
  exercises : (d.exercises.map Choice.key).Nodup
  picker : d.allowsMultipleExercises = true → d.exercises ≠ []

namespace Menu

def Holds (m : Menu) (e : Entry) : Prop :=
  ∃ place, node? Entry.children m.root place = some e

structure WellFormed (m : Menu) : Prop where
  root : m.root.children ≠ []
  paths : ∀ place above e, lineage? Entry.children m.root place = some (above, e) →
    ((above ++ [e]).map Entry.key).Nodup ∧
      ∀ key ∈ (above ++ [e]).map Entry.key,
        key ≠ "" ∧ (∀ c ∈ key.toList, Text.isBlank c = false) ∧ key ∉ Field.reserved
  siblings : ∀ e, m.Holds e → e.childKeys.Nodup
  branches : ∀ e, m.Holds e → e.children ≠ [] →
    (∃ prompt, e.prompt = some prompt ∧ ∃ c ∈ prompt.toList, Text.isBlank c = false) ∧
      e.descriptor = none
  leaves : ∀ e, m.Holds e → e.children = [] →
    e.prompt = none ∧ ∃ d, e.descriptor = some d ∧ d.WellFormed

end Menu

/-! ### One check after the other -/

lemma repeats_eq_nil_iff (seen keys : List String) :
    repeats seen keys = [] ↔ keys.Nodup ∧ ∀ key ∈ keys, key ∉ seen := by
  induction keys generalizing seen with
  | nil => simp [repeats]
  | cons key keys ih =>
    rw [repeats]
    by_cases hseen : key ∈ seen
    · simp [hseen]
    · rw [if_neg (by simpa using hseen), ih, List.nodup_cons]
      constructor
      · rintro ⟨hnodup, hfresh⟩
        refine ⟨⟨fun hmem => hfresh key hmem List.mem_cons_self, hnodup⟩, ?_⟩
        intro other hmem
        rcases List.mem_cons.mp hmem with rfl | hmem
        · exact hseen
        · exact fun hother => hfresh other hmem (List.mem_cons_of_mem key hother)
      · rintro ⟨⟨hfirst, hnodup⟩, hfresh⟩
        refine ⟨hnodup, fun other hmem hother => ?_⟩
        rcases List.mem_cons.mp hother with rfl | hother
        · exact hfirst hmem
        · exact hfresh other (List.mem_cons_of_mem key hmem) hother

lemma repeats_nil_eq_nil_iff (keys : List String) : repeats [] keys = [] ↔ keys.Nodup := by
  simp [repeats_eq_nil_iff]

lemma escapesScripts_eq_false_iff (path : String) :
    escapesScripts path = false ↔
      path.toList.head? ≠ some '/' ∧ '\\' ∉ path.toList ∧
        ['.', '.'] ∉ path.toList.splitOn '/' := by
  have hparent : ".." ∈ Text.split '/' path ↔ ['.', '.'] ∈ path.toList.splitOn '/' :=
    Text.mem_split_iff '/' path ".."
  unfold escapesScripts
  simp [hparent, and_assoc]

/-- An extension is a dot and something after it, which takes up one byte at least. -/
lemma isExtension_iff (s : String) :
    isExtension s = true ↔ s.toList.head? = some '.' ∧ 2 ≤ s.utf8ByteSize := by
  obtain ⟨l, rfl⟩ : ∃ l, s = String.ofList l := ⟨s.toList, String.ofList_toList.symm⟩
  rw [isExtension, String.toList_ofList]
  rcases l with _ | ⟨c, _ | ⟨next, rest⟩⟩
  · simp
  · by_cases hc : c = '.'
    · subst hc
      decide
    · simp [hc]
  · have hnext := next.utf8Size_pos
    have hsize : 2 ≤ (String.ofList ('.' :: next :: rest)).utf8ByteSize := by
      have hdot : '.'.utf8Size = 1 := by decide
      rw [String.ofList_cons, String.ofList_cons, String.utf8ByteSize_append,
        String.utf8ByteSize_append, String.utf8ByteSize_singleton, String.utf8ByteSize_singleton,
        hdot]
      omega
    by_cases hc : c = '.'
    · subst hc
      exact ⟨fun _ => ⟨rfl, hsize⟩, fun _ => rfl⟩
    · simp [hc]

theorem Descriptor.defects_eq_nil_iff (d : Descriptor) : d.defects = [] ↔ d.WellFormed := by
  have hextensions : d.acceptedExtensions.filter (fun e => !isExtension e) = [] ↔
      ∀ e ∈ d.acceptedExtensions, e.toList.head? = some '.' ∧ 2 ≤ e.utf8ByteSize := by
    simp only [List.filter_eq_nil_iff, Bool.not_eq_true', Bool.not_eq_false, isExtension_iff]
  have hpicker : (d.allowsMultipleExercises && d.exercises.isEmpty) = false ↔
      (d.allowsMultipleExercises = true → d.exercises ≠ []) := by
    cases d.allowsMultipleExercises <;> simp
  unfold defects
  simp only [List.append_eq_nil_iff, List.map_eq_nil_iff, defectIf_eq_nil_iff,
    repeats_nil_eq_nil_iff, hextensions, hpicker, escapesScripts_eq_false_iff]
  constructor
  · rintro ⟨⟨⟨⟨hrelative, hbackslash, hparent⟩, he⟩, hx⟩, hp⟩
    exact ⟨hrelative, hbackslash, hparent, he, hx, hp⟩
  · intro h
    exact ⟨⟨⟨⟨h.relative, h.backslash, h.parent⟩, h.extensions⟩, h.exercises⟩, h.picker⟩

namespace Entry

lemma isBlankPrompt_eq_false_iff (prompt : Option String) :
    isBlankPrompt prompt = false ↔
      ∃ s, prompt = some s ∧ ∃ c ∈ s.toList, Text.isBlank c = false := by
  cases prompt with
  | none => simp [isBlankPrompt]
  | some s => simp [isBlankPrompt]

lemma branchDefects_eq_nil_iff (e : Entry) :
    e.branchDefects = [] ↔
      (∃ prompt, e.prompt = some prompt ∧ ∃ c ∈ prompt.toList, Text.isBlank c = false) ∧
        e.descriptor = none ∧ e.childKeys.Nodup := by
  unfold branchDefects
  simp only [List.append_eq_nil_iff, List.map_eq_nil_iff, defectIf_eq_nil_iff,
    repeats_nil_eq_nil_iff, isBlankPrompt_eq_false_iff, Option.isSome_eq_false_iff,
    Option.isNone_iff_eq_none, and_assoc]

/-- An entry has no issues if no entry at or below it has defects of its own. -/
theorem issues_eq_nil_of_forall {ancestors : List String} {e : Entry}
    (h : ∀ place above d, lineage? Entry.children e place = some (above, d) →
      d.ownDefects (ancestors ++ above.map key) = []) : e.issues ancestors = [] := by
  induction e using Entry.induction generalizing ancestors with
  | h e ih =>
    rw [issues_eq_nil_iff]
    constructor
    · simpa using h [] [] e rfl
    · intro child hc
      apply ih child hc
      intro place above d hl
      obtain ⟨place', hl'⟩ := exists_lineage?_of_mem hc hl
      have hd := h place' (e :: above) d hl'
      rwa [List.append_assoc, List.singleton_append]

end Entry

namespace Menu

variable {m : Menu}

lemma exists_lineage?_of_holds {e : Entry} (h : m.Holds e) :
    ∃ place above, lineage? Entry.children m.root place = some (above, e) := by
  obtain ⟨place, hnode⟩ := h
  obtain ⟨⟨above, d⟩, hl, rfl⟩ := Option.map_eq_some_iff.mp hnode
  exact ⟨place, above, hl⟩

lemma holds_of_lineage? {place : List Nat} {above : List Entry} {e : Entry}
    (h : lineage? Entry.children m.root place = some (above, e)) : m.Holds e :=
  ⟨place, by rw [node?, h, Option.map_some]⟩

lemma holds_of_entryAt? {p : List String} {e : Entry} (h : m.entryAt? p = some e) : m.Holds e := by
  obtain ⟨place, above, hlineage, -⟩ := Entry.exists_lineage?_of_descend? h
  exact holds_of_lineage? hlineage

lemma ownDefects_of_holds (h : m.issues = []) {e : Entry} (he : m.Holds e) :
    ∃ ancestors, e.ownDefects ancestors = [] := by
  obtain ⟨place, above, hl⟩ := exists_lineage?_of_holds he
  have hissues := Entry.issues_of_lineage? (root_of_issues h).2 hl
  exact ⟨_, ((Entry.issues_eq_nil_iff _ e).mp hissues).1⟩

lemma branchDefects_of_holds (h : m.issues = []) {e : Entry} (he : m.Holds e)
    (hbranch : e.isLeaf = false) : e.branchDefects = [] := by
  obtain ⟨ancestors, hown⟩ := ownDefects_of_holds h he
  have hkind := ((Entry.ownDefects_eq_nil_iff ancestors e).mp hown).2
  simpa [hbranch] using hkind

lemma leafDefects_of_holds (h : m.issues = []) {e : Entry} (he : m.Holds e)
    (hleaf : e.isLeaf = true) : e.leafDefects = [] := by
  obtain ⟨ancestors, hown⟩ := ownDefects_of_holds h he
  have hkind := ((Entry.ownDefects_eq_nil_iff ancestors e).mp hown).2
  simpa [hleaf] using hkind

lemma nodup_childKeys_of_holds (h : m.issues = []) {e : Entry} (he : m.Holds e) :
    e.childKeys.Nodup := by
  cases hl : e.isLeaf with
  | true => simp [Entry.childKeys, List.isEmpty_iff.mp hl]
  | false => exact ((Entry.branchDefects_eq_nil_iff e).mp (branchDefects_of_holds h he hl)).2.2

lemma wellFormed_of_issues (h : m.issues = []) : m.WellFormed where
  root := by
    have hroot := (root_of_issues h).1
    simpa [Entry.isLeaf] using hroot
  paths := by
    intro place above e hl
    have hroot := (root_of_issues h).2
    refine ⟨Entry.nodup_of_lineage? hroot hl, fun key hkey => ?_⟩
    have hdefects := Entry.keys_of_lineage? hroot hl key hkey
    obtain ⟨hempty, hblank, hreserved, -⟩ := (Entry.keyDefects_eq_nil_iff [] key).mp hdefects
    exact ⟨hempty, hblank, hreserved⟩
  siblings := fun e he => nodup_childKeys_of_holds h he
  branches := by
    intro e he hchildren
    have hbranch : e.isLeaf = false := by simpa [Entry.isLeaf] using hchildren
    obtain ⟨hprompt, hdescriptor, -⟩ :=
      (Entry.branchDefects_eq_nil_iff e).mp (branchDefects_of_holds h he hbranch)
    exact ⟨hprompt, hdescriptor⟩
  leaves := by
    intro e he hchildren
    have hleaf : e.isLeaf = true := List.isEmpty_iff.mpr hchildren
    obtain ⟨hprompt, d, hd, hdefects⟩ :=
      (Entry.leafDefects_eq_nil_iff e).mp (leafDefects_of_holds h he hleaf)
    exact ⟨hprompt, d, hd, (Descriptor.defects_eq_nil_iff d).mp hdefects⟩

/-- An entry of a well-formed menu has no defects, given the keys of the entries above it. -/
lemma ownDefects_of_wellFormed (h : m.WellFormed) {place : List Nat} {above : List Entry}
    {e : Entry} (hl : lineage? Entry.children m.root place = some (above, e)) :
    e.ownDefects (above.map Entry.key) = [] := by
  have he := holds_of_lineage? hl
  obtain ⟨hnodup, hkeys⟩ := h.paths place above e hl
  rw [List.map_append, List.map_singleton] at hnodup hkeys
  obtain ⟨hempty, hblank, hreserved⟩ :=
    hkeys e.key (List.mem_append_right _ (List.mem_singleton_self _))
  have hnew : e.key ∉ above.map Entry.key := fun hmem =>
    (List.nodup_append.mp hnodup).2.2 e.key hmem e.key (List.mem_singleton_self _) rfl
  rw [Entry.ownDefects_eq_nil_iff, Entry.keyDefects_eq_nil_iff]
  refine ⟨⟨hempty, hblank, hreserved, hnew⟩, ?_⟩
  cases hl : e.isLeaf with
  | true =>
    obtain ⟨hprompt, d, hd, hwell⟩ := h.leaves e he (List.isEmpty_iff.mp hl)
    have hdefects := (Descriptor.defects_eq_nil_iff d).mpr hwell
    simpa using (Entry.leafDefects_eq_nil_iff e).mpr ⟨hprompt, d, hd, hdefects⟩
  | false =>
    obtain ⟨hprompt, hdescriptor⟩ := h.branches e he (by simpa [Entry.isLeaf] using hl)
    simpa using (Entry.branchDefects_eq_nil_iff e).mpr ⟨hprompt, hdescriptor, h.siblings e he⟩

/-- The validator accepts a menu exactly if the menu is well-formed: no rule is passed over at any
entry, and none is imposed that is not stated. -/
theorem issues_eq_nil_iff_wellFormed (m : Menu) : m.issues = [] ↔ m.WellFormed := by
  constructor
  · exact wellFormed_of_issues
  · intro h
    have hroot : m.root.isLeaf = false := by
      have hchildren := h.root
      simpa [Entry.isLeaf] using hchildren
    rw [issues, hroot, if_neg (by decide)]
    apply Entry.issues_eq_nil_of_forall
    intro place above e hl
    exact ownDefects_of_wellFormed h hl

end Menu

end CascadingForms
