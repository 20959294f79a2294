import CascadingForms.Proofs.PostedSelector
import CascadingForms.Proofs.ScreenRuns

/-!
# Views of the preview that agree

The preview shows an open menu in several ways, each worked out on its own: the combo boxes from the
rendered levels, the breadcrumb from the entries along the selection, the fields from the last level,
and the decoded form from the descriptor of the leaf. `Preview.AgreeingViews` says how they fit
together. All boxes above the last entry are described by one induction on the path.
-/

namespace CascadingForms

/-- How the views of an open menu fit together: the boxes stand for the dropdowns and spell the
selection, the breadcrumb repeats their texts, one box is left to choose in until the selector is
complete, and from then on fields are shown and decoded. -/
structure Preview.AgreeingViews (p : Preview) (s : Selector) : Prop where
  dropdowns : p.levelViews.map LevelView.level = (s.levels.filter Level.isDropdown).map Level.depth
  numbers : p.levelViews.map LevelView.level = List.range p.levelViews.length
  selected : p.levelViews.filterMap LevelView.selected = p.currentSelection
  breadcrumb : ∀ i < s.selection.length, ∃ box, p.levelViews[i]? = some box ∧
    s.breadcrumb[i]? = some box.selectedText
  rest : ∀ i box, s.selection.length ≤ i → p.levelViews[i]? = some box →
    box.selectedText = box.placeholder
  count : p.levelViews.length =
    if s.isComplete then s.selection.length else s.selection.length + 1
  fields : p.submissionControls ≠ [] ↔ s.isComplete = true
  decoded : p.decoded.value.isSome = true ↔ s.isComplete = true
  submission : (∃ l, s.levels.getLast? = some l ∧ l.isSubmission = true) ↔ s.isComplete = true

namespace LevelView

lemma isSome_ofLevel? (l : Level) : (ofLevel? l).isSome = l.isDropdown := by
  rcases l with ⟨depth, key, _ | ⟨control, controls⟩⟩
  · rfl
  · cases control <;> rfl

lemma level_of_ofLevel? {l : Level} {box : LevelView} (h : ofLevel? l = some box) :
    box.level = l.depth := by
  rcases l with ⟨depth, key, _ | ⟨control, controls⟩⟩
  · cases h
  · cases control <;> cases h
    rfl

lemma map_level_filterMap (levels : List Level) :
    (levels.filterMap ofLevel?).map LevelView.level =
      (levels.filter Level.isDropdown).map Level.depth := by
  induction levels with
  | nil => rfl
  | cons l levels ih =>
    have hdropdown := isSome_ofLevel? l
    cases hbox : ofLevel? l with
    | none =>
      rw [hbox] at hdropdown
      rw [List.filterMap_cons_none hbox, List.filter_cons_of_neg (by simp [← hdropdown]), ih]
    | some box =>
      rw [hbox] at hdropdown
      rw [List.filterMap_cons_some hbox, List.filter_cons_of_pos hdropdown.symm, List.map_cons,
        List.map_cons, level_of_ofLevel? hbox, ih]

/-- A box shows the label of the child that is selected, and its placeholder if none is. -/
lemma selectedText_ofEntry {e child : Entry} {key : String} (h : e.child? key = some child)
    (level : Nat) : (ofEntry e level (some key)).selectedText = child.label := by
  have hfind : e.choices.find? (·.key = key) = some ⟨child.key, child.label⟩ := by
    rw [Entry.child?] at h
    rw [Entry.choices, List.find?_map, Function.comp_def, h, Option.map_some]
  simp [selectedText, ofEntry, hfind]

end LevelView

namespace Entry

/-- The boxes along a path: one for each key, which is selected in it and whose label it shows, and
one more with nothing selected if the path ends above a leaf. -/
lemma exists_boxes {e d : Entry} {p : List String} (hd : e.descend? p = some d) (labels : Labels)
    (depth : Nat) :
    ∃ above, (e.levels labels depth none p).filterMap LevelView.ofLevel? =
        above ++ (if d.isLeaf then [] else [LevelView.ofEntry d (depth + p.length) none]) ∧
      above.map LevelView.level = List.range' depth p.length ∧
      above.map LevelView.selected = p.map some ∧
      above.map LevelView.selectedText = Selector.labelsAlong e p := by
  induction p generalizing e depth with
  | nil =>
    obtain rfl : e = d := by simpa using hd
    refine ⟨[], ?_, rfl, rfl, rfl⟩
    have hlast : LevelView.ofLevel? (e.level labels depth none) =
        if e.isLeaf then none else some (LevelView.ofEntry e depth none) :=
      LevelView.ofLevel?_entry e labels depth none
    rw [levels_nil, List.filterMap_cons, hlast]
    cases e.isLeaf <;> rfl
  | cons key keys ih =>
    obtain ⟨child, hc, -⟩ := child?_of_descend?_cons (Option.isSome_of_eq_some hd)
    rw [descend?_cons, hc, Option.bind_some] at hd
    obtain ⟨above, hboxes, hlevels, hselected, htexts⟩ := ih hd (depth + 1)
    have hfirst : LevelView.ofLevel? (e.level labels depth (some key)) =
        some (LevelView.ofEntry e depth (some key)) := by
      have hbox := LevelView.ofLevel?_entry e labels depth (some key)
      rwa [isLeaf_of_child? hc] at hbox
    have hdepth : depth + 1 + keys.length = depth + (key :: keys).length := by
      rw [List.length_cons]
      omega
    refine ⟨LevelView.ofEntry e depth (some key) :: above, ?_, ?_, ?_, ?_⟩
    · rw [levels_cons hc, List.filterMap_cons_some hfirst, hboxes, hdepth, List.cons_append]
    · rw [List.map_cons, hlevels, List.length_cons, List.range'_succ]
      rfl
    · rw [List.map_cons, hselected, List.map_cons]
      rfl
    · rw [List.map_cons, htexts, LevelView.selectedText_ofEntry hc, Selector.labelsAlong, hc]

/-- Only the level of a leaf with a descriptor has a submit button. -/
lemma isSubmission_level (e : Entry) (labels : Labels) (depth : Nat) :
    (e.level labels depth none).isSubmission = (e.isLeaf && e.descriptor.isSome) := by
  rw [level_none]
  cases hl : e.isLeaf with
  | false => simp [Level.isSubmission, controls_of_isLeaf_false hl, dropdown, Control.isSubmit]
  | true =>
    cases hd : e.descriptor with
    | none => simp [Level.isSubmission, controls, hl, hd]
    | some d => simp [Level.isSubmission, controls, hl, hd, Descriptor.controls, Control.isSubmit]

end Entry

namespace Preview

variable {p : Preview} {m : Menu} {path : List String} {d : Entry}

/-! ### The boxes -/

section Boxes

variable (hs : p.selector = some (m.selectorAt (some path))) (hd : m.entryAt? path = some d)

include hs hd

lemma exists_levelViews :
    ∃ above, p.levelViews =
        above ++ (if d.isLeaf then [] else [LevelView.ofEntry d path.length none]) ∧
      above.map LevelView.level = List.range path.length ∧
      above.map LevelView.selected = path.map some ∧
      above.map LevelView.selectedText = Selector.labelsAlong m.root path := by
  obtain ⟨above, hboxes, hlevels, hselected, htexts⟩ := Entry.exists_boxes hd m.labels 0
  rw [Nat.zero_add] at hboxes
  rw [← List.range_eq_range'] at hlevels
  exact ⟨above, by rw [levelViews, hs, ← hboxes]; rfl, hlevels, hselected, htexts⟩

lemma length_levelViews :
    p.levelViews.length = if d.isLeaf then path.length else path.length + 1 := by
  obtain ⟨above, hviews, hlevels, -, -⟩ := exists_levelViews hs hd
  have hlength : above.length = path.length := by
    rw [← List.length_map LevelView.level, hlevels, List.length_range]
  rw [hviews, List.length_append, hlength]
  split <;> rfl

lemma map_level_levelViews :
    p.levelViews.map LevelView.level = List.range p.levelViews.length := by
  obtain ⟨above, hviews, hlevels, -, -⟩ := exists_levelViews hs hd
  rw [length_levelViews hs hd, hviews, List.map_append, hlevels]
  split
  · exact List.append_nil _
  · exact List.range_succ.symm

lemma filterMap_selected_levelViews : p.levelViews.filterMap LevelView.selected = path := by
  obtain ⟨above, hviews, -, hselected, -⟩ := exists_levelViews hs hd
  have hlast : (if d.isLeaf then [] else
      [LevelView.ofEntry d path.length none]).filterMap LevelView.selected = [] := by
    split <;> rfl
  have habove := congrArg (List.filterMap id) hselected
  rw [List.filterMap_map, List.filterMap_map, Function.id_comp, Function.id_comp,
    List.filterMap_some] at habove
  rw [hviews, List.filterMap_append, habove, hlast, List.append_nil]

lemma exists_box_of_lt {i : Nat} (hi : i < path.length) :
    ∃ box, p.levelViews[i]? = some box ∧
      (Selector.labelsAlong m.root path)[i]? = some box.selectedText := by
  obtain ⟨above, hviews, hlevels, -, htexts⟩ := exists_levelViews hs hd
  have hlt : i < above.length := by
    rwa [← List.length_map LevelView.level, hlevels, List.length_range]
  refine ⟨above[i], ?_, ?_⟩
  · rw [hviews, List.getElem?_append_left hlt, List.getElem?_eq_getElem hlt]
  · rw [← htexts, List.getElem?_map, List.getElem?_eq_getElem hlt, Option.map_some]

lemma selectedText_of_length_le {i : Nat} {box : LevelView} (hi : path.length ≤ i)
    (hbox : p.levelViews[i]? = some box) : box.selectedText = box.placeholder := by
  obtain ⟨above, hviews, hlevels, -, -⟩ := exists_levelViews hs hd
  have hle : above.length ≤ i := by
    rwa [← List.length_map LevelView.level, hlevels, List.length_range]
  rw [hviews, List.getElem?_append_right hle] at hbox
  have hmem := List.mem_of_getElem? hbox
  split at hmem
  · cases hmem
  · rw [List.mem_singleton.mp hmem]
    rfl

end Boxes

/-! ### What is shown at a leaf -/

lemma submissionControls_ne_nil_iff {s : Selector} (hs : p.selector = some s) :
    p.submissionControls ≠ [] ↔ ∃ l, s.levels.getLast? = some l ∧ l.isSubmission = true := by
  rw [submissionControls, hs, Option.bind_some]
  cases s.levels.getLast? with
  | none => simp
  | some l =>
    have hcontrols : l.isSubmission = true → l.controls ≠ [] := by
      intro hsubmission hnil
      rw [Level.isSubmission, hnil] at hsubmission
      cases hsubmission
    cases hsubmission : l.isSubmission with
    | false => simp [hsubmission]
    | true => simpa [hsubmission] using hcontrols hsubmission

lemma isSome_decoded {s : Selector} (hs : p.selector = some s) :
    p.decoded.value.isSome = s.isComplete := by
  rw [Selector.isComplete]
  cases hd : s.descriptor? with
  | none =>
    simp only [decoded, hs, hd]
    rfl
  | some d => cases hrole : s.menu.role <;> simp only [decoded, hs, hd, hrole] <;> rfl

lemma submission_iff_isLeaf (hm : m.issues = []) (hd : m.entryAt? path = some d) :
    (∃ l, (m.selectorAt (some path)).levels.getLast? = some l ∧ l.isSubmission = true) ↔
      d.isLeaf = true := by
  rw [Selector.getLast?_levels_selectorAt hd]
  simp only [Option.some.injEq, exists_eq_left', Entry.isSubmission_level, Bool.and_eq_true]
  constructor
  · exact And.left
  · intro hl
    obtain ⟨own, hown⟩ := Menu.descriptor_of_leaf hm hd hl
    exact ⟨hl, Option.isSome_of_eq_some hown⟩

/-- Whatever menus a session opens and whatever is chosen in them, the views of the open one agree,
also where labels are empty or the same. -/
theorem views_agree (hp : p.Reachable) {s : Selector} (hs : p.selector = some s) :
    p.AgreeingViews s := by
  have hstarted := (sound_of_reachable hp).selector s hs
  have hm := (Selector.reachable_started_iff.mp hstarted).1
  obtain ⟨hat, hpath⟩ := Selector.selectorAt_selection hstarted
  obtain ⟨d, hd⟩ := Option.isSome_iff_exists.mp hpath
  have hs' : p.selector = some (s.menu.selectorAt (some s.selection)) := by rw [hat, hs]
  have hcomplete : s.isComplete = d.isLeaf := by rw [← Selector.isComplete_selectorAt hm hd, hat]
  have hsubmission : (∃ l, s.levels.getLast? = some l ∧ l.isSubmission = true) ↔
      s.isComplete = true := by
    rw [hcomplete, ← submission_iff_isLeaf hm hd, hat]
  exact
    { dropdowns := by
        rw [levelViews, hs]
        exact LevelView.map_level_filterMap s.levels
      numbers := map_level_levelViews hs' hd
      selected := by rw [filterMap_selected_levelViews hs' hd, currentSelection, hs]
      breadcrumb := fun i hi => exists_box_of_lt hs' hd hi
      rest := fun i box hi hbox => selectedText_of_length_le hs' hd hi hbox
      count := by rw [length_levelViews hs' hd, hcomplete]
      fields := by rw [submissionControls_ne_nil_iff hs, hsubmission]
      decoded := by rw [isSome_decoded hs]
      submission := hsubmission }

theorem views_agree_at_leaf :
    ∃ p s, p = ({} : Preview).run
        [(sampleFiles, .openFile "menu.yaml"), (sampleFiles, .choose 0 "G2")] ∧
      p.Reachable ∧ p.selector = some s ∧ s.isComplete = true ∧ p.levelViews.length = 1 ∧
        p.AgreeingViews s := by
  obtain ⟨m, hload, -, -, hd, -, hgroup⟩ := exists_sample_menu
  have hrun := ({} : Preview).run_openFile_choose hload hgroup
  have hreachable := reachable_run
    [(sampleFiles, .openFile "menu.yaml"), (sampleFiles, .choose 0 "G2")]
  rw [hrun] at hreachable
  have hcomplete : (m.selectorAt (some ["G2"])).isComplete = true := by
    rw [Selector.isComplete, hd, Option.isSome_some]
  have hagree := views_agree hreachable rfl
  have hcount := hagree.count
  rw [hcomplete, if_pos rfl] at hcount
  exact ⟨_, _, hrun.symm, hreachable, rfl, hcomplete, hcount, hagree⟩

end Preview

end CascadingForms
