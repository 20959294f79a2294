import CascadingForms.Preview.View
import CascadingForms.Proofs.PostedSelector
import CascadingForms.Proofs.PreviewRuns

/-!
# What the preview decodes

At a leaf the preview fills in the form by way of example and decodes it: a name for the function,
and the first exercise that the leaf offers. The decoder accepts the example and finds the selection
of the preview in it. There is one exception: decoding for teachers passes over empty values, so if
the key of the first exercise is empty, which no check of menus reports, an exercise is missed.
-/

namespace CascadingForms

lemma PostedForm.getAll_of_get?_none {f : PostedForm} {name : String} (h : f.get? name = none) :
    f.getAll name = [] :=
  List.head?_eq_none_iff.mp h

namespace Preview

variable {d : Descriptor} {f : PostedForm}

lemma filledIn_sampleFields (d : Descriptor) :
    ∀ field ∈ sampleFields d, field.1 ∈ Field.filledIn := by
  intro field hfield
  rcases List.mem_append.mp hfield with hfunction | hexercise
  · split at hfunction
    · rw [List.mem_singleton.mp hfunction]
      decide
    · cases hfunction
  · split at hexercise
    · cases hexercise
    · have hname : field.1 = Field.exercise := congrArg Prod.fst (List.mem_singleton.mp hexercise)
      rw [hname]
      decide

lemma getAll_sampleFields (d : Descriptor) :
    (⟨sampleFields d⟩ : PostedForm).getAll Field.exercise =
      (d.exercises.head?.map Choice.key).toList := by
  have hne : Field.function ≠ Field.exercise := by decide
  unfold sampleFields
  cases d.requiresFunctionName <;> cases d.exercises <;> simp [PostedForm.getAll, hne]

/-- The name filled in by way of example is accepted. -/
lemma functionName_sampleFields (h : f.get? Field.function = none) :
    d.functionName (f.pushAll (sampleFields d)) =
      .ok (if d.requiresFunctionName then some "main" else none) := by
  rw [Descriptor.functionName_eq_ok_iff]
  cases hr : d.requiresFunctionName with
  | false => rfl
  | true =>
    refine ⟨"main", ?_, by decide, by decide⟩
    rw [PostedForm.get?_pushAll, h, Option.none_or, sampleFields, hr]
    rfl

/-- The exercise filled in by way of example is accepted unless its key is empty. -/
lemma pickedExercises_sampleFields (h : f.get? Field.exercise = none) :
    d.pickedExercises (f.pushAll (sampleFields d)) =
      if d.exercises.head?.map Choice.key = some "" then .error (.missingField Field.exercise)
      else .ok (d.exercises.head?.map Choice.key).toList := by
  have hvalues : (f.pushAll (sampleFields d)).getAll Field.exercise =
      (d.exercises.head?.map Choice.key).toList := by
    rw [PostedForm.getAll_pushAll, PostedForm.getAll_of_get?_none h, getAll_sampleFields,
      List.nil_append]
  unfold Descriptor.pickedExercises
  rw [hvalues]
  cases he : d.exercises with
  | nil => simp [Descriptor.hasPicker, he]
  | cons first rest =>
    by_cases hkey : first.key = ""
    · simp [Descriptor.hasPicker, he, hkey]
    · simp [Descriptor.hasPicker, Descriptor.exercise?, he, hkey]

end Preview

/-! ### The example at a leaf -/

namespace Selector

variable {s : Selector} {d : Descriptor} (h : Reachable s.menu s ∧ s.isStarted = true)

include h

lemma exists_descriptor (hl : s.frontier.isLeaf = true) : ∃ d, s.descriptor? = some d := by
  obtain ⟨hs, hleads⟩ := selectorAt_selection h
  obtain ⟨leaf, hleaf⟩ := Option.isSome_iff_exists.mp hleads
  have hm := (reachable_started_iff.mp h).1
  have hfrontier : s.frontier = leaf := by rw [← hs, frontier_selectorAt hleaf]
  rw [hfrontier] at hl
  obtain ⟨d, hown⟩ := Menu.descriptor_of_leaf hm hleaf hl
  exact ⟨d, by rw [descriptor?, hfrontier, if_pos hl, hown]⟩

lemma get?_posted_filledIn {name : String} (hname : name ∈ Field.filledIn) :
    s.posted.get? name = none := by
  obtain ⟨hs, hleads⟩ := selectorAt_selection h
  obtain ⟨e, he⟩ := Option.isSome_iff_exists.mp hleads
  have hm := (reachable_started_iff.mp h).1
  have hnone := get?_posted_of_mem_filledIn hm he hname
  rw [hs] at hnone
  exact hnone

variable (hd : s.descriptor? = some d)

include hd

lemma chosen_of_descriptor? {extra : List (String × String)}
    (hextra : ∀ field ∈ extra, field.1 ∈ Field.filledIn) :
    s.menu.chosen (s.posted.pushAll extra) = .ok (s.selection, d) := by
  obtain ⟨hs, hleads⟩ := selectorAt_selection h
  obtain ⟨e, he⟩ := Option.isSome_iff_exists.mp hleads
  have hm := (reachable_started_iff.mp h).1
  rw [← hs, descriptor?_selectorAt he] at hd
  split at hd
  · rename_i hl
    have hchosen := (chosen_posted_pushAll hm he hl hd hextra s.selection d).mpr ⟨rfl, rfl⟩
    rw [hs] at hchosen
    exact hchosen
  · cases hd

theorem decodeStudent_sampleFields (hrole : s.menu.role = .student) :
    (s.menu.decodeStudent (s.posted.pushAll (Preview.sampleFields d))).value =
      .ok ⟨s.selection, d.path, if d.requiresFunctionName then some "main" else none⟩ := by
  have hchosen := chosen_of_descriptor? h hd (Preview.filledIn_sampleFields d)
  have hnone := get?_posted_filledIn h (by decide : Field.function ∈ Field.filledIn)
  rw [Menu.decodeStudent_eq_ok_iff]
  exact ⟨hrole, d, hchosen, rfl, Preview.functionName_sampleFields hnone⟩

theorem decodeTeacher_sampleFields (hrole : s.menu.role = .teacher) :
    (s.menu.decodeTeacher (s.posted.pushAll (Preview.sampleFields d))).value =
      if d.exercises.head?.map Choice.key = some "" then .error (.missingField Field.exercise)
      else .ok ⟨s.selection.head?.getD "", s.selection.getLast?.getD "", s.selection,
        (d.exercises.head?.map Choice.key).toList⟩ := by
  have hchosen := chosen_of_descriptor? h hd (Preview.filledIn_sampleFields d)
  have hnone := get?_posted_filledIn h (by decide : Field.exercise ∈ Field.filledIn)
  have hpicked := Preview.pickedExercises_sampleFields (d := d) hnone
  simp only [Menu.decodeTeacher, Menu.logged, hrole, hchosen, hpicked, ne_eq, not_true_eq_false,
    if_false]
  split <;> rfl

end Selector

namespace Preview

lemma head?_toList_append {s : String} {c : Char} (h : s.toList.head? = some c) (t : String) :
    (s ++ t).toList.head? = some c := by
  rw [String.toList_append, List.head?_append, h, Option.some_or]

lemma head?_describe_submission (r : StudentSubmission) :
    r.describe.toList.head? = some 'S' := by
  unfold StudentSubmission.describe
  iterate 6 refine head?_toList_append ?_ _
  rfl

lemma head?_describe_query (q : TeacherQuery) : q.describe.toList.head? = some 'T' := by
  unfold TeacherQuery.describe
  iterate 8 refine head?_toList_append ?_ _
  rfl

/-- Texts of decodes that succeed and find a selection in a form. -/
inductive Reports (m : Menu) (form : PostedForm) (selection : List String) : String → Prop
  | student {r : StudentSubmission} (h : (m.decodeStudent form).value = .ok r)
      (hselection : r.selection = selection) : Reports m form selection r.describe
  | teacher {q : TeacherQuery} (h : (m.decodeTeacher form).value = .ok q)
      (hselection : q.selection = selection) : Reports m form selection q.describe

/-- No such text looks like an error. -/
lemma Reports.head?_ne {m : Menu} {form : PostedForm} {selection : List String} {text : String}
    (h : Reports m form selection text) : text.toList.head? ≠ some '⚠' := by
  cases h with
  | student =>
    rw [head?_describe_submission]
    decide
  | teacher =>
    rw [head?_describe_query]
    decide

/-- What the preview shows of decoding, at a leaf and elsewhere. At a leaf of a menu for teachers the
example is refused if the first exercise has an empty key. -/
structure DecodesLeaves (p : Preview) : Prop where
  leaf : ∀ s, p.selector = some s → s.frontier.isLeaf = true → ∃ d, s.descriptor? = some d ∧
    if s.menu.role = .teacher ∧ d.exercises.head?.map Choice.key = some "" then
      p.decoded.value = some "⚠ missing field \x60exercise\x60"
    else
      ∃ text, p.decoded.value = some text ∧
        Reports s.menu (s.posted.pushAll (sampleFields d)) p.currentSelection text ∧
          text.toList.head? ≠ some '⚠'
  elsewhere : (∀ s, p.selector = some s → s.frontier.isLeaf = false) → p.decoded.value = none

section Leaf

variable {p : Preview} {s : Selector} {d : Descriptor} (hs : p.selector = some s)
  (hd : s.descriptor? = some d)

include hs hd

lemma decoded_student (hrole : s.menu.role = .student) :
    p.decoded.value = some (outcome StudentSubmission.describe
      (s.menu.decodeStudent (s.posted.pushAll (sampleFields d))).value) := by
  simp only [decoded, hs, hd, hrole]
  rfl

lemma decoded_teacher (hrole : s.menu.role = .teacher) :
    p.decoded.value = some (outcome TeacherQuery.describe
      (s.menu.decodeTeacher (s.posted.pushAll (sampleFields d))).value) := by
  simp only [decoded, hs, hd, hrole]
  rfl

lemma decoded_of_emptyKey (h : p.Sound) (hrole : s.menu.role = .teacher)
    (hkey : d.exercises.head?.map Choice.key = some "") :
    p.decoded.value = some "⚠ missing field \x60exercise\x60" := by
  rw [decoded_teacher hs hd hrole, Selector.decodeTeacher_sampleFields (h.selector s hs) hd hrole,
    if_pos hkey]
  rfl

end Leaf

/-- Whatever menus a session opens, the example is decoded at each leaf with the current selection,
the one exception aside, and nothing is decoded elsewhere. -/
theorem decodesLeaves_of_reachable {p : Preview} (hp : p.Reachable) : p.DecodesLeaves where
  leaf := by
    intro s hs hl
    have hsound := sound_of_reachable hp
    have hstarted := hsound.selector s hs
    have hcurrent : p.currentSelection = s.selection := by rw [currentSelection, hs]
    obtain ⟨d, hd⟩ := Selector.exists_descriptor hstarted hl
    refine ⟨d, hd, ?_⟩
    rw [hcurrent]
    cases hrole : s.menu.role with
    | student =>
      have hdecode := Selector.decodeStudent_sampleFields hstarted hd hrole
      have hreports := Reports.student hdecode rfl
      rw [if_neg (by simp)]
      refine ⟨_, ?_, hreports, hreports.head?_ne⟩
      rw [decoded_student hs hd hrole, hdecode, outcome]
    | teacher =>
      have hdecode := Selector.decodeTeacher_sampleFields hstarted hd hrole
      split
      · rename_i hempty
        exact decoded_of_emptyKey hs hd hsound hrole hempty.2
      · rename_i hkey
        rw [if_neg (by simpa using hkey)] at hdecode
        have hreports := Reports.teacher hdecode rfl
        refine ⟨_, ?_, hreports, hreports.head?_ne⟩
        rw [decoded_teacher hs hd hrole, hdecode, outcome]
  elsewhere := by
    intro h
    unfold decoded
    cases hs : p.selector with
    | none => rfl
    | some s =>
      have hnone : s.descriptor? = none := by
        rw [Selector.descriptor?, h s hs]
        rfl
      simp only [hnone]
      rfl

theorem decodesLeaves_at_named_exercise :
    ∃ p, p = ({} : Preview).run
        [(sampleFiles, .openFile "menu.yaml"), (sampleFiles, .choose 0 "G2")] ∧
      p.Reachable ∧ p.DecodesLeaves ∧
        p.decoded.value = some (TeacherQuery.describe ⟨"G2", "G2", ["G2"], ["E1"]⟩) := by
  obtain ⟨m, hload, hrole, -, hd, -, hgroup⟩ := exists_sample_menu
  have hrun := ({} : Preview).run_openFile_choose hload hgroup
  have hreachable := reachable_run
    [(sampleFiles, .openFile "menu.yaml"), (sampleFiles, .choose 0 "G2")]
  rw [hrun] at hreachable
  refine ⟨_, hrun.symm, hreachable, decodesLeaves_of_reachable hreachable, ?_⟩
  have hstarted := (sound_of_reachable hreachable).selector _ rfl
  rw [decoded_teacher rfl hd hrole, Selector.decodeTeacher_sampleFields hstarted hd hrole]
  rfl

/-- The preview reaches a leaf whose form the decoder refuses. -/
theorem decoded_at_unnamed_exercise :
    ∃ p s, p = ({} : Preview).run
        [(sampleFiles, .openFile "menu.yaml"), (sampleFiles, .choose 0 "G1")] ∧
      p.selector = some s ∧ s.frontier.isLeaf = true ∧
        p.decoded.value = some "⚠ missing field \x60exercise\x60" := by
  obtain ⟨m, hload, hrole, hd, -, hgroup, -⟩ := exists_sample_menu
  have hrun := ({} : Preview).run_openFile_choose hload hgroup
  have hsound := ({} : Preview).sound_showing (MenuSource.issues_of_load hload)
    (.file "menu.yaml") hgroup ""
  refine ⟨_, _, hrun.symm, rfl, ?_, decoded_of_emptyKey rfl hd hsound hrole rfl⟩
  by_contra hleaf
  rw [Selector.descriptor?, if_neg hleaf] at hd
  cases hd

end Preview

end CascadingForms
