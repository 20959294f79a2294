import CascadingForms.Proofs.FormChain

/-!
# What decoding succeeds with

For each step of decoding, the exact condition under which it succeeds and with what: the choice
of a leaf, the name of a function, and the whole submission or query.
-/

namespace CascadingForms

namespace Descriptor

/-- A function name is asked for and taken from the first value posted, unless that is blank. -/
lemma functionName_eq_ok_iff (d : Descriptor) (f : PostedForm) (name : Option String) :
    d.functionName f = .ok name ↔
      if d.requiresFunctionName then
        ∃ value, f.get? Field.function = some value ∧ Text.trim value ≠ "" ∧
          name = some (Text.trim value)
      else name = none := by
  unfold functionName
  cases d.requiresFunctionName with
  | false => simp [eq_comm]
  | true =>
    cases f.get? Field.function with
    | none => simp
    | some value =>
      by_cases hblank : Text.trim value = ""
      · simp [hblank]
      · simp only [if_true, Option.map_some, String.isEmpty_iff, hblank, if_false,
          Except.ok.injEq, Option.some.injEq]
        constructor
        · rintro rfl
          exact ⟨value, rfl, hblank, rfl⟩
        · rintro ⟨_, rfl, -, rfl⟩
          rfl

end Descriptor

namespace Menu

variable {m : Menu} {f : PostedForm}

/-- A leaf is chosen if the chain leads to it and the path of its template is posted. -/
lemma chosen_eq_ok_iff (m : Menu) (f : PostedForm) (keys : List String) (d : Descriptor) :
    m.chosen f = .ok (keys, d) ↔
      ∃ leaf, m.chain f = .ok (keys, leaf) ∧ leaf.descriptor = some d ∧
        f.get? Field.path = some d.path := by
  unfold chosen
  cases hc : m.chain f with
  | error error => simp
  | ok found =>
    rcases found with ⟨found, leaf⟩
    cases hd : leaf.descriptor with
    | none => simp [hd]
    | some own =>
      cases hp : f.get? Field.path with
      | none => simp [hd]
      | some posted =>
        by_cases hsame : posted = own.path
        · subst hsame
          simp only [hd, if_true, Except.ok.injEq, Prod.mk.injEq, Option.some.injEq]
          constructor
          · rintro ⟨rfl, rfl⟩
            exact ⟨leaf, ⟨rfl, rfl⟩, hd, rfl⟩
          · rintro ⟨_, ⟨rfl, rfl⟩, howned, -⟩
            exact ⟨rfl, Option.some.inj (hd.symm.trans howned)⟩
        · have hother : ¬(own = d ∧ posted = d.path) := by
            rintro ⟨rfl, rfl⟩
            exact hsame rfl
          simp [hsame, hd, hother]

lemma decodeStudent_eq_ok_iff (m : Menu) (f : PostedForm) (r : StudentSubmission) :
    (m.decodeStudent f).value = .ok r ↔
      m.role = .student ∧ ∃ d, m.chosen f = .ok (r.selection, d) ∧ r.path = d.path ∧
        d.functionName f = .ok r.functionName := by
  unfold decodeStudent
  by_cases hrole : m.role = .student
  · rw [if_neg (not_not_intro hrole)]
    cases hc : m.chosen f with
    | error error => simp [logged, hrole]
    | ok found =>
      rcases found with ⟨keys, d⟩
      rcases r with ⟨selection, path, functionName⟩
      cases hn : d.functionName f with
      | error error => simp [logged, hrole, hn, Except.map]
      | ok name => simp [logged, hrole, hn, Except.map, eq_comm]
  · simp [hrole]

lemma decodeTeacher_eq_ok_iff (m : Menu) (f : PostedForm) (q : TeacherQuery) :
    (m.decodeTeacher f).value = .ok q ↔
      m.role = .teacher ∧ ∃ d, m.chosen f = .ok (q.selection, d) ∧
        d.pickedExercises f = .ok q.exercises ∧ q.course = q.selection.head?.getD "" ∧
          q.group = q.selection.getLast?.getD "" := by
  unfold decodeTeacher
  by_cases hrole : m.role = .teacher
  · rw [if_neg (not_not_intro hrole)]
    cases hc : m.chosen f with
    | error error => simp [logged, hrole]
    | ok found =>
      rcases found with ⟨keys, d⟩
      rcases q with ⟨course, group, selection, exercises⟩
      cases hp : d.pickedExercises f with
      | error error => simp [logged, hrole, hp, Except.map]
      | ok picked =>
        simp only [logged, hp, hrole, true_and, Except.map, Except.ok.injEq,
          TeacherQuery.mk.injEq, Prod.mk.injEq]
        constructor
        · rintro ⟨rfl, rfl, rfl, rfl⟩
          exact ⟨d, ⟨rfl, rfl⟩, hp, rfl, rfl⟩
        · rintro ⟨_, ⟨rfl, rfl⟩, hpicked, rfl, rfl⟩
          exact ⟨rfl, rfl, rfl, Except.ok.inj (hp.symm.trans hpicked)⟩
  · simp [hrole]

end Menu

end CascadingForms
