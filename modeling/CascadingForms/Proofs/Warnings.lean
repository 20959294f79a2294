import CascadingForms.Proofs.SelectorRefusals
import CascadingForms.Proofs.TeacherQueries

/-!
# Warnings

Loading a menu and choosing what is offered leave no warning. Of the refusals only some do: a form
that chooses no leaf, or posts another path than that of its leaf, and a key that its dropdown does
not offer. This file says which refusals are recorded, each with one warning, and that the others
leave no record: a form for the other role, a missing name of a function, exercises that the picker
does not let through, and a level without a dropdown.
-/

namespace CascadingForms

/-- The warnings among some log records. -/
def warnings (log : List Record) : List Record := log.filter (·.severity = .warning)

lemma warnings_append (log rest : List Record) :
    warnings (log ++ rest) = warnings log ++ warnings rest := List.filter_append log rest

lemma Menu.warnings_load (text origin : String) : warnings (load text origin).log = [] := by
  unfold load
  split <;> rfl

namespace Selector

/-! ### Choices -/

lemma warnings_render (s : Selector) (depth : Nat) : warnings (s.render depth).log = [] := by
  unfold render
  dsimp only
  split
  · rfl
  · unfold Entry.controlsLog
    split <;> rfl

/-- A choice that is accepted leaves no warning. -/
lemma warnings_select {s : Selector} {level : Nat} {key : String} {l : Level}
    (h : (s.select level key).result = .ok l) : warnings (s.select level key).log = [] := by
  unfold select at h ⊢
  cases hentry : s.entryForLevel level with
  | error e => rfl
  | ok d =>
    cases hc : d.child? key with
    | none => simp [hentry, hc] at h
    | some child =>
      dsimp only
      rw [hc]
      exact warnings_render _ _

lemma warnings_selectFrom {s : Selector} {level : Nat} {keys : List String}
    (h : (s.selectFrom level keys).result = .ok ()) :
    warnings (s.selectFrom level keys).log = [] := by
  induction keys generalizing s level with
  | nil => rfl
  | cons key keys ih =>
    rw [selectFrom] at h ⊢
    cases hr : (s.select level key).result with
    | error e => simp [hr] at h
    | ok l =>
      simp only [hr] at h ⊢
      rw [warnings_append, warnings_select hr, ih h, List.append_nil]

lemma warnings_selectPath {s : Selector} {keys : List String}
    (h : (s.selectPath keys).result = .ok ()) : warnings (s.selectPath keys).log = [] := by
  have hstart : warnings s.start.log = [] := warnings_render _ _
  unfold selectPath at h ⊢
  rw [warnings_append, hstart, warnings_selectFrom h, List.append_nil]

/-- The record of a key that a dropdown does not offer. -/
def rejection (level : Nat) (parent key : String) : Record :=
  ⟨.warning, "rejected selection \x60" ++ key ++ "\x60 at level " ++ toString level ++ " (\x60" ++
    parent ++ "\x60)"⟩

/-- What a choice at a level leaves in the log: one warning if the dropdown there does not offer the
key, and none otherwise, whether the choice is accepted or there is no dropdown to choose from. -/
structure WarnsOfKey (s : Selector) (level : Nat) (key : String) : Prop where
  offered : ∀ d, s.entryForLevel level = .ok d → key ∈ d.childKeys →
    (s.select level key).refusal? = none ∧ warnings (s.select level key).log = []
  unoffered : ∀ d, s.entryForLevel level = .ok d → key ∉ d.childKeys →
    (s.select level key).refusal? = some (.invalidSelection d.key key) ∧
      (s.select level key).log = [rejection level d.key key]
  noDropdown : ∀ e, s.entryForLevel level = .error e →
    (s.select level key).refusal? = some e ∧ (s.select level key).log = []

theorem warnsOfKey {m : Menu} {s : Selector} (hs : Reachable m s) (level : Nat) (key : String) :
    s.WarnsOfKey level key where
  offered := by
    intro d hentry hkey
    obtain ⟨-, position, h, rfl⟩ := reachable_iff.mp hs
    have hrefusal : ((m.selectorAt position).select level key).refusal? = none := by
      obtain ⟨-, hd⟩ := entryForLevel_ok hentry
      rw [refusal?_select h, choiceRefusal?, levelRefusal?_of_ok h hentry, Option.none_or, hd,
        Option.bind_some, if_pos hkey]
    refine ⟨hrefusal, ?_⟩
    cases hresult : ((m.selectorAt position).select level key).result with
    | error e => simp [Step.refusal?, hresult] at hrefusal
    | ok l => exact warnings_select hresult
  unoffered := by
    intro d hentry hkey
    have hchild := (Entry.child?_eq_none_iff d key).mpr hkey
    have hselect : s.select level key =
        ⟨s, .error (.invalidSelection d.key key), [rejection level d.key key]⟩ := by
      simp only [select, hentry, hchild, rejection]
    rw [hselect]
    exact ⟨rfl, rfl⟩
  noDropdown := by
    intro e hentry
    rw [select_of_error hentry]
    exact ⟨rfl, rfl⟩

end Selector

/-! ### Forms -/

namespace Menu

/-- A form chooses a leaf and posts the path of its template. What else is asked for there does not
matter. -/
def Chooses (m : Menu) (f : PostedForm) : Prop :=
  ∃ keys d, m.Selects f keys d ∧ f.get? Field.path = some d.path

/-- The record of a form that chooses nothing. -/
def rejection (m : Menu) (kind : String) (e : SubmissionError) : Record :=
  ⟨.warning, "rejected " ++ kind ++ " for \x60" ++ m.name ++ "\x60: " ++ e.message⟩

/-- What decoding a form of some role leaves in the log: one warning that names the menu if the form
chooses nothing, and no record otherwise, whether the form is accepted, is meant for the other role
or lacks something that its leaf asks for. -/
structure WarnsOfChoice {α : Type} (m : Menu) (role : Role) (kind : String) (f : PostedForm)
    (decoded : Logged (Except SubmissionError α)) : Prop where
  accepted : ∀ a, decoded.value = .ok a → decoded.log = []
  otherRole : m.role ≠ role → decoded.value = .error (.wrongRole m.role) ∧ decoded.log = []
  unchosen : m.role = role → ¬m.Chooses f →
    ∃ e, decoded.value = .error e ∧ decoded.log = [m.rejection kind e]
  chosen : m.role = role → m.Chooses f → decoded.log = []

variable {m : Menu} {f : PostedForm}

lemma exists_chosen_of_chooses (h : m.Chooses f) : ∃ keys d, m.chosen f = .ok (keys, d) := by
  obtain ⟨keys, d, hchosen⟩ := h
  exact ⟨keys, d, (chosen_eq_ok_iff_selects m f keys d).mpr hchosen⟩

lemma exists_error_of_not_chooses (h : ¬m.Chooses f) : ∃ e, m.chosen f = .error e := by
  cases hchosen : m.chosen f with
  | error e => exact ⟨e, rfl⟩
  | ok found =>
    obtain ⟨keys, d⟩ := found
    exact absurd ⟨keys, d, (chosen_eq_ok_iff_selects m f keys d).mp hchosen⟩ h

/-- Only the choice of a form is logged, so what follows of it makes no difference. -/
theorem warnsOfChoice_logged {α : Type} (m : Menu) (role : Role) (kind : String) (f : PostedForm)
    (next : List String → Descriptor → Except SubmissionError α) :
    m.WarnsOfChoice role kind f
      (if m.role ≠ role then ⟨.error (.wrongRole m.role), []⟩
      else m.logged kind (m.chosen f) next) where
  accepted := by
    intro a haccepted
    split at haccepted
    · cases haccepted
    · rename_i hrole
      rw [if_neg hrole]
      cases hchosen : m.chosen f with
      | error e =>
        simp only [logged, hchosen] at haccepted
        cases haccepted
      | ok found => rfl
  otherRole := by
    intro hrole
    rw [if_pos hrole]
    exact ⟨rfl, rfl⟩
  unchosen := by
    intro hrole hchooses
    obtain ⟨e, he⟩ := exists_error_of_not_chooses hchooses
    rw [if_neg (not_not_intro hrole), he]
    exact ⟨e, rfl, rfl⟩
  chosen := by
    intro hrole hchooses
    obtain ⟨keys, d, hchosen⟩ := exists_chosen_of_chooses hchooses
    rw [if_neg (not_not_intro hrole), hchosen]
    rfl

/-- Which refusals leave a warning. Both decoders warn of forms that choose nothing and of no
others, and a selector warns of keys that are not offered and of nothing else. -/
theorem warnings_tell_of_choices (m : Menu) (f : PostedForm) {n : Menu} {s : Selector}
    (hs : Selector.Reachable n s) (level : Nat) (key : String) :
    m.WarnsOfChoice .student "submission" f (m.decodeStudent f) ∧
      m.WarnsOfChoice .teacher "teacher query" f (m.decodeTeacher f) ∧
      s.WarnsOfKey level key :=
  ⟨warnsOfChoice_logged m .student "submission" f _,
    warnsOfChoice_logged m .teacher "teacher query" f _, Selector.warnsOfKey hs level key⟩

/-- A group with the path of an exercise from another course. -/
def mixedForm : PostedForm :=
  ⟨[("Course", "Unix"), ("Unix", "G1"), ("path", "algo/ex1.bad")]⟩

theorem warnings_tell_of_choices_in_sample :
    Selector.Reachable (sample .student) ((sample .student).selectorAt (some ["Unix"])) ∧
      (((sample .student).selectorAt (some ["Unix"])).select 1 "Ex1").log =
        [⟨.warning, "rejected selection \x60Ex1\x60 at level 1 (\x60Unix\x60)"⟩] ∧
      ((sample .student).decodeStudent mixedForm).log =
        [(sample .student).rejection "submission" (.pathMismatch "algo/ex1.bad" "")] := by
  have hs : Selector.Reachable (sample .student) ((sample .student).selectorAt (some ["Unix"])) :=
    Selector.reachable_iff.mpr ⟨issues_sample .student, some ["Unix"], by decide +kernel, rfl⟩
  obtain ⟨hstudent, -, hkey⟩ :=
    warnings_tell_of_choices (sample .student) mixedForm hs 1 "Ex1"
  refine ⟨hs, (hkey.unoffered _ rfl (by decide +kernel)).2, ?_⟩
  have hvalue : ((sample .student).decodeStudent mixedForm).value =
      .error (.pathMismatch "algo/ex1.bad" "") := by
    decide +kernel
  have hchosen : (sample .student).chosen mixedForm =
      .error (.pathMismatch "algo/ex1.bad" "") := by
    decide +kernel
  have hnot : ¬(sample .student).Chooses mixedForm := by
    intro hchooses
    obtain ⟨keys, d, hok⟩ := exists_chosen_of_chooses hchooses
    cases hchosen.symm.trans hok
  obtain ⟨e, herror, hlog⟩ := hstudent.unchosen rfl hnot
  obtain rfl := Except.error.inj (hvalue.symm.trans herror)
  exact hlog

/-- Refusals of which the log says nothing: a submission without the name of its function, a query
for an exercise that is not offered, a form for the other role, and a choice before the start. -/
theorem refused_without_warning :
    ((sample .student).decodeStudent
        ⟨[("Course", "Algo"), ("Algo", "Ex1"), ("path", "algo/ex1.bad")]⟩).value =
      .error (.missingField Field.function) ∧
    ((sample .student).decodeStudent
        ⟨[("Course", "Algo"), ("Algo", "Ex1"), ("path", "algo/ex1.bad")]⟩).log = [] ∧
    ((sample .teacher).decodeTeacher
        ⟨[("Course", "Unix"), ("Unix", "G1"), ("path", ""), ("exercise", "Exo3")]⟩).value =
      .error (.unknownExercise "Exo3") ∧
    ((sample .teacher).decodeTeacher
        ⟨[("Course", "Unix"), ("Unix", "G1"), ("path", ""), ("exercise", "Exo3")]⟩).log = [] ∧
    ((sample .teacher).decodeStudent {}).value = .error (.wrongRole .teacher) ∧
    ((sample .teacher).decodeStudent {}).log = [] ∧
    Selector.Reachable (sample .student) ((sample .student).selectorAt none) ∧
    (((sample .student).selectorAt none).select 0 "Algo").refusal? = some .notInitialized ∧
    (((sample .student).selectorAt none).select 0 "Algo").log = [] := by
  refine ⟨?_, ?_, ?_, ?_, ?_, ?_, ?_, ?_, ?_⟩
  case refine_7 => exact Selector.reachable_iff.mpr ⟨issues_sample .student, none, trivial, rfl⟩
  all_goals decide +kernel

end Menu

end CascadingForms
