import CascadingForms.Proofs.Decoding
import CascadingForms.Proofs.MenuIssues
import Mathlib.Data.List.Count
import Mathlib.Data.List.Nodup

/-!
# Queries of teachers

A query names the group in its chain and the exercises in a field that can come more than once. This
file says which queries a menu accepts and, of those it refuses, which reason counts: the reasons
stand in a fixed order, and the first that applies gives the error. It also says which reports an
accepted query asks for. Values of the exercise field are kept as they come, so an exercise is
reported as often as it was posted.
-/

namespace CascadingForms

/-- The exercises that a form asks for, in the order in which they were sent. An empty value asks
for none. -/
def PostedForm.exercises (f : PostedForm) : List String :=
  (f.getAll Field.exercise).filter (· ≠ "")

lemma PostedForm.filter_isEmpty_getAll (f : PostedForm) :
    (f.getAll Field.exercise).filter (!·.isEmpty) = f.exercises := by
  unfold exercises
  congr 1
  funext value
  rw [Bool.eq_iff_iff]
  simp

namespace Descriptor

/-- The keys that the picker of a leaf offers. -/
def offered (d : Descriptor) : List String := d.exercises.map Choice.key

/-- What the picker of a leaf lets through. -/
structure Allows (d : Descriptor) (exercises : List String) : Prop where
  asked : exercises ≠ []
  offered : ∀ key ∈ exercises, key ∈ d.offered
  number : exercises.length = 1 ∨ d.allowsMultipleExercises = true

end Descriptor

namespace Menu

/-- A form chooses a leaf with a descriptor. -/
def Selects (m : Menu) (f : PostedForm) (keys : List String) (d : Descriptor) : Prop :=
  ∃ leaf, m.chain f = .ok (keys, leaf) ∧ leaf.descriptor = some d

/-- A query that a menu can answer. -/
structure AcceptsQuery (m : Menu) (f : PostedForm) (keys : List String) (d : Descriptor) :
    Prop where
  role : m.role = .teacher
  selects : m.Selects f keys d
  path : f.get? Field.path = some d.path
  exercises : d.exercises = [] ∨ d.Allows f.exercises

end Menu

/-- Why a query can be refused, in the order in which the reasons count. -/
inductive QueryReason where
  | role
  | chain
  | missingPath
  | otherPath
  | missingExercise
  | unknownExercise
  | tooManyExercises

namespace QueryReason

def all : List QueryReason :=
  [role, chain, missingPath, otherPath, missingExercise, unknownExercise, tooManyExercises]

variable {m : Menu} {f : PostedForm} {keys : List String} {d : Descriptor}

/-- A reason applies to a query, and this is the error that it gives. -/
inductive Applies (m : Menu) (f : PostedForm) : QueryReason → SubmissionError → Prop
  | role (h : m.role ≠ .teacher) : Applies m f .role (.wrongRole m.role)
  | chain {e : SubmissionError} (h : m.chain f = .error e) : Applies m f .chain e
  | noDescriptor {keys : List String} {leaf : Entry} (h : m.chain f = .ok (keys, leaf))
      (hnone : leaf.descriptor = none) : Applies m f .missingPath (.missingField Field.path)
  | noPath (h : f.get? Field.path = none) : Applies m f .missingPath (.missingField Field.path)
  | otherPath {keys : List String} {d : Descriptor} {posted : String} (h : m.Selects f keys d)
      (hposted : f.get? Field.path = some posted) (hother : posted ≠ d.path) :
      Applies m f .otherPath (.pathMismatch posted d.path)
  | missingExercise {keys : List String} {d : Descriptor} (h : m.Selects f keys d)
      (hpicker : d.exercises ≠ []) (hnone : f.exercises = []) :
      Applies m f .missingExercise (.missingField Field.exercise)
  | unknownExercise {keys : List String} {d : Descriptor} {key : String} (h : m.Selects f keys d)
      (hpicker : d.exercises ≠ []) (hfirst : f.exercises.find? (· ∉ d.offered) = some key) :
      Applies m f .unknownExercise (.unknownExercise key)
  | tooManyExercises {keys : List String} {d : Descriptor} (h : m.Selects f keys d)
      (hpicker : d.exercises ≠ []) (hsingle : d.allowsMultipleExercises = false)
      (hseveral : 1 < f.exercises.length) :
      Applies m f .tooManyExercises (.tooManyExercises f.exercises.length)

/-- Of some reasons in order, the first that applies gives this error. -/
inductive First (m : Menu) (f : PostedForm) : List QueryReason → SubmissionError → Prop
  | here {reason : QueryReason} {reasons : List QueryReason} {e : SubmissionError}
      (h : reason.Applies m f e) : First m f (reason :: reasons) e
  | later {reason : QueryReason} {reasons : List QueryReason} {e : SubmissionError}
      (hnot : ∀ e', ¬reason.Applies m f e') (h : First m f reasons e) :
      First m f (reason :: reasons) e

end QueryReason

namespace Menu

variable {m : Menu} {f : PostedForm} {keys : List String} {d : Descriptor}

lemma Selects.unique {keys' : List String} {d' : Descriptor} (h : m.Selects f keys d)
    (h' : m.Selects f keys' d') : keys = keys' ∧ d = d' := by
  obtain ⟨leaf, hchain, hd⟩ := h
  obtain ⟨leaf', hchain', hd'⟩ := h'
  obtain ⟨rfl, rfl⟩ := Prod.mk.inj (Except.ok.inj (hchain.symm.trans hchain'))
  exact ⟨rfl, Option.some.inj (hd.symm.trans hd')⟩

lemma chosen_eq_ok_iff_selects (m : Menu) (f : PostedForm) (keys : List String) (d : Descriptor) :
    m.chosen f = .ok (keys, d) ↔ m.Selects f keys d ∧ f.get? Field.path = some d.path := by
  rw [chosen_eq_ok_iff]
  constructor
  · rintro ⟨leaf, hchain, hd, hpath⟩
    exact ⟨⟨leaf, hchain, hd⟩, hpath⟩
  · rintro ⟨⟨leaf, hchain, hd⟩, hpath⟩
    exact ⟨leaf, hchain, hd, hpath⟩

end Menu

/-! ### The picker -/

namespace Descriptor

variable {d : Descriptor} {f : PostedForm}

lemma hasPicker_eq_true_iff (d : Descriptor) : d.hasPicker = true ↔ d.exercises ≠ [] := by
  simp [hasPicker]

lemma isNone_exercise? (d : Descriptor) (key : String) :
    (d.exercise? key).isNone = decide (key ∉ d.offered) := by
  rw [Bool.eq_iff_iff]
  simp [exercise?, offered]

lemma pickedExercises_of_exercises_nil (h : d.exercises = []) (f : PostedForm) :
    d.pickedExercises f = .ok [] := by
  simp [pickedExercises, hasPicker, h]

lemma of_find?_offered {keys : List String} {key : String}
    (h : keys.find? (· ∉ d.offered) = some key) : key ∈ keys ∧ key ∉ d.offered :=
  ⟨List.mem_of_find?_eq_some h, by simpa using List.find?_some h⟩

/-- What a picker makes of the exercises in a form: it refuses them for the first of three reasons,
or it takes them as they are. -/
lemma pickedExercises_cases (h : d.exercises ≠ []) (f : PostedForm) :
    f.exercises = [] ∧ d.pickedExercises f = .error (.missingField Field.exercise) ∨
      (∃ key, f.exercises.find? (· ∉ d.offered) = some key ∧
        d.pickedExercises f = .error (.unknownExercise key)) ∨
      (∀ key ∈ f.exercises, key ∈ d.offered) ∧ d.allowsMultipleExercises = false ∧
        1 < f.exercises.length ∧
        d.pickedExercises f = .error (.tooManyExercises f.exercises.length) ∨
      d.Allows f.exercises ∧ d.pickedExercises f = .ok f.exercises := by
  have hpicker := (hasPicker_eq_true_iff d).mpr h
  unfold pickedExercises
  simp only [PostedForm.filter_isEmpty_getAll, hpicker, isNone_exercise?]
  by_cases hnil : f.exercises = []
  · exact .inl ⟨hnil, by simp [hnil]⟩
  refine .inr ?_
  cases hfind : f.exercises.find? (· ∉ d.offered) with
  | some key => exact .inl ⟨key, rfl, by simp [hnil]⟩
  | none =>
    have hoffered : ∀ key ∈ f.exercises, key ∈ d.offered := by simpa using hfind
    refine .inr ?_
    by_cases hmany : d.allowsMultipleExercises = false ∧ 1 < f.exercises.length
    · exact .inl ⟨hoffered, hmany.1, hmany.2, by simp [hnil, hmany]⟩
    · have hnumber : f.exercises.length = 1 ∨ d.allowsMultipleExercises = true := by
        have hpos := List.length_pos_iff.mpr hnil
        cases hmultiple : d.allowsMultipleExercises with
        | true => exact .inr rfl
        | false =>
          rw [not_and] at hmany
          have hone := hmany hmultiple
          exact .inl (by omega)
      exact .inr ⟨⟨hnil, hoffered, hnumber⟩, by simp [hnil, hmany]⟩

lemma pickedExercises_eq_ok_iff (d : Descriptor) (f : PostedForm) (picked : List String) :
    d.pickedExercises f = .ok picked ↔
      (d.exercises = [] ∨ d.Allows f.exercises) ∧
        picked = if d.exercises = [] then [] else f.exercises := by
  by_cases hpicker : d.exercises = []
  · simp [pickedExercises_of_exercises_nil, hpicker, eq_comm]
  rw [if_neg hpicker, or_iff_right hpicker]
  rcases pickedExercises_cases hpicker f with ⟨hnil, heq⟩ | ⟨key, hkey, heq⟩ |
    ⟨-, hsingle, hmany, heq⟩ | ⟨hallows, heq⟩
  · have hnot : ¬d.Allows f.exercises := fun hallows => hallows.asked hnil
    simp [heq, hnot]
  · obtain ⟨hmem, hout⟩ := of_find?_offered hkey
    have hnot : ¬d.Allows f.exercises := fun hallows => hout (hallows.offered key hmem)
    simp [heq, hnot]
  · have hnot : ¬d.Allows f.exercises := by
      intro hallows
      rcases hallows.number with hone | hmultiple
      · omega
      · cases hsingle.symm.trans hmultiple
    simp [heq, hnot]
  · simp [heq, hallows, eq_comm]

end Descriptor

/-! ### Reasons that do not apply -/

namespace QueryReason

lemma not_applies_role (h : m.role = .teacher) (e : SubmissionError) : ¬Applies m f .role e := by
  intro happlies
  cases happlies with
  | role hrole => exact hrole h

lemma not_applies_chain {found : List String × Entry} (h : m.chain f = .ok found)
    (e : SubmissionError) : ¬Applies m f .chain e := by
  intro happlies
  cases happlies with
  | chain herror => cases h.symm.trans herror

lemma not_applies_chain_of_selects (h : m.Selects f keys d) : ∀ e, ¬Applies m f .chain e := by
  obtain ⟨leaf, hchain, -⟩ := h
  exact not_applies_chain hchain

lemma not_applies_missingPath {posted : String} (h : m.Selects f keys d)
    (hposted : f.get? Field.path = some posted) (e : SubmissionError) :
    ¬Applies m f .missingPath e := by
  obtain ⟨leaf, hchain, hd⟩ := h
  intro happlies
  cases happlies with
  | noDescriptor hchain' hnone =>
    obtain ⟨-, rfl⟩ := Prod.mk.inj (Except.ok.inj (hchain.symm.trans hchain'))
    cases hd.symm.trans hnone
  | noPath hmissing => cases hposted.symm.trans hmissing

lemma not_applies_otherPath (h : m.Selects f keys d) (hpath : f.get? Field.path = some d.path)
    (e : SubmissionError) : ¬Applies m f .otherPath e := by
  intro happlies
  cases happlies with
  | otherPath h' hposted hother =>
    obtain ⟨-, rfl⟩ := h.unique h'
    exact hother (Option.some.inj (hposted.symm.trans hpath))

lemma not_applies_missingExercise (h : m.Selects f keys d)
    (hasked : d.exercises = [] ∨ f.exercises ≠ []) (e : SubmissionError) :
    ¬Applies m f .missingExercise e := by
  intro happlies
  cases happlies with
  | missingExercise h' hpicker hnone =>
    obtain ⟨-, rfl⟩ := h.unique h'
    exact hasked.resolve_left hpicker hnone

lemma not_applies_unknownExercise (h : m.Selects f keys d)
    (hoffered : d.exercises = [] ∨ ∀ key ∈ f.exercises, key ∈ d.offered) (e : SubmissionError) :
    ¬Applies m f .unknownExercise e := by
  intro happlies
  cases happlies with
  | unknownExercise h' hpicker hfirst =>
    obtain ⟨-, rfl⟩ := h.unique h'
    obtain ⟨hmem, hout⟩ := Descriptor.of_find?_offered hfirst
    exact hout (hoffered.resolve_left hpicker _ hmem)

lemma not_applies_tooManyExercises (h : m.Selects f keys d)
    (hnumber : d.exercises = [] ∨ f.exercises.length = 1 ∨ d.allowsMultipleExercises = true)
    (e : SubmissionError) : ¬Applies m f .tooManyExercises e := by
  intro happlies
  cases happlies with
  | tooManyExercises h' hpicker hsingle hseveral =>
    obtain ⟨-, rfl⟩ := h.unique h'
    rcases hnumber.resolve_left hpicker with hone | hmultiple
    · omega
    · cases hsingle.symm.trans hmultiple

/-- No reason applies to a query that can be answered. -/
lemma not_applies_of_accepts (h : m.AcceptsQuery f keys d) (reason : QueryReason)
    (e : SubmissionError) : ¬reason.Applies m f e := by
  obtain ⟨leaf, hchain, -⟩ := h.selects
  cases reason with
  | role => exact not_applies_role h.role e
  | chain => exact not_applies_chain hchain e
  | missingPath => exact not_applies_missingPath h.selects h.path e
  | otherPath => exact not_applies_otherPath h.selects h.path e
  | missingExercise =>
    exact not_applies_missingExercise h.selects (h.exercises.imp_right (·.asked)) e
  | unknownExercise =>
    exact not_applies_unknownExercise h.selects (h.exercises.imp_right (·.offered)) e
  | tooManyExercises =>
    exact not_applies_tooManyExercises h.selects (h.exercises.imp_right (·.number)) e

/-- A reason gives no two errors. -/
lemma Applies.unique {reason : QueryReason} {e e' : SubmissionError} (h : reason.Applies m f e)
    (h' : reason.Applies m f e') : e = e' := by
  cases h with
  | role =>
    cases h'
    rfl
  | chain h =>
    cases h' with
    | chain h' => exact Except.error.inj (h.symm.trans h')
  | noDescriptor => cases h' <;> rfl
  | noPath => cases h' <;> rfl
  | otherPath h hposted =>
    cases h' with
    | otherPath h' hposted' =>
      obtain ⟨-, rfl⟩ := h.unique h'
      rw [Option.some.inj (hposted.symm.trans hposted')]
  | missingExercise =>
    cases h'
    rfl
  | unknownExercise h _ hfirst =>
    cases h' with
    | unknownExercise h' _ hfirst' =>
      obtain ⟨-, rfl⟩ := h.unique h'
      rw [Option.some.inj (hfirst.symm.trans hfirst')]
  | tooManyExercises =>
    cases h'
    rfl

lemma First.unique {reasons : List QueryReason} {e e' : SubmissionError} (h : First m f reasons e)
    (h' : First m f reasons e') : e = e' := by
  induction h with
  | here h =>
    cases h' with
    | here h' => exact h.unique h'
    | later hnot => exact absurd h (hnot _)
  | later hnot _ ih =>
    cases h' with
    | here h' => exact absurd h' (hnot _)
    | later _ h' => exact ih h'

lemma First.exists_applies {reasons : List QueryReason} {e : SubmissionError}
    (h : First m f reasons e) : ∃ reason : QueryReason, reason.Applies m f e := by
  induction h with
  | here h => exact ⟨_, h⟩
  | later _ _ ih => exact ih

end QueryReason

namespace Menu

open QueryReason

lemma chosen_cases (m : Menu) (f : PostedForm) (reasons : List QueryReason) :
    (∃ e, m.chosen f = .error e ∧
        First m f (.chain :: .missingPath :: .otherPath :: reasons) e) ∨
      ∃ keys d, m.chosen f = .ok (keys, d) ∧ m.Selects f keys d ∧
        f.get? Field.path = some d.path := by
  unfold chosen
  cases hchain : m.chain f with
  | error e => exact .inl ⟨e, rfl, .here (.chain hchain)⟩
  | ok found =>
    obtain ⟨keys, leaf⟩ := found
    have hfollows := not_applies_chain hchain
    cases hd : leaf.descriptor with
    | none =>
      exact .inl ⟨_, by simp [hd], .later hfollows (.here (.noDescriptor hchain hd))⟩
    | some d =>
      cases hposted : f.get? Field.path with
      | none => exact .inl ⟨_, by simp [hd], .later hfollows (.here (.noPath hposted))⟩
      | some posted =>
        have hselects : m.Selects f keys d := ⟨leaf, hchain, hd⟩
        by_cases hpath : posted = d.path
        · subst hpath
          exact .inr ⟨keys, d, by simp [hd], hselects, rfl⟩
        · have hfound := not_applies_missingPath hselects hposted
          exact .inl ⟨_, by simp [hd, hpath],
            .later hfollows (.later hfound (.here (.otherPath hselects hposted hpath)))⟩

lemma picked_cases (h : m.Selects f keys d) :
    (∃ e, d.pickedExercises f = .error e ∧
        First m f [.missingExercise, .unknownExercise, .tooManyExercises] e) ∨
      ∃ picked, d.pickedExercises f = .ok picked ∧ (d.exercises = [] ∨ d.Allows f.exercises) := by
  by_cases hpicker : d.exercises = []
  · exact .inr ⟨[], Descriptor.pickedExercises_of_exercises_nil hpicker f, .inl hpicker⟩
  rcases Descriptor.pickedExercises_cases hpicker f with ⟨hnil, heq⟩ | ⟨key, hkey, heq⟩ |
    ⟨hoffered, hsingle, hmany, heq⟩ | ⟨hallows, heq⟩
  · exact .inl ⟨_, heq, .here (.missingExercise h hpicker hnil)⟩
  · have hasked := List.ne_nil_of_mem (Descriptor.of_find?_offered hkey).1
    exact .inl ⟨_, heq, .later (not_applies_missingExercise h (.inr hasked))
      (.here (.unknownExercise h hpicker hkey))⟩
  · have hasked := List.ne_nil_of_length_pos (Nat.zero_lt_of_lt hmany)
    exact .inl ⟨_, heq, .later (not_applies_missingExercise h (.inr hasked))
      (.later (not_applies_unknownExercise h (.inr hoffered))
        (.here (.tooManyExercises h hpicker hsingle hmany)))⟩
  · exact .inr ⟨_, heq, .inr hallows⟩

-- The checks are made in the order of the reasons, so a check that is passed rules out its reason.
lemma first_of_error {e : SubmissionError} (h : (m.decodeTeacher f).value = .error e) :
    First m f QueryReason.all e := by
  unfold decodeTeacher at h
  by_cases hrole : m.role = .teacher
  case neg =>
    rw [if_pos hrole] at h
    obtain rfl := Except.error.inj h
    exact .here (.role hrole)
  rw [if_neg (not_not_intro hrole)] at h
  refine .later (not_applies_role hrole) ?_
  rcases m.chosen_cases f [.missingExercise, .unknownExercise, .tooManyExercises] with
    ⟨e', hchosen, hfirst⟩ | ⟨keys, d, hchosen, hselects, hpath⟩
  · rw [hchosen] at h
    obtain rfl := Except.error.inj h
    exact hfirst
  · rw [hchosen] at h
    rcases picked_cases hselects with ⟨e', hpicked, hfirst⟩ | ⟨picked, hpicked, -⟩
    · simp only [logged, hpicked] at h
      obtain rfl := Except.error.inj h
      exact .later (not_applies_chain_of_selects hselects)
        (.later (not_applies_missingPath hselects hpath)
          (.later (not_applies_otherPath hselects hpath) hfirst))
    · simp only [logged, hpicked] at h
      cases h

lemma decodeTeacher_eq_ok_iff_accepts (m : Menu) (f : PostedForm) (q : TeacherQuery) :
    (m.decodeTeacher f).value = .ok q ↔
      ∃ d, m.AcceptsQuery f q.selection d ∧
        q.exercises = (if d.exercises = [] then [] else f.exercises) ∧
          q.course = q.selection.head?.getD "" ∧ q.group = q.selection.getLast?.getD "" := by
  rw [decodeTeacher_eq_ok_iff]
  simp only [chosen_eq_ok_iff_selects, Descriptor.pickedExercises_eq_ok_iff]
  constructor
  · rintro ⟨hrole, d, ⟨hselects, hpath⟩, ⟨hallowed, hpicked⟩, hcourse, hgroup⟩
    exact ⟨d, ⟨hrole, hselects, hpath, hallowed⟩, hpicked, hcourse, hgroup⟩
  · rintro ⟨d, ⟨hrole, hselects, hpath, hallowed⟩, hpicked, hcourse, hgroup⟩
    exact ⟨hrole, d, ⟨hselects, hpath⟩, ⟨hallowed, hpicked⟩, hcourse, hgroup⟩

/-- A menu accepts exactly the queries that the picker of their leaf allows, with the exercises as
they were posted, and refuses every other for the first reason that applies. -/
theorem decodeTeacher_follows_picker (m : Menu) (f : PostedForm) :
    ((∃ q, (m.decodeTeacher f).value = .ok q) ↔ ∃ keys d, m.AcceptsQuery f keys d) ∧
    (∀ q, (m.decodeTeacher f).value = .ok q ↔
      ∃ d, m.AcceptsQuery f q.selection d ∧
        q.exercises = (if d.exercises = [] then [] else f.exercises) ∧
          q.course = q.selection.head?.getD "" ∧ q.group = q.selection.getLast?.getD "") ∧
    ∀ e, (m.decodeTeacher f).value = .error e ↔ First m f QueryReason.all e := by
  have hok := m.decodeTeacher_eq_ok_iff_accepts f
  refine ⟨⟨?_, ?_⟩, hok, fun e => ⟨first_of_error, ?_⟩⟩
  · rintro ⟨q, hq⟩
    obtain ⟨d, haccepts, -⟩ := (hok q).mp hq
    exact ⟨q.selection, d, haccepts⟩
  · rintro ⟨keys, d, haccepts⟩
    refine ⟨⟨keys.head?.getD "", keys.getLast?.getD "", keys,
      if d.exercises = [] then [] else f.exercises⟩, (hok _).mpr ?_⟩
    exact ⟨d, haccepts, rfl, rfl, rfl⟩
  · intro hfirst
    cases hvalue : (m.decodeTeacher f).value with
    | error e' => rw [(first_of_error hvalue).unique hfirst]
    | ok q =>
      obtain ⟨d, haccepts, -⟩ := (hok q).mp hvalue
      obtain ⟨reason, happlies⟩ := hfirst.exists_applies
      exact absurd happlies (not_applies_of_accepts haccepts reason e)

end Menu

/-! ### Reports -/

namespace TeacherQuery

/-- The reports of a query at a leaf: one for each exercise that was posted, in order, with the
exercise in place of the group. An exercise is reported as often as it was posted. -/
structure ReportsPosted (q : TeacherQuery) (d : Descriptor) (f : PostedForm) : Prop where
  posted : q.exercises = if d.exercises = [] then [] else f.exercises
  offered : ∀ key ∈ q.exercises, key ∈ d.offered
  bases : ∀ i : Nat,
    q.reportBases[i]? = q.exercises[i]?.map fun key => q.selection.dropLast ++ [key]
  count : ∀ key, q.reportBases.count (q.selection.dropLast ++ [key]) = q.exercises.count key
  distinct : q.reportBases.Nodup ↔ q.exercises.Nodup
  single : d.allowsMultipleExercises = false → q.reportBases.Nodup

lemma injective_append_singleton (path : List String) :
    Function.Injective fun key : String => path ++ [key] := by
  intro key other h
  simpa using h

end TeacherQuery

namespace Menu

variable {m : Menu} {f : PostedForm}

/-- The reports of an accepted query name only exercises that its leaf offers, and no two of them
are alike exactly if no exercise was posted twice. Where the picker takes one exercise this always
holds. -/
theorem reports_follow_exercises {q : TeacherQuery} (h : (m.decodeTeacher f).value = .ok q) :
    ∃ d, m.Selects f q.selection d ∧ q.ReportsPosted d f := by
  obtain ⟨d, haccepts, hposted, -⟩ := (m.decodeTeacher_eq_ok_iff_accepts f q).mp h
  have hinjective := TeacherQuery.injective_append_singleton q.selection.dropLast
  have hdistinct : q.reportBases.Nodup ↔ q.exercises.Nodup := List.nodup_map_iff hinjective
  refine ⟨d, haccepts.selects, hposted, ?_, ?_, ?_, hdistinct, ?_⟩
  · rw [hposted]
    split
    · simp
    · rename_i hpicker
      exact (haccepts.exercises.resolve_left hpicker).offered
  · intro i
    exact List.getElem?_map
  · exact List.count_map_of_injective q.exercises _ hinjective
  · intro hsingle
    rw [hdistinct, hposted]
    split
    · exact List.nodup_nil
    · rename_i hpicker
      rcases (haccepts.exercises.resolve_left hpicker).number with hone | hmultiple
      · obtain ⟨key, hkey⟩ := List.length_eq_one_iff.mp hone
        rw [hkey]
        exact List.nodup_singleton key
      · cases hsingle.symm.trans hmultiple

theorem reports_follow_exercises_of_group :
    ((sample .teacher).decodeTeacher ⟨[("exercise", "Exo2"), ("Course", "Unix"), ("Unix", "G1"),
        ("path", ""), ("exercise", ""), ("exercise", "Exo1")]⟩).value =
      .ok ⟨"Unix", "G1", ["Unix", "G1"], ["Exo2", "Exo1"]⟩ ∧
      ∃ d, TeacherQuery.ReportsPosted ⟨"Unix", "G1", ["Unix", "G1"], ["Exo2", "Exo1"]⟩ d
        ⟨[("exercise", "Exo2"), ("Course", "Unix"), ("Unix", "G1"), ("path", ""),
          ("exercise", ""), ("exercise", "Exo1")]⟩ := by
  have hdecode : ((sample .teacher).decodeTeacher ⟨[("exercise", "Exo2"), ("Course", "Unix"),
      ("Unix", "G1"), ("path", ""), ("exercise", ""), ("exercise", "Exo1")]⟩).value =
        .ok ⟨"Unix", "G1", ["Unix", "G1"], ["Exo2", "Exo1"]⟩ := by
    decide +kernel
  obtain ⟨d, -, hreports⟩ := reports_follow_exercises hdecode
  exact ⟨hdecode, d, hreports⟩

/-- A picker with several exercises does not notice that one of them comes twice. -/
theorem exercise_reported_twice :
    (sample .teacher).issues = [] ∧
      ∃ q, ((sample .teacher).decodeTeacher ⟨[("Course", "Unix"), ("Unix", "G1"), ("path", ""),
          ("exercise", "Exo2"), ("exercise", "Exo1"), ("exercise", "Exo2")]⟩).value = .ok q ∧
        q.reportBases = [["Unix", "Exo2"], ["Unix", "Exo1"], ["Unix", "Exo2"]] ∧
        ¬q.reportBases.Nodup := by
  refine ⟨issues_sample .teacher,
    ⟨"Unix", "G1", ["Unix", "G1"], ["Exo2", "Exo1", "Exo2"]⟩, ?_, ?_, ?_⟩ <;> decide +kernel

end Menu

end CascadingForms
