import CascadingForms.Proofs.Decoding
import CascadingForms.Proofs.MenuIssues
import Mathlib.Data.List.Chain
import Mathlib.Logic.Relation

/-!
# The fields that decoding reads

Which fields of a form are read depends on the values read before: the chain goes from the field of
the root to one field after the other. This file follows two forms that agree on these fields, on
the path and on what the user fills in: whatever else they hold, the chain, the submission and the
query found in them are the same. Of a field other than the exercises only the first value is read.
So a second value under the name of a dropdown, of the path or of the function is passed over, not
refused, and the order of two values decides which leaf a form selects.
-/

namespace CascadingForms

namespace PostedForm

/-- A field with a name that counts for nothing is added, left out or exchanged for another. -/
inductive Edit (names : List String) : PostedForm → PostedForm → Prop
  | add {field : String × String} (before after : List (String × String))
      (h : field.1 ∉ names) : Edit names ⟨before ++ after⟩ ⟨before ++ field :: after⟩
  | remove {field : String × String} (before after : List (String × String))
      (h : field.1 ∉ names) : Edit names ⟨before ++ field :: after⟩ ⟨before ++ after⟩
  | alter {field other : String × String} (before after : List (String × String))
      (h : field.1 ∉ names) (hother : other.1 ∉ names) :
      Edit names ⟨before ++ field :: after⟩ ⟨before ++ other :: after⟩

variable {f g : PostedForm} {names : List String} {name : String}

lemma getAll_cons_of_ne {field : String × String} (h : field.1 ≠ name)
    (before after : List (String × String)) :
    (⟨before ++ field :: after⟩ : PostedForm).getAll name =
      (⟨before ++ after⟩ : PostedForm).getAll name := by
  simp [getAll, h]

lemma getAll_of_edit (h : Edit names f g) (hname : name ∈ names) :
    g.getAll name = f.getAll name := by
  have hne {field : String × String} (hfield : field.1 ∉ names) : field.1 ≠ name := by
    rintro rfl
    exact hfield hname
  cases h with
  | add before after hfield => exact getAll_cons_of_ne (hne hfield) before after
  | remove before after hfield => exact (getAll_cons_of_ne (hne hfield) before after).symm
  | alter before after hfield hother =>
    rw [getAll_cons_of_ne (hne hother), getAll_cons_of_ne (hne hfield)]

/-- However often a form is edited, the values of all other names stay as they were. -/
theorem getAll_of_edits (h : Relation.ReflTransGen (Edit names) f g) (hname : name ∈ names) :
    g.getAll name = f.getAll name := by
  induction h with
  | refl => rfl
  | tail _ hedit ih => exact (getAll_of_edit hedit hname).trans ih

lemma get?_of_getAll (h : g.getAll name = f.getAll name) : g.get? name = f.get? name :=
  congrArg List.head? h

lemma push_eq_pushAll (f : PostedForm) (name value : String) :
    f.push name value = f.pushAll [(name, value)] := rfl

/-- A second value of a name is not the first one of any. -/
lemma get?_push_of_contains (h : f.contains name = true) (value other : String) :
    (f.push name value).get? other = f.get? other := by
  have hposted : f.get? name ≠ none := by
    rw [Ne, ← contains_eq_false_iff, h]
    decide
  rw [push_eq_pushAll, get?_pushAll, get?_cons, get?_nil]
  split
  · rename_i hname
    subst hname
    exact Option.or_of_isSome (Option.isSome_iff_ne_none.mpr hposted)
  · rw [Option.or_none]

lemma getAll_push_of_ne {other : String} (h : name ≠ other) (value : String) :
    (f.push name value).getAll other = f.getAll other := by
  have hnone : (⟨[(name, value)]⟩ : PostedForm).getAll other = [] := by simp [getAll, h]
  rw [push_eq_pushAll, getAll_pushAll, hnone, List.append_nil]

end PostedForm

namespace Entry

variable {e leaf : Entry} {f g : PostedForm} {keys : List String}

/-- A chain to a leaf reads the fields on its way and the one of the leaf, and no others. -/
theorem chain_of_sameFields (h : e.chain f = .ok (keys, leaf))
    (hsame : ∀ name ∈ e.key :: keys, g.get? name = f.get? name) :
    e.chain g = .ok (keys, leaf) := by
  obtain ⟨hd, hleaf, hlinks, hend⟩ := (chain_eq_ok_iff e f keys leaf).mp h
  refine (chain_eq_ok_iff e g keys leaf).mpr ⟨hd, hleaf, ?_, ?_⟩
  · refine hlinks.imp_of_mem_imp ?_
    intro name key hname _ hvalue
    rw [hsame name hname, hvalue]
  · rw [hsame leaf.key (key_mem_of_descend? hd), hend]

/-- The first values of a form decide about its chain, also where it is refused. -/
theorem chain_congr (hsame : ∀ name, g.get? name = f.get? name) (e : Entry) :
    e.chain g = e.chain f := by
  induction e using Entry.induction with
  | h e ih =>
    cases hl : e.isLeaf with
    | true => rw [chain_of_isLeaf hl, chain_of_isLeaf hl, hsame]
    | false =>
      rw [chain_of_isLeaf_false hl, chain_of_isLeaf_false hl, hsame]
      cases f.get? e.key with
      | none => rfl
      | some value =>
        cases hc : e.child? value with
        | none => simp only [hc]
        | some child => simp only [hc, ih child (mem_children_of_child? hc)]

end Entry

namespace Menu

/-- The names that matter where a form chooses some keys. -/
def namesRead (m : Menu) (keys : List String) : List String :=
  m.root.key :: keys ++ [Field.path, Field.function, Field.exercise]

/-- A menu finds the same in two forms: the same keys, submission and query, or the same errors, and
its records say the same of them. -/
structure DecodesAlike (m : Menu) (f g : PostedForm) : Prop where
  chain : m.chain g = m.chain f
  student : m.decodeStudent g = m.decodeStudent f
  teacher : m.decodeTeacher g = m.decodeTeacher f

variable {m : Menu} {f g : PostedForm}

theorem decodesAlike_of_sameFields (hchain : m.chain g = m.chain f)
    (hpath : g.get? Field.path = f.get? Field.path)
    (hfunction : g.get? Field.function = f.get? Field.function)
    (hexercise : g.getAll Field.exercise = f.getAll Field.exercise) : m.DecodesAlike f g := by
  have hchosen : m.chosen g = m.chosen f := by
    unfold chosen
    rw [hchain, hpath]
  have hname (d : Descriptor) : d.functionName g = d.functionName f := by
    unfold Descriptor.functionName
    rw [hfunction]
  have hpicked (d : Descriptor) : d.pickedExercises g = d.pickedExercises f := by
    unfold Descriptor.pickedExercises
    rw [hexercise]
  constructor
  · exact hchain
  · simp only [decodeStudent, hchosen, hname]
  · simp only [decodeTeacher, hchosen, hpicked]

lemma decodesAlike_of_namesRead {keys : List String} {leaf : Entry}
    (h : m.chain f = .ok (keys, leaf))
    (hread : ∀ name ∈ m.namesRead keys, g.getAll name = f.getAll name) : m.DecodesAlike f g := by
  have hchain : m.chain g = .ok (keys, leaf) := by
    apply Entry.chain_of_sameFields h
    intro name hname
    exact PostedForm.get?_of_getAll (hread name (List.mem_append_left _ hname))
  have hfixed (name : String) (hname : name ∈ [Field.path, Field.function, Field.exercise]) :
      g.getAll name = f.getAll name :=
    hread name (List.mem_append_right _ hname)
  apply decodesAlike_of_sameFields
  · rw [hchain, h]
  · exact PostedForm.get?_of_getAll (hfixed Field.path (by decide))
  · exact PostedForm.get?_of_getAll (hfixed Field.function (by decide))
  · exact hfixed Field.exercise (by decide)

/-- Where a form chooses a leaf, only the fields on the way to it, the path and what the user fills
in have an influence. Fields of other names, left over from other branches, can be edited at will,
and fields of different names can come in any order. -/
theorem unread_fields_ignored {keys : List String} {leaf : Entry}
    (h : m.chain f = .ok (keys, leaf)) :
    (∀ g : PostedForm, (∀ name ∈ m.namesRead keys, g.getAll name = f.getAll name) →
      m.DecodesAlike f g) ∧
    (∀ g : PostedForm, Relation.ReflTransGen (PostedForm.Edit (m.namesRead keys)) f g →
      m.DecodesAlike f g) ∧
    ∀ fields : List (String × String),
      (∀ name, fields.filter (·.1 = name) = f.fields.filter (·.1 = name)) →
        m.DecodesAlike f (({} : PostedForm).pushAll fields) := by
  refine ⟨fun g hread => decodesAlike_of_namesRead h hread, ?_, ?_⟩
  · intro g hedits
    apply decodesAlike_of_namesRead h
    intro name hname
    exact PostedForm.getAll_of_edits hedits hname
  · intro fields horder
    apply decodesAlike_of_namesRead h
    intro name _
    exact congrArg (List.map Prod.snd) (horder name)

/-- A query for a group, with a field left over from an exercise of another course. -/
def groupQuery : PostedForm :=
  ⟨[("Course", "Unix"), ("Unix", "G1"), ("path", ""), ("Ex2", "Q1"), ("exercise", "Exo2")]⟩

theorem unread_fields_ignored_for_group :
    (sample .teacher).chain groupQuery =
        .ok (["Unix", "G1"],
          sampleLeaf "G1" "" false [⟨"Exo1", "Exercise 1"⟩, ⟨"Exo2", "Exercise 2"⟩]) ∧
      (sample .teacher).DecodesAlike groupQuery
        ⟨[("Algo", "Ex1"), ("exercise", "Exo2"), ("path", ""), ("Unix", "G1"),
          ("Course", "Unix")]⟩ ∧
      (sample .teacher).DecodesAlike groupQuery
        ⟨[("Course", "Unix"), ("Unix", "G1"), ("path", ""), ("Algo", "Ex2"),
          ("exercise", "Exo2")]⟩ := by
  have hchain : (sample .teacher).chain groupQuery =
      .ok (["Unix", "G1"],
        sampleLeaf "G1" "" false [⟨"Exo1", "Exercise 1"⟩, ⟨"Exo2", "Exercise 2"⟩]) := rfl
  obtain ⟨hread, hedits, -⟩ := unread_fields_ignored hchain
  refine ⟨hchain, hread _ (by decide +kernel), hedits _ (.single ?_)⟩
  exact .alter [("Course", "Unix"), ("Unix", "G1"), ("path", "")] [("exercise", "Exo2")]
    (by decide +kernel) (by decide +kernel)

/-! ### First values -/

lemma links_of_chosen {keys : List String} {d : Descriptor} (h : m.chosen f = .ok (keys, d)) :
    (m.root.key :: keys).IsChain (fun name key => (f.getAll name).head? = some key) ∧
      (f.getAll Field.path).head? = some d.path := by
  obtain ⟨leaf, hchain, -, hpath⟩ := (chosen_eq_ok_iff m f keys d).mp h
  obtain ⟨-, -, hlinks, -⟩ := (Entry.chain_eq_ok_iff m.root f keys leaf).mp hchain
  exact ⟨hlinks, hpath⟩

/-- In a form that is accepted every dropdown on the chain, the path and, where it is asked for, the
function have a value, and it is the first one that counts. Whatever values follow it under these
names are passed over: two forms with the same first values and the same exercises are decoded
alike, so no form is refused for a second value. -/
theorem first_values_count (m : Menu) (f : PostedForm) :
    (∀ r, (m.decodeStudent f).value = .ok r →
      (m.root.key :: r.selection).IsChain (fun name key => (f.getAll name).head? = some key) ∧
        (f.getAll Field.path).head? = some r.path ∧
        ∀ name, r.functionName = some name →
          ∃ value, (f.getAll Field.function).head? = some value ∧ name = Text.trim value) ∧
    (∀ q, (m.decodeTeacher f).value = .ok q →
      (m.root.key :: q.selection).IsChain (fun name key => (f.getAll name).head? = some key) ∧
        ∃ leaf d, m.chain f = .ok (q.selection, leaf) ∧ leaf.descriptor = some d ∧
          (f.getAll Field.path).head? = some d.path) ∧
    (∀ g : PostedForm, (∀ name, (g.getAll name).head? = (f.getAll name).head?) →
      g.getAll Field.exercise = f.getAll Field.exercise → m.DecodesAlike f g) ∧
    ∀ name value, f.contains name = true → name ≠ Field.exercise →
      m.DecodesAlike f (f.push name value) := by
  have hfirst (g : PostedForm) (hsame : ∀ name, g.get? name = f.get? name)
      (hexercise : g.getAll Field.exercise = f.getAll Field.exercise) : m.DecodesAlike f g :=
    decodesAlike_of_sameFields (Entry.chain_congr hsame m.root) (hsame Field.path)
      (hsame Field.function) hexercise
  refine ⟨?_, ?_, hfirst, ?_⟩
  · intro r hr
    obtain ⟨-, d, hchosen, hpath, hname⟩ := (decodeStudent_eq_ok_iff m f r).mp hr
    obtain ⟨hlinks, hposted⟩ := links_of_chosen hchosen
    refine ⟨hlinks, by rw [hposted, hpath], ?_⟩
    intro name hsome
    rw [Descriptor.functionName_eq_ok_iff, hsome] at hname
    split at hname
    · obtain ⟨value, hvalue, -, heq⟩ := hname
      exact ⟨value, hvalue, Option.some.inj heq⟩
    · cases hname
  · intro q hq
    obtain ⟨-, d, hchosen, -⟩ := (decodeTeacher_eq_ok_iff m f q).mp hq
    obtain ⟨hlinks, hposted⟩ := links_of_chosen hchosen
    obtain ⟨leaf, hchain, hd, -⟩ := (chosen_eq_ok_iff m f q.selection d).mp hchosen
    exact ⟨hlinks, leaf, d, hchain, hd, hposted⟩
  · intro name value hposted hname
    exact hfirst _ (PostedForm.get?_push_of_contains hposted value)
      (PostedForm.getAll_push_of_ne hname value)

/-- Two submissions in one form, each of them complete. -/
def twoSubmissions : PostedForm :=
  ⟨[("Course", "Algo"), ("Course", "Unix"), ("Algo", "Ex1"), ("Unix", "G1"),
    ("path", "algo/ex1.bad"), ("path", ""), ("FUN", "fact"), ("FUN", "fib")]⟩

/-- The form is not refused. It stands for one submission or for the other, depending on the order
in which its fields are sent. -/
theorem ambiguous_form_decoded :
    (sample .student).issues = [] ∧
      twoSubmissions.getAll "Course" = ["Algo", "Unix"] ∧
      twoSubmissions.getAll Field.path = ["algo/ex1.bad", ""] ∧
      twoSubmissions.getAll Field.function = ["fact", "fib"] ∧
      ((sample .student).decodeStudent twoSubmissions).value =
        .ok ⟨["Algo", "Ex1"], "algo/ex1.bad", some "fact"⟩ ∧
      ((sample .student).decodeStudent ⟨twoSubmissions.fields.reverse⟩).value =
        .ok ⟨["Unix", "G1"], "", none⟩ := by
  refine ⟨issues_sample .student, ?_, ?_, ?_, ?_, ?_⟩ <;> decide +kernel

end Menu

end CascadingForms
