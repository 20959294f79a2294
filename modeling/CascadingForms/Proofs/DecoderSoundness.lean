import CascadingForms.Proofs.PostedSelector

/-!
# What a decoded form stands for

Whoever posts a form may choose its names and values freely. Still, a form that is decoded says
what a selector could have posted: choosing its keys one after the other leads a new selector to
a leaf, and the form agrees with that selector on everything that the selector posts.
-/

namespace CascadingForms

namespace Selector

/-- Choosing some keys in a selector leads to the leaf with a descriptor, and a form says the same
as the selector that has come there: it posts the path of the leaf and every field of the
selector, and nothing under the key of the leaf. -/
structure Replays (s : Selector) (f : PostedForm) (keys : List String) (d : Descriptor) :
    Prop where
  accepted : (s.selectPath keys).result = .ok ()
  selection : (s.selectPath keys).selector.selection = keys
  complete : (s.selectPath keys).selector.isComplete = true
  descriptor : (s.selectPath keys).selector.descriptor? = some d
  path : f.get? Field.path = some d.path
  fields : ∀ field ∈ (s.selectPath keys).selector.posted.fields, f.get? field.1 = some field.2
  ends : f.contains (s.selectPath keys).selector.frontier.key = false

lemma forall_zip_of_isChain {r : String → String → Prop} {name : String} {p : List String}
    (h : (name :: p).IsChain r) : ∀ field ∈ (name :: p).zip p, r field.1 field.2 := by
  induction p generalizing name with
  | nil => simp
  | cons key keys ih =>
    obtain ⟨hfirst, hrest⟩ := List.isChain_cons_cons.mp h
    intro field hfield
    rw [List.zip_cons_cons] at hfield
    rcases List.mem_cons.mp hfield with rfl | hfield
    · exact hfirst
    · exact ih hrest field hfield

variable {m : Menu} {f : PostedForm} {keys : List String}

/-- A chosen leaf can be chosen in a new selector, and what this posts is in the form. -/
theorem replays_of_chosen {d : Descriptor} (h : m.issues = []) (hf : m.chosen f = .ok (keys, d)) :
    (m.selectorAt none).Replays f keys d := by
  obtain ⟨leaf, hchain, hown, hpath⟩ := (Menu.chosen_eq_ok_iff m f keys d).mp hf
  obtain ⟨hd, hleaf, hlinks, hend⟩ := (Entry.chain_eq_ok_iff m.root f keys leaf).mp hchain
  have hentry : m.entryAt? keys = some leaf := hd
  obtain ⟨hselector, hresult⟩ :=
    selectPath_of_isSome (m.selectorAt none) (Option.isSome_of_eq_some hentry)
  have hmenu : (m.selectorAt none).menu = m := rfl
  rw [hmenu] at hselector
  constructor
  · exact hresult
  · rw [hselector]
    rfl
  · rw [hselector, isComplete_selectorAt h hentry, hleaf]
  · rw [hselector, descriptor?_selectorAt hentry, if_pos hleaf, hown]
  · exact hpath
  · rw [hselector, fields_posted hentry, Entry.ownFields_of_isLeaf hleaf hown]
    intro field hfield
    rcases List.mem_append.mp hfield with hlink | hlast
    · exact forall_zip_of_isChain hlinks field hlink
    · rw [List.mem_singleton.mp hlast]
      exact hpath
  · rw [hselector, frontier_selectorAt hentry]
    exact (PostedForm.contains_eq_false_iff f leaf.key).mpr hend

lemma ne_nil_of_chosen {d : Descriptor} (h : m.issues = []) (hf : m.chosen f = .ok (keys, d)) :
    keys ≠ [] := by
  obtain ⟨leaf, hchain, -, -⟩ := (Menu.chosen_eq_ok_iff m f keys d).mp hf
  obtain ⟨hd, hleaf, -, -⟩ := (Entry.chain_eq_ok_iff m.root f keys leaf).mp hchain
  rintro rfl
  obtain rfl : m.root = leaf := by simpa using hd
  rw [(Menu.root_of_issues h).1] at hleaf
  exact absurd hleaf (by decide)

/-- Whatever is posted, a decoded form stands for a run of a new selector to a leaf. A submission
has the path of this leaf and the trimmed name of a function exactly if the leaf asks for one. A
query has the first key chosen for its course and the last one for its group. -/
theorem decoded_form_replays {s : Selector} (h : ofMenu m = .ok s) (f : PostedForm) :
    (∀ r, (m.decodeStudent f).value = .ok r →
      ∃ d, s.Replays f r.selection d ∧ r.path = d.path ∧
        r.functionName.isSome = d.requiresFunctionName ∧
        ∀ name, r.functionName = some name →
          name ≠ "" ∧ ∃ value, f.get? Field.function = some value ∧ name = Text.trim value) ∧
      ∀ q, (m.decodeTeacher f).value = .ok q →
        ∃ d, s.Replays f q.selection d ∧ q.selection.head? = some q.course ∧
          q.selection.getLast? = some q.group := by
  obtain ⟨rfl, hm⟩ := ofMenu_ok h
  constructor
  · intro r hr
    obtain ⟨-, d, hchosen, hpath, hname⟩ := (Menu.decodeStudent_eq_ok_iff m f r).mp hr
    rw [Descriptor.functionName_eq_ok_iff] at hname
    refine ⟨d, replays_of_chosen hm hchosen, hpath, ?_⟩
    cases hrequires : d.requiresFunctionName with
    | false =>
      rw [hrequires] at hname
      have hnone : r.functionName = none := hname
      simp [hnone]
    | true =>
      rw [hrequires, if_pos rfl] at hname
      obtain ⟨value, hvalue, hne, hsome⟩ := hname
      refine ⟨by rw [hsome, Option.isSome_some], ?_⟩
      intro name heq
      rw [hsome] at heq
      obtain rfl := Option.some.inj heq
      exact ⟨hne, value, hvalue, rfl⟩
  · intro q hq
    obtain ⟨-, d, hchosen, -, hcourse, hgroup⟩ := (Menu.decodeTeacher_eq_ok_iff m f q).mp hq
    have hne := ne_nil_of_chosen hm hchosen
    refine ⟨d, replays_of_chosen hm hchosen, ?_, ?_⟩
    · rw [hcourse, List.head?_eq_some_head hne]
      rfl
    · rw [hgroup, List.getLast?_eq_some_getLast hne]
      rfl

/-- A field left over from another course and a function name that nobody asked for change
nothing: the query is for the group that a selector finds. -/
theorem decoded_form_replays_group :
    ofMenu (Menu.sample .teacher) = .ok ((Menu.sample .teacher).selectorAt none) ∧
      ∃ d, ((Menu.sample .teacher).selectorAt none).Replays
        ⟨[("Algo", "Ex1"), ("Course", "Unix"), ("path", ""), ("exercise", "Exo2"), ("Unix", "G1"),
          ("FUN", " ")]⟩ ["Unix", "G1"] d := by
  have hnew := ofMenu_of_issues (Menu.issues_sample .teacher)
  obtain ⟨-, hteacher⟩ := decoded_form_replays hnew
    ⟨[("Algo", "Ex1"), ("Course", "Unix"), ("path", ""), ("exercise", "Exo2"), ("Unix", "G1"),
      ("FUN", " ")]⟩
  obtain ⟨d, hreplays, -, -⟩ := hteacher ⟨"Unix", "G1", ["Unix", "G1"], ["Exo2"]⟩ (by decide +kernel)
  exact ⟨hnew, d, hreplays⟩

end Selector

end CascadingForms
