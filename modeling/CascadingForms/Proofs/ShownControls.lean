import CascadingForms.Proofs.PostedSelector

/-!
# The controls that a selector shows

A started selector shows one dropdown for each entry on its path that has children, and below them,
once the path ends on a leaf, what the descriptor of the leaf asks for. `Menu.ShowsControls` says
this of all controls of a view together. Their names differ because no key comes twice on a path
and none is a name that the fields of a leaf use.
-/

namespace CascadingForms

namespace Control

inductive Kind where
  | dropdown
  | hidden
  | label
  | fileInput
  | textInput
  | exercisePicker
  | submit
deriving DecidableEq

def kind : Control → Kind
  | dropdown _ _ _ _ => .dropdown
  | hidden _ _ => .hidden
  | label _ _ => .label
  | fileInput _ _ _ => .fileInput
  | textInput _ => .textInput
  | exercisePicker _ _ _ => .exercisePicker
  | submit _ => .submit

/-- The name under which a control is posted. Labels and submit buttons post nothing. -/
def name? : Control → Option String
  | dropdown name _ _ _ => some name
  | hidden name _ => some name
  | label _ _ => none
  | fileInput name _ _ => some name
  | textInput name => some name
  | exercisePicker name _ _ => some name
  | submit _ => none

def ofKind (k : Kind) (cs : List Control) : List Control := cs.filter (·.kind = k)

/-- Every label stands right in front of the control that it names. -/
def LabelsLead (cs : List Control) : Prop :=
  ∀ i target text, cs[i]? = some (.label target text) →
    ∃ c, cs[i + 1]? = some c ∧ c.name? = some target

end Control

open Control (ofKind LabelsLead)

/-- Among some controls are those that a descriptor asks for and no others but dropdowns: the path
of the template, then files, a function name and exercises where they are wanted, and one submit
button at the end. -/
structure Descriptor.Served (d : Descriptor) (labels : Labels) (cs : List Control) : Prop where
  path : ofKind .hidden cs = [.hidden Field.path d.path]
  files : ofKind .fileInput cs =
    if d.collectsFiles then [.fileInput Field.source d.acceptedExtensions d.allowsMultipleFiles]
    else []
  function : ofKind .textInput cs =
    if d.requiresFunctionName then [.textInput Field.function] else []
  exercises : ofKind .exercisePicker cs =
    if d.exercises = [] then []
    else [.exercisePicker Field.exercise d.allowsMultipleExercises d.exercises]
  captions : ofKind .label cs =
    (if d.collectsFiles then [.label Field.source (d.sourceText labels)] else []) ++
      (if d.requiresFunctionName then [.label Field.function labels.functionName] else [])
  submit : ofKind .submit cs = [.submit labels.submit]
  last : cs.getLast? = some (.submit labels.submit)

/-- The controls of a view whose path ends on the entry `e`. -/
structure Menu.ShowsControls (m : Menu) (e : Entry) (cs : List Control) : Prop where
  names : (cs.filterMap Control.name?).Nodup
  dropdowns : ∀ name placeholder options selected,
    .dropdown name placeholder options selected ∈ cs → name ∉ Field.reserved
  labels : LabelsLead cs
  submits : (∃ text, .submit text ∈ cs) ↔ e.isLeaf = true
  leaf : e.isLeaf = true → ∃ d, e.descriptor = some d ∧ d.Served m.labels cs
  branch : e.isLeaf = false → ∀ c ∈ cs, c.kind = .dropdown

namespace Control

variable {cs ds : List Control}

lemma ofKind_append (k : Kind) (cs ds : List Control) :
    ofKind k (cs ++ ds) = ofKind k cs ++ ofKind k ds :=
  List.filter_append cs ds

lemma ofKind_of_dropdowns (h : ∀ c ∈ cs, c.kind = .dropdown) {k : Kind} (hk : k ≠ .dropdown) :
    ofKind k cs = [] := by
  apply List.filter_eq_nil_iff.mpr
  intro c hc
  rw [h c hc]
  simpa using Ne.symm hk

/-! ### Labels -/

lemma labelsLead_of_forall (h : ∀ c ∈ cs, c.kind ≠ .label) : LabelsLead cs := by
  intro i target text hi
  exact absurd rfl (h _ (List.mem_of_getElem? hi))

lemma labelsLead_pair {c : Control} {target : String} (text : String) (hc : c.name? = some target) :
    LabelsLead [.label target text, c] := by
  intro i target' text' hi
  cases i with
  | zero =>
    obtain ⟨rfl, -⟩ := Control.label.inj (Option.some.inj hi)
    exact ⟨c, rfl, hc⟩
  | succ i =>
    have hlast : c = .label target' text' := by
      cases i with
      | zero => exact Option.some.inj hi
      | succ i => simp at hi
    rw [hlast] at hc
    cases hc

lemma LabelsLead.append (hcs : LabelsLead cs) (hds : LabelsLead ds) : LabelsLead (cs ++ ds) := by
  intro i target text hi
  rw [List.getElem?_append] at hi
  split at hi
  · obtain ⟨c, hnext, hc⟩ := hcs i target text hi
    have hlt := (List.getElem?_eq_some_iff.mp hnext).1
    exact ⟨c, by rw [List.getElem?_append_left hlt, hnext], hc⟩
  · rename_i hle
    obtain ⟨c, hnext, hc⟩ := hds _ target text hi
    have hindex : i + 1 - cs.length = i - cs.length + 1 := by omega
    exact ⟨c, by rw [List.getElem?_append_right (by omega), hindex, hnext], hc⟩

end Control

/-! ### The fields of a leaf -/

namespace Descriptor

lemma served_controls (d : Descriptor) (labels : Labels) {above : List Control}
    (h : ∀ c ∈ above, c.kind = .dropdown) : d.Served labels (above ++ d.controls labels) := by
  have hnone {k : Control.Kind} (hk : k ≠ .dropdown) :
      ofKind k (above ++ d.controls labels) = ofKind k (d.controls labels) := by
    rw [Control.ofKind_append, Control.ofKind_of_dropdowns h hk, List.nil_append]
  have hpicker : d.hasPicker = !decide (d.exercises = []) := by
    cases he : d.exercises <;> simp [hasPicker, he]
  constructor
  case last =>
    rw [controls, ← List.append_assoc, List.getLast?_concat]
  all_goals
    rw [hnone (by decide), controls, hpicker]
    by_cases he : d.exercises = [] <;> cases d.collectsFiles <;> cases d.requiresFunctionName <;>
      simp [ofKind, Control.kind, he]

lemma names_controls_sublist (d : Descriptor) (labels : Labels) :
    ((d.controls labels).filterMap Control.name?).Sublist
      [Field.path, Field.source, Field.function, Field.exercise] := by
  unfold controls
  cases d.collectsFiles <;> cases d.requiresFunctionName <;> cases d.hasPicker <;>
    simp [List.filterMap_cons, Control.name?]

lemma labelsLead_controls (d : Descriptor) (labels : Labels) : LabelsLead (d.controls labels) := by
  unfold controls
  refine ((((Control.labelsLead_of_forall ?_).append ?_).append ?_).append ?_).append ?_
  · simp [Control.kind]
  · split
    · exact Control.labelsLead_pair _ rfl
    · exact Control.labelsLead_of_forall (by simp)
  · split
    · exact Control.labelsLead_pair _ rfl
    · exact Control.labelsLead_of_forall (by simp)
  · apply Control.labelsLead_of_forall
    split <;> simp [Control.kind]
  · exact Control.labelsLead_of_forall (by simp [Control.kind])

end Descriptor

/-! ### The controls along a path -/

namespace Entry

/-- Along a path every entry shows its dropdown, and the last one shows its own controls. -/
lemma exists_dropdowns {e d : Entry} {p : List String} (hd : e.descend? p = some d)
    (labels : Labels) (depth : Nat) :
    ∃ above, (e.levels labels depth none p).flatMap Level.controls = above ++ d.controls labels ∧
      (∀ c ∈ above, c.kind = .dropdown) ∧
        above.filterMap Control.name? = (e.key :: p).dropLast := by
  induction p generalizing e depth with
  | nil =>
    obtain rfl : e = d := by simpa using hd
    exact ⟨[], by simp [levels_nil, level_none], by simp, rfl⟩
  | cons key keys ih =>
    obtain ⟨child, hc, -⟩ := child?_of_descend?_cons (Option.isSome_of_eq_some hd)
    rw [descend?_cons, hc, Option.bind_some] at hd
    obtain ⟨above, hshown, hkind, hnames⟩ := ih hd (depth + 1)
    have hlevel := controlsShowing_of_isLeaf_false (isLeaf_of_child? hc) labels (some key)
    refine ⟨e.controlsShowing labels (some key) ++ above, ?_, ?_, ?_⟩
    · rw [levels_cons hc, List.flatMap_cons, hshown, List.append_assoc]
      rfl
    · rw [hlevel]
      exact List.forall_mem_cons.mpr ⟨rfl, hkind⟩
    · rw [key_of_child? hc] at hnames
      rw [hlevel, List.dropLast_cons_of_ne_nil (List.cons_ne_nil key keys), ← hnames]
      rfl

end Entry

namespace Selector

variable {m : Menu} {p : List String} {d : Entry}

/-- The names of all controls are the keys on the path, less the last one at a leaf, whose fields
have names that no key may be. -/
lemma nodup_names_append (h : m.issues = []) (hd : m.entryAt? p = some d) {names : List String}
    (hnames : names = [d.key] ∨
      names.Sublist [Field.path, Field.source, Field.function, Field.exercise]) :
    ((m.root.key :: p).dropLast ++ names).Nodup := by
  obtain ⟨hnodup, hreserved⟩ := Menu.keys_of_path h (Option.isSome_of_eq_some hd)
  rcases hnames with rfl | hnames
  · rwa [key_eq_getLast hd, List.dropLast_concat_getLast]
  · have hfields : [Field.path, Field.source, Field.function, Field.exercise].Nodup := by decide
    have hsub : [Field.path, Field.source, Field.function, Field.exercise] ⊆ Field.reserved := by
      decide
    refine List.nodup_append.mpr
      ⟨hnodup.sublist (List.dropLast_sublist _), hfields.sublist hnames, ?_⟩
    intro key hkey name hname heq
    rw [← heq] at hname
    exact hreserved key (List.mem_of_mem_dropLast hkey) (hsub (hnames.subset hname))

/-- No dropdown above the last entry has a reserved name. -/
lemma not_mem_reserved_of_above (h : m.issues = []) (hp : (m.entryAt? p).isSome)
    {above : List Control} (hnames : above.filterMap Control.name? = (m.root.key :: p).dropLast)
    {c : Control} (hc : c ∈ above) {name : String} (hname : c.name? = some name) :
    name ∉ Field.reserved := by
  have hmem : name ∈ (m.root.key :: p).dropLast := by
    rw [← hnames]
    exact List.mem_filterMap.mpr ⟨c, hc, hname⟩
  exact (Menu.keys_of_path h hp).2 name (List.mem_of_mem_dropLast hmem)

theorem showsControls_of_branch (h : m.issues = []) (hd : m.entryAt? p = some d)
    (hl : d.isLeaf = false) : m.ShowsControls d (m.selectorAt (some p)).controls := by
  have hp := Option.isSome_of_eq_some hd
  obtain ⟨above, hshown, hkind, hnames⟩ := Entry.exists_dropdowns hd m.labels 0
  rw [Entry.controls_of_isLeaf_false hl] at hshown
  have hcontrols : (m.selectorAt (some p)).controls = above ++ [d.dropdown] := hshown
  have hall : ∀ c ∈ above ++ [d.dropdown], c.kind = .dropdown := by
    intro c hc
    rcases List.mem_append.mp hc with hc | hc
    · exact hkind c hc
    · rw [List.mem_singleton.mp hc]
      rfl
  rw [hcontrols]
  refine ⟨?_, ?_, ?_, ?_, ?_, fun _ => hall⟩
  · rw [List.filterMap_append, hnames]
    exact nodup_names_append h hd (.inl rfl)
  · intro name placeholder options selected hmem
    rcases List.mem_append.mp hmem with hc | hc
    · exact not_mem_reserved_of_above h hp hnames hc rfl
    · obtain ⟨rfl, -⟩ := Control.dropdown.inj (List.mem_singleton.mp hc)
      exact (Menu.keys_of_path h hp).2 d.key (key_mem_path hd)
  · apply Control.labelsLead_of_forall
    intro c hc
    rw [hall c hc]
    decide
  · rw [hl]
    constructor
    · rintro ⟨text, hmem⟩
      cases hall _ hmem
    · intro hleaf
      cases hleaf
  · intro hleaf
    rw [hl] at hleaf
    cases hleaf

theorem showsControls_of_leaf (h : m.issues = []) (hd : m.entryAt? p = some d)
    (hl : d.isLeaf = true) : m.ShowsControls d (m.selectorAt (some p)).controls := by
  obtain ⟨own, hown⟩ := Menu.descriptor_of_leaf h hd hl
  obtain ⟨above, hshown, hkind, hnames⟩ := Entry.exists_dropdowns hd m.labels 0
  have hfields : d.controls m.labels = own.controls m.labels := by simp [Entry.controls, hl, hown]
  rw [hfields] at hshown
  have hcontrols : (m.selectorAt (some p)).controls = above ++ own.controls m.labels := hshown
  have hserved := own.served_controls m.labels hkind
  rw [hcontrols]
  refine ⟨?_, ?_, ?_, ?_, fun _ => ⟨own, hown, hserved⟩, ?_⟩
  · rw [List.filterMap_append, hnames]
    exact nodup_names_append h hd (.inr (own.names_controls_sublist m.labels))
  · intro name placeholder options selected hmem
    rcases List.mem_append.mp hmem with hc | hc
    · exact not_mem_reserved_of_above h (Option.isSome_of_eq_some hd) hnames hc rfl
    · cases Descriptor.isDropdown_of_mem_controls hc
  · refine (Control.labelsLead_of_forall ?_).append (own.labelsLead_controls m.labels)
    intro c hc
    rw [hkind c hc]
    decide
  · exact ⟨fun _ => hl, fun _ => ⟨_, List.mem_of_getLast? hserved.last⟩⟩
  · intro hbranch
    rw [hl] at hbranch
    cases hbranch

/-- Wherever a started selector has come to, no two of its controls are posted under one name, no
dropdown takes a reserved name, and the fields of a leaf are there exactly at a leaf, as its
descriptor asks for them, with the submit button at the end. -/
theorem started_view_controls {t : Selector} (ht : Reachable m t) (hstarted : t.isStarted = true) :
    ∃ e, m.entryAt? t.selection = some e ∧ m.ShowsControls e t.controls := by
  obtain ⟨hm, position, hpos, rfl⟩ := reachable_iff.mp ht
  cases position with
  | none => cases hstarted
  | some p =>
    obtain ⟨e, he⟩ := Option.isSome_iff_exists.mp hpos
    refine ⟨e, he, ?_⟩
    cases hl : e.isLeaf with
    | false => exact showsControls_of_branch hm he hl
    | true => exact showsControls_of_leaf hm he hl

/-- At a leaf of the sample, after a detour through another course and two refusals. -/
theorem started_view_controls_at_leaf :
    ∃ t, t = ((Menu.sample .student).selectorAt none).run
        (sampleRun ++ [.select 0 "Algo", .select 1 "Ex1"]) ∧
      Reachable (Menu.sample .student) t ∧ t.isStarted = true ∧
        t.controls.filterMap Control.name? =
          ["Course", "Algo", Field.path, Field.source, Field.function] ∧
        ∃ e, (Menu.sample .student).entryAt? t.selection = some e ∧
          (Menu.sample .student).ShowsControls e t.controls := by
  have hnew := ofMenu_of_issues (Menu.issues_sample .student)
  have hreachable : Reachable (Menu.sample .student) (((Menu.sample .student).selectorAt none).run
      (sampleRun ++ [.select 0 "Algo", .select 1 "Ex1"])) := ⟨_, _, hnew, rfl⟩
  have hstarted : (((Menu.sample .student).selectorAt none).run
      (sampleRun ++ [.select 0 "Algo", .select 1 "Ex1"])).isStarted = true := by decide +kernel
  exact ⟨_, rfl, hreachable, hstarted, by decide +kernel,
    started_view_controls hreachable hstarted⟩

end Selector

end CascadingForms
