import CascadingForms.Proofs.HtmlControls
import CascadingForms.Proofs.SelectorPositions
import CascadingForms.Proofs.WellFormedMenus
import Mathlib.Data.List.Nodup

/-!
# What a page posts

`Html.readInputs` reads the inputs of a page off its tokens: the select elements with the options
that are marked in them, and the hidden inputs. `Selector.posted` is computed from the controls and
never sees the page. This file proves that both give the same fields, since a dropdown offers the
key that it shows exactly once.
-/

namespace CascadingForms

namespace Html

/-- An input with what it posts before the user fills anything in: the values of the options of a
select element that are selected and not disabled, or a hidden value. -/
inductive Input where
  | select (name : String) (chosen : List String)
  | hidden (name value : String)
deriving DecidableEq

def Input.fields : Input → List (String × String)
  | select name chosen => chosen.map fun value => (name, value)
  | hidden name value => [(name, value)]

/-- The value of an attribute. That of a bare one is empty. -/
def attribute? (attributes : List Attribute) (name : String) : Option String :=
  (attributes.find? (·.1 = name)).map fun a => a.2.getD ""

def optionValue? (attributes : List Attribute) : Option String :=
  if (attribute? attributes "selected").isSome && (attribute? attributes "disabled").isNone then
    attribute? attributes "value"
  else none

/-- The inputs of a page in document order. `opened` is the select element that is not closed yet,
with its values so far. Inputs without a name post nothing. -/
def inputs (opened : Option (String × List String)) : List Token → List Input
  | [] => []
  | .start tag attributes :: rest =>
    if tag = "select" then
      inputs ((attribute? attributes "name").map fun name => (name, [])) rest
    else if tag = "option" then
      inputs (opened.map fun (name, chosen) =>
        (name, chosen ++ (optionValue? attributes).toList)) rest
    else if tag = "input" ∧ attribute? attributes "type" = some "hidden" then
      ((attribute? attributes "name").map fun name =>
        .hidden name ((attribute? attributes "value").getD "")).toList ++ inputs opened rest
    else inputs opened rest
  | .finish tag :: rest =>
    if tag = "select" then
      (opened.map fun (name, chosen) => .select name chosen).toList ++ inputs none rest
    else inputs opened rest
  | .text _ :: rest => inputs opened rest

def readInputs (html : String) : Option (List Input) := (tokenize html).map (inputs none)

end Html

open Html in
/-- The inputs that a control is read as. -/
def Control.inputs : Control → List Input
  | .dropdown name _ choices selected =>
    [.select name ((choices.map Choice.key).filter fun key => selected = some key)]
  | .hidden name value => [.hidden name value]
  | .exercisePicker name _ _ => [.select name []]
  | _ => []

/-- The key that a dropdown shows is the key of one of its options and of no other. -/
def Control.ShowsOne : Control → Prop
  | .dropdown _ _ choices (some key) => (choices.map Choice.key).count key = 1
  | _ => True

namespace Html

/-! ### The inputs of controls -/

@[simp] lemma inputs_texts (opened : Option (String × List String)) (s : String)
    (rest : List Token) : inputs opened (texts s ++ rest) = inputs opened rest := by
  unfold texts
  split
  · rfl
  · rw [List.singleton_append, inputs]

lemma inputs_select_start {attributes : List Attribute} {name : String}
    (h : attribute? attributes "name" = some name) (opened : Option (String × List String))
    (rest : List Token) :
    inputs opened (.start "select" attributes :: rest) = inputs (some (name, [])) rest := by
  simp [inputs, h]

@[simp] lemma inputs_select_finish (name : String) (chosen : List String) (rest : List Token) :
    inputs (some (name, chosen)) (.finish "select" :: rest) =
      .select name chosen :: inputs none rest := by
  simp [inputs]

@[simp] lemma inputs_option_start (name : String) (chosen : List String)
    (attributes : List Attribute) (rest : List Token) :
    inputs (some (name, chosen)) (.start "option" attributes :: rest) =
      inputs (some (name, chosen ++ (optionValue? attributes).toList)) rest := by
  simp [inputs]

@[simp] lemma inputs_option_finish (opened : Option (String × List String)) (rest : List Token) :
    inputs opened (.finish "option" :: rest) = inputs opened rest := by
  simp [inputs]

lemma optionValue?_option (selected : Option String) (key : String) :
    optionValue? ([("value", some key)] ++
      attributeIf (selected = some key) ("selected", none)) =
        if selected = some key then some key else none := by
  by_cases h : selected = some key
  · simp [optionValue?, attribute?, attributeIf, h]
  · simp [optionValue?, attribute?, attributeIf, h]

/-- The placeholder of a dropdown may be selected, but it is disabled. -/
lemma optionValue?_placeholder (selected : Option String) :
    optionValue? ([("disabled", none)] ++ attributeIf selected.isNone ("selected", none) ++
      [("value", none)]) = none := by
  simp [optionValue?, attribute?]

/-- The options of a select element add the keys that are the selected one, each time it comes. -/
lemma inputs_options (name : String) (chosen : List String) (selected : Option String)
    (choices : List Choice) (rest : List Token) :
    inputs (some (name, chosen)) (choices.flatMap (optionTokens selected) ++ rest) =
      inputs (some (name, chosen ++
        (choices.map Choice.key).filter fun key => selected = some key)) rest := by
  induction choices generalizing chosen with
  | nil => simp
  | cons choice choices ih =>
    have hvalue := optionValue?_option selected choice.key
    simp only [List.flatMap_cons, optionTokens, List.append_assoc, List.cons_append,
      List.nil_append] at hvalue ⊢
    rw [inputs_option_start, hvalue, inputs_texts, inputs_option_finish, ih, List.map_cons,
      List.filter_cons]
    by_cases h : selected = some choice.key
    · simp [h]
    · simp [h]

lemma inputs_control (c : Control) (rest : List Token) :
    inputs none (c.tokens ++ rest) = c.inputs ++ inputs none rest := by
  cases c with
  | dropdown name placeholder choices selected =>
    have hname : attribute? [("id", some name), ("name", some name)] "name" = some name := by
      simp [attribute?]
    have hvalue := optionValue?_placeholder selected
    simp only [Control.tokens, List.append_assoc, List.cons_append,
      List.nil_append] at hvalue ⊢
    rw [inputs_select_start hname, inputs_option_start, hvalue, inputs_texts,
      inputs_option_finish, inputs_options, inputs_select_finish]
    rfl
  | exercisePicker name multiple choices =>
    have hname : attribute? (attributeIf multiple ("multiple", some "") ++ [("name", some name)])
        "name" = some name := by
      cases multiple with
      | false => simp [attribute?, attributeIf]
      | true => simp [attribute?, attributeIf]
    have hnone : (choices.map Choice.key).filter (fun key => none = some key) = [] := by simp
    simp only [Control.tokens, List.append_assoc, List.cons_append, List.nil_append]
    rw [inputs_select_start hname, inputs_options, hnone, inputs_select_finish]
    rfl
  | fileInput name accept multiple => simp [Control.tokens, Control.inputs, inputs, attribute?]
  | hidden name value => simp [Control.tokens, Control.inputs, inputs, attribute?]
  | label target text => simp [Control.tokens, Control.inputs, inputs]
  | textInput name => simp [Control.tokens, Control.inputs, inputs, attribute?]
  | submit text => simp [Control.tokens, Control.inputs, inputs, attribute?]

lemma inputs_controls (cs : List Control) :
    inputs none (cs.flatMap Control.tokens) = cs.flatMap Control.inputs := by
  induction cs with
  | nil => rfl
  | cons c cs ih => rw [List.flatMap_cons, inputs_control, ih, List.flatMap_cons]

lemma tokenize_html (s : Selector) :
    tokenize s.html = some (s.controls.flatMap Control.tokens) := by
  apply tokenize_of_reads
  rw [Selector.html, Text.toList_join_empty, List.flatMap_map, Selector.controls,
    List.flatMap_assoc]
  exact Reads.flatMap fun l _ => reads_controls l.controls

/-- The page of a selector is read as the inputs of its controls. -/
theorem readInputs_html (s : Selector) :
    readInputs s.html = some (s.controls.flatMap Control.inputs) := by
  rw [readInputs, tokenize_html, Option.map_some, inputs_controls]

end Html

/-! ### Dropdowns that show one option -/

namespace Control

lemma filter_eq_of_showsOne {name placeholder : String} {choices : List Choice}
    {selected : Option String} (h : (dropdown name placeholder choices selected).ShowsOne) :
    ((choices.map Choice.key).filter fun key => selected = some key) = selected.toList := by
  cases selected with
  | none => simp
  | some shown =>
    have hcount : (choices.map Choice.key).count shown = 1 := h
    have hsame : ∀ key : String, some shown = some key ↔ key = shown := by
      intro key
      rw [Option.some.injEq, eq_comm]
    simp only [hsame]
    rw [List.filter_eq, hcount]
    rfl

lemma fields_inputs {c : Control} (h : c.ShowsOne) :
    c.inputs.flatMap Html.Input.fields = PostedForm.ofControl c := by
  cases c with
  | dropdown name placeholder choices selected =>
    rw [inputs, filter_eq_of_showsOne h]
    cases selected with
    | none => rfl
    | some shown => rfl
  | exercisePicker name multiple choices => rfl
  | fileInput name accept multiple => rfl
  | hidden name value => rfl
  | label target text => rfl
  | textInput name => rfl
  | submit text => rfl

/-- A select element that posts anything posts one value. -/
lemma length_eq_one_of_mem_inputs {c : Control} (h : c.ShowsOne) {name : String}
    {chosen : List String} (hmem : .select name chosen ∈ c.inputs) (hne : chosen ≠ []) :
    chosen.length = 1 := by
  cases c with
  | dropdown name' placeholder choices selected =>
    rw [inputs, filter_eq_of_showsOne h, List.mem_singleton] at hmem
    obtain ⟨rfl, rfl⟩ := Html.Input.select.inj hmem
    cases selected with
    | none => exact absurd rfl hne
    | some shown => rfl
  | exercisePicker name' multiple choices =>
    obtain ⟨-, rfl⟩ := Html.Input.select.inj (List.mem_singleton.mp hmem)
    exact absurd rfl hne
  | hidden name' value => simp [inputs] at hmem
  | fileInput name' accept multiple => simp [inputs] at hmem
  | label target text => simp [inputs] at hmem
  | textInput name' => simp [inputs] at hmem
  | submit text => simp [inputs] at hmem

lemma showsOne_of_isDropdown_eq_false {c : Control} (h : c.isDropdown = false) : c.ShowsOne := by
  cases c with
  | dropdown => cases h
  | _ => trivial

end Control

namespace Entry

lemma map_key_choices (e : Entry) : e.choices.map Choice.key = e.childKeys := by
  simp [choices, childKeys]

/-- Where the children of an entry have different keys, its dropdown shows any one of them once. -/
lemma showsOne_of_mem {e : Entry} (hkeys : e.childKeys.Nodup) {selected : Option String}
    (hselected : ∀ key, selected = some key → (e.child? key).isSome) {labels : Labels}
    {c : Control} (hc : c ∈ e.controlsShowing labels selected) : c.ShowsOne := by
  cases hl : e.isLeaf with
  | true =>
    rw [controlsShowing_of_isLeaf hl, controls, if_pos hl] at hc
    cases hd : e.descriptor with
    | none => simp [hd] at hc
    | some d =>
      rw [hd] at hc
      exact Control.showsOne_of_isDropdown_eq_false (Descriptor.isDropdown_of_mem_controls hc)
  | false =>
    rw [controlsShowing_of_isLeaf_false hl, List.mem_singleton] at hc
    subst hc
    cases selected with
    | none => exact trivial
    | some key =>
      obtain ⟨child, hchild⟩ := Option.isSome_iff_exists.mp (hselected key rfl)
      have hmem : key ∈ e.childKeys :=
        List.mem_map.mpr ⟨child, mem_children_of_child? hchild, key_of_child? hchild⟩
      show (e.choices.map Choice.key).count key = 1
      rw [map_key_choices]
      exact List.count_eq_one_of_mem hkeys hmem

end Entry

namespace Selector

variable {m : Menu} {t : Selector}

theorem showsOne_of_mem_controls (ht : Reachable m t) {c : Control} (hc : c ∈ t.controls) :
    c.ShowsOne := by
  obtain ⟨hm, position, hpos, rfl⟩ := reachable_iff.mp ht
  obtain ⟨l, hl, hc⟩ := List.mem_flatMap.mp hc
  cases position with
  | none => exact absurd hl List.not_mem_nil
  | some p =>
    obtain ⟨i, hi⟩ := List.mem_iff_getElem?.mp hl
    have hlt : i < p.length + 1 := by
      rw [← length_levels_selectorAt hpos]
      exact (List.getElem?_eq_some_iff.mp hi).1
    obtain ⟨e, he, hlevel⟩ := (shows_selectorAt hpos).level i (Nat.le_of_lt_succ hlt)
    obtain rfl := Option.some.inj (hlevel.symm.trans hi)
    have hkeys := Menu.nodup_childKeys_of_holds hm (Menu.holds_of_entryAt? he)
    -- The key shown at level `i` is the next one on the path, so it is a child of the entry there.
    have hselected : ∀ key, p[i]? = some key → (e.child? key).isSome := by
      intro key hkey
      have hnext : p.take (i + 1) = p.take i ++ [key] := by
        rw [List.take_add_one, hkey, Option.toList_some]
      rw [← Menu.entryAt?_concat he key, ← hnext]
      exact Menu.entryAt?_isSome_of_isPrefix (List.take_prefix (i + 1) p) hpos
    exact Entry.showsOne_of_mem hkeys hselected hc

/-- The page of a reachable selector posts what is computed from its controls: a select element with
a marked option posts the value of that one, and together with the hidden values they are the same
fields in the same order. -/
theorem posted_of_html (ht : Reachable m t) :
    ∃ inputs, Html.readInputs t.html = some inputs ∧
      (∀ name chosen, .select name chosen ∈ inputs → chosen ≠ [] → chosen.length = 1) ∧
      (⟨[]⟩ : PostedForm).pushAll (inputs.flatMap Html.Input.fields) = t.posted := by
  refine ⟨t.controls.flatMap Control.inputs, Html.readInputs_html t, ?_, ?_⟩
  · intro name chosen hmem hne
    obtain ⟨c, hc, hmem⟩ := List.mem_flatMap.mp hmem
    exact Control.length_eq_one_of_mem_inputs (showsOne_of_mem_controls ht hc) hmem hne
  · have hfields : ∀ c ∈ t.controls, c.inputs.flatMap Html.Input.fields = PostedForm.ofControl c :=
      fun c hc => Control.fields_inputs (showsOne_of_mem_controls ht hc)
    rw [PostedForm.pushAll, List.nil_append, List.flatMap_assoc, posted, PostedForm.ofControls]
    rw [List.flatMap_congr hfields]

/-- The page at a leaf posts the two keys on the way to it and the path of its template. -/
theorem posted_of_html_at_leaf :
    Reachable (Menu.sample .student) ((Menu.sample .student).selectorAt (some ["Algo", "Ex1"])) ∧
      ∃ inputs, Html.readInputs ((Menu.sample .student).selectorAt (some ["Algo", "Ex1"])).html =
          some inputs ∧
        inputs.flatMap Html.Input.fields =
          [("Course", "Algo"), ("Algo", "Ex1"), (Field.path, "algo/ex1.bad")] := by
  have ht : Reachable (Menu.sample .student)
      ((Menu.sample .student).selectorAt (some ["Algo", "Ex1"])) :=
    reachable_iff.mpr ⟨Menu.issues_sample .student, some ["Algo", "Ex1"], by decide +kernel, rfl⟩
  obtain ⟨inputs, hread, -, hposted⟩ := posted_of_html ht
  exact ⟨ht, inputs, hread, PostedForm.mk.inj hposted⟩

end Selector

end CascadingForms
