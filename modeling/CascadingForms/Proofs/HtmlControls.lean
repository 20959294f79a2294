import CascadingForms.Proofs.HtmlTokens

/-!
# Controls as tokens

`Control.tokens` says what the markup of a control is meant to be: its tags, with the texts of the
control as they are in attribute values and between the tags. This file proves that the markup is
read as these tokens, for all texts.
-/

namespace CascadingForms

namespace Html

/-- An attribute that stands only where a condition holds. -/
def attributeIf (condition : Bool) (a : Attribute) : List Attribute := if condition then [a] else []

def optionTokens (selected : Option String) (choice : Choice) : List Token :=
  [.start "option"
      ([("value", some choice.key)] ++
        attributeIf (selected = some choice.key) ("selected", none))] ++
    texts choice.label ++ [.finish "option"]

end Html

open Html in
/-- The intended tokens of a control. -/
def Control.tokens : Control → List Token
  | .dropdown name placeholder choices selected =>
    [.start "select" [("id", some name), ("name", some name)]] ++
      [.start "option"
        ([("disabled", none)] ++ attributeIf selected.isNone ("selected", none) ++
          [("value", none)])] ++
      (texts placeholder ++ [.finish "option"]) ++ choices.flatMap (optionTokens selected) ++
      [.finish "select"]
  | .hidden name value =>
    [.start "input" [("type", some "hidden"), ("name", some name), ("value", some value)]]
  | .label target text =>
    [.start "label" [("for", some target)]] ++ (texts text ++ [.finish "label"])
  | .fileInput name accept multiple =>
    [.start "input"
      ([("type", some "file"), ("name", some name)] ++ attributeIf multiple ("multiple", some "") ++
        attributeIf (!accept.isEmpty) ("accept", some (",".intercalate accept)))]
  | .textInput name => [.start "input" [("name", some name), ("type", some "text")]]
  | .exercisePicker name multiple choices =>
    [.start "select" (attributeIf multiple ("multiple", some "") ++ [("name", some name)])] ++
      choices.flatMap (optionTokens none) ++ [.finish "select"]
  | .submit text => [.start "input" [("type", some "submit"), ("value", some text)]]

namespace Html

@[simp] lemma toList_escape (s : String) : (escape s).toList = s.toList.flatMap escapeChar := by
  rw [escape, String.toList_ofList]

lemma toList_textIf (condition : Bool) {s : String} {a : Attribute}
    (h : s.toList = attributeChars a) :
    (textIf condition s).toList = (attributeIf condition a).flatMap attributeChars := by
  cases condition with
  | false => rfl
  | true =>
    show s.toList = attributeChars a ++ []
    rw [h, List.append_nil]

lemma toList_textIf_selected (condition : Bool) :
    (textIf condition " selected").toList =
      (attributeIf condition ("selected", none)).flatMap attributeChars :=
  toList_textIf condition (by simp [attributeChars])

lemma isName_of_mem_attributeIf {condition : Bool} {a : Attribute} (h : isName a.1 = true) :
    ∀ b ∈ attributeIf condition a, isName b.1 = true := by
  intro b hb
  cases condition with
  | false => exact absurd hb List.not_mem_nil
  | true =>
    rw [List.mem_singleton.mp hb]
    exact h

/-! ### One control -/

lemma reads_option (selected : Option String) (choice : Choice) :
    Reads (option selected choice).toList (optionTokens selected choice) := by
  have hchars : (option selected choice).toList =
      startChars "option"
          ([("value", some choice.key)] ++
            attributeIf (selected = some choice.key) ("selected", none)) ++
        (choice.label.toList.flatMap escapeChar ++ finishChars "option") := by
    unfold option
    simp only [String.toList_append, toList_textIf_selected]
    simp [startChars, attributeChars, finishChars]
  rw [hchars, optionTokens, List.append_assoc]
  apply Reads.append _ (reads_finish choice.label (by decide))
  apply reads_start (by decide)
  rw [List.forall_mem_append]
  exact ⟨by simp [isName], isName_of_mem_attributeIf (by decide)⟩

lemma reads_options (choices : List Choice) (selected : Option String) :
    Reads (options choices selected).toList (choices.flatMap (optionTokens selected)) := by
  rw [options, Text.toList_join_empty, List.flatMap_map]
  exact Reads.flatMap fun choice _ => reads_option selected choice

lemma reads_dropdown (name placeholder : String) (choices : List Choice)
    (selected : Option String) :
    Reads (control (.dropdown name placeholder choices selected)).toList
      (Control.dropdown name placeholder choices selected).tokens := by
  have hchars : (control (.dropdown name placeholder choices selected)).toList =
      startChars "select" [("id", some name), ("name", some name)] ++
        startChars "option"
          ([("disabled", none)] ++ attributeIf selected.isNone ("selected", none) ++
            [("value", none)]) ++
        (placeholder.toList.flatMap escapeChar ++ finishChars "option") ++
        (options choices selected).toList ++ finishChars "select" := by
    unfold control
    simp only [String.toList_append, toList_textIf_selected]
    simp [startChars, attributeChars, finishChars]
  rw [hchars]
  apply Reads.append _ (reads_finish "" (by decide))
  apply Reads.append _ (reads_options choices selected)
  apply Reads.append _ (reads_finish placeholder (by decide))
  apply Reads.append
  · exact reads_start (by decide) (by simp [isName])
  · apply reads_start (by decide)
    rw [List.forall_mem_append, List.forall_mem_append]
    exact ⟨⟨by simp [isName], isName_of_mem_attributeIf (by decide)⟩, by simp [isName]⟩

lemma reads_fileInput (name : String) (accept : List String) (multiple : Bool) :
    Reads (control (.fileInput name accept multiple)).toList
      (Control.fileInput name accept multiple).tokens := by
  have hmultiple : (textIf multiple " multiple=''").toList =
      (attributeIf multiple ("multiple", some "")).flatMap attributeChars :=
    toList_textIf multiple (by simp [attributeChars])
  have haccept : (textIf (!accept.isEmpty)
        (" accept='" ++ escape (Text.join "," accept) ++ "'")).toList =
      (attributeIf (!accept.isEmpty) ("accept", some (",".intercalate accept))).flatMap
        attributeChars :=
    toList_textIf (!accept.isEmpty) (by simp [attributeChars, Text.join_eq_intercalate])
  have hchars : (control (.fileInput name accept multiple)).toList =
      startChars "input"
        ([("type", some "file"), ("name", some name)] ++
          attributeIf multiple ("multiple", some "") ++
          attributeIf (!accept.isEmpty) ("accept", some (",".intercalate accept))) := by
    unfold control
    simp only [String.toList_append, hmultiple, haccept]
    simp [startChars, attributeChars, escapeChar]
  rw [hchars]
  apply reads_start (by decide)
  rw [List.forall_mem_append, List.forall_mem_append]
  exact ⟨⟨by simp [isName], isName_of_mem_attributeIf (by decide)⟩,
    isName_of_mem_attributeIf (show isName "accept" = true by decide)⟩

lemma reads_exercisePicker (name : String) (multiple : Bool) (choices : List Choice) :
    Reads (control (.exercisePicker name multiple choices)).toList
      (Control.exercisePicker name multiple choices).tokens := by
  have hchars : (control (.exercisePicker name multiple choices)).toList =
      startChars "select" (attributeIf multiple ("multiple", some "") ++ [("name", some name)]) ++
        (options choices none).toList ++ finishChars "select" := by
    unfold control
    -- Here the blank stands after the conditional attribute.
    cases multiple with
    | false => simp [textIf, attributeIf, startChars, attributeChars, finishChars]
    | true => simp [textIf, attributeIf, startChars, attributeChars, finishChars]
  rw [hchars]
  apply Reads.append _ (reads_finish "" (by decide))
  apply Reads.append _ (reads_options choices none)
  apply reads_start (by decide)
  rw [List.forall_mem_append]
  exact ⟨isName_of_mem_attributeIf (show isName "multiple" = true by decide), by simp [isName]⟩

lemma reads_control (c : Control) : Reads (control c).toList c.tokens := by
  cases c with
  | dropdown name placeholder choices selected =>
    exact reads_dropdown name placeholder choices selected
  | fileInput name accept multiple => exact reads_fileInput name accept multiple
  | exercisePicker name multiple choices => exact reads_exercisePicker name multiple choices
  | hidden name value =>
    have hchars : (control (.hidden name value)).toList = startChars "input"
        [("type", some "hidden"), ("name", some name), ("value", some value)] := by
      unfold control
      simp [startChars, attributeChars, escapeChar]
    rw [hchars]
    exact reads_start (by decide) (by simp [isName])
  | label target text =>
    have hchars : (control (.label target text)).toList =
        startChars "label" [("for", some target)] ++
          (text.toList.flatMap escapeChar ++ finishChars "label") := by
      unfold control
      simp [startChars, attributeChars, finishChars]
    rw [hchars]
    exact (reads_start (by decide) (by simp [isName])).append (reads_finish text (by decide))
  | textInput name =>
    have hchars : (control (.textInput name)).toList =
        startChars "input" [("name", some name), ("type", some "text")] := by
      unfold control
      simp [startChars, attributeChars, escapeChar]
    rw [hchars]
    exact reads_start (by decide) (by simp [isName])
  | submit text =>
    have hchars : (control (.submit text)).toList =
        startChars "input" [("type", some "submit"), ("value", some text)] := by
      unfold control
      simp [startChars, attributeChars, escapeChar]
    rw [hchars]
    exact reads_start (by decide) (by simp [isName])

/-! ### Controls in a row, and in a form -/

lemma reads_controls (cs : List Control) :
    Reads (controls cs).toList (cs.flatMap Control.tokens) := by
  rw [controls, Text.toList_join_empty, List.flatMap_map]
  exact Reads.flatMap fun c _ => reads_control c

lemma reads_form (id action : String) {body : String} {tokens : List Token}
    (h : Reads body.toList tokens) :
    Reads (form id action body).toList
      ([.start "form" [("id", some id), ("action", some action), ("method", some "post"),
        ("enctype", some "multipart/form-data")]] ++ tokens ++ [.finish "form"]) := by
  have hchars : (form id action body).toList =
      startChars "form" [("id", some id), ("action", some action), ("method", some "post"),
        ("enctype", some "multipart/form-data")] ++ body.toList ++ finishChars "form" := by
    unfold form
    simp [startChars, attributeChars, finishChars, escapeChar]
  rw [hchars]
  exact ((reads_start (by decide) (by simp [isName])).append h).append (reads_finish "" (by decide))

/-- Whatever the texts of controls are, their markup is read back as the intended tokens, alone and
in a form. -/
theorem tokenize_controls (cs : List Control) :
    tokenize (controls cs) = some (cs.flatMap Control.tokens) ∧
      ∀ id action : String, tokenize (form id action (controls cs)) =
        some ([.start "form" [("id", some id), ("action", some action), ("method", some "post"),
          ("enctype", some "multipart/form-data")]] ++ cs.flatMap Control.tokens ++
          [.finish "form"]) := by
  constructor
  · exact tokenize_of_reads (reads_controls cs)
  · intro id action
    exact tokenize_of_reads (reads_form id action (reads_controls cs))

end Html

end CascadingForms
