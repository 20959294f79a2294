import CascadingForms.Form.Posted
import CascadingForms.Text.Blank
import Mathlib.Data.List.TakeWhile

/-!
# Looking up the fields of a form

A field that comes more than once counts with its first value, so fields that are added at the
end change the answer only for names that were missing. In a form that names no field twice,
every field is the answer for its name.
-/

namespace CascadingForms

namespace PostedForm

lemma get?_nil (name : String) : (⟨[]⟩ : PostedForm).get? name = none := rfl

lemma get?_cons (field : String × String) (fields : List (String × String)) (name : String) :
    (⟨field :: fields⟩ : PostedForm).get? name =
      if field.1 = name then some field.2 else (⟨fields⟩ : PostedForm).get? name := by
  by_cases h : field.1 = name <;> simp [get?, getAll, h]

lemma getAll_pushAll (f : PostedForm) (extra : List (String × String)) (name : String) :
    (f.pushAll extra).getAll name = f.getAll name ++ (⟨extra⟩ : PostedForm).getAll name := by
  simp [getAll, pushAll]

lemma get?_pushAll (f : PostedForm) (extra : List (String × String)) (name : String) :
    (f.pushAll extra).get? name = (f.get? name).or ((⟨extra⟩ : PostedForm).get? name) := by
  rcases f with ⟨fields⟩
  unfold pushAll
  induction fields with
  | nil => rfl
  | cons field fields ih =>
    simp only [List.cons_append, get?_cons] at ih ⊢
    rw [ih]
    split <;> rfl

lemma get?_eq_none_iff (f : PostedForm) (name : String) :
    f.get? name = none ↔ name ∉ f.fields.map Prod.fst := by
  rcases f with ⟨fields⟩
  induction fields with
  | nil => simp [get?_nil]
  | cons field fields ih =>
    rw [get?_cons, List.map_cons, List.mem_cons, not_or]
    by_cases h : field.1 = name
    · simp [h]
    · rw [if_neg h, ih]
      exact ⟨fun hmem => ⟨Ne.symm h, hmem⟩, And.right⟩

lemma contains_eq_false_iff (f : PostedForm) (name : String) :
    f.contains name = false ↔ f.get? name = none := by
  rw [get?_eq_none_iff, contains, List.any_eq_false]
  constructor
  · intro h hmem
    obtain ⟨field, hf, rfl⟩ := List.mem_map.mp hmem
    exact h field hf (by simp)
  · intro h field hf hname
    refine h (List.mem_map.mpr ⟨field, hf, ?_⟩)
    simpa using hname

lemma mem_names_of_get? {f : PostedForm} {name value : String} (h : f.get? name = some value) :
    name ∈ f.fields.map Prod.fst := by
  by_cases hmem : name ∈ f.fields.map Prod.fst
  · exact hmem
  · rw [(get?_eq_none_iff f name).mpr hmem] at h
    cases h

/-- Where no name comes twice, every field is found under its name. -/
lemma get?_of_mem {f : PostedForm} (hn : (f.fields.map Prod.fst).Nodup) {name value : String}
    (h : (name, value) ∈ f.fields) : f.get? name = some value := by
  rcases f with ⟨fields⟩
  induction fields with
  | nil => cases h
  | cons field fields ih =>
    rw [List.map_cons, List.nodup_cons] at hn
    rw [get?_cons]
    rcases List.mem_cons.mp h with rfl | hmem
    · simp
    · have hne : field.1 ≠ name := by
        intro heq
        exact hn.1 (List.mem_map.mpr ⟨(name, value), hmem, heq.symm⟩)
      rw [if_neg hne, ih hn.2 hmem]

end PostedForm

namespace Text

/-- Trimming leaves nothing of a text exactly if the text is blank throughout. -/
lemma trim_eq_empty_iff (s : String) : trim s = "" ↔ ∀ c ∈ s.toList, isBlank c = true := by
  have hempty : trim s = "" ↔ (s.toList.dropWhile isBlank).reverse.dropWhile isBlank = [] := by
    rw [← String.toList_inj]
    simp [trim, strip]
  rw [hempty, List.dropWhile_eq_nil_iff]
  constructor
  · intro h
    have hnil : s.toList.dropWhile isBlank = [] := by
      cases hd : s.toList.dropWhile isBlank with
      | nil => rfl
      | cons c rest =>
        have hhead := List.head?_dropWhile_not isBlank s.toList
        have hblank := h c (by rw [hd]; simp)
        simp [hd, hblank] at hhead
    exact List.dropWhile_eq_nil_iff.mp hnil
  · intro h c hc
    exact h c ((List.dropWhile_sublist isBlank).mem (List.mem_reverse.mp hc))

lemma trim_ne_empty_iff (s : String) : trim s ≠ "" ↔ ∃ c ∈ s.toList, isBlank c = false := by
  rw [Ne, trim_eq_empty_iff]
  simp

end Text

end CascadingForms
