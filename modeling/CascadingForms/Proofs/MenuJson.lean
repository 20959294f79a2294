import CascadingForms.Menu.Json
import CascadingForms.Proofs.MenuPaths

/-!
# Menus read back from JSON

Writing leaves out the fields of an entry where there is nothing to say, and reading takes a field
that is missing for an empty one. Both follow one rule, `Json.fields`: the members of an object are
the fields that are present, in order. This file reads every menu back from its JSON form, however
deep it is and whatever its defects.
-/

namespace CascadingForms

lemma mapM_map_of_forall {α β : Type} {write : α → β} {read : β → Option α} {l : List α}
    (h : ∀ a ∈ l, read (write a) = some a) : (l.map write).mapM read = some l := by
  induction l with
  | nil => rfl
  | cons a l ih =>
    have hrest := ih fun b hb => h b (List.mem_cons_of_mem a hb)
    rw [List.map_cons, List.mapM_cons, h a List.mem_cons_self, hrest]
    rfl

namespace Json

/-- The members of an object with some named fields, of which those without a value are left out. -/
def fields (names : List String) (values : List (Option Json)) : List (String × Json) :=
  (names.zip values).filterMap fun (name, value) => value.map (name, ·)

lemma fields_cons (name : String) (names : List String) (value : Option Json)
    (values : List (Option Json)) :
    fields (name :: names) (value :: values) =
      (value.map (name, ·)).toList ++ fields names values := by
  cases value <;> rfl

lemma name_mem_of_mem_fields {names : List String} {values : List (Option Json)}
    {member : String × Json} (h : member ∈ fields names values) : member.1 ∈ names := by
  obtain ⟨⟨name, value⟩, hzip, hmember⟩ := List.mem_filterMap.mp h
  obtain ⟨j, -, rfl⟩ := Option.map_eq_some_iff.mp hmember
  exact (List.of_mem_zip hzip).1

lemma uniqueMember?_append {before after : List (String × Json)} {name : String}
    (hbefore : ∀ member ∈ before, member.1 ≠ name) (hafter : ∀ member ∈ after, member.1 ≠ name)
    (value : Option Json) :
    uniqueMember? (before ++ (value.map (name, ·)).toList ++ after) name = some value := by
  have hnone {members : List (String × Json)} (h : ∀ member ∈ members, member.1 ≠ name) :
      members.filter (·.1 = name) = [] := by
    simpa using h
  unfold uniqueMember?
  rw [List.filter_append, List.filter_append, hnone hbefore, hnone hafter]
  cases value <;> simp

/-- The fields of a record are read back from its members, behind others with different names. -/
lemma mapM_uniqueMember?_fields (before : List (String × Json)) {names : List String}
    {values : List (Option Json)} (hnodup : names.Nodup) (hlength : names.length = values.length)
    (hbefore : ∀ member ∈ before, member.1 ∉ names) :
    names.mapM (uniqueMember? (before ++ fields names values)) = some values := by
  induction names generalizing values before with
  | nil =>
    obtain rfl := List.length_eq_zero_iff.mp hlength.symm
    rfl
  | cons name names ih =>
    obtain ⟨value, values, rfl⟩ := List.exists_cons_of_length_eq_add_one hlength.symm
    obtain ⟨hname, hnodup⟩ := List.nodup_cons.mp hnodup
    rw [fields_cons, ← List.append_assoc]
    have hfirst :
        uniqueMember? (before ++ (value.map (name, ·)).toList ++ fields names values) name =
          some value := by
      apply uniqueMember?_append
      · intro member hmember heq
        exact hbefore member hmember (heq ▸ List.mem_cons_self)
      · intro member hmember heq
        exact hname (heq ▸ name_mem_of_mem_fields hmember)
    have hseen : ∀ member ∈ before ++ (value.map (name, ·)).toList, member.1 ∉ names := by
      intro member hmember
      rcases List.mem_append.mp hmember with hmember | hmember
      · exact fun hmem => hbefore member hmember (List.mem_cons_of_mem name hmem)
      · obtain ⟨j, -, rfl⟩ := Option.map_eq_some_iff.mp (Option.mem_toList.mp hmember)
        exact hname
    have hrest := ih _ hnodup (Nat.succ.inj hlength) hseen
    rw [List.mapM_cons, hfirst, hrest]
    rfl

lemma record?_fields (names : List String) (values : List (Option Json)) (hnodup : names.Nodup)
    (hlength : names.length = values.length) :
    record? names (.object (fields names values)) = some values :=
  mapM_uniqueMember?_fields [] hnodup hlength (by simp)

lemma member?_eq {α : Type} (name : String) (toJson : α → Json) (a : Option α) :
    member? name toJson a = ((a.map toJson).map (name, ·)).toList := by
  cases a <;> rfl

/-- A field that is left out where there is nothing to say is read as having nothing to say. -/
lemma absent?_map {α : Type} {toJson : α → Json} {read : Json → Option α} (a : Option α)
    (hread : ∀ a, read (toJson a) = some a) (hnull : ∀ a, toJson a ≠ .null) :
    absent? read (a.map toJson) = some a := by
  cases a with
  | none => rfl
  | some a =>
    rw [Option.map_some, absent?, nullable?, hread]
    · rfl
    · exact hnull a

lemma absent?_string (s : Option String) : absent? string? (s.map .string) = some s := by
  apply absent?_map
  · exact fun _ => rfl
  · exact fun _ => nofun

lemma strings?_strings (l : List String) : (strings l).strings? = some l :=
  mapM_map_of_forall fun _ _ => rfl

/-! ### Depth -/

lemma depth_le_depthOfItems {j : Json} {items : List Json} (h : j ∈ items) :
    j.depth ≤ depthOfItems items := by
  induction items with
  | nil => cases h
  | cons item items ih =>
    rw [depthOfItems]
    rcases List.mem_cons.mp h with rfl | h
    · exact Nat.le_max_left _ _
    · exact Nat.le_trans (ih h) (Nat.le_max_right _ _)

lemma depth_le_depthOfMembers {name : String} {j : Json} {members : List (String × Json)}
    (h : (name, j) ∈ members) : j.depth ≤ depthOfMembers members := by
  induction members with
  | nil => cases h
  | cons member members ih =>
    rcases member with ⟨name', value⟩
    rw [depthOfMembers]
    rcases List.mem_cons.mp h with heq | h
    · obtain ⟨-, rfl⟩ := Prod.mk.inj heq
      exact Nat.le_max_left _ _
    · exact Nat.le_trans (ih h) (Nat.le_max_right _ _)

end Json

/-! ### The parts of a menu -/

lemma Role.ofJson?_name (r : Role) : Role.ofJson? (.string r.name) = some r := by
  cases r <;> decide

lemma Locale.ofJson?_name (l : Locale) : Locale.ofJson? (.string l.name) = some l := by
  cases l <;> decide

lemma Choice.ofJson?_toJson (c : Choice) : ofJson? c.toJson = some c := by
  have hrecord : c.toJson.record? _ = _ :=
    Json.record?_fields ["key", "label"] [some (.string c.key), some (.string c.label)]
      (by decide) rfl
  simp only [ofJson?, hrecord]
  rfl

lemma Labels.ofJson?_toJson (l : Labels) : ofJson? l.toJson = some l := by
  have hrecord : l.toJson.record? _ = _ :=
    Json.record?_fields ["submit", "source_files", "function_name"]
      [some (.string l.submit), some (.string l.sourceFiles), some (.string l.functionName)]
      (by decide) rfl
  simp only [ofJson?, hrecord]
  rfl

namespace Descriptor

def fieldNames : List String :=
  ["path", "collects_files", "accepted_file_extensions", "allow_multiple_files",
    "requires_function_name", "allow_multiple_exercises", "exercises", "source_label"]

def fieldValues (d : Descriptor) : List (Option Json) :=
  [some (.string d.path), some (.bool d.collectsFiles), some (.strings d.acceptedExtensions),
    some (.bool d.allowsMultipleFiles), some (.bool d.requiresFunctionName),
    some (.bool d.allowsMultipleExercises), some (.array (d.exercises.map Choice.toJson)),
    d.sourceLabel.map .string]

lemma toJson_eq_fields (d : Descriptor) :
    d.toJson = .object (Json.fields fieldNames d.fieldValues) := by
  rw [toJson, Json.member?_eq]
  cases hl : d.sourceLabel <;> simp [fieldValues, fieldNames, Json.fields, hl]

lemma ofJson?_toJson (d : Descriptor) : ofJson? d.toJson = some d := by
  have hrecord : d.toJson.record? fieldNames = some d.fieldValues := by
    rw [toJson_eq_fields]
    exact Json.record?_fields fieldNames d.fieldValues (by decide) rfl
  have hextensions := Json.strings?_strings d.acceptedExtensions
  have hexercises : (d.exercises.map Choice.toJson).mapM Choice.ofJson? = some d.exercises :=
    mapM_map_of_forall fun c _ => c.ofJson?_toJson
  have hlabel := Json.absent?_string d.sourceLabel
  unfold fieldNames fieldValues at hrecord
  simp [ofJson?, hrecord, Json.string?, Json.bool?, Json.array?, hextensions, hexercises, hlabel]

end Descriptor

/-! ### Entries -/

namespace Entry

def fieldNames : List String := ["key", "label", "prompt", "children", "submission"]

def fieldValues (e : Entry) : List (Option Json) :=
  [some (.string e.key), some (.string e.label), e.prompt.map .string,
    if e.children.isEmpty then none else some (.array (e.children.map toJson)),
    e.descriptor.map Descriptor.toJson]

lemma toJsonAll_eq_map (children : List Entry) : toJsonAll children = children.map toJson := by
  induction children with
  | nil => rw [toJsonAll, List.map_nil]
  | cons child children ih => rw [toJsonAll, ih, List.map_cons]

lemma toJson_eq_fields (e : Entry) :
    e.toJson = .object (Json.fields fieldNames e.fieldValues) := by
  obtain ⟨key, label, prompt, children, descriptor⟩ := e
  rw [toJson, Json.member?_eq, Json.member?_eq, toJsonAll_eq_map]
  cases prompt <;> cases children <;> cases descriptor <;>
    simp [fieldValues, fieldNames, Json.fields]

/-- A child is two values deeper than its parent: in an array, in an object. -/
lemma depth_toJson_add_two_le {e child : Entry} (h : child ∈ e.children) :
    child.toJson.depth + 2 ≤ e.toJson.depth := by
  have hempty : e.children.isEmpty = false := by
    cases hc : e.children with
    | nil => simp [hc] at h
    | cons => rfl
  have hmember : ("children", Json.array (e.children.map toJson)) ∈
      Json.fields fieldNames e.fieldValues := by
    simp [Json.fields, fieldNames, fieldValues, hempty]
  have harray := Json.depth_le_depthOfMembers hmember
  have hchild := Json.depth_le_depthOfItems (List.mem_map_of_mem (f := toJson) h)
  rw [Json.depth] at harray
  rw [toJson_eq_fields e, Json.depth]
  omega

lemma ofJsonWithin_toJson (e : Entry) {fuel : Nat} (h : e.toJson.depth ≤ fuel) :
    ofJsonWithin fuel e.toJson = some e := by
  induction e using Entry.induction generalizing fuel with
  | h e ih =>
    obtain ⟨fuel, rfl⟩ : ∃ n, fuel = n + 1 := by
      rw [toJson_eq_fields, Json.depth] at h
      exact ⟨fuel - 1, by omega⟩
    have hrecord : e.toJson.record? fieldNames = some e.fieldValues := by
      rw [toJson_eq_fields]
      exact Json.record?_fields fieldNames e.fieldValues (by decide) rfl
    have hprompt := Json.absent?_string e.prompt
    have hdescriptor : Json.absent? Descriptor.ofJson? (e.descriptor.map Descriptor.toJson) =
        some e.descriptor := by
      apply Json.absent?_map
      · exact Descriptor.ofJson?_toJson
      · exact fun d => by rw [d.toJson_eq_fields]; nofun
    have hchildren : (e.children.map toJson).mapM (ofJsonWithin fuel) = some e.children := by
      apply mapM_map_of_forall
      intro child hchild
      have hdepth := depth_toJson_add_two_le hchild
      exact ih child hchild (by omega)
    unfold fieldNames fieldValues at hrecord
    -- Without children the field is left out, and a missing field is read as no children.
    cases hempty : e.children.isEmpty with
    | true =>
      have hnil := List.isEmpty_iff.mp hempty
      rw [hempty, if_pos rfl] at hrecord
      simp only [ofJsonWithin, hrecord, Json.string?, hprompt, hdescriptor, Option.bind_eq_bind,
        Option.bind_some, ← hnil]
      cases e
      rfl
    | false =>
      rw [hempty, if_neg Bool.false_ne_true] at hrecord
      simp only [ofJsonWithin, hrecord, Json.string?, Json.array?, hprompt, hdescriptor,
        Option.bind_eq_bind, Option.bind_some, hchildren]
      cases e
      rfl

lemma ofJson?_toJson (e : Entry) : ofJson? e.toJson = some e :=
  ofJsonWithin_toJson e (Nat.le_refl _)

end Entry

/-! ### Menus -/

namespace Menu

lemma ofJson?_toJson (m : Menu) : ofJson? m.toJson = some m := by
  have hrecord : m.toJson.record? _ = _ :=
    Json.record?_fields ["name", "role", "locale", "labels", "root"]
      [some (.string m.name), some (.string m.role.name), some (.string m.locale.name),
        some m.labels.toJson, some m.root.toJson] (by decide) rfl
  simp only [ofJson?, hrecord, Json.string?, m.role.ofJson?_name, m.locale.ofJson?_name,
    m.labels.ofJson?_toJson, m.root.ofJson?_toJson, Option.bind_eq_bind, Option.bind_some]
  rfl

/-- Every menu is read back from its JSON form, so no two menus share one. -/
theorem json_reads_back :
    (∀ m : Menu, ofJson? m.toJson = some m) ∧ Function.Injective toJson := by
  refine ⟨ofJson?_toJson, fun m n h => ?_⟩
  have hm := m.ofJson?_toJson
  rw [h, n.ofJson?_toJson] at hm
  exact (Option.some.inj hm).symm

end Menu

end CascadingForms
