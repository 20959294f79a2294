import CascadingForms.Proofs.StrictReading

/-!
# Values in a document

The readers take values out of a document step by step, count the aliases that they follow and give
up at the first fault. This file says without any steps which value stands at a node: `Has` for a
required field, which has its value under its name, `Gives` for an optional one, which is none
exactly if its name is missing or its value is null, and `IsList` for the items of a sequence in
their order. Whatever is read stands there, and no two values stand at one node.
-/

namespace CascadingForms

namespace Yaml

open Reading

/-! ### Values at nodes -/

namespace Node

def text? (root node : Node) : Option String :=
  match root.seen? node with
  | some (.scalar _ _ text) => some text
  | _ => none

/-- The value that stands under a name in a mapping. -/
def field? (root node : Node) (name : String) : Option Node :=
  match root.seen? node with
  | some (.mapping entries) =>
    (entries.find? fun entry => root.text? entry.1 = some name).map Prod.snd
  | _ => none

/-- The items of a sequence. A plain scalar without content stands for an empty one. -/
def items? (root node : Node) : Option (List Node) :=
  match root.seen? node with
  | some (.sequence items) => some items
  | some (.scalar _ .plain "") => some []
  | _ => none

/-- The items of the sequence under a name, none if the name is missing. -/
def itemsUnder? (root node : Node) (name : String) : Option (List Node) :=
  match root.field? node name with
  | none => some []
  | some list => root.items? list

def IsText (root node : Node) (text : String) : Prop := root.text? node = some text

def boolWords : Bool → List String
  | true => ["true", "True", "TRUE"]
  | false => ["false", "False", "FALSE"]

/-- The words for a Boolean count where they stand without quotes, or literally with its tag. -/
def IsBool (root node : Node) (b : Bool) : Prop :=
  ∃ tag style text, root.seen? node = some (.scalar tag style text) ∧
    (style = .plain ∨ style = .literal ∧ tag = some (Tag.ofText "tag:yaml.org,2002:bool")) ∧
    text ∈ boolWords b

def nullWords : List String := ["null", "Null", "NULL", "~"]

/-- Whether a node is a word for null without quotes, or nothing at all. -/
def IsNull (root node : Node) : Prop :=
  ∃ tag text, root.seen? node = some (.scalar tag .plain text) ∧
    (tag = none ∧ text = "" ∨
      (tag = none ∨ tag = some (Tag.ofText "tag:yaml.org,2002:null")) ∧
        text ∈ nullWords)

/-- Whether a node is a name, as its text or as a tag on a scalar that says nothing else. -/
def IsName (root node : Node) (name : String) : Prop :=
  ∃ tag style text, root.seen? node = some (.scalar tag style text) ∧
    (Reader.tagName? tag = none ∧ text = name ∨
      Reader.tagName? tag = some name ∧ style = .plain ∧ (text = "" ∨ text ∈ nullWords))

variable {α : Type}

def IsList (root : Node) (IsValue : Node → α → Prop) (node : Node) (values : List α) : Prop :=
  ∃ items, root.items? node = some items ∧ List.Forall₂ IsValue items values

/-- Whether a mapping has a value under a name. -/
def Has (root node : Node) (name : String) (IsValue : Node → α → Prop) (a : α) : Prop :=
  ∃ value, root.field? node name = some value ∧ IsValue value a

/-- Whether a mapping gives an optional value under a name, which may be missing or null. -/
inductive Gives (root node : Node) (name : String) (IsValue : Node → α → Prop) : Option α → Prop
  | missing (h : root.field? node name = none) : Gives root node name IsValue none
  | null {value : Node} (h : root.field? node name = some value) (hnull : root.IsNull value) :
    Gives root node name IsValue none
  | given {value seen : Node} {a : α} (h : root.field? node name = some value)
    (hnull : ¬root.IsNull value) (hseen : root.seen? value = some seen) (ha : IsValue seen a) :
    Gives root node name IsValue (some a)

variable {IsValue : Node → α → Prop}

lemma rightUnique_isText (root : Node) : Relator.RightUnique root.IsText :=
  fun _ _ _ h h' => Option.some.inj (h.symm.trans h')

lemma rightUnique_isBool (root : Node) : Relator.RightUnique root.IsBool := by
  rintro node b b' ⟨tag, style, text, hseen, -, hb⟩ ⟨tag', style', text', hseen', -, hb'⟩
  obtain ⟨rfl, rfl, rfl⟩ := scalar.inj (Option.some.inj (hseen.symm.trans hseen'))
  have hdisjoint : ∀ text ∈ boolWords true, text ∉ boolWords false := by decide
  cases b <;> cases b'
  · rfl
  · exact absurd hb (hdisjoint text hb')
  · exact absurd hb' (hdisjoint text hb)
  · rfl

lemma rightUnique_isName (root : Node) : Relator.RightUnique root.IsName := by
  rintro node name name' ⟨tag, style, text, hseen, h⟩ ⟨tag', style', text', hseen', h'⟩
  obtain ⟨rfl, rfl, rfl⟩ := scalar.inj (Option.some.inj (hseen.symm.trans hseen'))
  rcases h with ⟨htag, rfl⟩ | ⟨htag, -⟩ <;> rcases h' with ⟨htag', rfl⟩ | ⟨htag', -⟩
  · rfl
  · cases htag.symm.trans htag'
  · cases htag.symm.trans htag'
  · exact Option.some.inj (htag.symm.trans htag')

lemma rightUnique_isName_of_injective {nameOf : α → String} (h : Function.Injective nameOf)
    (root : Node) : Relator.RightUnique fun node a => root.IsName node (nameOf a) :=
  fun _ _ _ ha ha' => h (root.rightUnique_isName ha ha')

lemma rightUnique_isList (h : Relator.RightUnique IsValue) (root : Node) :
    Relator.RightUnique (root.IsList IsValue) := by
  rintro node values values' ⟨items, hitems, hvalues⟩ ⟨items', hitems', hvalues'⟩
  obtain rfl := Option.some.inj (hitems.symm.trans hitems')
  exact h.forall₂ hvalues hvalues'

lemma Has.unique {root node : Node} {name : String} {a a' : α}
    (hunique : Relator.RightUnique IsValue) (h : root.Has node name IsValue a)
    (h' : root.Has node name IsValue a') : a = a' := by
  obtain ⟨value, hvalue, ha⟩ := h
  obtain ⟨value', hvalue', ha'⟩ := h'
  obtain rfl := Option.some.inj (hvalue.symm.trans hvalue')
  exact hunique ha ha'

lemma Gives.unique {root node : Node} {name : String} {a? a?' : Option α}
    (hunique : Relator.RightUnique IsValue) (h : root.Gives node name IsValue a?)
    (h' : root.Gives node name IsValue a?') : a? = a?' := by
  have hsame : ∀ value value', root.field? node name = some value →
      root.field? node name = some value' → value = value' := fun _ _ hvalue hvalue' =>
    Option.some.inj (hvalue.symm.trans hvalue')
  cases h with
  | missing hnone =>
    cases h' with
    | missing => rfl
    | null hvalue => rfl
    | given hvalue => cases hnone.symm.trans hvalue
  | null hvalue hnull =>
    cases h' with
    | missing => rfl
    | null => rfl
    | given hvalue' hgiven =>
      obtain rfl := hsame _ _ hvalue hvalue'
      exact absurd hnull hgiven
  | given hvalue hgiven hseen ha =>
    cases h' with
    | missing hnone => cases hnone.symm.trans hvalue
    | null hvalue' hnull =>
      obtain rfl := hsame _ _ hvalue hvalue'
      exact absurd hnull hgiven
    | given hvalue' _ hseen' ha' =>
      obtain rfl := hsame _ _ hvalue hvalue'
      obtain rfl := Option.some.inj (hseen.symm.trans hseen')
      rw [hunique ha ha']

end Node

namespace Reader

variable {α : Type} {read : Reader α} {IsValue : Node → α → Prop} {root node : Node}
  {depth inner : Nat} {name : String} {known : List String} {strict : Bool}
  {entries : List (Node × Node)} {fs : List (String × Node)} {l : List Node}

lemma isText_of_string {text : String} (h : Yields (string root depth node) text) :
    root.IsText node text := by
  obtain ⟨tag, style, hseen⟩ := seen?_of_string h
  rw [Node.IsText, Node.text?, hseen]

lemma mem_boolWords_of_bool? {text : String} {b : Bool} (h : bool? text = some b) :
    text ∈ Node.boolWords b := by
  unfold bool? at h
  split at h
  · rename_i htrue
    obtain rfl := Option.some.inj h
    exact List.contains_iff_mem.mp htrue
  · split at h
    · rename_i hfalse
      obtain rfl := Option.some.inj h
      exact List.contains_iff_mem.mp hfalse
    · cases h

lemma isBool_of_bool {b : Bool} (h : Yields (bool root depth node) b) : root.IsBool node b := by
  rw [bool] at h
  obtain ⟨m, hm, h⟩ := h.bind
  split at h
  · rename_i tag style text
    split at h
    · rename_i found hfound
      obtain rfl := h.eq_of_pure
      obtain ⟨hspell, hword⟩ := Option.ite_none_right_eq_some.mp hfound
      exact ⟨tag, style, text, Node.seen?_of_resolve hm, by simpa [maySpellBool] using hspell,
        mem_boolWords_of_bool? hword⟩
    · exact absurd h (not_yields_throw _)
  · exact absurd h (not_yields_throw _)

lemma isNull_iff_of_saysNone {m : Node} {b : Bool} (hm : root.seen? node = some m)
    (h : saysNone m = .ok b) : b = true ↔ root.IsNull node := by
  have hnull : root.IsNull node ↔ ∃ tag text, m = .scalar tag .plain text ∧
      (tag = none ∧ text = "" ∨
        (tag = none ∨ tag = some (Tag.ofText "tag:yaml.org,2002:null")) ∧
          text ∈ Node.nullWords) := by
    rw [Node.IsNull, hm]
    simp only [Option.some.injEq]
  rw [hnull]
  unfold saysNone at h
  split at h
  · rename_i text
    obtain rfl := Except.ok.inj h
    simp [isNull, Node.nullWords, String.isEmpty_iff]
  · rename_i tag text
    by_cases htag : tag = Tag.ofText "tag:yaml.org,2002:null"
    · rw [if_pos htag] at h
      by_cases hword : isNull text = true
      · rw [if_pos hword] at h
        obtain rfl := Except.ok.inj h
        simpa [isNull, Node.nullWords, htag] using hword
      · rw [if_neg hword] at h
        cases h
    · rw [if_neg htag] at h
      obtain rfl := Except.ok.inj h
      simp [htag]
  · rename_i hplain hother
    obtain rfl := Except.ok.inj h
    constructor
    · intro h
      cases h
    · rintro ⟨tag, text, rfl, -⟩
      cases tag with
      | none => exact absurd rfl (hplain text)
      | some tag => exact absurd rfl (hother tag text)

/-- A value that may be missing is read at the node that is seen, unless that says null. -/
lemma cases_of_nullable {a? : Option α} (h : Yields (nullable read root depth node) a?) :
    (a? = none ∧ root.IsNull node) ∨
      ∃ seen a, a? = some a ∧ ¬root.IsNull node ∧ root.seen? node = some seen ∧
        Yields (read root depth seen) a := by
  rw [nullable] at h
  obtain ⟨seen, hseen, h⟩ := h.bind
  obtain ⟨b, hb, h⟩ := h.bind
  have hseen := Node.seen?_of_resolve hseen
  have hnull := isNull_iff_of_saysNone hseen hb.eq_ok_of_lift
  cases b with
  | true =>
    rw [if_pos rfl] at h
    exact .inl ⟨h.eq_of_pure.symm, hnull.mp rfl⟩
  | false =>
    rw [if_neg Bool.false_ne_true] at h
    obtain ⟨a, ha, h⟩ := h.bind
    refine .inr ⟨seen, a, h.eq_of_pure.symm, ?_, hseen, ha⟩
    intro hisNull
    exact absurd (hnull.mpr hisNull) Bool.false_ne_true

/-- The items that are read are those of the sequence, which takes one level of nesting. -/
lemma items?_of_items (h : Yields (items root depth node) (l, inner)) :
    root.items? node = some l ∧ (l = [] ∨ depth = inner + 1) := by
  rw [items] at h
  obtain ⟨m, hm, h⟩ := h.bind
  rw [Node.items?, Node.seen?_of_resolve hm]
  split at h
  · obtain ⟨rfl, rfl⟩ := Prod.mk.inj h.eq_of_pure
    exact ⟨rfl, .inr rfl⟩
  · exact absurd h (not_yields_throw _)
  · obtain ⟨rfl, -⟩ := Prod.mk.inj h.eq_of_pure
    exact ⟨rfl, .inl rfl⟩
  · exact absurd h (not_yields_throw _)

lemma isList_of_list {values : List α} (h : Yields (list read root depth node) values)
    (hread : ∀ depth item a, Yields (read root depth item) a → IsValue item a) :
    root.IsList IsValue node values := by
  rw [list] at h
  obtain ⟨⟨l, inner⟩, hitems, h⟩ := h.bind
  exact ⟨l, (items?_of_items hitems).1, h.forall₂_mapM.imp fun item a => hread inner item a⟩

/-! ### Fields -/

/-- Among the known entries a name is found just where it is found in the mapping. -/
lemma find?_knownEntries (h : Yields (knownEntries known strict root depth entries) fs)
    (hname : name ∈ known) :
    fs.find? (·.1 = name) =
      (entries.find? fun entry => root.text? entry.1 = some name).map
        fun entry => (name, entry.2) := by
  induction entries generalizing fs with
  | nil =>
    rw [knownEntries] at h
    obtain rfl := h.eq_of_pure
    rfl
  | cons entry entries ih =>
    rw [knownEntries] at h
    obtain ⟨first, hfirst, h⟩ := h.bind
    have hkey : root.text? entry.1 = some first := isText_of_string hfirst
    by_cases hknown : known.contains first = true
    · rw [if_pos hknown] at h
      obtain ⟨rest, hrest, h⟩ := h.bind
      by_cases hrepeated : rest.any (·.1 = first) = true
      · rw [if_pos hrepeated] at h
        exact absurd h (not_yields_throw _)
      · rw [if_neg hrepeated] at h
        obtain rfl := h.eq_of_pure
        by_cases hsame : first = name
        · simp [hkey, hsame]
        · rw [List.find?_cons_of_neg (by simpa using hsame), ih hrest,
            List.find?_cons_of_neg (by simpa [hkey] using hsame)]
    · rw [if_neg hknown] at h
      have hne : first ≠ name := by
        rintro rfl
        exact hknown (by simpa using hname)
      rw [List.find?_cons_of_neg (by simpa [hkey] using hne)]
      cases strict with
      | true => exact absurd h (not_yields_throw _)
      | false => exact ih h

/-- The fields that are read are those of the mapping. -/
lemma find?_eq_field? (h : Yields (fields known strict root depth node) (fs, inner))
    (hname : name ∈ known) :
    fs.find? (·.1 = name) = (root.field? node name).map fun value => (name, value) := by
  rw [fields] at h
  obtain ⟨m, hm, h⟩ := h.bind
  rw [Node.field?, Node.seen?_of_resolve hm]
  split at h
  · obtain ⟨found, hfound, h⟩ := h.bind
    obtain ⟨rfl, -⟩ := Prod.mk.inj h.eq_of_pure
    rw [find?_knownEntries hfound hname, Option.map_map]
    rfl
  · exact absurd h (not_yields_throw _)
  · obtain ⟨rfl, -⟩ := Prod.mk.inj h.eq_of_pure
    rfl
  · exact absurd h (not_yields_throw _)

lemma depth_of_fields (h : Yields (fields known strict root depth node) (fs, inner)) :
    fs = [] ∨ depth = inner + 1 := by
  rw [fields] at h
  obtain ⟨m, hm, h⟩ := h.bind
  split at h
  · obtain ⟨found, hfound, h⟩ := h.bind
    obtain ⟨-, rfl⟩ := Prod.mk.inj h.eq_of_pure
    exact .inr rfl
  · exact absurd h (not_yields_throw _)
  · obtain ⟨rfl, -⟩ := Prod.mk.inj h.eq_of_pure
    exact .inl rfl
  · exact absurd h (not_yields_throw _)

lemma has_of_field {a : α} (hfields : Yields (fields known strict root depth node) (fs, inner))
    (hname : name ∈ known) (h : Yields (field read root inner fs name) a)
    (hread : ∀ value a, Yields (read root inner value) a → IsValue value a) :
    root.Has node name IsValue a := by
  rw [field, find?_eq_field? hfields hname] at h
  cases hvalue : root.field? node name with
  | none =>
    rw [hvalue] at h
    exact absurd h (not_yields_throw _)
  | some value =>
    rw [hvalue] at h
    exact ⟨value, hvalue, hread value a h⟩

lemma gives_of_setting {a? : Option α}
    (hfields : Yields (fields known strict root depth node) (fs, inner)) (hname : name ∈ known)
    (h : Yields (Settings.setting read root inner fs name) a?)
    (hread : ∀ value a, Yields (read root inner value) a → IsValue value a) :
    root.Gives node name IsValue a? := by
  rw [Settings.setting, field?, find?_eq_field? hfields hname] at h
  obtain ⟨b, hb, h⟩ := h.bind
  cases hvalue : root.field? node name with
  | none =>
    rw [hvalue] at hb
    obtain rfl := hb.eq_of_pure
    obtain rfl := h.eq_of_pure
    exact .missing hvalue
  | some value =>
    rw [hvalue] at hb
    obtain ⟨c, hc, hb⟩ := hb.bind
    obtain rfl := hb.eq_of_pure
    obtain rfl := h.eq_of_pure
    rcases cases_of_nullable hc with ⟨rfl, hnull⟩ | ⟨seen, a, rfl, hnull, hseen, ha⟩
    · exact .null hvalue hnull
    · exact .given hvalue hnull hseen (hread seen a ha)

lemma isName_of_oneOf {all : List α} {nameOf : α → String} {a : α}
    (h : Yields (oneOf (all.map fun a => (nameOf a, a)) root depth node) a) :
    root.IsName node (nameOf a) := by
  rw [oneOf] at h
  obtain ⟨m, hm, h⟩ := h.bind
  have hpick : ∀ name, Yields (oneOf.pick (all.map fun a => (nameOf a, a)) name) a →
      nameOf a = name := by
    intro name h
    rw [oneOf.pick] at h
    split at h
    · rename_i found value hfind
      obtain rfl := h.eq_of_pure
      obtain ⟨b, -, hb⟩ := List.mem_map.mp (List.mem_of_find?_eq_some hfind)
      obtain ⟨rfl, rfl⟩ := Prod.mk.inj hb
      simpa using List.find?_some hfind
    · exact absurd h (not_yields_throw _)
  split at h
  · rename_i tag style text
    have hseen := Node.seen?_of_resolve hm
    split at h
    · rename_i name htag
      split at h
      · rename_i hempty
        obtain rfl := hpick name h
        exact ⟨tag, style, text, hseen, .inr ⟨htag, by simpa [isNull, Node.nullWords] using hempty⟩⟩
      · exact absurd h (not_yields_throw _)
    · rename_i htag
      obtain rfl := hpick text h
      exact ⟨tag, style, _, hseen, .inl ⟨htag, rfl⟩⟩
  · exact absurd h (not_yields_throw _)

end Reader

end Yaml

end CascadingForms
