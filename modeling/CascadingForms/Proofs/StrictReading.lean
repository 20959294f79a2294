import CascadingForms.Menu.Draft
import Mathlib.Data.List.Forall2

/-!
# Strict reading

A reading that succeeds has succeeded at each of its steps, so its result tells what it has seen. A
record that is read strictly has no key but the names of its fields, each at most once, and the
value behind a name is the one that the reader of this field has read.
-/

namespace CascadingForms

namespace Yaml

namespace Reading

variable {α β : Type} {x : Reading α} {a c : α} {b : β}

/-- A computation gives a result, if it may follow enough aliases. -/
def Yields (x : Reading α) (a : α) : Prop := ∃ left left', x.run left = .ok (a, left')

lemma Yields.bind {f : α → Reading β} (h : Yields (x >>= f) b) :
    ∃ a, Yields x a ∧ Yields (f a) b := by
  obtain ⟨left, left', h⟩ := h
  rw [StateT.run_bind] at h
  cases hx : x.run left with
  | error e =>
    rw [hx] at h
    cases h
  | ok result =>
    rw [hx] at h
    exact ⟨result.1, ⟨left, result.2, hx⟩, ⟨result.2, left', h⟩⟩

lemma Yields.eq_of_pure (h : Yields (pure a) c) : a = c := by
  obtain ⟨left, left', h⟩ := h
  exact congrArg Prod.fst (Except.ok.inj h)

lemma not_yields_throw (e : Error) : ¬Yields (throw e) a := by
  rintro ⟨left, left', h⟩
  cases h

lemma Yields.eq_ok_of_lift {x : Except Error α} (h : Yields (liftM x : Reading α) a) :
    x = .ok a := by
  obtain ⟨left, left', h⟩ := h
  cases x with
  | error e => cases h
  | ok found => exact congrArg Except.ok (congrArg Prod.fst (Except.ok.inj h))

lemma yields_of_run' {left : Nat} (h : x.run' left = .ok a) : Yields x a := by
  rw [StateT.run'_eq] at h
  cases hx : x.run left with
  | error e =>
    rw [hx] at h
    cases h
  | ok result =>
    rw [hx] at h
    obtain rfl : result.1 = a := Except.ok.inj h
    exact ⟨left, result.2, hx⟩

lemma Yields.forall₂_mapM {f : α → Reading β} {l : List α} {bs : List β}
    (h : Yields (l.mapM f) bs) : List.Forall₂ (fun a b => Yields (f a) b) l bs := by
  induction l generalizing bs with
  | nil =>
    rw [List.mapM_nil] at h
    obtain rfl := h.eq_of_pure
    exact .nil
  | cons head l ih =>
    rw [List.mapM_cons] at h
    obtain ⟨b, hb, h⟩ := h.bind
    obtain ⟨rest, hrest, h⟩ := h.bind
    obtain rfl := h.eq_of_pure
    exact .cons hb (ih hrest)

end Reading

open Reading

namespace Node

/-- The node that a reader sees in place of another, through anchors and an alias. -/
def seen? (root node : Node) : Option Node :=
  match node.strip with
  | reference anchor => (root.target? anchor).map strip
  | node => some node

lemma target?_of_followAlias {root node : Node} {anchor : Nat}
    (h : Yields (followAlias root anchor) node) : root.target? anchor = some node := by
  rw [followAlias] at h
  obtain ⟨left, -, h⟩ := h.bind
  cases left with
  | zero => exact absurd h (not_yields_throw _)
  | succ left =>
    obtain ⟨_, _, h⟩ := h.bind
    cases htarget : root.target? anchor with
    | none =>
      rw [htarget] at h
      exact absurd h (not_yields_throw _)
    | some target =>
      rw [htarget] at h
      rw [h.eq_of_pure]

lemma seen?_of_resolve {root node m : Node} (h : Yields (node.resolve root) m) :
    root.seen? node = some m := by
  rw [resolve] at h
  rw [seen?]
  cases hstrip : node.strip with
  | reference anchor =>
    rw [hstrip] at h
    obtain ⟨target, htarget, h⟩ := h.bind
    have hfound := congrArg (Option.map strip) (target?_of_followAlias htarget)
    rw [Option.map_some, h.eq_of_pure] at hfound
    exact hfound
  | scalar | sequence | mapping | anchored =>
    rw [hstrip] at h
    exact congrArg some h.eq_of_pure

end Node

namespace Reader

variable {root node key value : Node} {depth inner : Nat} {name : String} {known : List String}
  {entries : List (Node × Node)} {fs : List (String × Node)} {items : List Node}
  {tag : Option Tag} {style : Style}

lemma seen?_of_string (h : Yields (string root depth node) name) :
    ∃ tag style, root.seen? node = some (.scalar tag style name) := by
  rw [string] at h
  obtain ⟨m, hm, h⟩ := h.bind
  split at h
  · rename_i tag style text
    rw [h.eq_of_pure] at hm
    exact ⟨tag, style, Node.seen?_of_resolve hm⟩
  · exact absurd h (not_yields_throw _)

/-- Strict reading finds every entry of a mapping under the name of a field. -/
lemma find?_of_knownEntries (h : Yields (knownEntries known true root depth entries) fs)
    (hentry : (key, value) ∈ entries) :
    ∃ name ∈ known, (∃ tag style, root.seen? key = some (.scalar tag style name)) ∧
      fs.find? (·.1 = name) = some (name, value) := by
  induction entries generalizing fs with
  | nil => cases hentry
  | cons entry entries ih =>
    rw [knownEntries] at h
    obtain ⟨name, hname, h⟩ := h.bind
    by_cases hknown : known.contains name = true
    · rw [if_pos hknown] at h
      obtain ⟨rest, hrest, h⟩ := h.bind
      by_cases hrepeated : rest.any (·.1 = name) = true
      · rw [if_pos hrepeated] at h
        exact absurd h (not_yields_throw _)
      · rw [if_neg hrepeated] at h
        obtain rfl := h.eq_of_pure
        rcases List.mem_cons.mp hentry with rfl | hentry
        · exact ⟨name, by simpa using hknown, seen?_of_string hname, by simp⟩
        · obtain ⟨other, hother, hseen, hfind⟩ := ih hrest hentry
          refine ⟨other, hother, hseen, ?_⟩
          -- The name in front is not found behind, since it would be repeated.
          have hne : name ≠ other := by
            rintro rfl
            have hmem := List.mem_of_find?_eq_some hfind
            exact hrepeated (List.any_eq_true.mpr ⟨_, hmem, by simp⟩)
          rw [List.find?_cons_of_neg (by simpa using hne)]
          exact hfind
    · rw [if_neg hknown, if_pos rfl] at h
      exact absurd h (not_yields_throw _)

/-- The entries of a mapping that is read strictly have the names of fields and are found under
them. -/
lemma find?_of_fields (h : Yields (fields known true root depth node) (fs, inner))
    (hseen : root.seen? node = some (.mapping entries)) (hentry : (key, value) ∈ entries)
    (hkey : root.seen? key = some (.scalar tag style name)) :
    depth = inner + 1 ∧ name ∈ known ∧ fs.find? (·.1 = name) = some (name, value) := by
  rw [fields] at h
  obtain ⟨m, hm, h⟩ := h.bind
  obtain rfl := Option.some.inj (hseen.symm.trans (Node.seen?_of_resolve hm))
  cases depth with
  | zero => exact absurd h (not_yields_throw _)
  | succ depth =>
    obtain ⟨found, hfound, h⟩ := h.bind
    obtain ⟨rfl, rfl⟩ := Prod.mk.inj h.eq_of_pure
    obtain ⟨other, hknown, ⟨_, _, hother⟩, hfind⟩ := find?_of_knownEntries hfound hentry
    rw [hkey] at hother
    obtain ⟨-, -, rfl⟩ := Node.scalar.inj (Option.some.inj hother)
    exact ⟨rfl, hknown, hfind⟩

lemma eq_of_items {l : List Node} (h : Yields (Reader.items root depth node) (l, inner))
    (hseen : root.seen? node = some (.sequence items)) : depth = inner + 1 ∧ l = items := by
  rw [Reader.items] at h
  obtain ⟨m, hm, h⟩ := h.bind
  obtain rfl := Option.some.inj (hseen.symm.trans (Node.seen?_of_resolve hm))
  cases depth with
  | zero => exact absurd h (not_yields_throw _)
  | succ depth =>
    obtain ⟨rfl, rfl⟩ := Prod.mk.inj h.eq_of_pure
    exact ⟨rfl, rfl⟩

lemma yields_of_field {α : Type} {read : Reader α} {a : α}
    (h : Yields (field read root depth fs name) a)
    (hfind : fs.find? (·.1 = name) = some (name, value)) :
    Yields (read root depth value) a := by
  rw [field, hfind] at h
  exact h

lemma yields_of_field? {α : Type} {read : Reader α} {a : Option α}
    (h : Yields (field? read root depth fs name) a)
    (hfind : fs.find? (·.1 = name) = some (name, value)) :
    ∃ a, Yields (read root depth value) a := by
  rw [field?, hfind] at h
  obtain ⟨a, ha, -⟩ := h.bind
  exact ⟨a, ha⟩

end Reader

end Yaml

/-! ### The records of a menu file -/

open Yaml (Node Reader Reading)
open Yaml.Reading

namespace Draft

/-- Reads an entry, given how the entries below it are read: one step of `reader`. -/
def readerWith (below : List Node → Reading (List Draft)) : Reader Draft :=
  fun root depth node => do
  let (fields, inner) ← Reader.fields names true root depth node
  let key ← Reader.field Reader.string root inner fields "key"
  let label ← Settings.setting Reader.string root inner fields "label"
  let prompt ← Settings.setting Reader.string root inner fields "prompt"
  let path ← Settings.setting Reader.string root inner fields "path"
  let settings ← Reader.field? Settings.reader root inner fields "submission"
  let (items, _) ← match fields.find? (·.1 = "children") with
    | none => pure ([], 0)
    | some (_, node) => Reader.items root inner node
  return ⟨key, label, prompt, path, settings.getD {}, ← below items⟩

/-- How the entries below one are read: a list of entries takes two levels of nesting. -/
def readBelow (root : Node) : Nat → List Node → Reading (List Draft)
  | depth + 2 => fun items => items.mapM (reader root depth)
  | _ => fun _ => pure []

lemma reader_eq_readerWith (root node : Node) (depth : Nat) :
    reader root depth node = readerWith (readBelow root depth) root depth node := by
  match depth with
  | 0 => rfl
  | 1 => rfl
  | _ + 2 => rfl

/-- The steps of reading an entry that go below it. -/
lemma steps_of_reader {root node : Node} {depth : Nat} {draft : Draft}
    (h : Yields (Draft.reader root depth node) draft) :
    ∃ fs inner, Yields (Reader.fields names true root depth node) (fs, inner) ∧
      (∃ settings, Yields (Reader.field? Settings.reader root inner fs "submission") settings) ∧
      ∀ key value, fs.find? (·.1 = "children") = some (key, value) →
        ∃ items left children, Yields (Reader.items root inner value) (items, left) ∧
          Yields (readBelow root depth items) children := by
  rw [reader_eq_readerWith, readerWith] at h
  obtain ⟨⟨fs, inner⟩, hfields, h⟩ := h.bind
  obtain ⟨_, _, h⟩ := h.bind
  obtain ⟨_, _, h⟩ := h.bind
  obtain ⟨_, _, h⟩ := h.bind
  obtain ⟨_, _, h⟩ := h.bind
  obtain ⟨settings, hsettings, h⟩ := h.bind
  refine ⟨fs, inner, hfields, ⟨settings, hsettings⟩, fun key value hfind => ?_⟩
  rw [hfind] at h
  obtain ⟨⟨items, left⟩, hitems, h⟩ := h.bind
  obtain ⟨children, hchildren, -⟩ := h.bind
  exact ⟨items, left, children, hitems, hchildren⟩

end Draft

/-- The records whose fields are read strictly. -/
inductive Schema where
  | document
  | entry
  | settings

namespace Schema

def names : Schema → List String
  | document => MenuDraft.names
  | entry => Draft.names
  | settings => Settings.names

/-- Whether a node of a document is read as such a record. -/
def Reads (root node : Node) : Schema → Prop
  | document => ∃ depth m, Yields (MenuDraft.reader root depth node) m
  | entry => ∃ depth draft, Yields (Draft.reader root depth node) draft
  | settings => ∃ depth settings, Yields (Settings.reader root depth node) settings

variable {root node key value item : Node} {entries : List (Node × Node)} {items : List Node}
  {schema : Schema} {name : String} {tag : Option Yaml.Tag} {style : Yaml.Style}

lemma fields_of_reads (h : schema.Reads root node) :
    ∃ depth fs inner, Yields (Reader.fields schema.names true root depth node) (fs, inner) := by
  cases schema with
  | document =>
    obtain ⟨depth, m, h⟩ := h
    rw [MenuDraft.reader] at h
    obtain ⟨⟨fs, inner⟩, hfields, -⟩ := h.bind
    exact ⟨depth, fs, inner, hfields⟩
  | entry =>
    obtain ⟨depth, draft, h⟩ := h
    obtain ⟨fs, inner, hfields, -⟩ := Draft.steps_of_reader h
    exact ⟨depth, fs, inner, hfields⟩
  | settings =>
    obtain ⟨depth, settings, h⟩ := h
    rw [Settings.reader] at h
    obtain ⟨⟨fs, inner⟩, hfields, -⟩ := h.bind
    exact ⟨depth, fs, inner, hfields⟩

lemma mem_names_of_reads (h : schema.Reads root node)
    (hseen : root.seen? node = some (.mapping entries)) (hentry : (key, value) ∈ entries)
    (hkey : root.seen? key = some (.scalar tag style name)) : name ∈ schema.names := by
  obtain ⟨depth, fs, inner, hfields⟩ := fields_of_reads h
  exact (Reader.find?_of_fields hfields hseen hentry hkey).2.1

lemma reads_root (h : document.Reads root node)
    (hseen : root.seen? node = some (.mapping entries)) (hentry : (key, value) ∈ entries)
    (hkey : root.seen? key = some (.scalar tag style "root")) : entry.Reads root value := by
  obtain ⟨depth, m, h⟩ := h
  rw [MenuDraft.reader] at h
  obtain ⟨⟨fs, inner⟩, hfields, h⟩ := h.bind
  obtain ⟨-, -, hfind⟩ := Reader.find?_of_fields hfields hseen hentry hkey
  obtain ⟨_, _, h⟩ := h.bind
  obtain ⟨_, _, h⟩ := h.bind
  obtain ⟨_, _, h⟩ := h.bind
  obtain ⟨_, _, h⟩ := h.bind
  obtain ⟨draft, hdraft, -⟩ := h.bind
  exact ⟨inner, draft, Reader.yields_of_field hdraft hfind⟩

lemma reads_settings (h : entry.Reads root node)
    (hseen : root.seen? node = some (.mapping entries)) (hentry : (key, value) ∈ entries)
    (hkey : root.seen? key = some (.scalar tag style "submission")) :
    settings.Reads root value := by
  obtain ⟨depth, draft, h⟩ := h
  obtain ⟨fs, inner, hfields, ⟨_, hsettings⟩, -⟩ := Draft.steps_of_reader h
  obtain ⟨-, -, hfind⟩ := Reader.find?_of_fields hfields hseen hentry hkey
  obtain ⟨settings, hsettings⟩ := Reader.yields_of_field? hsettings hfind
  exact ⟨inner, settings, hsettings⟩

lemma reads_child (h : entry.Reads root node)
    (hseen : root.seen? node = some (.mapping entries)) (hentry : (key, value) ∈ entries)
    (hkey : root.seen? key = some (.scalar tag style "children"))
    (hvalue : root.seen? value = some (.sequence items)) (hitem : item ∈ items) :
    entry.Reads root item := by
  obtain ⟨depth, draft, h⟩ := h
  obtain ⟨fs, inner, hfields, -, hbelow⟩ := Draft.steps_of_reader h
  obtain ⟨rfl, -, hfind⟩ := Reader.find?_of_fields hfields hseen hentry hkey
  obtain ⟨seen, left, drafts, hitems, hdrafts⟩ := hbelow _ _ hfind
  obtain ⟨rfl, rfl⟩ := Reader.eq_of_items hitems hvalue
  rw [Draft.readBelow] at hdrafts
  obtain ⟨i, hi, rfl⟩ := List.mem_iff_getElem.mp hitem
  have hall := hdrafts.forall₂_mapM
  exact ⟨left, _, hall.get hi (hall.length_eq ▸ hi)⟩

end Schema

end CascadingForms
