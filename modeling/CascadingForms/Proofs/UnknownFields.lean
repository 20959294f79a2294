import CascadingForms.Proofs.AddedEntries
import CascadingForms.Proofs.CheckedMenus
import CascadingForms.Proofs.StrictReading

/-!
# Unknown fields

Menus, entries and blocks of settings are read strictly wherever they lie, so a text is refused if
one of them has a key that is not the name of a field. Where they lie is said by `Schema.LiesAt`,
which goes down from the document and follows aliases.

One more entry in such a mapping leaves it where it is, unless a node in the entry takes over the
anchor through which the mapping was read. Then nothing reads the mapping any more, and what is
misspelt in it goes unnoticed.
-/

namespace CascadingForms

open Yaml (Node Reader)
open Yaml.Reading

/-! ### What readers see at a place -/

namespace Yaml.Node

variable {root n m : Node} {p : List Nat} {entries : List (Node × Node)} {name : String}

lemma seen?_strip (root n : Node) : root.seen? n.strip = root.seen? n := by
  rw [seen?, strip_strip, seen?]

lemma seen?_of_at? (h : root.at? p = some n) :
    root.seen? n = (root.standing? p).bind root.at? := by
  rw [seen?, strip_of_at? h, standing?, shapeAt?_of_at? h]
  cases n with
  | reference anchor => exact target?_map_strip root anchor
  | scalar | sequence | mapping => exact h.symm
  | anchored anchor node => exact absurd (strip_of_at? h) (strip_ne_anchored _ anchor node)

lemma seen?_of_spelling? (hn : root.at? p = some n) (h : root.spelling? p = some name) :
    ∃ tag style, root.seen? n = some (.scalar tag style name) := by
  rw [spelling?] at h
  split at h
  · rename_i text hshape
    obtain rfl := Option.some.inj h
    obtain ⟨q, hq, hshape⟩ := Option.bind_eq_some_iff.mp hshape
    obtain ⟨m, hm, hshape⟩ := Option.map_eq_some_iff.mp hshape
    obtain ⟨tag, style, hscalar⟩ := eq_scalar_of_shape hshape
    rw [strip_of_at? hm] at hscalar
    refine ⟨tag, style, ?_⟩
    rw [seen?_of_at? hn, hq, Option.bind_some, hm, hscalar]
  · cases h

/-- The entry of a mapping whose key is at a place. -/
lemma exists_entry (hp : root.at? p = some (.mapping entries)) {i : Nat}
    (h : root.spelling? (p ++ [2 * i]) = some name) :
    ∃ key value, (key, value) ∈ entries ∧
      (∃ tag style, root.seen? key = some (.scalar tag style name)) ∧
      root.seen? value = (root.standing? (p ++ [2 * i + 1])).bind root.at? := by
  obtain ⟨hkeys, hvalues⟩ := getElem?_flatten entries i
  have hparts : ∀ j, root.at? (p ++ [j]) = (flatten entries)[j]?.map strip := by
    intro j
    rw [at?_concat, hp, Option.bind_some, parts]
  cases hentry : entries[i]? with
  | none =>
    have hnone : root.at? (p ++ [2 * i]) = none := by rw [hparts, hkeys, hentry]; rfl
    rw [spelling?, standing?, shapeAt?, hnone] at h
    cases h
  | some entry =>
    have hkey : root.at? (p ++ [2 * i]) = some entry.1.strip := by rw [hparts, hkeys, hentry]; rfl
    have hvalue : root.at? (p ++ [2 * i + 1]) = some entry.2.strip := by
      rw [hparts, hvalues, hentry]
      rfl
    refine ⟨entry.1, entry.2, List.mem_of_getElem? hentry, ?_, ?_⟩
    · obtain ⟨tag, style, hseen⟩ := seen?_of_spelling? hkey h
      rw [seen?_strip] at hseen
      exact ⟨tag, style, hseen⟩
    · rw [← seen?_of_at? hvalue, seen?_strip]

end Yaml.Node

lemma Menu.parse_of_document {text : String} {root : Node} (htext : Node.ofText text = .ok root)
    (origin : String) :
    Menu.parse text origin =
      match (MenuDraft.reader root Reader.maxDepth root).run' (100 * root.size) with
      | .ok draft => .ok draft.menu
      | .error cause => .error (.malformed origin cause) := by
  rw [Menu.parse, Reader.ofText, htext]
  rfl

namespace Schema

variable {root root' key value : Node} {schema : Schema} {place p q : List Nat}
  {index i : Nat} {name text origin : String}

/-- Whether a mapping has a field with a name, whose value stands at another place. -/
def FieldAt (root : Node) (p : List Nat) (name : String) (q : List Nat) : Prop :=
  root.shapeAt? p = some .mapping ∧
    ∃ i, root.spelling? (p ++ [2 * i]) = some name ∧ root.standing? (p ++ [2 * i + 1]) = some q

/-- Whether a record lies at a place of a document: the document itself, the entry at its root, the
entries that are the items of the children of another, and the settings of an entry. -/
inductive LiesAt (root : Node) : Schema → List Nat → Prop
  | document : LiesAt root document []
  | root {p q : List Nat} (h : LiesAt root document p) (hfield : FieldAt root p "root" q) :
    LiesAt root entry q
  | child {p q r : List Nat} {i : Nat} (h : LiesAt root entry p)
    (hfield : FieldAt root p "children" q) (hitems : root.shapeAt? q = some .sequence)
    (hitem : root.standing? (q ++ [i]) = some r) : LiesAt root entry r
  | settings {p q : List Nat} (h : LiesAt root entry p) (hfield : FieldAt root p "submission" q) :
    LiesAt root settings q

/-! ### Records are read strictly -/

/-- Whether a node is read as a record, and is seen as the mapping at a place if one lies there. -/
def IsReadAt (root : Node) (schema : Schema) (p : List Nat) : Prop :=
  ∃ node, schema.Reads root node ∧
    (root.shapeAt? p = some .mapping → root.seen? node = root.at? p)

lemma FieldAt.exists_entry (h : FieldAt root p name q) (hread : IsReadAt root schema p) :
    ∃ node entries key value tag style, schema.Reads root node ∧
      root.seen? node = some (.mapping entries) ∧ (key, value) ∈ entries ∧
      root.seen? key = some (.scalar tag style name) ∧ root.seen? value = root.at? q := by
  obtain ⟨hshape, i, hname, hstanding⟩ := h
  obtain ⟨node, hnode, hseen⟩ := hread
  obtain ⟨entries, hentries⟩ := Node.at?_of_shape_mapping hshape
  obtain ⟨key, value, hentry, ⟨tag, style, hkey⟩, hvalue⟩ := Node.exists_entry hentries hname
  rw [hstanding, Option.bind_some] at hvalue
  exact ⟨node, entries, key, value, tag, style, hnode, (hseen hshape).trans hentries, hentry, hkey,
    hvalue⟩

/-- Where a document is read, its records are: each is the value of a field that its parent reads. -/
lemma isReadAt_of_liesAt (hroot : document.Reads root root) (h : LiesAt root schema p) :
    IsReadAt root schema p := by
  induction h with
  | document =>
    refine ⟨root, hroot, fun hshape => ?_⟩
    obtain ⟨entries, hentries⟩ := Node.at?_of_shape_mapping hshape
    rw [Node.at?_nil] at hentries ⊢
    rw [Node.seen?, Option.some.inj hentries]
  | root _ hfield ih =>
    obtain ⟨node, entries, key, value, tag, style, hnode, hseen, hentry, hkey, hvalue⟩ :=
      hfield.exists_entry ih
    exact ⟨value, reads_root hnode hseen hentry hkey, fun _ => hvalue⟩
  | @child p q r i _ hfield hitems hitem ih =>
    obtain ⟨node, entries, key, value, tag, style, hnode, hseen, hentry, hkey, hvalue⟩ :=
      hfield.exists_entry ih
    obtain ⟨items, hq⟩ := Node.at?_of_shape_sequence hitems
    have hat : root.at? (q ++ [i]) = items[i]?.map Node.strip := by
      rw [Node.at?_concat, hq, Option.bind_some, Node.parts]
    cases hi : items[i]? with
    | none =>
      rw [Node.standing?, Node.shapeAt?, hat, hi] at hitem
      cases hitem
    | some item =>
      rw [hi, Option.map_some] at hat
      refine ⟨item, reads_child hnode hseen hentry hkey (hvalue.trans hq)
        (List.mem_of_getElem? hi), fun _ => ?_⟩
      rw [← Node.seen?_strip, Node.seen?_of_at? hat, hitem, Option.bind_some]
  | settings _ hfield ih =>
    obtain ⟨node, entries, key, value, tag, style, hnode, hseen, hentry, hkey, hvalue⟩ :=
      hfield.exists_entry ih
    exact ⟨value, reads_settings hnode hseen hentry hkey, fun _ => hvalue⟩

lemma mem_names_of_liesAt (hroot : document.Reads root root) (h : LiesAt root schema p)
    (hmapping : root.shapeAt? p = some .mapping)
    (hname : root.spelling? (p ++ [2 * i]) = some name) : name ∈ schema.names := by
  obtain ⟨node, hnode, hseen⟩ := isReadAt_of_liesAt hroot h
  obtain ⟨entries, hentries⟩ := Node.at?_of_shape_mapping hmapping
  obtain ⟨key, value, hentry, ⟨tag, style, hkey⟩, -⟩ := Node.exists_entry hentries hname
  exact mem_names_of_reads hnode ((hseen hmapping).trans hentries) hentry hkey

lemma reads_of_parse {m : Menu} (htext : Node.ofText text = .ok root)
    (h : Menu.parse text origin = .ok m) : document.Reads root root := by
  rw [Menu.parse_of_document htext] at h
  cases hread : (MenuDraft.reader root Reader.maxDepth root).run' (100 * root.size) with
  | ok draft => exact ⟨Reader.maxDepth, draft, yields_of_run' hread⟩
  | error cause =>
    rw [hread] at h
    cases h

/-! ### Records stay where they are -/

lemma FieldAt.moved (h : FieldAt root p name q)
    (hadded : Node.Added key value index place root root') (hkey : key.anchors = [])
    (hvalue : value.anchors = []) :
    FieldAt root' (Node.moved index place p) name (Node.moved index place q) := by
  obtain ⟨hshape, i, hname, hstanding⟩ := h
  obtain ⟨j, hmovedKey, hmovedValue⟩ := Node.exists_moved_entry index place p i
  refine ⟨by rw [hadded.shapeAt?_moved, hshape], j, ?_, ?_⟩
  · rw [← hmovedKey, hadded.spelling?_moved hkey hvalue, hname]
  · rw [← hmovedValue, hadded.standing?_moved hkey hvalue, hstanding, Option.map_some]

/-- Without anchors in the entry, every record lies where its mapping is moved. -/
lemma LiesAt.moved (h : LiesAt root schema p)
    (hadded : Node.Added key value index place root root') (hkey : key.anchors = [])
    (hvalue : value.anchors = []) :
    LiesAt root' schema (Node.moved index place p) := by
  induction h with
  | document =>
    have hnil : Node.moved index place [] = [] := by rw [Node.moved]
    rw [hnil]
    exact .document
  | root _ hfield ih => exact .root ih (hfield.moved hadded hkey hvalue)
  | @child p q r i _ hfield hitems hitem ih =>
    have hsequence : root'.shapeAt? (Node.moved index place q) = some .sequence := by
      rw [hadded.shapeAt?_moved, hitems]
    have hstanding := hadded.standing?_moved hkey hvalue (q ++ [i])
    rw [Node.moved_concat, hitem, Option.map_some] at hstanding
    exact .child ih (hfield.moved hadded hkey hvalue) hsequence hstanding
  | settings _ hfield ih => exact .settings ih (hfield.moved hadded hkey hvalue)

end Schema

namespace Menu

variable {text origin name : String} {root root' key value : Node} {schema : Schema}
  {place : List Nat} {index : Nat}

/-- A text is refused for its form, by parsing as well as by loading, under its origin. -/
def Refuses (text origin : String) : Prop :=
  ∃ cause, parse text origin = .error (.malformed origin cause) ∧
    (load text origin).value = .error (.malformed origin cause)

lemma refuses_of_unknown (htext : Node.ofText text = .ok root) (h : schema.LiesAt root place)
    (hmapping : root.shapeAt? place = some .mapping)
    (hname : root.spelling? (place ++ [2 * index]) = some name) (hunknown : name ∉ schema.names) :
    Refuses text origin := by
  cases hparse : parse text origin with
  | ok m =>
    have hroot := Schema.reads_of_parse htext hparse
    exact absurd (Schema.mem_names_of_liesAt hroot h hmapping hname) hunknown
  | error e =>
    obtain ⟨cause, rfl⟩ := parse_error hparse
    refine ⟨cause, hparse, ?_⟩
    rw [load_value, hparse]
    rfl

/-- A text is refused if a record of its document has a key that is not the name of a field. So it
is, whatever the document was before, if an entry with such a key has been added to a record, at any
of its places and with any value, unless there are anchors in the entry: these may make an alias
stand for another node, and the mapping is then no record of the new document. -/
theorem unknown_fields_refused (origin : String) :
    (∀ {text : String} {root : Node} {schema : Schema} {place : List Nat} {index : Nat}
      {name : String}, Node.ofText text = .ok root → schema.LiesAt root place →
      root.shapeAt? place = some .mapping → root.spelling? (place ++ [2 * index]) = some name →
      name ∉ schema.names → Refuses text origin) ∧
    ∀ {text : String} {root root' key value : Node} {schema : Schema} {place : List Nat}
      {index : Nat} {name : String}, Node.ofText text = .ok root' → schema.LiesAt root place →
      Node.Added key value index place root root' → key.anchors = [] → value.anchors = [] →
      root'.spelling? (place ++ [2 * index]) = some name → name ∉ schema.names →
      Refuses text origin := by
  refine ⟨refuses_of_unknown, ?_⟩
  intro text root root' key value schema place index name htext hlies hadded hkey hvalue hname
    hunknown
  have hmoved := hlies.moved hadded hkey hvalue
  rw [Node.moved_self] at hmoved
  exact refuses_of_unknown htext hmoved hadded.shapeAt?_place hname hunknown

end Menu

/-! ### A menu behind an alias -/

namespace AliasedSample

/-- A menu whose root entry is an alias for an example among the labels. More fields can be added to
the example behind its key. -/
def text (added : String) : String :=
  "\x7bname: N, role: student, locale: en, labels: \x7bsubmit: &a S, source_files: F, " ++
    "function_name: F, e: &a \x7bkey: K, " ++ added ++
    "prompt: P, children: [\x7bkey: L\x7d]\x7d\x7d, root: *a\x7d"

def plain (text : String) : Node := .scalar none .plain text

def header : List (Node × Node) :=
  [(plain "name", plain "N"), (plain "role", plain "student"), (plain "locale", plain "en")]

def texts : List (Node × Node) :=
  [(plain "submit", .anchored 0 (plain "S")), (plain "source_files", plain "F"),
    (plain "function_name", plain "F")]

def entry (key : String) (added : List (Node × Node)) : Node :=
  .mapping ([(plain "key", plain key)] ++ (added ++ [(plain "prompt", plain "P"),
    (plain "children", .sequence [.mapping [(plain "key", plain "L")]])]))

def document (added : List (Node × Node)) : Node :=
  .mapping (header ++ (plain "labels", .mapping (texts ++ [(plain "e",
    .anchored 1 (entry "K" added))])) :: [(plain "root", .reference 1)])

/-- An entry that is added to the example and takes over its anchor. -/
def takeover : String :=
  "promt: &a \x7bkey: J, prompt: P, children: [\x7bkey: L\x7d]\x7d, "

lemma added_document (key value : Node) :
    Node.Added key value 1 [7, 7] (document []) (document [(key, value)]) :=
  .value header _ _ (.value texts _ _ (.anchored 1 (.here (by rfl))))

lemma liesAt_document : Schema.entry.LiesAt (document []) [7, 7] :=
  .root .document ⟨by decide, 4, by decide, by decide⟩

lemma ofText_text : Node.ofText (text "") = .ok (document []) :=
  Node.ofText_eq_of_same (by decide +kernel)

/-- Whether a document is that of a menu without defects. -/
def isSound (root : Node) : Bool :=
  ((MenuDraft.reader root Reader.maxDepth root).run' (100 * root.size)).toOption.any
    fun draft => draft.menu.issues.isEmpty

lemma isOk_load_of_isSound {text : String} {root : Node} (htext : Node.ofText text = .ok root)
    (h : isSound root = true) (origin : String) : (Menu.load text origin).value.isOk = true := by
  have hparse := Menu.parse_of_document htext origin
  rw [isSound] at h
  cases hread : (MenuDraft.reader root Reader.maxDepth root).run' (100 * root.size) with
  | error cause =>
    rw [hread] at h
    cases h
  | ok draft =>
    rw [hread] at h hparse
    have hload := Menu.load_eq_ok_iff.mpr ⟨hparse, List.isEmpty_iff.mp h⟩
    rw [hload, isOk_ok]

end AliasedSample

namespace Menu

open AliasedSample

/-- The entry that an alias stands for is read strictly as well, and so is a document with anchors
behind its misspelt key. -/
theorem unknown_fields_refused_behind_alias :
    (load (text "") "inline").value.isOk = true ∧ Refuses (text "promt: P, ") "inline" ∧
      Refuses "nam: &a N" "inline" := by
  have hadded : Node.ofText (text "promt: P, ") = .ok (document [(plain "promt", plain "P")]) :=
    Node.ofText_eq_of_same (by decide +kernel)
  have hpromt : (document [(plain "promt", plain "P")]).spelling? ([7, 7] ++ [2 * 1]) =
      some "promt" := by decide
  have hsmall : Node.ofText "nam: &a N" =
      .ok (.mapping [(plain "nam", .anchored 0 (plain "N"))]) :=
    Node.ofText_eq_of_same (by decide +kernel)
  have hnam : (Node.mapping [(plain "nam", .anchored 0 (plain "N"))]).spelling? ([] ++ [2 * 0]) =
      some "nam" := by decide
  refine ⟨isOk_load_of_isSound ofText_text (by decide +kernel) _, ?_, ?_⟩
  · exact (unknown_fields_refused "inline").2 hadded liesAt_document
      (added_document (plain "promt") (plain "P")) rfl rfl hpromt (by decide)
  · exact (unknown_fields_refused "inline").1 hsmall .document rfl hnam (by decide)

/-- An entry that takes over the anchor of the mapping to which it is added hides a misspelling: the
alias now stands for the value of this entry. -/
theorem taken_anchor_hides_unknown_field :
    Node.ofText (text "") = .ok (document []) ∧ (load (text "") "inline").value.isOk = true ∧
      Schema.entry.LiesAt (document []) [7, 7] ∧
      Node.ofText (text takeover) = .ok (document [(plain "promt", .anchored 1 (entry "J" []))]) ∧
      Node.Added (plain "promt") (.anchored 1 (entry "J" [])) 1 [7, 7] (document [])
        (document [(plain "promt", .anchored 1 (entry "J" []))]) ∧
      "promt" ∉ Schema.entry.names ∧ (load (text takeover) "inline").value.isOk = true := by
  have htext : Node.ofText (text takeover) =
      .ok (document [(plain "promt", .anchored 1 (entry "J" []))]) :=
    Node.ofText_eq_of_same (by decide +kernel)
  have hbefore : isSound (document []) = true := by decide +kernel
  have hafter : isSound (document [(plain "promt", .anchored 1 (entry "J" []))]) = true := by
    decide +kernel
  exact ⟨ofText_text, isOk_load_of_isSound ofText_text hbefore _, liesAt_document, htext,
    added_document _ _, by decide, isOk_load_of_isSound htext hafter _⟩

end Menu

end CascadingForms
