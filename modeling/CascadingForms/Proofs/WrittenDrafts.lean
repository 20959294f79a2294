import CascadingForms.Proofs.WrittenValues

/-!
# Drafts in a document

`IsWritten` says of each record of a menu file that it stands at a node: every field has the value
that the node gives under the name of the field, and the children of an entry are the items under
theirs, in their order. This file proves, reader by reader, that whatever is read is written where
it is read, and that no two drafts are written at one node. So a menu file that can be read says
one thing only.
-/

namespace CascadingForms

open Yaml (Node Reader Reading)
open Yaml.Reading

variable {root node : Node} {depth : Nat}

structure Choice.IsWritten (root node : Node) (c : Choice) : Prop where
  key : root.Has node "key" root.IsText c.key
  label : root.Has node "label" root.IsText c.label

structure Labels.IsWritten (root node : Node) (labels : Labels) : Prop where
  submit : root.Has node "submit" root.IsText labels.submit
  sourceFiles : root.Has node "source_files" root.IsText labels.sourceFiles
  functionName : root.Has node "function_name" root.IsText labels.functionName

structure Settings.IsWritten (root node : Node) (s : Settings) : Prop where
  files : root.Gives node "files" root.IsBool s.files
  accept : root.Gives node "accept" (root.IsList root.IsText) s.accept
  multipleFiles : root.Gives node "multiple_files" root.IsBool s.multipleFiles
  functionName : root.Gives node "function_name" root.IsBool s.functionName
  multipleExercises : root.Gives node "multiple_exercises" root.IsBool s.multipleExercises
  exercises : root.Gives node "exercises" (root.IsList (Choice.IsWritten root)) s.exercises
  sourceLabel : root.Gives node "source_label" root.IsText s.sourceLabel

/-- Whether settings are those that an entry gives in a block, or none without a block. -/
def Settings.IsGiven (root node : Node) (s : Settings) : Prop :=
  match root.field? node "submission" with
  | none => s = {}
  | some block => Settings.IsWritten root block s

/-- Whether an entry is written at a node, with everything below it. -/
inductive Draft.IsWritten (root : Node) : Node → Draft → Prop
  | intro {node : Node} {d : Draft} {items : List Node}
    (key : root.Has node "key" root.IsText d.key)
    (label : root.Gives node "label" root.IsText d.label)
    (prompt : root.Gives node "prompt" root.IsText d.prompt)
    (path : root.Gives node "path" root.IsText d.path)
    (settings : Settings.IsGiven root node d.settings)
    (listed : root.itemsUnder? node "children" = some items)
    (children : List.Forall₂ (Draft.IsWritten root) items d.children) :
    Draft.IsWritten root node d

/-- Whether a menu is what a document says. -/
structure MenuDraft.IsWritten (root : Node) (d : MenuDraft) : Prop where
  name : root.Has root "name" root.IsText d.name
  role : root.Has root "role" (fun value role => root.IsName value role.name) d.role
  locale : root.Has root "locale" (fun value locale => root.IsName value locale.name) d.locale
  labels : root.Has root "labels" (Labels.IsWritten root) d.labels
  root : root.Has root "root" (Draft.IsWritten root) d.root

/-! ### One draft at one node -/

lemma Choice.rightUnique_isWritten (root : Node) :
    Relator.RightUnique (Choice.IsWritten root) := by
  rintro node ⟨key, label⟩ ⟨key', label'⟩ h h'
  obtain rfl := h.key.unique root.rightUnique_isText h'.key
  obtain rfl := h.label.unique root.rightUnique_isText h'.label
  rfl

lemma Labels.rightUnique_isWritten (root : Node) :
    Relator.RightUnique (Labels.IsWritten root) := by
  rintro node ⟨submit, sourceFiles, functionName⟩ ⟨submit', sourceFiles', functionName'⟩ h h'
  obtain rfl := h.submit.unique root.rightUnique_isText h'.submit
  obtain rfl := h.sourceFiles.unique root.rightUnique_isText h'.sourceFiles
  obtain rfl := h.functionName.unique root.rightUnique_isText h'.functionName
  rfl

lemma Settings.rightUnique_isWritten (root : Node) :
    Relator.RightUnique (Settings.IsWritten root) := by
  intro node s s' h h'
  have htexts := Node.rightUnique_isList root.rightUnique_isText root
  have hchoices := Node.rightUnique_isList (Choice.rightUnique_isWritten root) root
  obtain ⟨files, accept, multipleFiles, functionName, multipleExercises, exercises,
    sourceLabel⟩ := s
  obtain rfl := h.files.unique root.rightUnique_isBool h'.files
  obtain rfl := h.accept.unique htexts h'.accept
  obtain rfl := h.multipleFiles.unique root.rightUnique_isBool h'.multipleFiles
  obtain rfl := h.functionName.unique root.rightUnique_isBool h'.functionName
  obtain rfl := h.multipleExercises.unique root.rightUnique_isBool h'.multipleExercises
  obtain rfl := h.exercises.unique hchoices h'.exercises
  obtain rfl := h.sourceLabel.unique root.rightUnique_isText h'.sourceLabel
  rfl

lemma Settings.rightUnique_isGiven (root : Node) :
    Relator.RightUnique (Settings.IsGiven root) := by
  intro node s s' h h'
  rw [IsGiven] at h h'
  cases hblock : root.field? node "submission" with
  | none =>
    rw [hblock] at h h'
    exact h.trans h'.symm
  | some block =>
    rw [hblock] at h h'
    exact Settings.rightUnique_isWritten root h h'

mutual

lemma Draft.eq_of_isWritten : ∀ (d : Draft) {d' : Draft} {node : Node},
    Draft.IsWritten root node d → Draft.IsWritten root node d' → d = d'
  | ⟨key, label, prompt, path, settings, children⟩, ⟨key', label', prompt', path', settings',
      children'⟩, node, .intro hkey hlabel hprompt hpath hsettings hlisted hchildren,
      .intro hkey' hlabel' hprompt' hpath' hsettings' hlisted' hchildren' => by
    obtain rfl := hkey.unique root.rightUnique_isText hkey'
    obtain rfl := hlabel.unique root.rightUnique_isText hlabel'
    obtain rfl := hprompt.unique root.rightUnique_isText hprompt'
    obtain rfl := hpath.unique root.rightUnique_isText hpath'
    obtain rfl := Settings.rightUnique_isGiven root hsettings hsettings'
    obtain rfl := Option.some.inj (hlisted.symm.trans hlisted')
    obtain rfl := Draft.eq_of_areWritten children hchildren hchildren'
    rfl

lemma Draft.eq_of_areWritten : ∀ (children : List Draft) {children' : List Draft}
    {items : List Node}, List.Forall₂ (Draft.IsWritten root) items children →
      List.Forall₂ (Draft.IsWritten root) items children' → children = children'
  | [], _, _, .nil, .nil => rfl
  | child :: children, _, _, .cons hchild hchildren, .cons hchild' hchildren' => by
    rw [Draft.eq_of_isWritten child hchild hchild',
      Draft.eq_of_areWritten children hchildren hchildren']

end

lemma Draft.rightUnique_isWritten (root : Node) : Relator.RightUnique (Draft.IsWritten root) :=
  fun _ d _ h h' => Draft.eq_of_isWritten d h h'

lemma Role.name_injective : Function.Injective Role.name := by
  rintro ⟨⟩ ⟨⟩ h <;> first | rfl | exact absurd h (by decide)

lemma Locale.name_injective : Function.Injective Locale.name := by
  rintro ⟨⟩ ⟨⟩ h <;> first | rfl | exact absurd h (by decide)

lemma MenuDraft.eq_of_isWritten {d d' : MenuDraft} (h : d.IsWritten root)
    (h' : d'.IsWritten root) : d = d' := by
  obtain ⟨name, role, locale, labels, draft⟩ := d
  obtain rfl := h.name.unique root.rightUnique_isText h'.name
  obtain rfl := h.role.unique
    (Node.rightUnique_isName_of_injective Role.name_injective root) h'.role
  obtain rfl := h.locale.unique
    (Node.rightUnique_isName_of_injective Locale.name_injective root) h'.locale
  obtain rfl := h.labels.unique (Labels.rightUnique_isWritten root) h'.labels
  obtain rfl := h.root.unique (Draft.rightUnique_isWritten root) h'.root
  rfl

/-! ### Reader by reader -/

lemma Choice.isWritten_of_reader {c : Choice} (h : Yields (Choice.reader root depth node) c) :
    Choice.IsWritten root node c := by
  rw [Choice.reader] at h
  obtain ⟨⟨fs, inner⟩, hfields, h⟩ := h.bind
  obtain ⟨key, hkey, h⟩ := h.bind
  obtain ⟨label, hlabel, h⟩ := h.bind
  obtain rfl := h.eq_of_pure
  exact ⟨Reader.has_of_field hfields (by simp) hkey fun _ _ => Reader.isText_of_string,
    Reader.has_of_field hfields (by simp) hlabel fun _ _ => Reader.isText_of_string⟩

lemma Labels.isWritten_of_reader {labels : Labels}
    (h : Yields (Labels.reader root depth node) labels) : Labels.IsWritten root node labels := by
  rw [Labels.reader] at h
  obtain ⟨⟨fs, inner⟩, hfields, h⟩ := h.bind
  obtain ⟨submit, hsubmit, h⟩ := h.bind
  obtain ⟨sourceFiles, hsourceFiles, h⟩ := h.bind
  obtain ⟨functionName, hfunctionName, h⟩ := h.bind
  obtain rfl := h.eq_of_pure
  exact ⟨Reader.has_of_field hfields (by simp) hsubmit fun _ _ => Reader.isText_of_string,
    Reader.has_of_field hfields (by simp) hsourceFiles fun _ _ => Reader.isText_of_string,
    Reader.has_of_field hfields (by simp) hfunctionName fun _ _ => Reader.isText_of_string⟩

lemma Settings.isWritten_of_reader {s : Settings} (h : Yields (Settings.reader root depth node) s) :
    Settings.IsWritten root node s := by
  rw [Settings.reader] at h
  obtain ⟨⟨fs, inner⟩, hfields, h⟩ := h.bind
  obtain ⟨files, hfiles, h⟩ := h.bind
  obtain ⟨accept, haccept, h⟩ := h.bind
  obtain ⟨multipleFiles, hmultipleFiles, h⟩ := h.bind
  obtain ⟨functionName, hfunctionName, h⟩ := h.bind
  obtain ⟨multipleExercises, hmultipleExercises, h⟩ := h.bind
  obtain ⟨exercises, hexercises, h⟩ := h.bind
  obtain ⟨sourceLabel, hsourceLabel, h⟩ := h.bind
  obtain rfl := h.eq_of_pure
  have htexts : ∀ value texts, Yields (Reader.list Reader.string root inner value) texts →
      root.IsList root.IsText value texts := fun _ _ h =>
    Reader.isList_of_list h fun _ _ _ => Reader.isText_of_string
  have hchoices : ∀ value choices, Yields (Reader.list Choice.reader root inner value) choices →
      root.IsList (Choice.IsWritten root) value choices := fun _ _ h =>
    Reader.isList_of_list h fun _ _ _ => Choice.isWritten_of_reader
  exact {
    files := Reader.gives_of_setting hfields (by simp [names]) hfiles
      fun _ _ => Reader.isBool_of_bool
    accept := Reader.gives_of_setting hfields (by simp [names]) haccept htexts
    multipleFiles := Reader.gives_of_setting hfields (by simp [names]) hmultipleFiles
      fun _ _ => Reader.isBool_of_bool
    functionName := Reader.gives_of_setting hfields (by simp [names]) hfunctionName
      fun _ _ => Reader.isBool_of_bool
    multipleExercises := Reader.gives_of_setting hfields (by simp [names]) hmultipleExercises
      fun _ _ => Reader.isBool_of_bool
    exercises := Reader.gives_of_setting hfields (by simp [names]) hexercises hchoices
    sourceLabel := Reader.gives_of_setting hfields (by simp [names]) hsourceLabel
      fun _ _ => Reader.isText_of_string }

lemma Settings.isGiven_of_field? {known : List String} {strict : Bool} {inner : Nat}
    {fs : List (String × Node)} {settings : Option Settings}
    (hfields : Yields (Reader.fields known strict root depth node) (fs, inner))
    (hname : "submission" ∈ known)
    (h : Yields (Reader.field? Settings.reader root inner fs "submission") settings) :
    Settings.IsGiven root node (settings.getD {}) := by
  rw [Reader.field?, Reader.find?_eq_field? hfields hname] at h
  rw [IsGiven]
  cases hblock : root.field? node "submission" with
  | none =>
    rw [hblock] at h
    obtain rfl := h.eq_of_pure
    rfl
  | some block =>
    rw [hblock] at h
    obtain ⟨own, hown, h⟩ := h.bind
    obtain rfl := h.eq_of_pure
    exact Settings.isWritten_of_reader hown

namespace Draft

lemma forall₂_of_readBelow {items : List Node} {children : List Draft}
    (h : Yields (readBelow root depth items) children) (hitems : items = [] ∨ 2 ≤ depth)
    (hread : ∀ d < depth, ∀ node child, Yields (reader root d node) child →
      IsWritten root node child) :
    List.Forall₂ (IsWritten root) items children := by
  match depth with
  | d + 2 => exact h.forall₂_mapM.imp (hread d (by omega))
  | 0 | 1 =>
    -- Here no children are looked for, and there are none.
    obtain rfl := hitems.resolve_right (by omega)
    obtain rfl := h.eq_of_pure
    exact .nil

/-- An entry that is read is written where it is read, if all entries below it are. -/
lemma isWritten_of_readerWith {below : List Node → Reading (List Draft)} {d : Draft}
    (h : Yields (readerWith below root depth node) d)
    (hbelow : ∀ items children, Yields (below items) children → items = [] ∨ 2 ≤ depth →
      List.Forall₂ (IsWritten root) items children) : IsWritten root node d := by
  rw [readerWith] at h
  obtain ⟨⟨fs, inner⟩, hfields, h⟩ := h.bind
  obtain ⟨key, hkey, h⟩ := h.bind
  obtain ⟨label, hlabel, h⟩ := h.bind
  obtain ⟨prompt, hprompt, h⟩ := h.bind
  obtain ⟨path, hpath, h⟩ := h.bind
  obtain ⟨settings, hsettings, h⟩ := h.bind
  have htext : ∀ value text, Yields (Reader.string root inner value) text →
      root.IsText value text := fun _ _ => Reader.isText_of_string
  -- The key has been read, so the node is a mapping and takes one level of nesting.
  have hdepth : depth = inner + 1 := by
    refine (Reader.depth_of_fields hfields).resolve_left ?_
    rintro rfl
    exact not_yields_throw _ hkey
  obtain ⟨items, children, hlisted, hdeep, hchildren, rfl⟩ : ∃ items children,
      root.itemsUnder? node "children" = some items ∧ (items = [] ∨ 2 ≤ depth) ∧
        Yields (below items) children ∧
        ⟨key, label, prompt, path, settings.getD {}, children⟩ = d := by
    rw [Reader.find?_eq_field? hfields (by simp [names])] at h
    rw [Node.itemsUnder?]
    cases hlist : root.field? node "children" with
    | none =>
      rw [hlist] at h
      obtain ⟨_, hnone, h⟩ := h.bind
      obtain rfl := hnone.eq_of_pure
      obtain ⟨children, hchildren, h⟩ := h.bind
      exact ⟨[], children, rfl, .inl rfl, hchildren, h.eq_of_pure⟩
    | some list =>
      rw [hlist] at h
      obtain ⟨⟨items, left⟩, hitems, h⟩ := h.bind
      obtain ⟨children, hchildren, h⟩ := h.bind
      obtain ⟨hitems, hinner⟩ := Reader.items?_of_items hitems
      exact ⟨items, children, hitems, hinner.imp_right fun h => by omega, hchildren, h.eq_of_pure⟩
  exact .intro (Reader.has_of_field hfields (by simp [names]) hkey htext)
    (Reader.gives_of_setting hfields (by simp [names]) hlabel htext)
    (Reader.gives_of_setting hfields (by simp [names]) hprompt htext)
    (Reader.gives_of_setting hfields (by simp [names]) hpath htext)
    (Settings.isGiven_of_field? hfields (by simp [names]) hsettings) hlisted
    (hbelow items children hchildren hdeep)

/-- An entry that is read is written where it is read, with everything below it. -/
theorem isWritten_of_reader {d : Draft} (h : Yields (reader root depth node) d) :
    IsWritten root node d := by
  induction depth using Nat.strongRecOn generalizing node d with
  | _ depth ih =>
    rw [reader_eq_readerWith] at h
    refine isWritten_of_readerWith h fun items children hchildren hitems => ?_
    exact forall₂_of_readBelow hchildren hitems fun d hd _ _ => ih d hd

end Draft

namespace MenuDraft

/-- A menu that is read from a document is what the document says. -/
theorem isWritten_of_reader {d : MenuDraft} (h : Yields (reader root depth root) d) :
    d.IsWritten root := by
  rw [reader] at h
  obtain ⟨⟨fs, inner⟩, hfields, h⟩ := h.bind
  obtain ⟨name, hname, h⟩ := h.bind
  obtain ⟨role, hrole, h⟩ := h.bind
  obtain ⟨locale, hlocale, h⟩ := h.bind
  obtain ⟨labels, hlabels, h⟩ := h.bind
  obtain ⟨draft, hdraft, h⟩ := h.bind
  obtain rfl := h.eq_of_pure
  exact {
    name := Reader.has_of_field hfields (by simp [names]) hname fun _ _ => Reader.isText_of_string
    role := Reader.has_of_field hfields (by simp [names]) hrole
      fun _ _ => Reader.isName_of_oneOf
    locale := Reader.has_of_field hfields (by simp [names]) hlocale
      fun _ _ => Reader.isName_of_oneOf
    labels := Reader.has_of_field hfields (by simp [names]) hlabels
      fun _ _ => Labels.isWritten_of_reader
    root := Reader.has_of_field hfields (by simp [names]) hdraft
      fun _ _ => Draft.isWritten_of_reader }

/-- A text that is read as a menu is one document, which says this menu and no other. -/
theorem isWritten_iff_of_ofText {text : String} {d : MenuDraft} (h : reader.ofText text = .ok d) :
    ∃ root, Node.ofText text = .ok root ∧ ∀ d' : MenuDraft, d'.IsWritten root ↔ d' = d := by
  rw [Reader.ofText] at h
  cases hroot : Node.ofText text with
  | error e =>
    rw [hroot] at h
    cases h
  | ok root =>
    rw [hroot] at h
    have hwritten := isWritten_of_reader (yields_of_run' h)
    refine ⟨root, rfl, fun d' => ⟨fun h' => eq_of_isWritten h' hwritten, ?_⟩⟩
    rintro rfl
    exact hwritten

end MenuDraft

end CascadingForms
