import CascadingForms.Menu.Load
import CascadingForms.Proofs.Lineages
import CascadingForms.Proofs.Texts
import CascadingForms.Proofs.WrittenDrafts

/-!
# What a leaf takes over from its lineage

`Draft.entry` hands the settings and path segments collected so far down the document.
`Draft.descriptorAlong` says without such a state what a leaf comes to: each setting is the one of
the nearest draft on the lineage that gives it. This file proves that a menu read from a document
has its shape and, at every leaf, the descriptor along its lineage, where the drafts are those that
are written in the document.
-/

namespace CascadingForms

namespace Settings

/-- The settings that have been collected along some drafts, the last of which comes first. -/
def along (inherited : Settings) (drafts : List Draft) : Settings :=
  drafts.foldl (fun settings d => d.settings.completedBy settings) inherited

lemma distinct_eq_eraseDups (seen l : List String) :
    distinct seen l = (l.filter fun s => !seen.contains s).eraseDups := by
  induction l generalizing seen with
  | nil => rw [distinct, List.filter_nil, List.eraseDups_nil]
  | cons s rest ih =>
    rw [distinct]
    by_cases hs : seen.contains s
    · rw [if_pos hs, ih, List.filter_cons_of_neg (by simpa using hs)]
    · have hrest : rest.filter (fun t => !(s :: seen).contains t) =
          (rest.filter fun t => !seen.contains t).filter fun t => !t == s := by
        rw [List.filter_filter]
        congr 1
        funext t
        rw [List.contains_cons, Bool.not_or]
      rw [if_neg hs, ih, hrest, List.filter_cons_of_pos (by simpa using hs), List.eraseDups_cons]

lemma distinct_nil (l : List String) : distinct [] l = l.eraseDups := by
  have hall : ∀ s ∈ l, (!List.contains [] s) = true := fun s _ => rfl
  rw [distinct_eq_eraseDups, List.filter_eq_self.mpr hall]

end Settings

namespace Draft

/-- The value of a setting in the last of some drafts that gives it. -/
def nearest {α : Type} (setting : Settings → Option α) (drafts : List Draft) : Option α :=
  drafts.reverse.findSome? fun d => setting d.settings

/-- The descriptor of a leaf by the drafts from the root down to it. -/
def descriptorAlong (drafts : List Draft) : Descriptor where
  path := "/".intercalate
    (((drafts.filterMap path).map (Text.strip (· = '/'))).filter (· ≠ ""))
  collectsFiles := (nearest Settings.files drafts).getD true
  acceptedExtensions := ((nearest Settings.accept drafts).getD []).eraseDups
  allowsMultipleFiles := (nearest Settings.multipleFiles drafts).getD true
  requiresFunctionName := (nearest Settings.functionName drafts).getD false
  allowsMultipleExercises := (nearest Settings.multipleExercises drafts).getD false
  exercises := (nearest Settings.exercises drafts).getD []
  sourceLabel := nearest Settings.sourceLabel drafts

lemma nearest_cons {α : Type} (setting : Settings → Option α) (d : Draft) (drafts : List Draft) :
    nearest setting (d :: drafts) = (nearest setting drafts).or (setting d.settings) := by
  unfold nearest
  rw [List.reverse_cons, List.findSome?_append, List.findSome?_singleton]

/-- A setting that is completed on its own is, along any drafts, the nearest one given. -/
lemma setting_along {α : Type} {setting : Settings → Option α}
    (hsetting : ∀ own inherited,
      setting (own.completedBy inherited) = (setting own <|> setting inherited))
    (inherited : Settings) (drafts : List Draft) :
    setting (inherited.along drafts) = (nearest setting drafts).or (setting inherited) := by
  induction drafts generalizing inherited with
  | nil => rfl
  | cons d drafts ih =>
    have hrest := ih (d.settings.completedBy inherited)
    rw [hsetting, Option.orElse_eq_orElse, Option.orElse_eq_or, ← Option.or_assoc,
      ← nearest_cons] at hrest
    exact hrest

lemma setting_along_empty {α : Type} (setting : Settings → Option α) (hnone : setting {} = none)
    (hsetting : ∀ own inherited,
      setting (own.completedBy inherited) = (setting own <|> setting inherited))
    (drafts : List Draft) : setting (Settings.along {} drafts) = nearest setting drafts := by
  rw [setting_along hsetting, hnone, Option.or_none]

lemma joinPath_eq_intercalate (segments : List String) :
    joinPath segments =
      "/".intercalate ((segments.map (Text.strip (· = '/'))).filter (· ≠ "")) := by
  rw [joinPath, Text.join_eq_intercalate]
  congr 2
  funext s
  by_cases hs : s = "" <;> simp [hs]

theorem descriptor_along (drafts : List Draft) :
    (Settings.along {} drafts).descriptor (joinPath (drafts.filterMap path)) =
      descriptorAlong drafts := by
  unfold Settings.descriptor descriptorAlong
  rw [joinPath_eq_intercalate, Settings.distinct_nil,
    setting_along_empty Settings.files rfl (fun _ _ => rfl),
    setting_along_empty Settings.accept rfl (fun _ _ => rfl),
    setting_along_empty Settings.multipleFiles rfl (fun _ _ => rfl),
    setting_along_empty Settings.functionName rfl (fun _ _ => rfl),
    setting_along_empty Settings.multipleExercises rfl (fun _ _ => rfl),
    setting_along_empty Settings.exercises rfl (fun _ _ => rfl),
    setting_along_empty Settings.sourceLabel rfl (fun _ _ => rfl)]

/-! ### From the root down -/

lemma entries_eq_map (inherited : Settings) (segments : List String) (children : List Draft) :
    entries inherited segments children = children.map (entry inherited segments) := by
  induction children with
  | nil => rw [entries, List.map_nil]
  | cons child children ih => rw [entries, ih, List.map_cons]

lemma children_entry (inherited : Settings) (segments : List String) (d : Draft) :
    (d.entry inherited segments).children =
      d.children.map (entry (d.settings.completedBy inherited) (segments ++ d.path.toList)) := by
  rcases d with ⟨key, label, prompt, path, settings, children⟩
  rw [entry]
  exact entries_eq_map _ _ _

lemma filterMap_path_cons (d : Draft) (drafts : List Draft) :
    (d :: drafts).filterMap path = d.path.toList ++ drafts.filterMap path := by
  rw [List.filterMap_cons]
  cases d.path <;> rfl

/-- The entry at a place stands for the draft at this place, below what the drafts above it give. -/
theorem node?_entry (inherited : Settings) (segments : List String) (d : Draft) (place : List Nat) :
    node? Entry.children (d.entry inherited segments) place =
      (lineage? Draft.children d place).map fun (above, n) =>
        n.entry (inherited.along above) (segments ++ above.filterMap path) := by
  unfold node?
  -- Each step down hands on more settings and segments, so both are general here.
  induction place generalizing d inherited segments with
  | nil => simp [lineage?, Settings.along]
  | cons i place ih =>
    rw [lineage?, lineage?, children_entry, List.getElem?_map]
    cases hc : d.children[i]? with
    | none => rfl
    | some child =>
      have hrest := ih (d.settings.completedBy inherited) (segments ++ d.path.toList) child
      simp only [Option.map_some, Option.map_map] at hrest ⊢
      refine hrest.trans (congrArg (Option.map · _) ?_)
      funext found
      rcases found with ⟨above, n⟩
      rw [List.append_assoc, ← filterMap_path_cons]
      rfl

/-- What is built from a draft below some others. -/
structure StandsFor (above : List Draft) (d : Draft) (e : Entry) : Prop where
  key : e.key = d.key
  label : e.label = d.label.getD d.key
  prompt : e.prompt = d.prompt
  childKeys : e.childKeys = d.children.map Draft.key
  descriptor : e.descriptor =
    if d.children.isEmpty then some (descriptorAlong (above ++ [d])) else none

lemma key_entry (inherited : Settings) (segments : List String) (d : Draft) :
    (d.entry inherited segments).key = d.key := by
  rcases d with ⟨key, label, prompt, path, settings, children⟩
  rw [entry]

/-- A draft becomes an entry with what the drafts above it have collected. -/
theorem standsFor_entry (above : List Draft) (d : Draft) :
    StandsFor above d (d.entry (Settings.along {} above) (above.filterMap path)) where
  key := key_entry _ _ d
  label := by
    rcases d with ⟨key, label, prompt, path, settings, children⟩
    rw [entry]
  prompt := by
    rcases d with ⟨key, label, prompt, path, settings, children⟩
    rw [entry]
  childKeys := by
    rw [Entry.childKeys, children_entry, List.map_map]
    exact List.map_congr_left fun child _ => key_entry _ _ child
  descriptor := by
    have hsettings : d.settings.completedBy (Settings.along {} above) =
        Settings.along {} (above ++ [d]) := by
      simp [Settings.along]
    have hsegments : above.filterMap path ++ d.path.toList = (above ++ [d]).filterMap path := by
      rw [List.filterMap_append, filterMap_path_cons, List.filterMap_nil, List.append_nil]
    rw [← descriptor_along, ← hsettings, ← hsegments]
    rcases d with ⟨key, label, prompt, path, settings, children⟩
    rw [entry]

/-- What an entry hands down to the leaves at and below it. -/
def given (d : Draft) : Settings × Option String := (d.settings, d.path)

lemma descriptorAlong_congr {drafts drafts' : List Draft}
    (h : drafts.map given = drafts'.map given) :
    descriptorAlong drafts = descriptorAlong drafts' := by
  have hnearest {α : Type} (setting : Settings → Option α) (l : List Draft) :
      nearest setting l = (l.map given).reverse.findSome? fun g => setting g.1 := by
    rw [nearest, ← List.map_reverse, List.findSome?_map]
    rfl
  have hpath (l : List Draft) : l.filterMap path = (l.map given).filterMap Prod.snd := by
    rw [List.filterMap_map]
    rfl
  unfold descriptorAlong
  simp only [hnearest, hpath, h]

end Draft

/-- A menu with the shape of its document, in which every entry stands for the draft at its place. -/
structure MenuDraft.StandsFor (d : MenuDraft) (m : Menu) : Prop where
  name : m.name = d.name
  role : m.role = d.role
  locale : m.locale = d.locale
  labels : m.labels = d.labels
  shape : ∀ place, (node? Entry.children m.root place).isSome =
    (lineage? Draft.children d.root place).isSome
  entry : ∀ place above n, lineage? Draft.children d.root place = some (above, n) →
    ∃ e, node? Entry.children m.root place = some e ∧ Draft.StandsFor above n e

namespace Menu

lemma node?_menu (d : MenuDraft) (place : List Nat) :
    node? Entry.children d.menu.root place =
      (lineage? Draft.children d.root place).map fun (above, n) =>
        n.entry (Settings.along {} above) (above.filterMap Draft.path) := by
  have hnode := Draft.node?_entry {} [] d.root place
  simp only [List.nil_append] at hnode
  exact hnode

theorem standsFor_menu (d : MenuDraft) : d.StandsFor d.menu where
  name := rfl
  role := rfl
  locale := rfl
  labels := rfl
  shape := by
    intro place
    rw [node?_menu, Option.isSome_map]
  entry := by
    intro place above n h
    refine ⟨_, ?_, Draft.standsFor_entry above n⟩
    rw [node?_menu, h, Option.map_some]

/-- A text is refused with the cause of its reader, or it is a document in which these drafts are
written and no others. It is read as a menu of the same shape in which every leaf takes over each
setting from the nearest draft on its lineage that gives it, and the segments of its path from all
of them. What is given off the lineage of a leaf does not matter: leaves of any two documents with
the same settings and segments on their lineages have the same descriptor. -/
theorem parse_inherits_along_lineages (text origin : String) :
    match MenuDraft.reader.ofText text with
    | .error cause => parse text origin = .error (.malformed origin cause)
    | .ok d =>
      (∃ root, Yaml.Node.ofText text = .ok root ∧ ∀ d' : MenuDraft, d'.IsWritten root ↔ d' = d) ∧
        parse text origin = .ok d.menu ∧ d.StandsFor d.menu ∧
        ∀ (d' : MenuDraft) (place place' : List Nat) (above above' : List Draft) (n n' : Draft),
          lineage? Draft.children d.root place = some (above, n) → n.children = [] →
          lineage? Draft.children d'.root place' = some (above', n') → n'.children = [] →
          (above ++ [n]).map Draft.given = (above' ++ [n']).map Draft.given →
            (node? Entry.children d.menu.root place).map Entry.descriptor =
              (node? Entry.children d'.menu.root place').map Entry.descriptor := by
  cases h : MenuDraft.reader.ofText text with
  | error cause => simp only [parse, h]
  | ok d =>
    refine ⟨MenuDraft.isWritten_iff_of_ofText h, by simp only [parse, h], standsFor_menu d, ?_⟩
    intro d' place place' above above' n n' hn hleaf hn' hleaf' hgiven
    obtain ⟨e, he, hstands⟩ := (standsFor_menu d).entry place above n hn
    obtain ⟨e', he', hstands'⟩ := (standsFor_menu d').entry place' above' n' hn'
    have hsame := Draft.descriptorAlong_congr hgiven
    rw [he, he', Option.map_some, Option.map_some, hstands.descriptor, hstands'.descriptor, hsame,
      hleaf, hleaf']

-- The settings of the first leaf do not reach the second, which takes over those of the root.
example :
    (Draft.entry {} [] ⟨"C", none, some "c", some "/c/",
        { files := some false, accept := some [".c", ".h", ".c"] },
        [⟨"A", none, none, some "a", { files := some true, accept := some [] }, []⟩,
          ⟨"B", none, none, some "//b", {}, []⟩]⟩).children.map Entry.descriptor =
      [some ⟨"c/a", true, [], true, false, false, [], none⟩,
        some ⟨"c/b", false, [".c", ".h"], true, false, false, [], none⟩] := by
  decide +kernel

end Menu

end CascadingForms
