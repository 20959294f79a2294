import CascadingForms.Proofs.PostedSelector
import CascadingForms.Proofs.PreviewRuns

/-!
# What comes of restoring

Between two sessions the menu of a remembered source may change, or be gone. If there is a menu to
open, whatever it is, the remembered selection is repeated as far as it leads in that menu, and the
message says where it stopped. If there is none, the preview keeps the source for another time, but
the selection has been taken out of it before: what is saved then, and what a later session
restores, is the same as if nothing had been selected.
-/

namespace CascadingForms

namespace Preview

variable {p : Preview} {source : MenuSource} {files : FileSystem} {m : Menu}

/-! ### Menus that have changed -/

/-- The second preview shows a menu with the remembered selection of the first as far as it leads
there, and says in its message where the selection leaves the menu, if it does. -/
structure ShowsRemembered (p : Preview) (m : Menu) (reached : List String) (q : Preview) : Prop where
  leadsUpTo : m.LeadsUpTo p.savedSelection reached
  screen : q.screen = .cascade
  source : q.source = p.source
  wrapsForm : q.wrapsForm = p.wrapsForm
  savedSelection : q.savedSelection = []
  currentSelection : q.currentSelection = reached
  /-- The selector is the one that a new selector becomes when the path is selected. -/
  selector : ∃ new, Selector.ofMenu m = .ok new ∧
    q.selector = some (new.selectPath reached).selector
  quiet : q.message = "" ↔ (m.entryAt? p.savedSelection).isSome
  stale : m.entryAt? p.savedSelection = none → ∃ e key, m.entryAt? reached = some e ∧
    p.savedSelection[reached.length]? = some key ∧
    q.message = "La selección guardada ya no es válida: " ++
      if e.isLeaf then
        "level " ++ toString reached.length ++ " shows the submission fields, not a dropdown"
      else "\x60" ++ key ++ "\x60 is not an option of \x60" ++ e.key ++ "\x60"

lemma showsRemembered_of_message (hm : m.issues = []) (hs : p.source = some source)
    {reached : List String} (hleads : m.LeadsUpTo p.savedSelection reached) {message : String}
    (hquiet : message = "" ↔ (m.entryAt? p.savedSelection).isSome)
    (hstale : m.entryAt? p.savedSelection = none → ∃ e key, m.entryAt? reached = some e ∧
      p.savedSelection[reached.length]? = some key ∧
      message = staleMessage (e.refusal reached.length key)) :
    ShowsRemembered p m reached { p.showing m source reached with message } where
  leadsUpTo := hleads
  screen := rfl
  source := hs.symm
  wrapsForm := rfl
  savedSelection := rfl
  currentSelection := rfl
  selector := by
    refine ⟨_, Selector.ofMenu_of_issues hm, ?_⟩
    rw [(Selector.selectPath_of_isSome (m.selectorAt none) hleads.leads).1]
    rfl
  quiet := hquiet
  stale := by
    intro hnone
    obtain ⟨e, key, he, hkey, hmessage⟩ := hstale hnone
    refine ⟨e, key, he, hkey, ?_⟩
    rw [hmessage]
    unfold staleMessage Entry.refusal
    cases e.isLeaf <;> simp [SelectionError.message]

/-- Whatever menu there is at the remembered source, restoring shows it with the remembered
selection as far as it leads. -/
theorem restore_shows_remembered (hs : p.source = some source)
    (hload : (source.load files).value = .ok m) :
    ∃ reached, ShowsRemembered p m reached (p.restore files).value := by
  have hm := MenuSource.issues_of_load hload
  have hleads := Menu.leadsUpTo_reach m p.savedSelection
  cases hentry : m.entryAt? p.savedSelection with
  | some e =>
    have hsome := Option.isSome_of_eq_some hentry
    have hall : m.root.reach p.savedSelection = p.savedSelection :=
      (Entry.reach_eq_self_iff m.root p.savedSelection).mpr hsome
    rw [hall] at hleads
    refine ⟨p.savedSelection, ?_⟩
    rw [restore_value hs hload hsome]
    refine showsRemembered_of_message hm hs hleads (iff_of_true rfl hsome) ?_
    intro hnone
    rw [hentry] at hnone
    cases hnone
  | none =>
    obtain ⟨e, key, he, hkey, hreplay⟩ :=
      replay_of_none { p with savedSelection := [] } source hentry
    refine ⟨m.root.reach p.savedSelection, ?_⟩
    rw [restore_of_source hs, Logged.value_bind, openSource_of_ok _ hload, hreplay]
    refine showsRemembered_of_message hm hs hleads ?_ ?_
    · rw [hentry]
      exact iff_of_false (staleMessage_ne_empty _) Bool.false_ne_true
    · exact fun _ => ⟨e, key, he, hkey, rfl⟩

/-- The first group of the sample has become a leaf since an exercise of it was selected. -/
theorem restore_shows_remembered_behind_leaf :
    ∃ p m, p = ofSaved ⟨some (.file "menu.yaml"), ["G1", "E1"], true, "old"⟩ ∧
      p.source = some (.file "menu.yaml") ∧
      ((MenuSource.file "menu.yaml").load sampleFiles).value = .ok m ∧
      (∃ reached, ShowsRemembered p m reached (p.restore sampleFiles).value) ∧
      (p.restore sampleFiles).value.currentSelection = ["G1"] ∧
      (p.restore sampleFiles).value.message = "La selección guardada ya no es válida: " ++
        "level 1 shows the submission fields, not a dropdown" := by
  obtain ⟨m, hload, -, hdescriptor, -, hgroup, -⟩ := exists_sample_menu
  obtain ⟨d, hd⟩ := Option.isSome_iff_exists.mp hgroup
  have hleaf : d.isLeaf = true := by
    rw [Selector.descriptor?_selectorAt hd] at hdescriptor
    by_contra hbranch
    rw [if_neg hbranch] at hdescriptor
    cases hdescriptor
  have hreach : m.root.reach ["G1", "E1"] = ["G1"] := Entry.reach_append_of_isLeaf hd hleaf ["E1"]
  refine ⟨_, m, rfl, rfl, hload, ?_⟩
  obtain ⟨reached, h⟩ := restore_shows_remembered
    (p := ofSaved ⟨some (.file "menu.yaml"), ["G1", "E1"], true, "old"⟩) rfl hload
  obtain rfl : reached = ["G1"] := h.leadsUpTo.eq_reach.trans hreach
  have hnone : m.entryAt? ["G1", "E1"] = none := by
    rw [← Option.not_isSome_iff_eq_none]
    intro hsome
    have hself := (Entry.reach_eq_self_iff m.root ["G1", "E1"]).mpr hsome
    rw [hreach] at hself
    exact absurd hself (by decide)
  obtain ⟨e, key, he, -, hmessage⟩ := h.stale hnone
  obtain rfl := Option.some.inj (hd.symm.trans he)
  rw [if_pos hleaf] at hmessage
  exact ⟨⟨_, h⟩, h.currentSelection, hmessage⟩

/-! ### Menus that cannot be opened -/

/-- Restoring fails as opening the source does, but the remembered selection has been taken out
before. -/
lemma restore_of_load_error (hs : p.source = some source) {e : LoadError}
    (hload : (source.load files).value = .error e) :
    (p.restore files).value =
      (({ p with savedSelection := [] } : Preview).fail
        ("No se pudo abrir " ++ source.origin ++ ": " ++ e.message)).value := by
  rw [restore_of_source hs, Logged.value_bind, openSource_of_error _ hload,
    replay_of_selector_none rfl]
  rfl

lemma ofStorage_save_of_nothing (hs : p.source = some source) (hnothing : p.currentSelection = [])
    (hload : (source.load files).value = .ok m) :
    (ofStorage files (some p.save.2)).value = p.showing m source [] := by
  have hsource : (ofSaved p.save.2).source = some source := hs
  have hsaved : (ofSaved p.save.2).savedSelection = [] := hnothing
  have hroot : (m.entryAt? (ofSaved p.save.2).savedSelection).isSome := by
    rw [hsaved, Menu.entryAt?_nil]
    rfl
  rw [ofStorage, Option.getD_some, restore_value hsource hload hroot, hsaved]
  rfl

/-- The second preview is left of the first one when its menu cannot be opened. It has the source
and no selection, and neither has what is saved of it. -/
structure LosesSelection (p : Preview) (source : MenuSource) (e : LoadError) (q : Preview) :
    Prop where
  screen : q.screen = .deployments
  selector : q.selector = none
  message : q.message = "No se pudo abrir " ++ source.origin ++ ": " ++ e.message
  keepsSource : q.source = p.source
  keepsWrapsForm : q.wrapsForm = p.wrapsForm
  currentSelection : q.currentSelection = []
  saved : q.save.2 = ⟨p.source, [], p.wrapsForm, q.message⟩
  /-- The remembered selection is as it was only where there is none. -/
  kept_iff : q.savedSelection = p.savedSelection ↔ p.savedSelection = []
  later : ∀ files m, (source.load files).value = .ok m →
    (ofStorage files (some q.save.2)).value = q.showing m source []

/-- Where the menu of the source cannot be opened, restoring keeps the source and loses the
remembered selection: any other one would have led to the same preview. Opening the same source
without restoring fails as well and leaves the selection where it is. -/
theorem failed_restore_loses_selection (hs : p.source = some source) {e : LoadError}
    (hload : (source.load files).value = .error e) :
    LosesSelection p source e (p.restore files).value ∧
      (∀ other, (({ p with savedSelection := other } : Preview).restore files).value =
        (p.restore files).value) ∧
      (p.openSource files source).value.savedSelection = p.savedSelection := by
  have hrestore := restore_of_load_error hs hload
  refine ⟨?_, ?_, ?_⟩
  · rw [hrestore]
    refine ⟨rfl, rfl, rfl, rfl, rfl, rfl, rfl, eq_comm, ?_⟩
    intro later m hm
    exact ofStorage_save_of_nothing hs rfl hm
  · intro other
    have hother : ({ p with savedSelection := other } : Preview).source = some source := hs
    rw [hrestore, restore_of_load_error hother hload]
  · rw [openSource_of_error p hload]
    rfl

/-- The sample is gone when a selection in it is restored. -/
theorem failed_restore_loses_selection_of_sample :
    ∃ p : Preview, p = ofSaved ⟨some (.file "menu.yaml"), ["G1"], false, ""⟩ ∧
      p.source = some (.file "menu.yaml") ∧
      ((MenuSource.file "menu.yaml").load noFiles).value =
        .error (.unreadable "menu.yaml" .notFound) ∧
      LosesSelection p (.file "menu.yaml") (.unreadable "menu.yaml" .notFound)
        (p.restore noFiles).value :=
  ⟨_, rfl, rfl, rfl, (failed_restore_loses_selection rfl rfl).1⟩

/-- A selection in the sample that can be restored before the file is gone, but neither while it is
gone nor when it is back. -/
theorem selection_lost_between_sessions :
    ∃ saved q, saved = SavedPreview.mk (some (.file "menu.yaml")) ["G1"] false "" ∧
      q = (ofStorage noFiles (some saved)).value ∧
      (ofStorage sampleFiles (some saved)).value.currentSelection = saved.savedSelection ∧
      q.savedSelection ≠ saved.savedSelection ∧ q.currentSelection ≠ saved.savedSelection ∧
      q.save.2.savedSelection ≠ saved.savedSelection ∧
      (ofStorage sampleFiles (some q.save.2)).value.currentSelection ≠ saved.savedSelection := by
  obtain ⟨m, hload, -, -, -, hgroup, -⟩ := exists_sample_menu
  have hopened := restore_value
    (p := ofSaved ⟨some (.file "menu.yaml"), ["G1"], false, ""⟩) rfl hload hgroup
  have hmissing : ((MenuSource.file "menu.yaml").load noFiles).value =
      .error (.unreadable "menu.yaml" .notFound) := rfl
  have hfailed := restore_of_load_error
    (p := ofSaved ⟨some (.file "menu.yaml"), ["G1"], false, ""⟩) rfl hmissing
  refine ⟨_, _, rfl, hfailed.symm, ?_, by decide, by decide, by decide, ?_⟩
  · rw [ofStorage, Option.getD_some, hopened]
    rfl
  · rw [ofStorage_save_of_nothing rfl rfl hload]
    exact (List.cons_ne_nil "G1" []).symm

end Preview

end CascadingForms
