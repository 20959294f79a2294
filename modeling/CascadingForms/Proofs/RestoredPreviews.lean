import CascadingForms.Preview.View
import CascadingForms.Proofs.PreviewRuns

/-!
# Restored previews

Nothing of an open menu is saved but its source and the selection. Everything else that a preview
shows follows from these two, so the preview of the next session shows the same: its selector is
the very one that was open, and saving and restoring it again changes nothing.
-/

namespace CascadingForms

namespace Preview

/-- What is restored from a sound preview with an open menu is the preview itself, without its
message and what it had saved before. -/
lemma ofStorage_save {p : Preview} (h : p.Sound) {s : Selector} (hs : p.selector = some s)
    {source : MenuSource} (hsource : p.source = some source) {files : FileSystem}
    (hload : (source.load files).value = .ok s.menu) :
    (ofStorage files (some p.save.2)).value = { p with savedSelection := [], message := "" } := by
  obtain ⟨heq, hleads⟩ := Selector.selectorAt_selection (h.selector s hs)
  have hscreen : p.screen = .cascade := h.screen.mpr (Option.isSome_of_eq_some hs)
  have hcurrent : p.currentSelection = s.selection := by rw [currentSelection, hs]
  rw [← hcurrent] at heq hleads
  have hsource' : (ofSaved p.save.2).source = some source := hsource
  rw [ofStorage, Option.getD_some, restore_value hsource' hload hleads, showing]
  have hselector : s.menu.selectorAt (some (ofSaved p.save.2).savedSelection) = s := heq
  rw [hselector, ← hs, ← hsource, ← hscreen]
  rfl

/-- The second preview is restored from the first: it shows the same menu in the same way. -/
structure Restores (p q : Preview) : Prop where
  screen : q.screen = .cascade
  source : q.source = p.source
  wrapsForm : q.wrapsForm = p.wrapsForm
  currentSelection : q.currentSelection = p.currentSelection
  levelViews : q.levelViews = p.levelViews
  submissionControls : q.submissionControls = p.submissionControls
  html : q.html = p.html
  decoded : q.decoded = p.decoded
  message : q.message = ""

/-- A preview with an open menu that is saved comes back as it was, as long as its source still
holds the same menu. Saving and restoring it again changes nothing more. -/
theorem restores_saved {p : Preview} (hp : p.Reachable) {s : Selector} (hs : p.selector = some s)
    {files : FileSystem}
    (hload : ∀ source, p.source = some source → (source.load files).value = .ok s.menu) :
    p.Restores (ofStorage files (some p.save.2)).value ∧
      (ofStorage files (some p.save.2)).value.selector = some s ∧
        (ofStorage files (some (ofStorage files (some p.save.2)).value.save.2)).value =
          (ofStorage files (some p.save.2)).value := by
  have hsound := sound_of_reachable hp
  have hopen := Option.isSome_of_eq_some hs
  obtain ⟨source, hsource⟩ := Option.isSome_iff_exists.mp (hsound.source hopen)
  rw [ofStorage_save hsound hs hsource (hload source hsource)]
  refine ⟨?_, hs, ?_⟩
  · refine ⟨hsound.screen.mpr hopen, rfl, rfl, ?_, rfl, rfl, rfl, rfl, rfl⟩
    simp only [currentSelection, hs]
  · have hagain : ({ p with savedSelection := [], message := "" } : Preview).Sound :=
      ⟨hsound.screen, hsound.source, hsound.selector⟩
    exact ofStorage_save hagain hs hsource (hload source hsource)

/-- At a leaf of the sample. -/
theorem restores_saved_at_leaf :
    ∃ p s, p = ({} : Preview).run
        [(sampleFiles, .openFile "menu.yaml"), (sampleFiles, .choose 0 "G2")] ∧
      p.Reachable ∧ p.selector = some s ∧ s.isComplete = true ∧
        (∀ source, p.source = some source → (source.load sampleFiles).value = .ok s.menu) ∧
          p.Restores (ofStorage sampleFiles (some p.save.2)).value := by
  obtain ⟨m, hload, -, -, hdescriptor, -, hgroup⟩ := exists_sample_menu
  have hrun := ({} : Preview).run_openFile_choose hload hgroup
  have hreachable := reachable_run
    [(sampleFiles, .openFile "menu.yaml"), (sampleFiles, .choose 0 "G2")]
  rw [hrun] at hreachable
  have hsame : ∀ source, (({} : Preview).showing m (.file "menu.yaml") ["G2"]).source = some source →
      (source.load sampleFiles).value = .ok m := by
    intro source hsource
    obtain rfl := Option.some.inj hsource
    exact hload
  refine ⟨_, _, hrun.symm, hreachable, rfl, ?_, hsame, (restores_saved hreachable rfl hsame).1⟩
  rw [Selector.isComplete, hdescriptor]
  rfl

end Preview

end CascadingForms
