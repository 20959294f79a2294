import CascadingForms.Proofs.PreviewRuns
import CascadingForms.Proofs.Warnings
import Mathlib.Data.List.Induction

/-!
# Remembered selections

A preview remembers the source of a menu and a selection, and the two are set at different events:
the source stays when another menu fails to open, and the selection is set when the preview is
saved. As long as the menu files that were opened keep their contents, the remembered selection
still belongs to the menu of the remembered source, so that restoring it never fails.
-/

namespace CascadingForms

lemma Logged.log_bind {α β : Type} (x : Logged α) (f : α → Logged β) :
    (x >>= f).log = x.log ++ (f x.value).log := rfl

lemma MenuSource.warnings_load (files : FileSystem) (source : MenuSource) :
    warnings (source.load files).log = [] := by
  cases source with
  | embedded d => exact Menu.warnings_load _ _
  | file path =>
    rw [load, Menu.loadFile]
    split
    · rfl
    · exact Menu.warnings_load _ _

namespace Preview

/-- Some files hold what they held when a step opened its menu file, if it did. -/
def KeptBy (files : FileSystem) (step : FileSystem × Event) : Prop :=
  ∀ path, step.2 = .openFile path → (Menu.loadFile step.1 path).value.isOk = true →
    files path = step.1 path

/-- Every menu file that is opened in a run keeps its contents for the rest of the run, and still
has them in the files at its end. -/
structure KeepsOpened (steps : List (FileSystem × Event)) (files : FileSystem) : Prop where
  during : steps.Pairwise fun earlier later => KeptBy later.1 earlier
  after : ∀ step ∈ steps, KeptBy files step

/-- What a preview remembers fits together. After some steps, the menu of the source is the same in
all files that keep what was opened, and the remembered selection leads to an entry of it. -/
structure Remembers (steps : List (FileSystem × Event)) (p : Preview) : Prop where
  sound : p.Sound
  nothing : p.source = none → p.savedSelection = []
  menu : ∀ source, p.source = some source → ∃ m,
    (∀ files, (∀ step ∈ steps, KeptBy files step) → (source.load files).value = .ok m) ∧
      (m.entryAt? p.savedSelection).isSome ∧ ∀ s, p.selector = some s → s.menu = m

variable {p : Preview} {steps : List (FileSystem × Event)}

lemma remembers_initial : Remembers [] {} where
  sound := sound_of_selector_none rfl rfl
  nothing _ := rfl
  menu := by
    intro source h
    cases h

lemma Remembers.concat (h : Remembers steps p) (step : FileSystem × Event) :
    Remembers (steps ++ [step]) p where
  sound := h.sound
  nothing := h.nothing
  menu := by
    intro source hs
    obtain ⟨m, hload, hrest⟩ := h.menu source hs
    refine ⟨m, fun files hkept => hload files fun earlier hearlier => ?_, hrest⟩
    exact hkept earlier (List.mem_append_left _ hearlier)

/-- A preview that has failed to open a menu remembers what it did before. -/
lemma remembers_fail (h : Remembers steps p) (message : String) :
    Remembers steps (p.fail message).value where
  sound := p.sound_fail message
  nothing := h.nothing
  menu := by
    intro source hs
    obtain ⟨m, hload, hsaved, -⟩ := h.menu source hs
    refine ⟨m, hload, hsaved, ?_⟩
    intro s hselector
    cases hselector

lemma remembers_showing {m : Menu} (hm : m.issues = []) {source : MenuSource}
    (hload : ∀ files, (∀ step ∈ steps, KeptBy files step) → (source.load files).value = .ok m)
    {path : List String} (h : (m.entryAt? path).isSome) :
    Remembers steps (p.showing m source path) where
  sound := p.sound_showing hm source h ""
  nothing hnone := by cases hnone
  menu := by
    intro other hs
    obtain rfl : source = other := Option.some.inj hs
    refine ⟨m, hload, Option.isSome_of_eq_some (Menu.entryAt?_nil m), ?_⟩
    intro s hselector
    obtain rfl : m.selectorAt (some path) = s := Option.some.inj hselector
    rfl

lemma remembers_openSource (h : Remembers steps p) (files : FileSystem) (source : MenuSource)
    (hsame : (source.load files).value.isOk = true → ∀ later,
      (∀ step ∈ steps, KeptBy later step) → source.load later = source.load files) :
    Remembers steps (p.openSource files source).value := by
  rcases p.openSource_value files source with ⟨m, hm, hvalue⟩ | ⟨message, hvalue⟩
  · rw [hvalue]
    have hok : (source.load files).value.isOk = true := by rw [hm, isOk_ok]
    refine remembers_showing (MenuSource.issues_of_load hm) ?_
      (Option.isSome_of_eq_some (Menu.entryAt?_nil m))
    intro later hlater
    rw [hsame hok later hlater, hm]
  · rw [hvalue]
    exact remembers_fail h message

lemma remembers_of_operation (h : Remembers steps p) {op : Operation} (hop : op ≠ .teardown)
    (message : String) :
    Remembers steps { p with selector := p.selector.map fun s => (s.perform op).1, message } where
  sound := sound_of_operation h.sound hop message
  nothing := h.nothing
  menu := by
    intro source hs
    obtain ⟨m, hload, hsaved, hmenu⟩ := h.menu source hs
    refine ⟨m, hload, hsaved, ?_⟩
    intro t ht
    obtain ⟨s, hselector, rfl⟩ := Option.map_eq_some_iff.mp ht
    rw [Selector.menu_perform (h.sound.selector s hselector).1]
    exact hmenu s hselector

lemma remembers_syncForSave (h : Remembers steps p) : Remembers steps p.syncForSave where
  sound := ⟨h.sound.screen, h.sound.source, h.sound.selector⟩
  nothing := by
    intro hs
    have hsaved := h.nothing hs
    cases hselector : p.selector with
    | none => simpa [syncForSave, currentSelection, hselector] using hsaved
    | some s =>
      have hsome := h.sound.source (Option.isSome_of_eq_some hselector)
      have hnone : p.source = none := hs
      rw [hnone] at hsome
      cases hsome
  menu := by
    intro source hs
    obtain ⟨m, hload, hsaved, hmenu⟩ := h.menu source hs
    refine ⟨m, hload, ?_, hmenu⟩
    cases hselector : p.selector with
    | none => simpa [syncForSave, currentSelection, hselector] using hsaved
    | some s =>
      have hleads := (Selector.selectorAt_selection (h.sound.selector s hselector)).2
      rw [hmenu s hselector] at hleads
      simpa [syncForSave, currentSelection, hselector] using hleads

theorem remembers_after (h : Remembers steps p) {files : FileSystem}
    (hkept : ∀ step ∈ steps, KeptBy files step) (e : Event) :
    Remembers (steps ++ [(files, e)]) (p.after files e) := by
  have hlonger := h.concat (files, e)
  cases hop : e.operation? with
  | some op =>
    obtain ⟨message, hafter⟩ := after_of_operation hop p files
    rw [hafter]
    exact remembers_of_operation hlonger (ne_teardown_of_operation? hop) message
  | none =>
    cases e with
    | openDeployment d =>
      exact remembers_openSource hlonger files (.embedded d) fun _ _ _ => rfl
    | openFile path =>
      refine remembers_openSource hlonger files (.file path) fun hok later hlater => ?_
      have hsame := hlater (files, .openFile path) (by simp) path rfl hok
      rw [MenuSource.load, MenuSource.load, Menu.loadFile, Menu.loadFile, hsame]
    | restore =>
      cases hs : p.source with
      | none =>
        rw [after, restore_of_source_none hs]
        refine ⟨⟨h.sound.screen, h.sound.source, h.sound.selector⟩, fun _ => rfl, ?_⟩
        intro source hsource
        have hsome : p.source = some source := hsource
        rw [hs] at hsome
        cases hsome
      | some source =>
        obtain ⟨m, hload, hsaved, -⟩ := h.menu source hs
        rw [after, restore_value hs (hload files hkept) hsaved]
        refine remembers_showing (MenuSource.issues_of_load (hload files hkept)) ?_ hsaved
        intro later hlater
        exact hload later fun step hstep => hlater step (List.mem_append_left _ hstep)
    | changeMenu =>
      refine ⟨sound_of_selector_none rfl rfl, fun _ => rfl, ?_⟩
      intro source hsource
      cases hsource
    | syncForSave => exact remembers_syncForSave hlonger
    | toggleForm =>
      exact ⟨⟨h.sound.screen, h.sound.source, h.sound.selector⟩, h.nothing, hlonger.menu⟩
    | _ => cases hop

theorem remembers_run (h : steps.Pairwise fun earlier later => KeptBy later.1 earlier) :
    Remembers steps (({} : Preview).run steps) := by
  -- From the right: `Remembers` speaks of all the steps so far.
  induction steps using List.reverseRecOn with
  | nil => exact remembers_initial
  | append_singleton steps step ih =>
    obtain ⟨hearlier, -, hlast⟩ := List.pairwise_append.mp h
    rw [run_concat]
    refine remembers_after (ih hearlier) (fun earlier hmem => ?_) step.2
    exact hlast earlier hmem step List.mem_cons_self

/-! ### Restoring without a warning -/

lemma warnings_openMenu (p : Preview) (m : Menu) (source : MenuSource) :
    warnings (p.openMenu m source).log = [] := by
  unfold openMenu
  split
  · rfl
  · rename_i s hs
    have hstart : warnings s.start.log = [] := Selector.warnings_render _ _
    rw [Logged.log_bind, warnings_append, hstart]
    rfl

lemma warnings_openSource (p : Preview) (files : FileSystem) (source : MenuSource) :
    warnings (p.openSource files source).log = [] := by
  have hload := MenuSource.warnings_load files source
  cases source with
  | embedded d =>
    have hd : warnings d.load.log = [] := hload
    rw [openSource, openDeployment, Logged.log_bind, warnings_append, hd, List.nil_append]
    split
    · exact warnings_openMenu _ _ _
    · rfl
  | file path =>
    have hf : warnings (Menu.loadFile files path).log = [] := hload
    rw [openSource, openFile, Logged.log_bind, warnings_append, hf, List.nil_append]
    split
    · exact warnings_openMenu _ _ _
    · rfl

lemma warnings_restore {source : MenuSource} (hs : p.source = some source) {files : FileSystem}
    {m : Menu} (hload : (source.load files).value = .ok m)
    (hsaved : (m.entryAt? p.savedSelection).isSome) : warnings (p.restore files).log = [] := by
  rw [restore_of_source hs, Logged.log_bind, warnings_append, warnings_openSource, List.nil_append]
  have hresult := (Selector.selectPath_of_isSome (m.selectorAt (some [])) hsaved).2
  rw [openSource_of_ok _ hload]
  simp only [replay, showing, hresult]
  exact Selector.warnings_selectPath hresult

/-- What a preview shows and what it remembers fit together, given the files. -/
structure Coherent (files : FileSystem) (p : Preview) : Prop where
  screen : p.screen = .cascade ↔ p.selector.isSome = true
  selector : ∀ s, p.selector = some s → s.isStarted = true ∧
    ∃ source, p.source = some source ∧ (source.load files).value = .ok s.menu
  nothing : p.source = none → p.savedSelection = []
  saved : ∀ source, p.source = some source →
    ∃ m, (source.load files).value = .ok m ∧ (m.entryAt? p.savedSelection).isSome
  /-- Without a source there is nothing to restore. -/
  restore_nothing : p.source = none → p.restore files = pure p
  /-- With a source, the remembered selection is restored and nothing is reported. -/
  restore_saved : p.source.isSome = true →
    (p.restore files).value.screen = .cascade ∧
      (p.restore files).value.currentSelection = p.savedSelection ∧
        (p.restore files).value.message = "" ∧ warnings (p.restore files).log = []

/-- In every run from an empty preview in which the menu files that were opened keep their contents,
what is shown and what is remembered fit together, and the remembered selection can be restored. -/
theorem coherent_run (steps : List (FileSystem × Event)) (files : FileSystem)
    (h : KeepsOpened steps files) : Coherent files (({} : Preview).run steps) := by
  have hremembers := remembers_run h.during
  generalize ({} : Preview).run steps = p at hremembers
  have hsaved : ∀ source, p.source = some source →
      ∃ m, (source.load files).value = .ok m ∧ (m.entryAt? p.savedSelection).isSome := by
    intro source hs
    obtain ⟨m, hload, hleads, -⟩ := hremembers.menu source hs
    exact ⟨m, hload files h.after, hleads⟩
  refine ⟨hremembers.sound.screen, ?_, hremembers.nothing, hsaved, ?_, ?_⟩
  · intro s hselector
    obtain ⟨source, hs⟩ := Option.isSome_iff_exists.mp
      (hremembers.sound.source (Option.isSome_of_eq_some hselector))
    obtain ⟨m, hload, -, hmenu⟩ := hremembers.menu source hs
    refine ⟨(hremembers.sound.selector s hselector).2, source, hs, ?_⟩
    rw [hmenu s hselector]
    exact hload files h.after
  · intro hs
    rw [restore_of_source_none hs, ← hremembers.nothing hs]
  · intro hsome
    obtain ⟨source, hs⟩ := Option.isSome_iff_exists.mp hsome
    obtain ⟨m, hload, hleads⟩ := hsaved source hs
    have hvalue := restore_value hs hload hleads
    rw [hvalue]
    exact ⟨rfl, rfl, rfl, warnings_restore hs hload hleads⟩

/-- A selection in one file is saved, and then another file cannot be opened. -/
def interrupted (files : FileSystem) (path key other : String) : List (FileSystem × Event) :=
  [(files, .openFile path), (files, .choose 0 key), (files, .syncForSave), (files, .openFile other)]

lemma run_interrupted (p : Preview) {files : FileSystem} {path key other : String} {m : Menu}
    {e : LoadError} (hload : ((MenuSource.file path).load files).value = .ok m)
    (hkey : (m.entryAt? [key]).isSome)
    (hother : ((MenuSource.file other).load files).value = .error e) :
    ∃ message, p.run (interrupted files path key other) =
      ((p.showing m (.file path) [key]).syncForSave.fail message).value := by
  have hchosen := p.run_openFile_choose hload hkey
  have hfail := (p.showing m (.file path) [key]).syncForSave.openSource_of_error hother
  have hrun : p.run (interrupted files path key other) =
      ((p.run [(files, .openFile path), (files, .choose 0 key)]).syncForSave.openSource files
        (.file other)).value := rfl
  rw [hrun, hchosen]
  exact ⟨_, hfail⟩

/-- The files of the sample when there is another one as well. -/
def laterFiles : FileSystem := fun path =>
  if path = "menu.yaml" then .ok sampleText else .ok "name: new"

theorem coherent_interrupted :
    KeepsOpened (interrupted sampleFiles "menu.yaml" "G1" "new.yaml") laterFiles ∧
      ∃ p, p = ({} : Preview).run (interrupted sampleFiles "menu.yaml" "G1" "new.yaml") ∧
        Coherent laterFiles p ∧ p.source = some (.file "menu.yaml") ∧
          p.savedSelection = ["G1"] ∧ p.screen = .deployments := by
  have hfiles : ∀ step ∈ interrupted sampleFiles "menu.yaml" "G1" "new.yaml",
      step.1 = sampleFiles := by simp [interrupted]
  have hkeeps : KeepsOpened (interrupted sampleFiles "menu.yaml" "G1" "new.yaml") laterFiles := by
    constructor
    · refine List.pairwise_of_forall_mem_list fun earlier he later hl path _ _ => ?_
      rw [hfiles earlier he, hfiles later hl]
    · intro step hmem path hopen hok
      rw [hfiles step hmem] at hok ⊢
      by_cases hpath : path = "menu.yaml"
      · rw [laterFiles, sampleFiles, if_pos hpath, if_pos hpath]
      · rw [Menu.loadFile, sampleFiles, if_neg hpath] at hok
        cases hok
  obtain ⟨m, hload, -, -, -, hgroup, -⟩ := exists_sample_menu
  have hmissing : ((MenuSource.file "new.yaml").load sampleFiles).value =
      .error (.unreadable "new.yaml" .notFound) := rfl
  obtain ⟨message, hrun⟩ := ({} : Preview).run_interrupted hload hgroup hmissing
  exact ⟨hkeeps, _, hrun.symm, hrun ▸ coherent_run _ _ hkeeps, rfl, rfl, rfl⟩

end Preview

end CascadingForms
