import CascadingForms.Proofs.RestoreOutcomes
import CascadingForms.Proofs.ScreenRuns
import Mathlib.Data.List.Induction

/-!
# What messages tell of

While a menu is open, a message tells of a refusal: of an option that could not be chosen, or of a
remembered selection that does not lead to an entry any more. What is accepted clears the message,
and going back alone leaves it as it is, although going back is always accepted. So a message may
be older than the last event. It is the text of the last refusal, as long as nothing but going back,
noting the selection and switching the form has happened since.
-/

namespace CascadingForms

lemma SelectionError.message_ne_empty (e : SelectionError) : e.message ≠ "" := by
  cases e <;> simp [message]

namespace Preview

/-- An event that moves as it is asked to, or opens the menu that it is asked to open. -/
inductive Accepts (p : Preview) (files : FileSystem) : Event → Prop
  | openDeployment {d : Deployment} {m : Menu} (h : d.load.value = .ok m) :
    Accepts p files (.openDeployment d)
  | openFile {path : String} {m : Menu} (h : (Menu.loadFile files path).value = .ok m) :
    Accepts p files (.openFile path)
  | choose {s : Selector} {level : Nat} {key : String} {l : Level} (hs : p.selector = some s)
    (h : (s.select level key).result = .ok l) : Accepts p files (.choose level key)
  | back {s : Selector} (hs : p.selector = some s) (h : s.back.result = .ok ()) :
    Accepts p files .back
  | resetSelection : Accepts p files .resetSelection
  | changeMenu : Accepts p files .changeMenu

/-- An event that asks for a selection which the menu does not have, with the text that tells of
it. -/
inductive Refuses (p : Preview) (files : FileSystem) : Event → String → Prop
  | choose {s : Selector} {level : Nat} {key : String} {e : SelectionError}
    (hs : p.selector = some s) (h : (s.select level key).result = .error e) :
    Refuses p files (.choose level key) e.message
  | restore {source : MenuSource} {m : Menu} {s : Selector} {e : SelectionError}
    (hs : p.source = some source) (hload : (source.load files).value = .ok m)
    (hnew : Selector.ofMenu m = .ok s) (h : (s.selectPath p.savedSelection).result = .error e) :
    Refuses p files .restore (staleMessage e)

/-- Events that do not touch the message. -/
def Event.isSilent : Event → Bool
  | .back => true
  | .syncForSave => true
  | .toggleForm => true
  | _ => false

/-- The last refusal in a run has this text, and all events since have been silent. -/
def LastRefusal (p : Preview) (steps : List (FileSystem × Event)) (text : String) : Prop :=
  ∃ before files e since, steps = before ++ (files, e) :: since ∧
    (p.run before).Refuses files e text ∧ ∀ step ∈ since, step.2.isSilent = true

variable {p : Preview} {files : FileSystem}

/-! ### One event -/

lemma back_of_sound (h : p.Sound) {s : Selector} (hs : p.selector = some s)
    (files : FileSystem) :
    p.Accepts files .back ∧ (p.after files .back).message = p.message := by
  obtain ⟨hresult, hvalue⟩ := (responds_of_sound h hs).back
  refine ⟨.back hs hresult, ?_⟩
  rw [after, hvalue]

lemma after_of_isSilent (h : p.Sound) {e : Event} (he : e.isSilent = true) (files : FileSystem) :
    (p.after files e).message = p.message ∧
      (p.after files e).selector.isSome = p.selector.isSome := by
  cases e with
  | back =>
    cases hs : p.selector with
    | none => simp [after, back, hs, Logged.value_pure]
    | some s =>
      refine ⟨(back_of_sound h hs files).2, ?_⟩
      rw [after, (responds_of_sound h hs).back.2]
      rfl
  | syncForSave => exact ⟨rfl, rfl⟩
  | toggleForm => exact ⟨rfl, rfl⟩
  | _ => cases he

lemma message_openSource (p : Preview) (files : FileSystem) (source : MenuSource) {m : Menu}
    (h : (source.load files).value = .ok m) : (p.openSource files source).value.message = "" := by
  rw [openSource_of_ok p h, showing]

/-- Where a source cannot be opened no menu is open afterwards. -/
lemma exists_load_of_openSource (files : FileSystem) (source : MenuSource)
    (h : (p.openSource files source).value.selector.isSome = true) :
    ∃ m, (source.load files).value = .ok m := by
  rcases p.openSource_value files source with ⟨m, hm, -⟩ | ⟨message, hvalue⟩
  · exact ⟨m, hm⟩
  · rw [hvalue] at h
    cases h

lemma exists_load_of_restore (h : p.Sound)
    (hopen : (p.restore files).value.selector.isSome = true) :
    ∃ source m, p.source = some source ∧ (source.load files).value = .ok m := by
  cases hs : p.source with
  | none =>
    -- Without a source there has been no open menu before either.
    rw [restore_of_source_none hs] at hopen
    have hsource := h.source hopen
    rw [hs] at hsource
    cases hsource
  | some source =>
    cases hload : (source.load files).value with
    | ok m => exact ⟨source, m, rfl, hload⟩
    | error e =>
      rw [restore_of_load_error hs hload] at hopen
      cases hopen

lemma message_restore {source : MenuSource} (hs : p.source = some source) {m : Menu}
    (hload : (source.load files).value = .ok m) :
    (p.restore files).value.message =
      match ((m.selectorAt none).selectPath p.savedSelection).result with
      | .ok _ => ""
      | .error e => staleMessage e := by
  -- Selecting a path starts over, so the selector that has been opened does as a new one.
  have hsame : (m.selectorAt (some [])).selectPath p.savedSelection =
      (m.selectorAt none).selectPath p.savedSelection := rfl
  rw [restore_of_source hs, Logged.value_bind, openSource_of_ok _ hload]
  simp only [replay, showing, hsame]
  cases ((m.selectorAt none).selectPath p.savedSelection).result <;> rfl

lemma message_of_accepts {e : Event} (ha : p.Accepts files e) (hback : e ≠ .back) :
    (p.after files e).message = "" := by
  cases ha with
  | openDeployment hload => exact message_openSource p files (.embedded _) hload
  | openFile hload => exact message_openSource p files (.file _) hload
  | choose hs hresult => simp [after, choose, hs, hresult]
  | back hs hresult => exact absurd rfl hback
  | resetSelection =>
    cases hs : p.selector with
    | none => simp [after, resetSelection, hs, Logged.value_pure]
    | some s =>
      rw [after, resetSelection, hs]
      rfl
  | changeMenu => rfl

lemma message_of_refuses {e : Event} {text : String} (hr : p.Refuses files e text) :
    (p.after files e).message = text ∧ text ≠ "" := by
  cases hr with
  | @choose s level key e hs hresult =>
    exact ⟨by simp [after, Preview.choose, hs, hresult], e.message_ne_empty⟩
  | @restore source m s e hs hload hnew hresult =>
    refine ⟨?_, staleMessage_ne_empty e⟩
    rw [Selector.ofMenu_of_issues (MenuSource.issues_of_load hload)] at hnew
    obtain rfl := Except.ok.inj hnew
    rw [after, message_restore hs hload, hresult]

/-- Of the events that are not silent, only a refused one leaves a message over an open menu. -/
lemma refuses_of_message (h : p.Sound) {e : Event} (he : e.isSilent = false)
    (hopen : (p.after files e).selector.isSome = true) (hmessage : (p.after files e).message ≠ "") :
    p.Refuses files e (p.after files e).message := by
  cases e with
  | openDeployment d =>
    obtain ⟨m, hload⟩ := exists_load_of_openSource files (.embedded d) hopen
    exact absurd (message_openSource p files (.embedded d) hload) hmessage
  | openFile path =>
    obtain ⟨m, hload⟩ := exists_load_of_openSource files (.file path) hopen
    exact absurd (message_openSource p files (.file path) hload) hmessage
  | choose level key =>
    cases hs : p.selector with
    | none => simp [after, choose, hs, Logged.value_pure] at hopen
    | some s =>
      cases hresult : (s.select level key).result with
      | ok l => exact absurd (message_of_accepts (.choose hs hresult) (by simp)) hmessage
      | error refusal =>
        have hrefuses : p.Refuses files (.choose level key) refusal.message := .choose hs hresult
        rwa [(message_of_refuses hrefuses).1]
  | resetSelection => exact absurd (message_of_accepts .resetSelection (by simp)) hmessage
  | changeMenu => exact absurd rfl hmessage
  | restore =>
    obtain ⟨source, m, hs, hload⟩ := exists_load_of_restore h hopen
    have hnew := Selector.ofMenu_of_issues (MenuSource.issues_of_load hload)
    cases hresult : ((m.selectorAt none).selectPath p.savedSelection).result with
    | ok _ =>
      rw [after, message_restore hs hload, hresult] at hmessage
      exact absurd rfl hmessage
    | error refusal =>
      have hrefuses := Refuses.restore hs hload hnew hresult
      rwa [(message_of_refuses hrefuses).1]
  | _ => cases he

/-! ### Refusals behind a leaf -/

lemma choose_behind_leaf {m : Menu} {path : List String} {d : Entry}
    (hs : p.selector = some (m.selectorAt (some path))) (hd : m.entryAt? path = some d)
    (hl : d.isLeaf = true) (key : String) :
    (p.choose path.length key).value =
      { p with message := (SelectionError.leafLevel path.length).message } := by
  have htake : m.entryAt? (path.take path.length) = some d := by rw [List.take_length, hd]
  have hrefused := Selector.entryForLevel_of_le (Option.isSome_of_eq_some hd) (Nat.le_refl _) htake
  rw [if_pos hl] at hrefused
  simp only [choose, hs, Selector.select_of_error hrefused key]

lemma restore_behind_leaf {source : MenuSource} {m : Menu} {path rest : List String} {key : String}
    {d : Entry} (hs : p.source = some source) (hload : (source.load files).value = .ok m)
    (hd : m.entryAt? path = some d) (hl : d.isLeaf = true)
    (hsaved : p.savedSelection = path ++ key :: rest) :
    (p.restore files).value =
      { p.showing m source path with
        message := staleMessage (.leafLevel path.length) } := by
  have hnone : m.entryAt? (path ++ key :: rest) = none := by
    rw [← Option.not_isSome_iff_eq_none]
    intro hsome
    have hbranch := Entry.isLeaf_of_longer_path hd hsome
    rw [hl] at hbranch
    cases hbranch
  have hreach : m.root.reach (path ++ key :: rest) = path :=
    Entry.reach_append_of_isLeaf hd hl (key :: rest)
  obtain ⟨e, next, he, -, hreplay⟩ :=
    replay_of_none { p with savedSelection := [] } source hnone
  rw [hreach] at he hreplay
  obtain rfl := Option.some.inj (hd.symm.trans he)
  rw [restore_of_source hs, Logged.value_bind, openSource_of_ok _ hload, hsaved, hreplay,
    Entry.refusal, if_pos hl]
  rfl

lemma exists_sample_leaf :
    ∃ m d, ((MenuSource.file "menu.yaml").load sampleFiles).value = .ok m ∧
      m.entryAt? ["G1"] = some d ∧ d.isLeaf = true := by
  obtain ⟨m, hload, -, hdescriptor, -, hgroup, -⟩ := exists_sample_menu
  obtain ⟨d, hd⟩ := Option.isSome_iff_exists.mp hgroup
  refine ⟨m, d, hload, hd, ?_⟩
  rw [Selector.descriptor?_selectorAt hd] at hdescriptor
  by_contra hbranch
  rw [if_neg hbranch] at hdescriptor
  cases hdescriptor

/-! ### Runs -/

lemma message_run_of_isSilent (h : p.Sound) {steps : List (FileSystem × Event)}
    (hsilent : ∀ step ∈ steps, step.2.isSilent = true) : (p.run steps).message = p.message := by
  induction steps generalizing p with
  | nil => rfl
  | cons step steps ih =>
    rw [List.forall_mem_cons] at hsilent
    exact (ih (sound_after h step.1 step.2) hsilent.2).trans
      (after_of_isSilent h hsilent.1 step.1).1

lemma message_of_lastRefusal (h : p.Sound) {steps : List (FileSystem × Event)} {text : String}
    (hlast : p.LastRefusal steps text) : (p.run steps).message = text ∧ text ≠ "" := by
  obtain ⟨before, files, e, since, rfl, hrefuses, hsilent⟩ := hlast
  obtain ⟨hmessage, hne⟩ := message_of_refuses hrefuses
  have hsound := sound_after (sound_run h before) files e
  refine ⟨?_, hne⟩
  rw [run_append]
  exact (message_run_of_isSilent hsound hsilent).trans hmessage

/-- Whatever a message says over an open menu, there has been a refusal in the run that it is left
of. -/
lemma lastRefusal_of_message (h : p.Sound) (hclosed : p.selector = none)
    {steps : List (FileSystem × Event)} (hopen : (p.run steps).selector.isSome = true)
    (hmessage : (p.run steps).message ≠ "") : p.LastRefusal steps (p.run steps).message := by
  -- From the right: the last event either left the message or kept that of the run before.
  induction steps using List.reverseRecOn with
  | nil =>
    rw [run, List.foldl_nil, hclosed] at hopen
    cases hopen
  | append_singleton steps step ih =>
    obtain ⟨files, e⟩ := step
    rw [run_concat] at hopen hmessage ⊢
    have hsound := sound_run h steps
    cases he : e.isSilent with
    | false =>
      have hrefuses := refuses_of_message hsound he hopen hmessage
      exact ⟨steps, files, e, [], rfl, hrefuses, by simp⟩
    | true =>
      obtain ⟨hkept, hstill⟩ := after_of_isSilent hsound he files
      rw [hstill] at hopen
      rw [hkept] at hmessage ⊢
      obtain ⟨before, files', e', since, hsteps, hrefuses, hsilent⟩ := ih hopen hmessage
      refine ⟨before, files', e', since ++ [(files, e)], by simp [hsteps], hrefuses, ?_⟩
      simpa [or_imp, forall_and, he] using hsilent

/-- A group of the sample is chosen, and then an option below it, where there is none. -/
def refusedChoice : List (FileSystem × Event) :=
  [(sampleFiles, .openFile "menu.yaml"), (sampleFiles, .choose 0 "G1"),
    (sampleFiles, .choose 1 "E1"), (noFiles, .toggleForm)]

/-- An exercise is remembered whose group is a leaf of the sample. -/
def staleExercise : SavedPreview := ⟨some (.file "menu.yaml"), ["G1", "E1"], false, ""⟩

/-- How the message over an open menu follows the events of the run that has led to it. -/
structure TellsOfRefusals (start : Preview) (steps : List (FileSystem × Event)) : Prop where
  cleared : ∀ files e, (start.run steps).Accepts files e → e ≠ .back →
    ((start.run steps).after files e).message = ""
  /-- Going back is accepted and leaves the message as it is, be it empty or not. -/
  back : ∀ files, (start.run steps).Accepts files .back ∧
    ((start.run steps).after files .back).message = (start.run steps).message
  told_iff : ∀ text, (start.run steps).message = text ∧ text ≠ "" ↔ start.LastRefusal steps text

/-- In every session, whatever was remembered at its start: over an open menu every event that is
accepted clears the message, going back apart, and a message is there exactly if it is the text of
the last refusal and only silent events have happened since. -/
theorem messages_tell_of_refusals {saved : SavedPreview} {steps : List (FileSystem × Event)}
    {s : Selector} (hs : ((ofSaved saved).run steps).selector = some s) :
    (ofSaved saved).TellsOfRefusals steps := by
  have hstart : (ofSaved saved).Sound := sound_of_selector_none rfl rfl
  have hsound := sound_run hstart steps
  refine ⟨fun files e ha hback => message_of_accepts ha hback, back_of_sound hsound hs, ?_⟩
  intro text
  constructor
  · rintro ⟨rfl, hne⟩
    exact lastRefusal_of_message hstart rfl (Option.isSome_of_eq_some hs) hne
  · exact message_of_lastRefusal hstart

/-- Only the form has been switched since the option was refused. -/
theorem messages_tell_of_refusals_below_group :
    ∃ s, ((ofSaved {}).run refusedChoice).selector = some s ∧ s.selection = ["G1"] ∧
      (ofSaved {}).TellsOfRefusals refusedChoice ∧
      (ofSaved {}).LastRefusal refusedChoice
        "level 1 shows the submission fields, not a dropdown" := by
  obtain ⟨m, d, hload, hd, hl⟩ := exists_sample_leaf
  have hgroup := run_openFile_choose (ofSaved {}) hload (Option.isSome_of_eq_some hd)
  have hrefused := choose_behind_leaf
    (p := (ofSaved {}).showing m (.file "menu.yaml") ["G1"]) rfl hd hl "E1"
  have hrun : (ofSaved {}).run refusedChoice =
      { (ofSaved {}).showing m (.file "menu.yaml") ["G1"] with
        message := (SelectionError.leafLevel 1).message, wrapsForm := true } := by
    have hsteps : refusedChoice =
        [(sampleFiles, .openFile "menu.yaml"), (sampleFiles, .choose 0 "G1")] ++
          [(sampleFiles, .choose 1 "E1"), (noFiles, .toggleForm)] := rfl
    rw [hsteps, run_append, hgroup]
    simp only [run, List.foldl_cons, List.foldl_nil, after]
    exact congrArg (fun p : Preview => { p with wrapsForm := !p.wrapsForm }) hrefused
  have hs : ((ofSaved {}).run refusedChoice).selector = some (m.selectorAt (some ["G1"])) := by
    rw [hrun]
    rfl
  have htells := messages_tell_of_refusals hs
  refine ⟨_, hs, rfl, htells, (htells.told_iff _).mp ⟨?_, by decide⟩⟩
  rw [hrun]
  rfl

/-- Going back from the group where restoring has stopped takes the group back, and the message
still tells of the exercise below it. -/
theorem message_outlives_stale_selection :
    ∃ p, p = (ofStorage sampleFiles (some staleExercise)).value ∧ p.Reachable ∧
      p.currentSelection = ["G1"] ∧ p.Accepts sampleFiles .back ∧
      (p.after sampleFiles .back).currentSelection = [] ∧
      (p.after sampleFiles .back).message = "La selección guardada ya no es válida: " ++
        "level 1 shows the submission fields, not a dropdown" := by
  obtain ⟨m, d, hload, hd, hl⟩ := exists_sample_leaf
  have hrestored : (ofStorage sampleFiles (some staleExercise)).value =
      { (ofSaved staleExercise).showing m (.file "menu.yaml") ["G1"] with
        message := staleMessage (.leafLevel 1) } := by
    have hsaved : (ofSaved staleExercise).savedSelection = ["G1"] ++ "E1" :: [] := rfl
    rw [ofStorage, Option.getD_some]
    exact restore_behind_leaf rfl hload hd hl hsaved
  have hreachable := reachable_ofStorage sampleFiles (some staleExercise) []
  rw [run, List.foldl_nil] at hreachable
  have hselector : (ofStorage sampleFiles (some staleExercise)).value.selector =
      some (m.selectorAt (some ["G1"])) := by
    rw [hrestored]
    rfl
  obtain ⟨haccepts, hmessage⟩ :=
    back_of_sound (sound_of_reachable hreachable) hselector sampleFiles
  have hback := (back_value hselector (Option.isSome_of_eq_some hd)).2
  refine ⟨_, rfl, hreachable, ?_, haccepts, ?_, ?_⟩
  · rw [currentSelection, hselector]
    rfl
  · rw [after, hback]
    rfl
  · rw [hmessage, hrestored]
    rfl

end Preview

end CascadingForms
