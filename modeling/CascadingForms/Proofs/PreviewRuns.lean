import CascadingForms.Preview.Basic
import CascadingForms.Proofs.SelectedPaths

/-!
# Runs of the preview

A run of the preview is a list of events, each with the files as they are at that moment. Opening a
menu has two outcomes, `Preview.showing` and `Preview.fail`, and every other event moves the
selector, if there is one, or sets what is remembered. Whatever happens, a menu is open exactly
while the cascade is on the screen, and its selector is started and can be reached.
-/

namespace CascadingForms

lemma Logged.value_bind {α β : Type} (x : Logged α) (f : α → Logged β) :
    (x >>= f).value = (f x.value).value := rfl

lemma Logged.value_pure {α : Type} (a : α) : (pure a : Logged α).value = a := rfl

namespace MenuSource

/-- The name that messages give to a source. -/
def origin : MenuSource → String
  | embedded d => d.name
  | file path => path

/-- Loads the menu of a source, given the files. -/
def load (files : FileSystem) : MenuSource → Logged (Except LoadError Menu)
  | embedded d => d.load
  | file path => Menu.loadFile files path

lemma issues_of_load {files : FileSystem} {source : MenuSource} {m : Menu}
    (h : (source.load files).value = .ok m) : m.issues = [] := by
  cases source with
  | embedded d => exact (Menu.load_eq_ok_iff.mp h).2
  | file path =>
    rw [load, Menu.loadFile] at h
    cases hf : files path with
    | error cause =>
      rw [hf] at h
      cases h
    | ok text =>
      rw [hf] at h
      exact (Menu.load_eq_ok_iff.mp h).2

end MenuSource

namespace Selector

variable {m : Menu}

/-- The started selectors that can be reached are those at the paths of an accepted menu. -/
lemma reachable_started_iff {s : Selector} :
    Reachable m s ∧ s.isStarted = true ↔
      m.issues = [] ∧ ∃ path, (m.entryAt? path).isSome ∧ s = m.selectorAt (some path) := by
  rw [reachable_iff]
  constructor
  · rintro ⟨⟨hm, position, hpos, rfl⟩, hstarted⟩
    cases position with
    | none => cases hstarted
    | some path => exact ⟨hm, path, hpos, rfl⟩
  · rintro ⟨hm, path, hpath, rfl⟩
    refine ⟨⟨hm, some path, hpath, rfl⟩, ?_⟩
    rw [isStarted, levels_selectorAt_ne_nil hpath]
    rfl

/-- A started selector that can be reached is the one at its own selection. -/
lemma selectorAt_selection {s : Selector} (h : Reachable m s ∧ s.isStarted = true) :
    m.selectorAt (some s.selection) = s ∧ (m.entryAt? s.selection).isSome := by
  obtain ⟨-, path, hpath, rfl⟩ := reachable_started_iff.mp h
  exact ⟨rfl, hpath⟩

/-- Only tearing down stops a selector. -/
lemma perform_started {s : Selector} (h : Reachable m s ∧ s.isStarted = true) {op : Operation}
    (hop : op ≠ .teardown) :
    Reachable m (s.perform op).1 ∧ (s.perform op).1.isStarted = true := by
  obtain ⟨hm, path, hpath, rfl⟩ := reachable_started_iff.mp h
  have hposition : m.IsPosition (some path) := hpath
  have hnext := isPosition_next hposition op
  have hstep := perform_selectorAt hposition op
  obtain ⟨path', hpath'⟩ : ∃ path', m.next (some path) op = some path' := by
    cases op with
    | teardown => exact absurd rfl hop
    | start => exact ⟨_, rfl⟩
    | selectPath keys => exact ⟨_, rfl⟩
    | back => exact ⟨_, rfl⟩
    | select level key =>
      rw [Menu.next_select]
      split <;> exact ⟨_, rfl⟩
    | resetTo level =>
      rw [Menu.next_resetTo]
      split <;> exact ⟨_, rfl⟩
  rw [hpath'] at hnext hstep
  exact reachable_started_iff.mpr ⟨hm, path', hnext, congrArg Prod.fst hstep⟩

lemma menu_perform {s : Selector} (h : Reachable m s) (op : Operation) :
    (s.perform op).1.menu = m := by
  obtain ⟨-, position, hpos, rfl⟩ := reachable_iff.mp h
  rw [perform_selectorAt hpos op]
  cases m.next position op <;> rfl

end Selector

namespace Preview

/-- What can happen to a preview while it runs. -/
inductive Event where
  | openDeployment (d : Deployment)
  | openFile (path : String)
  | choose (level : Nat) (key : String)
  | back
  | resetSelection
  | changeMenu
  | syncForSave
  | restore
  | toggleForm

/-- The preview after an event, given the files at that moment. -/
def after (p : Preview) (files : FileSystem) : Event → Preview
  | .openDeployment d => (p.openDeployment d).value
  | .openFile path => (p.openFile files path).value
  | .choose level key => (p.choose level key).value
  | .back => p.back.value
  | .resetSelection => p.resetSelection.value
  | .changeMenu => p.changeMenu
  | .syncForSave => p.syncForSave
  | .restore => (p.restore files).value
  | .toggleForm => { p with wrapsForm := !p.wrapsForm }

def run (p : Preview) (steps : List (FileSystem × Event)) : Preview :=
  steps.foldl (fun p step => p.after step.1 step.2) p

lemma run_append (p : Preview) (steps more : List (FileSystem × Event)) :
    p.run (steps ++ more) = (p.run steps).run more := List.foldl_append

lemma run_concat (p : Preview) (steps : List (FileSystem × Event)) (step : FileSystem × Event) :
    p.run (steps ++ [step]) = (p.run steps).after step.1 step.2 := p.run_append steps [step]

/-! ### Opening a menu -/

/-- The preview with a menu open and the keys of a path chosen in it. -/
def showing (p : Preview) (m : Menu) (source : MenuSource) (path : List String) : Preview :=
  { p with
    selector := some (m.selectorAt (some path)), source := some source, savedSelection := []
    message := "", screen := .cascade }

def openSource (p : Preview) (files : FileSystem) : MenuSource → Logged Preview
  | .embedded d => p.openDeployment d
  | .file path => p.openFile files path

lemma openMenu_value (p : Preview) {m : Menu} (h : m.issues = []) (source : MenuSource) :
    (p.openMenu m source).value = p.showing m source [] := by
  rw [openMenu, Selector.ofMenu_of_issues h]
  simp only [Logged.value_bind, Logged.value_pure, Selector.start_value]
  rfl

lemma openSource_of_ok (p : Preview) {files : FileSystem} {source : MenuSource} {m : Menu}
    (h : (source.load files).value = .ok m) :
    (p.openSource files source).value = p.showing m source [] := by
  have hm := MenuSource.issues_of_load h
  cases source with
  | embedded d =>
    have hd : d.load.value = .ok m := h
    simp only [openSource, openDeployment, Logged.value_bind, hd, openMenu_value p hm]
  | file path =>
    have hf : (Menu.loadFile files path).value = .ok m := h
    simp only [openSource, openFile, Logged.value_bind, hf, openMenu_value p hm]

lemma openSource_of_error (p : Preview) {files : FileSystem} {source : MenuSource} {e : LoadError}
    (h : (source.load files).value = .error e) :
    (p.openSource files source).value =
      (p.fail ("No se pudo abrir " ++ source.origin ++ ": " ++ e.message)).value := by
  cases source with
  | embedded d =>
    have hd : d.load.value = .error e := h
    simp only [openSource, openDeployment, Logged.value_bind, hd, MenuSource.origin]
  | file path =>
    have hf : (Menu.loadFile files path).value = .error e := h
    simp only [openSource, openFile, Logged.value_bind, hf, MenuSource.origin]

/-- Opening a source shows the root of its menu, or fails with a message. -/
lemma openSource_value (p : Preview) (files : FileSystem) (source : MenuSource) :
    (∃ m, (source.load files).value = .ok m ∧
      (p.openSource files source).value = p.showing m source []) ∨
    ∃ message, (p.openSource files source).value = (p.fail message).value := by
  cases h : (source.load files).value with
  | error e => exact .inr ⟨_, p.openSource_of_error h⟩
  | ok m => exact .inl ⟨m, rfl, p.openSource_of_ok h⟩

/-- Replaying a path that leads to an entry chooses all of its keys. -/
lemma replay_showing (p : Preview) {m : Menu} (source : MenuSource) {path : List String}
    (h : (m.entryAt? path).isSome) :
    ((p.showing m source []).replay path).value = p.showing m source path := by
  obtain ⟨hselector, hresult⟩ := Selector.selectPath_of_isSome (m.selectorAt (some [])) h
  simp only [replay, showing, hresult, hselector]
  rfl

/-- What a preview says of a remembered selection that has been refused. -/
def staleMessage (e : SelectionError) : String :=
  "La selección guardada ya no es válida: " ++ e.message

lemma staleMessage_ne_empty (e : SelectionError) : staleMessage e ≠ "" := by
  unfold staleMessage
  simp

/-- Replaying a path that leads to no entry chooses the keys up to where it leaves the menu. -/
lemma replay_of_none (p : Preview) {m : Menu} (source : MenuSource) {path : List String}
    (h : m.entryAt? path = none) :
    ∃ e key, m.entryAt? (m.root.reach path) = some e ∧
      path[(m.root.reach path).length]? = some key ∧
      ((p.showing m source []).replay path).value =
        { p.showing m source (m.root.reach path) with
          message := staleMessage (e.refusal (m.root.reach path).length key) } := by
  obtain ⟨e, key, he, hkey, hresult⟩ := Selector.selectPath_of_none (m.selectorAt (some [])) h
  have hselector := (Selector.selectPath_eq (m.selectorAt (some [])) path).1
  refine ⟨e, key, he, hkey, ?_⟩
  simp only [replay, showing, hresult, hselector]
  rfl

/-- Replaying any path leaves a started selector and the source. -/
lemma exists_replay_showing (p : Preview) (m : Menu) (source : MenuSource) (path : List String) :
    ∃ message reached, (m.entryAt? reached).isSome ∧
      ((p.showing m source []).replay path).value =
        { p.showing m source reached with message } := by
  cases hentry : m.entryAt? path with
  | some e =>
    have hsome := Option.isSome_of_eq_some hentry
    exact ⟨"", path, hsome, p.replay_showing source hsome⟩
  | none =>
    obtain ⟨e, key, he, -, hreplay⟩ := p.replay_of_none source hentry
    exact ⟨_, _, Option.isSome_of_eq_some he, hreplay⟩

lemma replay_of_selector_none {p : Preview} (h : p.selector = none) (path : List String) :
    p.replay path = pure p := by
  rw [replay, h]

lemma restore_of_source_none {p : Preview} (h : p.source = none) (files : FileSystem) :
    p.restore files = pure { p with savedSelection := [] } := by
  rw [restore, h]

/-- Restoring is opening the source again and replaying the remembered selection. -/
lemma restore_of_source {p : Preview} {source : MenuSource} (h : p.source = some source)
    (files : FileSystem) :
    p.restore files =
      ({ p with savedSelection := [] } : Preview).openSource files source >>=
        fun opened => opened.replay p.savedSelection := by
  rw [restore, h]
  cases source <;> rfl

/-- Restoring shows the remembered selection, if it leads to an entry of the menu of the source. -/
lemma restore_value {p : Preview} {source : MenuSource} (hs : p.source = some source)
    {files : FileSystem} {m : Menu} (hload : (source.load files).value = .ok m)
    (hsaved : (m.entryAt? p.savedSelection).isSome) :
    (p.restore files).value = p.showing m source p.savedSelection := by
  rw [restore_of_source hs, Logged.value_bind, openSource_of_ok _ hload,
    replay_showing _ source hsaved]
  rfl

/-! ### Moving in the open menu -/

/-- The preview with the keys of a path chosen in its menu, and no message. -/
def choosing (p : Preview) (m : Menu) (path : List String) : Preview :=
  { p with selector := some (m.selectorAt (some path)), message := "" }

/-- Choosing an option keeps the keys above its level and adds its own. -/
lemma choose_value {p : Preview} {m : Menu} {path : List String}
    (hs : p.selector = some (m.selectorAt (some path))) (h : (m.entryAt? path).isSome)
    {level : Nat} {key : String} (hl : level ≤ path.length)
    (hleads : (m.entryAt? (path.take level ++ [key])).isSome) :
    (p.choose level key).value = p.choosing m (path.take level ++ [key]) := by
  have hselect := Selector.perform_select h level key
  simp only [Selector.perform, Menu.next, Menu.accepts, decide_eq_true hl, hleads, Bool.and_self,
    if_true, Prod.mk.injEq] at hselect
  obtain ⟨hselector, hok⟩ := hselect
  cases hr : ((m.selectorAt (some path)).select level key).result with
  | error e =>
    rw [hr] at hok
    cases hok
  | ok l => simp only [choose, hs, hr, hselector, choosing]

/-- What an event asks of the selector. -/
def Event.operation? : Event → Option Operation
  | .choose level key => some (.select level key)
  | .back => some .back
  | .resetSelection => some .start
  | _ => none

lemma after_of_operation {e : Event} {op : Operation} (h : e.operation? = some op) (p : Preview)
    (files : FileSystem) :
    ∃ message, p.after files e =
      { p with selector := p.selector.map fun s => (s.perform op).1, message } := by
  rcases p with ⟨source, saved, wraps, message, screen, selector⟩
  cases e with
  | choose level key =>
    obtain rfl := Option.some.inj h
    cases selector with
    | none => exact ⟨message, rfl⟩
    | some s =>
      cases hr : (s.select level key).result with
      | ok l => exact ⟨"", by simp [after, choose, hr, Selector.perform]⟩
      | error e => exact ⟨e.message, by simp [after, choose, hr, Selector.perform]⟩
  | back =>
    obtain rfl := Option.some.inj h
    cases selector with
    | none => exact ⟨message, rfl⟩
    | some s =>
      cases hr : s.back.result with
      | ok l => exact ⟨message, by simp [after, back, hr, Selector.perform]⟩
      | error e => exact ⟨e.message, by simp [after, back, hr, Selector.perform]⟩
  | resetSelection =>
    obtain rfl := Option.some.inj h
    cases selector with
    | none => exact ⟨"", rfl⟩
    | some s => exact ⟨"", rfl⟩
  | _ => cases h

lemma ne_teardown_of_operation? {e : Event} {op : Operation} (h : e.operation? = some op) :
    op ≠ .teardown := by
  cases e <;> simp only [Event.operation?, Option.some.injEq, reduceCtorEq] at h <;> subst h <;> simp

/-- Opening a menu file and choosing one option of its root. -/
lemma run_openFile_choose (p : Preview) {files : FileSystem} {path : String} {m : Menu}
    (h : ((MenuSource.file path).load files).value = .ok m) {key : String}
    (hkey : (m.entryAt? [key]).isSome) :
    p.run [(files, .openFile path), (files, .choose 0 key)] = p.showing m (.file path) [key] := by
  have hopen := p.openSource_of_ok h
  rw [openSource] at hopen
  have hroot := Option.isSome_of_eq_some (Menu.entryAt?_nil m)
  have hchoose := choose_value (p := p.showing m (.file path) []) rfl hroot (Nat.zero_le _) hkey
  simp only [run, List.foldl_cons, List.foldl_nil, after, hopen]
  exact hchoose

/-! ### What always holds -/

/-- A menu is open exactly while the cascade is on the screen. It has a source then, and a started
selector that can be reached. -/
structure Sound (p : Preview) : Prop where
  screen : p.screen = .cascade ↔ p.selector.isSome = true
  source : p.selector.isSome = true → p.source.isSome = true
  selector : ∀ s, p.selector = some s → Selector.Reachable s.menu s ∧ s.isStarted = true

lemma sound_of_selector_none {p : Preview} (hscreen : p.screen = .deployments)
    (hselector : p.selector = none) : p.Sound where
  screen := by simp [hscreen, hselector]
  source := by simp [hselector]
  selector := by simp [hselector]

lemma sound_fail (p : Preview) (message : String) : (p.fail message).value.Sound :=
  sound_of_selector_none rfl rfl

lemma sound_showing (p : Preview) {m : Menu} (hm : m.issues = []) (source : MenuSource)
    {path : List String} (h : (m.entryAt? path).isSome) (message : String) :
    ({ p.showing m source path with message } : Preview).Sound where
  screen := by simp [showing]
  source := by simp [showing]
  selector := by
    intro s hs
    obtain rfl : m.selectorAt (some path) = s := Option.some.inj hs
    exact Selector.reachable_started_iff.mpr ⟨hm, path, h, rfl⟩

lemma sound_openSource (p : Preview) (files : FileSystem) (source : MenuSource) :
    (p.openSource files source).value.Sound := by
  rcases p.openSource_value files source with ⟨m, hm, hvalue⟩ | ⟨message, hvalue⟩
  · rw [hvalue]
    exact p.sound_showing (MenuSource.issues_of_load hm) source
      (Option.isSome_of_eq_some (Menu.entryAt?_nil m)) ""
  · rw [hvalue]
    exact p.sound_fail message

lemma sound_restore {p : Preview} (h : p.Sound) (files : FileSystem) :
    (p.restore files).value.Sound := by
  cases hs : p.source with
  | none =>
    rw [restore_of_source_none hs]
    exact ⟨h.screen, h.source, h.selector⟩
  | some source =>
    rw [restore_of_source hs, Logged.value_bind]
    rcases openSource_value { p with savedSelection := [] } files source with
      ⟨m, hm, hvalue⟩ | ⟨message, hvalue⟩
    · obtain ⟨message, reached, hreached, hreplay⟩ :=
        exists_replay_showing { p with savedSelection := [] } m source p.savedSelection
      rw [hvalue, hreplay]
      exact sound_showing _ (MenuSource.issues_of_load hm) source hreached message
    · rw [hvalue, replay_of_selector_none rfl]
      exact sound_fail _ message

lemma sound_of_operation {p : Preview} (h : p.Sound) {op : Operation} (hop : op ≠ .teardown)
    (message : String) :
    ({ p with selector := p.selector.map fun s => (s.perform op).1, message } : Preview).Sound where
  screen := by
    rw [Option.isSome_map]
    exact h.screen
  source := by
    rw [Option.isSome_map]
    exact h.source
  selector := by
    intro t ht
    obtain ⟨s, hs, rfl⟩ := Option.map_eq_some_iff.mp ht
    have hreachable := h.selector s hs
    rw [Selector.menu_perform hreachable.1]
    exact Selector.perform_started hreachable hop

theorem sound_after {p : Preview} (h : p.Sound) (files : FileSystem) (e : Event) :
    (p.after files e).Sound := by
  cases hop : e.operation? with
  | some op =>
    obtain ⟨message, hafter⟩ := after_of_operation hop p files
    rw [hafter]
    exact sound_of_operation h (ne_teardown_of_operation? hop) message
  | none =>
    cases e with
    | openDeployment d => exact p.sound_openSource files (.embedded d)
    | openFile path => exact p.sound_openSource files (.file path)
    | restore => exact sound_restore h files
    | changeMenu => exact sound_of_selector_none rfl rfl
    | syncForSave => exact ⟨h.screen, h.source, h.selector⟩
    | toggleForm => exact ⟨h.screen, h.source, h.selector⟩
    | _ => cases hop

theorem sound_run {p : Preview} (h : p.Sound) (steps : List (FileSystem × Event)) :
    (p.run steps).Sound := by
  induction steps generalizing p with
  | nil => exact h
  | cons step steps ih => exact ih (sound_after h step.1 step.2)

/-- The previews of a session: it starts with whatever was remembered and goes on with any
events. -/
def Reachable (p : Preview) : Prop := ∃ saved steps, p = (ofSaved saved).run steps

lemma reachable_run (steps : List (FileSystem × Event)) : Reachable (({} : Preview).run steps) :=
  ⟨{}, steps, rfl⟩

/-- A session that starts from a storage restores what was remembered first. -/
lemma reachable_ofStorage (files : FileSystem) (storage : Option SavedPreview)
    (steps : List (FileSystem × Event)) : Reachable ((ofStorage files storage).value.run steps) :=
  ⟨storage.getD {}, (files, .restore) :: steps, rfl⟩

theorem sound_of_reachable {p : Preview} (h : p.Reachable) : p.Sound := by
  obtain ⟨saved, steps, rfl⟩ := h
  exact sound_run (sound_of_selector_none rfl rfl) steps

/-- No file is there. -/
def noFiles : FileSystem := fun _ => .error .notFound

/-! ### A sample menu file -/

/-- The file of a menu for teachers with two groups. The only exercise of the first one has an empty
key. -/
def sampleText : String :=
  "name: exams\nrole: teacher\nlocale: en\n" ++
  "labels:\n  submit: Send\n  source_files: Files\n  function_name: Function\n" ++
  "root:\n  key: Course\n  prompt: course\n  children:\n" ++
  "  - key: G1\n    submission:\n      exercises:\n      - key: \"\"\n        label: All\n" ++
  "  - key: G2\n    submission:\n      exercises:\n      - key: E1\n        label: First\n"

def sampleFiles : FileSystem := fun path =>
  if path = "menu.yaml" then .ok sampleText else .error .notFound

def sampleDescriptor (exercise label : String) : Descriptor :=
  ⟨"", true, [], true, false, false, [⟨exercise, label⟩], none⟩

/-- What a result without an error satisfies can be decided by evaluating it once. -/
lemma exists_ok_of_any {ε α : Type} {x : Except ε α} {P : α → Prop} [DecidablePred P]
    (h : x.toOption.any (fun a => decide (P a)) = true) : ∃ a, x = .ok a ∧ P a := by
  cases x with
  | error e => cases h
  | ok a => exact ⟨a, rfl, of_decide_eq_true h⟩

lemma exists_sample_menu :
    ∃ m, ((MenuSource.file "menu.yaml").load sampleFiles).value = .ok m ∧ m.role = .teacher ∧
      (m.selectorAt (some ["G1"])).descriptor? = some (sampleDescriptor "" "All") ∧
      (m.selectorAt (some ["G2"])).descriptor? = some (sampleDescriptor "E1" "First") ∧
      (m.entryAt? ["G1"]).isSome ∧ (m.entryAt? ["G2"]).isSome := by
  -- One evaluation of the loader for everything that is said of the menu.
  exact exists_ok_of_any (by decide +kernel)

end Preview

end CascadingForms
