import CascadingForms.Preview.Screen
import CascadingForms.Proofs.PreviewRuns
import CascadingForms.Proofs.WellFormedMenus
import Mathlib.Logic.Relation

/-!
# Runs on the screen

A user of the preview can only click on widgets and pick options in combo boxes. Every option that
a box shows can be chosen: the levels on the screen are those of the open menu, and no two children
of an entry share a key, so the key of an option leads to the entry with its label. Therefore no run
of gestures ever brings up a message.
-/

namespace CascadingForms

namespace Logged

instance : LawfulMonad Logged :=
  LawfulMonad.mk' Logged
    (fun x => by simp [Functor.map, bind])
    (fun x f => by simp [Pure.pure, Bind.bind, bind])
    (fun x f g => by simp [Bind.bind, bind])

lemma value_mapM {α β : Type} (f : α → Logged β) (l : List α) :
    (l.mapM f).value = l.map fun a => (f a).value := by
  induction l with
  | nil => rfl
  | cons a l ih => simp only [List.mapM_cons, value_bind, value_pure, List.map_cons, ih]

end Logged

namespace DeploymentInfo

/-- A built-in menu that is listed without an error can be loaded. -/
lemma exists_load_of_isOk {i : DeploymentInfo} (hi : i ∈ all.value) (hok : i.isOk = true) :
    ∃ m, i.deployment.load.value = .ok m := by
  rw [all, Logged.value_mapM] at hi
  obtain ⟨d, -, rfl⟩ := List.mem_map.mp hi
  cases hload : d.load.value with
  | ok m =>
    have hsame : (ofDeployment d).value.deployment = d := by
      rw [ofDeployment, Logged.value_bind, hload]
      rfl
    exact ⟨m, by rw [hsame, hload]⟩
  | error e =>
    have herror : (ofDeployment d).value.error = some e.message := by
      rw [ofDeployment, Logged.value_bind, hload]
      rfl
    rw [isOk, herror] at hok
    cases hok

end DeploymentInfo

namespace Widget

lemma action_of_mem_ofControl {w : Widget} {c : Control} (hw : w ∈ ofControl c) :
    w.action = none := by
  cases c <;> simp only [ofControl, List.mem_cons, List.mem_map, List.not_mem_nil, or_false] at hw
  case exercisePicker name multiple options =>
    rcases hw with rfl | ⟨o, -, rfl⟩ <;> rfl
  all_goals rw [hw]; rfl

lemma exists_load_of_mem_ofInfo {i : DeploymentInfo} (hi : i ∈ DeploymentInfo.all.value)
    {w : Widget} (hw : w ∈ ofInfo i) {d : Deployment}
    (hd : w.action = some (.openDeployment d)) : ∃ m, d.load.value = .ok m := by
  rcases List.mem_cons.mp hw with rfl | herror
  · by_cases hok : i.isOk = true
    · rw [if_pos hok] at hd
      cases hd
      exact DeploymentInfo.exists_load_of_isOk hi hok
    · rw [if_neg hok] at hd
      cases hd
  · obtain ⟨error, -, rfl⟩ := List.mem_map.mp herror
    cases hd

lemma action_of_mem_ofLevel {w : Widget} {v : LevelView} (hw : w ∈ ofLevel v) :
    w.action = none := by
  rcases List.mem_pair.mp hw with rfl | rfl <;> rfl

end Widget

namespace LevelView

/-- The combo box of an entry at some level. -/
def ofEntry (e : Entry) (level : Nat) (selected : Option String) : LevelView :=
  ⟨level, e.key, "-- " ++ e.prompt.getD "" ++ " --", e.choices, selected⟩

lemma ofLevel?_entry (e : Entry) (labels : Labels) (level : Nat) (selected : Option String) :
    ofLevel? ⟨level, e.key, e.controlsShowing labels selected⟩ =
      if e.isLeaf then none else some (ofEntry e level selected) := by
  cases hl : e.isLeaf with
  | true =>
    rw [Entry.controlsShowing_of_isLeaf hl, Entry.controls, if_pos hl]
    cases e.descriptor <;> rfl
  | false =>
    rw [Entry.controlsShowing_of_isLeaf_false hl]
    rfl

end LevelView

/-- The combo box at a level of a path belongs to the entry there, if that has children, and has the
next key of the path selected. -/
def Menu.ShowsBox (m : Menu) (path : List String) (level : Nat) (box : LevelView) : Prop :=
  ∃ e, level ≤ path.length ∧ m.entryAt? (path.take level) = some e ∧ e.isLeaf = false ∧
    box = LevelView.ofEntry e level path[level]?

lemma Menu.ShowsBox.level_eq {m : Menu} {path : List String} {level : Nat} {box : LevelView}
    (h : m.ShowsBox path level box) : box.level = level := by
  obtain ⟨e, -, -, -, rfl⟩ := h
  rfl

lemma Menu.ShowsBox.unique {m : Menu} {path : List String} {level : Nat} {box box' : LevelView}
    (h : m.ShowsBox path level box) (h' : m.ShowsBox path level box') : box = box' := by
  obtain ⟨e, -, he, -, rfl⟩ := h
  obtain ⟨e', -, he', -, rfl⟩ := h'
  rw [Option.some.inj (he.symm.trans he')]

namespace Preview

/-- What a user can do to the preview: click on a widget of the screen, or pick an option that a
combo box shows. -/
inductive Gesture (p : Preview) : Preview → Prop
  | click {w : Widget} {a : Action} (hw : w ∈ p.widgets) (ha : w.action = some a) :
    Gesture p (p.perform a).value
  | pick {level number : Nat} {box : LevelView} (hbox : p.comboBox? level = some box)
    (hnumber : number < box.options.length) : Gesture p (p.pick box number).value

/-- A combo box lists the children of the entry at its level by their labels and shows which one is
chosen. Picking another one chooses that child in place of everything from the level on. -/
structure Offers (p : Preview) (s : Selector) (level : Nat) (e : Entry) (box : LevelView) :
    Prop where
  level_le : level ≤ s.selection.length
  entry : s.menu.entryAt? (s.selection.take level) = some e
  labels : box.options.map Choice.label = e.children.map Entry.label
  selected : box.selected = s.selection[level]?
  leads : ∀ child ∈ e.children,
    s.menu.entryAt? (s.selection.take level ++ [child.key]) = some child
  picks : ∀ number child, e.children[number]? = some child →
    (p.pick box number).value =
      if s.selection[level]? = some child.key then p
      else p.choosing s.menu (s.selection.take level ++ [child.key])

/-- How a preview responds while a menu is open: every level with children has a combo box, every
box is in order, and neither going back nor starting over fails. -/
structure Responds (p : Preview) (s : Selector) : Prop where
  shows : ∀ level e, level ≤ s.selection.length →
    s.menu.entryAt? (s.selection.take level) = some e → e.isLeaf = false →
      ∃ box, p.comboBox? level = some box
  offers : ∀ level box, p.comboBox? level = some box → ∃ e, p.Offers s level e box
  back : s.back.result = .ok () ∧ p.back.value =
    { p with selector := some (s.menu.selectorAt (some s.selection.dropLast)) }
  reset : p.resetSelection.value = p.choosing s.menu []

variable {p : Preview} {m : Menu} {path : List String}

lemma mem_levelViews_iff (hs : p.selector = some (m.selectorAt (some path)))
    (hpath : (m.entryAt? path).isSome) (box : LevelView) :
    box ∈ p.levelViews ↔ ∃ level, m.ShowsBox path level box := by
  have hshows := Selector.shows_selectorAt hpath
  rw [levelViews, hs, List.mem_filterMap]
  constructor
  · rintro ⟨l, hl, hbox⟩
    obtain ⟨level, hlevel⟩ := List.mem_iff_getElem?.mp hl
    have hlt : level < path.length + 1 := by
      rw [← hshows.length_levels]
      exact (List.getElem?_eq_some_iff.mp hlevel).1
    have hle : level ≤ path.length := by omega
    obtain ⟨e, he, hshown⟩ := hshows.level level hle
    obtain rfl := Option.some.inj (hlevel.symm.trans hshown)
    rw [LevelView.ofLevel?_entry] at hbox
    by_cases hleaf : e.isLeaf = true
    · rw [if_pos hleaf] at hbox
      cases hbox
    · rw [if_neg hleaf] at hbox
      exact ⟨level, e, hle, he, Bool.not_eq_true _ ▸ hleaf, (Option.some.inj hbox).symm⟩
  · rintro ⟨level, e, hle, he, hleaf, rfl⟩
    obtain ⟨d, hd, hshown⟩ := hshows.level level hle
    obtain rfl := Option.some.inj (he.symm.trans hd)
    refine ⟨_, List.mem_of_getElem? hshown, ?_⟩
    rw [LevelView.ofLevel?_entry, hleaf]
    rfl

lemma comboBox?_eq_some_iff (hscreen : p.screen = .cascade)
    (hs : p.selector = some (m.selectorAt (some path))) (hpath : (m.entryAt? path).isSome)
    (level : Nat) (box : LevelView) :
    p.comboBox? level = some box ↔ m.ShowsBox path level box := by
  have hfind : p.comboBox? level = p.levelViews.find? (·.level = level) := by
    rw [comboBox?, hscreen]
  have hbox : ∀ box, p.comboBox? level = some box → m.ShowsBox path level box := by
    intro box h
    rw [hfind] at h
    obtain ⟨i, hi⟩ := (mem_levelViews_iff hs hpath box).mp (List.mem_of_find?_eq_some h)
    have hlevel : box.level = level := by simpa using List.find?_some h
    rwa [← hlevel, hi.level_eq]
  constructor
  · exact hbox box
  · intro h
    have hmem := (mem_levelViews_iff hs hpath box).mpr ⟨level, h⟩
    have hsome : (p.comboBox? level).isSome := by
      rw [hfind, List.find?_isSome]
      exact ⟨box, hmem, decide_eq_true h.level_eq⟩
    obtain ⟨found, hfound⟩ := Option.isSome_iff_exists.mp hsome
    rw [hfound, h.unique (hbox found hfound)]

lemma pick_value (hs : p.selector = some (m.selectorAt (some path)))
    (hpath : (m.entryAt? path).isSome) {level : Nat} (hle : level ≤ path.length) {e : Entry}
    (he : m.entryAt? (path.take level) = some e) {number : Nat} {child : Entry}
    (hnumber : e.children[number]? = some child) (hchild : e.child? child.key = some child) :
    (p.pick (LevelView.ofEntry e level path[level]?) number).value =
      if path[level]? = some child.key then p
      else p.choosing m (path.take level ++ [child.key]) := by
  have hoption : (LevelView.ofEntry e level path[level]?).options[number]? =
      some ⟨child.key, child.label⟩ := by
    simp [LevelView.ofEntry, Entry.choices, hnumber]
  have hleads : (m.entryAt? (path.take level ++ [child.key])).isSome := by
    rw [Menu.entryAt?_concat he, hchild, Option.isSome_some]
  rw [pick, hoption]
  by_cases hselected : path[level]? = some child.key
  · simp [LevelView.ofEntry, hselected, Logged.value_pure]
  · have hchoose := choose_value hs hpath hle hleads
    simp [LevelView.ofEntry, hselected, hchoose]

/-- Over an open menu only the top bar can be clicked. -/
lemma mem_topBar_of_action {p : Preview} {w : Widget} (hw : w ∈ p.cascadeWidgets)
    (ha : w.action ≠ none) : w ∈ Widget.topBar := by
  have hinert {text : String} (h : w = Widget.inert text) : w ∈ Widget.topBar := by
    rw [h] at ha
    exact absurd rfl ha
  simp only [cascadeWidgets, List.mem_append] at hw
  -- Everything below the top bar only shows a text.
  rcases hw with ((((hbar | htitle) | hlevel) | hfield) | htext) | hdecoded
  · exact hbar
  · split at htitle
    · cases htitle
    · rcases List.mem_pair.mp htitle with h | h <;> exact hinert h
  · obtain ⟨v, -, hv⟩ := List.mem_flatMap.mp hlevel
    exact absurd (Widget.action_of_mem_ofLevel hv) ha
  · obtain ⟨c, -, hc⟩ := List.mem_flatMap.mp hfield
    exact absurd (Widget.action_of_mem_ofControl hc) ha
  · simp only [List.mem_cons, List.not_mem_nil, or_false] at htext
    rcases htext with h | h | h <;> exact hinert h
  · split at hdecoded
    · cases hdecoded
    · rcases List.mem_pair.mp hdecoded with h | h <;> exact hinert h

/-- The top bar is there whenever a menu is open. -/
lemma mem_widgets_of_mem_topBar (hscreen : p.screen = .cascade) {w : Widget}
    (hw : w ∈ Widget.topBar) : w ∈ p.widgets := by
  have htext : w.text.isEmpty = false := by
    simp only [Widget.topBar, List.mem_cons, List.not_mem_nil, or_false] at hw
    rcases hw with rfl | rfl | rfl | rfl <;> decide
  rw [widgets, hscreen]
  refine List.mem_filter.mpr ⟨?_, by rw [htext, Bool.not_false]⟩
  simp only [cascadeWidgets, List.append_assoc]
  exact List.mem_append_left _ hw

/-- Only a built-in menu that can be loaded can be opened by a click. -/
lemma exists_load_of_mem_widgets {p : Preview} {w : Widget} (hw : w ∈ p.widgets) {d : Deployment}
    (hd : w.action = some (.openDeployment d)) : ∃ m, d.load.value = .ok m := by
  have hmem := (List.mem_filter.mp hw).1
  cases hscreen : p.screen with
  | deployments =>
    rw [hscreen] at hmem
    simp only [deploymentWidgets, List.mem_append] at hmem
    rcases hmem with (htitle | hlist) | hlast
    · rcases List.mem_pair.mp htitle with rfl | rfl <;> cases hd
    · obtain ⟨i, hi, hmem⟩ := List.mem_flatMap.mp hlist
      exact Widget.exists_load_of_mem_ofInfo hi hmem hd
    · rcases List.mem_pair.mp hlast with rfl | rfl <;> cases hd
  | cascade =>
    rw [hscreen] at hmem
    have hbar := mem_topBar_of_action hmem (by simp [hd])
    simp only [Widget.topBar, List.mem_cons, List.not_mem_nil, or_false] at hbar
    rcases hbar with rfl | rfl | rfl | rfl <;> cases hd

lemma back_value (hs : p.selector = some (m.selectorAt (some path)))
    (hpath : (m.entryAt? path).isSome) :
    (m.selectorAt (some path)).back.result = .ok () ∧
      p.back.value = { p with selector := some (m.selectorAt (some path.dropLast)) } := by
  have hperform := Selector.perform_back hpath
  have hselector := congrArg Prod.fst hperform
  have hok := congrArg Prod.snd hperform
  have hresult := eq_ok_of_isOk hok
  refine ⟨hresult, ?_⟩
  simp only [Selector.perform] at hselector
  simp only [back, hs, hresult, hselector]

lemma resetSelection_value (hs : p.selector = some (m.selectorAt (some path))) :
    p.resetSelection.value = p.choosing m [] := by
  simp only [resetSelection, hs, Logged.value_bind, Logged.value_pure, Selector.start_value]
  rfl

/-! ### One gesture -/

theorem responds_of_sound (h : p.Sound) {s : Selector} (hs : p.selector = some s) :
    p.Responds s := by
  have hscreen : p.screen = .cascade := h.screen.mpr (Option.isSome_of_eq_some hs)
  obtain ⟨hat, hpath⟩ := Selector.selectorAt_selection (h.selector s hs)
  have hissues := (Selector.reachable_started_iff.mp (h.selector s hs)).1
  have hs' : p.selector = some (s.menu.selectorAt (some s.selection)) := by rw [hat, hs]
  have hboxes := comboBox?_eq_some_iff hscreen hs' hpath
  refine ⟨?_, ?_, ?_, resetSelection_value hs'⟩
  · intro level e hle he hleaf
    exact ⟨_, (hboxes level _).mpr ⟨e, hle, he, hleaf, rfl⟩⟩
  · intro level box hbox
    obtain ⟨e, hle, he, hleaf, rfl⟩ := (hboxes level box).mp hbox
    have hkeys := Menu.nodup_childKeys_of_holds hissues (Menu.holds_of_entryAt? he)
    -- Labels may repeat among the children, but keys do not, so each key finds its own child.
    refine ⟨e, hle, he, ?_, rfl, ?_, ?_⟩
    · simp [LevelView.ofEntry, Entry.choices]
    · intro child hchild
      rw [Menu.entryAt?_concat he, Entry.child?_of_mem hkeys hchild]
    · intro number child hnumber
      have hchild := Entry.child?_of_mem hkeys (List.mem_of_getElem? hnumber)
      exact pick_value hs' hpath hle he hnumber hchild
  · have hback := back_value hs' hpath
    rwa [hat] at hback

lemma sound_perform (h : p.Sound) (a : Action) : (p.perform a).value.Sound := by
  cases a with
  | changeMenu => exact sound_after h noFiles .changeMenu
  | back => exact sound_after h noFiles .back
  | resetSelection => exact sound_after h noFiles .resetSelection
  | toggleForm => exact sound_after h noFiles .toggleForm
  | openDeployment d => exact sound_after h noFiles (.openDeployment d)
  | close => exact h

lemma sound_pick (h : p.Sound) (box : LevelView) (number : Nat) :
    (p.pick box number).value.Sound := by
  rw [pick]
  split
  · exact h
  · rename_i choice _
    split
    · exact h
    · exact sound_after h noFiles (.choose box.level choice.key)

/-- A click brings up no message: going back succeeds, and so does opening a built-in menu that can
be clicked. -/
lemma message_perform (h : p.Sound) {w : Widget} (hw : w ∈ p.widgets) {a : Action}
    (ha : w.action = some a) :
    (p.perform a).value.message = p.message ∨ (p.perform a).value.message = "" := by
  cases a with
  | changeMenu => exact .inr rfl
  | toggleForm => exact .inl rfl
  | close => exact .inl rfl
  | back =>
    left
    cases hs : p.selector with
    | none => simp only [perform, back, hs, Logged.value_pure]
    | some s =>
      have hback := (responds_of_sound h hs).back.2
      rw [perform, hback]
  | resetSelection =>
    right
    cases hs : p.selector with
    | none => simp only [perform, resetSelection, hs, Logged.value_pure]
    | some s =>
      have hreset := (responds_of_sound h hs).reset
      rw [perform, hreset, choosing]
  | openDeployment d =>
    right
    obtain ⟨m, hload⟩ := exists_load_of_mem_widgets hw ha
    have hsource : ((MenuSource.embedded d).load noFiles).value = .ok m := hload
    have hopen := p.openSource_of_ok hsource
    rw [openSource] at hopen
    rw [perform, hopen, showing]

lemma message_pick (h : p.Sound) {level number : Nat} {box : LevelView}
    (hbox : p.comboBox? level = some box) (hnumber : number < box.options.length) :
    (p.pick box number).value.message = p.message ∨ (p.pick box number).value.message = "" := by
  have hscreen : p.screen = .cascade := by
    cases hscreen : p.screen with
    | deployments =>
      rw [comboBox?, hscreen] at hbox
      cases hbox
    | cascade => rfl
  obtain ⟨s, hs⟩ := Option.isSome_iff_exists.mp (h.screen.mp hscreen)
  obtain ⟨e, hoffers⟩ := (responds_of_sound h hs).offers level box hbox
  have hlength : box.options.length = e.children.length := by
    simpa using congrArg List.length hoffers.labels
  rw [hlength] at hnumber
  rw [hoffers.picks number _ (List.getElem?_eq_getElem hnumber)]
  split
  · exact .inl rfl
  · exact .inr rfl

theorem sound_gesture {q : Preview} (hp : p.Sound) (h : Gesture p q) :
    q.Sound ∧ (q.message = p.message ∨ q.message = "") := by
  cases h with
  | click hw ha => exact ⟨sound_perform hp _, message_perform hp hw ha⟩
  | pick hbox hnumber => exact ⟨sound_pick hp _ _, message_pick hp hbox hnumber⟩

/-! ### Runs of gestures -/

theorem sound_gestures {q : Preview} (hp : p.Sound) (h : Relation.ReflTransGen Gesture p q) :
    q.Sound ∧ (q.message = p.message ∨ q.message = "") := by
  -- The message is the one at the start until some gesture clears it, and empty from then on.
  induction h with
  | refl => exact ⟨hp, .inl rfl⟩
  | tail _ hlast ih =>
    obtain ⟨hsound, hmessage⟩ := ih
    obtain ⟨hnext, hkept | hcleared⟩ := sound_gesture hsound hlast
    · rw [hkept]
      exact ⟨hnext, hmessage⟩
    · exact ⟨hnext, .inr hcleared⟩

/-- From any sound preview, as all those of a session are, and after any gestures: an open menu goes
on responding to each of them, and no message has appeared where there was none. -/
theorem screen_never_fails {q : Preview} (hp : p.Sound) (h : Relation.ReflTransGen Gesture p q) :
    (∀ s, q.selector = some s → q.Responds s) ∧ (p.message = "" → q.message = "") := by
  obtain ⟨hsound, hmessage⟩ := sound_gestures hp h
  refine ⟨fun s hs => responds_of_sound hsound hs, ?_⟩
  intro hempty
  rcases hmessage with hkept | hcleared
  · rw [hkept, hempty]
  · exact hcleared

/-- From an exercise of the sample to the other course, and back to where nothing is chosen. -/
theorem screen_never_fails_at_sample :
    ∃ p q : Preview, ∃ s, p.Sound ∧ p.currentSelection = ["Algo", "Ex1"] ∧ p.message = "" ∧
      Relation.ReflTransGen Gesture p q ∧ q.selector = some s ∧ s.selection = [] ∧
        q.Responds s ∧ q.message = "" := by
  let m := Menu.sample .student
  let p := ({} : Preview).showing m (.file "menu.yaml") ["Algo", "Ex1"]
  have hissues := Menu.issues_sample .student
  have hexercise : (m.entryAt? ["Algo", "Ex1"]).isSome := by decide
  have hcourse : (m.entryAt? ["Unix"]).isSome := by decide
  have hsound : p.Sound := sound_showing {} hissues (.file "menu.yaml") hexercise ""
  have hpick : Gesture p (p.choosing m ["Unix"]) := by
    have hbox : p.comboBox? 0 = some (LevelView.ofEntry m.root 0 ["Algo", "Ex1"][0]?) :=
      (comboBox?_eq_some_iff rfl rfl hexercise 0 _).mpr ⟨m.root, by decide, rfl, rfl, rfl⟩
    have hunix : m.root.children[1]? = some (m.root.children.getLast (by decide)) := rfl
    have hvalue := pick_value (p := p) rfl hexercise (Nat.zero_le 2) rfl hunix rfl
    rw [if_neg (by decide)] at hvalue
    have hgesture := Gesture.pick hbox (by decide : 1 < 2)
    rwa [hvalue] at hgesture
  have hback : Gesture (p.choosing m ["Unix"]) (p.choosing m []) := by
    have hbutton : Widget.button "⬅ Atrás" .back ∈ (p.choosing m ["Unix"]).widgets :=
      mem_widgets_of_mem_topBar rfl (List.mem_cons_of_mem _ List.mem_cons_self)
    have hvalue := (back_value (p := p.choosing m ["Unix"]) rfl hcourse).2
    have hgesture := Gesture.click hbutton rfl
    rwa [perform, hvalue] at hgesture
  have hrun := (Relation.ReflTransGen.single hpick).tail hback
  obtain ⟨hresponds, hmessage⟩ := screen_never_fails hsound hrun
  exact ⟨p, _, _, hsound, rfl, rfl, hrun, rfl, rfl, hresponds _ rfl, hmessage rfl⟩

end Preview

end CascadingForms
