import CascadingForms.Proofs.LeafPaths
import CascadingForms.Proofs.PreviewRuns
import CascadingForms.Proofs.ShownControls

/-!
# Selectors can be completed

No option of a dropdown leads into a dead end. Each one can be chosen, and whoever keeps choosing in
the last dropdown comes to a leaf: every choice takes the selector to a child of the entry where it
stands, and a child is less high than its parent. So the selections with which a selector can be
complete are the paths to the leaves of its menu.
-/

namespace CascadingForms

/-- The options of the dropdowns of a level. -/
def Level.Offers (l : Level) (choice : Choice) : Prop :=
  ∃ name placeholder options selected,
    .dropdown name placeholder options selected ∈ l.controls ∧ choice ∈ options

namespace Selector

/-- Whatever is chosen in the last level again and again, the selector is complete after at most so
many choices. Until then there is something to choose, and no choice is refused. -/
inductive CompletesWithin : Nat → Selector → Prop
  | complete {n : Nat} {s : Selector} (h : s.isComplete = true) : CompletesWithin n s
  | choose {n : Nat} {s : Selector} {l : Level} (hlast : s.levels.getLast? = some l)
      (hoffers : ∃ choice, l.Offers choice)
      (haccepts : ∀ choice, l.Offers choice →
        (s.select (s.levels.length - 1) choice.key).result.isOk = true)
      (h : ∀ choice, l.Offers choice →
        CompletesWithin n (s.select (s.levels.length - 1) choice.key).selector) :
      CompletesWithin (n + 1) s

/-- A selector of a menu from which every way leads on to a leaf. -/
structure NoDeadEnds (m : Menu) (s : Selector) : Prop where
  accepts : ∀ (level : Nat) l, s.levels[level]? = some l → ∀ choice, l.Offers choice →
    (s.select level choice.key).result.isOk = true
  goesOn : s.isComplete = false → ∃ l, s.levels.getLast? = some l ∧ l.isDropdown = true ∧
    ∃ choice, l.Offers choice
  completes : CompletesWithin (m.height - s.selection.length) s

end Selector

namespace Entry

variable {e : Entry} {choice : Choice}

/-- The level of an entry offers the children of the entry, and that of a leaf nothing. -/
lemma offers_level_iff (labels : Labels) (depth : Nat) (selected : Option String) :
    (e.level labels depth selected).Offers choice ↔ e.isLeaf = false ∧ choice ∈ e.choices := by
  cases hl : e.isLeaf with
  | false =>
    simp [Level.Offers, level, controlsShowing_of_isLeaf_false hl]
  | true =>
    have hcontrols : (e.level labels depth selected).controls = e.controls labels :=
      controlsShowing_of_isLeaf hl labels selected
    constructor
    · rintro ⟨name, placeholder, options, shown, hmem, -⟩
      rw [hcontrols, controls, if_pos hl] at hmem
      cases hd : e.descriptor with
      | none => simp [hd] at hmem
      | some d =>
        rw [hd] at hmem
        cases Descriptor.isDropdown_of_mem_controls hmem
    · rintro ⟨h, -⟩
      cases h

lemma exists_child?_of_mem_choices (h : choice ∈ e.choices) :
    ∃ child, e.child? choice.key = some child := by
  obtain ⟨child, hc, rfl⟩ := List.mem_map.mp h
  apply Option.ne_none_iff_exists'.mp
  intro hnone
  exact (child?_eq_none_iff e child.key).mp hnone (List.mem_map_of_mem hc)

lemma exists_mem_choices (h : e.isLeaf = false) : ∃ choice, choice ∈ e.choices := by
  have hne : e.children ≠ [] := by simpa [isLeaf] using h
  obtain ⟨child, hc⟩ := List.exists_mem_of_ne_nil _ hne
  exact ⟨_, List.mem_map_of_mem hc⟩

end Entry

namespace Selector

variable {m : Menu} {p : List String} {d : Entry}

/-- An option that a level offers leads to a child of the entry there. -/
lemma select_offered (h : (m.entryAt? p).isSome) {level : Nat} {l : Level}
    (hl : (m.selectorAt (some p)).levels[level]? = some l) {choice : Choice}
    (hoffers : l.Offers choice) :
    ∃ e child, m.entryAt? (p.take level) = some e ∧ e.child? choice.key = some child ∧
      ((m.selectorAt (some p)).select level choice.key).selector =
        m.selectorAt (some (p.take level ++ [choice.key])) ∧
      ((m.selectorAt (some p)).select level choice.key).result.isOk = true := by
  obtain ⟨hle, e, he, rfl⟩ := getElem?_levels_selectorAt h hl
  obtain ⟨-, hmem⟩ := (Entry.offers_level_iff _ _ _).mp hoffers
  obtain ⟨child, hc⟩ := Entry.exists_child?_of_mem_choices hmem
  exact ⟨e, child, he, hc, select_of_child? h hle he hc⟩

/-- The height of the entry where a selector stands bounds the choices that are left. -/
theorem completesWithin_of_height_le (hm : m.issues = []) (hd : m.entryAt? p = some d) {n : Nat}
    (hn : d.height ≤ n) : CompletesWithin n (m.selectorAt (some p)) := by
  induction d using Entry.induction generalizing p n with
  | h d ih =>
    have hp := Option.isSome_of_eq_some hd
    cases hl : d.isLeaf with
    | true => exact .complete (by rw [isComplete_selectorAt hm hd, hl])
    | false =>
      have hlast := getLast?_levels_selectorAt hd
      have hlength : (m.selectorAt (some p)).levels.length - 1 = p.length := by
        rw [length_levels_selectorAt hp, Nat.add_sub_cancel]
      have hlevel : (m.selectorAt (some p)).levels[p.length]? =
          some (d.level m.labels p.length none) := by
        rw [← hlast, List.getLast?_eq_getElem?, hlength]
      obtain ⟨choice, hchoice⟩ := Entry.exists_mem_choices hl
      obtain ⟨child, hc⟩ := Entry.exists_child?_of_mem_choices hchoice
      obtain ⟨n, rfl⟩ : ∃ k, n = k + 1 := by
        have hlt := Entry.height_lt_of_mem (Entry.mem_children_of_child? hc)
        exact ⟨n - 1, by omega⟩
      refine .choose hlast ⟨choice, (Entry.offers_level_iff _ _ _).mpr ⟨hl, hchoice⟩⟩ ?_ ?_
      · intro choice hoffers
        rw [hlength]
        obtain ⟨-, -, -, -, -, hok⟩ := select_offered hp hlevel hoffers
        exact hok
      · intro choice hoffers
        obtain ⟨e, child, he, hc, hselector, -⟩ := select_offered hp hlevel hoffers
        rw [List.take_length] at he hselector
        obtain rfl := Option.some.inj (hd.symm.trans he)
        have hmem := Entry.mem_children_of_child? hc
        have hlt := Entry.height_lt_of_mem hmem
        have hchild : m.entryAt? (p ++ [choice.key]) = some child := by
          rw [Menu.entryAt?_concat hd, hc]
        rw [hlength, hselector]
        exact ih child hmem hchild (by omega)

lemma noDeadEnds_selectorAt (hm : m.issues = []) (hd : m.entryAt? p = some d) :
    NoDeadEnds m (m.selectorAt (some p)) where
  accepts := by
    intro level l hl choice hoffers
    obtain ⟨-, -, -, -, -, hok⟩ := select_offered (Option.isSome_of_eq_some hd) hl hoffers
    exact hok
  goesOn := by
    intro hopen
    rw [isComplete_selectorAt hm hd] at hopen
    obtain ⟨choice, hchoice⟩ := Entry.exists_mem_choices hopen
    refine ⟨_, getLast?_levels_selectorAt hd, ?_, choice, ?_⟩
    · rw [Entry.level, Entry.controlsShowing_of_isLeaf_false hopen]
      rfl
    · exact (Entry.offers_level_iff _ _ _).mpr ⟨hopen, hchoice⟩
  completes := by
    have hheight : p.length + d.height ≤ m.height := Entry.length_add_height_le hd
    apply completesWithin_of_height_le hm hd
    exact Nat.le_sub_of_add_le' hheight

lemma exists_complete_iff (hm : m.issues = []) :
    (∃ s, Reachable m s ∧ s.isComplete = true ∧ s.selection = p) ↔ p ∈ m.leaves.map Prod.fst := by
  constructor
  · rintro ⟨s, hs, hcomplete, rfl⟩
    obtain ⟨-, position, hpos, rfl⟩ := reachable_iff.mp hs
    cases position with
    | none =>
      rw [isComplete_none hm] at hcomplete
      cases hcomplete
    | some p =>
      obtain ⟨leaf, hleaf⟩ := Option.isSome_iff_exists.mp hpos
      rw [isComplete_selectorAt hm hleaf] at hcomplete
      exact List.mem_map.mpr ⟨(p, leaf), (Menu.mem_leaves_iff hm p leaf).mpr ⟨hleaf, hcomplete⟩, rfl⟩
  · intro hlisted
    obtain ⟨⟨p, leaf⟩, hmem, rfl⟩ := List.mem_map.mp hlisted
    obtain ⟨hleaf, hl⟩ := (Menu.mem_leaves_iff hm p leaf).mp hmem
    refine ⟨m.selectorAt (some p), ?_, ?_, rfl⟩
    · exact reachable_iff.mpr ⟨hm, some p, Option.isSome_of_eq_some hleaf, rfl⟩
    · rw [isComplete_selectorAt hm hleaf, hl]

/-- Wherever a started selector over an accepted menu has come to, every option that it shows can be
chosen, and going on in its last dropdown completes it before the height of the menu is used up. It
can be complete with the paths to the leaves and with no other selection. -/
theorem leaves_complete_selectors (hm : m.issues = []) :
    (∀ s, Reachable m s → s.isStarted = true → NoDeadEnds m s) ∧
      ∀ p, (∃ s, Reachable m s ∧ s.isComplete = true ∧ s.selection = p) ↔
        p ∈ m.leaves.map Prod.fst := by
  constructor
  · intro s hs hstarted
    obtain ⟨-, p, hp, rfl⟩ := reachable_started_iff.mp ⟨hs, hstarted⟩
    obtain ⟨d, hd⟩ := Option.isSome_iff_exists.mp hp
    exact noDeadEnds_selectorAt hm hd
  · intro p
    exact exists_complete_iff hm

/-- In the sample, after a detour that ends at a course, and for two selections of which only one is
complete. -/
theorem leaves_complete_selectors_of_sample :
    (Menu.sample .student).issues = [] ∧
      NoDeadEnds (Menu.sample .student) (((Menu.sample .student).selectorAt none).run sampleRun) ∧
      (∃ s, Reachable (Menu.sample .student) s ∧ s.isComplete = true ∧
        s.selection = ["Algo", "Ex2", "Q2"]) ∧
      ¬∃ s, Reachable (Menu.sample .student) s ∧ s.isComplete = true ∧
        s.selection = ["Algo", "Ex2"] := by
  have hissues := Menu.issues_sample .student
  obtain ⟨hends, hcomplete⟩ := leaves_complete_selectors hissues
  have hreachable : Reachable (Menu.sample .student)
      (((Menu.sample .student).selectorAt none).run sampleRun) :=
    ⟨_, sampleRun, ofMenu_of_issues hissues, rfl⟩
  refine ⟨hissues, hends _ hreachable (by decide +kernel), ?_, ?_⟩
  · exact (hcomplete _).mpr (by decide +kernel)
  · exact fun hopen => absurd ((hcomplete _).mp hopen) (by decide +kernel)

end Selector

end CascadingForms
