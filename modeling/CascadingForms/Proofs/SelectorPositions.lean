import CascadingForms.Proofs.MenuIssues
import CascadingForms.Proofs.SelectorLevels

/-!
# Selectors as positions in a menu

A selector keeps the chosen keys and the rendered levels apart and changes each on its own. This
file compares it with a machine that keeps nothing but its position: `none` before the start, and
afterwards the path of the chosen keys. `Menu.selectorAt` gives the one selector that shows a
position, and every operation takes the selector of a position to the selector of the next one.
So what a selector shows depends on its menu and its position, and not on how it came there.
-/

namespace CascadingForms

@[simp] lemma isOk_ok {ε α : Type} (a : α) : (Except.ok a : Except ε α).isOk = true := rfl

@[simp] lemma isOk_error {ε α : Type} (e : ε) : (Except.error e : Except ε α).isOk = false := rfl

lemma eq_ok_of_isOk {ε : Type} {x : Except ε Unit} (h : x.isOk = true) : x = .ok () := by
  cases x with
  | error e => cases h
  | ok found => rfl

/-- What can be asked of a selector. -/
inductive Operation where
  | start
  | teardown
  | select (level : Nat) (key : String)
  | resetTo (level : Nat)
  | back
  | selectPath (keys : List String)

namespace Selector

/-- The selector that an operation leaves, and whether the operation was accepted. -/
def perform (s : Selector) : Operation → Selector × Bool
  | .start => (s.start.value, true)
  | .teardown => (s.teardown, true)
  | .select level key => ((s.select level key).selector, (s.select level key).result.isOk)
  | .resetTo level => ((s.resetTo level).selector, (s.resetTo level).result.isOk)
  | .back => (s.back.selector, s.back.result.isOk)
  | .selectPath keys => ((s.selectPath keys).selector, (s.selectPath keys).result.isOk)

/-- The selector after a sequence of operations, refused ones included. -/
def run (s : Selector) (ops : List Operation) : Selector := ops.foldl (fun s op => (s.perform op).1) s

end Selector

namespace Menu

/-- A position is a path to an entry, if the selector is started at all. -/
def IsPosition (m : Menu) : Option (List String) → Prop
  | none => True
  | some p => (m.entryAt? p).isSome

instance (m : Menu) (position : Option (List String)) : Decidable (m.IsPosition position) :=
  match position with
  | none => .isTrue trivial
  | some p => inferInstanceAs (Decidable ((m.entryAt? p).isSome = true))

/-- Whether an operation is accepted at a position. -/
def accepts (m : Menu) : Option (List String) → Operation → Bool
  | some p, .select level key => level ≤ p.length && (m.entryAt? (p.take level ++ [key])).isSome
  | some p, .resetTo level => level ≤ p.length && (m.entryAt? (p.take level)).any (!·.isLeaf)
  | none, .select _ _ => false
  | none, .resetTo _ => false
  | _, .selectPath keys => (m.entryAt? keys).isSome
  | _, .start => true
  | _, .teardown => true
  | _, .back => true

/-- The position after an operation. -/
def next (m : Menu) (position : Option (List String)) (op : Operation) : Option (List String) :=
  match op, position with
  | .teardown, _ => none
  | .start, _ => some []
  | .selectPath keys, _ => some (m.root.reach keys)
  | _, none => none
  | .select level key, some p =>
    if m.accepts position op then some (p.take level ++ [key]) else some p
  | .resetTo level, some p => if m.accepts position op then some (p.take level) else some p
  | .back, some p => some p.dropLast

lemma next_select (m : Menu) (p : List String) (level : Nat) (key : String) :
    m.next (some p) (.select level key) =
      if m.accepts (some p) (.select level key) then some (p.take level ++ [key]) else some p := rfl

lemma next_resetTo (m : Menu) (p : List String) (level : Nat) :
    m.next (some p) (.resetTo level) =
      if m.accepts (some p) (.resetTo level) then some (p.take level) else some p := rfl

/-- The position that a sequence of operations leads to. -/
def positionAfter (m : Menu) (ops : List Operation) : Option (List String) := ops.foldl m.next none

/-- The selector that shows a position. -/
def selectorAt (m : Menu) : Option (List String) → Selector
  | none => ⟨m, [], []⟩
  | some p => ⟨m, p, m.root.levels m.labels 0 none p⟩

/-- A started selector with a path of chosen keys: each level shows the entry that the keys above
it lead to, with the next key selected in its dropdown, and nothing selected in the last one. -/
structure Shows (m : Menu) (p : List String) (s : Selector) : Prop where
  leads : (m.entryAt? p).isSome
  menu : s.menu = m
  selection : s.selection = p
  length_levels : s.levels.length = p.length + 1
  level : ∀ i ≤ p.length, ∃ e, m.entryAt? (p.take i) = some e ∧
    s.levels[i]? = some ⟨i, e.key, e.controlsShowing m.labels p[i]?⟩

end Menu

namespace Selector

variable {m : Menu} {p : List String}

lemma length_levels_selectorAt (h : (m.entryAt? p).isSome) :
    (m.selectorAt (some p)).levels.length = p.length + 1 :=
  Entry.length_levels h m.labels 0 none

theorem shows_selectorAt (h : (m.entryAt? p).isSome) : m.Shows p (m.selectorAt (some p)) where
  leads := h
  menu := rfl
  selection := rfl
  length_levels := length_levels_selectorAt h
  level := by
    intro i hi
    have hs := Menu.entryAt?_isSome_of_isPrefix (List.take_prefix i p) h
    obtain ⟨e, he⟩ := Option.isSome_iff_exists.mp hs
    refine ⟨e, he, ?_⟩
    have hl := Entry.getElem?_levels h hi m.labels 0
    have hd : m.root.descend? (p.take i) = some e := he
    rw [hd, Option.map_some, Nat.zero_add] at hl
    exact hl

lemma getElem?_levels_selectorAt (h : (m.entryAt? p).isSome) {level : Nat} {l : Level}
    (hl : (m.selectorAt (some p)).levels[level]? = some l) :
    level ≤ p.length ∧ ∃ e, m.entryAt? (p.take level) = some e ∧
      l = e.level m.labels level p[level]? := by
  have hshows := shows_selectorAt h
  have hlt := (List.getElem?_eq_some_iff.mp hl).1
  rw [hshows.length_levels] at hlt
  have hle : level ≤ p.length := by omega
  obtain ⟨e, he, hlevel⟩ := hshows.level level hle
  exact ⟨hle, e, he, Option.some.inj (hl.symm.trans hlevel)⟩

lemma getLast?_levels_selectorAt {d : Entry} (hd : m.entryAt? p = some d) :
    (m.selectorAt (some p)).levels.getLast? = some (d.level m.labels p.length none) := by
  have hshows := shows_selectorAt (Option.isSome_of_eq_some hd)
  obtain ⟨e, he, hlevel⟩ := hshows.level p.length (Nat.le_refl _)
  rw [List.take_length, hd] at he
  obtain rfl := Option.some.inj he
  rw [List.getElem?_eq_none (Nat.le_refl _)] at hlevel
  rw [List.getLast?_eq_getElem?, hshows.length_levels]
  exact hlevel

/-! ### Rendering -/

lemma start_value (s : Selector) : s.start.value = s.menu.selectorAt (some []) := by
  simp [start, render, teardown, Menu.selectorAt, Entry.levels_nil, Entry.level_none]

/-- Rendering completes a choice whose option is marked already. -/
lemma render_value {d child : Entry} {key : String} (hd : m.entryAt? p = some d)
    (hc : d.child? key = some child) :
    (Selector.render ⟨m, p ++ [key], m.root.levels m.labels 0 (some key) p⟩ (p.length + 1)).value =
      m.selectorAt (some (p ++ [key])) := by
  have hlen := Entry.length_levels (Option.isSome_of_eq_some hd) m.labels 0 (some key)
  have hpath : (p ++ [key]).take (p.length + 1) = p ++ [key] :=
    List.take_of_length_le (by simp)
  have hkept : (m.root.levels m.labels 0 (some key) p).take (p.length + 1) =
      m.root.levels m.labels 0 (some key) p := List.take_of_length_le (Nat.le_of_eq hlen)
  have hentry : m.entryAt? (p ++ [key]) = some child := by rw [Menu.entryAt?_concat hd, hc]
  have hlevels := Entry.levels_concat hd hc m.labels 0 none
  rw [Nat.zero_add, Entry.level_none] at hlevels
  simp only [render, hpath, hkept, hentry, Menu.selectorAt, hlevels]

lemma truncate_selectorAt (h : (m.entryAt? p).isSome) {level : Nat} (hl : level ≤ p.length)
    (selected : Option String) :
    (m.selectorAt (some p)).truncate level selected =
      ⟨m, p.take level ++ selected.toList,
        m.root.levels m.labels 0 selected (p.take level)⟩ := by
  have hm := Entry.modify_take_levels h hl m.labels 0 none selected
  simp only [truncate, Menu.selectorAt, hm]

/-! ### The entry at a level -/

lemma levels_selectorAt_ne_nil (h : (m.entryAt? p).isSome) :
    (m.selectorAt (some p)).levels.isEmpty = false := by
  have hlen := length_levels_selectorAt h
  cases hl : (m.selectorAt (some p)).levels with
  | nil => simp [hl] at hlen
  | cons first rest => rfl

lemma entryForLevel_of_lt (h : (m.entryAt? p).isSome) {level : Nat} (hl : p.length < level) :
    (m.selectorAt (some p)).entryForLevel level =
      .error (.unknownLevel level (p.length + 1)) := by
  have hlen := length_levels_selectorAt h
  have hle : p.length + 1 ≤ level := hl
  simp [entryForLevel, levels_selectorAt_ne_nil h, hlen, hle]

lemma entryForLevel_of_le (h : (m.entryAt? p).isSome) {level : Nat} (hl : level ≤ p.length)
    {e : Entry} (he : m.entryAt? (p.take level) = some e) :
    (m.selectorAt (some p)).entryForLevel level =
      if e.isLeaf then .error (.leafLevel level) else .ok e := by
  have hlen := length_levels_selectorAt h
  have hlt : ¬p.length + 1 ≤ level := by omega
  have hentry : (m.selectorAt (some p)).menu.entryAt?
      ((m.selectorAt (some p)).selection.take level) = some e := he
  simp [entryForLevel, levels_selectorAt_ne_nil h, hlen, hlt, hentry]

lemma exists_entryAt?_take (h : (m.entryAt? p).isSome) (level : Nat) :
    ∃ e, m.entryAt? (p.take level) = some e :=
  Option.isSome_iff_exists.mp (Menu.entryAt?_isSome_of_isPrefix (List.take_prefix level p) h)

/-! ### Selecting and going back -/

lemma select_of_error {s : Selector} {level : Nat} {e : SelectionError}
    (h : s.entryForLevel level = .error e) (key : String) :
    s.select level key = ⟨s, .error e, []⟩ := by
  simp [select, h]

lemma select_of_child? (h : (m.entryAt? p).isSome) {level : Nat} (hl : level ≤ p.length)
    {e child : Entry} {key : String} (he : m.entryAt? (p.take level) = some e)
    (hc : e.child? key = some child) :
    ((m.selectorAt (some p)).select level key).selector =
        m.selectorAt (some (p.take level ++ [key])) ∧
      ((m.selectorAt (some p)).select level key).result.isOk = true := by
  have hentry := entryForLevel_of_le h hl he
  rw [Entry.isLeaf_of_child? hc] at hentry
  have hlen : (p.take level).length = level := by
    rw [List.length_take]
    omega
  have hrender := render_value he hc
  rw [hlen] at hrender
  have htruncate := truncate_selectorAt h hl (some key)
  rw [Option.toList_some] at htruncate
  have hleads : (m.entryAt? (p.take level ++ [key])).isSome := by
    rw [Menu.entryAt?_concat he, hc, Option.isSome_some]
  have hlast : (m.selectorAt (some (p.take level ++ [key]))).levels.getLast? ≠ none := by
    rw [Ne, List.getLast?_eq_none_iff]
    intro hnil
    have hne := levels_selectorAt_ne_nil hleads
    rw [hnil] at hne
    exact absurd hne (by decide)
  obtain ⟨last, hlast⟩ := Option.ne_none_iff_exists'.mp hlast
  simp [select, hentry, hc, htruncate, hrender, hlast]

lemma select_of_child?_none (h : (m.entryAt? p).isSome) {level : Nat} (hl : level ≤ p.length)
    {e : Entry} {key : String} (he : m.entryAt? (p.take level) = some e)
    (hc : e.child? key = none) :
    ((m.selectorAt (some p)).select level key).selector = m.selectorAt (some p) ∧
      ((m.selectorAt (some p)).select level key).result =
        .error (if e.isLeaf then .leafLevel level else .invalidSelection e.key key) := by
  have hentry := entryForLevel_of_le h hl he
  cases hleaf : e.isLeaf with
  | true =>
    rw [hleaf, if_pos rfl] at hentry
    simp [select_of_error hentry]
  | false =>
    rw [hleaf] at hentry
    simp [select, hentry, hc]

theorem perform_select (h : (m.entryAt? p).isSome) (level : Nat) (key : String) :
    (m.selectorAt (some p)).perform (.select level key) =
      (m.selectorAt (m.next (some p) (.select level key)),
        m.accepts (some p) (.select level key)) := by
  by_cases hl : level ≤ p.length
  · obtain ⟨e, he⟩ := exists_entryAt?_take h level
    have hkey := Menu.entryAt?_concat he key
    cases hc : e.child? key with
    | none =>
      obtain ⟨hs, hr⟩ := select_of_child?_none h hl he hc
      simp [perform, Menu.next, Menu.accepts, hl, hkey, hc, hs, hr]
    | some child =>
      obtain ⟨hs, hr⟩ := select_of_child? h hl he hc
      simp [perform, Menu.next, Menu.accepts, hl, hkey, hc, hs, hr]
  · have hentry := entryForLevel_of_lt h (Nat.lt_of_not_le hl)
    simp [perform, Menu.next, Menu.accepts, hl, select_of_error hentry]

lemma resetTo_of_error {s : Selector} {level : Nat} {e : SelectionError}
    (h : s.entryForLevel level = .error e) : s.resetTo level = ⟨s, .error e, []⟩ := by
  simp [resetTo, h]

theorem perform_resetTo (h : (m.entryAt? p).isSome) (level : Nat) :
    (m.selectorAt (some p)).perform (.resetTo level) =
      (m.selectorAt (m.next (some p) (.resetTo level)), m.accepts (some p) (.resetTo level)) := by
  by_cases hl : level ≤ p.length
  · obtain ⟨e, he⟩ := exists_entryAt?_take h level
    have hentry := entryForLevel_of_le h hl he
    cases hleaf : e.isLeaf with
    | true =>
      rw [hleaf, if_pos rfl] at hentry
      simp [perform, Menu.next, Menu.accepts, hl, he, hleaf, resetTo_of_error hentry]
    | false =>
      rw [hleaf] at hentry
      have htruncate : (m.selectorAt (some p)).truncate level none =
          m.selectorAt (some (p.take level)) := by
        rw [truncate_selectorAt h hl, Option.toList_none, List.append_nil]
        rfl
      simp [perform, resetTo, hentry, htruncate, Menu.next, Menu.accepts, hl, he, hleaf]
  · have hentry := entryForLevel_of_lt h (Nat.lt_of_not_le hl)
    simp [perform, Menu.next, Menu.accepts, hl, resetTo_of_error hentry]

/-- Going back is resetting the level above the last one, which shows a dropdown. -/
theorem perform_back (h : (m.entryAt? p).isSome) :
    (m.selectorAt (some p)).perform .back = (m.selectorAt (some p.dropLast), true) := by
  cases hp : p.isEmpty with
  | true =>
    obtain rfl : p = [] := List.isEmpty_iff.mp hp
    rfl
  | false =>
    have hne : p ≠ [] := by
      rw [Ne, ← List.isEmpty_iff, hp]
      decide
    have hpos : 0 < p.length := List.length_pos_iff.mpr hne
    obtain ⟨e, he⟩ := exists_entryAt?_take h (p.length - 1)
    have hsplit : p.take (p.length - 1) ++ [p.getLast hne] = p := by
      rw [← List.dropLast_eq_take, List.dropLast_concat_getLast hne]
    have hlonger : (m.root.descend? (p.take (p.length - 1) ++ p.getLast hne :: [])).isSome := by
      rw [hsplit]
      exact h
    have hleaf : e.isLeaf = false := Entry.isLeaf_of_longer_path he hlonger
    have hreset := perform_resetTo h (p.length - 1)
    have haccepts : m.accepts (some p) (.resetTo (p.length - 1)) = true := by
      simp [Menu.accepts, he, hleaf]
    rw [haccepts] at hreset
    have hnext : m.next (some p) (.resetTo (p.length - 1)) = some p.dropLast := by
      simp only [Menu.next, haccepts, if_true, List.dropLast_eq_take]
    rw [hnext] at hreset
    have hback : (m.selectorAt (some p)).back = (m.selectorAt (some p)).resetTo (p.length - 1) := by
      simp [back, Menu.selectorAt, hp]
    rw [perform, hback]
    exact hreset

/-! ### Whole paths -/

/-- Selecting key after key from the last level on goes as far as the keys lead. -/
lemma selectFrom_selectorAt {e : Entry} (he : m.entryAt? p = some e) (keys : List String) :
    ((m.selectorAt (some p)).selectFrom p.length keys).selector =
        m.selectorAt (some (p ++ e.reach keys)) ∧
      ((m.selectorAt (some p)).selectFrom p.length keys).result.isOk =
        (e.descend? keys).isSome := by
  induction keys generalizing p e with
  | nil => simp [selectFrom, Entry.reach]
  | cons key keys ih =>
    have hs : (m.entryAt? p).isSome := Option.isSome_of_eq_some he
    have htake : p.take p.length = p := List.take_length
    have hlast : m.entryAt? (p.take p.length) = some e := by rw [htake, he]
    rw [selectFrom, Entry.descend?_cons]
    cases hc : e.child? key with
    | none =>
      obtain ⟨hsel, hres⟩ := select_of_child?_none hs (Nat.le_refl _) hlast hc
      simp [hres, hsel, Entry.reach_cons_of_child?_none hc]
    | some child =>
      obtain ⟨hsel, hres⟩ := select_of_child? hs (Nat.le_refl _) hlast hc
      rw [htake] at hsel
      have hchild : m.entryAt? (p ++ [key]) = some child := by rw [Menu.entryAt?_concat he, hc]
      have hrest := ih hchild
      rw [List.length_append, List.length_singleton, List.append_assoc, List.singleton_append,
        ← Entry.reach_cons_of_child? hc] at hrest
      cases hr : ((m.selectorAt (some p)).select p.length key).result with
      | error error => simp [hr] at hres
      | ok level => simpa [hsel] using hrest

theorem selectPath_eq (s : Selector) (keys : List String) :
    (s.selectPath keys).selector = s.menu.selectorAt (some (s.menu.root.reach keys)) ∧
      (s.selectPath keys).result.isOk = (s.menu.entryAt? keys).isSome := by
  have hfrom := selectFrom_selectorAt (Menu.entryAt?_nil s.menu) keys
  rw [List.nil_append, List.length_nil] at hfrom
  simp only [selectPath, start_value]
  exact hfrom

lemma selectPath_of_isSome (s : Selector) {keys : List String}
    (h : (s.menu.entryAt? keys).isSome) :
    (s.selectPath keys).selector = s.menu.selectorAt (some keys) ∧
      (s.selectPath keys).result = .ok () := by
  obtain ⟨hs, hr⟩ := selectPath_eq s keys
  have hreach : s.menu.root.reach keys = keys := (Entry.reach_eq_self_iff _ keys).mpr h
  rw [hreach] at hs
  rw [h] at hr
  exact ⟨hs, eq_ok_of_isOk hr⟩

/-! ### Every operation, and every run -/

/-- An operation on the selector of a position gives the selector of the next position, and is
accepted exactly if it is accepted there. -/
theorem perform_selectorAt {position : Option (List String)} (h : m.IsPosition position)
    (op : Operation) :
    (m.selectorAt position).perform op =
      (m.selectorAt (m.next position op), m.accepts position op) := by
  cases op with
  | start =>
    rw [perform, start_value]
    cases position <;> rfl
  | teardown => cases position <;> rfl
  | selectPath keys =>
    obtain ⟨hs, hr⟩ := selectPath_eq (m.selectorAt position) keys
    rw [perform, hs, hr]
    cases position <;> rfl
  | select level key =>
    cases position with
    | none => rfl
    | some p => exact perform_select h level key
  | resetTo level =>
    cases position with
    | none => rfl
    | some p => exact perform_resetTo h level
  | back =>
    cases position with
    | none => rfl
    | some p => exact perform_back h

theorem isPosition_next {position : Option (List String)} (h : m.IsPosition position)
    (op : Operation) : m.IsPosition (m.next position op) := by
  cases op with
  | start => cases position <;> exact Option.isSome_of_eq_some (Menu.entryAt?_nil m)
  | teardown => cases position <;> trivial
  | selectPath keys => cases position <;> exact Entry.descend?_reach_isSome m.root keys
  | select level key =>
    cases position with
    | none => trivial
    | some p =>
      rw [Menu.next_select]
      split
      · rename_i ha
        simp only [Menu.accepts, Bool.and_eq_true] at ha
        exact ha.2
      · exact h
  | resetTo level =>
    cases position with
    | none => trivial
    | some p =>
      rw [Menu.next_resetTo]
      split
      · exact Menu.entryAt?_isSome_of_isPrefix (List.take_prefix level p) h
      · exact h
  | back =>
    cases position with
    | none => trivial
    | some p => exact Menu.entryAt?_isSome_of_isPrefix (List.dropLast_prefix p) h

theorem run_selectorAt {position : Option (List String)} (h : m.IsPosition position)
    (ops : List Operation) :
    (m.selectorAt position).run ops = m.selectorAt (ops.foldl m.next position) ∧
      m.IsPosition (ops.foldl m.next position) := by
  induction ops generalizing position with
  | nil => exact ⟨rfl, h⟩
  | cons op ops ih =>
    have hstep := perform_selectorAt h op
    have hrest := ih (isPosition_next h op)
    simp only [run, List.foldl_cons, hstep] at hrest ⊢
    exact hrest

lemma ofMenu_ok {s : Selector} (h : ofMenu m = .ok s) : s = m.selectorAt none ∧ m.issues = [] := by
  unfold ofMenu Menu.validated at h
  split at h
  · rename_i hi
    cases h
    exact ⟨rfl, List.isEmpty_iff.mp hi⟩
  · cases h

lemma ofMenu_of_issues (h : m.issues = []) : ofMenu m = .ok (m.selectorAt none) := by
  simp [ofMenu, Menu.validated, h, Except.map, Menu.selectorAt]

/-- Every selector that is reached stands at a position of its menu. -/
theorem run_ofMenu {s : Selector} (h : ofMenu m = .ok s) (ops : List Operation) :
    s.run ops = m.selectorAt (m.positionAfter ops) ∧ m.IsPosition (m.positionAfter ops) := by
  obtain ⟨rfl, -⟩ := ofMenu_ok h
  have hnone : m.IsPosition none := trivial
  exact run_selectorAt hnone ops

/-- The selectors that operations lead to from a new one over an accepted menu. -/
def Reachable (m : Menu) (t : Selector) : Prop := ∃ s ops, ofMenu m = .ok s ∧ t = s.run ops

/-- The selectors over an accepted menu that can be reached are those of its positions. -/
theorem reachable_iff {t : Selector} :
    Reachable m t ↔
      m.issues = [] ∧ ∃ position, m.IsPosition position ∧ t = m.selectorAt position := by
  constructor
  · rintro ⟨s, ops, hs, rfl⟩
    obtain ⟨hrun, hpos⟩ := run_ofMenu hs ops
    exact ⟨(ofMenu_ok hs).2, m.positionAfter ops, hpos, hrun⟩
  · rintro ⟨hm, position, hpos, rfl⟩
    have hnew := ofMenu_of_issues hm
    cases position with
    | none => exact ⟨_, [], hnew, rfl⟩
    | some p =>
      refine ⟨_, [.selectPath p], hnew, ?_⟩
      have hreach : m.root.reach p = p := (Entry.reach_eq_self_iff m.root p).mpr hpos
      have hpath : m.positionAfter [.selectPath p] = some p := congrArg some hreach
      rw [(run_ofMenu hnew [.selectPath p]).1, hpath]

/-- A selector over an accepted menu runs as the machine of positions does. It shows the path of
its position level by level, or nothing before it is started, and accepts what the machine
accepts. Runs to the same position leave the same selector. -/
theorem run_simulates_positions {s : Selector} (h : ofMenu m = .ok s) (ops : List Operation) :
    s.run ops = m.selectorAt (m.positionAfter ops) ∧
      (∀ op, (s.run ops).perform op = (s.run (ops ++ [op]), m.accepts (m.positionAfter ops) op)) ∧
      (match m.positionAfter ops with
        | none => (s.run ops).selection = [] ∧ (s.run ops).levels = []
        | some p => m.Shows p (s.run ops)) ∧
      ∀ ops', m.positionAfter ops' = m.positionAfter ops → s.run ops' = s.run ops := by
  obtain ⟨hrun, hpos⟩ := run_ofMenu h ops
  refine ⟨hrun, ?_, ?_, ?_⟩
  · intro op
    have hstep := perform_selectorAt hpos op
    have happend : s.run (ops ++ [op]) = ((s.run ops).perform op).1 := by simp [run]
    rw [happend, hrun, hstep]
  · cases hp : m.positionAfter ops with
    | none =>
      rw [hrun, hp]
      exact ⟨rfl, rfl⟩
    | some p =>
      rw [hp] at hpos hrun
      rw [hrun]
      exact shows_selectorAt hpos
  · intro ops' hsame
    rw [(run_ofMenu h ops').1, hrun, hsame]

/-- A whole path, a level that is not rendered, a reset at a leaf, and another course. -/
def sampleRun : List Operation :=
  [.start, .select 0 "Algo", .select 1 "Ex2", .select 2 "Q1", .select 7 "Q2", .resetTo 3,
    .select 0 "Unix"]

theorem run_sampleRun :
    ofMenu (Menu.sample .student) = .ok ((Menu.sample .student).selectorAt none) ∧
      (Menu.sample .student).Shows ["Unix"]
        (((Menu.sample .student).selectorAt none).run sampleRun) := by
  have hnew := ofMenu_of_issues (Menu.issues_sample .student)
  have hpos : (Menu.sample .student).positionAfter sampleRun = some ["Unix"] := by decide +kernel
  obtain ⟨-, -, hshows, -⟩ := run_simulates_positions hnew sampleRun
  rw [hpos] at hshows
  exact ⟨hnew, hshows⟩

end Selector

end CascadingForms
