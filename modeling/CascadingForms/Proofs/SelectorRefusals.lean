import CascadingForms.Proofs.PostedSelector

/-!
# Refused operations

For every selector that can be reached this file says which operations are refused and why, and
that a refused one leaves the selector as it was. `selectWithin`, `resetToWithin` and `backWithin`
are the operations on vectors whose indices are machine words up to a limit: a slice or an index
out of range, a sum above the limit, and each branch that is there only in case of an error stop
them with a fault. On a reachable selector they stop nowhere and do what the operations do.
-/

namespace CascadingForms

/-- What stops an operation on vectors and machine words. -/
inductive Fault where
  | slice (stop length : Nat)
  | index (i length : Nat)
  | overflow (limit : Nat)
  | leftMenu
  | nothingRendered

/-- The first elements of a vector that has to have so many. -/
def slice {α : Type} (l : List α) (stop : Nat) : Except Fault (List α) :=
  if stop ≤ l.length then .ok (l.take stop) else .error (.slice stop l.length)

/-- Changes the element at an index, which has to be there. -/
def update {α : Type} (l : List α) (i : Nat) (f : α → α) : Except Fault (List α) :=
  if i < l.length then .ok (l.modify i f) else .error (.index i l.length)

/-- The next machine word, if there is one. -/
def successor (limit n : Nat) : Except Fault Nat :=
  if n < limit then .ok (n + 1) else .error (.overflow limit)

namespace Selector

/-- Why an operation was refused, if it was. -/
def Step.refusal? {α : Type} (step : Step α) : Option SelectionError :=
  match step.result with
  | .ok _ => none
  | .error e => some e

/-- Why the dropdown at a level cannot be changed, if it cannot: the last level of a selector at a
leaf shows none. -/
def levelRefusal? (s : Selector) (level : Nat) : Option SelectionError :=
  if s.levels.length = 0 then some .notInitialized
  else if s.levels.length ≤ level then some (.unknownLevel level s.levels.length)
  else if level = s.levels.length - 1 ∧ s.frontier.isLeaf then some (.leafLevel level)
  else none

/-- Why a key cannot be chosen in the dropdown at a level, if it cannot: it is not the key of a
child of the entry there. -/
def choiceRefusal? (s : Selector) (level : Nat) (key : String) : Option SelectionError :=
  (s.levelRefusal? level).or <| (s.menu.entryAt? (s.selection.take level)).bind fun e =>
    if key ∈ e.childKeys then none else some (.invalidSelection e.key key)

/-! ### The operations on vectors -/

def entryForLevelWithin (s : Selector) (level : Nat) :
    Except Fault (Except SelectionError Entry) :=
  if s.levels.isEmpty then .ok (.error .notInitialized)
  else if s.levels.length ≤ level then .ok (.error (.unknownLevel level s.levels.length))
  else do
    let path ← slice s.selection level
    match s.menu.entryAt? path with
    | none => .error .leftMenu
    | some e => return if e.isLeaf then .error (.leafLevel level) else .ok e

def renderWithin (s : Selector) (depth : Nat) : Except Fault Selector := do
  let path ← slice s.selection depth
  match s.menu.entryAt? path with
  | none => .error .leftMenu
  | some e =>
    return { s with levels := s.levels.take depth ++ [⟨depth, e.key, e.controls s.menu.labels⟩] }

def truncateWithin (limit : Nat) (s : Selector) (level : Nat) (selected : Option String) :
    Except Fault Selector := do
  let kept ← successor limit level
  let levels ← update (s.levels.take kept) level (Level.choose selected)
  return { s with selection := s.selection.take level ++ selected.toList, levels }

def selectWithin (limit : Nat) (s : Selector) (level : Nat) (key : String) :
    Except Fault (Selector × Except SelectionError Level) := do
  match ← s.entryForLevelWithin level with
  | .error e => return (s, .error e)
  | .ok entry =>
    match entry.child? key with
    | none => return (s, .error (.invalidSelection entry.key key))
    | some _ =>
      let chosen ← truncateWithin limit s level (some key)
      let depth ← successor limit level
      let rendered ← chosen.renderWithin depth
      match rendered.levels.getLast? with
      | none => .error .nothingRendered
      | some l => return (rendered, .ok l)

def resetToWithin (limit : Nat) (s : Selector) (level : Nat) :
    Except Fault (Selector × Except SelectionError Unit) := do
  match ← s.entryForLevelWithin level with
  | .error e => return (s, .error e)
  | .ok _ =>
    let kept ← truncateWithin limit s level none
    return (kept, .ok ())

def backWithin (limit : Nat) (s : Selector) :
    Except Fault (Selector × Except SelectionError Unit) :=
  match s.selection.length with
  | 0 => .ok (s, .ok ())
  | level + 1 => resetToWithin limit s level

variable {m : Menu} {p : List String}

/-! ### Why a level is refused -/

/-- Only the last entry on a path can be a leaf. -/
lemma isLeaf_take_iff (h : (m.entryAt? p).isSome) {level : Nat} (hl : level ≤ p.length)
    {e : Entry} (he : m.entryAt? (p.take level) = some e) :
    e.isLeaf = true ↔ level = p.length ∧ (m.selectorAt (some p)).frontier.isLeaf = true := by
  obtain ⟨d, hd⟩ := Option.isSome_iff_exists.mp h
  rw [frontier_selectorAt hd]
  rcases Nat.lt_or_eq_of_le hl with hlt | rfl
  · have hsplit : p.take level ++ p[level] :: p.drop (level + 1) = p := by
      rw [List.cons_getElem_drop_succ, List.take_append_drop]
    have hlonger : (m.root.descend? (p.take level ++ p[level] :: p.drop (level + 1))).isSome := by
      rw [hsplit]
      exact h
    have hleaf := Entry.isLeaf_of_longer_path he hlonger
    simp [hleaf, Nat.ne_of_lt hlt]
  · rw [List.take_length, hd] at he
    obtain rfl := Option.some.inj he
    simp

lemma levelRefusal?_of_le (h : (m.entryAt? p).isSome) {level : Nat} (hl : level ≤ p.length)
    {e : Entry} (he : m.entryAt? (p.take level) = some e) :
    (m.selectorAt (some p)).levelRefusal? level =
      if e.isLeaf then some (.leafLevel level) else none := by
  have hlen := length_levels_selectorAt h
  have hrendered : ¬p.length + 1 ≤ level := by omega
  unfold levelRefusal?
  rw [hlen, if_neg (Nat.succ_ne_zero _), if_neg hrendered, Nat.add_sub_cancel]
  exact if_congr (isLeaf_take_iff h hl he).symm rfl rfl

lemma levelRefusal?_of_lt (h : (m.entryAt? p).isSome) {level : Nat} (hl : p.length < level) :
    (m.selectorAt (some p)).levelRefusal? level =
      some (.unknownLevel level (p.length + 1)) := by
  have hlen := length_levels_selectorAt h
  unfold levelRefusal?
  rw [hlen, if_neg (Nat.succ_ne_zero _), if_pos (Nat.succ_le_of_lt hl)]

/-- The entry at a level is refused exactly if its dropdown cannot be changed. -/
lemma entryForLevel_error_iff {position : Option (List String)} (h : m.IsPosition position)
    (level : Nat) (e : SelectionError) :
    (m.selectorAt position).entryForLevel level = .error e ↔
      (m.selectorAt position).levelRefusal? level = some e := by
  cases position with
  | none => simp [entryForLevel, levelRefusal?, Menu.selectorAt]
  | some p =>
    by_cases hl : level ≤ p.length
    · obtain ⟨d, hd⟩ := exists_entryAt?_take h level
      rw [entryForLevel_of_le h hl hd, levelRefusal?_of_le h hl hd]
      cases d.isLeaf <;> simp
    · have hlt := Nat.lt_of_not_le hl
      rw [entryForLevel_of_lt h hlt, levelRefusal?_of_lt h hlt]
      simp

lemma levelRefusal?_of_ok {position : Option (List String)} (h : m.IsPosition position)
    {level : Nat} {e : Entry} (he : (m.selectorAt position).entryForLevel level = .ok e) :
    (m.selectorAt position).levelRefusal? level = none := by
  rw [Option.eq_none_iff_forall_ne_some]
  intro error herror
  rw [(entryForLevel_error_iff h level error).mpr herror] at he
  cases he

/-! ### What is refused -/

lemma isOk_eq_isNone_refusal? {α : Type} (step : Step α) :
    step.result.isOk = step.refusal?.isNone := by
  unfold Step.refusal?
  cases step.result <;> rfl

/-- An entry that may be changed stands at a rendered level and offers something. -/
lemma entryForLevel_ok {s : Selector} {level : Nat} {e : Entry}
    (h : s.entryForLevel level = .ok e) :
    level < s.levels.length ∧ s.menu.entryAt? (s.selection.take level) = some e := by
  unfold entryForLevel at h
  split at h
  · cases h
  · split at h
    · cases h
    · rename_i hlevel
      cases he : s.menu.entryAt? (s.selection.take level) with
      | none => simp [he] at h
      | some d =>
        cases hleaf : d.isLeaf with
        | true => simp [he, hleaf] at h
        | false =>
          have hd : d = e := by simpa [he, hleaf] using h
          exact ⟨Nat.lt_of_not_le hlevel, congrArg some hd⟩

theorem refusal?_resetTo {position : Option (List String)} (h : m.IsPosition position)
    (level : Nat) :
    ((m.selectorAt position).resetTo level).refusal? =
      (m.selectorAt position).levelRefusal? level := by
  cases hentry : (m.selectorAt position).entryForLevel level with
  | error e =>
    rw [resetTo_of_error hentry, (entryForLevel_error_iff h level e).mp hentry]
    rfl
  | ok d =>
    rw [levelRefusal?_of_ok h hentry]
    simp [resetTo, hentry, Step.refusal?]

theorem refusal?_select {position : Option (List String)} (h : m.IsPosition position)
    (level : Nat) (key : String) :
    ((m.selectorAt position).select level key).refusal? =
      (m.selectorAt position).choiceRefusal? level key := by
  unfold choiceRefusal?
  cases hentry : (m.selectorAt position).entryForLevel level with
  | error e =>
    rw [select_of_error hentry, (entryForLevel_error_iff h level e).mp hentry]
    rfl
  | ok d =>
    obtain ⟨-, hd⟩ := entryForLevel_ok hentry
    rw [levelRefusal?_of_ok h hentry, Option.none_or, hd, Option.bind_some]
    cases hc : d.child? key with
    | none =>
      have hkey := (Entry.child?_eq_none_iff d key).mp hc
      simp [select, hentry, hc, Step.refusal?, hkey]
    | some child =>
      have hkey : key ∈ d.childKeys := by
        by_contra hkey
        rw [(Entry.child?_eq_none_iff d key).mpr hkey] at hc
        cases hc
      rw [if_pos hkey, ← Option.isNone_iff_eq_none, ← isOk_eq_isNone_refusal?]
      cases position with
      | none => cases hentry
      | some p =>
        obtain ⟨hlevel, -⟩ := entryForLevel_ok hentry
        rw [length_levels_selectorAt h] at hlevel
        exact (select_of_child? h (Nat.le_of_lt_succ hlevel) hd hc).2

theorem refusal?_back {position : Option (List String)} (h : m.IsPosition position) :
    (m.selectorAt position).back.refusal? = none := by
  have hback := congrArg Prod.snd (perform_selectorAt h .back)
  have haccepts : m.accepts position .back = true := by cases position <;> rfl
  rw [← Option.isNone_iff_eq_none, ← isOk_eq_isNone_refusal?]
  exact hback.trans haccepts

/-- What is refused at a position does not lead to another one. -/
lemma selector_of_refused {position : Option (List String)} (h : m.IsPosition position)
    (op : Operation) (hop : m.accepts position op = false → m.next position op = position)
    (hrefused : ((m.selectorAt position).perform op).2 = false) :
    ((m.selectorAt position).perform op).1 = m.selectorAt position := by
  rw [perform_selectorAt h op] at hrefused ⊢
  rw [hop hrefused]

theorem selector_select_of_refused {position : Option (List String)} (h : m.IsPosition position)
    {level : Nat} {key : String}
    (hrefused : ((m.selectorAt position).select level key).refusal? ≠ none) :
    ((m.selectorAt position).select level key).selector = m.selectorAt position := by
  refine selector_of_refused h (.select level key) ?_ ?_
  · intro ha
    cases position with
    | none => rfl
    | some p => rw [Menu.next_select, ha, if_neg Bool.false_ne_true]
  · have hisNone := isOk_eq_isNone_refusal? ((m.selectorAt position).select level key)
    rw [perform, hisNone, Option.isNone_eq_false_iff]
    exact Option.ne_none_iff_isSome.mp hrefused

theorem selector_resetTo_of_refused {position : Option (List String)} (h : m.IsPosition position)
    {level : Nat} (hrefused : ((m.selectorAt position).resetTo level).refusal? ≠ none) :
    ((m.selectorAt position).resetTo level).selector = m.selectorAt position := by
  refine selector_of_refused h (.resetTo level) ?_ ?_
  · intro ha
    cases position with
    | none => rfl
    | some p => rw [Menu.next_resetTo, ha, if_neg Bool.false_ne_true]
  · have hisNone := isOk_eq_isNone_refusal? ((m.selectorAt position).resetTo level)
    rw [perform, hisNone, Option.isNone_eq_false_iff]
    exact Option.ne_none_iff_isSome.mp hrefused

/-! ### No fault -/

lemma slice_of_le {α : Type} {l : List α} {stop : Nat} (h : stop ≤ l.length) :
    slice l stop = .ok (l.take stop) := if_pos h

lemma update_of_lt {α : Type} {l : List α} {i : Nat} (h : i < l.length) (f : α → α) :
    update l i f = .ok (l.modify i f) := if_pos h

lemma successor_of_lt {limit n : Nat} (h : n < limit) : successor limit n = .ok (n + 1) := if_pos h

lemma renderWithin_eq {s : Selector} {depth : Nat} (h : depth ≤ s.selection.length)
    (he : (s.menu.entryAt? (s.selection.take depth)).isSome) :
    s.renderWithin depth = .ok (s.render depth).value := by
  obtain ⟨e, he⟩ := Option.isSome_iff_exists.mp he
  simp [renderWithin, render, slice_of_le h, he, bind, Except.bind, pure, Except.pure]

lemma truncateWithin_eq {s : Selector} {level limit : Nat} (h : level < s.levels.length)
    (hlimit : s.levels.length ≤ limit) (selected : Option String) :
    truncateWithin limit s level selected = .ok (s.truncate level selected) := by
  have hsucc := successor_of_lt (Nat.lt_of_lt_of_le h hlimit)
  have hkept : level < (s.levels.take (level + 1)).length := by
    rw [List.length_take]
    omega
  simp [truncateWithin, truncate, hsucc, update_of_lt hkept, bind, Except.bind, pure, Except.pure]

lemma entryForLevelWithin_eq {position : Option (List String)} (h : m.IsPosition position)
    (level : Nat) :
    (m.selectorAt position).entryForLevelWithin level =
      .ok ((m.selectorAt position).entryForLevel level) := by
  cases position with
  | none => rfl
  | some p =>
    have hlen := length_levels_selectorAt h
    have hstarted := levels_selectorAt_ne_nil h
    by_cases hl : level ≤ p.length
    · obtain ⟨e, he⟩ := exists_entryAt?_take h level
      have hslice : slice (m.selectorAt (some p)).selection level = .ok (p.take level) :=
        slice_of_le hl
      have hrendered : ¬p.length + 1 ≤ level := by omega
      have hentry : (m.selectorAt (some p)).menu.entryAt? (p.take level) = some e := he
      rw [entryForLevel_of_le h hl he]
      simp [entryForLevelWithin, hstarted, hlen, hrendered, hslice, hentry, bind, Except.bind, pure,
        Except.pure]
    · have hlt := Nat.lt_of_not_le hl
      rw [entryForLevel_of_lt h hlt]
      simp [entryForLevelWithin, hstarted, hlen, Nat.succ_le_of_lt hlt]

lemma getLast?_render {s : Selector} {depth : Nat} {e : Entry}
    (he : s.menu.entryAt? (s.selection.take depth) = some e) :
    (s.render depth).value.levels.getLast? = some ⟨depth, e.key, e.controls s.menu.labels⟩ := by
  simp [render, he]

theorem selectWithin_eq {position : Option (List String)} (h : m.IsPosition position)
    {limit : Nat} (hlimit : (m.selectorAt position).levels.length ≤ limit) (level : Nat)
    (key : String) :
    selectWithin limit (m.selectorAt position) level key =
      .ok (((m.selectorAt position).select level key).selector,
        ((m.selectorAt position).select level key).result) := by
  have hwithin := entryForLevelWithin_eq h level
  cases hentry : (m.selectorAt position).entryForLevel level with
  | error e =>
    rw [hentry] at hwithin
    rw [select_of_error hentry]
    simp [selectWithin, hwithin, bind, Except.bind, pure, Except.pure]
  | ok d =>
    rw [hentry] at hwithin
    cases hc : d.child? key with
    | none => simp [selectWithin, select, hwithin, hentry, hc, bind, Except.bind, pure, Except.pure]
    | some child =>
      cases position with
      | none => cases hentry
      | some p =>
        obtain ⟨hlevel, hd⟩ := entryForLevel_ok hentry
        have hle : level ≤ p.length := by
          rw [length_levels_selectorAt h] at hlevel
          exact Nat.le_of_lt_succ hlevel
        -- The choice is marked, and the entry below it is rendered at the next level.
        have htruncate := truncateWithin_eq hlevel hlimit (some key)
        have hsuccessor := successor_of_lt (Nat.lt_of_lt_of_le hlevel hlimit)
        have hpath : ((m.selectorAt (some p)).truncate level (some key)).selection =
            p.take level ++ [key] := rfl
        have hlength : (p.take level ++ [key]).length = level + 1 := by
          rw [List.length_append, List.length_take, List.length_singleton]
          omega
        have hchild : ((m.selectorAt (some p)).truncate level (some key)).menu.entryAt?
            (((m.selectorAt (some p)).truncate level (some key)).selection.take (level + 1)) =
              some child := by
          rw [hpath, List.take_of_length_le (Nat.le_of_eq hlength)]
          exact (Menu.entryAt?_concat hd key).trans hc
        have hrender := renderWithin_eq (Nat.le_of_eq (hlength.symm.trans (congrArg _ hpath).symm))
          (Option.isSome_of_eq_some hchild)
        have hlast := getLast?_render hchild
        simp [selectWithin, select, hwithin, hentry, hc, htruncate, hsuccessor, hrender, hlast,
          bind, Except.bind, pure, Except.pure]

theorem resetToWithin_eq {position : Option (List String)} (h : m.IsPosition position)
    {limit : Nat} (hlimit : (m.selectorAt position).levels.length ≤ limit) (level : Nat) :
    resetToWithin limit (m.selectorAt position) level =
      .ok (((m.selectorAt position).resetTo level).selector,
        ((m.selectorAt position).resetTo level).result) := by
  have hwithin := entryForLevelWithin_eq h level
  cases hentry : (m.selectorAt position).entryForLevel level with
  | error e =>
    rw [hentry] at hwithin
    rw [resetTo_of_error hentry]
    simp [resetToWithin, hwithin, bind, Except.bind, pure, Except.pure]
  | ok d =>
    rw [hentry] at hwithin
    obtain ⟨hlevel, -⟩ := entryForLevel_ok hentry
    have htruncate := truncateWithin_eq hlevel hlimit none
    simp [resetToWithin, resetTo, hwithin, hentry, htruncate, bind, Except.bind, pure, Except.pure]

theorem backWithin_eq {position : Option (List String)} (h : m.IsPosition position)
    {limit : Nat} (hlimit : (m.selectorAt position).levels.length ≤ limit) :
    backWithin limit (m.selectorAt position) =
      .ok ((m.selectorAt position).back.selector, (m.selectorAt position).back.result) := by
  unfold backWithin back
  cases hselection : (m.selectorAt position).selection with
  | nil => rfl
  | cons key keys => exact resetToWithin_eq h hlimit keys.length

/-- What can come of operations on a reachable selector. Each is refused for the stated reason and
no other, a refused one leaves the whole selector as it was, going back is never refused, and on
vectors and machine words none of them meets a fault, as long as the number of levels is a machine
word itself. -/
theorem refusals_are_exact {t : Selector} (ht : Reachable m t) (level : Nat) (key : String) :
    (t.select level key).refusal? = t.choiceRefusal? level key ∧
      (t.resetTo level).refusal? = t.levelRefusal? level ∧
      t.back.refusal? = none ∧
      ((t.select level key).refusal? ≠ none → (t.select level key).selector = t) ∧
      ((t.resetTo level).refusal? ≠ none → (t.resetTo level).selector = t) ∧
      ∀ limit, t.levels.length ≤ limit →
        selectWithin limit t level key =
            .ok ((t.select level key).selector, (t.select level key).result) ∧
          resetToWithin limit t level = .ok ((t.resetTo level).selector, (t.resetTo level).result) ∧
          backWithin limit t = .ok (t.back.selector, t.back.result) := by
  obtain ⟨-, position, h, rfl⟩ := reachable_iff.mp ht
  refine ⟨refusal?_select h level key, refusal?_resetTo h level, refusal?_back h,
    selector_select_of_refused h, selector_resetTo_of_refused h, ?_⟩
  intro limit hlimit
  exact ⟨selectWithin_eq h hlimit level key, resetToWithin_eq h hlimit level,
    backWithin_eq h hlimit⟩

/-- At a leaf a level past the last one, the last one, and a key of another branch are refused each
for a reason of its own, also where the levels just fit into machine words. -/
theorem refusals_are_exact_at_leaf :
    Reachable (Menu.sample .student) ((Menu.sample .student).selectorAt (some ["Unix", "G1"])) ∧
      (((Menu.sample .student).selectorAt (some ["Unix", "G1"])).select (2 ^ 64 - 1) "Ex1").refusal? =
        some (.unknownLevel (2 ^ 64 - 1) 3) ∧
      (((Menu.sample .student).selectorAt (some ["Unix", "G1"])).select 2 "Ex1").refusal? =
        some (.leafLevel 2) ∧
      (((Menu.sample .student).selectorAt (some ["Unix", "G1"])).select 1 "Ex1").refusal? =
        some (.invalidSelection "Unix" "Ex1") ∧
      selectWithin 3 ((Menu.sample .student).selectorAt (some ["Unix", "G1"])) 0 "Algo" =
        .ok (((Menu.sample .student).selectorAt (some ["Unix", "G1"])).select 0 "Algo" |>.selector,
          ((Menu.sample .student).selectorAt (some ["Unix", "G1"])).select 0 "Algo" |>.result) := by
  have ht : Reachable (Menu.sample .student)
      ((Menu.sample .student).selectorAt (some ["Unix", "G1"])) :=
    reachable_iff.mpr ⟨Menu.issues_sample .student, some ["Unix", "G1"], by decide +kernel, rfl⟩
  refine ⟨ht, ?_, ?_, ?_, ?_⟩
  · rw [(refusals_are_exact ht (2 ^ 64 - 1) "Ex1").1]
    decide +kernel
  · rw [(refusals_are_exact ht 2 "Ex1").1]
    decide +kernel
  · rw [(refusals_are_exact ht 1 "Ex1").1]
    decide +kernel
  · exact ((refusals_are_exact ht 0 "Algo").2.2.2.2.2 3 (by decide +kernel)).1

end Selector

end CascadingForms
