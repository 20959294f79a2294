import CascadingForms.Proofs.SelectorPositions

/-!
# Selecting a whole path

`Selector.selectPath` starts a selector anew and chooses one key after the other until one of them
is refused. This file says what comes of it in terms of the menu alone: the keys are chosen as far
as they lead to entries, and the entry where they stop gives the reason for the refusal. It is a
leaf, or it does not offer the key that comes next.
-/

namespace CascadingForms

namespace Entry

/-- A path that leads to no entry comes to an entry that does not offer the key behind it. -/
lemma exists_child?_none_of_descend? {e : Entry} {path : List String}
    (h : e.descend? path = none) :
    ∃ d key rest, e.descend? (e.reach path) = some d ∧ d.child? key = none ∧
      path = e.reach path ++ key :: rest := by
  induction path generalizing e with
  | nil => cases h.symm.trans (descend?_nil e)
  | cons first path ih =>
    cases hc : e.child? first with
    | none =>
      rw [reach_cons_of_child?_none hc]
      exact ⟨e, first, path, descend?_nil e, hc, rfl⟩
    | some child =>
      rw [descend?_cons, hc, Option.bind_some] at h
      obtain ⟨d, key, rest, hd, hkey, hpath⟩ := ih h
      rw [reach_cons_of_child? hc, descend?_cons, hc, Option.bind_some]
      exact ⟨d, key, rest, hd, hkey, congrArg (first :: ·) hpath⟩

lemma reach_append_of_isLeaf {e d : Entry} {path : List String} (hd : e.descend? path = some d)
    (hl : d.isLeaf = true) (more : List String) : e.reach (path ++ more) = path := by
  induction path generalizing e with
  | nil =>
    obtain rfl : e = d := by simpa using hd
    cases more with
    | nil => rfl
    | cons key keys => exact reach_cons_of_child?_none (child?_of_isLeaf hl key) keys
  | cons key path ih =>
    obtain ⟨child, hc, -⟩ := child?_of_descend?_cons (Option.isSome_of_eq_some hd)
    rw [descend?_cons, hc, Option.bind_some] at hd
    rw [List.cons_append, reach_cons_of_child? hc, ih hd]

/-- Why a key that an entry does not offer cannot be chosen at the level of the entry. -/
def refusal (e : Entry) (level : Nat) (key : String) : SelectionError :=
  if e.isLeaf then .leafLevel level else .invalidSelection e.key key

end Entry

namespace Menu

variable {m : Menu} {path reached : List String}

/-- The part up to which a path leads through a menu: it leads to an entry, and no longer start of
the path does. -/
structure LeadsUpTo (m : Menu) (path reached : List String) : Prop where
  start : reached <+: path
  leads : (m.entryAt? reached).isSome
  longest : ∀ other, other <+: path → (m.entryAt? other).isSome → other.length ≤ reached.length

lemma leadsUpTo_reach (m : Menu) (path : List String) : m.LeadsUpTo path (m.root.reach path) where
  start := Entry.reach_isPrefix m.root path
  leads := Entry.descend?_reach_isSome m.root path
  longest _ hstart hleads := (Entry.prefix_reach hstart hleads).length_le

lemma LeadsUpTo.eq_reach (h : m.LeadsUpTo path reached) : reached = m.root.reach path := by
  have hwithin : reached <+: m.root.reach path := Entry.prefix_reach h.start h.leads
  refine hwithin.eq_of_length_le (h.longest _ ?_ ?_)
  · exact Entry.reach_isPrefix m.root path
  · exact Entry.descend?_reach_isSome m.root path

end Menu

namespace Selector

lemma selectFrom_append {s : Selector} {level : Nat} {keys : List String}
    (h : (s.selectFrom level keys).result = .ok ()) (more : List String) :
    (s.selectFrom level (keys ++ more)).result =
      ((s.selectFrom level keys).selector.selectFrom (level + keys.length) more).result := by
  induction keys generalizing s level with
  | nil => rfl
  | cons key keys ih =>
    rw [selectFrom] at h
    rw [List.cons_append, selectFrom, selectFrom]
    cases hr : (s.select level key).result with
    | error e =>
      rw [hr] at h
      cases h
    | ok l =>
      simp only [hr] at h ⊢
      have hlevel : level + (key :: keys).length = level + 1 + keys.length := by
        rw [List.length_cons]
        omega
      rw [ih h, hlevel]

lemma selectPath_of_none (s : Selector) {path : List String} (h : s.menu.entryAt? path = none) :
    ∃ e key, s.menu.entryAt? (s.menu.root.reach path) = some e ∧
      path[(s.menu.root.reach path).length]? = some key ∧
      (s.selectPath path).result = .error (e.refusal (s.menu.root.reach path).length key) := by
  obtain ⟨e, key, rest, he, hkey, hpath⟩ := Entry.exists_child?_none_of_descend? h
  have hleads := Menu.leadsUpTo_reach s.menu path
  generalize s.menu.root.reach path = reached at he hpath hleads
  subst hpath
  have hnext : (reached ++ key :: rest)[reached.length]? = some key := by
    rw [List.getElem?_append_right (Nat.le_refl _), Nat.sub_self, List.getElem?_cons_zero]
  refine ⟨e, key, he, hnext, ?_⟩
  -- The part that is reached is accepted, and the key behind it is refused at the next level.
  obtain ⟨hselector, haccepted⟩ := selectFrom_selectorAt (Menu.entryAt?_nil s.menu) reached
  have hself : s.menu.root.reach reached = reached :=
    (Entry.reach_eq_self_iff s.menu.root reached).mpr hleads.leads
  have hsome : (s.menu.root.descend? reached).isSome = true := hleads.leads
  rw [List.nil_append, List.length_nil, hself] at hselector
  rw [List.length_nil, hsome] at haccepted
  have hlast : s.menu.entryAt? (reached.take reached.length) = some e := by
    rw [List.take_length]
    exact he
  obtain ⟨-, hrefused⟩ := select_of_child?_none hleads.leads (Nat.le_refl _) hlast hkey
  have happend := selectFrom_append (eq_ok_of_isOk haccepted) (key :: rest)
  rw [hselector, Nat.zero_add, selectFrom, hrefused] at happend
  rw [selectPath, start_value]
  exact happend

/-- What selecting a path comes to in a menu. The path is accepted if all of it leads to an entry.
Otherwise the entry that it leads up to refuses the key that comes next. -/
structure Selects (m : Menu) (path reached : List String) (step : Step Unit) : Prop where
  leadsUpTo : m.LeadsUpTo path reached
  shows : m.Shows reached step.selector
  accepted : step.result = .ok () ↔ (m.entryAt? path).isSome
  refused : ∀ error, step.result = .error error → ∃ e key, m.entryAt? reached = some e ∧
    path[reached.length]? = some key ∧ error = e.refusal reached.length key

lemma selects_selectPath (s : Selector) (path : List String) :
    Selects s.menu path (s.menu.root.reach path) (s.selectPath path) := by
  have hleads := Menu.leadsUpTo_reach s.menu path
  obtain ⟨hselector, hresult⟩ := selectPath_eq s path
  refine ⟨hleads, ?_, ?_, ?_⟩
  · rw [hselector]
    exact shows_selectorAt hleads.leads
  · rw [← hresult]
    constructor
    · intro h
      rw [h, isOk_ok]
    · exact eq_ok_of_isOk
  · intro error herror
    have hnone : s.menu.entryAt? path = none := by
      rw [herror, isOk_error] at hresult
      exact Option.isNone_iff_eq_none.mp (Option.isSome_eq_false_iff.mp hresult.symm)
    obtain ⟨e, key, he, hkey, hrefused⟩ := selectPath_of_none s hnone
    rw [herror] at hrefused
    exact ⟨e, key, he, hkey, Except.error.inj hrefused⟩

/-- Selecting a path goes as far as the path leads through the menu and no further, and is refused
only where the path leaves the menu. What the selector was before makes no difference. -/
theorem selectPath_selects (s : Selector) (path : List String) :
    (∃ reached, Selects s.menu path reached (s.selectPath path)) ∧
      ∀ t : Selector, t.menu = s.menu → t.selectPath path = s.selectPath path := by
  refine ⟨⟨_, selects_selectPath s path⟩, ?_⟩
  intro t hmenu
  have hteardown : t.teardown = s.teardown := by rw [teardown, teardown, hmenu]
  rw [selectPath, selectPath, start, start, hteardown]

/-- A path that goes on behind a leaf, in a selector that was at another course. -/
example : ((((Menu.sample .student).selectorAt (some ["Algo"])).selectPath
    ["Unix", "G1", "Exo1"]).selector.selection,
    (((Menu.sample .student).selectorAt (some ["Algo"])).selectPath
      ["Unix", "G1", "Exo1"]).result) = (["Unix", "G1"], .error (.leafLevel 2)) := by
  rfl

end Selector

end CascadingForms
