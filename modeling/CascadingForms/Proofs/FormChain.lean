import CascadingForms.Proofs.FormFields
import CascadingForms.Proofs.MenuPaths
import CascadingForms.Submission.Decode
import Mathlib.Data.Fintype.Pigeonhole

/-!
# The chain of a form and the chase through its fields

`Menu.chain` walks down a menu and asks the form at each entry for the next key. The receiver of
a form knows no menu: it starts at the field of the root and takes the value of a field for the
name of the next one, for as long as there is such a field. This file proves that the two agree.
A chain is accepted exactly if the chase stops and its values are a path to a leaf.
-/

namespace CascadingForms

namespace PostedForm

/-- The values met from a field on, each being the name of the field with the next one. -/
def chase (f : PostedForm) (name : String) : Nat → Option String
  | 0 => f.get? name
  | i + 1 => (f.chase name i).bind f.get?

/-- The chase from a field stops, and has met exactly these values. -/
def StopsWith (f : PostedForm) (name : String) (values : List String) : Prop :=
  ∀ i, f.chase name i = values[i]?

lemma chase_succ (f : PostedForm) (name : String) (i : Nat) :
    f.chase name (i + 1) = (f.chase name i).bind f.get? := rfl

lemma chase_succ_eq_bind (f : PostedForm) (name : String) (i : Nat) :
    f.chase name (i + 1) = (f.get? name).bind fun value => f.chase value i := by
  induction i with
  | zero => rfl
  | succ i ih =>
    rw [chase_succ, ih]
    cases f.get? name <;> rfl

lemma stopsWith_nil_iff (f : PostedForm) (name : String) :
    f.StopsWith name [] ↔ f.get? name = none := by
  constructor
  · intro h
    exact h 0
  · intro h i
    cases i with
    | zero => exact h
    | succ i => simp [chase_succ_eq_bind, h]

lemma stopsWith_cons_iff (f : PostedForm) (name value : String) (values : List String) :
    f.StopsWith name (value :: values) ↔ f.get? name = some value ∧ f.StopsWith value values := by
  constructor
  · intro h
    have hvalue : f.get? name = some value := h 0
    refine ⟨hvalue, fun i => ?_⟩
    have hi := h (i + 1)
    rwa [chase_succ_eq_bind, hvalue, Option.bind_some, List.getElem?_cons_succ] at hi
  · rintro ⟨hvalue, h⟩ i
    cases i with
    | zero => exact hvalue
    | succ i =>
      rw [chase_succ_eq_bind, hvalue, Option.bind_some, List.getElem?_cons_succ]
      exact h i

lemma stopsWith_unique {f : PostedForm} {name : String} {values values' : List String}
    (h : f.StopsWith name values) (h' : f.StopsWith name values') : values = values' := by
  apply List.ext_getElem?
  intro i
  rw [← h, ← h']

/-- A chase that stops links the field to the last value and goes no further. -/
theorem stopsWith_iff_isChain (f : PostedForm) (name : String) (values : List String) :
    f.StopsWith name values ↔
      (name :: values).IsChain (fun a b => f.get? a = some b) ∧
        f.get? (values.getLast?.getD name) = none := by
  induction values generalizing name with
  | nil => simp [stopsWith_nil_iff]
  | cons value values ih =>
    rw [stopsWith_cons_iff, ih value, List.isChain_cons_cons, and_assoc]
    cases values with
    | nil => simp
    | cons next rest => simp [List.getLast?_cons]

/-! ### Chases that never stop -/

lemma chase_isSome_of_succ {f : PostedForm} {name : String} {i : Nat}
    (h : (f.chase name (i + 1)).isSome) : (f.chase name i).isSome := by
  rw [chase_succ] at h
  cases hc : f.chase name i with
  | none => simp [hc] at h
  | some value => rfl

lemma chase_isSome_of_le {f : PostedForm} {name : String} {i j : Nat} (hij : i ≤ j)
    (h : (f.chase name j).isSome) : (f.chase name i).isSome := by
  induction hij with
  | refl => exact h
  | step _ ih => exact ih (chase_isSome_of_succ h)

lemma chase_add_eq {f : PostedForm} {name : String} {i j : Nat}
    (h : f.chase name i = f.chase name j) (k : Nat) :
    f.chase name (i + k) = f.chase name (j + k) := by
  induction k with
  | zero => exact h
  | succ k ih => rw [← Nat.add_assoc, ← Nat.add_assoc, chase_succ, chase_succ, ih]

/-- A value that comes again comes again and again, one round of the cycle after the other. -/
lemma chase_isSome_of_cycle {f : PostedForm} {name : String} {i j : Nat} (hij : i < j)
    (h : f.chase name i = f.chase name j) (hs : (f.chase name i).isSome) (k : Nat) :
    (f.chase name k).isSome := by
  have hround (n : Nat) : (f.chase name (i + n * (j - i))).isSome := by
    induction n with
    | zero => simpa using hs
    | succ n ih =>
      have hnext := chase_add_eq h (n * (j - i))
      have hindex : i + (n + 1) * (j - i) = j + n * (j - i) := by
        rw [Nat.add_mul, Nat.one_mul]
        omega
      rw [hindex, ← hnext]
      exact ih
  have hle : k ≤ i + k * (j - i) := by
    have hmul : k * 1 ≤ k * (j - i) := Nat.mul_le_mul_left k (by omega)
    omega
  exact chase_isSome_of_le hle (hround k)

/-- A form has finitely many fields, so a chase that never stops comes to one of them twice. -/
theorem chase_never_stops_iff_cycle (f : PostedForm) (name : String) :
    (∀ i, (f.chase name i).isSome) ↔
      ∃ i j, i < j ∧ f.chase name i = f.chase name j ∧ (f.chase name i).isSome := by
  constructor
  · intro h
    have hfield (i : Nat) : (f.chase name i).get (h i) ∈ f.fields.map Prod.fst := by
      have hnext := h (i + 1)
      rw [chase_succ] at hnext
      obtain ⟨value, hvalue⟩ := Option.isSome_iff_exists.mp (h i)
      rw [hvalue, Option.bind_some] at hnext
      obtain ⟨next, hget⟩ := Option.isSome_iff_exists.mp hnext
      simpa [hvalue] using mem_names_of_get? hget
    obtain ⟨i, j, hne, heq⟩ := Finite.exists_ne_map_eq_of_infinite
      fun i => (⟨(f.chase name i).get (h i), hfield i⟩ : {a // a ∈ f.fields.map Prod.fst})
    have hvalues : f.chase name i = f.chase name j := by
      rw [← Option.some_get (h i), ← Option.some_get (h j)]
      exact congrArg some (Subtype.mk.inj heq)
    rcases Nat.lt_or_gt_of_ne hne with hij | hji
    · exact ⟨i, j, hij, hvalues, h i⟩
    · exact ⟨j, i, hji, hvalues.symm, h j⟩
  · rintro ⟨i, j, hij, heq, hs⟩ k
    exact chase_isSome_of_cycle hij heq hs k

end PostedForm

namespace Entry

/-! ### The walk down a menu -/

lemma chainAmong_eq (f : PostedForm) (field value : String) (children : List Entry) :
    chainAmong f field value children =
      match children.find? (·.key = value) with
      | none => .error (.unknownOption field value)
      | some child => (child.chain f).map fun found => (value :: found.1, found.2) := by
  induction children with
  | nil => simp [chainAmong]
  | cons child children ih =>
    rw [chainAmong]
    by_cases hkey : child.key = value
    · subst hkey
      simp only [if_true, List.find?_cons, decide_true]
      cases child.chain f <;> rfl
    · simp only [hkey, if_false, List.find?_cons, decide_false, ih]

lemma chain_of_isLeaf {e : Entry} (h : e.isLeaf = true) (f : PostedForm) :
    e.chain f =
      match f.get? e.key with
      | some extra => .error (.unknownOption e.key extra)
      | none => .ok ([], e) := by
  rcases e with ⟨key, label, prompt, children, descriptor⟩
  obtain rfl : children = [] := List.isEmpty_iff.mp h
  cases hg : f.get? key <;> simp [chain, hg]

lemma chain_of_isLeaf_false {e : Entry} (h : e.isLeaf = false) (f : PostedForm) :
    e.chain f =
      match f.get? e.key with
      | none => .error (.missingField e.key)
      | some value =>
        match e.child? value with
        | none => .error (.unknownOption e.key value)
        | some child => (child.chain f).map fun found => (value :: found.1, found.2) := by
  rcases e with ⟨key, label, prompt, children, descriptor⟩
  cases children with
  | nil => cases h
  | cons child children =>
    rw [chain]
    cases f.get? key with
    | none => rfl
    | some value =>
      simp only [chainAmong_eq]
      rfl

/-- The chain follows the links of a form, down to where they are taken to lead. -/
theorem chain_of_isChain {e d : Entry} {p : List String} {f : PostedForm}
    (hd : e.descend? p = some d) (hf : (e.key :: p).IsChain fun a b => f.get? a = some b) :
    e.chain f = (d.chain f).map fun found => (p ++ found.1, found.2) := by
  induction p generalizing e with
  | nil =>
    obtain rfl : e = d := by simpa using hd
    cases e.chain f <;> rfl
  | cons key keys ih =>
    obtain ⟨child, hc, -⟩ := child?_of_descend?_cons (Option.isSome_of_eq_some hd)
    obtain ⟨hvalue, hrest⟩ := List.isChain_cons_cons.mp hf
    rw [descend?_cons, hc, Option.bind_some] at hd
    rw [← key_of_child? hc] at hrest
    rw [chain_of_isLeaf_false (isLeaf_of_child? hc), hvalue]
    simp only [hc, ih hd hrest]
    cases d.chain f <;> rfl

lemma chain_ok_of_isLeaf_false {e leaf : Entry} {f : PostedForm} {keys : List String}
    (hl : e.isLeaf = false) (h : e.chain f = .ok (keys, leaf)) :
    ∃ value child rest, f.get? e.key = some value ∧ e.child? value = some child ∧
      child.chain f = .ok (rest, leaf) ∧ keys = value :: rest := by
  rw [chain_of_isLeaf_false hl] at h
  cases hg : f.get? e.key with
  | none => simp [hg] at h
  | some value =>
    cases hc : e.child? value with
    | none => simp [hg, hc] at h
    | some child =>
      cases hr : child.chain f with
      | error error => simp [hg, hc, hr, Except.map] at h
      | ok found =>
        simp only [hg, hc, hr, Except.map, Except.ok.injEq, Prod.mk.injEq] at h
        obtain ⟨rfl, rfl⟩ := h
        exact ⟨value, child, found.1, rfl, hc, hr, rfl⟩

lemma chain_ok_of_isLeaf {e leaf : Entry} {f : PostedForm} {keys : List String}
    (hl : e.isLeaf = true) (h : e.chain f = .ok (keys, leaf)) :
    keys = [] ∧ e = leaf ∧ f.get? e.key = none := by
  rw [chain_of_isLeaf hl] at h
  cases hg : f.get? e.key with
  | some extra => simp [hg] at h
  | none =>
    simp only [hg, Except.ok.injEq, Prod.mk.injEq] at h
    exact ⟨h.1.symm, h.2, rfl⟩

/-- The chain ends at a leaf exactly if the links of the form lead there and end there. -/
theorem chain_eq_ok_iff (e : Entry) (f : PostedForm) (keys : List String) (leaf : Entry) :
    e.chain f = .ok (keys, leaf) ↔
      e.descend? keys = some leaf ∧ leaf.isLeaf = true ∧
        (e.key :: keys).IsChain (fun a b => f.get? a = some b) ∧ f.get? leaf.key = none := by
  constructor
  · intro h
    induction keys generalizing e with
    | nil =>
      cases hl : e.isLeaf with
      | true =>
        obtain ⟨-, rfl, hend⟩ := chain_ok_of_isLeaf hl h
        simp [hl, hend]
      | false =>
        obtain ⟨value, child, rest, -, -, -, hkeys⟩ := chain_ok_of_isLeaf_false hl h
        exact absurd hkeys (by simp)
    | cons key keys ih =>
      cases hl : e.isLeaf with
      | true =>
        obtain ⟨hkeys, -, -⟩ := chain_ok_of_isLeaf hl h
        exact absurd hkeys (by simp)
      | false =>
        obtain ⟨value, child, rest, hg, hc, hr, hkeys⟩ := chain_ok_of_isLeaf_false hl h
        obtain ⟨rfl, rfl⟩ := List.cons.inj hkeys
        obtain ⟨hd, hleaf, hlinks, hend⟩ := ih child hr
        rw [key_of_child? hc] at hlinks
        refine ⟨?_, hleaf, List.isChain_cons_cons.mpr ⟨hg, hlinks⟩, hend⟩
        rw [descend?_cons, hc, Option.bind_some, hd]
  · rintro ⟨hd, hleaf, hlinks, hend⟩
    rw [chain_of_isChain hd hlinks, chain_of_isLeaf hleaf, hend]
    simp [Except.map]

lemma key_of_descend? {e d : Entry} {p : List String} (h : e.descend? p = some d) :
    d.key = p.getLast?.getD e.key := by
  induction p generalizing e with
  | nil =>
    obtain rfl : e = d := by simpa using h
    rfl
  | cons key keys ih =>
    obtain ⟨child, hc, -⟩ := child?_of_descend?_cons (Option.isSome_of_eq_some h)
    rw [descend?_cons, hc, Option.bind_some] at h
    rw [ih h, key_of_child? hc, List.getLast?_cons]
    rfl

lemma key_mem_of_descend? {e d : Entry} {p : List String} (h : e.descend? p = some d) :
    d.key ∈ e.key :: p := by
  have hlast : (e.key :: p).getLast? = some d.key := by
    rw [List.getLast?_cons, key_of_descend? h]
  exact List.mem_of_getLast? hlast

end Entry

namespace Menu

lemma chain_eq_ok_iff_stopsWith (m : Menu) (f : PostedForm) (keys : List String) (leaf : Entry) :
    m.chain f = .ok (keys, leaf) ↔
      f.StopsWith m.root.key keys ∧ m.entryAt? keys = some leaf ∧ leaf.isLeaf = true := by
  unfold chain entryAt?
  rw [Entry.chain_eq_ok_iff, PostedForm.stopsWith_iff_isChain]
  constructor
  · rintro ⟨hd, hleaf, hlinks, hend⟩
    rw [Entry.key_of_descend? hd] at hend
    exact ⟨⟨hlinks, hend⟩, hd, hleaf⟩
  · rintro ⟨⟨hlinks, hend⟩, hd, hleaf⟩
    rw [← Entry.key_of_descend? hd] at hend
    exact ⟨hd, hleaf, hlinks, hend⟩

lemma chain_error_of_forall {m : Menu} {f : PostedForm}
    (h : ∀ keys leaf, m.chain f ≠ .ok (keys, leaf)) : ∃ error, m.chain f = .error error := by
  cases hc : m.chain f with
  | error error => exact ⟨error, rfl⟩
  | ok found => exact absurd hc (h found.1 found.2)

lemma chain_error_of_never_stops {m : Menu} {f : PostedForm}
    (h : ∀ i, (f.chase m.root.key i).isSome) : ∃ error, m.chain f = .error error := by
  apply chain_error_of_forall
  intro keys leaf hok
  obtain ⟨hstops, -, -⟩ := (chain_eq_ok_iff_stopsWith m f keys leaf).mp hok
  have hend := h keys.length
  rw [hstops keys.length, List.getElem?_eq_none (Nat.le_refl _)] at hend
  cases hend

lemma chain_error_of_stops_before_leaf {m : Menu} {f : PostedForm} {keys : List String}
    (hstops : f.StopsWith m.root.key keys)
    (h : ∀ leaf, m.entryAt? keys = some leaf → leaf.isLeaf = false) :
    ∃ error, m.chain f = .error error := by
  apply chain_error_of_forall
  intro keys' leaf hok
  obtain ⟨hstops', hentry, hleaf⟩ := (chain_eq_ok_iff_stopsWith m f keys' leaf).mp hok
  rw [PostedForm.stopsWith_unique hstops' hstops] at hentry
  rw [h leaf hentry] at hleaf
  cases hleaf

lemma chain_error_of_runs_past_leaf {m : Menu} {f : PostedForm} {keys : List String} {leaf : Entry}
    (hentry : m.entryAt? keys = some leaf) (hleaf : leaf.isLeaf = true)
    (hvalues : ∀ i < keys.length, f.chase m.root.key i = keys[i]?)
    (hmore : (f.chase m.root.key keys.length).isSome) : ∃ error, m.chain f = .error error := by
  apply chain_error_of_forall
  intro keys' leaf' hok
  obtain ⟨hstops, hentry', -⟩ := (chain_eq_ok_iff_stopsWith m f keys' leaf').mp hok
  have hlonger : keys.length < keys'.length := by
    rw [hstops keys.length] at hmore
    exact (List.getElem?_eq_some_iff.mp (Option.some_get hmore).symm).1
  have hstart : keys'.take keys.length = keys := by
    apply List.ext_getElem?
    intro i
    by_cases hi : i < keys.length
    · rw [List.getElem?_take_of_lt hi, ← hstops, hvalues i hi]
    · rw [List.getElem?_eq_none (by rw [List.length_take]; omega),
        List.getElem?_eq_none (by omega)]
  -- The accepted keys would go on from the leaf, which has no child.
  have hsplit := List.take_append_drop keys.length keys'
  rw [hstart, List.drop_eq_getElem_cons hlonger] at hsplit
  rw [← hsplit] at hentry'
  have hbranch := Entry.isLeaf_of_longer_path hentry (Option.isSome_of_eq_some hentry')
  rw [hbranch] at hleaf
  cases hleaf

/-- The chain through a menu is the chase through the fields of the form. It is accepted exactly
if the chase stops with the keys of a path to a leaf, whatever the menu and the form. A chase that
never stops, which is one that runs into a cycle, is refused, and so is one that stops before a
leaf or goes on after one. -/
theorem chain_agrees_with_chase (m : Menu) (f : PostedForm) :
    (∀ keys leaf, m.chain f = .ok (keys, leaf) ↔
      f.StopsWith m.root.key keys ∧ m.entryAt? keys = some leaf ∧ leaf.isLeaf = true) ∧
    ((∀ i, (f.chase m.root.key i).isSome) ↔
      ∃ i j, i < j ∧ f.chase m.root.key i = f.chase m.root.key j ∧
        (f.chase m.root.key i).isSome) ∧
    ((∀ i, (f.chase m.root.key i).isSome) → ∃ error, m.chain f = .error error) ∧
    (∀ keys, f.StopsWith m.root.key keys →
      (∀ leaf, m.entryAt? keys = some leaf → leaf.isLeaf = false) →
        ∃ error, m.chain f = .error error) ∧
    ∀ keys leaf, m.entryAt? keys = some leaf → leaf.isLeaf = true →
      (∀ i < keys.length, f.chase m.root.key i = keys[i]?) →
        (f.chase m.root.key keys.length).isSome → ∃ error, m.chain f = .error error := by
  refine ⟨chain_eq_ok_iff_stopsWith m f, ?_, chain_error_of_never_stops, ?_, ?_⟩
  · exact PostedForm.chase_never_stops_iff_cycle f m.root.key
  · intro keys hstops hbranch
    exact chain_error_of_stops_before_leaf hstops hbranch
  · intro keys leaf hentry hleaf hvalues hmore
    exact chain_error_of_runs_past_leaf hentry hleaf hvalues hmore

end Menu

end CascadingForms
