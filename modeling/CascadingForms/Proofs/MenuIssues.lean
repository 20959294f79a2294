import CascadingForms.Menu.Load
import CascadingForms.Proofs.MenuPaths

/-!
# Menus without issues

The issues of a menu are collected entry by entry, each entry being checked against the keys
above it. This file follows a lineage through a menu without issues: no key on it is reserved or
comes twice, and a leaf at its end has a descriptor. What is loaded is a menu without issues.
-/

namespace CascadingForms

@[simp] lemma defectIf_eq_nil_iff (condition : Bool) (defect : Defect) :
    defectIf condition defect = [] ↔ condition = false := by
  cases condition <;> simp [defectIf]

namespace Entry

/-- A key without defects is not empty, holds no blank, is not reserved and new on its path. -/
lemma keyDefects_eq_nil_iff (ancestors : List String) (key : String) :
    keyDefects ancestors key = [] ↔
      key ≠ "" ∧ (∀ c ∈ key.toList, Text.isBlank c = false) ∧ key ∉ Field.reserved ∧
        key ∉ ancestors := by
  unfold keyDefects
  by_cases hkey : key = ""
  · simp [hkey]
  · simp [hkey]

lemma leafDefects_eq_nil_iff (e : Entry) :
    e.leafDefects = [] ↔ e.prompt = none ∧ ∃ d, e.descriptor = some d ∧ d.defects = [] := by
  unfold leafDefects
  cases hd : e.descriptor <;> simp

lemma ownDefects_eq_nil_iff (ancestors : List String) (e : Entry) :
    e.ownDefects ancestors = [] ↔
      keyDefects ancestors e.key = [] ∧
        if e.isLeaf then e.leafDefects = [] else e.branchDefects = [] := by
  unfold ownDefects
  rw [List.append_eq_nil_iff]
  split <;> rfl

lemma issuesOf_eq_nil_iff (ancestors : List String) (children : List Entry) :
    issuesOf ancestors children = [] ↔ ∀ child ∈ children, child.issues ancestors = [] := by
  induction children with
  | nil => simp [issuesOf]
  | cons child children ih => simp [issuesOf, ih]

lemma issues_eq_nil_iff (ancestors : List String) (e : Entry) :
    e.issues ancestors = [] ↔
      e.ownDefects ancestors = [] ∧
        ∀ child ∈ e.children, child.issues (ancestors ++ [e.key]) = [] := by
  rcases e with ⟨key, label, prompt, children, descriptor⟩
  rw [issues, List.append_eq_nil_iff, issuesOf_eq_nil_iff, ownIssues, List.map_eq_nil_iff]

/-- The entry at a place is checked against the keys of all entries above it. -/
theorem issues_of_lineage? {ancestors : List String} {e d : Entry} {place : List Nat}
    {above : List Entry} (h : e.issues ancestors = [])
    (hl : lineage? Entry.children e place = some (above, d)) :
    d.issues (ancestors ++ above.map Entry.key) = [] := by
  induction place generalizing e ancestors above with
  | nil =>
    obtain ⟨rfl, rfl⟩ : [] = above ∧ e = d := by simpa [lineage?] using hl
    simpa using h
  | cons i place ih =>
    obtain ⟨child, rest, hi, hrest, rfl⟩ := lineage?_cons_eq_some_iff.mp hl
    have hchild := ((issues_eq_nil_iff ancestors e).mp h).2 child (List.mem_of_getElem? hi)
    have hd := ih hchild hrest
    rwa [List.append_assoc, List.singleton_append] at hd

lemma keyDefects_of_issues {ancestors : List String} {e : Entry} (h : e.issues ancestors = []) :
    keyDefects ancestors e.key = [] :=
  ((ownDefects_eq_nil_iff ancestors e).mp ((issues_eq_nil_iff ancestors e).mp h).1).1

lemma keyDefects_of_append {ancestors more : List String} {key : String}
    (h : keyDefects (ancestors ++ more) key = []) : keyDefects ancestors key = [] := by
  rw [keyDefects_eq_nil_iff, List.mem_append, not_or] at h
  exact (keyDefects_eq_nil_iff ancestors key).mpr ⟨h.1, h.2.1, h.2.2.1, h.2.2.2.1⟩

lemma descriptor_of_issues {ancestors : List String} {e : Entry} (h : e.issues ancestors = [])
    (hl : e.isLeaf = true) : ∃ d, e.descriptor = some d := by
  have hown := ((issues_eq_nil_iff ancestors e).mp h).1
  have hleaf := ((ownDefects_eq_nil_iff ancestors e).mp hown).2
  rw [if_pos hl, leafDefects_eq_nil_iff] at hleaf
  obtain ⟨-, d, hd, -⟩ := hleaf
  exact ⟨d, hd⟩

/-- No key along a lineage has defects, and none is a key above the entry where it begins. -/
lemma keys_of_lineage? {ancestors : List String} {e d : Entry} {place : List Nat}
    {above : List Entry} (h : e.issues ancestors = [])
    (hl : lineage? Entry.children e place = some (above, d)) :
    ∀ key ∈ (above ++ [d]).map Entry.key, keyDefects ancestors key = [] := by
  induction place generalizing e ancestors above with
  | nil =>
    obtain ⟨rfl, rfl⟩ : [] = above ∧ e = d := by simpa [lineage?] using hl
    intro key hkey
    rw [List.mem_singleton.mp hkey]
    exact keyDefects_of_issues h
  | cons i place ih =>
    obtain ⟨child, rest, hi, hrest, rfl⟩ := lineage?_cons_eq_some_iff.mp hl
    have hchild := ((issues_eq_nil_iff ancestors e).mp h).2 child (List.mem_of_getElem? hi)
    intro key hkey
    rcases List.mem_cons.mp hkey with rfl | hkey
    · exact keyDefects_of_issues h
    · exact keyDefects_of_append (ih hchild hrest key hkey)

lemma nodup_of_lineage? {ancestors : List String} {e d : Entry} {place : List Nat}
    {above : List Entry} (h : e.issues ancestors = [])
    (hl : lineage? Entry.children e place = some (above, d)) :
    ((above ++ [d]).map Entry.key).Nodup := by
  induction place generalizing e ancestors above with
  | nil =>
    obtain ⟨rfl, rfl⟩ : [] = above ∧ e = d := by simpa [lineage?] using hl
    simp
  | cons i place ih =>
    obtain ⟨child, rest, hi, hrest, rfl⟩ := lineage?_cons_eq_some_iff.mp hl
    have hchild := ((issues_eq_nil_iff ancestors e).mp h).2 child (List.mem_of_getElem? hi)
    refine List.nodup_cons.mpr ⟨fun hmem => ?_, ih hchild hrest⟩
    have hkey := keys_of_lineage? hchild hrest e.key hmem
    rw [keyDefects_eq_nil_iff] at hkey
    exact hkey.2.2.2 (List.mem_append_right ancestors (List.mem_singleton_self e.key))

end Entry

namespace Menu

variable {m : Menu} {p : List String} {d : Entry}

lemma root_of_issues (h : m.issues = []) : m.root.isLeaf = false ∧ m.root.issues [] = [] := by
  unfold issues at h
  split at h
  · simp at h
  · rename_i hl
    exact ⟨by simpa using hl, h⟩

/-- A path through a menu without issues repeats no key and uses no reserved one. -/
theorem keys_of_path (h : m.issues = []) (hp : (m.entryAt? p).isSome) :
    (m.root.key :: p).Nodup ∧ ∀ key ∈ m.root.key :: p, key ∉ Field.reserved := by
  obtain ⟨-, hroot⟩ := root_of_issues h
  obtain ⟨d, hd⟩ := Option.isSome_iff_exists.mp hp
  obtain ⟨place, above, hl, hkeys⟩ := Entry.exists_lineage?_of_descend? hd
  rw [← hkeys]
  refine ⟨Entry.nodup_of_lineage? hroot hl, fun key hkey => ?_⟩
  have hdefects := Entry.keys_of_lineage? hroot hl key hkey
  exact ((Entry.keyDefects_eq_nil_iff [] key).mp hdefects).2.2.1

theorem descriptor_of_leaf (h : m.issues = []) (hd : m.entryAt? p = some d)
    (hl : d.isLeaf = true) : ∃ descriptor, d.descriptor = some descriptor := by
  obtain ⟨-, hroot⟩ := root_of_issues h
  obtain ⟨place, above, hlineage, -⟩ := Entry.exists_lineage?_of_descend? hd
  exact Entry.descriptor_of_issues (Entry.issues_of_lineage? hroot hlineage) hl

lemma validated_eq_ok_iff {n : Menu} : m.validated = .ok n ↔ m = n ∧ m.issues = [] := by
  unfold validated
  by_cases hi : m.issues = [] <;> simp [hi]

/-- A text is loaded exactly if it can be parsed as a menu without issues, and that menu it is. -/
theorem load_eq_ok_iff {text origin : String} :
    (load text origin).value = .ok m ↔ parse text origin = .ok m ∧ m.issues = [] := by
  unfold load
  cases parse text origin with
  | error e => simp [Except.bind, pure]
  | ok n =>
    have hbind : (Except.ok n : Except LoadError Menu).bind validated = n.validated := rfl
    rw [hbind]
    by_cases hi : n.issues = []
    · rw [validated_eq_ok_iff.mpr ⟨rfl, hi⟩]
      constructor
      · intro h
        obtain rfl := Except.ok.inj h
        exact ⟨rfl, hi⟩
      · exact And.left
    · have hinvalid : n.validated = .error (.invalid n.name n.issues) := by simp [validated, hi]
      rw [hinvalid]
      constructor
      · intro h
        cases h
      · rintro ⟨h, hm⟩
        obtain rfl := Except.ok.inj h
        exact absurd hm hi

/-- A leaf below a course: files to hand in, with the name of a function where one is asked for,
or exercises to pick from. -/
def sampleLeaf (key path : String) (asksFunction : Bool) (exercises : List Choice) : Entry :=
  ⟨key, key, none, [], some
    ⟨path, exercises.isEmpty, [".c", ".h"], true, asksFunction, 2 ≤ exercises.length, exercises,
      none⟩⟩

/-- A menu without issues, with leaves at two depths and one of each kind. -/
def sample (role : Role) : Menu :=
  ⟨"sample", role, .en, ⟨"Submit", "Source file(s)", "Function name"⟩,
    ⟨"Course", "Course", some "course",
      [⟨"Algo", "Algorithms", some "exercise",
          [sampleLeaf "Ex1" "algo/ex1.bad" true [],
            ⟨"Ex2", "Exercise 2", some "question",
              [sampleLeaf "Q1" "algo/ex2-1.bad" false [], sampleLeaf "Q2" "algo/ex2-2.bad" false []],
              none⟩],
          none⟩,
        ⟨"Unix", "Unix", some "group",
          [sampleLeaf "G1" "" false [⟨"Exo1", "Exercise 1"⟩, ⟨"Exo2", "Exercise 2"⟩]], none⟩],
      none⟩⟩

lemma issues_sample (role : Role) : (sample role).issues = [] := by
  cases role <;> decide +kernel

end Menu

end CascadingForms
