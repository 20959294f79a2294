import CascadingForms.Proofs.Decoding
import CascadingForms.Proofs.SelectorPositions

/-!
# What a selector posts

The form of a selector holds the chosen key under the key of each entry on its path and, at a
leaf, the path of the template. In a menu without issues no name comes twice and none is reserved
but the last, so the form leads back to the entry where the selector stands: `Menu.chain` accepts
it at a leaf with the selection, and misses the field of the last entry otherwise.
-/

namespace CascadingForms

/-- The names of the fields that the user of a form fills in. -/
def Field.filledIn : List String := [Field.function, Field.exercise, Field.source]

lemma Field.not_mem_filledIn {name : String} (h : name ∉ Field.reserved) :
    name ∉ Field.filledIn := by
  have hsub : Field.filledIn ⊆ Field.reserved := by decide
  exact fun hmem => h (hsub hmem)

lemma PostedForm.get?_pushAll_of_not_mem {f : PostedForm} {extra : List (String × String)}
    {name : String} (hextra : ∀ field ∈ extra, field.1 ∈ Field.filledIn)
    (hname : name ∉ Field.filledIn) : (f.pushAll extra).get? name = f.get? name := by
  have hnone : (⟨extra⟩ : PostedForm).get? name = none := by
    rw [get?_eq_none_iff]
    intro hmem
    obtain ⟨field, hfield, rfl⟩ := List.mem_map.mp hmem
    exact hname (hextra field hfield)
  rw [get?_pushAll, hnone, Option.or_none]

lemma Descriptor.posted_controls (d : Descriptor) (labels : Labels) :
    (d.controls labels).flatMap PostedForm.ofControl = [(Field.path, d.path)] := by
  unfold Descriptor.controls
  cases d.collectsFiles <;> cases d.requiresFunctionName <;> cases d.hasPicker <;>
    simp [PostedForm.ofControl]

namespace Entry

/-- What an entry posts with nothing selected: a leaf posts the path of its template. -/
def ownFields (e : Entry) : List (String × String) :=
  if e.isLeaf then (e.descriptor.map fun d => (Field.path, d.path)).toList else []

lemma posted_level_none (e : Entry) (labels : Labels) (depth : Nat) :
    (e.level labels depth none).controls.flatMap PostedForm.ofControl = e.ownFields := by
  rw [level_none]
  cases hl : e.isLeaf with
  | false => simp [controls, hl, dropdown, PostedForm.ofControl, ownFields]
  | true =>
    cases hd : e.descriptor with
    | none => simp [controls, hl, hd, ownFields]
    | some d => simp [controls, hl, hd, ownFields, d.posted_controls labels]

lemma posted_level_some {e : Entry} (h : e.isLeaf = false) (labels : Labels) (depth : Nat)
    (key : String) :
    (e.level labels depth (some key)).controls.flatMap PostedForm.ofControl = [(e.key, key)] := by
  simp [level, controlsShowing_of_isLeaf_false h, PostedForm.ofControl]

/-- Along a path every entry posts the key chosen in it, and the last one posts its own fields. -/
lemma posted_levels {e d : Entry} {p : List String} (hd : e.descend? p = some d) (labels : Labels)
    (depth : Nat) :
    ((e.levels labels depth none p).flatMap Level.controls).flatMap PostedForm.ofControl =
      (e.key :: p).zip p ++ d.ownFields := by
  induction p generalizing e depth with
  | nil =>
    obtain rfl : e = d := by simpa using hd
    simp [levels_nil, posted_level_none]
  | cons key keys ih =>
    obtain ⟨child, hc, -⟩ := child?_of_descend?_cons (Option.isSome_of_eq_some hd)
    rw [descend?_cons, hc, Option.bind_some] at hd
    have hrest := ih hd (depth + 1)
    rw [key_of_child? hc] at hrest
    rw [levels_cons hc, List.flatMap_cons, List.flatMap_append, hrest,
      posted_level_some (isLeaf_of_child? hc), List.zip_cons_cons]
    rfl

lemma ownFields_of_isLeaf {e : Entry} (hl : e.isLeaf = true) {d : Descriptor}
    (hd : e.descriptor = some d) : e.ownFields = [(Field.path, d.path)] := by
  simp [ownFields, hl, hd]

lemma eq_path_of_mem_names {e : Entry} {name : String} (h : name ∈ e.ownFields.map Prod.fst) :
    name = Field.path := by
  unfold ownFields at h
  split at h
  · cases hd : e.descriptor with
    | none => simp [hd] at h
    | some d => simpa [hd] using h
  · cases h

lemma nodup_names_ownFields (e : Entry) : (e.ownFields.map Prod.fst).Nodup := by
  unfold ownFields
  split
  · cases e.descriptor <;> simp
  · simp

end Entry

/-! ### Consecutive keys as fields -/

lemma map_fst_zip_cons (name : String) (p : List String) :
    ((name :: p).zip p).map Prod.fst = (name :: p).dropLast := by
  induction p generalizing name with
  | nil => rfl
  | cons key keys ih =>
    rw [List.zip_cons_cons, List.map_cons, ih,
      List.dropLast_cons_of_ne_nil (List.cons_ne_nil key keys)]

lemma isChain_mem_zip (name : String) (p : List String) :
    (name :: p).IsChain fun a b => (a, b) ∈ (name :: p).zip p := by
  induction p generalizing name with
  | nil => simp
  | cons key keys ih =>
    rw [List.isChain_cons_cons]
    refine ⟨List.mem_cons_self, (ih key).imp ?_⟩
    intro a b hab
    exact List.mem_cons_of_mem _ hab

namespace Selector

variable {m : Menu} {p : List String} {d : Entry}

lemma posted_none : (m.selectorAt none).posted = ⟨[]⟩ := rfl

lemma fields_posted (hd : m.entryAt? p = some d) :
    (m.selectorAt (some p)).posted.fields = (m.root.key :: p).zip p ++ d.ownFields :=
  Entry.posted_levels hd m.labels 0

lemma names_posted (hd : m.entryAt? p = some d) :
    (m.selectorAt (some p)).posted.fields.map Prod.fst =
      (m.root.key :: p).dropLast ++ d.ownFields.map Prod.fst := by
  rw [fields_posted hd, List.map_append, map_fst_zip_cons]

/-- No field is posted twice: keys on a path differ, and none is the name of the template path. -/
lemma nodup_names_posted (h : m.issues = []) (hd : m.entryAt? p = some d) :
    ((m.selectorAt (some p)).posted.fields.map Prod.fst).Nodup := by
  obtain ⟨hnodup, hreserved⟩ := Menu.keys_of_path h (Option.isSome_of_eq_some hd)
  rw [names_posted hd]
  refine List.nodup_append.mpr ⟨hnodup.sublist (List.dropLast_sublist _),
    d.nodup_names_ownFields, ?_⟩
  intro key hkey name hname heq
  have hmem := hreserved key (List.mem_of_mem_dropLast hkey)
  rw [heq, Entry.eq_path_of_mem_names hname] at hmem
  exact hmem (by decide)

/-- The posted form links the key of each entry on the path to the key of the next. -/
lemma links_posted (h : m.issues = []) (hd : m.entryAt? p = some d) :
    (m.root.key :: p).IsChain
      fun a b => (m.selectorAt (some p)).posted.get? a = some b := by
  refine (isChain_mem_zip m.root.key p).imp ?_
  intro a b hab
  apply PostedForm.get?_of_mem (nodup_names_posted h hd)
  rw [fields_posted hd]
  exact List.mem_append_left _ hab

lemma key_eq_getLast (hd : m.entryAt? p = some d) :
    d.key = (m.root.key :: p).getLast (List.cons_ne_nil _ _) := by
  have hlast : (m.root.key :: p).getLast? = some d.key := by
    rw [List.getLast?_cons, Entry.key_of_descend? hd]
  rw [List.getLast?_eq_some_getLast (List.cons_ne_nil _ _)] at hlast
  exact (Option.some.inj hlast).symm

lemma key_mem_path (hd : m.entryAt? p = some d) : d.key ∈ m.root.key :: p :=
  Entry.key_mem_of_descend? hd

lemma get?_posted_key (h : m.issues = []) (hd : m.entryAt? p = some d) :
    (m.selectorAt (some p)).posted.get? d.key = none := by
  obtain ⟨hnodup, hreserved⟩ := Menu.keys_of_path h (Option.isSome_of_eq_some hd)
  have hkey := key_eq_getLast hd
  have hsplit := List.dropLast_concat_getLast (List.cons_ne_nil m.root.key p)
  rw [← hkey] at hsplit
  rw [PostedForm.get?_eq_none_iff, names_posted hd, List.mem_append, not_or]
  constructor
  · intro hmem
    rw [← hsplit] at hnodup
    exact (List.nodup_append.mp hnodup).2.2 d.key hmem d.key (List.mem_singleton_self d.key) rfl
  · intro hmem
    have hkey := hreserved d.key (key_mem_path hd)
    rw [Entry.eq_path_of_mem_names hmem] at hkey
    exact hkey (by decide)

lemma get?_posted_path (h : m.issues = []) (hd : m.entryAt? p = some d) (hl : d.isLeaf = true)
    {own : Descriptor} (hown : d.descriptor = some own) :
    (m.selectorAt (some p)).posted.get? Field.path = some own.path := by
  apply PostedForm.get?_of_mem (nodup_names_posted h hd)
  rw [fields_posted hd, Entry.ownFields_of_isLeaf hl hown]
  exact List.mem_append_right _ (List.mem_singleton_self _)

lemma get?_posted_of_mem_filledIn (h : m.issues = []) (hd : m.entryAt? p = some d) {name : String}
    (hname : name ∈ Field.filledIn) : (m.selectorAt (some p)).posted.get? name = none := by
  obtain ⟨-, hreserved⟩ := Menu.keys_of_path h (Option.isSome_of_eq_some hd)
  rw [PostedForm.get?_eq_none_iff, names_posted hd, List.mem_append, not_or]
  constructor
  · intro hmem
    exact Field.not_mem_filledIn (hreserved name (List.mem_of_mem_dropLast hmem)) hname
  · intro hmem
    rw [Entry.eq_path_of_mem_names hmem] at hname
    exact absurd hname (by decide)

/-! ### Where the selector stands -/

lemma frontier_selectorAt (hd : m.entryAt? p = some d) :
    (m.selectorAt (some p)).frontier = d := by
  have hentry : (m.selectorAt (some p)).menu.entryAt? (m.selectorAt (some p)).selection = some d := hd
  rw [frontier, hentry]
  rfl

lemma descriptor?_selectorAt (hd : m.entryAt? p = some d) :
    (m.selectorAt (some p)).descriptor? = if d.isLeaf then d.descriptor else none := by
  rw [descriptor?, frontier_selectorAt hd]

lemma isComplete_selectorAt (h : m.issues = []) (hd : m.entryAt? p = some d) :
    (m.selectorAt (some p)).isComplete = d.isLeaf := by
  rw [isComplete, descriptor?_selectorAt hd]
  cases hl : d.isLeaf with
  | false => rfl
  | true =>
    obtain ⟨own, hown⟩ := Menu.descriptor_of_leaf h hd hl
    rw [hown]
    rfl

lemma isComplete_none (h : m.issues = []) : (m.selectorAt none).isComplete = false := by
  have hroot := (Menu.root_of_issues h).1
  simp [isComplete, descriptor?, frontier, Menu.selectorAt, hroot]

/-! ### The way back -/

/-- Fields that the user fills in leave the chain as it is: to the leaf where the selector stands,
or to the missing field of an entry with children. -/
theorem chain_posted_pushAll (h : m.issues = []) (hd : m.entryAt? p = some d)
    {extra : List (String × String)} (hextra : ∀ field ∈ extra, field.1 ∈ Field.filledIn) :
    m.chain ((m.selectorAt (some p)).posted.pushAll extra) =
      if d.isLeaf then .ok (p, d) else .error (.missingField d.key) := by
  obtain ⟨-, hreserved⟩ := Menu.keys_of_path h (Option.isSome_of_eq_some hd)
  have hkey := Field.not_mem_filledIn (hreserved d.key (key_mem_path hd))
  have hend : ((m.selectorAt (some p)).posted.pushAll extra).get? d.key = none := by
    rw [PostedForm.get?_pushAll_of_not_mem hextra hkey]
    exact get?_posted_key h hd
  have hlinks : (m.root.key :: p).IsChain
      fun a b => ((m.selectorAt (some p)).posted.pushAll extra).get? a = some b := by
    refine (links_posted h hd).imp ?_
    intro a b hab
    rw [PostedForm.get?_pushAll, hab, Option.some_or]
  unfold Menu.chain
  rw [Entry.chain_of_isChain hd hlinks]
  cases hl : d.isLeaf with
  | true =>
    rw [Entry.chain_of_isLeaf hl, hend]
    simp [Except.map]
  | false =>
    rw [Entry.chain_of_isLeaf_false hl, hend]
    rfl

lemma chosen_posted_pushAll (h : m.issues = []) (hd : m.entryAt? p = some d)
    (hl : d.isLeaf = true) {own : Descriptor} (hown : d.descriptor = some own)
    {extra : List (String × String)} (hextra : ∀ field ∈ extra, field.1 ∈ Field.filledIn)
    (keys : List String) (found : Descriptor) :
    m.chosen ((m.selectorAt (some p)).posted.pushAll extra) = .ok (keys, found) ↔
      keys = p ∧ found = own := by
  have hchain := chain_posted_pushAll h hd hextra
  rw [if_pos hl] at hchain
  have hpath : ((m.selectorAt (some p)).posted.pushAll extra).get? Field.path = some own.path := by
    rw [PostedForm.get?_pushAll_of_not_mem hextra (by decide)]
    exact get?_posted_path h hd hl hown
  rw [Menu.chosen_eq_ok_iff, hchain, hpath]
  constructor
  · rintro ⟨leaf, hleaf, hfound, -⟩
    obtain ⟨rfl, rfl⟩ := Prod.mk.inj (Except.ok.inj hleaf)
    exact ⟨rfl, Option.some.inj (hfound.symm.trans hown)⟩
  · rintro ⟨rfl, rfl⟩
    exact ⟨d, rfl, hown, rfl⟩

/-- The submission in the form of a complete selector: the name of the function is the first one
filled in, and there is no submission while it is asked for and missing or blank. -/
theorem decodeStudent_posted_pushAll (h : m.issues = []) (hrole : m.role = .student)
    (hd : m.entryAt? p = some d) (hl : d.isLeaf = true) {own : Descriptor}
    (hown : d.descriptor = some own) {extra : List (String × String)}
    (hextra : ∀ field ∈ extra, field.1 ∈ Field.filledIn) (r : StudentSubmission) :
    (m.decodeStudent ((m.selectorAt (some p)).posted.pushAll extra)).value = .ok r ↔
      r.selection = p ∧ r.path = own.path ∧
        if own.requiresFunctionName then
          ∃ value, (⟨extra⟩ : PostedForm).get? Field.function = some value ∧
            (∃ c ∈ value.toList, Text.isBlank c = false) ∧ r.functionName = some (Text.trim value)
        else r.functionName = none := by
  have hfunction : ((m.selectorAt (some p)).posted.pushAll extra).get? Field.function =
      (⟨extra⟩ : PostedForm).get? Field.function := by
    rw [PostedForm.get?_pushAll, get?_posted_of_mem_filledIn h hd (by decide), Option.none_or]
  have hchosen := chosen_posted_pushAll h hd hl hown hextra
  have hname (name : Option String) := own.functionName_eq_ok_iff
    ((m.selectorAt (some p)).posted.pushAll extra) name
  simp only [hfunction, Text.trim_ne_empty_iff] at hname
  rw [Menu.decodeStudent_eq_ok_iff]
  constructor
  · rintro ⟨-, found, hfound, hpath, hfun⟩
    obtain ⟨hkeys, rfl⟩ := (hchosen _ _).mp hfound
    exact ⟨hkeys, hpath, (hname _).mp hfun⟩
  · rintro ⟨hkeys, hpath, hfun⟩
    exact ⟨hrole, own, (hchosen _ _).mpr ⟨hkeys, rfl⟩, hpath, (hname _).mpr hfun⟩

/-- The form of every reachable selector leads back to where the selector stands. At a leaf the
chain is the selection, also after the user has filled in fields, and a student's submission is
found there unless a function name is asked for and the first one filled in is missing or blank.
Before a leaf the field of the last entry is missing, and before the start that of the root. -/
theorem posted_leads_back {t : Selector} (ht : Reachable m t) :
    m.chain t.posted =
        (if t.isComplete then .ok (t.selection, t.frontier)
        else if t.isStarted then .error (.missingField t.frontier.key)
        else .error (.missingField m.root.key)) ∧
      ∀ extra : List (String × String), t.isComplete = true →
        (∀ field ∈ extra, field.1 ∈ Field.filledIn) →
          m.chain (t.posted.pushAll extra) = .ok (t.selection, t.frontier) ∧
          (m.role = .student → ∃ own, t.descriptor? = some own ∧ ∀ r,
            (m.decodeStudent (t.posted.pushAll extra)).value = .ok r ↔
              r.selection = t.selection ∧ r.path = own.path ∧
                if own.requiresFunctionName then
                  ∃ value, (⟨extra⟩ : PostedForm).get? Field.function = some value ∧
                    (∃ c ∈ value.toList, Text.isBlank c = false) ∧
                      r.functionName = some (Text.trim value)
                else r.functionName = none) := by
  obtain ⟨hm, position, hpos, rfl⟩ := reachable_iff.mp ht
  cases position with
  | none =>
    have hroot := (Menu.root_of_issues hm).1
    have hcomplete := isComplete_none hm
    constructor
    · rw [hcomplete, posted_none, Menu.chain, Entry.chain_of_isLeaf_false hroot]
      rfl
    · intro extra hc
      rw [hcomplete] at hc
      exact absurd hc (by decide)
  | some p =>
    obtain ⟨d, hd⟩ := Option.isSome_iff_exists.mp hpos
    have hcomplete := isComplete_selectorAt hm hd
    have hfrontier := frontier_selectorAt hd
    have hstarted : (m.selectorAt (some p)).isStarted = true := by
      rw [isStarted, levels_selectorAt_ne_nil hpos]
      rfl
    constructor
    · have hnone : ∀ field ∈ ([] : List (String × String)), field.1 ∈ Field.filledIn := by simp
      have hchain := chain_posted_pushAll hm hd hnone
      have hsame : (m.selectorAt (some p)).posted.pushAll [] = (m.selectorAt (some p)).posted := by
        simp [PostedForm.pushAll]
      rw [hsame] at hchain
      rw [hcomplete, hfrontier, hstarted, hchain]
      rfl
    · intro extra hc hextra
      have hl : d.isLeaf = true := hcomplete.symm.trans hc
      obtain ⟨own, hown⟩ := Menu.descriptor_of_leaf hm hd hl
      constructor
      · rw [hfrontier, chain_posted_pushAll hm hd hextra, if_pos hl]
        rfl
      · intro hrole
        refine ⟨own, ?_, decodeStudent_posted_pushAll hm hrole hd hl hown hextra⟩
        rw [descriptor?_selectorAt hd, if_pos hl, hown]

/-- Two function names filled in at a leaf that asks for one: the first counts, trimmed. -/
theorem posted_leads_back_to_function :
    Reachable (Menu.sample .student) ((Menu.sample .student).selectorAt (some ["Algo", "Ex1"])) ∧
      ((Menu.sample .student).decodeStudent
        (((Menu.sample .student).selectorAt (some ["Algo", "Ex1"])).posted.pushAll
          [(Field.function, " fact "), (Field.exercise, "Exo1"), (Field.function, "fib")])).value =
        .ok ⟨["Algo", "Ex1"], "algo/ex1.bad", some "fact"⟩ := by
  have ht : Reachable (Menu.sample .student)
      ((Menu.sample .student).selectorAt (some ["Algo", "Ex1"])) :=
    reachable_iff.mpr ⟨Menu.issues_sample .student, some ["Algo", "Ex1"], by decide +kernel, rfl⟩
  have hfilled : ∀ field ∈ [(Field.function, " fact "), (Field.exercise, "Exo1"),
      (Field.function, "fib")], field.1 ∈ Field.filledIn := by decide
  obtain ⟨-, hdecode⟩ := (posted_leads_back ht).2 _ (by decide +kernel) hfilled
  obtain ⟨own, hown, hsubmission⟩ := hdecode rfl
  obtain rfl := Option.some.inj hown
  refine ⟨ht, (hsubmission _).mpr ⟨rfl, rfl, ?_⟩⟩
  exact ⟨" fact ", by decide +kernel, ⟨'f', by decide, by decide⟩, by decide +kernel⟩

end Selector

end CascadingForms
