import CascadingForms.Proofs.Decoding
import CascadingForms.Proofs.Inheritance
import CascadingForms.Proofs.WellFormedMenus

/-!
# Where template paths lead

The template path of a leaf is joined from segments that are given on its lineage, so it is checked
as a whole and not where its parts are read. `Template.follow` goes along a path one directory after
the other. A path that has been loaded never leads out of the directory where it starts, not even on
the way, and neither does the path of a submission, which has to be the one of a leaf.
-/

namespace CascadingForms

namespace Template

/-- The directory to which one segment of a path leads. A directory is given by the names on the way
to it. -/
def enter (directory : List String) (segment : String) : List String :=
  if segment = "" ∨ segment = "." then directory
  else if segment = ".." then directory.dropLast
  else directory ++ [segment]

def follow (base segments : List String) : List String := segments.foldl enter base

/-- A relative path that stays below every directory in which it is followed, wherever one stops. -/
structure Confined (path : String) : Prop where
  relative : path.toList.head? ≠ some '/'
  inside : ∀ base segments, segments <+: Text.split '/' path → base <+: follow base segments
  backslash : '\\' ∉ path.toList
  trailing : path.toList.getLast? ≠ some '/'

lemma isPrefix_enter (directory : List String) {segment : String} (h : segment ≠ "..") :
    directory <+: enter directory segment := by
  unfold enter
  rw [if_neg h]
  split
  · exact List.prefix_refl directory
  · exact List.prefix_append directory [segment]

lemma isPrefix_follow (base : List String) {segments : List String} (h : ".." ∉ segments) :
    base <+: follow base segments := by
  induction segments generalizing base with
  | nil => exact List.prefix_refl base
  | cons segment segments ih =>
    rw [List.mem_cons, not_or] at h
    have hfirst := isPrefix_enter base (Ne.symm h.1)
    exact hfirst.trans (ih (enter base segment) h.2)

end Template

/-! ### The end of a joined path -/

namespace Text

lemma getLast?_strip {p : Char → Bool} {s : String} {c : Char}
    (h : (strip p s).toList.getLast? = some c) : p c = false := by
  have hlast : ((s.toList.dropWhile p).reverse.dropWhile p).head? = some c := by
    rw [← h, strip, String.toList_ofList, List.getLast?_reverse]
  have hnot := List.head?_dropWhile_not p (s.toList.dropWhile p).reverse
  rw [hlast] at hnot
  exact hnot

/-- The last character of some joined texts is that of the last text, if no text is empty. -/
lemma getLast?_join (separator : String) {l : List String} (h : ∀ s ∈ l, s ≠ "") :
    (join separator l).toList.getLast? = l.getLast?.bind fun s => s.toList.getLast? := by
  induction l with
  | nil => rfl
  | cons s rest ih =>
    cases rest with
    | nil => rfl
    | cons t rest =>
      have hrest := ih fun u hu => h u (List.mem_cons_of_mem s hu)
      have hu := List.getLast?_eq_some_getLast (List.cons_ne_nil t rest)
      have hmem : (t :: rest).getLast (List.cons_ne_nil t rest) ∈ s :: t :: rest :=
        List.mem_cons_of_mem s (List.getLast_mem _)
      have hc := List.getLast?_eq_some_getLast (mt String.toList_eq_nil_iff.mp (h _ hmem))
      rw [hu, Option.bind_some, hc] at hrest
      rw [join, String.toList_append, List.getLast?_append, hrest, Option.some_or,
        List.getLast?_cons_cons, hu, Option.bind_some, hc]

end Text

/-- A joined path does not end with a slash, whatever its segments are. -/
theorem getLast?_joinPath (segments : List String) :
    (joinPath segments).toList.getLast? ≠ some '/' := by
  intro hslash
  have hne : ∀ s ∈ (segments.map (Text.strip (· = '/'))).filter (!·.isEmpty), s ≠ "" := by
    intro s hs
    have hs := (List.mem_filter.mp hs).2
    simpa using hs
  rw [joinPath, Text.getLast?_join "/" hne, Option.bind_eq_some_iff] at hslash
  obtain ⟨s, hs, hlast⟩ := hslash
  obtain ⟨segment, -, rfl⟩ := List.mem_map.mp (List.mem_of_mem_filter (List.mem_of_getLast? hs))
  have hstripped := Text.getLast?_strip hlast
  simp at hstripped

namespace Template

/-- What the validator asks of a path keeps it below any directory. -/
lemma confined_of_wellFormed {d : Descriptor} (h : d.WellFormed)
    (htrailing : d.path.toList.getLast? ≠ some '/') : Confined d.path where
  relative := h.relative
  inside := by
    intro base segments hstart
    apply isPrefix_follow
    intro hparent
    have hmem := (Text.mem_split_iff '/' d.path "..").mp (hstart.subset hparent)
    exact h.parent hmem
  backslash := h.backslash
  trailing := htrailing

end Template

namespace Menu

variable {m : Menu}

/-- The path of a leaf is joined from the segments on its lineage. -/
lemma exists_segments_of_holds {draft : MenuDraft} {e : Entry} (he : draft.menu.Holds e)
    (hl : e.isLeaf = true) :
    ∃ d segments, e.descriptor = some d ∧ d.path = joinPath segments := by
  obtain ⟨place, hplace⟩ := he
  rw [node?_menu] at hplace
  obtain ⟨⟨above, n⟩, -, rfl⟩ := Option.map_eq_some_iff.mp hplace
  have hstands := Draft.standsFor_entry above n
  have hchildren : n.children = [] := by
    have hkeys := hstands.childKeys
    rw [Entry.childKeys, List.isEmpty_iff.mp hl, List.map_nil] at hkeys
    exact List.map_eq_nil_iff.mp hkeys.symm
  refine ⟨Draft.descriptorAlong (above ++ [n]), (above ++ [n]).filterMap Draft.path, ?_, ?_⟩
  · have hdescriptor := hstands.descriptor
    rw [hchildren] at hdescriptor
    exact hdescriptor
  · exact (Draft.joinPath_eq_intercalate _).symm

lemma confined_of_holds {text origin : String} (h : (load text origin).value = .ok m) {e : Entry}
    (he : m.Holds e) (hl : e.isLeaf = true) :
    ∃ d, e.descriptor = some d ∧ Template.Confined d.path := by
  obtain ⟨hparse, hm⟩ := load_eq_ok_iff.mp h
  obtain ⟨-, d, hd, hwell⟩ := (wellFormed_of_issues hm).leaves e he (List.isEmpty_iff.mp hl)
  refine ⟨d, hd, Template.confined_of_wellFormed hwell ?_⟩
  obtain ⟨draft, rfl⟩ : ∃ draft : MenuDraft, draft.menu = m := by
    unfold parse at hparse
    split at hparse
    · exact ⟨_, Except.ok.inj hparse⟩
    · cases hparse
  obtain ⟨d', segments, hd', hpath⟩ := exists_segments_of_holds he hl
  obtain rfl := Option.some.inj (hd.symm.trans hd')
  rw [hpath]
  exact getLast?_joinPath segments

/-- The leaf of a submission is one of the menu, and the path is the one of its descriptor. -/
lemma exists_leaf_of_decodeStudent {f : PostedForm} {r : StudentSubmission}
    (h : (m.decodeStudent f).value = .ok r) :
    ∃ e d, m.Holds e ∧ e.isLeaf = true ∧ e.descriptor = some d ∧ r.path = d.path := by
  obtain ⟨-, d, hchosen, hpath, -⟩ := (decodeStudent_eq_ok_iff m f r).mp h
  obtain ⟨leaf, hchain, hd, -⟩ := (chosen_eq_ok_iff m f r.selection d).mp hchosen
  obtain ⟨hdescend, hleaf, -, -⟩ := (Entry.chain_eq_ok_iff m.root f r.selection leaf).mp hchain
  exact ⟨leaf, d, holds_of_entryAt? hdescend, hleaf, hd, hpath⟩

/-- No path leads out of the tree of scripts, be it of a leaf of a menu that has been loaded or of a
submission in any form that is posted for it. -/
theorem template_paths_confined {text origin : String} (h : (load text origin).value = .ok m) :
    (∀ e, m.Holds e → e.isLeaf = true → ∃ d, e.descriptor = some d ∧ Template.Confined d.path) ∧
      ∀ (f : PostedForm) (r : StudentSubmission), (m.decodeStudent f).value = .ok r →
        Template.Confined r.path := by
  refine ⟨fun e he hl => confined_of_holds h he hl, ?_⟩
  intro f r hr
  obtain ⟨e, d, he, hl, hd, hpath⟩ := exists_leaf_of_decodeStudent hr
  obtain ⟨d', hd', hconfined⟩ := confined_of_holds h he hl
  obtain rfl := Option.some.inj (hd.symm.trans hd')
  rw [hpath]
  exact hconfined

/-- The segments on the way to this leaf are all dots and slashes. -/
def dotsText : String :=
  "\x7bname: dots, role: student, locale: en, " ++
  "labels: \x7bsubmit: s, source_files: f, function_name: n\x7d, " ++
  "root: \x7bkey: C, prompt: c, path: //./, children: [\x7bkey: E, path: /...//.//\x7d]\x7d\x7d"

theorem template_paths_confined_at_dots :
    ∃ m, (load dotsText "inline").value = .ok m ∧ ∃ r : StudentSubmission,
      (m.decodeStudent ⟨[("C", "E"), (Field.path, "./...//.")]⟩).value = .ok r ∧
        Template.Confined r.path := by
  have hdecode : (load dotsText "inline").value.toOption.bind (fun m =>
      (m.decodeStudent ⟨[("C", "E"), (Field.path, "./...//.")]⟩).value.toOption) =
        some ⟨["E"], "./...//.", none⟩ := by
    decide +kernel
  cases h : (load dotsText "inline").value with
  | error e =>
    rw [h] at hdecode
    cases hdecode
  | ok m =>
    rw [h] at hdecode
    cases hr : (m.decodeStudent ⟨[("C", "E"), (Field.path, "./...//.")]⟩).value with
    | error e => simp [Except.toOption, hr] at hdecode
    | ok r => exact ⟨m, rfl, r, hr, (template_paths_confined h).2 _ r hr⟩

end Menu

end CascadingForms
