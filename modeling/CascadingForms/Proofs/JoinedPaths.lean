import CascadingForms.Proofs.TemplatePaths
import Mathlib.Data.List.DropRight

/-!
# How paths are joined

A template path may be written in one place or be spread over the entries on the way to a leaf, with
slashes at the ends of its segments or without. Joining does not see the difference. What comes out
of it are the paths without a slash at either end, which it leaves as they are, so that segments can
be joined in groups first. An entry of a menu is therefore the same as if the whole path on its
lineage were written in the entry itself.
-/

namespace CascadingForms

namespace Text

variable {p : Char → Bool} {s : String}

lemma strip_eq_rdropWhile (p : Char → Bool) (s : String) :
    strip p s = String.ofList ((s.toList.dropWhile p).rdropWhile p) := rfl

lemma head?_strip {c : Char} (h : (strip p s).toList.head? = some c) : p c = false := by
  obtain ⟨rest, hrest⟩ := List.rdropWhile_prefix p (s.toList.dropWhile p)
  rw [strip_eq_rdropWhile, String.toList_ofList] at h
  have hfirst : (s.toList.dropWhile p).head? = some c := by
    rw [← hrest, List.head?_append, h, Option.some_or]
  have hnot := List.head?_dropWhile_not p s.toList
  rw [hfirst] at hnot
  exact hnot

lemma strip_eq_self_iff :
    strip p s = s ↔ (∀ c, s.toList.head? = some c → p c = false) ∧
      ∀ c, s.toList.getLast? = some c → p c = false := by
  constructor
  · intro h
    constructor
    · intro c hc
      rw [← h] at hc
      exact head?_strip hc
    · intro c hc
      rw [← h] at hc
      exact getLast?_strip hc
  · rintro ⟨hfirst, hlast⟩
    have hstart : s.toList.dropWhile p = s.toList := by
      rw [List.dropWhile_eq_self_iff]
      intro hl
      rw [hfirst _ (List.head?_eq_getElem? ▸ List.getElem?_eq_getElem hl)]
      exact Bool.false_ne_true
    have hfinish : s.toList.rdropWhile p = s.toList := by
      rw [List.rdropWhile_eq_self_iff]
      intro hl
      rw [hlast _ (List.getLast?_eq_some_getLast hl)]
      exact Bool.false_ne_true
    rw [strip_eq_rdropWhile, hstart, hfinish, String.ofList_toList]

/-- Nothing is left of a text in which every character can be taken away, and only of such a one. -/
lemma strip_eq_empty_iff : strip p s = "" ↔ ∀ c ∈ s.toList, p c = true := by
  rw [strip_eq_rdropWhile, String.ofList_eq_empty_iff, List.rdropWhile_eq_nil_iff,
    ← List.dropWhile_eq_nil_iff, List.dropWhile_idempotent, List.dropWhile_eq_nil_iff]

lemma join_append (separator : String) {l m : List String} (hl : l ≠ []) (hm : m ≠ []) :
    join separator (l ++ m) = join separator l ++ separator ++ join separator m := by
  simp only [join_eq_intercalate, String.intercalate_append_of_ne_nil hl hm]

/-- The first character of some joined texts is that of the first text, if that is not empty. -/
lemma head?_join (separator : String) {t : String} (ht : t ≠ "") (rest : List String) :
    (join separator (t :: rest)).toList.head? = t.toList.head? := by
  have hsome : (t.toList.head?).isSome := by
    rw [List.isSome_head?]
    simpa using ht
  obtain ⟨c, hc⟩ := Option.isSome_iff_exists.mp hsome
  cases rest with
  | nil => rfl
  | cons u rest =>
    rw [join, String.toList_append, String.toList_append, List.append_assoc, List.head?_append, hc,
      Option.some_or]

end Text

/-! ### Segments and joined paths -/

/-- What is left of some segments when they are joined. -/
def keptSegments (segments : List String) : List String :=
  (segments.map (Text.strip (· = '/'))).filter (!·.isEmpty)

lemma joinPath_eq_join (segments : List String) :
    joinPath segments = Text.join "/" (keptSegments segments) := rfl

lemma keptSegments_append (xs ys : List String) :
    keptSegments (xs ++ ys) = keptSegments xs ++ keptSegments ys := by
  simp only [keptSegments, List.map_append, List.filter_append]

lemma of_mem_keptSegments {s : String} {segments : List String} (h : s ∈ keptSegments segments) :
    s ≠ "" ∧ s.toList.head? ≠ some '/' := by
  obtain ⟨hmem, hne⟩ := List.mem_filter.mp h
  obtain ⟨segment, -, rfl⟩ := List.mem_map.mp hmem
  refine ⟨by simpa using hne, ?_⟩
  intro hslash
  simpa using Text.head?_strip hslash

lemma strip_slashes_eq_self_iff (path : String) :
    Text.strip (· = '/') path = path ↔
      path.toList.head? ≠ some '/' ∧ path.toList.getLast? ≠ some '/' := by
  have hnone : ∀ first : Option Char,
      (∀ c, first = some c → decide (c = '/') = false) ↔ first ≠ some '/' := by
    intro first
    cases first <;> simp
  rw [Text.strip_eq_self_iff, hnone, hnone]

/-- A joined path does not start with a slash, whatever its segments are. -/
lemma head?_joinPath (segments : List String) : (joinPath segments).toList.head? ≠ some '/' := by
  rw [joinPath_eq_join]
  cases hkept : keptSegments segments with
  | nil => simp [Text.join]
  | cons s rest =>
    obtain ⟨hne, hfirst⟩ := of_mem_keptSegments (hkept ▸ List.mem_cons_self : s ∈ _)
    rwa [Text.head?_join "/" hne]

lemma joinPath_eq_empty_iff_kept (segments : List String) :
    joinPath segments = "" ↔ keptSegments segments = [] := by
  rw [joinPath_eq_join]
  constructor
  · intro hempty
    cases hkept : keptSegments segments with
    | nil => rfl
    | cons s rest =>
      obtain ⟨hne, -⟩ := of_mem_keptSegments (hkept ▸ List.mem_cons_self : s ∈ _)
      have hfirst := Text.head?_join "/" hne rest
      rw [← hkept, hempty] at hfirst
      exact absurd (List.head?_eq_none_iff.mp hfirst.symm) (mt String.toList_eq_nil_iff.mp hne)
  · intro hkept
    rw [hkept]
    rfl

lemma joinPath_eq_empty_iff (segments : List String) :
    joinPath segments = "" ↔ ∀ s ∈ segments, ∀ c ∈ s.toList, c = '/' := by
  rw [joinPath_eq_empty_iff_kept, keptSegments, List.filter_eq_nil_iff]
  simp [Text.strip_eq_empty_iff]

/-- A joined path is kept as one segment, unless it is empty. -/
lemma keptSegments_joinPath (segments : List String) :
    keptSegments [joinPath segments] =
      if keptSegments segments = [] then [] else [joinPath segments] := by
  have hstrip : Text.strip (· = '/') (joinPath segments) = joinPath segments :=
    (strip_slashes_eq_self_iff _).mpr ⟨head?_joinPath segments, getLast?_joinPath segments⟩
  rw [keptSegments, List.map_singleton, hstrip]
  by_cases hkept : keptSegments segments = []
  · rw [if_pos hkept, (joinPath_eq_empty_iff_kept segments).mpr hkept]
    rfl
  · have hne := mt (joinPath_eq_empty_iff_kept segments).mp hkept
    rw [if_neg hkept, List.filter_cons_of_pos (by simpa using hne), List.filter_nil]

lemma joinPath_joinPath (segments : List String) :
    joinPath [joinPath segments] = joinPath segments := by
  rw [joinPath_eq_join, keptSegments_joinPath]
  by_cases hkept : keptSegments segments = []
  · rw [if_pos hkept, joinPath_eq_join, hkept]
  · rw [if_neg hkept, Text.join]

/-- The results of joining are the paths that joining leaves as they are. -/
lemma joinPath_singleton_eq_self_iff (path : String) :
    joinPath [path] = path ↔ ∃ segments, joinPath segments = path := by
  constructor
  · intro h
    exact ⟨[path], h⟩
  · rintro ⟨segments, rfl⟩
    exact joinPath_joinPath segments

lemma joinPath_append (xs ys : List String) :
    joinPath (xs ++ ys) = joinPath [joinPath xs, joinPath ys] := by
  have hpair : joinPath [joinPath xs, joinPath ys] =
      Text.join "/" (keptSegments [joinPath xs] ++ keptSegments [joinPath ys]) := by
    rw [← keptSegments_append, ← joinPath_eq_join, List.singleton_append]
  rw [hpair, joinPath_eq_join (xs ++ ys), keptSegments_append]
  -- A side of which nothing is kept must not leave its separator behind.
  by_cases hx : keptSegments xs = []
  · rw [keptSegments_joinPath xs, if_pos hx, hx, List.nil_append, List.nil_append,
      ← joinPath_eq_join, ← joinPath_eq_join, joinPath_joinPath]
  · by_cases hy : keptSegments ys = []
    · rw [keptSegments_joinPath ys, if_pos hy, hy, List.append_nil, List.append_nil,
        ← joinPath_eq_join, ← joinPath_eq_join, joinPath_joinPath]
    · rw [keptSegments_joinPath xs, keptSegments_joinPath ys, if_neg hx, if_neg hy,
        Text.join_append "/" hx hy, ← joinPath_eq_join, ← joinPath_eq_join]
      rfl

lemma joinPath_flatten (blocks : List (List String)) :
    joinPath blocks.flatten = joinPath (blocks.map joinPath) := by
  induction blocks with
  | nil => rfl
  | cons block blocks ih =>
    have hcons : joinPath (joinPath block :: blocks.map joinPath) =
        joinPath [joinPath [joinPath block], joinPath (blocks.map joinPath)] := by
      rw [← joinPath_append, List.singleton_append]
    rw [List.flatten_cons, joinPath_append, ih, List.map_cons, hcons, joinPath_joinPath]

/-- A way of joining segments that gives the same path however they are grouped. Its results have no
slash at either end and are left as they are. -/
structure NormalizingJoin (join : List String → String) : Prop where
  append : ∀ xs ys, join (xs ++ ys) = join [join xs, join ys]
  start : ∀ segments, (join segments).toList.head? ≠ some '/'
  finish : ∀ segments, (join segments).toList.getLast? ≠ some '/'
  empty_iff : ∀ segments, join segments = "" ↔ ∀ s ∈ segments, ∀ c ∈ s.toList, c = '/'
  fixed_iff : ∀ path, join [path] = path ↔ ∃ segments, join segments = path

/-! ### Paths on the way to an entry -/

namespace Draft

mutual

/-- Only the path that the segments above a draft make up matters to its entry. -/
lemma entry_congr {segments segments' : List String}
    (h : joinPath segments = joinPath segments') (inherited : Settings) :
    ∀ d : Draft, d.entry inherited segments = d.entry inherited segments'
  | ⟨key, label, prompt, path, settings, children⟩ => by
    have hpath : joinPath (segments ++ path.toList) = joinPath (segments' ++ path.toList) := by
      rw [joinPath_append, h, ← joinPath_append]
    rw [entry, entry, entries_congr hpath _ children, hpath]

lemma entries_congr {segments segments' : List String}
    (h : joinPath segments = joinPath segments') (inherited : Settings) :
    ∀ children : List Draft,
      entries inherited segments children = entries inherited segments' children
  | [] => by rw [entries, entries]
  | child :: children => by
    rw [entries, entries, entry_congr h inherited child, entries_congr h inherited children]

end

/-- The draft with everything that is given of its path written in it. -/
def withWholePath (above : List Draft) (d : Draft) : Draft :=
  { d with path := some (joinPath ((above ++ [d]).filterMap path)) }

lemma entry_withWholePath (inherited : Settings) (above : List Draft) (d : Draft) :
    d.entry inherited (above.filterMap path) = (d.withWholePath above).entry inherited [] := by
  have hsegments : (above ++ [d]).filterMap path = above.filterMap path ++ d.path.toList := by
    rw [List.filterMap_append, filterMap_path_cons, List.filterMap_nil, List.append_nil]
  rcases d with ⟨key, label, prompt, own, settings, children⟩
  rw [withWholePath, hsegments, entry, entry, Option.toList_some, List.nil_append,
    joinPath_joinPath, entries_congr (joinPath_joinPath _).symm]

end Draft

/-- Paths are joined alike however they are cut into segments. The segments above a draft may be
written in fewer places, each of which gives some of them joined, and an entry of a menu is the same
as if its draft alone gave the whole path and the drafts above it none. -/
theorem paths_join_however_split :
    NormalizingJoin joinPath ∧
      (∀ (inherited : Settings) (blocks : List (List String)) (d : Draft),
        d.entry inherited blocks.flatten = d.entry inherited (blocks.map joinPath)) ∧
      ∀ (d : MenuDraft) (place : List Nat), node? Entry.children d.menu.root place =
        (lineage? Draft.children d.root place).map fun (above, n) =>
          (n.withWholePath above).entry (Settings.along {} above) [] := by
  refine ⟨⟨joinPath_append, head?_joinPath, getLast?_joinPath, joinPath_eq_empty_iff,
    joinPath_singleton_eq_self_iff⟩, ?_, ?_⟩
  · intro inherited blocks d
    exact Draft.entry_congr (joinPath_flatten blocks) inherited d
  · intro d place
    rw [Menu.node?_menu]
    congr 1
    funext found
    exact Draft.entry_withWholePath _ found.1 found.2

-- Segments of slashes, and slashes inside a segment.
example : joinPath ["/L1//algo/", "//", "", "exo.bad/"] = "L1//algo/exo.bad" := by decide +kernel

end CascadingForms
