import CascadingForms.Text.Split
import Mathlib.Tactic.Lemma

/-!
# Joining and splitting as on lists

`join` and `split` agree with intercalation and splitting of lists of characters. Splitting undoes
joining exactly where no part holds the separator, and `splitOnce` cuts off what stands before the
first separator.
-/

namespace CascadingForms.Text

lemma join_eq_intercalate (separator : String) (l : List String) :
    join separator l = separator.intercalate l := by
  induction l with
  | nil => rw [join, String.intercalate_nil]
  | cons s rest ih =>
    cases rest with
    | nil => rw [join, String.intercalate_singleton]
    | cons t rest => rw [join, ih, String.intercalate_cons_cons]

lemma toList_join_empty (l : List String) : (join "" l).toList = l.flatMap String.toList := by
  induction l with
  | nil => rfl
  | cons s rest ih =>
    rw [List.flatMap_cons, ← ih]
    cases rest <;> simp [join]

lemma splitList_eq_splitOn (separator : Char) (l : List Char) :
    splitList separator l = l.splitOn separator := by
  induction l with
  | nil => rw [splitList, List.splitOn_nil]
  | cons c rest ih =>
    have hcons := List.splitOnP_cons_eq_if_modifyHead (p := (· == separator)) c rest
    rw [splitList, ih]
    unfold List.splitOn
    rw [hcons]
    by_cases hc : c = separator
    · simp [hc]
    · cases hs : rest.splitOnP (· == separator) with
      | nil => exact absurd hs (List.splitOnP_ne_nil _ _)
      | cons piece pieces => simp [hc]

lemma mem_split_iff (separator : Char) (s t : String) :
    t ∈ split separator s ↔ t.toList ∈ s.toList.splitOn separator := by
  rw [split, splitList_eq_splitOn]
  constructor
  · intro h
    obtain ⟨piece, hpiece, rfl⟩ := List.mem_map.mp h
    rwa [String.toList_ofList]
  · intro h
    exact List.mem_map.mpr ⟨t.toList, h, String.ofList_toList⟩

lemma split_append (separator : Char) (s t : String) :
    split separator (s ++ String.singleton separator ++ t) =
      split separator s ++ split separator t := by
  have happend := List.splitOnP_append_cons (p := (· == separator)) s.toList t.toList
    (beq_self_eq_true separator)
  simp only [split, splitList_eq_splitOn, List.splitOn, String.toList_append,
    String.toList_singleton, List.append_assoc, List.singleton_append, happend, List.map_append]

lemma split_of_not_mem {separator : Char} {s : String} (h : separator ∉ s.toList) :
    split separator s = [s] := by
  rw [split, splitList_eq_splitOn, List.splitOn_eq_singleton h, List.map_singleton,
    String.ofList_toList]

/-- Joined texts are cut at the separators that hold them together and at those inside of them. -/
lemma split_join (separator : Char) {l : List String} (h : l ≠ []) :
    split separator (join (String.singleton separator) l) = l.flatMap (split separator) := by
  induction l with
  | nil => exact absurd rfl h
  | cons s rest ih =>
    cases rest with
    | nil => simp [join]
    | cons t rest =>
      rw [join, split_append, ih (List.cons_ne_nil t rest)]
      exact List.flatMap_cons.symm

lemma split_join_of_not_mem {separator : Char} {l : List String} (h : l ≠ [])
    (hsep : ∀ s ∈ l, separator ∉ s.toList) :
    split separator (join (String.singleton separator) l) = l := by
  have hpieces : l.map (split separator) = l.map fun s => [s] :=
    List.map_congr_left fun s hs => split_of_not_mem (hsep s hs)
  rw [split_join separator h, List.flatMap_def, hpieces, ← List.flatMap_def,
    List.flatMap_singleton']

lemma not_mem_of_mem_splitList {separator : Char} {l piece : List Char}
    (h : piece ∈ splitList separator l) : separator ∉ piece := by
  induction l generalizing piece with
  | nil =>
    rw [List.mem_singleton.mp h]
    exact List.not_mem_nil
  | cons c rest ih =>
    rw [splitList] at h
    split at h
    · rcases List.mem_cons.mp h with rfl | hrest
      · exact List.not_mem_nil
      · exact ih hrest
    · rename_i hc
      cases hs : splitList separator rest with
      | nil =>
        rw [hs] at h
        rw [List.mem_singleton.mp h]
        simpa using Ne.symm hc
      | cons first pieces =>
        rw [hs] at h ih
        rcases List.mem_cons.mp h with rfl | hpieces
        · simpa [Ne.symm hc] using ih List.mem_cons_self
        · exact ih (List.mem_cons_of_mem first hpieces)

lemma not_mem_of_mem_split {separator : Char} {s piece : String} (h : piece ∈ split separator s) :
    separator ∉ piece.toList := by
  obtain ⟨chars, hchars, rfl⟩ := List.mem_map.mp h
  rw [String.toList_ofList]
  exact not_mem_of_mem_splitList hchars

lemma splitOnce_eq_some_iff (separator : Char) (s before after : String) :
    splitOnce separator s = some (before, after) ↔
      separator ∉ before.toList ∧ s = before ++ String.singleton separator ++ after := by
  unfold splitOnce
  constructor
  · intro h
    split at h
    · cases h
    · rename_i c rest hdrop
      obtain ⟨rfl, rfl⟩ := Prod.mk.inj (Option.some.inj h)
      have hc : c = separator := by
        have hhead := List.head?_dropWhile_not (· ≠ separator) s.toList
        rw [hdrop, List.head?_cons] at hhead
        simpa using hhead
      have hsplit := List.takeWhile_append_dropWhile (p := (· ≠ separator)) (l := s.toList)
      rw [hdrop, hc] at hsplit
      constructor
      · rw [String.toList_ofList]
        intro hmem
        have hall := List.all_takeWhile (p := (· ≠ separator)) (l := s.toList)
        simpa using List.all_eq_true.mp hall separator hmem
      · apply String.toList_inj.mp
        simpa using hsplit.symm
  · rintro ⟨hbefore, rfl⟩
    have hskip : ∀ c ∈ before.toList, decide (c ≠ separator) = true := by
      intro c hc
      rw [decide_eq_true_iff]
      exact fun heq => hbefore (heq ▸ hc)
    simp only [String.toList_append, String.toList_singleton, List.append_assoc,
      List.singleton_append, List.dropWhile_append_of_pos hskip, List.takeWhile_append_of_pos hskip]
    simp

lemma exists_splitOnce {separator : Char} {s : String} (h : separator ∈ s.toList) :
    ∃ before after, splitOnce separator s = some (before, after) := by
  obtain ⟨before, after, hsplit, hbefore⟩ := List.eq_append_cons_of_mem h
  refine ⟨String.ofList before, String.ofList after, (splitOnce_eq_some_iff _ _ _ _).mpr ⟨?_, ?_⟩⟩
  · rwa [String.toList_ofList]
  · apply String.toList_inj.mp
    simpa using hsplit

end CascadingForms.Text
