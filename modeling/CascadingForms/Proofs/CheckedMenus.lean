import CascadingForms.CommandLine.Commands
import CascadingForms.Proofs.PreviewRuns
import CascadingForms.Proofs.Texts
import Mathlib.Data.List.Forall2

/-!
# Checked menus

`check` reads and parses menus on its own and loads none of them. `Menu.Reports` spells out what is
to be said on a source by what loading it comes to, and this file shows that a check prints just
that, source by source: it succeeds exactly if each of its sources can be loaded, lists the issues
for which loading refuses a menu, and counts the menus that are refused. A file that cannot be read
ends it before anything is reported. No two defects have the same text, so the lines on issues tell
them apart.
-/

namespace CascadingForms

/-- Reading a list in order gives the results of all elements, or the error of the first element
that has one. -/
lemma mapM_ok_or_error {ε α β : Type} (f : α → Except ε β) (l : List α) :
    (∃ r, l.mapM f = .ok r ∧ List.Forall₂ (fun a b => f a = .ok b) l r) ∨
      ∃ before a after e, l = before ++ a :: after ∧ (∀ b ∈ before, (f b).isOk = true) ∧
        f a = .error e ∧ l.mapM f = .error e := by
  induction l with
  | nil => exact .inl ⟨[], rfl, .nil⟩
  | cons a l ih =>
    rw [List.mapM_cons]
    cases ha : f a with
    | error e => exact .inr ⟨[], a, l, e, rfl, by simp, ha, rfl⟩
    | ok b =>
      rcases ih with ⟨r, hr, hall⟩ | ⟨before, c, after, e, hl, hbefore, hc, he⟩
      · exact .inl ⟨b :: r, by rw [hr]; rfl, .cons ha hall⟩
      · refine .inr ⟨a :: before, c, after, e, by rw [hl]; rfl, ?_, hc, by rw [he]; rfl⟩
        intro d hd
        rcases List.mem_cons.mp hd with rfl | hd
        · rw [ha, isOk_ok]
        · exact hbefore d hd

namespace Menu

lemma load_value (text origin : String) :
    (load text origin).value = (parse text origin).bind validated := by
  unfold load
  cases (parse text origin).bind validated <;> rfl

lemma parse_error {text origin : String} {e : LoadError} (h : parse text origin = .error e) :
    ∃ cause, e = .malformed origin cause := by
  unfold parse at h
  cases hread : MenuDraft.reader.ofText text with
  | ok draft =>
    rw [hread] at h
    cases h
  | error cause =>
    rw [hread] at h
    exact ⟨cause, (Except.error.inj h).symm⟩

end Menu

/-! ### What is said on a source -/

namespace Defect

/-- What the text of a defect says before and behind what it quotes, whatever that is. -/
def frame : Defect → String × String
  | emptyMenu => ("the menu has no entries", "")
  | emptyKey => ("empty key", "")
  | blankInKey _ => ("key \x60", "\x60 contains whitespace")
  | reservedKey _ => ("key \x60", "\x60 collides with a reserved form field")
  | repeatedSibling _ => ("duplicate sibling key \x60", "\x60")
  | repeatedAncestor _ => ("key \x60", "\x60 already used by an ancestor")
  | missingPrompt => ("dropdown without prompt", "")
  | missingChildren => ("prompt set but no children to choose from", "")
  | missingDescriptor => ("leaf without submission descriptor", "")
  | unexpectedDescriptor => ("submission descriptor on a node with children", "")
  | escapingPath _ =>
    ("template path \x60", "\x60 must be relative and stay inside the scripts tree")
  | repeatedExercise _ => ("duplicate exercise \x60", "\x60 in picker")
  | emptyPicker => ("multiple exercises allowed but no exercise configured", "")
  | badExtension _ => ("file extension \x60", "\x60 must start with a dot")

/-- The key, path or extension that the text of a defect quotes. -/
def subject : Defect → String
  | blankInKey key | reservedKey key | repeatedSibling key | repeatedAncestor key => key
  | escapingPath path => path
  | repeatedExercise key => key
  | badExtension extension => extension
  | _ => ""

lemma message_eq_frame (d : Defect) : d.message = d.frame.1 ++ d.subject ++ d.frame.2 := by
  cases d <;> rfl

/-- No two texts start alike, unless they start in the same way up to what they quote. -/
lemma frame_fst_eq_of_isPrefix {d d' : Defect}
    (h : d.frame.1.toList <+: d'.frame.1.toList) : d.frame.1 = d'.frame.1 := by
  revert h
  cases d <;> cases d' <;> simp only [frame] <;> decide

/-- Texts that start in the same way end differently. -/
lemma frame_eq_of_isSuffix {d d' : Defect} (hfirst : d.frame.1 = d'.frame.1)
    (h : d.frame.2.toList <:+ d'.frame.2.toList) : d.frame = d'.frame := by
  revert hfirst h
  cases d <;> cases d' <;> simp only [frame] <;> decide

lemma eq_of_frame {d d' : Defect} (hframe : d.frame = d'.frame)
    (hsubject : d.subject = d'.subject) : d = d' := by
  cases d <;> cases d' <;>
    first
    | rfl
    | exact absurd hframe (by simp only [frame]; decide)
    | (simp only [subject] at hsubject; rw [hsubject])

/-- The text of a defect tells which defect it is. -/
theorem message_injective : Function.Injective message := by
  intro d d' h
  rw [message_eq_frame, message_eq_frame] at h
  have hchars := congrArg String.toList h
  simp only [String.toList_append, List.append_assoc] at hchars
  have hfirst : d.frame.1 = d'.frame.1 := by
    have hprefix := List.prefix_append d.frame.1.toList (d.subject.toList ++ d.frame.2.toList)
    rw [hchars] at hprefix
    rcases List.prefix_or_prefix_of_prefix hprefix (List.prefix_append _ _) with h | h
    · exact frame_fst_eq_of_isPrefix h
    · exact (frame_fst_eq_of_isPrefix h).symm
  rw [hfirst, List.append_cancel_left_eq] at hchars
  have hframe : d.frame = d'.frame := by
    have hsuffix := List.suffix_append d.subject.toList d.frame.2.toList
    rw [hchars] at hsuffix
    rcases List.suffix_or_suffix_of_suffix hsuffix (List.suffix_append _ _) with h | h
    · exact frame_eq_of_isSuffix hfirst h
    · exact (frame_eq_of_isSuffix hfirst.symm h).symm
  rw [hframe, List.append_cancel_right_eq] at hchars
  exact eq_of_frame hframe (String.toList_inj.mp hchars)

end Defect

/-- The line on an issue says where it is found and what it is. -/
def Issue.line (i : Issue) : String := "    " ++ i.place ++ ": " ++ i.defect.message

lemma Issue.eq_of_line {i i' : Issue} (hplace : i.place = i'.place) (h : i.line = i'.line) :
    i = i' := by
  rw [line, line, hplace] at h
  have hmessage := (String.append_right_inj _).mp h
  rw [Issue.mk.injEq]
  exact ⟨hplace, Defect.message_injective hmessage⟩

/-- The lines on a menu from some origin, by what loading it comes to: one that begins with a mark
and names the origin and, if the menu is refused for its issues, one for each issue. -/
inductive Menu.Reports (origin : String) : Except LoadError Menu → List String → Prop
  | sound (m : Menu) :
    Reports origin (.ok m)
      ["✓ " ++ origin ++ ": \x60" ++ m.name ++ "\x60 (" ++ toString m.leaves.length ++
        " leaves, up to " ++ toString m.height ++ " dropdowns)"]
  | defective (name : String) (issues : List Issue) :
    Reports origin (.error (.invalid name issues))
      (("✗ " ++ origin ++ ": " ++ toString issues.length ++ " problem(s)") ::
        issues.map Issue.line)
  | malformed (cause : Yaml.Error) :
    Reports origin (.error (.malformed origin cause))
      ["✗ invalid YAML in " ++ origin ++ ": " ++ cause.message]

namespace Verdict

/-- A text is judged by what loading it comes to. -/
lemma ofText_cases (origin text : String) :
    (∃ m, (Menu.load text origin).value = .ok m ∧ ofText origin text = sound origin m) ∨
      (∃ name issues, (Menu.load text origin).value = .error (.invalid name issues) ∧
        ofText origin text = defective origin issues) ∨
      ∃ cause, (Menu.load text origin).value = .error (.malformed origin cause) ∧
        ofText origin text = broken (.malformed origin cause) := by
  rw [Menu.load_value, ofText]
  cases hparse : Menu.parse text origin with
  | error e =>
    obtain ⟨cause, rfl⟩ := Menu.parse_error hparse
    exact .inr (.inr ⟨cause, rfl, rfl⟩)
  | ok m =>
    have hbind : (Except.ok m : Except LoadError Menu).bind Menu.validated = m.validated := rfl
    rw [hbind, Menu.validated]
    cases hissues : m.issues.isEmpty with
    | true => exact .inl ⟨m, rfl, by simp [hissues]⟩
    | false => exact .inr (.inl ⟨m.name, m.issues, rfl, by simp [hissues]⟩)

lemma isSound_ofText (origin text : String) :
    (ofText origin text).isSound = (Menu.load text origin).value.isOk := by
  rcases ofText_cases origin text with
    ⟨m, hload, hof⟩ | ⟨name, issues, hload, hof⟩ | ⟨cause, hload, hof⟩ <;> rw [hload, hof] <;> rfl

lemma reports_lines_ofText (origin text : String) :
    Menu.Reports origin (Menu.load text origin).value (ofText origin text).lines := by
  rcases ofText_cases origin text with
    ⟨m, hload, hof⟩ | ⟨name, issues, hload, hof⟩ | ⟨cause, hload, hof⟩
  · rw [hload, hof]
    exact .sound m
  · have hissue : ∀ issue : Issue, "    " ++ issue.message = issue.line := by
      intro issue
      rw [Issue.message, Issue.line, ← String.append_assoc, ← String.append_assoc]
    rw [hload, hof, lines]
    simp only [hissue]
    exact .defective name issues
  · have hmark : "✗ invalid YAML in " = "✗ " ++ "invalid YAML in " := rfl
    have hmessage : (LoadError.malformed origin cause).message =
        "invalid YAML in " ++ origin ++ ": " ++ cause.message := rfl
    have hline : "✗ " ++ (LoadError.malformed origin cause).message =
        "✗ invalid YAML in " ++ origin ++ ": " ++ cause.message := by
      simp only [hmessage, hmark, String.append_assoc]
    rw [hload, hof, lines, hline]
    exact .malformed cause

end Verdict

def MenuSource.choice : MenuSource → MenuChoice
  | embedded d => ⟨some d, none⟩
  | file path => ⟨none, some path⟩

namespace Command

variable {files : FileSystem} {paths : List String} {deployments : List Deployment}

lemma loadMenu_choice (files : FileSystem) (source : MenuSource) :
    loadMenu files source.choice = (source.load files).value.mapError Failure.ofLoad := by
  cases source <;> rfl

lemma isOk_loadMenu_choice (files : FileSystem) (source : MenuSource) :
    (loadMenu files source.choice).isOk = (source.load files).value.isOk := by
  rw [loadMenu_choice]
  cases (source.load files).value <;> rfl

lemma isOk_of_load_file {path : String}
    (h : ((MenuSource.file path).load files).value.isOk = true) : (files path).isOk = true := by
  rw [MenuSource.load, Menu.loadFile] at h
  cases hfile : files path with
  | ok text => rfl
  | error cause =>
    rw [hfile] at h
    cases h

/-- What a check is about: built-in menus, all of them if nothing is named, and then files. -/
def checked (paths : List String) (deployments : List Deployment) : List MenuSource :=
  (if paths.isEmpty && deployments.isEmpty then Deployment.all else deployments).map .embedded ++
    paths.map .file

/-- The sources of a check that are not loaded. -/
def rejected (files : FileSystem) (paths : List String) (deployments : List Deployment) :
    List MenuSource :=
  (checked paths deployments).filter fun source => !(source.load files).value.isOk

/-- Whether a text reports on each of some sources, in their order and one line after the other. -/
def IsReport (files : FileSystem) (sources : List MenuSource) (output : String) : Prop :=
  ∃ reports : List (List String),
    List.Forall₂ (fun source lines => Menu.Reports source.origin (source.load files).value lines)
      sources reports ∧
    output = String.join (reports.flatten.map (· ++ "\n"))

/-- Whether a text, with its origin, is what a source is loaded from. -/
def IsTextOf (files : FileSystem) (source : MenuSource) (named : String × String) : Prop :=
  source.origin = named.1 ∧ (source.load files).value = (Menu.load named.2 named.1).value

/-! ### Reading the sources -/

lemma readSource_of_ok {path text : String} (h : files path = .ok text) :
    readSource files path = .ok (path, text) := by
  rw [readSource, h]

lemma readSource_of_error {path : String} {cause : FileFailure} (h : files path = .error cause) :
    readSource files path = .error ⟨"cannot read " ++ path, some cause.message⟩ := by
  rw [readSource, h]

lemma isOk_readSource (files : FileSystem) (path : String) :
    (readSource files path).isOk = (files path).isOk := by
  cases h : files path with
  | ok text => rw [readSource_of_ok h, isOk_ok, isOk_ok]
  | error cause => rw [readSource_of_error h, isOk_error, isOk_error]

lemma isTextOf_embedded (files : FileSystem) (d : Deployment) :
    IsTextOf files (.embedded d) (d.name, d.text) := ⟨rfl, rfl⟩

lemma isTextOf_file {path : String} {named : String × String}
    (h : readSource files path = .ok named) : IsTextOf files (.file path) named := by
  cases hfile : files path with
  | error cause =>
    rw [readSource_of_error hfile] at h
    cases h
  | ok text =>
    obtain rfl := Except.ok.inj ((readSource_of_ok hfile).symm.trans h)
    refine ⟨rfl, ?_⟩
    rw [MenuSource.load, Menu.loadFile, hfile]

lemma isTextOf_of_read {texts : List (String × String)}
    (h : List.Forall₂ (fun path named => readSource files path = .ok named) paths texts)
    (builtIn : List Deployment) :
    List.Forall₂ (IsTextOf files) (builtIn.map MenuSource.embedded ++ paths.map MenuSource.file)
      ((builtIn.map fun d => (d.name, d.text)) ++ texts) := by
  refine List.rel_append ?_ ?_
  · rw [List.forall₂_map_left_iff, List.forall₂_map_right_iff]
    exact List.forall₂_same.mpr fun d _ => isTextOf_embedded files d
  · rw [List.forall₂_map_left_iff]
    exact h.imp fun _ _ => isTextOf_file

/-- Either all files are read and every source of the check can be judged, or the first file that
cannot be read is named. -/
lemma sources_cases (files : FileSystem) (paths : List String) (deployments : List Deployment) :
    ((∀ path ∈ paths, (files path).isOk = true) ∧
      ∃ texts, sources files paths deployments = .ok texts ∧
        List.Forall₂ (IsTextOf files) (checked paths deployments) texts) ∨
      ∃ before path after cause, paths = before ++ path :: after ∧
        (∀ earlier ∈ before, (files earlier).isOk = true) ∧ files path = .error cause ∧
        sources files paths deployments =
          .error ⟨"cannot read " ++ path, some cause.message⟩ := by
  rcases mapM_ok_or_error (readSource files) paths with
    ⟨texts, htexts, hall⟩ | ⟨before, path, after, failure, hpaths, hbefore, hread, herror⟩
  · have hread : ∀ path source, readSource files path = .ok source →
        (files path).isOk = true ∧ readSource files path = .ok source := by
      intro path source h
      refine ⟨?_, h⟩
      rw [← isOk_readSource, h, isOk_ok]
    obtain ⟨hok, -⟩ := (List.forall₂_and_left paths texts).mp (hall.imp hread)
    exact .inl ⟨hok, _, by rw [sources, htexts]; rfl, isTextOf_of_read hall _⟩
  · refine .inr ⟨before, path, after, ?_⟩
    cases hfile : files path with
    | ok text =>
      rw [readSource_of_ok hfile] at hread
      cases hread
    | error cause =>
      obtain rfl := Except.error.inj ((readSource_of_error hfile).symm.trans hread)
      refine ⟨cause, hpaths, ?_, rfl, by rw [sources, herror]; rfl⟩
      intro earlier hearlier
      rw [← isOk_readSource]
      exact hbefore earlier hearlier

/-! ### The outcome of a check -/

lemma rejected_eq_nil_iff :
    rejected files paths deployments = [] ↔
      ∀ source ∈ checked paths deployments, (source.load files).value.isOk = true := by
  simp [rejected]

lemma isOk_of_mem_paths
    (h : ∀ source ∈ checked paths deployments, (source.load files).value.isOk = true) :
    ∀ path ∈ paths, (files path).isOk = true := by
  intro path hpath
  have hmem : MenuSource.file path ∈ checked paths deployments :=
    List.mem_append_right _ (List.mem_map_of_mem hpath)
  exact isOk_of_load_file (h _ hmem)

/-- What is printed on texts is a report on the sources that they come from. -/
lemma isReport_of_texts {sources : List MenuSource} {texts : List (String × String)}
    (h : List.Forall₂ (IsTextOf files) sources texts) :
    IsReport files sources
      (printLines ((texts.map fun named => Verdict.ofText named.1 named.2).flatMap
        Verdict.lines)) := by
  refine ⟨texts.map fun named => (Verdict.ofText named.1 named.2).lines, ?_, ?_⟩
  · rw [List.forall₂_map_right_iff]
    refine h.imp fun source named htext => ?_
    rw [htext.1, htext.2]
    exact Verdict.reports_lines_ofText named.1 named.2
  · rw [printLines, List.flatMap_map, List.flatMap_def]
    exact String.toList_inj.mp ((Text.toList_join_empty _).trans String.toList_join.symm)

lemma countP_isSound_of_texts {sources : List MenuSource} {texts : List (String × String)}
    (h : List.Forall₂ (IsTextOf files) sources texts) :
    texts.countP (fun named => !(Verdict.ofText named.1 named.2).isSound) =
      sources.countP fun source => !(source.load files).value.isOk := by
  induction h with
  | nil => rfl
  | cons htext _ ih =>
    rw [List.countP_cons, List.countP_cons, ih, Verdict.isSound_ofText, htext.2]

/-- A check that has read all files reports on every source, and fails with the number of those
that are not loaded, if there are any. -/
lemma runCheck_of_sources {texts : List (String × String)}
    (hsources : sources files paths deployments = .ok texts)
    (htexts : List.Forall₂ (IsTextOf files) (checked paths deployments) texts) :
    ∃ output, IsReport files (checked paths deployments) output ∧
      runCheck files paths deployments =
        if rejected files paths deployments = [] then .done output
        else .failed output
          ⟨toString (rejected files paths deployments).length ++ " of " ++
            toString (checked paths deployments).length ++ " menu(s) failed validation", none⟩ := by
  have hfailed : ((texts.map fun named => Verdict.ofText named.1 named.2).filter
      (!·.isSound)).length = (rejected files paths deployments).length := by
    rw [← List.countP_eq_length_filter, List.countP_map, rejected, ← List.countP_eq_length_filter]
    exact countP_isSound_of_texts htexts
  refine ⟨_, isReport_of_texts htexts, ?_⟩
  unfold runCheck
  rw [hsources]
  simp only [hfailed, ← htexts.length_eq, List.length_eq_zero_iff]

lemma runCheck_of_unread {failure : Failure}
    (hsources : sources files paths deployments = .error failure) :
    runCheck files paths deployments = .failed "" failure := by
  rw [runCheck, hsources]

lemma runCheck_done_iff (files : FileSystem) (paths : List String)
    (deployments : List Deployment) :
    (∃ output, runCheck files paths deployments = .done output) ↔
      ∀ source ∈ checked paths deployments, (source.load files).value.isOk = true := by
  rw [← rejected_eq_nil_iff]
  rcases sources_cases files paths deployments with
    ⟨-, texts, hsources, htexts⟩ | ⟨before, path, after, cause, hpaths, -, hfile, hsources⟩
  · obtain ⟨output, -, houtcome⟩ := runCheck_of_sources hsources htexts
    rw [houtcome]
    by_cases hrejected : rejected files paths deployments = [] <;> simp [hrejected]
  · have hpath : path ∈ paths := by
      rw [hpaths]
      simp
    rw [runCheck_of_unread hsources, rejected_eq_nil_iff]
    constructor
    · rintro ⟨output, h⟩
      cases h
    · intro h
      have hok := isOk_of_mem_paths h path hpath
      rw [hfile] at hok
      cases hok

/-- The outcome of a check is what loading its sources comes to. -/
structure AgreesWithLoading (files : FileSystem) (paths : List String)
    (deployments : List Deployment) (outcome : Outcome) : Prop where
  done_iff : (∃ output, outcome = .done output) ↔
    (∀ path ∈ paths, (files path).isOk = true) ∧
      ∀ source ∈ checked paths deployments, (source.load files).value.isOk = true
  /-- The commands that work on one menu get it from every source exactly if the check succeeds. -/
  usable_iff : (∃ output, outcome = .done output) ↔
    ∀ source ∈ checked paths deployments, (loadMenu files source.choice).isOk = true
  done_or_failed : (∃ output, outcome = .done output) ∨
    ∃ output failure, outcome = .failed output failure
  /-- With all files at hand there is a report on each source, in order, and those that are not
  loaded are counted. -/
  read : (∀ path ∈ paths, (files path).isOk = true) →
    ∃ output, IsReport files (checked paths deployments) output ∧
      outcome =
        if rejected files paths deployments = [] then .done output
        else .failed output
          ⟨toString (rejected files paths deployments).length ++ " of " ++
            toString (checked paths deployments).length ++ " menu(s) failed validation", none⟩
  /-- Otherwise nothing is said but which file is the first that cannot be read. -/
  unread : (¬∀ path ∈ paths, (files path).isOk = true) →
    ∃ before path after cause, paths = before ++ path :: after ∧
      (∀ earlier ∈ before, (files earlier).isOk = true) ∧ files path = .error cause ∧
      outcome = .failed "" ⟨"cannot read " ++ path, some cause.message⟩
  /-- A line on an issue at some place tells which issue it is. -/
  told : ∀ i i' : Issue, i.place = i'.place → i.line = i'.line → i = i'

/-- A check says of all its sources together what loading says of each. -/
theorem check_agrees_with_loading (files : FileSystem) (paths : List String)
    (deployments : List Deployment) :
    AgreesWithLoading files paths deployments ((check paths deployments).run files) := by
  have hrun : (check paths deployments).run files = runCheck files paths deployments := rfl
  have hdone := runCheck_done_iff files paths deployments
  have hloads : (∃ output, runCheck files paths deployments = .done output) ↔
      (∀ path ∈ paths, (files path).isOk = true) ∧
        ∀ source ∈ checked paths deployments, (source.load files).value.isOk = true := by
    rw [hdone]
    exact ⟨fun h => ⟨isOk_of_mem_paths h, h⟩, And.right⟩
  have husable : (∃ output, runCheck files paths deployments = .done output) ↔
      ∀ source ∈ checked paths deployments, (loadMenu files source.choice).isOk = true := by
    simp only [hdone, isOk_loadMenu_choice]
  rw [hrun]
  rcases sources_cases files paths deployments with
    ⟨hread, texts, hsources, htexts⟩ |
      ⟨before, path, after, cause, hpaths, hbefore, hfile, hsources⟩
  · obtain ⟨output, hreport, houtcome⟩ := runCheck_of_sources hsources htexts
    refine ⟨hloads, husable, ?_, fun _ => ⟨output, hreport, houtcome⟩,
      fun hunread => absurd hread hunread, fun _ _ => Issue.eq_of_line⟩
    rw [houtcome]
    split
    · exact .inl ⟨_, rfl⟩
    · exact .inr ⟨_, _, rfl⟩
  · have houtcome := runCheck_of_unread hsources
    have hunread : ¬∀ path ∈ paths, (files path).isOk = true := by
      intro hread
      have hok := hread path (by rw [hpaths]; simp)
      rw [hfile] at hok
      cases hok
    exact ⟨hloads, husable, .inr ⟨_, _, houtcome⟩, fun hread => absurd hread hunread,
      fun _ => ⟨before, path, after, cause, hpaths, hbefore, hfile, houtcome⟩,
      fun _ _ => Issue.eq_of_line⟩

end Command

end CascadingForms
