import CascadingForms.CommandLine.Commands
import CascadingForms.Proofs.PostedSelector
import CascadingForms.Proofs.PreviewRuns
import CascadingForms.Proofs.Texts

/-!
# Command arguments

`decode` takes a field of a form as one argument, with an equals sign between name and value, and
`render` takes the keys of a path as one argument, with commas in between. Nothing keeps either
character out of the keys of a menu. This file shows which forms and which paths can be written as
arguments, and what comes of those that cannot.
-/

namespace CascadingForms

namespace Command

variable {files : FileSystem} {choice : MenuChoice} {m : Menu}

lemma issues_of_loadMenu (h : loadMenu files choice = .ok m) : m.issues = [] := by
  have hsource (source : MenuSource)
      (hload : (source.load files).value.mapError Failure.ofLoad = .ok m) : m.issues = [] := by
    cases hvalue : (source.load files).value with
    | error e => simp [hvalue, Except.mapError] at hload
    | ok n =>
      rw [hvalue] at hload
      obtain rfl := Except.ok.inj hload
      exact MenuSource.issues_of_load hvalue
  rcases choice with ⟨deployment, file⟩
  cases file with
  | some path => exact hsource (.file path) h
  | none =>
    cases deployment with
    | some d => exact hsource (.embedded d) h
    | none => cases h

/-! ### A menu with separators in its keys -/

/-- The file of a menu with a comma in the key of one leaf and an equals sign on the way to another.
-/
def separatorText : String :=
  "name: exams\nrole: student\nlocale: en\n" ++
  "labels:\n  submit: Send\n  source_files: Files\n  function_name: Function\n" ++
  "root:\n  key: Course\n  prompt: course\n  children:\n  - key: G1\n  - key: a,b\n" ++
  "  - key: a=b\n    prompt: group\n    children:\n    - key: G2\n"

def separatorFiles : FileSystem := fun path =>
  if path = "menu.yaml" then .ok separatorText else .error .notFound

def separatorChoice : MenuChoice := ⟨none, some "menu.yaml"⟩

lemma exists_separator_menu :
    ∃ m, loadMenu separatorFiles separatorChoice = .ok m ∧ m.role = .student ∧
      ((m.entryAt? ["G1"]).isSome = true ∧ (m.entryAt? ["a,b"]).isSome = true ∧
        (m.entryAt? ["a", "b"]).isSome = false ∧ (m.entryAt? ["a=b", "G2"]).isSome = true ∧
        (m.selectorAt (some ["a=b", "G2"])).isComplete = true) ∧
      ((m.selectorAt (some ["G1"])).posted.fields = [("Course", "G1"), ("path", "")] ∧
        (m.selectorAt (some ["a=b", "G2"])).posted.fields =
          [("Course", "a=b"), ("a=b", "G2"), ("path", "")]) ∧
      (m.decodeStudent ⟨[("Course", "a=b"), ("a=b", "G2"), ("path", "")]⟩).value =
          .ok ⟨["a=b", "G2"], "", none⟩ ∧
        (m.decodeStudent ⟨[("Course", "a=b"), ("a", "b=G2"), ("path", "")]⟩).value =
          .error (.missingField "a=b") := by
  -- One evaluation of the loader for everything that is said of the menu.
  exact Preview.exists_ok_of_any (by decide +kernel)

/-! ### Fields -/

/-- The arguments for the fields of a form. -/
def spelled (fields : List (String × String)) : List String :=
  fields.map fun field => field.1 ++ "=" ++ field.2

/-- The field that is read in the argument for a field, whose name ends at the first equals sign. -/
def reread (field : String × String) : String × String :=
  (Text.splitOnce '=' (field.1 ++ "=" ++ field.2)).getD field

lemma splitOnce_spelled (field : String × String) :
    Text.splitOnce '=' (field.1 ++ "=" ++ field.2) = some (reread field) := by
  have hmem : '=' ∈ (field.1 ++ "=" ++ field.2).toList := by simp
  obtain ⟨name, value, hsplit⟩ := Text.exists_splitOnce hmem
  rw [reread, hsplit, Option.getD_some]

lemma not_mem_reread (field : String × String) : '=' ∉ (reread field).1.toList :=
  ((Text.splitOnce_eq_some_iff _ _ _ _).mp (splitOnce_spelled field)).1

lemma reread_of_not_mem {field : String × String} (h : '=' ∉ field.1.toList) :
    reread field = field := by
  have hsplit : Text.splitOnce '=' (field.1 ++ "=" ++ field.2) = some (field.1, field.2) :=
    (Text.splitOnce_eq_some_iff _ _ _ _).mpr ⟨h, rfl⟩
  rw [reread, hsplit, Option.getD_some]

lemma map_reread {fields : List (String × String)} (h : ∀ field ∈ fields, '=' ∉ field.1.toList) :
    fields.map reread = fields := by
  rw [List.map_congr_left fun field hfield => reread_of_not_mem (h field hfield), List.map_id']

lemma formOf_spelled (fields : List (String × String)) :
    formOf (spelled fields) = .ok ⟨fields.map reread⟩ := by
  have hfind : ((spelled fields).find? fun field => (Text.splitOnce '=' field).isNone) = none := by
    rw [List.find?_eq_none]
    intro argument hargument
    obtain ⟨field, -, rfl⟩ := List.mem_map.mp hargument
    simp [splitOnce_spelled]
  have hfields : (spelled fields).filterMap (Text.splitOnce '=') = fields.map reread := by
    rw [spelled, List.filterMap_map, ← List.filterMap_eq_map]
    exact congrArg (List.filterMap · fields) (funext splitOnce_spelled)
  simp only [formOf, hfind, hfields]

/-- How `decode` ends with what has been found in a form. -/
def answered {α : Type} (toJson : α → Json) : Except SubmissionError α → Outcome
  | .ok found => .done ((toJson found).pretty ++ "\n")
  | .error e => .failed "" ⟨e.message, none⟩

/-- How `decode` ends with a form, by the decoder for the role of its menu. -/
def answer (m : Menu) (form : PostedForm) : Outcome :=
  match m.role with
  | .student => answered StudentSubmission.toJson (m.decodeStudent form).value
  | .teacher => answered TeacherQuery.toJson (m.decodeTeacher form).value

lemma run_decode (hload : loadMenu files choice = .ok m) {arguments : List String}
    {form : PostedForm} (hform : formOf arguments = .ok form) :
    (decode choice arguments).run files = answer m form := by
  have hrun : (decode choice arguments).run files = printed ((decoded m form).map Json.pretty) := by
    simp only [run, hload, hform]
    change printed ((decoded m form).bind fun json => .ok json.pretty) = _
    cases decoded m form <;> rfl
  rw [hrun]
  unfold decoded answer
  cases m.role with
  | student => cases (m.decodeStudent form).value <;> rfl
  | teacher => cases (m.decodeTeacher form).value <;> rfl

lemma answer_of_chain_error {form : PostedForm} {e : SubmissionError}
    (h : m.chain form = .error e) : answer m form = .failed "" ⟨e.message, none⟩ := by
  have hchosen : m.chosen form = .error e := by simp [Menu.chosen, h]
  unfold answer
  cases hrole : m.role with
  | student => simp [Menu.decodeStudent, hrole, hchosen, Menu.logged, answered]
  | teacher => simp [Menu.decodeTeacher, hrole, hchosen, Menu.logged, answered]

lemma exists_zip_cons_append (name : String) (p rest : List String) :
    ∃ more, (name :: (p ++ rest)).zip (p ++ rest) = (name :: p).zip p ++ more := by
  induction p generalizing name with
  | nil => exact ⟨_, rfl⟩
  | cons key keys ih =>
    obtain ⟨more, hmore⟩ := ih key
    exact ⟨more, by simp only [List.cons_append, List.zip_cons_cons, hmore]⟩

lemma exists_of_append_eq {α : Type} {a : α} {front back before after : List α}
    (h : front ++ back = before ++ a :: after) (ha : a ∉ back) :
    ∃ after, front = before ++ a :: after := by
  rcases List.append_eq_append_iff.mp h with ⟨c, -, hback⟩ | ⟨c, hfront, hrest⟩
  · exact absurd (by simp [hback]) ha
  · cases c with
    | nil =>
      rw [List.nil_append] at hrest
      rw [← hrest] at ha
      exact absurd List.mem_cons_self ha
    | cons first c =>
      obtain ⟨rfl, -⟩ := List.cons.inj hrest
      exact ⟨c, hfront⟩

/-- Whatever stands on a path before its end leads to an entry from which the path goes on. -/
lemma exists_path_of_dropLast {name key : String} {p before after : List String}
    (h : (name :: p).dropLast = before ++ key :: after) :
    ∃ q next rest, name :: q = before ++ [key] ∧ p = q ++ next :: rest := by
  induction before generalizing name p with
  | nil =>
    cases p with
    | nil => cases h
    | cons next rest =>
      obtain ⟨rfl, -⟩ := List.cons.inj h
      exact ⟨[], next, rest, rfl, rfl⟩
  | cons first before ih =>
    cases p with
    | nil => cases h
    | cons second p =>
      obtain ⟨rfl, htail⟩ := List.cons.inj h
      obtain ⟨q, next, rest, hq, rfl⟩ := ih htail
      exact ⟨second :: q, next, rest, congrArg (name :: ·) hq, rfl⟩

/-- A form that begins with the fields on the way to an entry with children, and gives no value for
that entry, lacks a field. -/
lemma chain_zip_append (h : m.issues = []) {q : List String} {e : Entry}
    (he : m.entryAt? q = some e) (hleaf : e.isLeaf = false) {more : List (String × String)}
    (hmore : ∀ field ∈ more, field.1 ≠ e.key) :
    m.chain ⟨(m.root.key :: q).zip q ++ more⟩ = .error (.missingField e.key) := by
  obtain ⟨hpath, -⟩ := Menu.keys_of_path h (Option.isSome_of_eq_some he)
  have hsplit := List.dropLast_concat_getLast (List.cons_ne_nil m.root.key q)
  rw [← Selector.key_eq_getLast he] at hsplit
  rw [← hsplit] at hpath
  obtain ⟨hfront, -, hlast⟩ := List.nodup_append.mp hpath
  have hlinks : (m.root.key :: q).IsChain fun a b =>
      (PostedForm.pushAll ⟨(m.root.key :: q).zip q⟩ more).get? a = some b := by
    refine (isChain_mem_zip m.root.key q).imp ?_
    intro a b hab
    have hvalue : (⟨(m.root.key :: q).zip q⟩ : PostedForm).get? a = some b :=
      PostedForm.get?_of_mem (by rwa [map_fst_zip_cons]) hab
    rw [PostedForm.get?_pushAll, hvalue, Option.some_or]
  have hend : (PostedForm.pushAll ⟨(m.root.key :: q).zip q⟩ more).get? e.key = none := by
    rw [PostedForm.get?_eq_none_iff, PostedForm.pushAll, List.map_append, map_fst_zip_cons,
      List.mem_append, not_or]
    constructor
    · intro hmem
      exact hlast e.key hmem e.key (List.mem_singleton_self _) rfl
    · intro hmem
      obtain ⟨field, hfield, hname⟩ := List.mem_map.mp hmem
      exact hmore field hfield hname
  have hchain := Entry.chain_of_isChain he hlinks
  rw [Entry.chain_of_isLeaf_false hleaf, hend] at hchain
  exact hchain

/-- The chain ends where the first key with an equals sign names a field: the fields before it lead
there, and no field that is read has its name. -/
lemma chain_map_reread (h : m.issues = []) {p : List String} {d : Entry}
    (hd : m.entryAt? p = some d) {before after : List String} {key : String}
    (hnames : (m.root.key :: p).dropLast = before ++ key :: after)
    (hbefore : ∀ name ∈ before, '=' ∉ name.toList) (hkey : '=' ∈ key.toList)
    (own : List (String × String)) :
    m.chain ⟨((m.root.key :: p).zip p ++ own).map reread⟩ = .error (.missingField key) := by
  obtain ⟨q, next, rest, hq, rfl⟩ := exists_path_of_dropLast hnames
  obtain ⟨e, he⟩ := Option.isSome_iff_exists.mp (Entry.descend?_isSome_of_isPrefix
    (List.prefix_append q (next :: rest)) (Option.isSome_of_eq_some hd))
  have hlast : e.key = key := by simpa [hq] using Selector.key_eq_getLast he
  have hleaf : e.isLeaf = false := Entry.isLeaf_of_longer_path he (Option.isSome_of_eq_some hd)
  have hsame : ((m.root.key :: q).zip q).map reread = (m.root.key :: q).zip q := by
    have hfront : ((m.root.key :: q).zip q).map Prod.fst = before := by
      rw [map_fst_zip_cons, hq, List.dropLast_concat]
    apply map_reread
    intro field hfield
    apply hbefore
    rw [← hfront]
    exact List.mem_map_of_mem hfield
  obtain ⟨more, hmore⟩ := exists_zip_cons_append m.root.key q (next :: rest)
  rw [hmore, List.append_assoc, List.map_append, hsame, ← hlast]
  apply chain_zip_append h he hleaf
  intro field hfield
  obtain ⟨field, -, rfl⟩ := List.mem_map.mp hfield
  intro hname
  rw [hlast] at hname
  exact not_mem_reread field (hname ▸ hkey)

lemma filledIn_without_equals : ∀ name ∈ Field.filledIn, '=' ∉ name.toList := by decide

/-- Arguments stand for the form of a selector, whatever has been filled in, as long as no name in it
holds an equals sign. Otherwise `decode` lacks the first field whose name holds one. -/
theorem decode_spelled_form {t : Selector} {extra : List (String × String)}
    (hload : loadMenu files choice = .ok m) (ht : Selector.Reachable m t)
    (hextra : ∀ field ∈ extra, field.1 ∈ Field.filledIn) :
    ((∀ field ∈ t.posted.fields, '=' ∉ field.1.toList) →
      (decode choice (spelled (t.posted.pushAll extra).fields)).run files =
        answer m (t.posted.pushAll extra)) ∧
    ∀ before key after, t.posted.fields.map Prod.fst = before ++ key :: after →
      (∀ name ∈ before, '=' ∉ name.toList) → '=' ∈ key.toList →
        (decode choice (spelled (t.posted.pushAll extra).fields)).run files =
          .failed "" ⟨(SubmissionError.missingField key).message, none⟩ := by
  have hrun := run_decode hload (formOf_spelled (t.posted.pushAll extra).fields)
  constructor
  · intro hposted
    have hread : (t.posted.pushAll extra).fields.map reread = (t.posted.pushAll extra).fields := by
      apply map_reread
      intro field hfield
      rcases List.mem_append.mp hfield with hfield | hfield
      · exact hposted field hfield
      · exact filledIn_without_equals field.1 (hextra field hfield)
    rw [hrun, hread]
  · intro before key after hnames hbefore hkey
    obtain ⟨hm, position, hpos, rfl⟩ := Selector.reachable_iff.mp ht
    cases position with
    | none => cases before <;> cases hnames
    | some p =>
      obtain ⟨d, hd⟩ := Option.isSome_iff_exists.mp hpos
      have hown : key ∉ d.ownFields.map Prod.fst := by
        intro hmem
        rw [Entry.eq_path_of_mem_names hmem] at hkey
        exact absurd hkey (by decide)
      rw [Selector.names_posted hd] at hnames
      obtain ⟨after, hpath⟩ := exists_of_append_eq hnames hown
      have hchain := chain_map_reread hm hd hpath hbefore hkey (d.ownFields ++ extra)
      rw [hrun, PostedForm.pushAll, Selector.fields_posted hd, List.append_assoc]
      exact answer_of_chain_error hchain

theorem decode_spelled_form_of_group :
    ∃ m, loadMenu separatorFiles separatorChoice = .ok m ∧
      Selector.Reachable m (m.selectorAt (some ["G1"])) ∧
      (decode separatorChoice ["Course=G1", "path=", "FUN=a=b"]).run separatorFiles =
        answer m ((m.selectorAt (some ["G1"])).posted.pushAll [("FUN", "a=b")]) := by
  obtain ⟨m, hload, -, ⟨hgroup, -⟩, ⟨hfields, -⟩, -⟩ := exists_separator_menu
  have ht : Selector.Reachable m (m.selectorAt (some ["G1"])) :=
    Selector.reachable_iff.mpr ⟨issues_of_loadMenu hload, some ["G1"], hgroup, rfl⟩
  have hextra : ∀ field ∈ [("FUN", "a=b")], field.1 ∈ Field.filledIn := by decide
  have hnames : ∀ field ∈ (m.selectorAt (some ["G1"])).posted.fields, '=' ∉ field.1.toList := by
    rw [hfields]
    decide
  have hrun := (decode_spelled_form hload ht hextra).1 hnames
  have hall : ((m.selectorAt (some ["G1"])).posted.pushAll [("FUN", "a=b")]).fields =
      [("Course", "G1"), ("path", ""), ("FUN", "a=b")] := by
    simp only [PostedForm.pushAll, hfields, List.cons_append, List.nil_append]
  rw [hall] at hrun
  exact ⟨m, hload, ht, hrun⟩

/-- The form of the group behind the equals sign is accepted, and its arguments are refused. -/
theorem form_with_equals_sign_not_spelled :
    ∃ m t, loadMenu separatorFiles separatorChoice = .ok m ∧ Selector.Reachable m t ∧
      t.isComplete = true ∧ (m.decodeStudent t.posted).value = .ok ⟨["a=b", "G2"], "", none⟩ ∧
      (decode separatorChoice (spelled t.posted.fields)).run separatorFiles =
        .failed "" ⟨"missing field \x60a=b\x60", none⟩ := by
  obtain ⟨m, hload, hrole, ⟨-, -, -, hgroup, hcomplete⟩, ⟨-, hfields⟩, hok, herror⟩ :=
    exists_separator_menu
  have hposted : (m.selectorAt (some ["a=b", "G2"])).posted =
      ⟨[("Course", "a=b"), ("a=b", "G2"), ("path", "")]⟩ := congrArg PostedForm.mk hfields
  have hform : formOf (spelled [("Course", "a=b"), ("a=b", "G2"), ("path", "")]) =
      .ok ⟨[("Course", "a=b"), ("a", "b=G2"), ("path", "")]⟩ := rfl
  refine ⟨m, m.selectorAt (some ["a=b", "G2"]), hload, ?_, hcomplete, ?_, ?_⟩
  · exact Selector.reachable_iff.mpr ⟨issues_of_loadMenu hload, some ["a=b", "G2"], hgroup, rfl⟩
  · rw [hposted, hok]
  · rw [hfields, run_decode hload hform, answer, hrole]
    simp only [herror, answered]
    rfl

end Command

/-! ### Paths -/

namespace CommandLine

variable {env : Environment} {args : List String} {choice : MenuChoice} {keys : List String}
  {action output : Option String}

/-- The argument that selects the keys of a path. -/
def selection (keys : List String) : String := "--select=" ++ Text.join "," keys

lemma takeItem_selection (keys rest : List String) :
    takeItem renderFlags (selection keys) rest =
      some (.option "select" (Text.join "," keys), rest) := by
  have htoList : (selection keys).toList =
      '-' :: '-' :: ("select" ++ "=" ++ Text.join "," keys).toList := by simp [selection]
  have hsplit : Text.splitOnce '=' ("select" ++ "=" ++ Text.join "," keys) =
      some ("select", Text.join "," keys) :=
    (Text.splitOnce_eq_some_iff _ _ _ _).mpr ⟨by decide, rfl⟩
  rw [takeItem, htoList]
  simp only [String.ofList_toList, hsplit]
  rfl

lemma items?_selection (keys args : List String) :
    items? renderFlags (selection keys :: args).length (selection keys :: args) =
      (items? renderFlags args.length args).map
        (.option "select" (Text.join "," keys) :: ·) := by
  have hne : selection keys ≠ "--" := by
    intro h
    have htoList := congrArg String.toList h
    simp [selection] at htoList
  rw [List.length_cons, items?, if_neg hne, takeItem_selection]

lemma valuesOf_cons_of_ne {name other value : String} (h : other ≠ name) (items : List Item) :
    valuesOf name (.option other value :: items) = valuesOf name items := by
  simp [valuesOf, h]

lemma single?_cons_of_ne {name other value : String} (h : other ≠ name) (items : List Item) :
    single? name (.option other value :: items) = single? name items := by
  rw [single?, valuesOf_cons_of_ne h, single?]

/-- `render` takes the keys of all its arguments for them, one argument after the other. -/
lemma render?_selection {items : List Item} {selected : List String}
    (h : render? env items = some (.render choice selected action output)) (keys : List String) :
    render? env (.option "select" (Text.join "," keys) :: items) =
      some (.render choice (Text.split ',' (Text.join "," keys) ++ selected) action output) := by
  have hmenu : menuChoice? env (.option "select" (Text.join "," keys) :: items) =
      menuChoice? env items := by
    unfold menuChoice?
    rw [single?_cons_of_ne (by decide), single?_cons_of_ne (by decide)]
  have hselect : valuesOf "select" (.option "select" (Text.join "," keys) :: items) =
      Text.join "," keys :: valuesOf "select" items := by simp [valuesOf]
  have hpositionals : positionals (.option "select" (Text.join "," keys) :: items) =
      positionals items := rfl
  unfold render? at h ⊢
  rw [hmenu, single?_cons_of_ne (by decide), single?_cons_of_ne (by decide),
    single?_cons_of_ne (by decide), hselect, hpositionals, List.flatMap_cons]
  simp only [Option.bind_eq_bind, Option.bind_eq_some_iff] at h ⊢
  obtain ⟨menu, hmenu, form, hform, formAction, haction, path, hpath, out, hout, h⟩ := h
  refine ⟨menu, hmenu, form, hform, formAction, haction, path, hpath, out, hout, ?_⟩
  split at h
  · rw [if_pos ‹_›]
    obtain ⟨rfl, rfl, rfl, rfl⟩ := Command.render.inj (Option.some.inj h)
    rfl
  · cases h

/-- Every key that `render` selects is a piece between commas. -/
lemma not_mem_of_render? {items : List Item} {selected : List String}
    (h : render? env items = some (.render choice selected action output)) :
    ∀ key ∈ selected, ',' ∉ key.toList := by
  unfold render? at h
  simp only [Option.bind_eq_bind, Option.bind_eq_some_iff] at h
  obtain ⟨_, -, _, -, _, -, _, -, _, -, h⟩ := h
  split at h
  · obtain ⟨-, rfl, -, -⟩ := Command.render.inj (Option.some.inj h)
    intro key hkey
    obtain ⟨value, -, hpiece⟩ := List.mem_flatMap.mp hkey
    exact Text.not_mem_of_mem_split hpiece
  · cases h

def Item.isHelp : Item → Bool
  | .help => true
  | _ => false

lemma invocation_of_items? {flags : List Flag} {items : List Item}
    (hitems : items? flags args.length args = some items) (command? : List Item → Option Command) :
    invocation flags command? args =
      if items.any Item.isHelp then .help
      else (command? items).elim .misuse .run := by
  have hhelp : (items.any fun item => item matches .help) = items.any Item.isHelp := rfl
  unfold invocation
  rw [hitems]
  cases hany : items.any Item.isHelp with
  | true => exact if_pos (hhelp.trans hany)
  | false =>
    have hnone : ¬(items.any fun item => item matches .help) = true := by simp [hhelp, hany]
    refine (if_neg hnone).trans ?_
    cases command? items <;> rfl

lemma invocation_eq_run_iff (flags : List Flag) (command? : List Item → Option Command)
    (args : List String) (command : Command) :
    invocation flags command? args = .run command ↔
      ∃ items, items? flags args.length args = some items ∧ items.any Item.isHelp = false ∧
        command? items = some command := by
  cases hitems : items? flags args.length args with
  | none => simp [invocation, hitems]
  | some items =>
    rw [invocation_of_items? hitems]
    simp only [Option.some.injEq, exists_eq_left']
    cases items.any Item.isHelp with
    | true => simp
    | false => cases command? items <;> simp

lemma parse_selection {selected : List String}
    (h : parse env ("render" :: args) = .run (.render choice selected action output))
    (keys : List String) :
    parse env ("render" :: selection keys :: args) =
      .run (.render choice (Text.split ',' (Text.join "," keys) ++ selected) action output) := by
  obtain ⟨items, hitems, hhelp, hrender⟩ := (invocation_eq_run_iff _ _ _ _).mp h
  refine (invocation_eq_run_iff _ _ _ _).mpr
    ⟨.option "select" (Text.join "," keys) :: items, ?_, ?_, render?_selection hrender keys⟩
  · rw [items?_selection, hitems, Option.map_some]
  · rw [List.any_cons, hhelp]
    rfl

lemma not_mem_of_parse {selected : List String}
    (h : parse env ("render" :: args) = .run (.render choice selected action output)) :
    ∀ key ∈ selected, ',' ∉ key.toList := by
  obtain ⟨items, -, -, hrender⟩ := (invocation_eq_run_iff _ _ _ _).mp h
  exact not_mem_of_render? hrender

end CommandLine

namespace Command

variable {files : FileSystem} {choice : MenuChoice} {m : Menu} {p : List String}

/-- What `render` prints for the HTML of a selector. -/
def page (action : Option String) (html : String) : String :=
  match action with
  | some action => Html.form "form" action html
  | none => html

/-- Where `render` leaves a text. -/
def delivered (output : Option String) (text : String) : Outcome :=
  match output with
  | some path => .writes path (text ++ "\n")
  | none => .done (text ++ "\n")

lemma html_eq (h : m.issues = []) (keys : List String) (action : Option String) :
    html m keys action =
      match ((m.selectorAt none).selectPath keys).result with
      | .error e => .error ⟨"cannot select " ++ Text.quoteList keys, some e.message⟩
      | .ok _ => .ok (page action ((m.selectorAt none).selectPath keys).selector.html) := by
  have hnew : (Selector.ofMenu m).mapError Failure.ofLoad = .ok (m.selectorAt none) := by
    rw [Selector.ofMenu_of_issues h]
    rfl
  unfold html
  rw [hnew]
  simp only [bind, Except.bind]
  cases ((m.selectorAt none).selectPath keys).result with
  | error e => rfl
  | ok _ => cases action <;> rfl

lemma run_render (hload : loadMenu files choice = .ok m) (keys : List String)
    (action output : Option String) :
    (render choice keys action output).run files =
      match ((m.selectorAt none).selectPath keys).result with
      | .error e => .failed "" ⟨"cannot select " ++ Text.quoteList keys, some e.message⟩
      | .ok _ =>
        delivered output (page action ((m.selectorAt none).selectPath keys).selector.html) := by
  have htext : (do html (← loadMenu files choice) keys action) = html m keys action := by
    rw [hload]
    rfl
  simp only [run, htext, html_eq (issues_of_loadMenu hload)]
  cases ((m.selectorAt none).selectPath keys).result with
  | error e => rfl
  | ok _ => cases output <;> rfl

/-- Every path without commas in its keys can be selected by one argument of `render`, however its
menu is named and wherever the HTML goes. A path with a comma in a key cannot be selected at all. -/
theorem render_reaches_paths {env : CommandLine.Environment} {args : List String}
    {action output : Option String}
    (hparse : CommandLine.parse env ("render" :: args) = .run (.render choice [] action output))
    (hload : loadMenu files choice = .ok m) (hp : (m.entryAt? p).isSome) (hne : p ≠ []) :
    ((∀ key ∈ p, ',' ∉ key.toList) →
      CommandLine.parse env ("render" :: CommandLine.selection p :: args) =
          .run (.render choice p action output) ∧
        ∃ s, Selector.ofMenu m = .ok s ∧ (s.selectPath p).result = .ok () ∧
          (render choice p action output).run files =
            delivered output (page action (s.selectPath p).selector.html)) ∧
    ((∃ key ∈ p, ',' ∈ key.toList) → ∀ args choice action output,
      CommandLine.parse env ("render" :: args) ≠ .run (.render choice p action output)) := by
  constructor
  · intro hcommas
    have hsplit : Text.split ',' (Text.join "," p) = p := Text.split_join_of_not_mem hne hcommas
    have hselected := CommandLine.parse_selection hparse p
    rw [hsplit, List.append_nil] at hselected
    obtain ⟨-, hresult⟩ := Selector.selectPath_of_isSome (m.selectorAt none) hp
    refine ⟨hselected, m.selectorAt none, ?_, hresult, ?_⟩
    · exact Selector.ofMenu_of_issues (issues_of_loadMenu hload)
    · rw [run_render hload, hresult]
  · rintro ⟨key, hkey, hcomma⟩ args choice action output hother
    exact CommandLine.not_mem_of_parse hother key hkey hcomma

theorem render_reaches_path_of_group :
    ∃ m, loadMenu separatorFiles separatorChoice = .ok m ∧
      CommandLine.parse {} ["render", "--menu", "menu.yaml"] =
        .run (.render separatorChoice [] none none) ∧
      (m.entryAt? ["a=b", "G2"]).isSome = true ∧
      CommandLine.parse {} ["render", "--select=a=b,G2", "--menu", "menu.yaml"] =
        .run (.render separatorChoice ["a=b", "G2"] none none) ∧
      ∃ s, Selector.ofMenu m = .ok s ∧ (s.selectPath ["a=b", "G2"]).result = .ok () ∧
        (render separatorChoice ["a=b", "G2"] none none).run separatorFiles =
          .done ((s.selectPath ["a=b", "G2"]).selector.html ++ "\n") := by
  obtain ⟨m, hload, -, ⟨-, -, -, hgroup, -⟩, -⟩ := exists_separator_menu
  have hparse : CommandLine.parse {} ["render", "--menu", "menu.yaml"] =
      .run (.render separatorChoice [] none none) := rfl
  obtain ⟨hselected, hrun⟩ := (render_reaches_paths hparse hload hgroup (by decide)).1 (by decide)
  exact ⟨m, hload, hparse, hgroup, hselected, hrun⟩

/-- The leaf with a comma in its key is part of the menu, and its argument selects nothing. -/
theorem path_with_comma_not_selected :
    ∃ m, loadMenu separatorFiles separatorChoice = .ok m ∧
      (m.entryAt? ["a,b"]).isSome = true ∧
      CommandLine.parse {} ["render", CommandLine.selection ["a,b"], "--menu", "menu.yaml"] =
        .run (.render separatorChoice ["a", "b"] none none) ∧
      ∃ cause, (render separatorChoice ["a", "b"] none none).run separatorFiles =
        .failed "" ⟨"cannot select [\"a\", \"b\"]", some cause⟩ := by
  obtain ⟨m, hload, -, ⟨-, hleaf, hpieces, -, -⟩, -⟩ := exists_separator_menu
  have hresult := (Selector.selectPath_eq (m.selectorAt none) ["a", "b"]).2
  refine ⟨m, hload, hleaf, rfl, ?_⟩
  rw [run_render hload]
  cases herror : ((m.selectorAt none).selectPath ["a", "b"]).result with
  | error e => exact ⟨e.message, rfl⟩
  | ok _ =>
    rw [herror] at hresult
    cases hresult.trans hpieces

end Command

end CascadingForms
