import CascadingForms.Form.Html
import CascadingForms.Proofs.Texts
import Mathlib.Tactic.SplitIfs

/-!
# Markup as tokens

`Html.tokenize` is a reference tokenizer, a machine that reads markup one character after the other.
It knows start tags with bare or single-quoted attributes, end tags and the text in between, and
decodes the five entities in texts and values. Nothing in it depends on how controls are written.
This file shows what it makes of a start tag whose values are escaped, and of an escaped text with
the end tag after it.
-/

namespace CascadingForms.Html

/-- An attribute with its value in quotes, or none if it is bare. -/
abbrev Attribute := String × Option String

inductive Token where
  | start (tag : String) (attributes : List Attribute)
  | finish (tag : String)
  | text (content : String)
deriving DecidableEq

/-- The characters that stand for themselves or are named by an entity. -/
def unescape : List Char → Option (List Char)
  | [] => some []
  | '&' :: 'a' :: 'm' :: 'p' :: ';' :: rest => (unescape rest).map ('&' :: ·)
  | '&' :: 'l' :: 't' :: ';' :: rest => (unescape rest).map ('<' :: ·)
  | '&' :: 'g' :: 't' :: ';' :: rest => (unescape rest).map ('>' :: ·)
  | '&' :: '#' :: '3' :: '9' :: ';' :: rest => (unescape rest).map ('\'' :: ·)
  | '&' :: 'q' :: 'u' :: 'o' :: 't' :: ';' :: rest => (unescape rest).map ('"' :: ·)
  | c :: rest => if c = '&' then none else (unescape rest).map (c :: ·)

/-- The token of a text between two tags, if there is one. -/
def texts (s : String) : List Token := if s = "" then [] else [.text s]

/-- What has been read of a text or tag so far. -/
inductive State where
  | text (raw : List Char)
  | tagName (closes : Bool) (name : List Char)
  | attributeName (tag : String) (attributes : List Attribute) (name : List Char)
  | beforeValue (tag : String) (attributes : List Attribute) (name : String)
  | value (tag : String) (attributes : List Attribute) (name : String) (raw : List Char)
  | afterValue (tag : String) (attributes : List Attribute)

namespace State

/-- The tokens that a character completes, and the state after it. -/
def step : State → Char → Option (List Token × State)
  | text raw, c =>
    if c = '<' then (unescape raw).map fun s => (texts (String.ofList s), tagName false [])
    else some ([], text (raw ++ [c]))
  | tagName closes name, c =>
    if c.isAlpha then some ([], tagName closes (name ++ [c]))
    else if name = [] then if c = '/' && !closes then some ([], tagName true []) else none
    else if c = '>' then
      let tag := String.ofList name
      some ([if closes then .finish tag else .start tag []], text [])
    else if c = ' ' && !closes then some ([], attributeName (String.ofList name) [] [])
    else none
  | attributeName tag attributes name, c =>
    if c.isAlpha then some ([], attributeName tag attributes (name ++ [c]))
    else if name = [] then none
    else if c = '=' then some ([], beforeValue tag attributes (String.ofList name))
    else if c = ' ' then
      some ([], attributeName tag (attributes ++ [(String.ofList name, none)]) [])
    else if c = '>' then
      some ([.start tag (attributes ++ [(String.ofList name, none)])], text [])
    else none
  | beforeValue tag attributes name, c =>
    if c = '\'' then some ([], value tag attributes name []) else none
  | value tag attributes name raw, c =>
    if c = '\'' then
      (unescape raw).map fun s =>
        ([], afterValue tag (attributes ++ [(name, some (String.ofList s))]))
    else some ([], value tag attributes name (raw ++ [c]))
  | afterValue tag attributes, c =>
    if c = ' ' then some ([], attributeName tag attributes [])
    else if c = '>' then some ([.start tag attributes], text [])
    else none

/-- The tokens that are read from a state on. No tag may be left open at the end. -/
def run : State → List Char → Option (List Token)
  | text raw, [] => (unescape raw).map fun s => texts (String.ofList s)
  | _, [] => none
  | state, c :: rest =>
    match state.step c with
    | none => none
    | some (tokens, next) => (run next rest).map (tokens ++ ·)

end State

def tokenize (html : String) : Option (List Token) := (State.text []).run html.toList

example : tokenize "<a b c='1 &lt; 2'>x &amp; y</a>" =
    some [.start "a" [("b", none), ("c", some "1 < 2")], .text "x & y", .finish "a"] := by
  decide +kernel

/-! ### Escaped characters -/

lemma unescape_escapeChar (c : Char) (rest : List Char) :
    unescape (escapeChar c ++ rest) = (unescape rest).map (c :: ·) := by
  unfold escapeChar
  split_ifs with hamp hlt hgt hquote hdouble
  · subst hamp
    simp [unescape]
  · subst hlt
    simp [unescape]
  · subst hgt
    simp [unescape]
  · subst hquote
    simp [unescape]
  · subst hdouble
    simp [unescape]
  · simp [unescape, hamp]

lemma unescape_escape (l : List Char) : unescape (l.flatMap escapeChar) = some l := by
  induction l with
  | nil => rfl
  | cons c rest ih => rw [List.flatMap_cons, unescape_escapeChar, ih, Option.map_some]

lemma not_mem_escape (l : List Char) : '<' ∉ l.flatMap escapeChar ∧ '\'' ∉ l.flatMap escapeChar := by
  have hchar (c : Char) : '<' ∉ escapeChar c ∧ '\'' ∉ escapeChar c := by
    unfold escapeChar
    split_ifs with hamp hlt hgt hquote hdouble
    · decide
    · decide
    · decide
    · decide
    · decide
    · simp [Ne.symm hlt, Ne.symm hquote]
  simp only [List.mem_flatMap, not_exists, not_and]
  exact ⟨fun c _ => (hchar c).1, fun c _ => (hchar c).2⟩

/-! ### What stays in a state -/

lemma run_cons {state next : State} {c : Char} {tokens : List Token}
    (h : state.step c = some (tokens, next)) (rest : List Char) :
    state.run (c :: rest) = (next.run rest).map (tokens ++ ·) := by
  cases state <;> rw [State.run, h]

lemma run_cons_silent {state next : State} {c : Char} (h : state.step c = some ([], next))
    (rest : List Char) : state.run (c :: rest) = next.run rest := by
  rw [run_cons h]
  cases next.run rest <;> rfl

/-- Characters that a state only collects can be read at once. -/
lemma run_collect {state : List Char → State} {l : List Char}
    (h : ∀ c ∈ l, ∀ raw, (state raw).step c = some ([], state (raw ++ [c])))
    (raw rest : List Char) : (state raw).run (l ++ rest) = (state (raw ++ l)).run rest := by
  induction l generalizing raw with
  | nil => simp
  | cons c l ih =>
    have hc := h c List.mem_cons_self raw
    rw [List.cons_append, run_cons_silent hc, ih fun d hd => h d (List.mem_cons_of_mem c hd),
      List.append_assoc, List.singleton_append]

/-- The names of tags and attributes are made of letters. -/
def isName (s : String) : Bool := !s.isEmpty && s.toList.all Char.isAlpha

lemma toList_ne_nil_of_isName {s : String} (h : isName s = true) : s.toList ≠ [] := by
  intro hnil
  have hempty : s = "" := String.toList_inj.mp hnil
  rw [hempty] at h
  exact absurd h (by decide)

lemma isAlpha_of_isName {s : String} (h : isName s = true) : ∀ c ∈ s.toList, c.isAlpha = true := by
  unfold isName at h
  rw [Bool.and_eq_true] at h
  exact List.all_eq_true.mp h.2

lemma run_tagName (closes : Bool) {tag : String} (h : isName tag = true) (rest : List Char) :
    (State.tagName closes []).run (tag.toList ++ rest) =
      (State.tagName closes tag.toList).run rest :=
  run_collect (fun c hc raw => by simp [State.step, isAlpha_of_isName h c hc]) [] rest

lemma run_attributeName (tag : String) (attributes : List Attribute) {name : String}
    (h : isName name = true) (rest : List Char) :
    (State.attributeName tag attributes []).run (name.toList ++ rest) =
      (State.attributeName tag attributes name.toList).run rest :=
  run_collect (fun c hc raw => by simp [State.step, isAlpha_of_isName h c hc]) [] rest

lemma run_value (tag : String) (attributes : List Attribute) (name v : String)
    (rest : List Char) :
    (State.value tag attributes name []).run (v.toList.flatMap escapeChar ++ '\'' :: rest) =
      (State.afterValue tag (attributes ++ [(name, some v)])).run rest := by
  have hstay : ∀ c ∈ v.toList.flatMap escapeChar, ∀ raw,
      (State.value tag attributes name raw).step c =
        some ([], State.value tag attributes name (raw ++ [c])) := by
    intro c hc raw
    have hquote : c ≠ '\'' := fun heq => (not_mem_escape v.toList).2 (heq ▸ hc)
    simp [State.step, hquote]
  rw [run_collect hstay, List.nil_append]
  apply run_cons_silent
  simp [State.step, unescape_escape]

lemma run_text (s : String) (rest : List Char) :
    (State.text []).run (s.toList.flatMap escapeChar ++ '<' :: rest) =
      ((State.tagName false []).run rest).map (texts s ++ ·) := by
  have hstay : ∀ c ∈ s.toList.flatMap escapeChar, ∀ raw,
      (State.text raw).step c = some ([], State.text (raw ++ [c])) := by
    intro c hc raw
    have hopen : c ≠ '<' := fun heq => (not_mem_escape s.toList).1 (heq ▸ hc)
    simp [State.step, hopen]
  rw [run_collect hstay, List.nil_append]
  apply run_cons
  simp [State.step, unescape_escape]

/-! ### Tags -/

/-- A state in which a start tag has come to the end of its attributes so far: the tag may be closed
or go on with another attribute. -/
structure AtEnd (state : State) (tag : String) (attributes : List Attribute) : Prop where
  space : state.step ' ' = some ([], .attributeName tag attributes [])
  close : state.step '>' = some ([.start tag attributes], .text [])

def attributeChars (a : Attribute) : List Char :=
  ' ' :: a.1.toList ++
    match a.2 with
    | none => []
    | some v => '=' :: '\'' :: v.toList.flatMap escapeChar ++ ['\'']

def startChars (tag : String) (attributes : List Attribute) : List Char :=
  '<' :: tag.toList ++ attributes.flatMap attributeChars ++ ['>']

def finishChars (tag : String) : List Char := '<' :: '/' :: tag.toList ++ ['>']

lemma atEnd_tagName {tag : String} (h : isName tag = true) :
    AtEnd (.tagName false tag.toList) tag [] := by
  have hne := toList_ne_nil_of_isName h
  constructor <;> simp [State.step, hne]

lemma run_attributeChars {state : State} {tag : String} {attributes : List Attribute}
    (h : AtEnd state tag attributes) {a : Attribute} (ha : isName a.1 = true) :
    ∃ next, AtEnd next tag (attributes ++ [a]) ∧
      ∀ rest, state.run (attributeChars a ++ rest) = next.run rest := by
  rcases a with ⟨name, value⟩
  have hne := toList_ne_nil_of_isName ha
  cases value with
  | none =>
    refine ⟨.attributeName tag attributes name.toList, ?_, fun rest => ?_⟩
    · constructor <;> simp [State.step, hne]
    · simp only [attributeChars, List.append_nil, List.cons_append]
      rw [run_cons_silent h.space, run_attributeName tag attributes ha]
  | some v =>
    refine ⟨.afterValue tag (attributes ++ [(name, some v)]), ?_, fun rest => ?_⟩
    · constructor <;> simp [State.step]
    · have hequals : (State.attributeName tag attributes name.toList).step '=' =
          some ([], .beforeValue tag attributes name) := by
        simp [State.step, hne]
      have hquote : (State.beforeValue tag attributes name).step '\'' =
          some ([], .value tag attributes name []) := by
        simp [State.step]
      simp only [attributeChars, List.cons_append, List.append_assoc, List.nil_append]
      rw [run_cons_silent h.space, run_attributeName tag attributes ha, run_cons_silent hequals,
        run_cons_silent hquote, run_value]

lemma run_attributes {state : State} {tag : String} {attributes more : List Attribute}
    (h : AtEnd state tag attributes) (hmore : ∀ a ∈ more, isName a.1 = true) (rest : List Char) :
    state.run (more.flatMap attributeChars ++ '>' :: rest) =
      ((State.text []).run rest).map ([.start tag (attributes ++ more)] ++ ·) := by
  induction more generalizing state attributes with
  | nil =>
    rw [List.append_nil]
    exact run_cons h.close rest
  | cons a more ih =>
    obtain ⟨next, hnext, hrun⟩ := run_attributeChars h (hmore a List.mem_cons_self)
    rw [List.flatMap_cons, List.append_assoc, hrun,
      ih hnext fun b hb => hmore b (List.mem_cons_of_mem a hb), List.append_assoc,
      List.singleton_append]

/-! ### Markup that is read as some tokens -/

/-- Characters that are read as some tokens, whatever comes after them. -/
def Reads (l : List Char) (tokens : List Token) : Prop :=
  ∀ rest, (State.text []).run (l ++ rest) = ((State.text []).run rest).map (tokens ++ ·)

lemma reads_nil : Reads [] [] := by
  intro rest
  cases h : (State.text []).run rest <;> simp [h]

lemma Reads.append {l l' : List Char} {tokens tokens' : List Token} (h : Reads l tokens)
    (h' : Reads l' tokens') : Reads (l ++ l') (tokens ++ tokens') := by
  intro rest
  rw [List.append_assoc, h, h', Option.map_map]
  congr 1
  funext more
  exact (List.append_assoc tokens tokens' more).symm

lemma Reads.flatMap {α : Type} {chars : α → List Char} {tokens : α → List Token} {l : List α}
    (h : ∀ a ∈ l, Reads (chars a) (tokens a)) : Reads (l.flatMap chars) (l.flatMap tokens) := by
  induction l with
  | nil => exact reads_nil
  | cons a l ih =>
    exact (h a List.mem_cons_self).append (ih fun b hb => h b (List.mem_cons_of_mem a hb))

lemma reads_start {tag : String} {attributes : List Attribute} (h : isName tag = true)
    (hnames : ∀ a ∈ attributes, isName a.1 = true) :
    Reads (startChars tag attributes) [.start tag attributes] := by
  intro rest
  -- A tag is read after a text, here after the empty one.
  have hopen := run_text "" (tag.toList ++ (attributes.flatMap attributeChars ++ '>' :: rest))
  have hclose := run_attributes (atEnd_tagName h) hnames rest
  simp only [startChars, List.append_assoc, List.cons_append, List.nil_append]
  rw [run_tagName false h, hclose, Option.map_map] at hopen
  exact hopen

/-- A text ends where a tag opens: here it is the end tag of the element that holds the text. -/
lemma reads_finish (s : String) {tag : String} (h : isName tag = true) :
    Reads (s.toList.flatMap escapeChar ++ finishChars tag) (texts s ++ [.finish tag]) := by
  intro rest
  have hne := toList_ne_nil_of_isName h
  have hslash : (State.tagName false []).step '/' = some ([], .tagName true []) := by
    simp [State.step]
  have hclose : (State.tagName true tag.toList).step '>' = some ([.finish tag], .text []) := by
    simp [State.step, hne]
  simp only [finishChars, List.append_assoc, List.cons_append, List.nil_append]
  rw [run_text, run_cons_silent hslash, run_tagName true h, run_cons hclose, Option.map_map]
  rfl

lemma tokenize_of_reads {html : String} {tokens : List Token} (h : Reads html.toList tokens) :
    tokenize html = some tokens := by
  have hrun := h []
  rw [List.append_nil] at hrun
  rw [tokenize, hrun]
  simp [State.run, unescape, texts]

end CascadingForms.Html
