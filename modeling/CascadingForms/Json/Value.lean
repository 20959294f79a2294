/-!
# JSON values

Objects keep their members in the order in which they are written, and numbers keep their text:
nothing in this library computes with them.
-/

namespace CascadingForms

inductive Json where
  | null
  | bool (b : Bool)
  /-- A number, as it is spelled. -/
  | number (literal : String)
  | string (s : String)
  /-- A string that spells half of a surrogate pair. It is no text, and may only stand where nothing
  reads it. -/
  | brokenString
  | array (items : List Json)
  | object (members : List (String × Json))

namespace Json

def ofNat (n : Nat) : Json := .number (toString n)

def strings (items : List String) : Json := .array (items.map .string)

def ofText? : Option String → Json
  | none => .null
  | some s => .string s

/-- The member of an object with a name, when there is exactly one. -/
def uniqueMember? (members : List (String × Json)) (name : String) : Option (Option Json) :=
  match members.filter (·.1 = name) with
  | [] => some none
  | [member] => some (some member.2)
  | _ => none

/-- The values of the named fields of a record, each present or absent. A record is an object with
no named field twice, whatever its other members, or an array with the values of the first fields
in order. -/
def record? (names : List String) : Json → Option (List (Option Json))
  | .object members => names.mapM (uniqueMember? members)
  | .array items =>
    if items.length ≤ names.length then
      some (items.map some ++ List.replicate (names.length - items.length) none)
    else none
  | _ => none

def string? : Json → Option String
  | .string s => some s
  | _ => none

def bool? : Json → Option Bool
  | .bool b => some b
  | _ => none

def array? : Json → Option (List Json)
  | .array items => some items
  | _ => none

def strings? (j : Json) : Option (List String) := do
  (← j.array?).mapM string?

/-- A value that may be `null`. -/
def nullable? {α : Type} (read : Json → Option α) : Json → Option (Option α)
  | .null => some none
  | j => (read j).map some

/-- A bare name: the string, or an object with the name as its only member and `null` in it. -/
def name? : Json → Option String
  | .string s => some s
  | .object [(name, .null)] => some name
  | _ => none

end Json

end CascadingForms
