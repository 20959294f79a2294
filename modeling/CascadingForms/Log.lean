/-!
# Log records

Loading, selecting and decoding leave records of what they did. A computation that logs gives its
value together with its records, oldest first.
-/

namespace CascadingForms

inductive Severity where
  | error
  | warning
  | info
  | debug
deriving DecidableEq

structure Record where
  severity : Severity
  text : String
deriving DecidableEq

/-- A value and the records made on the way to it. -/
structure Logged (α : Type) where
  value : α
  log : List Record := []

namespace Logged

def map {α β : Type} (f : α → β) (x : Logged α) : Logged β := ⟨f x.value, x.log⟩

def bind {α β : Type} (x : Logged α) (f : α → Logged β) : Logged β :=
  let y := f x.value
  ⟨y.value, x.log ++ y.log⟩

instance : Monad Logged where
  pure x := { value := x }
  bind := bind

def record (severity : Severity) (text : String) : Logged Unit :=
  { value := (), log := [⟨severity, text⟩] }

end Logged

end CascadingForms
