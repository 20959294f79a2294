import CascadingForms.Text.Hex
import CascadingForms.Yaml.Reading

/-!
# Texts that would be read as something else

Without quotes a text may spell null, a Boolean or a number. Integers have a sign, a base and at
most 128 bits; what lies beyond is a real number, unless it is too large for one in double
precision. Digits behind a leading zero are no number, yet are quoted too.
-/

namespace CascadingForms.Yaml.Resolution

def digit? (base : Nat) (c : Char) : Option Nat :=
  (Text.hexValue? c).filter (· < base)

/-- The value of a list of digits, at least one. -/
def natural? (base : Nat) (cs : List Char) : Option Nat :=
  if cs.isEmpty then none
  else cs.foldlM (fun n c => (digit? base c).map (base * n + ·)) 0

/-- The base and the digits behind its mark; base ten has none. -/
def splitBase : List Char → Nat × List Char
  | '0' :: 'x' :: rest => (16, rest)
  | '0' :: 'o' :: rest => (8, rest)
  | '0' :: 'b' :: rest => (2, rest)
  | cs => (10, cs)

/-- Whether digits, with the mark of a base in front, spell a number below a limit. -/
def isNaturalBelow (limit : Nat) (cs : List Char) : Bool :=
  let (base, digits) := splitBase cs
  match natural? base digits with
  | some n => n < limit
  | none => false

def dropSign : List Char → List Char
  | '+' :: rest => rest
  | '-' :: rest => rest
  | cs => cs

/-- Whether a text consists of digits, several of them, the first of them zero. -/
def hasLeadingZero (cs : List Char) : Bool :=
  match dropSign cs with
  | '0' :: c :: rest => (c :: rest).all Char.isDigit
  | _ => false

def isInteger (cs : List Char) : Bool :=
  !hasLeadingZero cs &&
    match cs with
    | '-' :: rest => isNaturalBelow (Nat.pow 2 127 + 1) rest
    | '+' :: rest => isNaturalBelow (Nat.pow 2 128) rest
    | _ => isNaturalBelow (Nat.pow 2 128) cs

/-- A decimal number as an integer and a power of ten. -/
structure Decimal where
  digits : List Char
  exponent : Int

def exponent? (cs : List Char) : Option Int :=
  match cs with
  | '-' :: rest => (natural? 10 rest).map fun n => -(n : Int)
  | '+' :: rest => (natural? 10 rest).map fun n => (n : Int)
  | _ => (natural? 10 cs).map fun n => (n : Int)

def decimal? (cs : List Char) : Option Decimal :=
  let isMark := fun c => c = 'e' || c = 'E'
  let mantissa := cs.takeWhile fun c => !isMark c
  let exponent := match cs.dropWhile fun c => !isMark c with
    | [] => some 0
    | _ :: rest => exponent? rest
  let whole := mantissa.takeWhile (· ≠ '.')
  let fraction := (mantissa.dropWhile (· ≠ '.')).drop 1
  let digits := whole ++ fraction
  match exponent with
  | some exponent =>
    if !digits.isEmpty && digits.all Char.isDigit then
      some ⟨digits.dropWhile (· = '0'), exponent - fraction.length⟩
    else none
  | none => none

/-- The least number that double precision rounds to infinity. -/
def overflow : Nat := Nat.pow 2 1024 - Nat.pow 2 970

def Decimal.isFinite (d : Decimal) : Bool :=
  let magnitude := d.exponent + d.digits.length
  if d.digits.isEmpty || magnitude < 300 then true
  else if 310 < magnitude then false
  else
    let n := (natural? 10 d.digits).getD 0
    if 0 ≤ d.exponent then n * Nat.pow 10 d.exponent.toNat < overflow
    else n < overflow * Nat.pow 10 (-d.exponent).toNat

def isReal (cs : List Char) : Bool :=
  let s := String.ofList cs
  let unsigned := dropSign cs
  [".inf", ".Inf", ".INF"].contains (String.ofList unsigned) ||
    [".nan", ".NaN", ".NAN"].contains s ||
    (!hasLeadingZero cs &&
      match decimal? unsigned with
      | some d => d.isFinite
      | none => false)

/-- Whether a text needs quotes so as to be read as a text. -/
def isAmbiguous (s : String) : Bool :=
  s.isEmpty || Reader.isNull s || (Reader.bool? s).isSome || isInteger s.toList ||
    isReal s.toList || hasLeadingZero s.toList

end CascadingForms.Yaml.Resolution
