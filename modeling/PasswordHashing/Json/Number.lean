import PasswordHashing.Json.Basic
import PasswordHashing.Text.Decimal

/-!
Numbers in JSON. First the shape of a number is read, its digits before and after the
point and in the exponent, and then its value is worked out. A fraction, an exponent, a
minus before zero, or too great a size makes it floating point; digits that no longer fit
a word of sixty-four bits then only count as places. A value beyond all floats is none.
-/

namespace PasswordHashing.Json

structure Shape where
  negative : Bool
  whole : List Char
  fraction : List Char
  exponent : Option (Bool × List Char)
  deriving DecidableEq

/-! ### Reading the shape -/

section

variable {δ : Type}

/-- One digit or more; the text must not end before the first. -/
def readDigits : Read δ (List Char) := fun text =>
  match text with
  | [] => .error .truncated
  | c :: _ =>
    if c.isDigit then .ok (text.takeWhile Char.isDigit, text.dropWhile Char.isDigit)
    else .error .malformed

/-- A number has no zeros in front. -/
def readWhole : Read δ (List Char) := do
  let digits ← readDigits
  if digits.head? = some '0' ∧ digits ≠ ['0'] then fail .malformed else return digits

def readFraction : Read δ (List Char) := fun text =>
  match text with
  | '.' :: rest => readDigits rest
  | _ => .ok ([], text)

/-- Whether a minus stands before an exponent. -/
def readSign : Read δ Bool := fun text =>
  match text with
  | '+' :: rest => .ok (false, rest)
  | '-' :: rest => .ok (true, rest)
  | _ => .ok (false, text)

def readExponent : Read δ (Option (Bool × List Char)) := do
  match ← get with
  | c :: rest =>
    if c = 'e' ∨ c = 'E' then
      set rest
      let negative ← readSign
      let digits ← readDigits
      return some (negative, digits)
    else return none
  | [] => return none

def readShape (negative : Bool) : Read δ Shape := do
  let whole ← readWhole
  let fraction ← readFraction
  let exponent ← readExponent
  return { negative, whole, fraction, exponent }

end

/-! ### Working out the value -/

/-- Takes digits into a significand of sixty-four bits for as long as they fit; also says
how many are left over. -/
def absorb (significand : Nat) : List Char → Nat × Nat
  | [] => (significand, 0)
  | c :: rest =>
    let next := 10 * significand + (c.toNat - '0'.toNat)
    if next < UInt64.size then absorb next rest else (significand, rest.length + 1)

def powerOfTen (n : Nat) : Float := Float.ofScientific 1 false n

/-- Divides by a power of ten, in steps that floats can hold. -/
def scaleDown (x : Float) (places : Nat) : Float :=
  if places ≤ 308 then x / powerOfTen places
  else if x == 0 then x
  else scaleDown (x / powerOfTen 308) (places - 308)
termination_by places

def scaleUp? (x : Float) (places : Nat) : Option Float :=
  if places ≤ 308 then
    let y := x * powerOfTen places
    if y.isInf then none else some y
  else if x == 0 then some x
  else none

def float? (significand : Nat) (places : Int) : Option Float :=
  let x := (UInt64.ofNat significand).toFloat
  if places < 0 then some (scaleDown x places.natAbs) else scaleUp? x places.natAbs

namespace Shape

def exponentValue (s : Shape) : Int :=
  match s.exponent with
  | none => 0
  | some (negative, digits) => if negative then -(Decimal.value digits : Int) else Decimal.value digits

/-- The value where it is an integer that fits. -/
def integer? (s : Shape) : Option Int :=
  if s.fraction = [] ∧ s.exponent = none then
    let value := Decimal.value s.whole
    if s.negative then if 0 < value ∧ value ≤ UInt64.size / 2 then some (-value) else none
    else if value < UInt64.size then some value else none
  else none

def number? (s : Shape) : Option Number :=
  match s.integer? with
  | some value => some (.integer value)
  | none =>
    let (significand, dropped) := absorb 0 s.whole
    let (significand, unused) := absorb significand s.fraction
    let places := (dropped : Int) - (s.fraction.length - unused : Nat) + s.exponentValue
    (float? significand places).map fun x => .float (if s.negative then -x else x)

end Shape

end PasswordHashing.Json
