/-!
The text of a float with the fewest digits that read back as it. A finite float is a
natural number times a power of two, and the reals that round to it are an interval around
it whose ends belong to it just when the number is even. On the grid of decimals with one
digit, then two, and so on, the two neighbours of the value are tried; the first grid with
a neighbour in the interval gives the digits, the nearer one if both are.
-/

namespace PasswordHashing.Shortest

/-- A positive value `mantissa * 2 ^ exponent`. Where `isBoundary` holds, the float below is
only half as far away as the one above. -/
structure Binary where
  mantissa : Nat
  exponent : Int
  isBoundary : Bool
  deriving DecidableEq

/-- The digits of `digits * 10 ^ exponent`. -/
structure Decimal where
  digits : Nat
  exponent : Int
  deriving DecidableEq

def Binary.ofBits (bits : Nat) : Binary :=
  let unit : Nat := 1 <<< 52
  let field : Nat := bits / unit % 2048
  let fraction : Nat := bits % unit
  if field = 0 then ⟨fraction, -1074, false⟩
  else ⟨unit + fraction, (field : Int) - 1075, fraction = 0 ∧ 1 < field⟩

/-- Four times the value, and the ends of its interval in the same measure, all over one
denominator. -/
structure Interval where
  low : Nat
  value : Nat
  high : Nat
  denominator : Nat
  closed : Bool

def Binary.interval (b : Binary) : Interval :=
  let scale := 1 <<< b.exponent.toNat
  { low := (4 * b.mantissa - if b.isBoundary then 1 else 2) * scale
    value := 4 * b.mantissa * scale
    high := (4 * b.mantissa + 2) * scale
    denominator := 4 <<< (-b.exponent).toNat
    closed := b.mantissa % 2 = 0 }

/-- One, where the exponent is negative: that power scales the other side of a comparison. -/
def powerOfTen (exponent : Int) : Nat := Nat.pow 10 exponent.toNat

/-- Whether `digits * 10 ^ exponent` rounds to the value. -/
def Interval.holds (i : Interval) (d : Decimal) : Bool :=
  let x := d.digits * powerOfTen d.exponent * i.denominator
  let scale := powerOfTen (-d.exponent)
  if i.closed then i.low * scale ≤ x && x ≤ i.high * scale
  else i.low * scale < x && x < i.high * scale

/-- The neighbour of the value that is nearest on the grid of `10 ^ exponent`, if it rounds
to the value, and else the other one. -/
def Interval.onGrid? (i : Interval) (exponent : Int) : Option Decimal :=
  let numerator := i.value * powerOfTen (-exponent)
  let denominator := i.denominator * powerOfTen exponent
  let below := numerator / denominator
  let down : Decimal := ⟨below, exponent⟩
  let up : Decimal := ⟨below + 1, exponent⟩
  let remainder := numerator % denominator
  let upFirst := denominator < 2 * remainder ∨ denominator = 2 * remainder ∧ below % 2 = 1
  (if upFirst then [up, down] else [down, up]).find? fun d => 0 < d.digits && i.holds d

/-- The exponent of the first digit of a positive quotient, looked for from `guess` upwards. -/
def leadingExponent (numerator denominator : Nat) : Nat → Int → Int
  | 0, guess => guess
  | fuel + 1, guess =>
    if numerator * powerOfTen (-(guess + 1)) < denominator * powerOfTen (guess + 1) then guess
    else leadingExponent numerator denominator fuel (guess + 1)

/-- The upper neighbour of nine is ten, which has its digit one place further up. -/
def Decimal.carry (d : Decimal) : Decimal :=
  if d.digits % 10 = 0 then ⟨d.digits / 10, d.exponent + 1⟩ else d

/-- Seventeen digits are always enough. -/
def digits (b : Binary) : Decimal :=
  let i := b.interval
  let leading := leadingExponent i.value i.denominator 700 (-330)
  (((List.range 17).findSome? fun n : Nat => i.onGrid? (leading - n)).getD ⟨b.mantissa, 0⟩).carry

/-! ### Layout -/

/-- The exponents of the first digit between which notation is positional. -/
structure Layout where
  minPositional : Int
  maxPositional : Int

def layDigits (l : Layout) (d : Decimal) : String :=
  let text := d.digits.repr
  let first := d.exponent + text.length - 1
  if l.minPositional ≤ first ∧ first ≤ l.maxPositional then
    if 0 ≤ d.exponent then text ++ String.ofList (List.replicate d.exponent.toNat '0') ++ ".0"
    else if 0 ≤ first then
      String.ofList (text.toList.take (first.toNat + 1)) ++ "." ++
        String.ofList (text.toList.drop (first.toNat + 1))
    else "0." ++ String.ofList (List.replicate (-first - 1).toNat '0') ++ text
  else
    let tail := String.ofList (text.toList.drop 1)
    String.ofList (text.toList.take 1) ++ (if tail.isEmpty then "" else "." ++ tail) ++
      (if first < 0 then "e-" else "e+") ++ first.natAbs.repr

def write (l : Layout) (x : Float) : String :=
  let bits := x.toBits.toNat
  let signBit : Nat := 1 <<< 63
  let sign := if signBit ≤ bits then "-" else ""
  let b := Binary.ofBits (bits % signBit)
  sign ++ if b.mantissa = 0 then "0.0" else layDigits l (digits b)

end PasswordHashing.Shortest
