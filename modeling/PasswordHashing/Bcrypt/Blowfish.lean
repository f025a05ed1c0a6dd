import PasswordHashing.Bytes

/-!
The Blowfish cipher with the costly key schedule of bcrypt. Subkeys and boxes start as the
fraction of π in words of thirty-two bits; the schedule encrypts its own output over and
over and replaces every one of them.
-/

namespace PasswordHashing.Bcrypt

/-! ### The fraction of π -/

/-- The sum of `power / (2 * k + 1)` with alternating signs, where `power` shrinks by
`square` from term to term. -/
def alternatingSum (square : Nat) (power k : Nat) : Nat :=
  if power = 0 ∨ square ≤ 1 then 0
  else power / (2 * k + 1) - alternatingSum square (power / square) (k + 1)
termination_by power
decreasing_by exact Nat.div_lt_self (by omega) (by omega)

/-- The inverse tangent of `1 / x` in units of `1 / unit`. -/
def inverseTangent (unit x : Nat) : Nat := alternatingSum (x * x) (unit / x) 0

/-- Binary places of π that are kept, and sixty-four more against rounding. -/
def piPlaces : Nat := 1042 * 32

def piUnit : Nat := 1 <<< (piPlaces + 64)

/-- By Machin's formula, `π / 4` is four times the inverse tangent of `1 / 5` less that of
`1 / 239`. -/
def piFraction : Nat :=
  (4 * (4 * inverseTangent piUnit 5 - inverseTangent piUnit 239) - 3 * piUnit) >>> 64

/-- The word `i` of the fraction. -/
def piWord (i : Nat) : UInt32 := .ofNat (piFraction >>> (piPlaces - 32 * (i + 1)))

/-! ### The cipher -/

structure Schedule where
  subkeys : Vector UInt32 18
  boxes : Vector UInt32 1024

def initialSchedule : Schedule where
  subkeys := Vector.ofFn fun i => piWord i
  boxes := Vector.ofFn fun i => piWord (18 + i)

/-- Two words, encrypted together. -/
structure Pair where
  left : UInt32
  right : UInt32

def boxIndex (box : Fin 4) (byte : UInt8) : Fin 1024 :=
  ⟨256 * box + byte.toNat, by have := byte.toNat_lt; omega⟩

/-- One byte of the word picks an entry from each of the four boxes. -/
def Schedule.substitute (s : Schedule) (w : UInt32) : UInt32 :=
  ((s.boxes[boxIndex 0 (w >>> 24).toUInt8] + s.boxes[boxIndex 1 (w >>> 16).toUInt8]) ^^^
    s.boxes[boxIndex 2 (w >>> 8).toUInt8]) + s.boxes[boxIndex 3 w.toUInt8]

def Schedule.encrypt (s : Schedule) (x : Pair) : Pair :=
  let y := Nat.fold 16 (fun i _ (y : Pair) =>
    let left := y.left ^^^ s.subkeys[i]
    ⟨y.right ^^^ s.substitute left, left⟩) x
  ⟨y.right ^^^ s.subkeys[17], y.left ^^^ s.subkeys[16]⟩

/-! ### The key schedule -/

/-- The word `i` of a byte string that is repeated without end. -/
def cyclicWord (bytes : Array UInt8) (i : Nat) : UInt32 :=
  let byte := fun k => bytes.getD ((4 * i + k) % bytes.size) 0
  word32 (byte 0) (byte 1) (byte 2) (byte 3)

/-- The words of a salt that is repeated without end, for the pair with number `i`. -/
def saltPair (salt : Array UInt32) (i : Nat) : Pair :=
  ⟨salt.getD (2 * i % salt.size) 0, salt.getD ((2 * i + 1) % salt.size) 0⟩

/-- Adds the key to the subkeys, and then replaces subkeys and boxes pair by pair with what
the schedule so far makes of the pair before and of the salt. -/
def Schedule.expand (s : Schedule) (key salt : Array UInt32) : Schedule :=
  let s := { s with subkeys := s.subkeys.mapFinIdx fun i w _ => w ^^^ key.getD i 0 }
  let step := fun (i : Nat) (s : Schedule) (x : Pair) =>
    let y := saltPair salt i
    s.encrypt ⟨x.left ^^^ y.left, x.right ^^^ y.right⟩
  let keyed := Nat.fold 9 (fun i _ (acc : Schedule × Pair) =>
    let x := step i acc.1 acc.2
    ({ acc.1 with subkeys := (acc.1.subkeys.set (2 * i) x.left).set (2 * i + 1) x.right }, x))
    (s, Pair.mk 0 0)
  (Nat.fold 512 (fun i _ (acc : Schedule × Pair) =>
    let x := step (9 + i) acc.1 acc.2
    ({ acc.1 with boxes := (acc.1.boxes.set (2 * i) x.left).set (2 * i + 1) x.right }, x))
    keyed).1

/-- One expansion by key and salt together, and `2 ^ cost` by each in turn. -/
def costlySchedule (cost : Nat) (key salt : Bytes) : Schedule :=
  let keyWords := (Array.range 18).map (cyclicWord key.toArray)
  let saltWords := (Array.range 4).map (cyclicWord salt.toArray)
  let saltAsKey := (Array.range 18).map (cyclicWord salt.toArray)
  Nat.fold (1 <<< cost) (fun _ _ s => (s.expand keyWords #[0]).expand saltAsKey #[0])
    (initialSchedule.expand keyWords saltWords)

end PasswordHashing.Bcrypt
