import PasswordHashing.Algorithm
import PasswordHashing.HashText.Error
import PasswordHashing.Text.Decimal

/-!
The cost numbers a hash text carries, as four decimal fields. They decide how much work
a verifier does, so each has a ceiling, and so has the working memory that they ask for;
the ceilings lie far above every built-in profile. Numbers are read before any ceiling is
looked at, the key length first.
-/

namespace PasswordHashing.HashText

/-- The memory of Argon2 is counted in KiB. -/
inductive Cost
  | scrypt (n : UInt64) (r p : UInt32) (keyLength : UInt64)
  | argon2 (time memory threads : UInt32) (keyLength : UInt64)
  deriving DecidableEq

namespace Cost

def family : Cost → Family
  | .scrypt .. => .scrypt
  | .argon2 .. => .argon2

def keyLength : Cost → UInt64
  | .scrypt _ _ _ keyLength => keyLength
  | .argon2 _ _ _ keyLength => keyLength

/-! ### Ceilings -/

/-- One GiB. -/
def maxMemoryBytes : UInt64 := 1073741824

/-- Two to the twenty-fourth. -/
def scryptMaxN : UInt64 := 16777216

def scryptMaxR : UInt32 := 32

def scryptMaxP : UInt32 := 16

def scryptMaxKeyLength : UInt64 := 64

def argon2MaxTime : UInt32 := 64

def argon2MaxThreads : UInt32 := 64

def argon2MaxKeyLength : UInt64 := 1024

/-- The bytes that scrypt works on: `128 * r` for each of its `n` blocks. -/
def scryptMemory (n : UInt64) (r : UInt32) : UInt64 := 128 * r.toUInt64 * n

def argon2Memory (memory : UInt32) : UInt64 := memory.toUInt64 * 1024

/-- The first field above its ceiling. The memory of scrypt is computed only once `n`
and `r` are known to be below theirs. -/
def overrun? : Cost → Option CostField
  | .scrypt n r p keyLength =>
    if scryptMaxN < n then some .n
    else if scryptMaxR < r then some .r
    else if scryptMaxP < p then some .p
    else if scryptMaxKeyLength < keyLength then some .keyLength
    else if maxMemoryBytes < scryptMemory n r then some .memory
    else none
  | .argon2 time memory threads keyLength =>
    if argon2MaxTime < time then some .time
    else if maxMemoryBytes < argon2Memory memory then some .memory
    else if argon2MaxThreads < threads then some .threads
    else if argon2MaxKeyLength < keyLength then some .keyLength
    else none

/-! ### Reading and writing -/

def number64 (field : CostField) (text : String) : Except ParseError UInt64 :=
  match Decimal.read64? text.toList with
  | some n => .ok n
  | none => .error (.number field)

def number32 (field : CostField) (text : String) : Except ParseError UInt32 :=
  match Decimal.read32? text.toList with
  | some n => .ok n
  | none => .error (.number field)

/-- Whether `n` is a power of two greater than one. -/
def isScryptN (n : UInt64) : Bool := 2 ≤ n.toNat && 1 <<< n.toNat.log2 == n.toNat

def checked (cost : Cost) : Except ParseError Cost :=
  match cost.overrun? with
  | some field => .error (.costLimit field)
  | none => .ok cost

def read (family : Family) (a b c keyLength : String) : Except ParseError Cost := do
  let keyLength ← number64 .keyLength keyLength
  match family with
  | .scrypt =>
    let n ← number64 .n a
    if !isScryptN n then .error .scryptCost
    let r ← number32 .r b
    let p ← number32 .p c
    checked (.scrypt n r p keyLength)
  | .argon2 =>
    let time ← number32 .time a
    let memory ← number32 .memory b
    let threads ← number32 .threads c
    checked (.argon2 time memory threads keyLength)
  | .bcrypt => .error .unknownAlgorithm

def write : Cost → List String
  | .scrypt n r p keyLength => [n.toNat.repr, r.toNat.repr, p.toNat.repr, keyLength.toNat.repr]
  | .argon2 time memory threads keyLength =>
    [time.toNat.repr, memory.toNat.repr, threads.toNat.repr, keyLength.toNat.repr]

end Cost

end PasswordHashing.HashText
