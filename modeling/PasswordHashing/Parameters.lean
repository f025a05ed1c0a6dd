import PasswordHashing.Bcrypt
import PasswordHashing.Event
import PasswordHashing.KeyDerivation

/-!
The parameters that a profile hashes and verifies with. For a key derivation these are the
function and its cost numbers, the lengths of key and salt, whether the cost stays out of
the text, and what a profile picks up later: a secret, and a salt pinned by a derivation.
Bcrypt has its cost and nothing else. A salt that has to be fresh is an argument here, and
`freshSaltLength` says how many bytes of it an operation wants.
-/

namespace PasswordHashing

structure KeySettings where
  function : KeyDerivation
  keyLength : UInt64
  saltLength : UInt64 := 16
  masked : Bool := false
  pinnedSalt : Option Bytes := none
  secret : Option Bytes := none
  deriving DecidableEq

namespace KeySettings

def algorithm (s : KeySettings) : Algorithm := s.function.algorithm

def family (s : KeySettings) : Family := s.function.family

theorem family_ne_bcrypt (s : KeySettings) : s.family ≠ .bcrypt := by
  unfold family KeyDerivation.family
  cases s.function <;> exact nofun

def cost (s : KeySettings) : HashText.Cost := s.function.cost s.keyLength

/-- The settings that the text of a hash describes, where it has cost fields. -/
def ofHash? (hash : KeyHash) : Option KeySettings := do
  let cost ← hash.cost
  let function ← KeyDerivation.ofCost? hash.algorithm cost
  some { function, keyLength := cost.keyLength }

def digest (s : KeySettings) (password salt : Bytes) : Except HashingError Bytes :=
  s.function.derive s.keyLength s.secret password salt

/-- The hash of a password and the digest it has with a salt. -/
def hashOf (s : KeySettings) (salt digest : Bytes) : KeyHash where
  algorithm := s.algorithm
  salt := salt
  cost := if s.masked then none else some s.cost
  digest := digest

def hash (s : KeySettings) (password fresh : Bytes) : Except HashingError String :=
  let salt := s.pinnedSalt.getD fresh
  (s.digest password salt).map fun digest => (s.hashOf salt digest).encode

/-- Only the algorithm, the salt and the digest of the hash are looked at. -/
def verify (s : KeySettings) (hash : KeyHash) (password : Bytes) : Outcome Unit :=
  if hash.algorithm = s.algorithm then
    match s.digest password hash.salt with
    | .ok digest => .ofAnswer (hash.digest == digest)
    | .error e => .mismatch [.recomputationFailed s.family e]
  else .mismatch [.foreignAlgorithm s.family hash.algorithm]

end KeySettings

namespace Bcrypt

def hashText (cost : UInt32) (password fresh : Bytes) : Except HashingError String :=
  if maxPasswordLength < password.length then
    .error (.bcrypt ("password exceeds " ++ maxPasswordLength.repr ++ " bytes"))
  else if cost.toNat < minCost ∨ maxCost < cost.toNat then
    .error (.bcrypt ("Cost needs to be between " ++ minCost.repr ++ " and " ++ maxCost.repr ++
      ", got " ++ cost.toNat.repr))
  else .ok (hash cost.toNat fresh password).write

/-- Cost and salt come from the text. -/
def verify (text : String) (password : Bytes) : Outcome Unit :=
  if maxPasswordLength < password.length then .mismatch [.bcryptPasswordTooLong]
  else
    match verify? text password with
    | some answer => .ofAnswer answer
    | none => .mismatch [.bcryptTextRejected]

end Bcrypt

inductive Parameters
  | key (settings : KeySettings)
  | bcrypt (cost : UInt32)
  deriving DecidableEq

namespace Parameters

def family : Parameters → Family
  | .key s => s.family
  | .bcrypt _ => .bcrypt

def isMasked : Parameters → Bool
  | .key s => s.masked
  | .bcrypt _ => false

def isKeyed : Parameters → Bool
  | .key s => s.secret.isSome
  | .bcrypt _ => false

def pinnedSalt : Parameters → Option Bytes
  | .key s => s.pinnedSalt
  | .bcrypt _ => none

def freshSaltLength : Parameters → Nat
  | .key s => if s.pinnedSalt.isSome then 0 else s.saltLength.toNat
  | .bcrypt _ => Bcrypt.saltLength

def hash (p : Parameters) (password fresh : Bytes) : Except HashingError String :=
  match p with
  | .key s => s.hash password fresh
  | .bcrypt cost => Bcrypt.hashText cost password fresh

end Parameters

end PasswordHashing
