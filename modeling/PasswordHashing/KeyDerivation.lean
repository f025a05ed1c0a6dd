import PasswordHashing.Argon2
import PasswordHashing.Error
import PasswordHashing.HashText
import PasswordHashing.Scrypt

/-!
The key derivation functions with their cost numbers. Deriving a key either fails for a
reason that the numbers or the lengths of the inputs give, or gives a key of the length
that was asked for. A secret goes into Argon2 as it is; scrypt has no place for one and
is given the code of the password under the secret instead. Main statements: a key that
was derived has its length; it has four bytes or more from Argon2, and ten to sixty-four
from scrypt, whose cost then is a power of two that fits a word. So no key is empty.
-/

namespace PasswordHashing

inductive KeyDerivation
  | argon2 (variant : Argon2.Variant) (time memory threads : UInt32)
  | scrypt (logN : UInt8) (r p : UInt32)
  deriving DecidableEq

namespace KeyDerivation

def algorithm : KeyDerivation → Algorithm
  | .argon2 variant .. => .argon2 variant
  | .scrypt .. => .scrypt

def family (f : KeyDerivation) : Family := f.algorithm.family

/-- Two to the `logN`, or the greatest word where that is no word. -/
def scryptN (logN : UInt8) : UInt64 :=
  if logN.toNat < 64 then .ofNat (1 <<< logN.toNat) else .ofNat (UInt64.size - 1)

def cost (keyLength : UInt64) : KeyDerivation → HashText.Cost
  | .argon2 _ time memory threads => .argon2 time memory threads keyLength
  | .scrypt logN r p => .scrypt (scryptN logN) r p keyLength

/-- How many zeros the binary form ends in, which is the exponent of a power of two. -/
def trailingZeros (n : UInt64) : Nat := n.toBitVec.ctz.toNat

/-- The function that an algorithm and the cost fields of its text stand for. -/
def ofCost? : Algorithm → HashText.Cost → Option KeyDerivation
  | .scrypt, .scrypt n r p _ => some (.scrypt (.ofNat (trailingZeros n)) r p)
  | .argon2 variant, .argon2 time memory threads _ => some (.argon2 variant time memory threads)
  | _, _ => none

/-- What scrypt is given in place of the password. -/
def keyedPassword (secret : Option Bytes) (password : Bytes) : Bytes :=
  match secret with
  | some secret => Hmac.code secret password
  | none => password

def derive (f : KeyDerivation) (keyLength : UInt64) (secret : Option Bytes)
    (password salt : Bytes) : Except HashingError Bytes :=
  match f with
  | .argon2 variant time memory threads =>
    let q : Argon2.Parameters := { time, memory, threads, keyLength }
    let secret := secret.getD []
    match q.refusal?, Argon2.inputRefusal? secret password salt with
    | some refusal, _ => .error (.argon2 ("Invalid Argon2 parameters: " ++ refusal.message))
    | none, some refusal => .error (.argon2 refusal.message)
    | none, none => .ok (Argon2.derive variant q secret password salt)
  | .scrypt logN r p =>
    let q : Scrypt.Parameters := { logN, r, p, keyLength }
    if q.Accepted then .ok (Scrypt.derive q (keyedPassword secret password) salt)
    else .error (.scrypt ("Invalid scrypt parameters: " ++ Scrypt.refusalMessage))

theorem length_of_derive {f : KeyDerivation} {keyLength : UInt64} {secret : Option Bytes}
    {password salt key : Bytes} (h : f.derive keyLength secret password salt = .ok key) :
    key.length = keyLength.toNat := by
  cases f with
  | argon2 variant time memory threads =>
    simp only [derive] at h
    split at h <;> cases h
    simp
  | scrypt logN r p =>
    simp only [derive] at h
    split at h <;> cases h
    simp

/-! ### What a derived key says of the numbers -/

section

variable {keyLength : UInt64} {secret : Option Bytes} {password salt key : Bytes}

theorem refusal?_of_derive {variant : Argon2.Variant} {time memory threads : UInt32}
    (h : (argon2 variant time memory threads).derive keyLength secret password salt = .ok key) :
    Argon2.Parameters.refusal? { time, memory, threads, keyLength } = none := by
  cases hrefusal : Argon2.Parameters.refusal? { time, memory, threads, keyLength } with
  | none => rfl
  | some refusal =>
      simp only [derive, hrefusal] at h
      cases h

theorem accepted_of_derive {logN : UInt8} {r p : UInt32}
    (h : (scrypt logN r p).derive keyLength secret password salt = .ok key) :
    Scrypt.Parameters.Accepted { logN, r, p, keyLength } := by
  apply Decidable.byContradiction
  intro hrefused
  rw [derive, if_neg hrefused] at h
  cases h

theorem argon2_keyLength_of_derive {variant : Argon2.Variant} {time memory threads : UInt32}
    (h : (argon2 variant time memory threads).derive keyLength secret password salt = .ok key) :
    4 ≤ keyLength.toNat :=
  Argon2.Parameters.four_le_keyLength (refusal?_of_derive h)

theorem scrypt_keyLength_of_derive {logN : UInt8} {r p : UInt32}
    (h : (scrypt logN r p).derive keyLength secret password salt = .ok key) :
    10 ≤ keyLength.toNat ∧ keyLength.toNat ≤ 64 := by
  obtain ⟨-, -, -, hten, hsixtyFour, -⟩ := accepted_of_derive h
  exact ⟨hten, hsixtyFour⟩

theorem logN_lt_of_derive {logN : UInt8} {r p : UInt32}
    (h : (scrypt logN r p).derive keyLength secret password salt = .ok key) : logN.toNat < 64 :=
  (accepted_of_derive h).2.2.1

/-- No function derives an empty key. -/
theorem keyLength_pos_of_derive {f : KeyDerivation}
    (h : f.derive keyLength secret password salt = .ok key) : 0 < keyLength.toNat := by
  cases f with
  | argon2 variant time memory threads =>
      have hfour := argon2_keyLength_of_derive h
      omega
  | scrypt logN r p =>
      have hten := (scrypt_keyLength_of_derive h).1
      omega

end

end KeyDerivation

end PasswordHashing
