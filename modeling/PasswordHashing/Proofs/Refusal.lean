import Mathlib.Algebra.Group.Nat.Defs
import PasswordHashing.Parameters

/-!
What a derivation is refused for. Argon2 looks at its numbers first and then at the lengths of
its inputs, scrypt looks at its numbers only, and neither looks at what the inputs hold. Main
statement: for a password and a secret of fewer than 2 ^ 32 bytes, whether a derivation fails
and what it fails with is decided by the numbers and the length of the salt.
-/

namespace PasswordHashing

/-- What a computation failed with, if it failed. -/
def errorOf? {α : Type} : Except HashingError α → Option HashingError
  | .ok _ => none
  | .error e => some e

@[simp] theorem errorOf?_ok {α : Type} (a : α) : errorOf? (.ok a) = none := rfl

@[simp] theorem errorOf?_error {α : Type} (e : HashingError) :
    errorOf? (.error e : Except HashingError α) = some e := rfl

@[simp] theorem errorOf?_map {α β : Type} (f : α → β) (x : Except HashingError α) :
    errorOf? (x.map f) = errorOf? x := by
  cases x <;> rfl

theorem errorOf?_eq_some_iff {α : Type} {x : Except HashingError α} {e : HashingError} :
    errorOf? x = some e ↔ x = .error e := by
  cases x <;> simp

/-- Of a length that no function refuses in a password or a secret. -/
def Bytes.Short (bytes : Bytes) : Prop := bytes.length < 2 ^ 32

instance (bytes : Bytes) : Decidable bytes.Short := inferInstanceAs (Decidable (_ < _))

theorem Bytes.Short.le {bytes : Bytes} (h : bytes.Short) :
    bytes.length ≤ Argon2.maxInputLength :=
  Nat.le_of_lt_succ h

/-- No secret counts as an empty one. -/
theorem Bytes.short_getD {secret : Option Bytes} (h : ∀ b ∈ secret, b.Short) :
    (secret.getD []).Short := by
  cases secret with
  | none => exact Nat.two_pow_pos 32
  | some b => exact h b rfl

namespace Argon2

def saltRefusal? (saltLength : Nat) : Option Refusal :=
  if saltLength < minSaltLength then some .saltTooShort
  else if maxInputLength < saltLength then some .saltTooLong
  else none

theorem inputRefusal?_of_short {secret password : Bytes} (salt : Bytes) (hsecret : secret.Short)
    (hpassword : password.Short) :
    inputRefusal? secret password salt = saltRefusal? salt.length := by
  rw [inputRefusal?, if_neg (Nat.not_lt.2 hsecret.le), if_neg (Nat.not_lt.2 hpassword.le)]
  rfl

end Argon2

namespace KeyDerivation

/-- What the function refuses a key length, its numbers and a salt of some length for. -/
def refusal? (keyLength : UInt64) (saltLength : Nat) : KeyDerivation → Option HashingError
  | .argon2 _ time memory threads =>
    let q : Argon2.Parameters := { time, memory, threads, keyLength }
    match q.refusal?, Argon2.saltRefusal? saltLength with
    | some refusal, _ => some (.argon2 ("Invalid Argon2 parameters: " ++ refusal.message))
    | none, some refusal => some (.argon2 refusal.message)
    | none, none => none
  | .scrypt logN r p =>
    let q : Scrypt.Parameters := { logN, r, p, keyLength }
    if q.Accepted then none
    else some (.scrypt ("Invalid scrypt parameters: " ++ Scrypt.refusalMessage))

variable {secret : Option Bytes} {password : Bytes}

/-- A derivation fails with what its numbers and the length of its salt are refused for. -/
theorem errorOf?_derive (f : KeyDerivation) (keyLength : UInt64) (salt : Bytes)
    (hsecret : ∀ b ∈ secret, b.Short) (hpassword : password.Short) :
    errorOf? (f.derive keyLength secret password salt) = f.refusal? keyLength salt.length := by
  cases f with
  | argon2 variant time memory threads =>
      have hinput := Argon2.inputRefusal?_of_short salt (Bytes.short_getD hsecret) hpassword
      simp only [derive, refusal?, hinput]
      cases Argon2.Parameters.refusal? { time, memory, threads, keyLength } with
      | some refusal => rfl
      | none => cases Argon2.saltRefusal? salt.length <;> rfl
  | scrypt logN r p =>
      simp only [derive, refusal?]
      split <;> rfl

theorem exists_key_of_refusal?_eq_none {f : KeyDerivation} {keyLength : UInt64} {salt : Bytes}
    (hsecret : ∀ b ∈ secret, b.Short) (hpassword : password.Short)
    (h : f.refusal? keyLength salt.length = none) :
    ∃ key, f.derive keyLength secret password salt = .ok key := by
  rw [← f.errorOf?_derive keyLength salt hsecret hpassword] at h
  cases hderive : f.derive keyLength secret password salt with
  | ok key => exact ⟨key, rfl⟩
  | error e =>
      rw [hderive] at h
      cases h

end KeyDerivation

namespace Parameters

/-- What a derivation is refused for by its parameters, with a salt of some length. -/
def refusal? (p : Parameters) (saltLength : Nat) : Option HashingError :=
  match p with
  | .key s => s.function.refusal? s.keyLength saltLength
  | .bcrypt _ => some .unsupported

def secret? : Parameters → Option Bytes
  | .key s => s.secret
  | .bcrypt _ => none

end Parameters

end PasswordHashing
