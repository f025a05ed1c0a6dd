import PasswordHashing.Argon2.Parameters

/-!
The algorithms a hash text can name. Four identifiers stand for bcrypt, and the one
written for it is `2b`; every other algorithm has one identifier. Bcrypt is the only
one that is no key derivation function: its texts carry neither a salt field nor cost
fields of their own.
-/

namespace PasswordHashing

inductive Family
  | argon2
  | scrypt
  | bcrypt
  deriving DecidableEq

def Family.name : Family → String
  | .argon2 => "argon2"
  | .scrypt => "scrypt"
  | .bcrypt => "bcrypt"

inductive Algorithm
  | bcrypt
  | scrypt
  | argon2 (variant : Argon2.Variant)
  deriving DecidableEq

namespace Algorithm

def family : Algorithm → Family
  | .bcrypt => .bcrypt
  | .scrypt => .scrypt
  | .argon2 _ => .argon2

def bcryptIdentifiers : List String := ["2a", "2b", "2x", "2y"]

def identifier : Algorithm → String
  | .bcrypt => "2b"
  | .scrypt => "2s"
  | .argon2 .i => "2i"
  | .argon2 .id => "2id"

def ofIdentifier? (text : String) : Option Algorithm :=
  if text = "2s" then some .scrypt
  else if text = "2i" then some (.argon2 .i)
  else if text = "2id" then some (.argon2 .id)
  else if text ∈ bcryptIdentifiers then some .bcrypt
  else none

def isKeyDerivation (a : Algorithm) : Bool := a != .bcrypt

theorem ofIdentifier?_identifier (a : Algorithm) : ofIdentifier? a.identifier = some a := by
  rcases a with _ | _ | ⟨_ | _⟩ <;> rfl

end Algorithm

end PasswordHashing
