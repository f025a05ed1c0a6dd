/-!
What an operation fails with. A comparison only ever fails with `mismatch`, so that a
caller learns nothing about why; hashing and deriving pass on what the algorithm had to
say.
-/

namespace PasswordHashing

inductive HashingError
  | unsupported
  | mismatch
  | argon2 (detail : String)
  | scrypt (detail : String)
  | bcrypt (detail : String)
  deriving DecidableEq

namespace HashingError

def message : HashingError → String
  | .unsupported => "Unsupported operation for this hash profile"
  | .mismatch => "Password verification failed"
  | .argon2 detail => "Argon2 error: " ++ detail
  | .scrypt detail => "Scrypt error: " ++ detail
  | .bcrypt detail => "Bcrypt error: " ++ detail

/-- Whether the error came from one of the algorithms. -/
def isAlgorithmError : HashingError → Bool
  | .unsupported => false
  | .mismatch => false
  | .argon2 _ => true
  | .scrypt _ => true
  | .bcrypt _ => true

end HashingError

end PasswordHashing
