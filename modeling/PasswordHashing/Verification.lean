import PasswordHashing.Parameters

/-!
Checking a password against a hash text, either with what the text says of itself or with
parameters that the caller holds. Whatever goes wrong on the way, a text that cannot be
read included, the answer is a mismatch; the reason only goes into the log.
-/

namespace PasswordHashing

open HashText

/-- A masked text does not say enough to be checked on its own. -/
def comparePublic (hash : KeyHash) (password : Bytes) : Outcome Unit :=
  if hash.isMasked then .mismatch [.maskedNeedsProfile hash.algorithm]
  else
    match KeySettings.ofHash? hash with
    | some s => s.verify hash password
    | none => .mismatch []

/-- Checks a password against a text that describes itself and was made without a secret. -/
def compare (text : String) (password : Bytes) : Outcome Unit :=
  match parse text with
  | .error e => .mismatch [.parseRejected e]
  | .ok (.bcrypt text) => Bcrypt.verify text password
  | .ok (.key hash) => comparePublic hash password

/-- Checks a password with the caller's parameters; the text gives salt and digest. -/
def Parameters.compare (p : Parameters) (text : String) (password : Bytes) : Outcome Unit :=
  match parse text with
  | .error e => .mismatch [.parseRejected e]
  | .ok hash =>
    match p, hash with
    | .bcrypt _, .bcrypt text => Bcrypt.verify text password
    | .key s, .key hash => s.verify hash password
    | p, hash => .mismatch [.otherFamily p.family hash.algorithm]

end PasswordHashing
