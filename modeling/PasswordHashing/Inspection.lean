import PasswordHashing.Profile
import PasswordHashing.Text.Outline
import PasswordHashing.Text.Quoted

/-!
Outlines of profiles, parameters and errors, for those who look into a running program. A
pinned salt is shown in hexadecimal; of a secret nothing is shown but that there is one.
-/

namespace PasswordHashing

def HashingError.outline : HashingError → Outline
  | .unsupported => .leaf "Unsupported"
  | .mismatch => .leaf "Mismatch"
  | .argon2 detail => .tuple "Argon2" [.leaf (Quoted.quote detail)]
  | .scrypt detail => .tuple "Scrypt" [.leaf (Quoted.quote detail)]
  | .bcrypt detail => .tuple "Bcrypt" [.leaf (Quoted.quote detail)]

def ProfileKind.label : ProfileKind → String
  | .argon2idDefault => "Argon2idDefault"
  | .argon2idParanoid => "Argon2idParanoid"
  | .scryptDefault => "ScryptDefault"
  | .scryptParanoid => "ScryptParanoid"
  | .bcryptDefault => "BcryptDefault"
  | .bcryptParanoid => "BcryptParanoid"
  | .argon2Custom => "Argon2Custom"
  | .scryptCustom => "ScryptCustom"
  | .bcryptCustom => "BcryptCustom"

def Argon2.Variant.label : Argon2.Variant → String
  | .i => "Argon2i"
  | .id => "Argon2id"

namespace KeySettings

/-- What the two families have in common. -/
def commonFields (s : KeySettings) : List (String × Outline) :=
  [("key_len", .nat s.keyLength.toNat), ("salt_len", .nat s.saltLength.toNat),
    ("masked", .bool s.masked),
    ("salt", .option (s.pinnedSalt.map fun salt => .leaf (Quoted.quote salt.toHex))),
    ("secret", .option (s.secret.map fun _ => .leaf (Quoted.quote "<redacted>")))]

def outline (s : KeySettings) : Outline :=
  match s.function with
  | .argon2 variant time memory threads =>
    .tuple "Argon2" [.record "Argon2Params" ([("variant", .leaf variant.label),
      ("time", .nat time.toNat), ("memory", .nat memory.toNat), ("threads", .nat threads.toNat)] ++
      s.commonFields)]
  | .scrypt logN r p =>
    .tuple "Scrypt" [.record "ScryptParams" ([("log_n", .nat logN.toNat), ("r", .nat r.toNat),
      ("p", .nat p.toNat)] ++ s.commonFields)]

end KeySettings

def Parameters.outline : Parameters → Outline
  | .key s => s.outline
  | .bcrypt cost => .tuple "Bcrypt" [.record "BcryptParams" [("cost", .nat cost.toNat)]]

def Profile.outline (p : Profile) : Outline :=
  .record "Profile" [("kind", .leaf p.kind.label), ("params", p.parameters.outline)]

end PasswordHashing
