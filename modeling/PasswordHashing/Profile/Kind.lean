/-!
The kinds of profile: two built-in ones for each family, one for interactive logins and
one for long-term storage, and one for parameters that the caller chose.
-/

namespace PasswordHashing

inductive ProfileKind
  | argon2idDefault
  | argon2idParanoid
  | scryptDefault
  | scryptParanoid
  | bcryptDefault
  | bcryptParanoid
  | argon2Custom
  | scryptCustom
  | bcryptCustom
  deriving DecidableEq

namespace ProfileKind

def builtin : List ProfileKind :=
  [.argon2idDefault, .argon2idParanoid, .scryptDefault, .scryptParanoid, .bcryptDefault,
    .bcryptParanoid]

def all : List ProfileKind := builtin ++ [.argon2Custom, .scryptCustom, .bcryptCustom]

def name : ProfileKind → String
  | .argon2idDefault => "argon2id-default"
  | .argon2idParanoid => "argon2id-paranoid"
  | .scryptDefault => "scrypt-default"
  | .scryptParanoid => "scrypt-paranoid"
  | .bcryptDefault => "bcrypt-default"
  | .bcryptParanoid => "bcrypt-paranoid"
  | .argon2Custom => "argon2-custom"
  | .scryptCustom => "scrypt-custom"
  | .bcryptCustom => "bcrypt-custom"

def named? (name : String) : Option ProfileKind := all.find? (·.name = name)

def isCustom : ProfileKind → Bool
  | .argon2Custom | .scryptCustom | .bcryptCustom => true
  | _ => false

/-- Bcrypt has no text without its cost. -/
def supportsMasking : ProfileKind → Bool
  | .bcryptDefault | .bcryptParanoid | .bcryptCustom => false
  | _ => true

theorem named?_name (kind : ProfileKind) : named? kind.name = some kind := by
  cases kind <;> decide

end ProfileKind

end PasswordHashing
