import PasswordHashing.Profile.Kind
import PasswordHashing.Verification

/-!
Profiles: a kind and the parameters that belong to it. A profile changes only by getting a
secret and by deriving a key, which pins the salt it was derived with; an operation that
fails leaves it as it was. Bcrypt takes no secret and derives no keys. Where no salt is
pinned a hash is made with one that is drawn from a source of random bytes.
-/

namespace PasswordHashing

structure Profile where
  kind : ProfileKind
  parameters : Parameters
  deriving DecidableEq

/-- Gives random bytes, as many as it is asked for. -/
structure RandomSource where
  draw : Nat → Bytes
  length_draw : ∀ n, (draw n).length = n

/-- The parameters of a built-in kind. -/
def ProfileKind.preset? : ProfileKind → Option Parameters
  | .argon2idDefault => some (.key { function := .argon2 .id 1 65536 4, keyLength := 32 })
  | .argon2idParanoid =>
    some (.key { function := .argon2 .id 4 131072 4, keyLength := 64, saltLength := 32 })
  | .scryptDefault => some (.key { function := .scrypt 15 8 1, keyLength := 32 })
  | .scryptParanoid => some (.key { function := .scrypt 17 8 1, keyLength := 64, saltLength := 32 })
  | .bcryptDefault => some (.bcrypt 12)
  | .bcryptParanoid => some (.bcrypt 14)
  | .argon2Custom | .scryptCustom | .bcryptCustom => none

/-- The kind of profile that holds parameters of the caller's choice. -/
def Family.customKind : Family → ProfileKind
  | .argon2 => .argon2Custom
  | .scrypt => .scryptCustom
  | .bcrypt => .bcryptCustom

namespace Profile

/-! ### Making profiles -/

def ofKind (kind : ProfileKind) : Except HashingError Profile :=
  match kind.preset? with
  | some parameters => .ok { kind, parameters }
  | none => .error .unsupported

def ofKindMasked (kind : ProfileKind) : Except HashingError Profile :=
  match kind.preset? with
  | some (.key s) => .ok { kind, parameters := .key { s with masked := true } }
  | _ => .error .unsupported

def custom (parameters : Parameters) : Profile := { kind := parameters.family.customKind, parameters }

/-! ### Using them -/

def isMasked (p : Profile) : Bool := p.parameters.isMasked

def isKeyed (p : Profile) : Bool := p.parameters.isKeyed

def setSecret (p : Profile) (secret : Bytes) : Except HashingError Unit × Profile :=
  match p.parameters with
  | .key s => (.ok (), { p with parameters := .key { s with secret := some secret } })
  | .bcrypt _ => (.error .unsupported, p)

def derive (p : Profile) (password salt : Bytes) : Outcome Bytes × Profile :=
  match p.parameters with
  | .key s =>
    match s.digest password salt with
    | .ok key =>
      (⟨.ok key, [.deriving p.kind]⟩,
        { p with parameters := .key { s with pinnedSalt := some salt } })
    | .error e => (⟨.error e, [.deriving p.kind]⟩, p)
  | .bcrypt _ => (⟨.error .unsupported, [.deriving p.kind]⟩, p)

/-- The text of a password; `fresh` is a salt of `freshSaltLength` bytes drawn for it, which
a pinned salt takes the place of. -/
def hash (p : Profile) (password fresh : Bytes) : Outcome String :=
  ⟨p.parameters.hash password fresh, [.hashing p.kind]⟩

/-- The text of a password with a salt that is drawn for it, where one is wanted. -/
def hashFrom (p : Profile) (source : RandomSource) (password : Bytes) : Outcome String :=
  p.hash password (source.draw p.parameters.freshSaltLength)

def compare (p : Profile) (text : String) (password : Bytes) : Outcome Unit :=
  p.parameters.compare text password

end Profile

end PasswordHashing
