import PasswordHashing.Algorithm
import PasswordHashing.Config.Fault

/-!
Fields of a structure in JSON that has been read already. A field has a name and reads its
own value. In an object the known members are checked in the order of the text, each for
coming twice before its value is looked at, and only then are fields looked up; in an array
they come in their own order, and those with a default may be left out at the end.
-/

namespace PasswordHashing.Config

/-! ### Values -/

def wrongType {α : Type} (j : Json) (wanted : Wanted) : Except Fault α :=
  .error (.invalidType (.ofJson j) wanted)

/-- An integer below `size`. -/
def readBelow (size : Nat) (wanted : Wanted) (j : Json) : Except Fault Nat :=
  match j with
  | .number (.integer value) =>
    if 0 ≤ value ∧ value < size then .ok value.toNat
    else .error (.invalidValue (.integer value) wanted)
  | j => wrongType j wanted

def readByte (j : Json) : Except Fault UInt8 := do
  return .ofNat (← readBelow UInt8.size .byte j)

def readWord32 (j : Json) : Except Fault UInt32 := do
  return .ofNat (← readBelow UInt32.size .word32 j)

def readWord64 (j : Json) : Except Fault UInt64 := do
  return .ofNat (← readBelow UInt64.size .word64 j)

def readBool : Json → Except Fault Bool
  | .bool value => .ok value
  | j => wrongType j .boolean

/-- Nothing is null or an empty object. -/
def readUnit : Json → Except Fault Unit
  | .null => .ok ()
  | .object [] => .ok ()
  | j => wrongType j .unit

def variantName : Argon2.Variant → String
  | .i => "argon2i"
  | .id => "argon2id"

def variantNamed (name : String) : Except Fault Argon2.Variant :=
  if name = "argon2i" then .ok .i
  else if name = "argon2id" then .ok .id
  else .error (.unknownVariant name ["argon2i", "argon2id"])

/-- A name, or an object whose one member has that name and nothing as its value. -/
def readVariant : Json → Except Fault Argon2.Variant
  | .string name => variantNamed name
  | .object [(name, value)] => do
    let variant ← variantNamed name
    readUnit value
    return variant
  | .object _ => .error (.invalidValue .map .singleKeyMap)
  | j => wrongType j .nameOrMap

/-! ### Fields -/

structure Field (α : Type) where
  name : String
  read : Json → Except Fault α

/-- A field whose value is only checked. -/
def Field.checked {α : Type} (f : Field α) : Field Unit where
  name := f.name
  read j := (f.read j).map fun _ => ()

abbrev Members := List (String × Json)

def checkMembers (fields : List (Field Unit)) (seen : List String) : Members → Except Fault Unit
  | [] => .ok ()
  | (name, value) :: rest =>
    match fields.find? (·.name = name) with
    | none => checkMembers fields seen rest
    | some f => do
      if name ∈ seen then .error (.duplicateField name)
      f.read value
      checkMembers fields (name :: seen) rest

namespace Field

variable {α : Type} (f : Field α)

def find? (members : Members) : Except Fault (Option α) :=
  match members.find? (·.1 = f.name) with
  | some (_, value) => some <$> f.read value
  | none => .ok none

def required (members : Members) : Except Fault α := do
  match ← f.find? members with
  | some a => return a
  | none => .error (.missingField f.name)

def withDefault (a : α) (members : Members) : Except Fault α := do
  return (← f.find? members).getD a

/-- The field at a place in an array, where there is one. -/
def atPlace? (place : Nat) (items : List Json) : Except Fault (Option α) :=
  match items[place]? with
  | some value => some <$> f.read value
  | none => .ok none

def requiredAt (place : Nat) (wanted : Wanted) (items : List Json) : Except Fault α := do
  match ← f.atPlace? place items with
  | some a => return a
  | none => .error (.invalidLength place wanted)

def withDefaultAt (place : Nat) (a : α) (items : List Json) : Except Fault α := do
  return (← f.atPlace? place items).getD a

end Field

/-- An array has no more items than fields. -/
def checkLength (count : Nat) (items : List Json) : Except Fault Unit :=
  if items.length ≤ count then .ok () else .error (.invalidLength items.length (.elements count))

end PasswordHashing.Config
