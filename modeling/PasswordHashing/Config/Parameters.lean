import PasswordHashing.Config.Field
import PasswordHashing.Json.Reader
import PasswordHashing.Json.Writer
import PasswordHashing.Parameters

/-!
Parameters in JSON. They are an object with the family under `algorithm`, or an array that
starts with the family; all else is kept until the object or array has ended. Secret and
pinned salt are no part of it: members of these names are passed over like any other that
is not known, and writing leaves them out.
-/

namespace PasswordHashing.Config

def tagName : String := "algorithm"

def familyNames : List String := ["argon2", "scrypt", "bcrypt"]

def familyNamed? (name : String) : Option Family :=
  [Family.argon2, .scrypt, .bcrypt].find? (·.name = name)

/-! ### Fields of each family -/

def variantField : Field Argon2.Variant := ⟨"variant", readVariant⟩

def timeField : Field UInt32 := ⟨"time", readWord32⟩

def memoryField : Field UInt32 := ⟨"memory", readWord32⟩

def threadsField : Field UInt32 := ⟨"threads", readWord32⟩

def logNField : Field UInt8 := ⟨"log_n", readByte⟩

def rField : Field UInt32 := ⟨"r", readWord32⟩

def pField : Field UInt32 := ⟨"p", readWord32⟩

def keyLengthField : Field UInt64 := ⟨"key_len", readWord64⟩

def saltLengthField : Field UInt64 := ⟨"salt_len", readWord64⟩

def maskedField : Field Bool := ⟨"masked", readBool⟩

def costField : Field UInt32 := ⟨"cost", readWord32⟩

def defaultSaltLength : UInt64 := 16

def argon2OfMembers (ms : Members) : Except Fault Parameters := do
  checkMembers [variantField.checked, timeField.checked, memoryField.checked, threadsField.checked,
    keyLengthField.checked, saltLengthField.checked, maskedField.checked] [] ms
  let variant ← variantField.withDefault .id ms
  let time ← timeField.required ms
  let memory ← memoryField.required ms
  let threads ← threadsField.required ms
  let keyLength ← keyLengthField.required ms
  let saltLength ← saltLengthField.withDefault defaultSaltLength ms
  let masked ← maskedField.withDefault false ms
  return .key { function := .argon2 variant time memory threads, keyLength, saltLength, masked }

def scryptOfMembers (ms : Members) : Except Fault Parameters := do
  checkMembers [logNField.checked, rField.checked, pField.checked, keyLengthField.checked,
    saltLengthField.checked, maskedField.checked] [] ms
  let logN ← logNField.required ms
  let r ← rField.required ms
  let p ← pField.required ms
  let keyLength ← keyLengthField.required ms
  let saltLength ← saltLengthField.withDefault defaultSaltLength ms
  let masked ← maskedField.withDefault false ms
  return .key { function := .scrypt logN r p, keyLength, saltLength, masked }

def bcryptOfMembers (ms : Members) : Except Fault Parameters := do
  checkMembers [costField.checked] [] ms
  return .bcrypt (← costField.required ms)

def argon2OfItems (items : List Json) : Except Fault Parameters := do
  let wanted := Wanted.fields "Argon2Params" 7
  let variant ← variantField.withDefaultAt 0 .id items
  let time ← timeField.requiredAt 1 wanted items
  let memory ← memoryField.requiredAt 2 wanted items
  let threads ← threadsField.requiredAt 3 wanted items
  let keyLength ← keyLengthField.requiredAt 4 wanted items
  let saltLength ← saltLengthField.withDefaultAt 5 defaultSaltLength items
  let masked ← maskedField.withDefaultAt 6 false items
  checkLength 7 items
  return .key { function := .argon2 variant time memory threads, keyLength, saltLength, masked }

def scryptOfItems (items : List Json) : Except Fault Parameters := do
  let wanted := Wanted.fields "ScryptParams" 6
  let logN ← logNField.requiredAt 0 wanted items
  let r ← rField.requiredAt 1 wanted items
  let p ← pField.requiredAt 2 wanted items
  let keyLength ← keyLengthField.requiredAt 3 wanted items
  let saltLength ← saltLengthField.withDefaultAt 4 defaultSaltLength items
  let masked ← maskedField.withDefaultAt 5 false items
  checkLength 6 items
  return .key { function := .scrypt logN r p, keyLength, saltLength, masked }

def bcryptOfItems (items : List Json) : Except Fault Parameters := do
  let cost ← costField.requiredAt 0 (.fields "BcryptParams" 1) items
  checkLength 1 items
  return .bcrypt cost

/-! ### Reading -/

abbrev Reader : Type → Type := Json.Read Fault

open Json in
/-- Fails for a value of a type that is not wanted. A value that is no container is read for
it, so that a text that is no JSON is still told as one. -/
def reject {α : Type} (wanted : Wanted) : Reader α := do
  let found : Found ← match ← peekToken with
    | '[' => pure .sequence
    | '{' => pure .map
    | _ => Found.ofJson <$> readValue .keep 0
  fail (.data (.invalidType found wanted))

/-- A name in quotes that `find?` knows. -/
def readNamed {α : Type} (find? : String → Option α) (known : List String) : Reader α := do
  match ← Json.peekToken with
  | '"' =>
    let name ← Json.readName .keep
    match find? name with
    | some a => return a
    | none => Json.fail (.data (.unknownVariant name known))
  | _ => reject .variantName

def readFamily : Reader Family := readNamed familyNamed? familyNames

def lift {α : Type} (result : Except Fault α) : Reader α :=
  match result with
  | .ok a => return a
  | .error fault => Json.fail (.data fault)

def ofMembers : Family → Members → Except Fault Parameters
  | .argon2 => argon2OfMembers
  | .scrypt => scryptOfMembers
  | .bcrypt => bcryptOfMembers

def ofItems : Family → List Json → Except Fault Parameters
  | .argon2 => argon2OfItems
  | .scrypt => scryptOfItems
  | .bcrypt => bcryptOfItems

open Json in
/-- Reads one member: the family where it is the tag, and any other for later. -/
def tagOrMember (depth : Nat) (acc : Option Family × Members) (name : String) :
    Reader (Option Family × Members) := do
  if name = tagName then
    if acc.1.isSome then fail (.data (.duplicateField tagName))
    readColon
    return (some (← readFamily), acc.2)
  else
    readColon
    let value ← readValue .keep depth
    return (acc.1, (name, value) :: acc.2)

open Json in
/-- Reads one item: the family where it is the first, and any other for later. -/
def tagOrItem (depth : Nat) (acc : Option (Family × List Json)) :
    Reader (Option (Family × List Json)) := do
  match acc with
  | none => return some (← readFamily, [])
  | some (family, items) => return some (family, (← readValue .keep depth) :: items)

open Json in
def readParameters (depth : Nat) : Reader Parameters := do
  match ← peekToken with
  | '{' =>
    let _ ← readToken
    enter .keep depth
    let (tag, members) ← readMembers .keep (tagOrMember (depth - 1)) (none, [])
    match tag with
    | some family => lift (ofMembers family members.reverse)
    | none => fail (.data (.missingField tagName))
  | '[' =>
    let _ ← readToken
    enter .keep depth
    match ← readItems (tagOrItem (depth - 1)) none with
    | some (family, items) => lift (ofItems family items.reverse)
    | none => fail (.data (.missingField tagName))
  | _ => reject .parameters

/-! ### Writing -/

open Json in
def functionMembers : KeyDerivation → List (String × List Char)
  | .argon2 variant time memory threads => [(variantField.name, writeName (variantName variant)),
      (timeField.name, writeNat time.toNat), (memoryField.name, writeNat memory.toNat),
      (threadsField.name, writeNat threads.toNat)]
  | .scrypt logN r p => [(logNField.name, writeNat logN.toNat), (rField.name, writeNat r.toNat),
      (pField.name, writeNat p.toNat)]

open Json in
def writeParameters : Parameters → List Char
  | .key s => writeObject ((tagName, writeName s.family.name) :: functionMembers s.function ++
      [(keyLengthField.name, writeNat s.keyLength.toNat),
        (saltLengthField.name, writeNat s.saltLength.toNat), (maskedField.name, writeBool s.masked)])
  | .bcrypt cost => writeObject [(tagName, writeName Family.bcrypt.name),
      (costField.name, writeNat cost.toNat)]

end PasswordHashing.Config
