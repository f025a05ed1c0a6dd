import PasswordHashing.Config.Parameters
import PasswordHashing.Profile

/-!
The choice of a profile in an application's own configuration, and the profile it builds.
A built-in kind takes no parameters and a custom kind takes those of its own family; the
masked flag is that of the configuration, whatever the parameters say of it.
-/

namespace PasswordHashing

structure ProfileConfig where
  profile : ProfileKind
  masked : Bool := false
  custom : Option Parameters := none
  deriving DecidableEq

namespace ProfileConfig

def builtin (kind : ProfileKind) : ProfileConfig := { profile := kind }

def build (c : ProfileConfig) : Except HashingError Profile :=
  match c.profile.isCustom, c.custom with
  | false, none => if c.masked then Profile.ofKindMasked c.profile else Profile.ofKind c.profile
  | true, some parameters =>
    if parameters.family.customKind = c.profile then
      match parameters with
      | .key s => .ok (Profile.custom (.key { s with masked := c.masked }))
      | .bcrypt cost => if c.masked then .error .unsupported else .ok (Profile.custom (.bcrypt cost))
    else .error .unsupported
  | _, _ => .error .unsupported

/-! ### Reading -/

open Config Json

/-- A name in quotes; nothing else can stand in its place. -/
def readKindName : Reader ProfileKind := do
  match ← peekToken with
  | '"' => readNamed ProfileKind.named? (ProfileKind.all.map ProfileKind.name)
  | _ => fail .malformed

/-- A name, or an object whose one member has that name and null as its value. -/
def readKind (depth : Nat) : Reader ProfileKind := do
  match ← peekToken with
  | '{' =>
    let _ ← readToken
    enter .keep depth
    let kind ← readKindName
    readColon
    match ← peekToken with
    | 'n' =>
      let _ ← readToken
      readWord ['u', 'l', 'l']
    | _ => reject .unit
    match ← readToken with
    | '}' => return kind
    | _ => fail .malformed
  | _ => readKindName

def readFlag : Reader Bool := do
  match ← peekToken with
  | 't' =>
    let _ ← readToken
    readWord ['r', 'u', 'e']
    return true
  | 'f' =>
    let _ ← readToken
    readWord ['a', 'l', 's', 'e']
    return false
  | _ => reject .boolean

def readCustom (depth : Nat) : Reader (Option Parameters) := do
  match ← peekToken with
  | 'n' =>
    let _ ← readToken
    readWord ['u', 'l', 'l']
    return none
  | _ => return some (← readParameters depth)

/-- The fields that have been read so far. -/
structure Draft where
  profile : Option ProfileKind := none
  masked : Option Bool := none
  custom : Option (Option Parameters) := none

def Draft.finish (d : Draft) : Except Fault ProfileConfig :=
  match d.profile with
  | some profile => .ok { profile, masked := d.masked.getD false, custom := d.custom.getD none }
  | none => .error (.missingField "profile")

/-- A known member may come once; a member that is not known is passed over. -/
def readMember (depth : Nat) (d : Draft) (name : String) : Reader Draft := do
  if name = "profile" then
    if d.profile.isSome then fail (.data (.duplicateField name))
    readColon
    return { d with profile := some (← readKind depth) }
  else if name = "masked" then
    if d.masked.isSome then fail (.data (.duplicateField name))
    readColon
    return { d with masked := some (← readFlag) }
  else if name = "custom" then
    if d.custom.isSome then fail (.data (.duplicateField name))
    readColon
    return { d with custom := some (← readCustom depth) }
  else
    readColon
    let _ ← readValue .ignore depth
    return d

/-- Items are the fields in their order; after the last of them the array has to end. -/
def readItem (depth : Nat) (d : Draft) : Reader Draft := do
  match d.profile, d.masked, d.custom with
  | none, _, _ => return { d with profile := some (← readKind depth) }
  | some _, none, _ => return { d with masked := some (← readFlag) }
  | some _, some _, none => return { d with custom := some (← readCustom depth) }
  | some _, some _, some _ => fail .malformed

def read (depth : Nat) : Reader ProfileConfig := do
  match ← peekToken with
  | '{' =>
    let _ ← readToken
    enter .keep depth
    lift (← readMembers .keep (readMember (depth - 1)) {}).finish
  | '[' =>
    let _ ← readToken
    enter .keep depth
    let d ← readItems (readItem (depth - 1)) {}
    if d.profile.isNone then fail (.data (.invalidLength 0 (.fields "ProfileConfig" 3)))
    lift d.finish
  | _ => reject .profileConfig

def ofText (text : String) : Except (ReadError Fault) ProfileConfig :=
  readDocument (read maxDepth) text

/-! ### Writing -/

/-- Custom parameters are left out where there are none. -/
def write (c : ProfileConfig) : List Char :=
  writeObject ([("profile", writeName c.profile.name), ("masked", writeBool c.masked)] ++
    c.custom.toList.map fun parameters => ("custom", writeParameters parameters))

def text (c : ProfileConfig) : String := String.ofList c.write

end ProfileConfig

namespace Parameters

/-- The parameters that a text of their own describes. -/
def ofText (text : String) : Except (Json.ReadError Config.Fault) Parameters :=
  Json.readDocument (Config.readParameters Json.maxDepth) text

def text (p : Parameters) : String := String.ofList (Config.writeParameters p)

end Parameters

end PasswordHashing
