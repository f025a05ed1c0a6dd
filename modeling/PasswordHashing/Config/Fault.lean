import PasswordHashing.Json.Basic
import PasswordHashing.Text.Quoted
import PasswordHashing.Text.Shortest

/-!
What can be wrong with a value in a configuration that is good JSON: it has the wrong type
or does not fit, a list has the wrong length, a member is missing or comes twice, or a name
is none of those that are known. Each fault has one wording.
-/

namespace PasswordHashing.Config

/-- What was found, as far as a fault tells. -/
inductive Found
  | null
  | boolean (value : Bool)
  | integer (value : Int)
  | float (value : Float)
  | string (value : String)
  | sequence
  | map

def Found.ofJson : Json → Found
  | .null => .null
  | .bool value => .boolean value
  | .number (.integer value) => .integer value
  | .number (.float value) => .float value
  | .string value => .string value
  | .array _ => .sequence
  | .object _ => .map

/-- Positional from five places below the point to sixteen above it. -/
def floatLayout : Shortest.Layout where
  minPositional := -5
  maxPositional := 15

def Found.text : Found → String
  | .null => "null"
  | .boolean value => "boolean `" ++ (if value then "true" else "false") ++ "`"
  | .integer value => "integer `" ++ (if value < 0 then "-" else "") ++ value.natAbs.repr ++ "`"
  | .float value => "floating point `" ++ Shortest.write floatLayout value ++ "`"
  | .string value => "string " ++ Quoted.quote value
  | .sequence => "sequence"
  | .map => "map"

/-- What would have been right. A structure is counted by its fields where its form is an array. -/
inductive Wanted
  | byte
  | word32
  | word64
  | boolean
  | unit
  | variantName
  | nameOrMap
  | singleKeyMap
  | parameters
  | profileConfig
  | fields (owner : String) (count : Nat)
  | elements (count : Nat)
  deriving DecidableEq

def Wanted.text : Wanted → String
  | .byte => "u8"
  | .word32 => "u32"
  | .word64 => "usize"
  | .boolean => "a boolean"
  | .unit => "unit"
  | .variantName => "variant identifier"
  | .nameOrMap => "string or map"
  | .singleKeyMap => "map with a single key"
  | .parameters => "internally tagged enum ParameterSet"
  | .profileConfig => "struct ProfileConfig"
  | .fields owner count =>
    "struct " ++ owner ++ " with " ++ count.repr ++ (if count = 1 then " element" else " elements")
  | .elements count =>
    count.repr ++ (if count = 1 then " element in sequence" else " elements in sequence")

inductive Fault
  | invalidType (found : Found) (wanted : Wanted)
  | invalidValue (found : Found) (wanted : Wanted)
  | invalidLength (length : Nat) (wanted : Wanted)
  | missingField (name : String)
  | duplicateField (name : String)
  | unknownVariant (name : String) (known : List String)

def inBackquotes (name : String) : String := "`" ++ name ++ "`"

def choice : List String → String
  | [] => "there are no variants"
  | [a] => "expected " ++ inBackquotes a
  | [a, b] => "expected " ++ inBackquotes a ++ " or " ++ inBackquotes b
  | names => "expected one of " ++ ", ".intercalate (names.map inBackquotes)

def Fault.message : Fault → String
  | .invalidType found wanted => "invalid type: " ++ found.text ++ ", expected " ++ wanted.text
  | .invalidValue found wanted => "invalid value: " ++ found.text ++ ", expected " ++ wanted.text
  | .invalidLength length wanted => "invalid length " ++ length.repr ++ ", expected " ++ wanted.text
  | .missingField name => "missing field " ++ inBackquotes name
  | .duplicateField name => "duplicate field " ++ inBackquotes name
  | .unknownVariant name known => "unknown variant " ++ inBackquotes name ++ ", " ++ choice known

end PasswordHashing.Config
