import PasswordHashing.Text.Decimal

/-!
Compact JSON text, with no space between tokens. What can be written is what a
configuration is made of: names that need no escape, flags, natural numbers and objects.
-/

namespace PasswordHashing.Json

def writeName (name : String) : List Char := '"' :: name.toList ++ ['"']

def writeBool (b : Bool) : List Char := if b then "true".toList else "false".toList

def writeNat (n : Nat) : List Char := Decimal.write n

/-- Members with a comma between each and the next; the values are text already. -/
def writeMembers : List (String × List Char) → List Char
  | [] => []
  | [(name, value)] => writeName name ++ ':' :: value
  | (name, value) :: rest => writeName name ++ ':' :: value ++ ',' :: writeMembers rest

def writeObject (members : List (String × List Char)) : List Char :=
  '{' :: writeMembers members ++ ['}']

end PasswordHashing.Json
