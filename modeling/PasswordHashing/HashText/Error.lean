/-!
Why a text is no hash text. Each cause names the field it was found in, where there is
one, and has one wording.
-/

namespace PasswordHashing.HashText

inductive BinaryField
  | salt
  | digest
  deriving DecidableEq

def BinaryField.name : BinaryField → String
  | .salt => "salt"
  | .digest => "digest"

/-- Scrypt has the fields `n`, `r` and `p` and Argon2 has `time`, `memory` and `threads`;
both have a key length, and the working memory of both is bounded. -/
inductive CostField
  | n
  | r
  | p
  | time
  | memory
  | threads
  | keyLength
  deriving DecidableEq

def CostField.name : CostField → String
  | .n => "N"
  | .r => "r"
  | .p => "p"
  | .time => "time"
  | .memory => "memory"
  | .threads => "threads"
  | .keyLength => "key length"

/-- A field count includes the identifier. -/
inductive ParseError
  | empty
  | missingSeparator
  | emptyField
  | unknownAlgorithm
  | fieldCount (count : Nat)
  | base64 (field : BinaryField)
  | number (field : CostField)
  | scryptCost
  | costLimit (field : CostField)
  | keyLength
  deriving DecidableEq

def ParseError.message : ParseError → String
  | .empty => "empty hash text"
  | .missingSeparator => "hash text must start with the separator"
  | .emptyField => "empty field in hash text"
  | .unknownAlgorithm => "unknown algorithm identifier"
  | .fieldCount count => "unexpected field count: " ++ count.repr
  | .base64 field => "invalid base64 in " ++ field.name ++ " field"
  | .number field => "invalid number in " ++ field.name ++ " field"
  | .scryptCost => "scrypt cost must be a power of two greater than one"
  | .costLimit field => field.name ++ " field exceeds the verification limit"
  | .keyLength => "key length does not match digest length"

end PasswordHashing.HashText
