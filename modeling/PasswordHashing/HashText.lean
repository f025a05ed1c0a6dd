import PasswordHashing.HashText.Cost
import PasswordHashing.HashText.Fields
import PasswordHashing.Text.Base64

/-!
Hash texts, the form in which hashes are stored. The text of a derived key has the
identifier of its algorithm, the salt, the four cost fields and the digest; a masked
one leaves the cost fields out. Salt and digest are base64 without padding. A bcrypt text
has three fields and is bcrypt's own business: it is kept as it stands.
-/

namespace PasswordHashing

/-- A derived key beside what it was derived with. -/
structure KeyHash where
  algorithm : Algorithm
  salt : Bytes
  cost : Option HashText.Cost
  digest : Bytes
  deriving DecidableEq

inductive HashText
  | bcrypt (text : String)
  | key (hash : KeyHash)
  deriving DecidableEq

namespace KeyHash

open HashText

def isMasked (hash : KeyHash) : Bool := hash.cost.isNone

/-- The fields of the text, in order. Nothing is checked. -/
def fields (hash : KeyHash) : List String :=
  [hash.algorithm.identifier, String.ofList (Base64.standard.encode hash.salt)] ++
    (hash.cost.elim [] Cost.write) ++ [String.ofList (Base64.standard.encode hash.digest)]

def encode (hash : KeyHash) : String := join hash.fields

def readBase64 (field : BinaryField) (text : String) : Except ParseError Bytes :=
  match Base64.standard.decode? text.toList with
  | some bytes => .ok bytes
  | none => .error (.base64 field)

/-- Reads the fields that follow the identifier. The cost fields come first, then the
salt, the digest, and last that the key length is the length of the digest. -/
def ofFields (algorithm : Algorithm) : List String → Except ParseError KeyHash
  | [salt, digest] => do
    let salt ← readBase64 .salt salt
    let digest ← readBase64 .digest digest
    .ok { algorithm, salt, cost := none, digest }
  | [salt, a, b, c, keyLength, digest] => do
    let cost ← Cost.read algorithm.family a b c keyLength
    let salt ← readBase64 .salt salt
    let digest ← readBase64 .digest digest
    if cost.keyLength.toNat = digest.length then .ok { algorithm, salt, cost := some cost, digest }
    else .error .keyLength
  | fields => .error (.fieldCount (fields.length + 1))

end KeyHash

namespace HashText

def publicFieldCount : Nat := 7

def maskedFieldCount : Nat := 3

def bcryptFieldCount : Nat := 3

def parse (text : String) : Except ParseError HashText := do
  match ← fields text with
  | [] => .error .unknownAlgorithm
  | identifier :: rest =>
    match Algorithm.ofIdentifier? identifier with
    | none => .error .unknownAlgorithm
    | some .bcrypt =>
      if rest.length + 1 = bcryptFieldCount then .ok (.bcrypt text)
      else .error (.fieldCount (rest.length + 1))
    | some algorithm => .key <$> KeyHash.ofFields algorithm rest

def algorithm : HashText → Algorithm
  | .bcrypt _ => .bcrypt
  | .key hash => hash.algorithm

/-- The salt of a derived key's text; bcrypt keeps its salt to itself. -/
def salt? : HashText → Option Bytes
  | .bcrypt _ => none
  | .key hash => some hash.salt

end HashText

end PasswordHashing
