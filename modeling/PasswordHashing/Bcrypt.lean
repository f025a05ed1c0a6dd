import PasswordHashing.Bcrypt.Blowfish
import PasswordHashing.HashText.Fields
import PasswordHashing.Text.Base64
import PasswordHashing.Text.Decimal

/-!
Bcrypt and its texts. The key is the password and a zero byte, cut to seventy-two bytes; a
fixed text is encrypted sixty-four times under the key schedule, and all but the last byte
is the digest. A text holds the cost as a number of any spelling between 4 and 31, and the
salt and the digest in bcrypt's own alphabet.
-/

namespace PasswordHashing.Bcrypt

def maxPasswordLength : Nat := 72

def minCost : Nat := 4

def maxCost : Nat := 31

def saltLength : Nat := 16

def digestLength : Nat := 23

def keyOf (password : Bytes) : Bytes := (password ++ [0]).take maxPasswordLength

def plaintext : List UInt32 := bigEndianWords32 (Bytes.ofString "OrpheanBeholderScryDoubt")

def encryptPairs (s : Schedule) : List UInt32 → List UInt32
  | a :: b :: rest => let x := s.encrypt ⟨a, b⟩; x.left :: x.right :: encryptPairs s rest
  | rest => rest

def digest (cost : Nat) (salt password : Bytes) : Bytes :=
  let s := costlySchedule cost (keyOf password) salt
  ((Nat.repeat (encryptPairs s) 64 plaintext).flatMap bigEndian32).take digestLength

/-! ### Texts -/

structure Record where
  cost : Nat
  salt : Bytes
  digest : Bytes
  deriving DecidableEq

/-- A cost of fewer than two digits is filled up with a zero. -/
def costText (cost : Nat) : String := if cost < 10 then "0" ++ cost.repr else cost.repr

def Record.write (record : Record) : String :=
  HashText.join ["2b", costText record.cost,
    String.ofList (Base64.bcrypt.encode record.salt ++ Base64.bcrypt.encode record.digest)]

/-- A plus sign may stand before the number. -/
def readCost? (text : List Char) : Option Nat := do
  let cost ← Decimal.read32? (if text.head? = some '+' then text.tail else text)
  if minCost ≤ cost.toNat ∧ cost.toNat ≤ maxCost then some cost.toNat else none

/-- Twenty-two symbols of salt and thirty-one of digest. -/
def Record.readPayload? (cost : Nat) (text : List Char) : Option Record :=
  if text.length = 53 then do
    let salt ← Base64.bcrypt.decode? (text.take 22)
    let digest ← Base64.bcrypt.decode? (text.drop 22)
    some { cost, salt, digest }
  else none

def Record.read? (text : String) : Option Record :=
  match HashText.fields text with
  | .ok [_, cost, payload] => do
    let cost ← readCost? cost.toList
    readPayload? cost payload.toList
  | _ => none

def hash (cost : Nat) (salt password : Bytes) : Record where
  cost := cost
  salt := salt
  digest := digest cost salt password

/-- Whether the password has the digest of the text; nothing if the text is not one of bcrypt. -/
def verify? (text : String) (password : Bytes) : Option Bool :=
  (Record.read? text).map fun record =>
    digest record.cost record.salt password == record.digest

end PasswordHashing.Bcrypt
