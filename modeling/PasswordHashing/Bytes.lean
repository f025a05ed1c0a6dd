/-!
Byte strings, their hexadecimal text, and the words they are made of. A word is
cut into its bytes low end first or high end first, and put together again in the
same order; both directions are kept here, so that every algorithm names an order
and none spells one out.
-/

namespace PasswordHashing

abbrev Bytes := List UInt8

namespace Bytes

/-- The bytes of a text in UTF-8. -/
def ofString (text : String) : Bytes := text.toUTF8.toList

def hexDigits : List Char := "0123456789abcdef".toList

def hexDigit (n : Nat) : Char := hexDigits.getD n '0'

def hexChars : Bytes → List Char
  | [] => []
  | b :: rest => hexDigit (b.toNat / 16) :: hexDigit (b.toNat % 16) :: hexChars rest

/-- Two lower-case hexadecimal digits a byte. -/
def toHex (bytes : Bytes) : String := String.ofList bytes.hexChars

/-- The bytes in groups of `n`, the last of which may be shorter. -/
def chunks (n : Nat) (bytes : Bytes) : List Bytes :=
  if n = 0 ∨ bytes = [] then [] else bytes.take n :: chunks n (bytes.drop n)
termination_by bytes.length
decreasing_by
  rename_i h
  have := List.length_pos_iff.2 (fun e => h (.inr e))
  simp only [List.length_drop]
  omega

end Bytes

/-! ### Words and bytes -/

def littleEndian32 (w : UInt32) : Bytes :=
  [w.toUInt8, (w >>> 8).toUInt8, (w >>> 16).toUInt8, (w >>> 24).toUInt8]

def bigEndian32 (w : UInt32) : Bytes :=
  [(w >>> 24).toUInt8, (w >>> 16).toUInt8, (w >>> 8).toUInt8, w.toUInt8]

def littleEndian64 (w : UInt64) : Bytes :=
  littleEndian32 w.toUInt32 ++ littleEndian32 (w >>> 32).toUInt32

def bigEndian64 (w : UInt64) : Bytes :=
  bigEndian32 (w >>> 32).toUInt32 ++ bigEndian32 w.toUInt32

@[simp] theorem littleEndian32_length (w : UInt32) : (littleEndian32 w).length = 4 := rfl

@[simp] theorem bigEndian32_length (w : UInt32) : (bigEndian32 w).length = 4 := rfl

@[simp] theorem littleEndian64_length (w : UInt64) : (littleEndian64 w).length = 8 := rfl

@[simp] theorem bigEndian64_length (w : UInt64) : (bigEndian64 w).length = 8 := rfl

/-- The word whose bytes are `a b c d`, high end first. -/
def word32 (a b c d : UInt8) : UInt32 :=
  a.toUInt32 <<< 24 ||| b.toUInt32 <<< 16 ||| c.toUInt32 <<< 8 ||| d.toUInt32

/-- Reads words of four bytes, high end first; a tail too short for a word is left out. -/
def bigEndianWords32 : Bytes → List UInt32
  | a :: b :: c :: d :: rest => word32 a b c d :: bigEndianWords32 rest
  | _ => []

/-- Reads words of four bytes, low end first; a tail too short for a word is left out. -/
def littleEndianWords32 : Bytes → List UInt32
  | a :: b :: c :: d :: rest => word32 d c b a :: littleEndianWords32 rest
  | _ => []

/-- Reads words of eight bytes, low end first; a tail too short for a word is left out. -/
def littleEndianWords64 : Bytes → List UInt64
  | a :: b :: c :: d :: e :: f :: g :: h :: rest =>
    ((word32 h g f e).toUInt64 <<< 32 ||| (word32 d c b a).toUInt64) :: littleEndianWords64 rest
  | _ => []

end PasswordHashing
