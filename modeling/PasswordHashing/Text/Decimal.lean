/-!
Unsigned decimal numbers in text. A number is read from a string of one or more
ASCII digits, with no sign and no separator; zeros in front of it change nothing.
It is written without them, so a number that was written is read back, while a text
that was read need not be the one that is written.
-/

namespace PasswordHashing.Decimal

def IsDigits (text : List Char) : Prop := text ≠ [] ∧ ∀ c ∈ text, c.isDigit

-- runs over the text, where a general search might run over all characters that there are
instance (text : List Char) : Decidable (IsDigits text) :=
  decidable_of_iff (text ≠ [] ∧ text.all Char.isDigit) (by simp [IsDigits])

/-- The value of a string of digits. -/
def value (text : List Char) : Nat := Nat.ofDigitChars 10 text 0

def read? (text : List Char) : Option Nat :=
  if IsDigits text then some (value text) else none

def read64? (text : List Char) : Option UInt64 :=
  (read? text).bind fun n => if n < UInt64.size then some (.ofNat n) else none

def read32? (text : List Char) : Option UInt32 :=
  (read? text).bind fun n => if n < UInt32.size then some (.ofNat n) else none

def write (n : Nat) : List Char := Nat.toDigits 10 n

@[simp] theorem value_write (n : Nat) : value (write n) = n :=
  Nat.ofDigitChars_toDigits (by decide) (by decide)

theorem write_isDigits (n : Nat) : IsDigits (write n) := by
  refine ⟨?_, ?_⟩
  · intro h
    have := Nat.toDigits_ne_nil (b := 10) (n := n)
    exact this h
  · intro c hc
    exact Nat.isDigit_of_mem_toDigits (by decide) (by decide) hc

end PasswordHashing.Decimal
