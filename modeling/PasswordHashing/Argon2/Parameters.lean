import PasswordHashing.Bytes

/-!
What Argon2 is asked to do and when it refuses. The parameters are checked before
any input is looked at, and the first bound that is broken is the one reported; the
inputs are checked afterwards. A request that passes both is always answered. Main
statement: a key of less than four bytes is refused.
-/

namespace PasswordHashing.Argon2

/-- Argon2i addresses its memory independently of the data, Argon2id does so only at first. -/
inductive Variant
  | i
  | id
  deriving DecidableEq

structure Parameters where
  time : UInt32
  memory : UInt32
  threads : UInt32
  keyLength : UInt64
  deriving DecidableEq

inductive Refusal
  | memoryTooSmall
  | timeTooSmall
  | notEnoughThreads
  | tooManyThreads
  | outputTooShort
  | outputTooLong
  | secretTooLong
  | passwordTooLong
  | saltTooShort
  | saltTooLong
  deriving DecidableEq

def Refusal.message : Refusal → String
  | .memoryTooSmall => "memory cost is too small"
  | .timeTooSmall => "time cost is too small"
  | .notEnoughThreads => "not enough threads"
  | .tooManyThreads => "too many threads"
  | .outputTooShort => "output is too short"
  | .outputTooLong => "output is too long"
  | .secretTooLong => "secret is too long"
  | .passwordTooLong => "password is too long"
  | .saltTooShort => "salt is too short"
  | .saltTooLong => "salt is too long"

def maxInputLength : Nat := 0xFFFFFFFF

def minSaltLength : Nat := 8

/-- Memory is counted in KiB, and each thread needs eight of them. The need is an exact number:
with `2 ^ 29` threads or more it fits no word and memory is too small for it, where a check in
words might overflow or go on to refuse so many threads. -/
def Parameters.refusal? (p : Parameters) : Option Refusal :=
  if p.memory.toNat < 8 ∨ p.memory.toNat < 8 * p.threads.toNat then some .memoryTooSmall
  else if p.time = 0 then some .timeTooSmall
  else if p.threads = 0 then some .notEnoughThreads
  else if 0xFFFFFF < p.threads.toNat then some .tooManyThreads
  else if p.keyLength.toNat < 4 then some .outputTooShort
  else if 0xFFFFFFFF < p.keyLength.toNat then some .outputTooLong
  else none

theorem Parameters.four_le_keyLength {p : Parameters} (h : p.refusal? = none) :
    4 ≤ p.keyLength.toNat := by
  unfold refusal? at h
  grind

def inputRefusal? (secret password salt : Bytes) : Option Refusal :=
  if maxInputLength < secret.length then some .secretTooLong
  else if maxInputLength < password.length then some .passwordTooLong
  else if salt.length < minSaltLength then some .saltTooShort
  else if maxInputLength < salt.length then some .saltTooLong
  else none

end PasswordHashing.Argon2
