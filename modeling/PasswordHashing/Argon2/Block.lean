import PasswordHashing.Blake2b

/-!
The memory of Argon2 is made of blocks of 1024 bytes, 128 words each. A new block comes
from two old ones: their exclusive or is mixed by rows and then by columns of the words
as a square of pairs, and is added once more to the result. Beside it stands the hash of
any length that blocks are started from and that the output is taken from.
-/

namespace PasswordHashing.Argon2

abbrev Block := Vector UInt64 128

namespace Block

def zero : Block := Vector.replicate 128 0

def xor (x y : Block) : Block := x.zipWith (· ^^^ ·) y

def toBytes (block : Block) : Bytes := block.toList.flatMap littleEndian64

def ofBytes (bytes : Bytes) : Block :=
  let words := (littleEndianWords64 bytes).toArray
  Vector.ofFn fun i => words.getD i 0

/-! ### Mixing -/

/-- A sum with twice the product of the low halves. -/
def mulAdd (x y : UInt64) : UInt64 := x + y + 2 * (x &&& 0xFFFFFFFF) * (y &&& 0xFFFFFFFF)

def mixWords (v : Block) (a b c d : Fin 128) : Block :=
  let va := mulAdd v[a] v[b]
  let vd := Blake2b.rotateRight (v[d] ^^^ va) 32
  let vc := mulAdd v[c] vd
  let vb := Blake2b.rotateRight (v[b] ^^^ vc) 24
  let va := mulAdd va vb
  let vd := Blake2b.rotateRight (vd ^^^ va) 16
  let vc := mulAdd vc vd
  let vb := Blake2b.rotateRight (vb ^^^ vc) 63
  (((v.set a va).set b vb).set c vc).set d vd

/-- Mixes the sixteen words that `place` picks, by the columns and then the diagonals of
their square. -/
@[inline] def mixSixteen (place : Nat → Fin 128) (v : Block) : Block :=
  let v := mixWords v (place 0) (place 4) (place 8) (place 12)
  let v := mixWords v (place 1) (place 5) (place 9) (place 13)
  let v := mixWords v (place 2) (place 6) (place 10) (place 14)
  let v := mixWords v (place 3) (place 7) (place 11) (place 15)
  let v := mixWords v (place 0) (place 5) (place 10) (place 15)
  let v := mixWords v (place 1) (place 6) (place 11) (place 12)
  let v := mixWords v (place 2) (place 7) (place 8) (place 13)
  mixWords v (place 3) (place 4) (place 9) (place 14)

def rowPlace (row : Fin 8) (k : Nat) : Fin 128 := ⟨16 * row + k % 16, by omega⟩

/-- A column is two words wide. -/
def columnPlace (column : Fin 8) (k : Nat) : Fin 128 :=
  ⟨k % 16 / 2 * 16 + 2 * column + k % 2, by omega⟩

def permute (v : Block) : Block :=
  let v := Nat.fold 8 (fun i h v => mixSixteen (rowPlace ⟨i, h⟩) v) v
  Nat.fold 8 (fun i h v => mixSixteen (columnPlace ⟨i, h⟩) v) v

def compress (x y : Block) : Block :=
  let r := xor x y
  xor r (permute r)

end Block

/-! ### Hashes of any length -/

/-- Thirty-two bytes of each digest in a chain of digests, and all of the last one. -/
def stretch (length : Nat) (digest : Bytes) : Bytes :=
  if length ≤ 64 then Blake2b.hash length digest
  else
    let next := Blake2b.hash 64 digest
    next.take 32 ++ stretch (length - 32) next

def longHash (length : Nat) (message : Bytes) : Bytes :=
  let message := littleEndian32 (.ofNat length) ++ message
  if length ≤ 64 then Blake2b.hash length message
  else
    let first := Blake2b.hash 64 message
    first.take 32 ++ stretch (length - 32) first

theorem stretch_length (length : Nat) (digest : Bytes) : (stretch length digest).length = length := by
  fun_induction stretch length digest with
  | case1 length digest h => exact Blake2b.hash_length h digest
  | case2 length digest h next ih =>
    have : next.length = 64 := Blake2b.hash_length (by decide) digest
    simp only [List.length_append, List.length_take, ih, this]
    omega

@[simp] theorem longHash_length (length : Nat) (message : Bytes) :
    (longHash length message).length = length := by
  rw [longHash]
  split
  · rename_i h
    exact Blake2b.hash_length h _
  · simp only [List.length_append, List.length_take, stretch_length,
      Blake2b.hash_length (show 64 ≤ 64 by decide)]
    omega

end PasswordHashing.Argon2
