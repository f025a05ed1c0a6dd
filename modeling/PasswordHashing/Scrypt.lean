import PasswordHashing.Hmac

/-!
Scrypt. The password is stretched into `p` blocks of `128 * r` bytes, each block is mixed
with `2 ^ logN` copies of its own past, and the mixed blocks salt the output. Parameters
are checked as a whole: they are accepted or not, and nothing else can go wrong. Main
statement: the output is as long as the key length says.
-/

namespace PasswordHashing.Scrypt

structure Parameters where
  logN : UInt8
  r : UInt32
  p : UInt32
  keyLength : UInt64
  deriving DecidableEq

namespace Parameters

/-- Sizes are bounded by the words that hold them, the cost by the size of a block. A cost
of one, `logN = 0`, is accepted. -/
def Accepted (q : Parameters) : Prop :=
  0 < q.r.toNat ∧ 0 < q.p.toNat ∧ q.logN.toNat < 64 ∧
  10 ≤ q.keyLength.toNat ∧ q.keyLength.toNat ≤ 64 ∧
  (128 * q.r.toNat) <<< q.logN.toNat < UInt64.size ∧ 128 * q.r.toNat * q.p.toNat < UInt64.size ∧
  q.logN.toNat < 16 * q.r.toNat ∧ q.r.toNat * q.p.toNat < 1 <<< 30

instance (q : Parameters) : Decidable q.Accepted := inferInstanceAs (Decidable (_ ∧ _))

end Parameters

def refusalMessage : String := "invalid scrypt parameters"

/-! ### Salsa20/8 -/

abbrev Words := Vector UInt32 16

def rotateLeft (w : UInt32) (n : UInt32) : UInt32 := w <<< n ||| w >>> (32 - n)

/-- Stirs the sum of words `i` and `j`, rotated by `n`, into word `k`. -/
def stir (v : Words) (k i j : Nat) (n : UInt32) : Words :=
  v.setIfInBounds k (v.getD k 0 ^^^ rotateLeft (v.getD i 0 + v.getD j 0) n)

def quarterRound (v : Words) (a b c d : Nat) : Words :=
  stir (stir (stir (stir v b a d 7) c b a 9) d c b 13) a d c 18

/-- The four columns and then the four rows of the words as a square. -/
def doubleRound (v : Words) : Words :=
  let v := quarterRound v 0 4 8 12
  let v := quarterRound v 5 9 13 1
  let v := quarterRound v 10 14 2 6
  let v := quarterRound v 15 3 7 11
  let v := quarterRound v 0 1 2 3
  let v := quarterRound v 5 6 7 4
  let v := quarterRound v 10 11 8 9
  quarterRound v 15 12 13 14

def salsa (v : Words) : Words := v.zipWith (· + ·) (Nat.repeat doubleRound 4 v)

/-! ### Mixing a block -/

/-- A block is `2 * r` groups of sixteen words. -/
abbrev Block := Array Words

def Block.ofBytes (bytes : Bytes) : Block :=
  ((bytes.chunks 64).map fun chunk =>
    let words := (littleEndianWords32 chunk).toArray
    Vector.ofFn fun i : Fin 16 => words.getD i 0).toArray

def Block.toBytes (block : Block) : Bytes :=
  block.toList.flatMap fun words => words.toList.flatMap littleEndian32

def Block.last (block : Block) : Words := block.getD (block.size - 1) (Vector.replicate 16 0)

def Block.xor (x y : Block) : Block := Array.zipWith (Vector.zipWith (· ^^^ ·)) x y

/-- The number that the first eight bytes of the last group are. -/
def Block.index (block : Block) : Nat := (block.last.getD 0 0).toNat + ((block.last.getD 1 0).toNat <<< 32)

/-- Each group is mixed with the one before it, the first with the last; groups with an
even number then go before those with an odd one. -/
def Block.mix (block : Block) : Block :=
  let step := fun (acc : Words × Array Words × Array Words × Bool) (group : Words) =>
    let x := salsa (acc.1.zipWith (· ^^^ ·) group)
    if acc.2.2.2 then (x, acc.2.1, acc.2.2.1.push x, false) else (x, acc.2.1.push x, acc.2.2.1, true)
  let mixed := block.foldl step (block.last, #[], #[], false)
  mixed.2.1 ++ mixed.2.2.1

/-- Remembers every block on the way to the `n`th, and then looks back `n` times. -/
def Block.mixHard (n : Nat) (block : Block) : Block :=
  let filled := Nat.fold n (fun _ _ (acc : Array Block × Block) => (acc.1.push acc.2, acc.2.mix))
    (Array.emptyWithCapacity n, block)
  Nat.fold n (fun _ _ x => (x.xor (filled.1.getD (x.index % n) #[])).mix) filled.2

def derive (q : Parameters) (password salt : Bytes) : Bytes :=
  let blockLength := 128 * q.r.toNat
  let blocks := (Pbkdf2.derive password salt (blockLength * q.p.toNat)).chunks blockLength
  let mixed := blocks.flatMap fun b => ((Block.ofBytes b).mixHard (1 <<< q.logN.toNat)).toBytes
  Pbkdf2.derive password mixed q.keyLength.toNat

@[simp] theorem derive_length (q : Parameters) (password salt : Bytes) :
    (derive q password salt).length = q.keyLength.toNat := Pbkdf2.derive_length ..

end PasswordHashing.Scrypt
