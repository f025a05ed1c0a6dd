import PasswordHashing.Bytes

/-!
BLAKE2b without a key. The message is taken in blocks of 128 bytes, the last of which is
filled with zeros and marked as the last; the empty message is one block of zeros. Main
statement: a digest of at most sixty-four bytes has the length that was asked for.
-/

namespace PasswordHashing.Blake2b

abbrev Chain := Vector UInt64 8

abbrev Words := Vector UInt64 16

def rotateRight (w : UInt64) (n : UInt64) : UInt64 := w >>> n ||| w <<< (64 - n)

/-- The fractional parts of the square roots of the first eight primes. -/
def initialChain : Chain := #v[
  0x6a09e667f3bcc908, 0xbb67ae8584caa73b, 0x3c6ef372fe94f82b, 0xa54ff53a5f1d36f1,
  0x510e527fade682d1, 0x9b05688c2b3e6c1f, 0x1f83d9abfb41bd6b, 0x5be0cd19137e2179]

/-- The order in which a round takes the words of a block. -/
def order : Vector (Vector (Fin 16) 16) 10 := #v[
  #v[0, 1, 2, 3, 4, 5, 6, 7, 8, 9, 10, 11, 12, 13, 14, 15],
  #v[14, 10, 4, 8, 9, 15, 13, 6, 1, 12, 0, 2, 11, 7, 5, 3],
  #v[11, 8, 12, 0, 5, 2, 15, 13, 10, 14, 3, 6, 7, 1, 9, 4],
  #v[7, 9, 3, 1, 13, 12, 11, 14, 2, 6, 5, 10, 4, 0, 15, 8],
  #v[9, 0, 5, 7, 2, 4, 10, 15, 14, 1, 11, 12, 6, 8, 3, 13],
  #v[2, 12, 6, 10, 0, 11, 8, 3, 4, 13, 7, 5, 15, 14, 1, 9],
  #v[12, 5, 1, 15, 14, 13, 4, 10, 0, 7, 6, 3, 9, 2, 8, 11],
  #v[13, 11, 7, 14, 12, 1, 3, 9, 5, 0, 15, 4, 8, 6, 2, 10],
  #v[6, 15, 14, 9, 11, 3, 0, 8, 12, 2, 13, 7, 1, 4, 10, 5],
  #v[10, 2, 8, 4, 7, 6, 1, 5, 15, 11, 9, 14, 3, 12, 13, 0]]

def mix (v : Words) (a b c d : Fin 16) (x y : UInt64) : Words :=
  let v := v.set a (v[a] + v[b] + x)
  let v := v.set d (rotateRight (v[d] ^^^ v[a]) 32)
  let v := v.set c (v[c] + v[d])
  let v := v.set b (rotateRight (v[b] ^^^ v[c]) 24)
  let v := v.set a (v[a] + v[b] + y)
  let v := v.set d (rotateRight (v[d] ^^^ v[a]) 16)
  let v := v.set c (v[c] + v[d])
  v.set b (rotateRight (v[b] ^^^ v[c]) 63)

def round (m : Words) (s : Vector (Fin 16) 16) (v : Words) : Words :=
  let v := mix v 0 4 8 12 m[s[0]] m[s[1]]
  let v := mix v 1 5 9 13 m[s[2]] m[s[3]]
  let v := mix v 2 6 10 14 m[s[4]] m[s[5]]
  let v := mix v 3 7 11 15 m[s[6]] m[s[7]]
  let v := mix v 0 5 10 15 m[s[8]] m[s[9]]
  let v := mix v 1 6 11 12 m[s[10]] m[s[11]]
  let v := mix v 2 7 8 13 m[s[12]] m[s[13]]
  mix v 3 4 9 14 m[s[14]] m[s[15]]

/-- Takes one block into the chain; `count` is the number of message bytes up to its end. -/
def compress (h : Chain) (block : Bytes) (count : Nat) (isLast : Bool) : Chain :=
  let words := (littleEndianWords64 (block ++ List.replicate (128 - block.length) 0)).toArray
  let m : Words := Vector.ofFn fun i => words.getD i 0
  let v : Words := h ++ initialChain
  let v := v.set 12 (v[12] ^^^ .ofNat count)
  let v := v.set 13 (v[13] ^^^ .ofNat (count >>> 64))
  let v := if isLast then v.set 14 (~~~v[14]) else v
  let v := Nat.fold 12 (fun i _ v => round m (order.get ⟨i % 10, Nat.mod_lt _ (by decide)⟩) v) v
  Vector.ofFn fun i : Fin 8 => h[i] ^^^ v.get ⟨i, by omega⟩ ^^^ v.get ⟨i + 8, by omega⟩

def absorb (h : Chain) (count : Nat) : List Bytes → Chain
  | [] => compress h [] count true
  | [block] => compress h block (count + block.length) true
  | block :: rest => absorb (compress h block (count + block.length) false) (count + block.length) rest

def Chain.toBytes (h : Chain) : Bytes := h.toList.flatMap littleEndian64

theorem Chain.toBytes_length (h : Chain) : (Chain.toBytes h).length = 64 := by
  simp [Chain.toBytes, List.length_flatMap, List.map_const']

/-- A digest of `length` bytes, at most sixty-four. -/
def hash (length : Nat) (message : Bytes) : Bytes :=
  let h := initialChain.set 0 (initialChain[0] ^^^ 0x01010000 ^^^ .ofNat length)
  (Chain.toBytes (absorb h 0 (message.chunks 128))).take length

theorem hash_length {length : Nat} (h : length ≤ 64) (message : Bytes) :
    (hash length message).length = length := by
  simp only [hash, List.length_take, Chain.toBytes_length]
  omega

end PasswordHashing.Blake2b
