import PasswordHashing.Sha256

/-!
HMAC-SHA256, and PBKDF2 over it with a single iteration. A key longer than a block is
hashed first, and every key is filled with zeros to the length of a block; two keys that
are filled to the same block are therefore the same key. Main statement: PBKDF2 gives as
many bytes as are asked for.
-/

namespace PasswordHashing

namespace Hmac

def keyBlock (key : Bytes) : Bytes :=
  let key := if Sha256.blockLength < key.length then Sha256.hash key else key
  key ++ List.replicate (Sha256.blockLength - key.length) 0

/-- The code of a message under a key block. -/
def ofKeyBlock (block message : Bytes) : Bytes :=
  Sha256.hash (block.map (· ^^^ 0x5c) ++ Sha256.hash (block.map (· ^^^ 0x36) ++ message))

def code (key message : Bytes) : Bytes := ofKeyBlock (keyBlock key) message

@[simp] theorem ofKeyBlock_length (block message : Bytes) :
    (ofKeyBlock block message).length = Sha256.digestLength := Sha256.hash_length _

@[simp] theorem code_length (key message : Bytes) :
    (code key message).length = Sha256.digestLength := ofKeyBlock_length _ _

end Hmac

namespace Pbkdf2

/-- Codes of the salt and a block number that counts from one, cut to `length` bytes. -/
def derive (password salt : Bytes) (length : Nat) : Bytes :=
  let key := Hmac.keyBlock password
  ((List.range ((length + 31) / 32)).flatMap fun i =>
    Hmac.ofKeyBlock key (salt ++ bigEndian32 (.ofNat (i + 1)))).take length

@[simp] theorem derive_length (password salt : Bytes) (length : Nat) :
    (derive password salt length).length = length := by
  simp only [derive, List.length_take, List.length_flatMap, Hmac.ofKeyBlock_length,
    Sha256.digestLength, List.map_const', List.length_range, List.sum_replicate_nat]
  omega

end Pbkdf2

end PasswordHashing
