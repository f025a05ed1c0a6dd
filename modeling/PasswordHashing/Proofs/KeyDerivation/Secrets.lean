import Mathlib.Data.Fintype.BigOperators
import Mathlib.Data.Fintype.Pigeonhole
import PasswordHashing.Proofs.Refusal

/-!
Where a secret goes. Argon2 hashes it with its length behind all other inputs, and scrypt is
given a code of the password under the block that the secret is filled to. Two secrets are the
same for a function exactly if it is handed the same for both. Main statement: secrets that are
not the same lead to one key only if one of the functions in between takes two inputs that are
known to one value.
-/

namespace PasswordHashing

/-- The two are different and have one value. -/
def Collides {α β : Type} (g : α → β) (x y : α) : Prop := x ≠ y ∧ g x = g y

/-- Too many byte strings of one length have images of a lesser length for all to be different. -/
theorem Bytes.exists_collides {m n : Nat} (hlt : n < m) (g : Bytes → Bytes)
    (hlength : ∀ x, (g x).length = n) :
    ∃ x y : Bytes, x.length = m ∧ y.length = m ∧ Collides g x y := by
  let image (v : List.Vector (Fin UInt8.size) m) : List.Vector (Fin UInt8.size) n :=
    ⟨(g (v.toList.map UInt8.ofFin)).map UInt8.toFin, by rw [List.length_map, hlength]⟩
  have hcard : Fintype.card (List.Vector (Fin UInt8.size) n) <
      Fintype.card (List.Vector (Fin UInt8.size) m) := by
    rw [card_vector, card_vector, Fintype.card_fin]
    exact Nat.pow_lt_pow_right (by decide) hlt
  obtain ⟨x, y, hne, himage⟩ := Fintype.exists_ne_map_eq_of_card_lt image hcard
  refine ⟨x.toList.map UInt8.ofFin, y.toList.map UInt8.ofFin, by simp, by simp, ?_, ?_⟩
  · intro hsame
    have hbyte : Function.Injective UInt8.ofFin :=
      Function.LeftInverse.injective UInt8.toFin_ofFin
    exact hne (Subtype.ext (List.map_injective_iff.2 hbyte hsame))
  · exact (List.map_inj_right fun _ _ => UInt8.toFin_inj.1).1 (congrArg Subtype.val himage)

/-! ### The secret of Argon2 -/

namespace Argon2

/-- What Argon2 hashes before it fills its memory. -/
def initialMessage (v : Variant) (q : Parameters) (secret password salt : Bytes) : Bytes :=
  littleEndian32 q.threads ++ littleEndian32 q.keyLength.toUInt32 ++
    littleEndian32 q.memory ++ littleEndian32 q.time ++ littleEndian32 version ++
    littleEndian32 v.code ++ lengthPrefixed password ++ lengthPrefixed salt ++
    lengthPrefixed secret ++ lengthPrefixed []

/-- What becomes of the hash that memory is filled from. -/
def ofInitialHash (v : Variant) (q : Parameters) (hash : Bytes) : Bytes :=
  let s := Shape.of v q
  longHash q.keyLength.toNat (lastBlocks s (fill s (startMemory s hash))).toBytes

theorem initialHash_eq (v : Variant) (q : Parameters) (secret password salt : Bytes) :
    initialHash v q secret password salt =
      Blake2b.hash 64 (initialMessage v q secret password salt) := rfl

theorem derive_eq (v : Variant) (q : Parameters) (secret password salt : Bytes) :
    derive v q secret password salt = ofInitialHash v q (initialHash v q secret password salt) :=
  rfl

theorem lengthPrefixed_injective {x y : Bytes} (h : lengthPrefixed x = lengthPrefixed y) :
    x = y :=
  (List.append_inj h rfl).2

theorem initialMessage_injective {v : Variant} {q : Parameters} {x y password salt : Bytes}
    (h : initialMessage v q x password salt = initialMessage v q y password salt) : x = y := by
  have hfront := List.append_cancel_right h
  exact lengthPrefixed_injective (List.append_cancel_left hfront)

/-- A key cannot tell all secrets apart that are longer than itself. -/
theorem exists_collides_derive (v : Variant) (q : Parameters) (password salt : Bytes) :
    ∃ x y : Bytes, x.length = q.keyLength.toNat + 1 ∧ y.length = q.keyLength.toNat + 1 ∧
      Collides (derive v q · password salt) x y :=
  Bytes.exists_collides (Nat.lt_succ_self _) (derive v q · password salt)
    fun secret => derive_length v q secret password salt

end Argon2

/-! ### The secret of scrypt -/

/-- Keys of one length that fit a block are filled to different blocks. -/
theorem Hmac.keyBlock_injective {x y : Bytes} (hlength : x.length = y.length)
    (hshort : x.length ≤ Sha256.blockLength) (h : keyBlock x = keyBlock y) : x = y := by
  rw [keyBlock, keyBlock, if_neg (Nat.not_lt.2 hshort),
    if_neg (Nat.not_lt.2 (hlength ▸ hshort))] at h
  exact (List.append_inj h hlength).1

/-- The bytes that a password stretches to, by the block that the password is filled to. -/
def Pbkdf2.ofKeyBlock (block salt : Bytes) (length : Nat) : Bytes :=
  ((List.range ((length + 31) / 32)).flatMap fun i =>
    Hmac.ofKeyBlock block (salt ++ bigEndian32 (.ofNat (i + 1)))).take length

/-- The output of scrypt, by the block that the password is filled to. -/
def Scrypt.ofKeyBlock (q : Parameters) (salt block : Bytes) : Bytes :=
  let blockLength := 128 * q.r.toNat
  let blocks := (Pbkdf2.ofKeyBlock block salt (blockLength * q.p.toNat)).chunks blockLength
  let mixed := blocks.flatMap fun b => ((Block.ofBytes b).mixHard (1 <<< q.logN.toNat)).toBytes
  Pbkdf2.ofKeyBlock block mixed q.keyLength.toNat

theorem Scrypt.derive_eq (q : Parameters) (password salt : Bytes) :
    derive q password salt = ofKeyBlock q salt (Hmac.keyBlock password) := rfl

/-! ### Secrets that are the same -/

namespace KeyDerivation

/-- The function is handed the same for both secrets. No secret is an empty one for Argon2 and
none at all for scrypt. -/
def SameSecret (f : KeyDerivation) (x y : Option Bytes) : Prop :=
  match f with
  | .argon2 .. => x.getD [] = y.getD []
  | .scrypt .. => x.map Hmac.keyBlock = y.map Hmac.keyBlock

variable {f : KeyDerivation} {keyLength : UInt64} {x y : Option Bytes} {password salt : Bytes}

theorem keyedPassword_eq_of_map_eq (h : x.map Hmac.keyBlock = y.map Hmac.keyBlock)
    (password : Bytes) : keyedPassword x password = keyedPassword y password := by
  cases x with
  | none =>
      cases y with
      | none => rfl
      | some y => cases h
  | some x =>
      cases y with
      | none => cases h
      | some y =>
          rw [keyedPassword, keyedPassword, Hmac.code, Hmac.code, Option.some.inj h]

theorem derive_eq_of_sameSecret (h : f.SameSecret x y) (keyLength : UInt64)
    (password salt : Bytes) :
    f.derive keyLength x password salt = f.derive keyLength y password salt := by
  cases f with
  | argon2 variant time memory threads =>
      have hsecret : x.getD [] = y.getD [] := h
      rw [derive, derive, hsecret]
  | scrypt logN r p => rw [derive, derive, keyedPassword_eq_of_map_eq h password]

/-! ### Secrets that are not -/

theorem eq_derive_of_argon2 {variant : Argon2.Variant} {time memory threads : UInt32} {key : Bytes}
    (h : (argon2 variant time memory threads).derive keyLength x password salt = .ok key) :
    key = Argon2.derive variant { time, memory, threads, keyLength } (x.getD []) password salt := by
  simp only [derive] at h
  split at h <;> cases h
  rfl

theorem eq_derive_of_scrypt {logN : UInt8} {r p : UInt32} {key : Bytes}
    (h : (scrypt logN r p).derive keyLength x password salt = .ok key) :
    key = Scrypt.derive { logN, r, p, keyLength } (keyedPassword x password) salt := by
  simp only [derive] at h
  split at h <;> cases h
  rfl

/-- Whatever the numbers of Argon2 are, two secrets that are not the same lead to one key. -/
theorem exists_secrets_of_one_key {variant : Argon2.Variant} {time memory threads : UInt32}
    (h : (argon2 variant time memory threads).refusal? keyLength salt.length = none)
    (hpassword : password.Short) (hlength : keyLength.toNat + 1 < 2 ^ 32) :
    ∃ secret other key : Bytes, other ≠ secret ∧
      (argon2 variant time memory threads).derive keyLength (some secret) password salt =
        .ok key ∧
      (argon2 variant time memory threads).derive keyLength (some other) password salt =
        .ok key := by
  obtain ⟨secret, other, hsecret, hother, hne, hderive⟩ := Argon2.exists_collides_derive variant
    { time, memory, threads, keyLength } password salt
  have hshort {b : Bytes} (hb : b.length = keyLength.toNat + 1) : ∀ c ∈ some b, c.Short := by
    rintro c ⟨⟩
    exact hb.trans_lt hlength
  obtain ⟨key, hkey⟩ := exists_key_of_refusal?_eq_none (hshort hsecret) hpassword h
  obtain ⟨key', hkey'⟩ := exists_key_of_refusal?_eq_none (hshort hother) hpassword h
  obtain rfl : key' = key := by
    rw [eq_derive_of_argon2 hkey, eq_derive_of_argon2 hkey']
    exact hderive.symm
  exact ⟨secret, other, key', hne.symm, hkey, hkey'⟩

/-- One of the functions that a key goes through takes two inputs to one value that it was handed
on account of the two secrets. The last case of scrypt has no second secret: the password stands
for its own code. -/
inductive Confuses (keyLength : UInt64) (password salt : Bytes) :
    KeyDerivation → Option Bytes → Bytes → Prop
  | initialHash {variant : Argon2.Variant} {time memory threads : UInt32} {other : Option Bytes}
      {secret : Bytes}
      (h : Collides (Blake2b.hash 64)
        (Argon2.initialMessage variant { time, memory, threads, keyLength } (other.getD [])
          password salt)
        (Argon2.initialMessage variant { time, memory, threads, keyLength } secret
          password salt)) :
      Confuses keyLength password salt (.argon2 variant time memory threads) other secret
  | memory {variant : Argon2.Variant} {time memory threads : UInt32} {other : Option Bytes}
      {secret : Bytes}
      (h : Collides (Argon2.ofInitialHash variant { time, memory, threads, keyLength })
        (Argon2.initialHash variant { time, memory, threads, keyLength } (other.getD [])
          password salt)
        (Argon2.initialHash variant { time, memory, threads, keyLength } secret
          password salt)) :
      Confuses keyLength password salt (.argon2 variant time memory threads) other secret
  | code {logN : UInt8} {r p : UInt32} {other secret : Bytes}
      (h : Collides (Hmac.ofKeyBlock · password) (Hmac.keyBlock other) (Hmac.keyBlock secret)) :
      Confuses keyLength password salt (.scrypt logN r p) (some other) secret
  | mixing {logN : UInt8} {r p : UInt32} {other : Option Bytes} {secret : Bytes}
      (h : Collides (Scrypt.ofKeyBlock { logN, r, p, keyLength } salt)
        (Hmac.keyBlock (keyedPassword other password))
        (Hmac.keyBlock (Hmac.code secret password))) :
      Confuses keyLength password salt (.scrypt logN r p) other secret
  | ownCode {logN : UInt8} {r p : UInt32} {secret : Bytes}
      (h : Hmac.keyBlock password = Hmac.keyBlock (Hmac.code secret password)) :
      Confuses keyLength password salt (.scrypt logN r p) none secret

variable {other : Option Bytes} {secret key : Bytes}

theorem confuses_of_argon2 {variant : Argon2.Variant} {time memory threads : UInt32}
    (hne : ¬(argon2 variant time memory threads).SameSecret other (some secret))
    (h : Argon2.derive variant { time, memory, threads, keyLength } (other.getD []) password salt =
      Argon2.derive variant { time, memory, threads, keyLength } secret password salt) :
    (argon2 variant time memory threads).Confuses keyLength password salt other secret := by
  rw [Argon2.derive_eq, Argon2.derive_eq] at h
  by_cases hhash :
      Argon2.initialHash variant { time, memory, threads, keyLength } (other.getD []) password salt =
        Argon2.initialHash variant { time, memory, threads, keyLength } secret password salt
  · rw [Argon2.initialHash_eq, Argon2.initialHash_eq] at hhash
    exact .initialHash ⟨fun hmessage => hne (Argon2.initialMessage_injective hmessage), hhash⟩
  · exact .memory ⟨hhash, h⟩

theorem confuses_of_scrypt {logN : UInt8} {r p : UInt32}
    (hne : ¬(scrypt logN r p).SameSecret other (some secret))
    (h : Scrypt.derive { logN, r, p, keyLength } (keyedPassword other password) salt =
      Scrypt.derive { logN, r, p, keyLength } (Hmac.code secret password) salt) :
    (scrypt logN r p).Confuses keyLength password salt other secret := by
  rw [Scrypt.derive_eq, Scrypt.derive_eq] at h
  by_cases hblock : Hmac.keyBlock (keyedPassword other password) =
      Hmac.keyBlock (Hmac.code secret password)
  · cases other with
    | none => exact .ownCode hblock
    | some other =>
        -- two codes are of one length, so the blocks are the same only if the codes are
        have hlength : (Hmac.code other password).length = (Hmac.code secret password).length := by
          rw [Hmac.code_length, Hmac.code_length]
        have hshort : (Hmac.code other password).length ≤ Sha256.blockLength := by
          rw [Hmac.code_length]
          decide
        have hcode := Hmac.keyBlock_injective hlength hshort hblock
        exact .code ⟨fun hsame => hne (congrArg some hsame), hcode⟩
  · exact .mixing ⟨hblock, h⟩

/-- Secrets that are not the same have one key only by a collision. -/
theorem confuses_of_derive_eq (hne : ¬f.SameSecret other (some secret))
    (hother : f.derive keyLength other password salt = .ok key)
    (hsecret : f.derive keyLength (some secret) password salt = .ok key) :
    f.Confuses keyLength password salt other secret := by
  cases f with
  | argon2 variant time memory threads =>
      have hkey := eq_derive_of_argon2 hother
      rw [eq_derive_of_argon2 hsecret] at hkey
      exact confuses_of_argon2 hne hkey.symm
  | scrypt logN r p =>
      have hkey := eq_derive_of_scrypt hother
      rw [eq_derive_of_scrypt hsecret] at hkey
      exact confuses_of_scrypt hne hkey.symm

end KeyDerivation

end PasswordHashing
