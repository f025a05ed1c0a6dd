import PasswordHashing.Parameters
import PasswordHashing.Proofs.HashText.RoundTrip
import PasswordHashing.Proofs.KeyDerivation

/-!
The texts that settings write. Two checks that know nothing of each other decide what
becomes of a hash: the function refuses numbers it cannot work with, and a reader of the
text refuses numbers above its ceilings. Main statement: once a key was derived, its text
can be read exactly if the salt is not empty and, unless the numbers are left out of the
text, they are below the ceilings.
-/

namespace PasswordHashing

open HashText

namespace KeyDerivation

/-- The numbers are such as a text may name. The memory of Argon2 is counted in KiB, and the
cost of scrypt by its exponent. -/
def WithinCeilings (keyLength : UInt64) : KeyDerivation → Prop
  | .argon2 _ time memory threads =>
    time.toNat ≤ 64 ∧ memory.toNat ≤ 2 ^ 20 ∧ threads.toNat ≤ 64 ∧ keyLength.toNat ≤ 1024
  | .scrypt logN r p =>
    1 ≤ logN.toNat ∧ logN.toNat ≤ 24 ∧ r.toNat ≤ 32 ∧ p.toNat ≤ 16 ∧
      128 * r.toNat * 2 ^ logN.toNat ≤ 2 ^ 30

variable {keyLength : UInt64} {secret : Option Bytes} {password salt key : Bytes}

/-- The limits of a text are the ceilings on the function, and one on the key of scrypt. -/
theorem withinLimits_iff_of_hasCost {f : KeyDerivation} {cost : Cost}
    (h : f.HasCost keyLength cost) :
    cost.WithinLimits ↔
      f.WithinCeilings keyLength ∧ (f.family = .scrypt → keyLength.toNat ≤ 64) := by
  cases f with
  | argon2 variant time memory threads =>
      obtain rfl := h
      simp only [Cost.WithinLimits, Cost.PowerOfTwo, Cost.BelowCeilings, WithinCeilings, family,
        algorithm, Algorithm.family, reduceCtorEq, false_imp_iff, true_and, and_true]
      omega
  | scrypt logN r p =>
      obtain ⟨n, rfl, hn⟩ := h
      have htwo : 2 ≤ 2 ^ logN.toNat ↔ 1 ≤ logN.toNat :=
        Nat.pow_le_pow_iff_right (a := 2) (n := 1) (by omega)
      have hceiling : 2 ^ logN.toNat ≤ 2 ^ 24 ↔ logN.toNat ≤ 24 :=
        Nat.pow_le_pow_iff_right (by omega)
      simp only [Cost.WithinLimits, Cost.PowerOfTwo, Cost.BelowCeilings, WithinCeilings, hn, htwo,
        hceiling]
      constructor
      · rintro ⟨⟨hpos, -⟩, hle, hr, hp, hlength, hmemory⟩
        exact ⟨⟨hpos, hle, hr, hp, hmemory⟩, fun _ => hlength⟩
      · rintro ⟨⟨hpos, hle, hr, hp, hmemory⟩, hlength⟩
        exact ⟨⟨hpos, logN.toNat, rfl⟩, hle, hr, hp, hlength rfl, hmemory⟩

theorem hasCost_cost_of_derive {f : KeyDerivation}
    (h : f.derive keyLength secret password salt = .ok key) :
    f.HasCost keyLength (f.cost keyLength) := by
  apply hasCost_cost
  rintro logN r p rfl
  exact logN_lt_of_derive h

/-- The ceiling on the key of scrypt is one that the function has itself. -/
theorem withinLimits_cost_iff {f : KeyDerivation}
    (h : f.derive keyLength secret password salt = .ok key) :
    (f.cost keyLength).WithinLimits ↔ f.WithinCeilings keyLength := by
  rw [withinLimits_iff_of_hasCost (hasCost_cost_of_derive h), and_iff_left]
  intro hfamily
  cases f with
  | argon2 => cases hfamily
  | scrypt logN r p => exact (scrypt_keyLength_of_derive h).2

end KeyDerivation

namespace KeySettings

/-- A reader can make sense of what the settings write with this salt. -/
structure Readable (s : KeySettings) (salt : Bytes) : Prop where
  salt_ne : salt ≠ []
  within : s.masked = false → s.function.WithinCeilings s.keyLength

variable {s : KeySettings} {password salt digest : Bytes}

/-- Readers know nothing of a secret. -/
theorem Readable.withSecret (h : s.Readable salt) (secret : Option Bytes) :
    Readable { s with secret } salt := ⟨h.salt_ne, h.within⟩

theorem hash_eq_ok_iff {fresh : Bytes} {text : String} :
    s.hash password fresh = .ok text ↔
      ∃ digest, s.digest password (s.pinnedSalt.getD fresh) = .ok digest ∧
        (s.hashOf (s.pinnedSalt.getD fresh) digest).encode = text :=
  map_eq_ok_iff

theorem digest_ne_nil (h : s.digest password salt = .ok digest) : digest ≠ [] := by
  rintro rfl
  have hlength := KeyDerivation.length_of_derive h
  have hpos := KeyDerivation.keyLength_pos_of_derive h
  rw [List.length_nil] at hlength
  omega

theorem hashOf_cost_eq_some_iff {cost : Cost} :
    (s.hashOf salt digest).cost = some cost ↔ s.masked = false ∧ s.cost = cost := by
  unfold hashOf
  cases s.masked with
  | false => simp
  | true => simp

theorem familyFits_hashOf (s : KeySettings) (salt digest : Bytes) :
    (s.hashOf salt digest).FamilyFits := by
  intro cost hcost
  obtain ⟨-, rfl⟩ := hashOf_cost_eq_some_iff.1 hcost
  exact s.function.cost_family s.keyLength

theorem costFits_hashOf_iff (h : s.digest password salt = .ok digest) :
    (s.hashOf salt digest).CostFits ↔
      (s.masked = false → s.function.WithinCeilings s.keyLength) := by
  constructor
  · intro hfits hmasked
    have hlimits := (hfits s.cost (hashOf_cost_eq_some_iff.2 ⟨hmasked, rfl⟩)).2.1
    exact (KeyDerivation.withinLimits_cost_iff h).1 hlimits
  · intro hwithin cost hcost
    have hfamily := s.familyFits_hashOf salt digest cost hcost
    obtain ⟨hmasked, rfl⟩ := hashOf_cost_eq_some_iff.1 hcost
    refine ⟨hfamily, (KeyDerivation.withinLimits_cost_iff h).2 (hwithin hmasked), ?_⟩
    rw [cost, KeyDerivation.cost_keyLength]
    exact (KeyDerivation.length_of_derive h).symm

theorem wellFormed_hashOf_iff (h : s.digest password salt = .ok digest) :
    (s.hashOf salt digest).WellFormed ↔ s.Readable salt := by
  constructor
  · intro hwell
    exact ⟨hwell.salt_ne, (costFits_hashOf_iff h).1 hwell.cost_fits⟩
  · intro hreadable
    exact ⟨s.function.algorithm_ne_bcrypt, hreadable.salt_ne, digest_ne_nil h,
      (costFits_hashOf_iff h).2 hreadable.within⟩

/-- What is written is read back, or it is an error; it is never read as another hash. -/
theorem parse_encode_hashOf (h : s.digest password salt = .ok digest) :
    (s.Readable salt →
        parse (s.hashOf salt digest).encode = .ok (.key (s.hashOf salt digest))) ∧
      (¬s.Readable salt → ∃ e, parse (s.hashOf salt digest).encode = .error e) := by
  rw [← wellFormed_hashOf_iff h]
  exact ⟨KeyHash.parse_encode, KeyHash.parse_encode_eq_error s.function.algorithm_ne_bcrypt
    (s.familyFits_hashOf salt digest)⟩

/-- If the text of a digest can be read at all, it is read as what it was made of. -/
theorem eq_of_parse_encode_hashOf {parsed : HashText} (h : s.digest password salt = .ok digest)
    (hparse : parse (s.hashOf salt digest).encode = .ok parsed) :
    parsed = .key (s.hashOf salt digest) := by
  by_cases hreadable : s.Readable salt
  · rw [(parse_encode_hashOf h).1 hreadable] at hparse
    exact (Except.ok.inj hparse).symm
  · obtain ⟨e, he⟩ := (parse_encode_hashOf h).2 hreadable
    rw [he] at hparse
    cases hparse

/-! ### The least settings -/

/-- The least numbers of scrypt that a text can name, and salts of one byte. -/
def leastScrypt : KeySettings := { function := .scrypt 1 1 1, keyLength := 10, saltLength := 1 }

/-- The least numbers that Argon2 takes, and the shortest salts. -/
def leastArgon2 : KeySettings :=
  { function := .argon2 .id 1 8 1, keyLength := 4, saltLength := 8 }

theorem leastScrypt_readable (hsalt : salt ≠ []) : leastScrypt.Readable salt :=
  ⟨hsalt, fun _ => by simp [leastScrypt, KeyDerivation.WithinCeilings]⟩

theorem leastArgon2_readable (hsalt : salt ≠ []) : leastArgon2.Readable salt :=
  ⟨hsalt, fun _ => by simp [leastArgon2, KeyDerivation.WithinCeilings]⟩

end KeySettings

end PasswordHashing
