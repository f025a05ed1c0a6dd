import PasswordHashing.Proofs.Profile.StoredTexts

/-!
What the text of a password is read back as. Hashing is bounded by what the functions can
work with, and reading by ceilings that keep a text from asking for too much work, so a
profile of the caller's choice can write numbers that no reader lets through. Main statement:
a text with a salt is read back as the profile's algorithm, the salt that was used, the
numbers unless they are masked, and the digest; and where numbers are written that are above
the ceilings, the text is refused for them and for nothing else.
-/

namespace PasswordHashing

open HashText

namespace KeySettings

/-- The hash has what a password and a salt come to under the settings. -/
structure IsHashOf (s : KeySettings) (password salt : Bytes) (hash : KeyHash) : Prop where
  algorithm_eq : hash.algorithm = s.algorithm
  salt_eq : hash.salt = salt
  cost_eq : hash.cost = if s.masked then none else some s.cost
  hasCost : s.function.HasCost s.keyLength s.cost
  digest_eq : s.digest password salt = .ok hash.digest

variable {s : KeySettings} {password salt digest : Bytes}

theorem isHashOf_hashOf (h : s.digest password salt = .ok digest) :
    s.IsHashOf password salt (s.hashOf salt digest) where
  algorithm_eq := rfl
  salt_eq := rfl
  cost_eq := rfl
  hasCost := KeyDerivation.hasCost_cost_of_derive h
  digest_eq := h

/-- The text that is above the ceilings is refused for its numbers. -/
theorem parse_encode_hashOf_of_not_within (h : s.digest password salt = .ok digest)
    (hsalt : salt ≠ []) (hmasked : s.masked = false)
    (hwithin : ¬s.function.WithinCeilings s.keyLength) :
    (¬s.cost.PowerOfTwo ∧ parse (s.hashOf salt digest).encode = .error .scryptCost) ∨
      ∃ field, s.cost.overrun? = some field ∧
        parse (s.hashOf salt digest).encode = .error (.costLimit field) := by
  have hcost : (s.hashOf salt digest).cost = some s.cost :=
    hashOf_cost_eq_some_iff.2 ⟨hmasked, rfl⟩
  have hlimits : ¬s.cost.WithinLimits := mt (KeyDerivation.withinLimits_cost_iff h).1 hwithin
  exact KeyHash.parse_encode_of_not_withinLimits s.function.algorithm_ne_bcrypt hsalt
    (digest_ne_nil h) hcost (s.familyFits_hashOf salt digest _ hcost) hlimits

end KeySettings

namespace Profile

variable {p : Profile} {s : KeySettings} {password fresh : Bytes} {text : String}

/-- A text with a salt is read back as the hash it was made of, unless it names numbers above
the ceilings; then it is refused for them. -/
theorem hashed_text_reads_back (hp : p.parameters = .key s)
    (hhash : (p.hash password fresh).result = .ok text)
    (hsalt : s.pinnedSalt.getD fresh ≠ []) :
    ((s.masked = false → s.function.WithinCeilings s.keyLength) →
      ∃ hash, parse text = .ok (.key hash) ∧
        s.IsHashOf password (s.pinnedSalt.getD fresh) hash) ∧
    (s.masked = false → ¬s.function.WithinCeilings s.keyLength →
      (¬s.cost.PowerOfTwo ∧ parse text = .error .scryptCost) ∨
        ∃ field, s.cost.overrun? = some field ∧ parse text = .error (.costLimit field)) := by
  obtain ⟨digest, hdigest, rfl⟩ := (hash_eq_ok_iff_of_key hp).1 hhash
  constructor
  · intro hwithin
    have hparse := (KeySettings.parse_encode_hashOf hdigest).1 ⟨hsalt, hwithin⟩
    exact ⟨_, hparse, KeySettings.isHashOf_hashOf hdigest⟩
  · intro hmasked hwithin
    exact KeySettings.parse_encode_hashOf_of_not_within hdigest hsalt hmasked hwithin

/-- A salt of one byte and the least cost above one will do. -/
theorem hashed_text_of_small_scrypt_reads_back :
    ∃ text hash, ((custom (.key .leastScrypt)).hash [] [1]).result = .ok text ∧
      parse text = .ok (.key hash) ∧ KeySettings.leastScrypt.IsHashOf [] [1] hash := by
  obtain ⟨text, hhash⟩ : ∃ text,
      ((custom (.key .leastScrypt)).hash [] [1]).result = .ok text := ⟨_, rfl⟩
  have hreadable : KeySettings.leastScrypt.Readable [1] :=
    KeySettings.leastScrypt_readable (by decide)
  obtain ⟨hash, hparse, his⟩ :=
    (hashed_text_reads_back (s := .leastScrypt) rfl hhash hreadable.salt_ne).1 hreadable.within
  exact ⟨text, hash, hhash, hparse, his⟩

/-- One pass more than a reader lets through is written without complaint, and so is a text
that has no salt. -/
theorem hashed_text_refused :
    (∃ text,
      ((custom (.key { function := .argon2 .id 65 8 1, keyLength := 4, saltLength := 8 })).hash
        [] [1, 2, 3, 4, 5, 6, 7, 8]).result = .ok text ∧
      parse text = .error (.costLimit .time)) ∧
    ∃ text, ((custom (.key { function := .scrypt 1 1 1, keyLength := 10, saltLength := 0 })).hash
        [] []).result = .ok text ∧
      parse text = .error .emptyField := by
  constructor
  · obtain ⟨text, hhash⟩ : ∃ text,
        ((custom (.key { function := .argon2 .id 65 8 1, keyLength := 4, saltLength := 8 })).hash
          [] [1, 2, 3, 4, 5, 6, 7, 8]).result = .ok text := ⟨_, rfl⟩
    refine ⟨text, hhash, ?_⟩
    obtain ⟨digest, hdigest, rfl⟩ := (hash_eq_ok_iff_of_key rfl).1 hhash
    have hwithin : ¬KeyDerivation.WithinCeilings 4 (.argon2 .id 65 8 1) := by
      simp [KeyDerivation.WithinCeilings]
    rcases KeySettings.parse_encode_hashOf_of_not_within hdigest (by decide) rfl hwithin with
      ⟨hpower, -⟩ | ⟨field, hfield, hparse⟩
    · exact absurd trivial hpower
    · cases hfield
      exact hparse
  · obtain ⟨text, hhash⟩ : ∃ text,
        ((custom (.key { function := .scrypt 1 1 1, keyLength := 10, saltLength := 0 })).hash
          [] []).result = .ok text := ⟨_, rfl⟩
    refine ⟨text, hhash, ?_⟩
    obtain ⟨digest, hdigest, rfl⟩ := (hash_eq_ok_iff_of_key rfl).1 hhash
    exact KeyHash.parse_encode_of_salt_eq_nil rfl

end Profile

end PasswordHashing
