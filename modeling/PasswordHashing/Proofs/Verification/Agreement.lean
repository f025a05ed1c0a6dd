import PasswordHashing.Proofs.Profile.StoredTexts

/-!
The two comparisons beside each other. One builds its settings from the cost fields of the
text, the other has them from the caller, with a pinned salt, a length for fresh salts and a
layout of its own. Main statement: where the caller's numbers are those of the text and there
is no secret, both give the same answer and log the same events, and there always is such a
caller; over a bcrypt text every profile of bcrypt does.
-/

namespace PasswordHashing

open HashText

namespace KeySettings

variable {s s' : KeySettings} {hash : KeyHash} {password : Bytes}

/-- All that a secret, a salt or a layout can matter by is the digest. -/
theorem verify_eq_of_digest_eq {password' : Bytes} (hfunction : s.function = s'.function)
    (hdigest : s.digest password hash.salt = s'.digest password' hash.salt) :
    s.verify hash password = s'.verify hash password' := by
  rw [verify, verify, hdigest, algorithm, algorithm, family, family, hfunction]

/-- How the settings hash is no concern of a comparison. -/
theorem verify_congr (hfunction : s.function = s'.function) (hlength : s.keyLength = s'.keyLength)
    (hsecret : s.secret = s'.secret) : s.verify hash password = s'.verify hash password := by
  apply verify_eq_of_digest_eq hfunction
  rw [digest, digest, hfunction, hlength, hsecret]

/-- The settings that a hash describes are those of its numbers, with all else left out. -/
theorem ofHash?_of_cost_eq (hfits : hash.CostFits) (halgorithm : s.algorithm = hash.algorithm)
    (hcost : hash.cost = some s.cost) :
    ofHash? hash = some { function := s.function, keyLength := s.keyLength } :=
  (ofHash?_eq_some_iff hfits).2 ⟨s.function, s.keyLength, rfl, halgorithm, hcost⟩

end KeySettings

/-- Settings of one function that derive the same digests compare alike. -/
theorem Parameters.compare_eq_of_digest_eq {s s' : KeySettings} {password password' : Bytes}
    (hfunction : s.function = s'.function)
    (hdigest : ∀ salt, s.digest password salt = s'.digest password' salt) (text : String) :
    (Parameters.key s).compare text password = (Parameters.key s').compare text password' := by
  rw [Parameters.compare, Parameters.compare]
  cases parse text with
  | error e => rfl
  | ok parsed =>
      cases parsed with
      | bcrypt kept =>
          simp only [Parameters.family, KeySettings.family, hfunction]
      | key hash => exact KeySettings.verify_eq_of_digest_eq hfunction (hdigest hash.salt)

theorem comparePublic_eq_verify {s : KeySettings} {hash : KeyHash} (hfits : hash.CostFits)
    (halgorithm : s.algorithm = hash.algorithm) (hcost : hash.cost = some s.cost)
    (hsecret : s.secret = none) (password : Bytes) :
    comparePublic hash password = s.verify hash password := by
  have hmasked : ¬hash.isMasked = true := by simp [KeyHash.isMasked, hcost]
  rw [comparePublic, if_neg hmasked, KeySettings.ofHash?_of_cost_eq hfits halgorithm hcost]
  exact KeySettings.verify_congr rfl rfl hsecret.symm

namespace Profile

/-- The hash has the algorithm and the numbers of the profile, which has no secret. -/
def DescribedBy (p : Profile) (hash : KeyHash) : Prop :=
  ∃ s, p.parameters = .key s ∧ s.secret = none ∧ s.algorithm = hash.algorithm ∧
    hash.cost = some s.cost

variable {p : Profile} {text : String} {hash : KeyHash}

theorem compare_eq_of_describedBy (hparse : parse text = .ok (.key hash))
    (h : p.DescribedBy hash) (password : Bytes) :
    p.compare text password = PasswordHashing.compare text password := by
  obtain ⟨s, hp, hsecret, halgorithm, hcost⟩ := h
  have hfits := (wellFormed_of_parse hparse).cost_fits
  rw [Profile.compare, Parameters.compare, PasswordHashing.compare, hparse, hp]
  exact (comparePublic_eq_verify hfits halgorithm hcost hsecret password).symm

theorem exists_custom_describedBy (hparse : parse text = .ok (.key hash))
    (hmasked : hash.isMasked = false) :
    ∃ f keyLength, (custom (.key { function := f, keyLength })).DescribedBy hash := by
  obtain ⟨f, keyLength, -, halgorithm, hcost⟩ := exists_function_of_parse hparse hmasked
  exact ⟨f, keyLength, _, rfl, rfl, halgorithm, hcost⟩

theorem compare_eq_of_bcrypt {kept : String} {cost : UInt32}
    (hparse : parse text = .ok (.bcrypt kept)) (hp : p.parameters = .bcrypt cost)
    (password : Bytes) : p.compare text password = PasswordHashing.compare text password := by
  rw [Profile.compare, Parameters.compare, PasswordHashing.compare, hparse, hp]

/-- A profile without a secret whose numbers stand in the text answers and logs what the
comparison without a profile does, and some profile is one like that; for a bcrypt text each
profile of bcrypt is. -/
theorem compare_eq_self_described (text : String) (password : Bytes) :
    (∀ hash, parse text = .ok (.key hash) → hash.isMasked = false →
      (∀ p : Profile, p.DescribedBy hash →
        p.compare text password = PasswordHashing.compare text password) ∧
      ∃ f keyLength, (custom (.key { function := f, keyLength })).DescribedBy hash) ∧
    ∀ kept, parse text = .ok (.bcrypt kept) →
      ∀ (p : Profile) (cost : UInt32), p.parameters = .bcrypt cost →
        p.compare text password = PasswordHashing.compare text password := by
  refine ⟨?_, ?_⟩
  · intro hash hparse hmasked
    exact ⟨fun p hp => compare_eq_of_describedBy hparse hp password,
      exists_custom_describedBy hparse hmasked⟩
  · intro kept hparse p cost hp
    exact compare_eq_of_bcrypt hparse hp password

/-- Neither a pinned salt nor a layout that hides the numbers sets a profile apart. -/
theorem compare_eq_of_masked_profile :
    ∃ text, ((custom (.key .leastScrypt)).hash [] [1]).result = .ok text ∧
      (PasswordHashing.compare text []).result = .ok () ∧
      ∀ password,
        (custom (.key { KeySettings.leastScrypt with
          masked := true, pinnedSalt := some [2] })).compare text password =
          PasswordHashing.compare text password := by
  obtain ⟨text, hhash⟩ : ∃ text,
      ((custom (.key .leastScrypt)).hash [] [1]).result = .ok text := ⟨_, rfl⟩
  have hreadable : KeySettings.leastScrypt.Readable [1] :=
    KeySettings.leastScrypt_readable (by decide)
  refine ⟨text, hhash, compare_of_readable rfl hhash hreadable rfl rfl, ?_⟩
  intro password
  obtain ⟨digest, hdigest, rfl⟩ := (hash_eq_ok_iff_of_key rfl).1 hhash
  have hparse := (KeySettings.parse_encode_hashOf hdigest).1 hreadable
  exact ((compare_eq_self_described _ password).1 _ hparse rfl).1 _ ⟨_, rfl, rfl, rfl, rfl⟩

end Profile

end PasswordHashing
