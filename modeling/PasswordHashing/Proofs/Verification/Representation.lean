import PasswordHashing.Proofs.Profile.StoredTexts
import PasswordHashing.Proofs.Refusal
import PasswordHashing.Proofs.Verification.Agreement

/-!
What a comparison with a profile does not depend on. A profile may mask its numbers, pin a
salt or draw fresh ones of any length, and a text may name numbers or leave them out. Two
profiles that derive the same keys are set beside each other, and two texts of the same digest.
Main statement: the profiles give the same answer for the texts and log the same events; and
the texts that they make of a password with one salt are such texts, alike but for the
numbers.
-/

namespace PasswordHashing

open HashText

/-- The two derive the same keys. Their layouts and their salts may differ. -/
structure KeySettings.SameKeys (s s' : KeySettings) : Prop where
  function_eq : s.function = s'.function
  keyLength_eq : s.keyLength = s'.keyLength
  secret_eq : s.secret = s'.secret

/-- The two have the same digest with the same salt. The numbers that they name may differ, and
either may be without. -/
structure KeyHash.SameContent (hash hash' : KeyHash) : Prop where
  algorithm_eq : hash.algorithm = hash'.algorithm
  salt_eq : hash.salt = hash'.salt
  digest_eq : hash.digest = hash'.digest

namespace KeySettings

variable {s s' : KeySettings} {hash hash' : KeyHash} {password salt digest : Bytes}

theorem SameKeys.digest_eq (h : s.SameKeys s') (password salt : Bytes) :
    s.digest password salt = s'.digest password salt := by
  rw [KeySettings.digest, KeySettings.digest, h.function_eq, h.keyLength_eq, h.secret_eq]

/-- Nothing but algorithm, salt and digest of a hash is looked at. -/
theorem verify_eq_of_sameContent (h : hash.SameContent hash') (s : KeySettings)
    (password : Bytes) : s.verify hash password = s.verify hash' password := by
  rw [verify, verify, h.algorithm_eq, h.salt_eq, h.digest_eq]

theorem SameKeys.verify_eq (h : s.SameKeys s') (hhash : hash.SameContent hash')
    (password : Bytes) : s.verify hash password = s'.verify hash' password := by
  rw [verify_eq_of_sameContent hhash]
  exact verify_congr h.function_eq h.keyLength_eq h.secret_eq

theorem SameKeys.sameContent_hashOf (h : s.SameKeys s') (salt digest : Bytes) :
    (s.hashOf salt digest).SameContent (s'.hashOf salt digest) where
  algorithm_eq := congrArg KeyDerivation.algorithm h.function_eq
  salt_eq := rfl
  digest_eq := rfl

/-- The fields that the settings put between salt and digest. -/
def costFields (s : KeySettings) : List String := if s.masked then [] else s.cost.write

theorem encode_hashOf (s : KeySettings) (salt digest : Bytes) :
    (s.hashOf salt digest).encode =
      join ([s.algorithm.identifier, String.ofList (Base64.standard.encode salt)] ++
        s.costFields ++ [String.ofList (Base64.standard.encode digest)]) := by
  unfold KeyHash.encode KeyHash.fields hashOf costFields
  cases s.masked <;> rfl

theorem costFields_of_masked (hmasked : s.masked = true) : s.costFields = [] := by
  rw [costFields, if_pos hmasked]

/-- With a salt the fields of the text are the ones that it was put together from. -/
theorem fields_encode_hashOf (h : s.digest password salt = .ok digest) (hsalt : salt ≠ []) :
    fields (s.hashOf salt digest).encode =
      .ok ([s.algorithm.identifier, String.ofList (Base64.standard.encode salt)] ++
        s.costFields ++ [String.ofList (Base64.standard.encode digest)]) := by
  have hspelled := (s.hashOf salt digest).spelledBy_written
  have hne := hspelled.forall_ne_empty_iff.2 ⟨hsalt, digest_ne_nil h⟩
  rw [KeyHash.encode_eq_join, hspelled.fields_join hne, KeyHash.written, KeyHash.fields, hashOf,
    costFields]
  cases s.masked <;> rfl

end KeySettings

namespace Profile

variable {p p' : Profile} {s s' : KeySettings} {text text' : String}

theorem compare_eq_of_sameKeys {hash hash' : KeyHash} (hp : p.parameters = .key s)
    (hp' : p'.parameters = .key s') (hsame : s.SameKeys s') (hparse : parse text = .ok (.key hash))
    (hparse' : parse text' = .ok (.key hash')) (hcontent : hash.SameContent hash')
    (password : Bytes) : p.compare text password = p'.compare text' password := by
  rw [Profile.compare, Profile.compare, hp, hp', Parameters.compare, Parameters.compare, hparse,
    hparse']
  exact hsame.verify_eq hcontent password

variable {password fresh fresh' : Bytes}

/-- Two profiles that derive the same keys make texts of the same digest with the same salt. -/
theorem exists_digest_of_hash (hp : p.parameters = .key s) (hp' : p'.parameters = .key s')
    (hsame : s.SameKeys s') (hsalt : s.pinnedSalt.getD fresh = s'.pinnedSalt.getD fresh')
    (hhash : (p.hash password fresh).result = .ok text)
    (hhash' : (p'.hash password fresh').result = .ok text') :
    ∃ salt digest, salt = s.pinnedSalt.getD fresh ∧ s.digest password salt = .ok digest ∧
      s'.digest password salt = .ok digest ∧ (s.hashOf salt digest).encode = text ∧
      (s'.hashOf salt digest).encode = text' := by
  obtain ⟨digest, hdigest, htext⟩ := (hash_eq_ok_iff_of_key hp).1 hhash
  obtain ⟨digest', hdigest', htext'⟩ := (hash_eq_ok_iff_of_key hp').1 hhash'
  rw [← hsalt] at hdigest' htext'
  have hboth : s'.digest password (s.pinnedSalt.getD fresh) = .ok digest := by
    rw [← hsame.digest_eq, hdigest]
  obtain rfl : digest = digest' := Except.ok.inj (hboth.symm.trans hdigest')
  exact ⟨_, digest, rfl, hdigest, hdigest', htext, htext'⟩

theorem hash_error_eq_of_sameKeys (hp : p.parameters = .key s) (hp' : p'.parameters = .key s')
    (hsame : s.SameKeys s') (hsalt : s.pinnedSalt.getD fresh = s'.pinnedSalt.getD fresh') :
    errorOf? (p.hash password fresh).result = errorOf? (p'.hash password fresh').result := by
  rw [Profile.hash, Profile.hash, hp, hp', Parameters.hash, Parameters.hash, KeySettings.hash,
    KeySettings.hash, errorOf?_map, errorOf?_map, hsame.digest_eq, hsalt]

/-- The text of the profile that masks its numbers has three fields, and the other one has these
three and its numbers. -/
theorem exists_fields_of_masked_twin (hp : p.parameters = .key s) (hp' : p'.parameters = .key s')
    (hsame : s.SameKeys s') (hmasked : s'.masked = true)
    (hsalt : s.pinnedSalt.getD fresh = s'.pinnedSalt.getD fresh')
    (hhash : (p.hash password fresh).result = .ok text)
    (hhash' : (p'.hash password fresh').result = .ok text') :
    ∃ salt digest : String, separator ∉ salt.toList ∧ separator ∉ digest.toList ∧
      text = join ([s.algorithm.identifier, salt] ++ s.costFields ++ [digest]) ∧
      text' = join [s.algorithm.identifier, salt, digest] ∧
      (s.pinnedSalt.getD fresh ≠ [] →
        fields text = .ok ([s.algorithm.identifier, salt] ++ s.costFields ++ [digest]) ∧
        fields text' = .ok [s.algorithm.identifier, salt, digest]) := by
  obtain ⟨salt, digest, rfl, hdigest, hdigest', rfl, rfl⟩ :=
    exists_digest_of_hash hp hp' hsame hsalt hhash hhash'
  have halgorithm : s'.algorithm = s.algorithm :=
    congrArg KeyDerivation.algorithm hsame.function_eq.symm
  refine ⟨_, _, separator_not_mem_encode _, separator_not_mem_encode digest,
    s.encode_hashOf _ digest, ?_, ?_⟩
  · rw [s'.encode_hashOf, KeySettings.costFields_of_masked hmasked, halgorithm]
    rfl
  · intro hne
    refine ⟨KeySettings.fields_encode_hashOf hdigest hne, ?_⟩
    rw [KeySettings.fields_encode_hashOf hdigest' hne, KeySettings.costFields_of_masked hmasked,
      halgorithm]
    rfl

/-- Both texts that two such profiles make are read as the same digest with the same salt. -/
theorem sameContent_of_hash {parsed parsed' : HashText} (hp : p.parameters = .key s)
    (hp' : p'.parameters = .key s') (hsame : s.SameKeys s')
    (hsalt : s.pinnedSalt.getD fresh = s'.pinnedSalt.getD fresh')
    (hhash : (p.hash password fresh).result = .ok text)
    (hhash' : (p'.hash password fresh').result = .ok text') (hparse : parse text = .ok parsed)
    (hparse' : parse text' = .ok parsed') :
    ∃ hash hash', parsed = .key hash ∧ parsed' = .key hash' ∧ hash.SameContent hash' := by
  obtain ⟨salt, digest, -, hdigest, hdigest', rfl, rfl⟩ :=
    exists_digest_of_hash hp hp' hsame hsalt hhash hhash'
  exact ⟨_, _, KeySettings.eq_of_parse_encode_hashOf hdigest hparse,
    KeySettings.eq_of_parse_encode_hashOf hdigest' hparse', hsame.sameContent_hashOf salt digest⟩

/-- Two profiles that derive the same keys compare alike over any two texts of the same digest,
whatever they pin and mask. With the same salt, one that masks its numbers fails where the other
does, and writes the same text but for the numbers; where both texts can be read, neither profile
tells them apart. -/
theorem representation_never_matters (hp : p.parameters = .key s) (hp' : p'.parameters = .key s')
    (hsame : s.SameKeys s') :
    (∀ text text' hash hash', parse text = .ok (.key hash) → parse text' = .ok (.key hash') →
      hash.SameContent hash' →
      ∀ password, p.compare text password = p'.compare text' password) ∧
    (s'.masked = true → ∀ password fresh fresh',
      s.pinnedSalt.getD fresh = s'.pinnedSalt.getD fresh' →
      errorOf? (p.hash password fresh).result = errorOf? (p'.hash password fresh').result ∧
      ∀ text text', (p.hash password fresh).result = .ok text →
        (p'.hash password fresh').result = .ok text' →
        (∃ salt digest : String, separator ∉ salt.toList ∧ separator ∉ digest.toList ∧
          text = join ([s.algorithm.identifier, salt] ++ s.costFields ++ [digest]) ∧
          text' = join [s.algorithm.identifier, salt, digest] ∧
          (s.pinnedSalt.getD fresh ≠ [] →
            fields text = .ok ([s.algorithm.identifier, salt] ++ s.costFields ++ [digest]) ∧
            fields text' = .ok [s.algorithm.identifier, salt, digest])) ∧
        ∀ parsed parsed', parse text = .ok parsed → parse text' = .ok parsed' → ∀ other,
          p.compare text other = p.compare text' other ∧
          p'.compare text other = p'.compare text' other) := by
  refine ⟨?_, ?_⟩
  · intro text text' hash hash' hparse hparse' hcontent password
    exact compare_eq_of_sameKeys hp hp' hsame hparse hparse' hcontent password
  · intro hmasked password fresh fresh' hsalt
    refine ⟨hash_error_eq_of_sameKeys hp hp' hsame hsalt, ?_⟩
    intro text text' hhash hhash'
    refine ⟨exists_fields_of_masked_twin hp hp' hsame hmasked hsalt hhash hhash', ?_⟩
    intro parsed parsed' hparse hparse' other
    obtain ⟨hash, hash', rfl, rfl, hcontent⟩ :=
      sameContent_of_hash hp hp' hsame hsalt hhash hhash' hparse hparse'
    exact ⟨compare_eq_of_sameKeys hp hp ⟨rfl, rfl, rfl⟩ hparse hparse' hcontent other,
      compare_eq_of_sameKeys hp' hp' ⟨rfl, rfl, rfl⟩ hparse hparse' hcontent other⟩

/-- One profile has pinned the salt that the other one draws, and only the other masks. -/
theorem representation_of_small_scrypt :
    ∃ text text',
      ((custom (.key { function := .scrypt 1 1 1, keyLength := 10, pinnedSalt := some [1] })).hash
        [] []).result = .ok text ∧
      ((custom (.key { function := .scrypt 1 1 1, keyLength := 10, saltLength := 1,
                       masked := true })).hash [] [1]).result = .ok text' ∧
      ∀ other,
        (custom (.key { function := .scrypt 1 1 1, keyLength := 10,
                        pinnedSalt := some [1] })).compare text other =
          (custom (.key { function := .scrypt 1 1 1, keyLength := 10,
                          pinnedSalt := some [1] })).compare text' other := by
  obtain ⟨text, hhash⟩ : ∃ text,
      ((custom (.key { function := .scrypt 1 1 1, keyLength := 10, pinnedSalt := some [1] })).hash
        [] []).result = .ok text := ⟨_, rfl⟩
  obtain ⟨text', hhash'⟩ : ∃ text',
      ((custom (.key { function := .scrypt 1 1 1, keyLength := 10, saltLength := 1,
                       masked := true })).hash [] [1]).result = .ok text' := ⟨_, rfl⟩
  refine ⟨text, text', hhash, hhash', ?_⟩
  intro other
  obtain ⟨parsed, hparse⟩ := exists_parse_of_readable rfl hhash
    ⟨by decide, fun _ => by simp [KeyDerivation.WithinCeilings]⟩
  obtain ⟨parsed', hparse'⟩ := exists_parse_of_readable rfl hhash'
    ⟨by decide, fun hpublic => absurd hpublic (by decide)⟩
  have hmasked : (custom (.key { function := .scrypt 1 1 1, keyLength := 10, saltLength := 1,
                                 masked := true })).parameters =
      .key { function := .scrypt 1 1 1, keyLength := 10, saltLength := 1, masked := true } := rfl
  have htwins := (representation_never_matters
    (p := custom (.key { function := .scrypt 1 1 1, keyLength := 10, pinnedSalt := some [1] }))
    rfl hmasked ⟨rfl, rfl, rfl⟩).2 rfl [] [] [1] rfl
  exact ((htwins.2 text text' hhash hhash').2 parsed parsed' hparse hparse' other).1

end Profile

end PasswordHashing
