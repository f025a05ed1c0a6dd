import PasswordHashing.Proofs.Bcrypt
import PasswordHashing.Proofs.Parameters
import PasswordHashing.Proofs.Profile.Run
import PasswordHashing.Proofs.Verification

/-!
What becomes of a text that a profile hashed. The text is either one that no comparison
can read, or one that is accepted for its password by every later state of the profile,
and without the profile where the text says all there is to say. Main statement: which of
the two it is depends on the salt that was used and on the numbers, and bcrypt's texts are
always accepted.
-/

namespace PasswordHashing

open HashText

/-! ### Texts of derived keys -/

namespace KeySettings

variable {s : KeySettings} {password salt digest : Bytes}

theorem accepts_encode_hashOf (h : s.digest password salt = .ok digest)
    (hreadable : s.Readable salt) (pin : Option Bytes) :
    (Parameters.key { s with pinnedSalt := pin }).Accepts (s.hashOf salt digest).encode password :=
  .key ((parse_encode_hashOf h).1 hreadable) rfl h

/-- Nothing has to be known of the settings if the text names the numbers and there is no secret. -/
theorem accepted_encode_hashOf (h : s.digest password salt = .ok digest)
    (hreadable : s.Readable salt) (hmasked : s.masked = false) (hsecret : s.secret = none) :
    Accepted (s.hashOf salt digest).encode password := by
  refine .key ((parse_encode_hashOf h).1 hreadable) rfl
    (hashOf_cost_eq_some_iff.2 ⟨hmasked, rfl⟩) ?_
  rw [KeySettings.digest, hsecret] at h
  exact h

end KeySettings

/-! ### Texts of bcrypt -/

namespace Bcrypt

theorem hashText_eq_ok_iff {cost : UInt32} {password fresh : Bytes} {text : String} :
    hashText cost password fresh = .ok text ↔
      password.length ≤ maxPasswordLength ∧ minCost ≤ cost.toNat ∧ cost.toNat ≤ maxCost ∧
        (hash cost.toNat fresh password).write = text := by
  unfold hashText
  by_cases hlong : maxPasswordLength < password.length
  · have hnot : ¬password.length ≤ maxPasswordLength := Nat.not_le.2 hlong
    simp [hlong, hnot]
  · rw [if_neg hlong]
    have hshort := Nat.not_lt.1 hlong
    by_cases hcost : cost.toNat < minCost ∨ maxCost < cost.toNat
    · rw [if_pos hcost]
      constructor
      · intro h
        cases h
      · rintro ⟨-, hle, hge, -⟩
        omega
    · rw [if_neg hcost, Except.ok.injEq]
      constructor
      · intro h
        exact ⟨hshort, by omega, by omega, h⟩
      · rintro ⟨-, -, -, h⟩
        exact h

/-- The text that was made of a password is one of bcrypt and has the password's digest. -/
theorem verifies_of_hashText {cost : UInt32} {password fresh : Bytes} {text : String}
    (h : hashText cost password fresh = .ok text) (hfresh : fresh.length = saltLength) :
    parse text = .ok (.bcrypt text) ∧ password.length ≤ maxPasswordLength ∧
      verify? text password = some true := by
  obtain ⟨hlength, hle, hge, rfl⟩ := hashText_eq_ok_iff.1 h
  exact ⟨parse_write_hash password hle hge hfresh, hlength,
    verify?_write_hash password hle hge hfresh⟩

end Bcrypt

/-! ### Over whole runs -/

namespace Profile

variable {p : Profile} {password fresh : Bytes} {text : String}

theorem hash_eq_ok_iff_of_key {s : KeySettings} (hp : p.parameters = .key s) :
    (p.hash password fresh).result = .ok text ↔
      ∃ digest, s.digest password (s.pinnedSalt.getD fresh) = .ok digest ∧
        (s.hashOf (s.pinnedSalt.getD fresh) digest).encode = text := by
  rw [Profile.hash, hp]
  exact KeySettings.hash_eq_ok_iff

/-- A text that can be read is accepted from then on, whatever is done with the profile as
long as its secret stays. -/
theorem compare_after_run_of_readable {s : KeySettings} {calls : List Call}
    (hp : p.parameters = .key s) (hhash : (p.hash password fresh).result = .ok text)
    (hreadable : s.Readable (s.pinnedSalt.getD fresh))
    (hcalls : ∀ c ∈ calls, c.KeepsSecret s.secret) :
    ((p.run calls).2.compare text password).result = .ok () := by
  obtain ⟨digest, hdigest, rfl⟩ := (hash_eq_ok_iff_of_key hp).1 hhash
  obtain ⟨pin, hrun⟩ := run_keeps_settings hp hcalls
  rw [Profile.compare, hrun, Parameters.compare_eq_ok_iff]
  exact KeySettings.accepts_encode_hashOf hdigest hreadable pin

theorem compare_of_readable {s : KeySettings} (hp : p.parameters = .key s)
    (hhash : (p.hash password fresh).result = .ok text)
    (hreadable : s.Readable (s.pinnedSalt.getD fresh)) (hmasked : s.masked = false)
    (hsecret : s.secret = none) :
    (PasswordHashing.compare text password).result = .ok () := by
  obtain ⟨digest, hdigest, rfl⟩ := (hash_eq_ok_iff_of_key hp).1 hhash
  rw [compare_eq_ok_iff]
  exact KeySettings.accepted_encode_hashOf hdigest hreadable hmasked hsecret

theorem exists_parse_of_readable {s : KeySettings} (hp : p.parameters = .key s)
    (hhash : (p.hash password fresh).result = .ok text)
    (hreadable : s.Readable (s.pinnedSalt.getD fresh)) : ∃ parsed, parse text = .ok parsed := by
  obtain ⟨digest, hdigest, rfl⟩ := (hash_eq_ok_iff_of_key hp).1 hhash
  exact ⟨_, (KeySettings.parse_encode_hashOf hdigest).1 hreadable⟩

theorem parse_of_not_readable {s : KeySettings} (hp : p.parameters = .key s)
    (hhash : (p.hash password fresh).result = .ok text)
    (hreadable : ¬s.Readable (s.pinnedSalt.getD fresh)) : ∃ e, parse text = .error e := by
  obtain ⟨digest, hdigest, rfl⟩ := (hash_eq_ok_iff_of_key hp).1 hhash
  exact (KeySettings.parse_encode_hashOf hdigest).2 hreadable

/-- Neither the secret nor the pinned salt has a meaning for bcrypt, so no call matters. -/
theorem compare_after_run_of_bcrypt {cost : UInt32} (calls : List Call)
    (hp : p.parameters = .bcrypt cost) (hhash : (p.hash password fresh).result = .ok text)
    (hfresh : fresh.length = Bcrypt.saltLength) :
    ((p.run calls).2.compare text password).result = .ok () ∧
      (PasswordHashing.compare text password).result = .ok () := by
  rw [Profile.hash, hp] at hhash
  obtain ⟨hparse, hlength, hverify⟩ := Bcrypt.verifies_of_hashText hhash hfresh
  rw [Profile.compare, run_bcrypt hp, hp, Parameters.compare_eq_ok_iff, compare_eq_ok_iff]
  exact ⟨.bcrypt hparse hlength hverify, .bcrypt hparse hlength hverify⟩

/-- A hashed text verifies at every later time if the salt is not empty and the numbers it
names are below the ceilings, and never for any password if not; bcrypt's texts always
verify. -/
theorem hashed_text_verifies_iff_readable (hhash : (p.hash password fresh).result = .ok text) :
    (∀ s, p.parameters = .key s →
      (s.Readable (s.pinnedSalt.getD fresh) →
        (∀ calls : List Call, (∀ c ∈ calls, c.KeepsSecret s.secret) →
          ((p.run calls).2.compare text password).result = .ok ()) ∧
        (s.masked = false → s.secret = none →
          (PasswordHashing.compare text password).result = .ok ())) ∧
      (¬s.Readable (s.pinnedSalt.getD fresh) →
        ∀ (calls : List Call) (other : Bytes),
          ((p.run calls).2.compare text other).result = .error .mismatch ∧
          (PasswordHashing.compare text other).result = .error .mismatch)) ∧
    (∀ cost, p.parameters = .bcrypt cost → fresh.length = Bcrypt.saltLength →
      ∀ calls : List Call, ((p.run calls).2.compare text password).result = .ok () ∧
        (PasswordHashing.compare text password).result = .ok ()) := by
  refine ⟨?_, ?_⟩
  · intro s hp
    refine ⟨?_, ?_⟩
    · intro hreadable
      exact ⟨fun calls hcalls => compare_after_run_of_readable hp hhash hreadable hcalls,
        compare_of_readable hp hhash hreadable⟩
    · intro hreadable calls other
      obtain ⟨e, he⟩ := parse_of_not_readable hp hhash hreadable
      exact ⟨Parameters.compare_of_parse_eq_error _ other he, compare_of_parse_eq_error other he⟩
  · intro cost hp hfresh calls
    exact compare_after_run_of_bcrypt calls hp hhash hfresh

/-- A salt of one byte will do for scrypt, and a derivation later on changes nothing. -/
theorem hashed_text_of_small_scrypt_verifies :
    ∃ text, ((custom (.key .leastScrypt)).hash [] [1]).result = .ok text ∧
      (((custom (.key .leastScrypt)).run [.derive [] [2], .hash [] []]).2.compare text []).result =
        .ok () ∧
      (PasswordHashing.compare text []).result = .ok () := by
  have hreadable : KeySettings.leastScrypt.Readable [1] :=
    KeySettings.leastScrypt_readable (by decide)
  obtain ⟨text, hhash⟩ : ∃ text,
      ((custom (.key .leastScrypt)).hash [] [1]).result = .ok text := ⟨_, rfl⟩
  obtain ⟨hrun, hpublic⟩ := ((hashed_text_verifies_iff_readable hhash).1 _ rfl).1 hreadable
  exact ⟨text, hhash, hrun _ (by simp [Call.KeepsSecret]), hpublic rfl rfl⟩

end Profile

end PasswordHashing
