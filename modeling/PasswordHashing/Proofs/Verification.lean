import PasswordHashing.Profile
import PasswordHashing.Proofs.KeyDerivation

/-!
What a comparison answers, and when it accepts. Every way through a comparison ends in
acceptance or in a mismatch, whatever went wrong on the way. A text is accepted exactly
if it can be read and the password has the digest that stands in it, under the numbers of
the text or under those of the profile; a digest of another length than theirs is never
accepted.
-/

namespace PasswordHashing

open HashText

/-! ### Answers -/

namespace Outcome

/-- Accepted, or a mismatch: the only two answers of a comparison. -/
def IsVerdict (outcome : Outcome Unit) : Prop :=
  outcome.result = .ok () ∨ outcome.result = .error .mismatch

theorem isVerdict_mismatch (events : List Event) : (mismatch events).IsVerdict := .inr rfl

theorem isVerdict_ofAnswer (answer : Bool) : (ofAnswer answer).IsVerdict := by
  cases answer with
  | false => exact .inr rfl
  | true => exact .inl rfl

@[simp] theorem result_mismatch {α : Type} (events : List Event) :
    (mismatch events : Outcome α).result = .error .mismatch := rfl

@[simp] theorem result_ofAnswer_eq_ok_iff {answer : Bool} :
    (ofAnswer answer).result = .ok () ↔ answer = true := by
  cases answer <;> simp [ofAnswer, accepted]

end Outcome

/-! ### The parts of a comparison -/

theorem KeySettings.isVerdict_verify (s : KeySettings) (hash : KeyHash) (password : Bytes) :
    (s.verify hash password).IsVerdict := by
  unfold verify
  split
  · split
    · exact Outcome.isVerdict_ofAnswer _
    · exact Outcome.isVerdict_mismatch _
  · exact Outcome.isVerdict_mismatch _

theorem KeySettings.verify_eq_ok_iff {s : KeySettings} {hash : KeyHash} {password : Bytes} :
    (s.verify hash password).result = .ok () ↔
      hash.algorithm = s.algorithm ∧ s.digest password hash.salt = .ok hash.digest := by
  unfold verify
  by_cases halgorithm : hash.algorithm = s.algorithm
  · rw [if_pos halgorithm]
    cases s.digest password hash.salt with
    | error e => simp
    | ok digest =>
        simp only [Outcome.result_ofAnswer_eq_ok_iff, beq_iff_eq, halgorithm, true_and,
          Except.ok.injEq]
        exact eq_comm
  · simp [halgorithm]

theorem Bcrypt.isVerdict_verify (text : String) (password : Bytes) :
    (verify text password).IsVerdict := by
  unfold verify
  split
  · exact Outcome.isVerdict_mismatch _
  · split
    · exact Outcome.isVerdict_ofAnswer _
    · exact Outcome.isVerdict_mismatch _

theorem Bcrypt.verify_eq_ok_iff {text : String} {password : Bytes} :
    (verify text password).result = .ok () ↔
      password.length ≤ 72 ∧ verify? text password = some true := by
  unfold verify
  by_cases hlength : maxPasswordLength < password.length
  · have hlong : ¬password.length ≤ 72 := Nat.not_le.2 hlength
    simp [hlength, hlong]
  · have hshort : password.length ≤ 72 := Nat.not_lt.1 hlength
    rw [if_neg hlength]
    cases verify? text password with
    | none => simp
    | some answer => simp [hshort]

theorem isVerdict_comparePublic (hash : KeyHash) (password : Bytes) :
    (comparePublic hash password).IsVerdict := by
  unfold comparePublic
  split
  · exact Outcome.isVerdict_mismatch _
  · split
    · exact KeySettings.isVerdict_verify _ _ _
    · exact Outcome.isVerdict_mismatch _

theorem comparePublic_eq_ok_iff {hash : KeyHash} {password : Bytes} (hfits : hash.CostFits) :
    (comparePublic hash password).result = .ok () ↔
      ∃ (f : KeyDerivation) (keyLength : UInt64), f.algorithm = hash.algorithm ∧
        hash.cost = some (f.cost keyLength) ∧
        f.derive keyLength none password hash.salt = .ok hash.digest := by
  unfold comparePublic
  constructor
  · intro h
    split at h
    · cases h
    · split at h
      · rename_i s hs
        obtain ⟨f, keyLength, rfl, halgorithm, hcost⟩ :=
          (KeySettings.ofHash?_eq_some_iff hfits).1 hs
        exact ⟨f, keyLength, halgorithm, hcost, (KeySettings.verify_eq_ok_iff.1 h).2⟩
      · cases h
  · rintro ⟨f, keyLength, halgorithm, hcost, hderive⟩
    -- a text that names its numbers is not masked, and its numbers name this function only
    have hmasked : hash.isMasked = false := by simp [KeyHash.isMasked, hcost]
    rw [hmasked, (KeySettings.ofHash?_eq_some_iff hfits).2
      ⟨f, keyLength, rfl, halgorithm, hcost⟩]
    exact KeySettings.verify_eq_ok_iff.2 ⟨halgorithm.symm, hderive⟩

/-! ### When a text is accepted -/

/-- The text describes itself and the password has its digest, without any secret. -/
inductive Accepted : String → Bytes → Prop
  | bcrypt {text : String} {password : Bytes} (hparse : parse text = .ok (.bcrypt text))
      (hlength : password.length ≤ 72) (hverify : Bcrypt.verify? text password = some true) :
      Accepted text password
  | key {text : String} {password : Bytes} {hash : KeyHash} {f : KeyDerivation}
      {keyLength : UInt64} (hparse : parse text = .ok (.key hash))
      (halgorithm : f.algorithm = hash.algorithm) (hcost : hash.cost = some (f.cost keyLength))
      (hderive : f.derive keyLength none password hash.salt = .ok hash.digest) :
      Accepted text password

/-- The password has the digest of the text under the caller's parameters. -/
inductive Parameters.Accepts : Parameters → String → Bytes → Prop
  | bcrypt {cost : UInt32} {text : String} {password : Bytes}
      (hparse : parse text = .ok (.bcrypt text)) (hlength : password.length ≤ 72)
      (hverify : Bcrypt.verify? text password = some true) :
      Parameters.Accepts (.bcrypt cost) text password
  | key {s : KeySettings} {text : String} {password : Bytes} {hash : KeyHash}
      (hparse : parse text = .ok (.key hash)) (halgorithm : hash.algorithm = s.algorithm)
      (hderive : s.function.derive s.keyLength s.secret password hash.salt = .ok hash.digest) :
      Parameters.Accepts (.key s) text password

/-! ### The two comparisons -/

theorem isVerdict_compare (text : String) (password : Bytes) :
    (compare text password).IsVerdict := by
  unfold compare
  split
  · exact Outcome.isVerdict_mismatch _
  · exact Bcrypt.isVerdict_verify _ _
  · exact isVerdict_comparePublic _ _

theorem Parameters.isVerdict_compare (p : Parameters) (text : String) (password : Bytes) :
    (p.compare text password).IsVerdict := by
  unfold Parameters.compare
  split
  · exact Outcome.isVerdict_mismatch _
  · split
    · exact Bcrypt.isVerdict_verify _ _
    · exact KeySettings.isVerdict_verify _ _ _
    · exact Outcome.isVerdict_mismatch _

/-- A bcrypt text is kept as it stands. -/
theorem HashText.eq_of_parse_bcrypt {text kept : String} (h : parse text = .ok (.bcrypt kept)) :
    kept = text := by
  cases grammar_of_parse h with
  | bcrypt => rfl

theorem compare_eq_ok_iff {text : String} {password : Bytes} :
    (compare text password).result = .ok () ↔ Accepted text password := by
  constructor
  · intro h
    unfold compare at h
    split at h
    · cases h
    · rename_i kept hparse
      obtain rfl := eq_of_parse_bcrypt hparse
      obtain ⟨hlength, hverify⟩ := Bcrypt.verify_eq_ok_iff.1 h
      exact .bcrypt hparse hlength hverify
    · rename_i hash hparse
      have hfits := (wellFormed_of_parse hparse).cost_fits
      obtain ⟨f, keyLength, halgorithm, hcost, hderive⟩ := (comparePublic_eq_ok_iff hfits).1 h
      exact .key hparse halgorithm hcost hderive
  · intro h
    cases h with
    | bcrypt hparse hlength hverify =>
        rw [compare, hparse]
        exact Bcrypt.verify_eq_ok_iff.2 ⟨hlength, hverify⟩
    | key hparse halgorithm hcost hderive =>
        have hfits := (wellFormed_of_parse hparse).cost_fits
        rw [compare, hparse]
        exact (comparePublic_eq_ok_iff hfits).2 ⟨_, _, halgorithm, hcost, hderive⟩

theorem Parameters.compare_eq_ok_iff {p : Parameters} {text : String} {password : Bytes} :
    (p.compare text password).result = .ok () ↔ p.Accepts text password := by
  constructor
  · intro h
    unfold Parameters.compare at h
    split at h
    · cases h
    · rename_i parsed hparse
      split at h
      · obtain rfl := eq_of_parse_bcrypt hparse
        obtain ⟨hlength, hverify⟩ := Bcrypt.verify_eq_ok_iff.1 h
        exact .bcrypt hparse hlength hverify
      · obtain ⟨halgorithm, hderive⟩ := KeySettings.verify_eq_ok_iff.1 h
        exact .key hparse halgorithm hderive
      · cases h
  · intro h
    cases h with
    | bcrypt hparse hlength hverify =>
        rw [Parameters.compare, hparse]
        exact Bcrypt.verify_eq_ok_iff.2 ⟨hlength, hverify⟩
    | key hparse halgorithm hderive =>
        rw [Parameters.compare, hparse]
        exact KeySettings.verify_eq_ok_iff.2 ⟨halgorithm, hderive⟩

theorem compare_of_parse_eq_error {text : String} {e : ParseError} (password : Bytes)
    (h : parse text = .error e) : (compare text password).result = .error .mismatch := by
  rw [compare, h]
  rfl

theorem Parameters.compare_of_parse_eq_error {text : String} {e : ParseError} (p : Parameters)
    (password : Bytes) (h : parse text = .error e) :
    (p.compare text password).result = .error .mismatch := by
  rw [Parameters.compare, h]
  rfl

/-- The length of a digest that is accepted is the one that its text names. -/
theorem digest_length_of_accepted {text : String} {password : Bytes} {hash : KeyHash}
    (hparse : parse text = .ok (.key hash)) (h : Accepted text password) :
    ∃ cost, hash.cost = some cost ∧ hash.digest.length = cost.keyLength.toNat := by
  cases h with
  | bcrypt hparse' =>
      rw [hparse] at hparse'
      cases hparse'
  | key hparse' halgorithm hcost hderive =>
      rw [hparse] at hparse'
      cases hparse'
      refine ⟨_, hcost, ?_⟩
      rw [KeyDerivation.cost_keyLength, KeyDerivation.length_of_derive hderive]

/-- The length of a digest that a profile accepts is the one that the profile derives. -/
theorem Parameters.digest_length_of_accepts {p : Parameters} {text : String} {password : Bytes}
    {hash : KeyHash} (hparse : parse text = .ok (.key hash)) (h : p.Accepts text password) :
    ∃ s, p = .key s ∧ hash.digest.length = s.keyLength.toNat := by
  cases h with
  | bcrypt hparse' =>
      rw [hparse] at hparse'
      cases hparse'
  | @key s _ _ _ hparse' halgorithm hderive =>
      rw [hparse] at hparse'
      cases hparse'
      exact ⟨s, rfl, KeyDerivation.length_of_derive hderive⟩

/-- Both comparisons answer with acceptance or a mismatch; they accept exactly the texts that
have the password's digest, and none whose digest has another length than the key. -/
theorem compare_accepts_exactly (p : Profile) (text : String) (password : Bytes) :
    (compare text password).IsVerdict ∧ (p.compare text password).IsVerdict ∧
      ((compare text password).result = .ok () ↔ Accepted text password) ∧
      ((p.compare text password).result = .ok () ↔ p.parameters.Accepts text password) ∧
      ∀ hash, parse text = .ok (.key hash) →
        ((compare text password).result = .ok () →
          ∃ cost, hash.cost = some cost ∧ hash.digest.length = cost.keyLength.toNat) ∧
        ((p.compare text password).result = .ok () →
          ∃ s, p.parameters = .key s ∧ hash.digest.length = s.keyLength.toNat) := by
  refine ⟨isVerdict_compare text password, p.parameters.isVerdict_compare text password,
    compare_eq_ok_iff, Parameters.compare_eq_ok_iff, ?_⟩
  intro hash hparse
  constructor
  · intro h
    exact digest_length_of_accepted hparse (compare_eq_ok_iff.1 h)
  · intro h
    exact Parameters.digest_length_of_accepts hparse (Parameters.compare_eq_ok_iff.1 h)

end PasswordHashing
