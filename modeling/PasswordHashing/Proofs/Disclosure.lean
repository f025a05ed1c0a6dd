import PasswordHashing.Inspection
import PasswordHashing.Proofs.Parameters
import PasswordHashing.Proofs.Profile.State

/-!
What a log, an error or an outline gives away. Two profiles that differ in nothing but their
secret are set beside each other, and two passwords. A comparison logs what a derivation is
refused for, which the numbers and the length of the salt decide, and of a password at most
that it is too long for bcrypt. Main statement: neither the log nor an error nor what is shown
of the parameters tells the two apart, and the log of a comparison does not tell two texts
apart that differ in the bytes of salt and digest.
-/

namespace PasswordHashing

open HashText

/-! ### What is told apart, and by what -/

/-- Bcrypt takes both passwords, or they are both too long for it. -/
def Bytes.SameSide (password other : Bytes) : Prop :=
  password.length ≤ Bcrypt.maxPasswordLength ∧ other.length ≤ Bcrypt.maxPasswordLength ∨
    Bcrypt.maxPasswordLength < password.length ∧ Bcrypt.maxPasswordLength < other.length

/-- The two differ in nothing but a secret, which one of them may be without. -/
inductive Parameters.SameButSecret : Parameters → Parameters → Prop
  | key (s : KeySettings) (secret : Option Bytes) :
      SameButSecret (.key s) (.key { s with secret })
  | bcrypt (cost : UInt32) : SameButSecret (.bcrypt cost) (.bcrypt cost)

structure Profile.SameButSecret (p q : Profile) : Prop where
  kind_eq : p.kind = q.kind
  parameters : p.parameters.SameButSecret q.parameters

/-- The two differ in nothing but the bytes of their salts and of their digests. -/
structure KeyHash.SameForm (hash other : KeyHash) : Prop where
  algorithm_eq : hash.algorithm = other.algorithm
  cost_eq : hash.cost = other.cost
  salt_length_eq : hash.salt.length = other.salt.length

theorem KeyHash.SameForm.refl (hash : KeyHash) : hash.SameForm hash := ⟨rfl, rfl, rfl⟩

/-- Neither the log tells the two apart nor an error. -/
structure Outcome.Alike {α : Type} (x y : Outcome α) : Prop where
  events_eq : x.events = y.events
  error_eq : errorOf? x.result = errorOf? y.result

variable {password other : Bytes}

theorem Bytes.SameSide.lt_iff (h : password.SameSide other) :
    Bcrypt.maxPasswordLength < password.length ↔ Bcrypt.maxPasswordLength < other.length := by
  unfold SameSide at h
  omega

/-! ### Events of a comparison -/

/-- Nothing is logged of an answer. -/
@[simp] theorem Outcome.events_ofAnswer (answer : Bool) : (ofAnswer answer).events = [] := by
  cases answer <;> rfl

/-- What is logged when a hash of some algorithm, with a salt of some length, is compared. -/
def KeyDerivation.comparisonEvents (f : KeyDerivation) (keyLength : UInt64)
    (algorithm : Algorithm) (saltLength : Nat) : List Event :=
  if algorithm = f.algorithm then
    (f.refusal? keyLength saltLength).toList.map (.recomputationFailed f.family)
  else [.foreignAlgorithm f.family algorithm]

theorem KeySettings.events_verify {s : KeySettings} (hsecret : ∀ b ∈ s.secret, b.Short)
    (hpassword : password.Short) (hash : KeyHash) :
    (s.verify hash password).events =
      s.function.comparisonEvents s.keyLength hash.algorithm hash.salt.length := by
  have herror := s.function.errorOf?_derive s.keyLength hash.salt hsecret hpassword
  unfold verify KeyDerivation.comparisonEvents
  by_cases halgorithm : hash.algorithm = s.algorithm
  · have hfunction : hash.algorithm = s.function.algorithm := halgorithm
    rw [if_pos halgorithm, if_pos hfunction, ← herror]
    unfold digest
    cases s.function.derive s.keyLength s.secret password hash.salt with
    | ok digest => exact Outcome.events_ofAnswer _
    | error e => rfl
  · have hfunction : ¬hash.algorithm = s.function.algorithm := halgorithm
    rw [if_neg halgorithm, if_neg hfunction]
    rfl

/-- The record is read before the password is looked at. -/
theorem Bcrypt.events_verify_congr (hside : password.SameSide other) (text : String) :
    (verify text password).events = (verify text other).events := by
  unfold verify verify?
  by_cases hlong : maxPasswordLength < password.length
  · rw [if_pos hlong, if_pos (hside.lt_iff.1 hlong)]
  · rw [if_neg hlong, if_neg (mt hside.lt_iff.2 hlong)]
    cases Record.read? text with
    | none => rfl
    | some record => simp only [Option.map_some, Outcome.events_ofAnswer]

section Comparisons

variable {hash hash' : KeyHash} {text text' : String}

theorem KeySettings.secret_of_ofHash? {s : KeySettings} (h : ofHash? hash = some s) :
    s.secret = none := by
  simp only [ofHash?, Option.bind_eq_bind, Option.bind_eq_some_iff] at h
  obtain ⟨cost, -, f, -, hs⟩ := h
  cases hs
  rfl

theorem events_comparePublic_congr (hpassword : password.Short) (hother : other.Short)
    (hform : hash.SameForm hash') :
    (comparePublic hash password).events = (comparePublic hash' other).events := by
  have hmasked : hash.isMasked = hash'.isMasked := by
    rw [KeyHash.isMasked, KeyHash.isMasked, hform.cost_eq]
  have hsettings : KeySettings.ofHash? hash = KeySettings.ofHash? hash' := by
    rw [KeySettings.ofHash?, KeySettings.ofHash?, hform.algorithm_eq, hform.cost_eq]
  unfold comparePublic
  rw [hmasked, hsettings, hform.algorithm_eq]
  cases hash'.isMasked with
  | true => rfl
  | false =>
      cases hs : KeySettings.ofHash? hash' with
      | none => rfl
      | some s =>
          have hsecret : ∀ b ∈ s.secret, b.Short := by
            rw [KeySettings.secret_of_ofHash? hs]
            intro b hb
            cases hb
          have hevents := s.events_verify hsecret hpassword hash
          have hevents' := s.events_verify hsecret hother hash'
          rw [hform.algorithm_eq, hform.salt_length_eq] at hevents
          exact hevents.trans hevents'.symm

theorem events_compare_congr (hpassword : password.Short) (hother : other.Short)
    (hside : password.SameSide other) (text : String) :
    (compare text password).events = (compare text other).events := by
  unfold compare
  cases parse text with
  | error e => rfl
  | ok parsed =>
      cases parsed with
      | bcrypt kept => exact Bcrypt.events_verify_congr hside kept
      | key hash => exact events_comparePublic_congr hpassword hother (.refl hash)

theorem events_compare_of_sameForm (hpassword : password.Short) (hother : other.Short)
    (hparse : parse text = .ok (.key hash)) (hparse' : parse text' = .ok (.key hash'))
    (hform : hash.SameForm hash') :
    (compare text password).events = (compare text' other).events := by
  rw [compare, compare, hparse, hparse']
  exact events_comparePublic_congr hpassword hother hform

namespace Parameters

variable {p q : Parameters}

theorem events_compare_key_congr (h : p.SameButSecret q) (hp : ∀ b ∈ p.secret?, b.Short)
    (hq : ∀ b ∈ q.secret?, b.Short) (hpassword : password.Short) (hother : other.Short)
    (hparse : parse text = .ok (.key hash)) (hparse' : parse text' = .ok (.key hash'))
    (hform : hash.SameForm hash') :
    (p.compare text password).events = (q.compare text' other).events := by
  rw [compare, compare, hparse, hparse']
  cases h with
  | key s secret =>
      have hevents := s.events_verify hp hpassword hash
      have hevents' := { s with secret }.events_verify hq hother hash'
      rw [hform.algorithm_eq, hform.salt_length_eq] at hevents
      exact hevents.trans hevents'.symm
  | bcrypt cost =>
      simp only [HashText.algorithm, hform.algorithm_eq]

theorem events_compare_congr (h : p.SameButSecret q) (hp : ∀ b ∈ p.secret?, b.Short)
    (hq : ∀ b ∈ q.secret?, b.Short) (hpassword : password.Short) (hother : other.Short)
    (hside : password.SameSide other) (text : String) :
    (p.compare text password).events = (q.compare text other).events := by
  cases hparse : parse text with
  | error e => rw [compare, compare, hparse]
  | ok parsed =>
      cases parsed with
      | key hash =>
          exact events_compare_key_congr h hp hq hpassword hother hparse hparse (.refl hash)
      | bcrypt kept =>
          rw [compare, compare, hparse]
          cases h with
          | key s secret => rfl
          | bcrypt cost => exact Bcrypt.events_verify_congr hside kept

end Parameters

end Comparisons

/-! ### Hashing, deriving and showing -/

/-- The length of the password and the cost are all that bcrypt refuses to hash for. -/
theorem Bcrypt.errorOf?_hashText_congr (hside : password.SameSide other) (cost : UInt32)
    (fresh : Bytes) :
    errorOf? (hashText cost password fresh) = errorOf? (hashText cost other fresh) := by
  unfold hashText
  by_cases hlong : maxPasswordLength < password.length
  · rw [if_pos hlong, if_pos (hside.lt_iff.1 hlong)]
  · rw [if_neg hlong, if_neg (mt hside.lt_iff.2 hlong)]
    split
    · rfl
    · rw [errorOf?_ok, errorOf?_ok]

namespace Parameters

variable {p q : Parameters}

theorem SameButSecret.refusal?_eq (h : p.SameButSecret q) : p.refusal? = q.refusal? := by
  cases h <;> rfl

theorem errorOf?_hash_congr (h : p.SameButSecret q) (hp : ∀ b ∈ p.secret?, b.Short)
    (hq : ∀ b ∈ q.secret?, b.Short) (hpassword : password.Short) (hother : other.Short)
    (hside : p.family = .bcrypt → password.SameSide other) (fresh : Bytes) :
    errorOf? (p.hash password fresh) = errorOf? (q.hash other fresh) := by
  cases h with
  | bcrypt cost => exact Bcrypt.errorOf?_hashText_congr (hside rfl) cost fresh
  | key s secret =>
      have herror := s.function.errorOf?_derive s.keyLength (s.pinnedSalt.getD fresh) hp hpassword
      have herror' := s.function.errorOf?_derive s.keyLength (s.pinnedSalt.getD fresh) hq hother
      simp only [hash, KeySettings.hash, KeySettings.digest, errorOf?_map]
      exact herror.trans herror'.symm

theorem SameButSecret.text_eq (h : p.SameButSecret q) : p.text = q.text := by
  cases h <;> rfl

/-- Of a secret it shows that there is one. -/
theorem SameButSecret.outline_eq (h : p.SameButSecret q) (hkeyed : p.isKeyed = q.isKeyed) :
    p.outline = q.outline := by
  cases h with
  | bcrypt cost => rfl
  | key s secret =>
      have hsome : s.secret.isSome = secret.isSome := hkeyed
      have hshown (shown : Outline) :
          s.secret.map (fun _ => shown) = secret.map (fun _ => shown) := by
        revert hsome
        cases s.secret <;> cases secret <;> simp
      simp only [outline, KeySettings.outline, KeySettings.commonFields, hshown]

end Parameters

namespace Profile

variable {p q : Profile}

theorem events_derive (p : Profile) (password salt : Bytes) :
    (p.derive password salt).1.events = [.deriving p.kind] := by
  unfold derive
  split
  · split <;> rfl
  · rfl

theorem alike_derive (h : p.SameButSecret q) (hp : ∀ b ∈ p.parameters.secret?, b.Short)
    (hq : ∀ b ∈ q.parameters.secret?, b.Short) (hpassword : password.Short)
    (hother : other.Short) (salt : Bytes) :
    (p.derive password salt).1.Alike (q.derive other salt).1 where
  events_eq := by rw [events_derive, events_derive, h.kind_eq]
  error_eq := by
    rw [errorOf?_result_derive hp hpassword, errorOf?_result_derive hq hother,
      h.parameters.refusal?_eq]

theorem alike_hash (h : p.SameButSecret q) (hp : ∀ b ∈ p.parameters.secret?, b.Short)
    (hq : ∀ b ∈ q.parameters.secret?, b.Short) (hpassword : password.Short)
    (hother : other.Short) (hside : p.parameters.family = .bcrypt → password.SameSide other)
    (fresh : Bytes) : (p.hash password fresh).Alike (q.hash other fresh) where
  events_eq := congrArg (fun kind => [Event.hashing kind]) h.kind_eq
  error_eq := Parameters.errorOf?_hash_congr h.parameters hp hq hpassword hother hside fresh

end Profile

/-- Two passwords and two profiles that differ in their secrets cannot be told apart by what is
logged, by an error, or by what is shown of the parameters, nor can two texts by what is logged
when they are compared if they differ in the bytes of salt and digest. Bcrypt tells whether a
password is too long, and an outline tells whether there is a secret. -/
theorem log_and_errors_independent_of_secrets {p q : Profile} (h : p.SameButSecret q)
    (hp : ∀ b ∈ p.parameters.secret?, b.Short) (hq : ∀ b ∈ q.parameters.secret?, b.Short)
    {password other : Bytes} (hpassword : password.Short) (hother : other.Short) :
    (∀ text, password.SameSide other →
      (compare text password).events = (compare text other).events ∧
      (p.compare text password).events = (q.compare text other).events) ∧
    (∀ text text' hash hash', parse text = .ok (.key hash) → parse text' = .ok (.key hash') →
      hash.SameForm hash' →
      (compare text password).events = (compare text' other).events ∧
      (p.compare text password).events = (q.compare text' other).events) ∧
    (∀ salt, (p.derive password salt).1.Alike (q.derive other salt).1) ∧
    (∀ fresh, (p.parameters.family = .bcrypt → password.SameSide other) →
      (p.hash password fresh).Alike (q.hash other fresh)) ∧
    p.parameters.text = q.parameters.text ∧
    (p.isKeyed = q.isKeyed → p.parameters.outline = q.parameters.outline) := by
  refine ⟨?_, ?_, ?_, ?_, h.parameters.text_eq, h.parameters.outline_eq⟩
  · intro text hside
    exact ⟨events_compare_congr hpassword hother hside text,
      Parameters.events_compare_congr h.parameters hp hq hpassword hother hside text⟩
  · intro text text' hash hash' hparse hparse' hform
    exact ⟨events_compare_of_sameForm hpassword hother hparse hparse' hform,
      Parameters.events_compare_key_congr h.parameters hp hq hpassword hother hparse hparse' hform⟩
  · exact Profile.alike_derive h hp hq hpassword hother
  · intro fresh hside
    exact Profile.alike_hash h hp hq hpassword hother hside fresh

/-- The two texts are of different passwords, with salts of one length and under secrets of
different lengths. -/
theorem log_and_errors_of_argon2_profiles :
    ∃ text other,
      (((Profile.custom (.key .leastArgon2)).setSecret [1]).2.hash
        [] [1, 2, 3, 4, 5, 6, 7, 8]).result = .ok text ∧
      (((Profile.custom (.key .leastArgon2)).setSecret [2, 3]).2.hash
        [7] [8, 7, 6, 5, 4, 3, 2, 1]).result = .ok other ∧
      (((Profile.custom (.key .leastArgon2)).setSecret [1]).2.compare text []).events =
        (((Profile.custom (.key .leastArgon2)).setSecret [2, 3]).2.compare other [7]).events ∧
      (((Profile.custom (.key .leastArgon2)).setSecret [1]).2.hash
        [] [1, 2, 3, 4, 5, 6, 7, 8]).Alike
        (((Profile.custom (.key .leastArgon2)).setSecret [2, 3]).2.hash
          [7] [1, 2, 3, 4, 5, 6, 7, 8]) := by
  obtain ⟨-, hcompare, -, hhash, -⟩ := log_and_errors_independent_of_secrets
    (p := ((Profile.custom (.key .leastArgon2)).setSecret [1]).2)
    (q := ((Profile.custom (.key .leastArgon2)).setSecret [2, 3]).2)
    ⟨rfl, .key _ _⟩ (by rintro b ⟨⟩; decide) (by rintro b ⟨⟩; decide)
    (show Bytes.Short [] by decide) (show Bytes.Short [7] by decide)
  obtain ⟨digest, hdigest⟩ : ∃ digest,
      KeySettings.digest { KeySettings.leastArgon2 with secret := some [1] }
        [] [1, 2, 3, 4, 5, 6, 7, 8] = .ok digest := ⟨_, rfl⟩
  obtain ⟨digest', hdigest'⟩ : ∃ digest,
      KeySettings.digest { KeySettings.leastArgon2 with secret := some [2, 3] }
        [7] [8, 7, 6, 5, 4, 3, 2, 1] = .ok digest := ⟨_, rfl⟩
  have hreadable : KeySettings.leastArgon2.Readable [1, 2, 3, 4, 5, 6, 7, 8] :=
    KeySettings.leastArgon2_readable (by decide)
  have hreadable' : KeySettings.leastArgon2.Readable [8, 7, 6, 5, 4, 3, 2, 1] :=
    KeySettings.leastArgon2_readable (by decide)
  have hparse := (KeySettings.parse_encode_hashOf hdigest).1 (hreadable.withSecret (some [1]))
  have hparse' := (KeySettings.parse_encode_hashOf hdigest').1 (hreadable'.withSecret (some [2, 3]))
  refine ⟨_, _, KeySettings.hash_eq_ok_iff.2 ⟨digest, hdigest, rfl⟩,
    KeySettings.hash_eq_ok_iff.2 ⟨digest', hdigest', rfl⟩, ?_, hhash _ nofun⟩
  exact (hcompare _ _ _ _ hparse hparse' ⟨rfl, rfl, rfl⟩).2

end PasswordHashing
