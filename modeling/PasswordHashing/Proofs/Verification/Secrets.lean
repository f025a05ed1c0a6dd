import PasswordHashing.Proofs.KeyDerivation.Secrets
import PasswordHashing.Proofs.Profile.StoredTexts
import PasswordHashing.Proofs.Refusal
import PasswordHashing.Proofs.Verification.Agreement

/-!
Texts that were made with a secret, compared without it. The secret leaves no trace in the
text; all that keeps another profile from accepting is that it derives another key. Main
statement: a text that was made with a secret is a mismatch without a secret and with every
secret that the function is not handed the same for, unless the two make a function on the way
to the key collide; and secrets that the function is handed the same for compare alike.
-/

namespace PasswordHashing

open HashText

namespace KeySettings

variable {s : KeySettings} {password salt digest secret : Bytes} {other : Option Bytes}

/-- A secret that derives the digest opens the text, whichever secret it was made with. -/
theorem accepts_of_same_digest
    (hother : { s with secret := other }.digest password salt = .ok digest)
    (hreadable : s.Readable salt) :
    (Parameters.key { s with secret := other }).Accepts (s.hashOf salt digest).encode password :=
  accepts_encode_hashOf hother (hreadable.withSecret other) s.pinnedSalt

/-- A secret that opens the text derives the digest that stands in it. -/
theorem digest_of_accepts (h : { s with secret := secret }.digest password salt = .ok digest)
    (haccepts : (Parameters.key { s with secret := other }).Accepts
      (s.hashOf salt digest).encode password) :
    { s with secret := other }.digest password salt = .ok digest := by
  cases haccepts with
  | key hparse _ hderive =>
      cases eq_of_parse_encode_hashOf h hparse
      exact hderive

/-- A secret that is another one for the function does not open the text, or it collides. -/
theorem mismatch_or_confuses
    (h : { s with secret := some secret }.digest password salt = .ok digest)
    (hne : ¬s.function.SameSecret other (some secret)) :
    ((Parameters.key { s with secret := other }).compare (s.hashOf salt digest).encode
        password).result = .error .mismatch ∨
      s.function.Confuses s.keyLength password salt other secret := by
  rcases (Parameters.key { s with secret := other }).isVerdict_compare
    (s.hashOf salt digest).encode password with hok | hmismatch
  · have hother := digest_of_accepts h (Parameters.compare_eq_ok_iff.1 hok)
    exact .inr (KeyDerivation.confuses_of_derive_eq hne hother h)
  · exact .inl hmismatch

/-- Without its secret a profile compares the text as the text describes itself. -/
theorem compare_eq_of_keyed_text
    (h : { s with secret := some secret }.digest password salt = .ok digest)
    (hmasked : s.masked = false) (candidate : Bytes) :
    compare (s.hashOf salt digest).encode candidate =
      (Parameters.key { s with secret := none }).compare (s.hashOf salt digest).encode
        candidate := by
  cases hparse : parse (s.hashOf salt digest).encode with
  | error e => rw [compare, Parameters.compare, hparse]
  | ok parsed =>
      obtain rfl := eq_of_parse_encode_hashOf h hparse
      have hcost : (s.hashOf salt digest).cost = some s.cost :=
        hashOf_cost_eq_some_iff.2 ⟨hmasked, rfl⟩
      have hdescribed : Profile.DescribedBy (.custom (.key { s with secret := none }))
          (s.hashOf salt digest) := ⟨_, rfl, rfl, rfl, hcost⟩
      exact (Profile.compare_eq_of_describedBy hparse hdescribed candidate).symm

/-- Secrets that are the same for the function are the same for every comparison. -/
theorem compare_eq_of_sameSecret {x y : Option Bytes} (h : s.function.SameSecret x y)
    (text : String) (password : Bytes) :
    (Parameters.key { s with secret := x }).compare text password =
      (Parameters.key { s with secret := y }).compare text password := by
  apply Parameters.compare_eq_of_digest_eq
  · rfl
  · exact KeyDerivation.derive_eq_of_sameSecret h s.keyLength password

end KeySettings

/-- No secret is another one than any secret but the empty one of Argon2. -/
theorem KeyDerivation.not_sameSecret_none {f : KeyDerivation} {secret : Bytes}
    (h : f.family = .argon2 → secret ≠ []) : ¬f.SameSecret none (some secret) := by
  cases f with
  | argon2 => exact (h rfl).symm
  | scrypt => exact nofun

namespace Profile

variable {p : Profile} {s : KeySettings} {secret password fresh : Bytes} {text : String}

theorem parameters_setSecret (hp : p.parameters = .key s) (secret : Bytes) :
    (p.setSecret secret).2.parameters = .key { s with secret := some secret } := by
  rw [setSecret, hp]

theorem hash_setSecret {digest : Bytes} (hp : p.parameters = .key s)
    (h : { s with secret := some secret }.digest password (s.pinnedSalt.getD fresh) =
      .ok digest) :
    ((p.setSecret secret).2.hash password fresh).result =
      .ok (s.hashOf (s.pinnedSalt.getD fresh) digest).encode :=
  (hash_eq_ok_iff_of_key (parameters_setSecret hp secret)).2 ⟨digest, h, rfl⟩

/-- A text that was made with a secret is a mismatch without one and with any other, unless a
function on the way to the key collides; whether Argon2 tells an empty secret from none is left
open. Two secrets that the function is handed the same for are one secret for every comparison. -/
theorem keyed_text_needs_its_secret (hp : p.parameters = .key s) (hmasked : s.masked = false)
    (hsecret : s.secret = none)
    (hhash : ((p.setSecret secret).2.hash password fresh).result = .ok text) :
    ((s.family = .argon2 → secret ≠ []) →
      ((PasswordHashing.compare text password).result = .error .mismatch ∧
        (p.compare text password).result = .error .mismatch) ∨
      s.function.Confuses s.keyLength password (s.pinnedSalt.getD fresh) none secret) ∧
    ∀ other,
      (¬s.function.SameSecret (some other) (some secret) →
        ((p.setSecret other).2.compare text password).result = .error .mismatch ∨
        s.function.Confuses s.keyLength password (s.pinnedSalt.getD fresh) (some other) secret) ∧
      (s.function.SameSecret (some other) (some secret) → ∀ any candidate,
        (p.setSecret other).2.compare any candidate =
          (p.setSecret secret).2.compare any candidate) := by
  obtain ⟨digest, hdigest, rfl⟩ :=
    (hash_eq_ok_iff_of_key (parameters_setSecret hp secret)).1 hhash
  constructor
  · intro hne
    have hunkeyed : p.parameters = .key { s with secret := none } := by rw [hp, ← hsecret]
    have hself := KeySettings.compare_eq_of_keyed_text hdigest hmasked password
    rw [Profile.compare, hunkeyed]
    rcases KeySettings.mismatch_or_confuses hdigest (KeyDerivation.not_sameSecret_none hne) with
      hmismatch | hconfuses
    · exact .inl ⟨(congrArg Outcome.result hself).trans hmismatch, hmismatch⟩
    · exact .inr hconfuses
  · intro other
    rw [Profile.compare, parameters_setSecret hp other]
    constructor
    · intro hne
      exact KeySettings.mismatch_or_confuses hdigest hne
    · intro hsame any candidate
      rw [Profile.compare, Profile.compare, parameters_setSecret hp, parameters_setSecret hp]
      exact KeySettings.compare_eq_of_sameSecret hsame any candidate

/-- The secrets [1] and [2] are filled to different blocks. -/
theorem keyed_text_of_small_scrypt_needs_its_secret :
    ∃ text, (((custom (.key .leastScrypt)).setSecret [1]).2.hash [] [1]).result = .ok text ∧
      (((PasswordHashing.compare text []).result = .error .mismatch ∧
          ((custom (.key .leastScrypt)).compare text []).result = .error .mismatch) ∨
        KeyDerivation.Confuses 10 [] [1] (.scrypt 1 1 1) none [1]) ∧
      ((((custom (.key .leastScrypt)).setSecret [2]).2.compare text []).result =
          .error .mismatch ∨
        KeyDerivation.Confuses 10 [] [1] (.scrypt 1 1 1) (some [2]) [1]) := by
  obtain ⟨text, hhash⟩ : ∃ text,
      (((custom (.key .leastScrypt)).setSecret [1]).2.hash [] [1]).result = .ok text := ⟨_, rfl⟩
  have hother : ¬(KeyDerivation.scrypt 1 1 1).SameSecret (some [2]) (some [1]) :=
    fun hsame => absurd (Option.some.inj hsame) (by decide)
  obtain ⟨hunkeyed, hkeyed⟩ := keyed_text_needs_its_secret
    (p := custom (.key .leastScrypt)) rfl rfl rfl hhash
  exact ⟨text, hhash, hunkeyed nofun, (hkeyed [2]).1 hother⟩

/-- A text that was made with one secret is accepted with another one that only has a zero more;
with no secret where it was made with an empty one; and with some other secret of Argon2, of
which there are more than keys. -/
theorem keyed_text_accepted_with_other_secret :
    (∃ text, (((custom (.key .leastScrypt)).setSecret [1]).2.hash [] [1]).result = .ok text ∧
      (((custom (.key .leastScrypt)).setSecret [1, 0]).2.compare text []).result = .ok ()) ∧
    (∃ text, (((custom (.key .leastArgon2)).setSecret []).2.hash
        [] [1, 2, 3, 4, 5, 6, 7, 8]).result = .ok text ∧
      (PasswordHashing.compare text []).result = .ok ()) ∧
    ∃ secret other, other ≠ secret ∧ ∃ text,
      (((custom (.key .leastArgon2)).setSecret secret).2.hash
        [] [1, 2, 3, 4, 5, 6, 7, 8]).result = .ok text ∧
      (((custom (.key .leastArgon2)).setSecret other).2.compare text []).result = .ok () := by
  have hreadable : KeySettings.leastScrypt.Readable [1] :=
    KeySettings.leastScrypt_readable (by decide)
  have hreadable' : KeySettings.leastArgon2.Readable [1, 2, 3, 4, 5, 6, 7, 8] :=
    KeySettings.leastArgon2_readable (by decide)
  refine ⟨?_, ?_, ?_⟩
  · obtain ⟨digest, hdigest⟩ : ∃ digest,
        KeySettings.digest { KeySettings.leastScrypt with secret := some [1] } [] [1] =
          .ok digest := ⟨_, rfl⟩
    have hsame : (KeyDerivation.scrypt 1 1 1).SameSecret (some [1, 0]) (some [1]) :=
      congrArg some (by decide)
    have hother := (KeyDerivation.derive_eq_of_sameSecret hsame 10 [] [1]).trans hdigest
    refine ⟨_, hash_setSecret rfl hdigest, ?_⟩
    exact Parameters.compare_eq_ok_iff.2 (KeySettings.accepts_of_same_digest hother hreadable)
  · obtain ⟨digest, hdigest⟩ : ∃ digest,
        KeySettings.digest { KeySettings.leastArgon2 with secret := some [] }
          [] [1, 2, 3, 4, 5, 6, 7, 8] = .ok digest := ⟨_, rfl⟩
    refine ⟨_, hash_setSecret rfl hdigest, ?_⟩
    exact compare_eq_ok_iff.2
      (KeySettings.accepted_encode_hashOf (s := .leastArgon2) hdigest hreadable' rfl rfl)
  · have hrefusal : (KeyDerivation.argon2 .id 1 8 1).refusal? 4
        (List.length (α := UInt8) [1, 2, 3, 4, 5, 6, 7, 8]) = none := rfl
    have hpassword : Bytes.Short [] := by decide
    obtain ⟨secret, other, digest, hne, hdigest, hother⟩ :=
      KeyDerivation.exists_secrets_of_one_key hrefusal hpassword (by decide)
    exact ⟨secret, other, hne, _, hash_setSecret rfl hdigest,
      Parameters.compare_eq_ok_iff.2 (KeySettings.accepts_of_same_digest hother hreadable')⟩

end Profile

end PasswordHashing
