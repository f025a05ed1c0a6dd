import PasswordHashing.Proofs.Profile.State
import PasswordHashing.Proofs.Profile.StoredTexts
import PasswordHashing.Proofs.Verification.Agreement

/-!
Scrypt with a secret beside scrypt without one. Scrypt has no place for a secret and is given
the code of the password under the secret, so whoever holds such codes can do without the
secret. Main statement: a run of a profile of scrypt is answered like the run of the profile
without a secret on the same calls, where those that set a secret are left out and each
password is the code of it under the secret of that time; and a text that was made with a
secret verifies on its own for the code.
-/

namespace PasswordHashing

/-! ### Derivations -/

/-- The code of a password under a secret, and the password itself where there is no secret. -/
def Bytes.prekey (secret : Option Bytes) (password : Bytes) : Bytes :=
  secret.elim password fun secret => Hmac.code secret password

theorem KeyDerivation.derive_prekey {f : KeyDerivation} (hfamily : f.family = .scrypt)
    (keyLength : UInt64) (secret : Option Bytes) (password salt : Bytes) :
    f.derive keyLength none (password.prekey secret) salt =
      f.derive keyLength secret password salt := by
  cases f with
  | argon2 => cases hfamily
  | scrypt logN r p =>
      -- without a secret the code is not coded once more
      have hpassword : keyedPassword none (password.prekey secret) =
          keyedPassword secret password := by
        cases secret <;> rfl
      rw [derive, derive, hpassword]

namespace KeySettings

variable {s : KeySettings}

theorem digest_prekey (hfamily : s.family = .scrypt) (password salt : Bytes) :
    { s with secret := none }.digest (password.prekey s.secret) salt = s.digest password salt :=
  KeyDerivation.derive_prekey hfamily s.keyLength s.secret password salt

theorem hash_prekey (hfamily : s.family = .scrypt) (password fresh : Bytes) :
    { s with secret := none }.hash (password.prekey s.secret) fresh = s.hash password fresh := by
  rw [hash, digest_prekey hfamily]
  rfl

theorem compare_prekey (hfamily : s.family = .scrypt) (text : String) (password : Bytes) :
    (Parameters.key { s with secret := none }).compare text (password.prekey s.secret) =
      (Parameters.key s).compare text password := by
  apply Parameters.compare_eq_of_digest_eq
  · rfl
  · exact digest_prekey hfamily password

end KeySettings

namespace Profile

/-! ### Calls -/

/-- The call with the code of its password; a call that sets a secret has no counterpart. -/
def Call.prekey? (secret : Option Bytes) : Call → Option Call
  | .setSecret _ => none
  | .derive password salt => some (.derive (password.prekey secret) salt)
  | .hash password fresh => some (.hash (password.prekey secret) fresh)
  | .compare text password => some (.compare text (password.prekey secret))

/-- Each call with the code of its password under the secret that was set last before it. -/
def prekeyed (secret : Option Bytes) : List Call → List Call
  | [] => []
  | c :: rest => (c.prekey? secret).toList ++ prekeyed (c.secret?.or secret) rest

/-- The reply is to something else than the setting of a secret. -/
def Reply.isAnswer : Reply → Bool
  | .secretSet _ => false
  | _ => true

/-- The profile without its secret. -/
def unkeyed (p : Profile) : Profile :=
  match p.parameters with
  | .key s => { p with parameters := .key { s with secret := none } }
  | .bcrypt _ => p

variable {p : Profile} {s : KeySettings}

theorem unkeyed_eq (hp : p.parameters = .key s) :
    p.unkeyed = { p with parameters := .key { s with secret := none } } := by
  rw [unkeyed, hp]

theorem unkeyed_of_secret_eq_none (hp : p.parameters = .key s) (hsecret : s.secret = none) :
    p.unkeyed = p := by
  obtain ⟨kind, parameters⟩ := p
  obtain rfl : parameters = .key s := hp
  rw [unkeyed_eq rfl, ← hsecret]

theorem freshSaltLength_unkeyed (p : Profile) :
    p.unkeyed.parameters.freshSaltLength = p.parameters.freshSaltLength := by
  obtain ⟨kind, parameters⟩ := p
  cases parameters <;> rfl

theorem isAnswer_call (p : Profile) (secret : Option Bytes) (c : Call) :
    (p.call c).1.isAnswer = (c.prekey? secret).isSome := by
  cases c <;> rfl

/-- A call without a counterpart sets a secret and nothing else. -/
theorem unkeyed_call {secret : Option Bytes} {c : Call} (p : Profile)
    (hc : c.prekey? secret = none) : (p.call c).2.unkeyed = p.unkeyed := by
  obtain ⟨kind, parameters⟩ := p
  cases c with
  | setSecret new => cases parameters <;> rfl
  | derive => cases hc
  | hash => cases hc
  | compare => cases hc

/-- The profile without its secret does with the code of a password what the profile does with
the password. -/
theorem call_unkeyed {c c' : Call} (hp : p.parameters = .key s) (hfamily : s.family = .scrypt)
    (hc : c.prekey? s.secret = some c') :
    p.unkeyed.call c' = ((p.call c).1, (p.call c).2.unkeyed) := by
  obtain ⟨kind, parameters⟩ := p
  obtain rfl : parameters = .key s := hp
  cases c with
  | setSecret secret => cases hc
  | derive password salt =>
      cases hc
      have hdigest := KeySettings.digest_prekey hfamily password salt
      cases hderive : s.digest password salt with
      | ok key =>
          rw [hderive] at hdigest
          simp only [call, derive, unkeyed, hdigest, hderive]
      | error e =>
          rw [hderive] at hdigest
          simp only [call, derive, unkeyed, hdigest, hderive]
  | hash password fresh =>
      cases hc
      have hhash := KeySettings.hash_prekey hfamily password fresh
      simp only [call, hash, Parameters.hash, unkeyed, hhash]
  | compare text password =>
      cases hc
      have hcompare := KeySettings.compare_prekey hfamily text password
      simp only [call, compare, unkeyed, hcompare]

/-! ### Runs -/

theorem family_call (hp : p.parameters = .key s) (c : Call) :
    ∃ s', (p.call c).2.parameters = .key s' ∧ s'.family = s.family ∧
      s'.secret = c.secret?.or s.secret := by
  rw [call_state hp c]
  exact ⟨_, rfl, rfl, rfl⟩

/-- What a run answers, and the profile that it leaves without its secret, are the same as for
the codes of the passwords. -/
theorem run_prekeyed (hp : p.parameters = .key s) (hfamily : s.family = .scrypt)
    (calls : List Call) :
    (p.run calls).1.filter Reply.isAnswer = (p.unkeyed.run (prekeyed s.secret calls)).1 ∧
      (p.run calls).2.unkeyed = (p.unkeyed.run (prekeyed s.secret calls)).2 := by
  -- the induction is over every profile: each call starts from another secret and another salt
  induction calls generalizing p s with
  | nil => exact ⟨rfl, rfl⟩
  | cons c rest ih =>
      obtain ⟨s', hp', hfamily', hsecret'⟩ := family_call hp c
      obtain ⟨hanswers, hstate⟩ := ih hp' (hfamily'.trans hfamily)
      rw [hsecret'] at hanswers hstate
      have hanswer := p.isAnswer_call s.secret c
      cases hc : c.prekey? s.secret with
      | none =>
          rw [hc, Option.isSome_none] at hanswer
          rw [unkeyed_call p hc] at hanswers hstate
          rw [prekeyed, hc, Option.toList_none, List.nil_append, run,
            List.filter_cons_of_neg (Bool.eq_false_iff.1 hanswer)]
          exact ⟨hanswers, hstate⟩
      | some c' =>
          rw [hc, Option.isSome_some] at hanswer
          rw [prekeyed, hc, Option.toList_some, List.singleton_append, run, run,
            call_unkeyed hp hfamily hc, List.filter_cons_of_pos hanswer, hanswers, hstate]
          exact ⟨rfl, rfl⟩

theorem compare_code_of_readable {secret password fresh : Bytes} {text : String}
    (hp : p.parameters = .key s) (hfamily : s.family = .scrypt) (hsecret : s.secret = some secret)
    (hmasked : s.masked = false) (hhash : (p.hash password fresh).result = .ok text)
    (hreadable : s.Readable (s.pinnedSalt.getD fresh)) :
    (PasswordHashing.compare text (Hmac.code secret password)).result = .ok () := by
  have hunkeyed : p.unkeyed.parameters = .key { s with secret := none } := by rw [unkeyed_eq hp]
  have hsame : (p.unkeyed.hash (password.prekey s.secret) fresh).result = .ok text := by
    rw [Profile.hash, hunkeyed, Parameters.hash, KeySettings.hash_prekey hfamily]
    rw [Profile.hash, hp] at hhash
    exact hhash
  rw [hsecret] at hsame
  exact compare_of_readable hunkeyed hsame (hreadable.withSecret none) hmasked rfl

/-- A profile of scrypt answers every call but the setting of secrets as the profile that never
gets a secret answers it for the code of the password, over any run and with salts of the same
lengths. A text that was made with a secret and can be read verifies on its own for the code. -/
theorem keyed_scrypt_run_is_prekeyed (hp : p.parameters = .key s) (hfamily : s.family = .scrypt) :
    (s.secret = none → ∀ calls : List Call,
      (p.run calls).1.filter Reply.isAnswer = (p.run (prekeyed none calls)).1 ∧
      (p.run calls).2.unkeyed = (p.run (prekeyed none calls)).2 ∧
      (p.run calls).2.parameters.freshSaltLength =
        (p.run (prekeyed none calls)).2.parameters.freshSaltLength) ∧
    ∀ secret, s.secret = some secret → s.masked = false → ∀ password fresh text,
      (p.hash password fresh).result = .ok text → s.Readable (s.pinnedSalt.getD fresh) →
      (PasswordHashing.compare text (Hmac.code secret password)).result = .ok () := by
  refine ⟨?_, ?_⟩
  · intro hsecret calls
    obtain ⟨hanswers, hstate⟩ := run_prekeyed hp hfamily calls
    rw [unkeyed_of_secret_eq_none hp hsecret, hsecret] at hanswers hstate
    refine ⟨hanswers, hstate, ?_⟩
    rw [← hstate, freshSaltLength_unkeyed]
  · intro secret hsecret hmasked password fresh text hhash hreadable
    exact compare_code_of_readable hp hfamily hsecret hmasked hhash hreadable

/-- The second secret takes the place of the first, and the salt that was derived with is used
for both; the text of the password under the second verifies for the code. -/
theorem keyed_run_of_small_scrypt_is_prekeyed :
    ((custom (.key { function := .scrypt 1 1 1, keyLength := 10 })).run
        [.setSecret [1], .derive [5] [2], .setSecret [3], .hash [5] []]).1.filter Reply.isAnswer =
      ((custom (.key { function := .scrypt 1 1 1, keyLength := 10 })).run
        [.derive (Hmac.code [1] [5]) [2], .hash (Hmac.code [3] [5]) []]).1 ∧
    ∃ text, ((custom (.key { function := .scrypt 1 1 1, keyLength := 10, pinnedSalt := some [2],
                             secret := some [3] })).hash [5] []).result = .ok text ∧
      (PasswordHashing.compare text (Hmac.code [3] [5])).result = .ok () := by
  constructor
  · exact ((keyed_scrypt_run_is_prekeyed
      (p := custom (.key { function := .scrypt 1 1 1, keyLength := 10 })) rfl rfl).1 rfl _).1
  · refine ⟨_, rfl, ?_⟩
    exact (keyed_scrypt_run_is_prekeyed
      (p := custom (.key { function := .scrypt 1 1 1, keyLength := 10, pinnedSalt := some [2],
                           secret := some [3] })) rfl rfl).2 [3] rfl rfl [5] [] _ rfl
      ⟨by decide, fun _ => by simp [KeyDerivation.WithinCeilings]⟩

end Profile

end PasswordHashing
