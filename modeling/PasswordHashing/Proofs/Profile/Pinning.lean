import PasswordHashing.Proofs.Parameters
import PasswordHashing.Proofs.Profile.State

/-!
Deriving and hashing beside each other. A derivation and a hash with the same salt compute the
same digest, and a salt that a key was derived with stays with the profile until a key is
derived with another one. Main statement: deriving fails exactly as hashing with that salt
does, and after a derivation every hash is made with its salt, whichever salt would have been
drawn; as long as no salt was pinned every hash is made with a salt of the profile's salt length
that is drawn for it.
-/

namespace PasswordHashing

/-- The text of a password under a secret and with a salt of its own. -/
def KeySettings.hashWith (s : KeySettings) (secret : Option Bytes) (password salt : Bytes) :
    Except HashingError String :=
  ({ s with secret }.digest password salt).map fun digest => (s.hashOf salt digest).encode

theorem KeySettings.exists_digest_of_hashWith {s : KeySettings} {secret : Option Bytes}
    {password salt : Bytes} {text : String} (h : s.hashWith secret password salt = .ok text) :
    ∃ digest, text = (s.hashOf salt digest).encode := by
  obtain ⟨digest, -, rfl⟩ := map_eq_ok_iff.1 h
  exact ⟨digest, rfl⟩

namespace Profile

variable {p : Profile} {s : KeySettings}

/-- Each password is hashed with a salt that is drawn for it, which is as long as the settings
say and stands in the text. -/
def DrawsSalts (p : Profile) (s : KeySettings) (secret : Option Bytes) : Prop :=
  ∀ (source : RandomSource) (password : Bytes), ∃ salt, salt = source.draw s.saltLength.toNat ∧
    salt.length = s.saltLength.toNat ∧
    (p.hashFrom source password).result = s.hashWith secret password salt ∧
    ∀ text, (p.hashFrom source password).result = .ok text →
      ∃ digest, text = (s.hashOf salt digest).encode

/-- The profile with another salt pinned, however that came about. -/
def pin (p : Profile) (salt : Bytes) : Profile :=
  match p.parameters with
  | .key s => { p with parameters := .key { s with pinnedSalt := some salt } }
  | .bcrypt _ => p

theorem parameters_pin (hp : p.parameters = .key s) (salt : Bytes) :
    (p.pin salt).parameters = .key { s with pinnedSalt := some salt } := by
  rw [pin, hp]

theorem hash_result (hp : p.parameters = .key s) (password fresh : Bytes) :
    (p.hash password fresh).result =
      s.hashWith s.secret password (s.pinnedSalt.getD fresh) := by
  rw [hash, hp]
  rfl

theorem drawsSalts_of_unpinned (hp : p.parameters = .key s) (hunpinned : s.pinnedSalt = none) :
    p.DrawsSalts s s.secret := by
  intro source password
  have hresult : (p.hashFrom source password).result =
      s.hashWith s.secret password (source.draw s.saltLength.toNat) := by
    rw [hashFrom, hash_result hp, hp, Parameters.freshSaltLength, hunpinned]
    rfl
  refine ⟨_, rfl, source.length_draw _, hresult, ?_⟩
  intro text htext
  exact KeySettings.exists_digest_of_hashWith (hresult.symm.trans htext)

/-- The salt that a hash after the run is made with, where `fresh` would be drawn for it. -/
theorem hash_after_run (hp : p.parameters = .key s) (calls : List Call) (password fresh : Bytes) :
    ((p.run calls).2.hash password fresh).result =
      s.hashWith ((secretsSet calls).getLast?.or s.secret) password
        (((p.saltsPinned calls).getLast?.or s.pinnedSalt).getD fresh) := by
  have hrun := congrArg Profile.parameters (run_state hp calls)
  rw [hash_result hrun]
  rfl

theorem freshSaltLength_after_run (hp : p.parameters = .key s) (calls : List Call) :
    (p.run calls).2.parameters.freshSaltLength =
      if ((p.saltsPinned calls).getLast?.or s.pinnedSalt).isSome then 0
      else s.saltLength.toNat := by
  rw [run_state hp calls]
  rfl

theorem drawsSalts_after_run {calls : List Call} (hp : p.parameters = .key s)
    (hunpinned : s.pinnedSalt = none) (hcalls : p.saltsPinned calls = []) :
    (p.run calls).2.DrawsSalts s ((secretsSet calls).getLast?.or s.secret) := by
  have hrun := congrArg Profile.parameters (run_state hp calls)
  apply drawsSalts_of_unpinned hrun
  rw [hcalls, hunpinned]
  rfl

theorem derive_error_iff_hash_error (hp : p.parameters = .key s) (password salt fresh : Bytes)
    (e : HashingError) :
    (p.derive password salt).1.result = .error e ↔
      ((p.pin salt).hash password fresh).result = .error e := by
  have hdigest : errorOf? (((p.pin salt).hash password fresh).result) =
      errorOf? (s.digest password salt) := by
    rw [hash_result (parameters_pin hp salt), KeySettings.hashWith, errorOf?_map]
    rfl
  rw [result_derive hp, ← errorOf?_eq_some_iff, ← errorOf?_eq_some_iff, hdigest]

/-- A derivation that succeeds leaves the profile with its salt and changes nothing else. -/
theorem parameters_derive {password salt key : Bytes} (hp : p.parameters = .key s)
    (h : (p.derive password salt).1.result = .ok key) :
    s.digest password salt = .ok key ∧
      (p.derive password salt).2.parameters = .key { s with pinnedSalt := some salt } := by
  have hdigest : s.digest password salt = .ok key := by rw [← result_derive hp, h]
  refine ⟨hdigest, ?_⟩
  rw [derive, hp]
  simp only [hdigest]

theorem hash_after_derive {password salt key : Bytes} {calls : List Call}
    (hp : p.parameters = .key s) (h : (p.derive password salt).1.result = .ok key)
    (hcalls : (p.derive password salt).2.saltsPinned calls = []) (other fresh : Bytes) :
    (((p.derive password salt).2.run calls).2.hash other fresh).result =
      s.hashWith ((secretsSet calls).getLast?.or s.secret) other salt := by
  have hpinned := (parameters_derive hp h).2
  rw [hash_after_run hpinned, hcalls]
  rfl

/-- Deriving fails with what hashing with that salt fails with. After a key was derived, and until
another one is, every hash is made with its salt and none is drawn, and the text of the same
password under the same secret holds the key. Without a pinned salt every hash is made with the
salt that is drawn for it, and the source is asked for one of the profile's salt length. -/
theorem derived_salt_governs_hashes (hp : p.parameters = .key s) :
    (∀ password salt fresh e, (p.derive password salt).1.result = .error e ↔
      ((p.pin salt).hash password fresh).result = .error e) ∧
    (∀ password salt key, (p.derive password salt).1.result = .ok key →
      ∀ calls : List Call, (p.derive password salt).2.saltsPinned calls = [] →
        (secretsSet calls = [] → ∀ fresh,
          (((p.derive password salt).2.run calls).2.hash password fresh).result =
            .ok (s.hashOf salt key).encode) ∧
        (∀ other fresh,
          (((p.derive password salt).2.run calls).2.hash other fresh).result =
            s.hashWith ((secretsSet calls).getLast?.or s.secret) other salt) ∧
        ((p.derive password salt).2.run calls).2.parameters.freshSaltLength = 0) ∧
    (s.pinnedSalt = none → ∀ calls : List Call, p.saltsPinned calls = [] →
      (∀ password fresh, ((p.run calls).2.hash password fresh).result =
        s.hashWith ((secretsSet calls).getLast?.or s.secret) password fresh) ∧
      (p.run calls).2.parameters.freshSaltLength = s.saltLength.toNat ∧
      (p.run calls).2.DrawsSalts s ((secretsSet calls).getLast?.or s.secret)) := by
  refine ⟨derive_error_iff_hash_error hp, ?_, ?_⟩
  · intro password salt key hkey calls hcalls
    obtain ⟨hdigest, hpinned⟩ := parameters_derive hp hkey
    refine ⟨?_, hash_after_derive hp hkey hcalls, ?_⟩
    · intro hsecrets fresh
      have hsame : { s with secret := s.secret }.digest password salt = .ok key := hdigest
      rw [hash_after_derive hp hkey hcalls, hsecrets, KeySettings.hashWith]
      simp only [List.getLast?_nil, Option.none_or, hsame]
      rfl
    · rw [freshSaltLength_after_run hpinned, hcalls]
      rfl
  · intro hnone calls hcalls
    refine ⟨?_, ?_, drawsSalts_after_run hp hnone hcalls⟩
    · intro password fresh
      rw [hash_after_run hp, hcalls, hnone]
      rfl
    · rw [freshSaltLength_after_run hp, hcalls, hnone]
      rfl

/-- Neither a derivation that fails nor another secret takes the salt away; the key is in the text
as long as the secret is the same. -/
theorem derived_salt_governs_hashes_of_argon2 :
    ∃ p key, ((custom (.key { function := .argon2 .id 1 8 1, keyLength := 4 })).derive
        [1] [0, 1, 2, 3, 4, 5, 6, 7]) = (⟨.ok key, [.deriving .argon2Custom]⟩, p) ∧
      (∀ fresh, ((p.run [.derive [] [9], .hash [2] []]).2.hash [1] fresh).result =
        .ok (KeyHash.encode { algorithm := .argon2 .id, salt := [0, 1, 2, 3, 4, 5, 6, 7],
                              cost := some (.argon2 1 8 1 4), digest := key })) ∧
      (p.run [.setSecret [3], .derive [] [9]]).2.parameters.freshSaltLength = 0 := by
  obtain ⟨-, hderived, -⟩ := derived_salt_governs_hashes
    (p := custom (.key { function := .argon2 .id 1 8 1, keyLength := 4 })) rfl
  have hpinned := hderived [1] [0, 1, 2, 3, 4, 5, 6, 7] _ rfl
  refine ⟨_, _, rfl, ?_, ?_⟩
  · exact (hpinned [.derive [] [9], .hash [2] []] rfl).1 rfl
  · exact (hpinned [.setSecret [3], .derive [] [9]] rfl).2.2

end Profile

end PasswordHashing
