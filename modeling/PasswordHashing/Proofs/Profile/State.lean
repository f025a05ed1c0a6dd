import PasswordHashing.Config
import PasswordHashing.Proofs.Profile.Run
import PasswordHashing.Proofs.Refusal

/-!
The state of a profile after any run, read off the calls and their replies. The secret is the
one that was set last and the pinned salt the one that a key was derived with last; all else
is as the profile was made. Which derivations succeed depends on their salts alone, as long as
passwords and secrets are short, so it does not matter how the calls that set secrets and the
calls that derive keys are mixed. Main statement: all of this for every profile that can be
made, and that a call that fails changes nothing.
-/

namespace PasswordHashing

/-! ### Calls and replies -/

namespace Profile

namespace Call

def secret? : Call → Option Bytes
  | .setSecret secret => some secret
  | _ => none

/-- The salt that a key is asked for with. -/
def salt? : Call → Option Bytes
  | .derive _ salt => some salt
  | _ => none

/-- Neither the secret that is set nor the password of a derivation is too long for a function. -/
def Short : Call → Prop
  | .setSecret secret => secret.Short
  | .derive password _ => password.Short
  | _ => True

end Call

def Reply.error? : Reply → Option HashingError
  | .secretSet result => errorOf? result
  | .key outcome => errorOf? outcome.result
  | .text outcome => errorOf? outcome.result
  | .verdict outcome => errorOf? outcome.result

def secretsSet (calls : List Call) : List Bytes := calls.filterMap Call.secret?

def saltsAsked (calls : List Call) : List Bytes := calls.filterMap Call.salt?

/-- The salt of a derivation and what it failed with. -/
def derivation? (exchange : Call × Reply) : Option (Bytes × Option HashingError) :=
  exchange.1.salt?.map fun salt => (salt, exchange.2.error?)

/-- The derivations of a run in their order. -/
def derivations (p : Profile) (calls : List Call) : List (Bytes × Option HashingError) :=
  (calls.zip (p.run calls).1).filterMap derivation?

def pinned? (derivation : Bytes × Option HashingError) : Option Bytes :=
  if derivation.2 = none then some derivation.1 else none

/-- The salts of the derivations of a run that succeeded. -/
def saltsPinned (p : Profile) (calls : List Call) : List Bytes :=
  (p.derivations calls).filterMap pinned?

theorem zip_run_cons (p : Profile) (c : Call) (rest : List Call) :
    (c :: rest).zip (p.run (c :: rest)).1 =
      (c, (p.call c).1) :: rest.zip ((p.call c).2.run rest).1 := rfl

/-- Of what a list holds one after another the last one counts, else what was there before. -/
theorem getLast?_filterMap_cons_or {α β : Type} (f : α → Option β) (a : α) (rest : List α)
    (b : Option β) :
    ((a :: rest).filterMap f).getLast?.or b = (rest.filterMap f).getLast?.or ((f a).or b) := by
  rw [List.filterMap_cons]
  cases f a with
  | none => rfl
  | some first =>
      simp only [List.getLast?_cons]
      cases (rest.filterMap f).getLast? <;> rfl

theorem getLast?_saltsPinned_cons_or (p : Profile) (c : Call) (rest : List Call)
    (pin : Option Bytes) :
    (p.saltsPinned (c :: rest)).getLast?.or pin =
      ((p.call c).2.saltsPinned rest).getLast?.or
        (((derivation? (c, (p.call c).1)).bind pinned?).or pin) := by
  unfold saltsPinned derivations
  rw [List.filterMap_filterMap, List.filterMap_filterMap, zip_run_cons]
  exact getLast?_filterMap_cons_or _ _ _ _

/-! ### The state after a run -/

variable {p : Profile} {s : KeySettings} {c : Call}

theorem call_state (hp : p.parameters = .key s) (c : Call) :
    (p.call c).2 = { p with parameters := .key { s with
      secret := c.secret?.or s.secret
      pinnedSalt := ((derivation? (c, (p.call c).1)).bind pinned?).or s.pinnedSalt } } := by
  obtain ⟨kind, parameters⟩ := p
  obtain rfl : parameters = .key s := hp
  cases c with
  | setSecret secret => rfl
  | derive password salt =>
      cases hderive : s.digest password salt with
      | ok key =>
          simp [call, derive, hderive, derivation?, Call.salt?, Call.secret?, Reply.error?, pinned?]
      | error e =>
          simp [call, derive, hderive, derivation?, Call.salt?, Call.secret?, Reply.error?, pinned?]
  | hash password fresh => rfl
  | compare text password => rfl

/-- The last secret that was set and the last salt that was pinned are all that a run leaves. -/
theorem run_state (hp : p.parameters = .key s) (calls : List Call) :
    (p.run calls).2 = { p with parameters := .key { s with
      secret := (secretsSet calls).getLast?.or s.secret
      pinnedSalt := (p.saltsPinned calls).getLast?.or s.pinnedSalt } } := by
  -- the induction is over every profile and its settings: each call starts from other ones
  induction calls generalizing p s with
  | nil =>
      obtain ⟨kind, parameters⟩ := p
      obtain rfl : parameters = .key s := hp
      rfl
  | cons c rest ih =>
      have hcall := call_state hp c
      have hkey := congrArg Profile.parameters hcall
      have hrest := ih hkey
      have hkind : (p.call c).2.kind = p.kind := by rw [hcall]
      rw [run, hrest, hkind, getLast?_saltsPinned_cons_or]
      simp only [secretsSet, getLast?_filterMap_cons_or]

/-- A call that fails leaves the profile as it was. -/
theorem call_of_error {e : HashingError} (h : (p.call c).1.error? = some e) :
    (p.call c).2 = p := by
  obtain hsame | ⟨s, secret, hs, rfl, -⟩ | ⟨s, password, salt, key, hs, rfl, hkey, -⟩ :=
    call_cases p c
  · exact hsame
  · simp [call, setSecret, hs, Reply.error?] at h
  · simp [call, derive, hs, hkey, Reply.error?] at h

theorem result_derive (hp : p.parameters = .key s) (password salt : Bytes) :
    (p.derive password salt).1.result = s.digest password salt := by
  rw [derive, hp]
  cases hderive : s.digest password salt with
  | ok key => simp only [hderive]
  | error e => simp only [hderive]

theorem setSecret_bcrypt {cost : UInt32} (hp : p.parameters = .bcrypt cost) (secret : Bytes) :
    (p.setSecret secret).1 = .error .unsupported := by
  rw [setSecret, hp]

theorem derive_bcrypt {cost : UInt32} (hp : p.parameters = .bcrypt cost)
    (password salt : Bytes) : (p.derive password salt).1.result = .error .unsupported := by
  rw [derive, hp]

/-! ### Which derivations succeed -/

/-- No call changes what a derivation is refused for. -/
theorem refusal?_call (p : Profile) (c : Call) :
    (p.call c).2.parameters.refusal? = p.parameters.refusal? := by
  obtain hsame | ⟨s, secret, hs, -, hset⟩ | ⟨s, password, salt, key, hs, -, -, hpin⟩ :=
    call_cases p c
  · rw [hsame]
  · rw [hset, hs]
    rfl
  · rw [hpin, hs]
    rfl

theorem short_secret_call (hsecret : ∀ b ∈ p.parameters.secret?, b.Short) (hc : c.Short) :
    ∀ b ∈ (p.call c).2.parameters.secret?, b.Short := by
  obtain hsame | ⟨s, secret, hs, rfl, hset⟩ | ⟨s, password, salt, key, hs, -, -, hpin⟩ :=
    call_cases p c
  · rw [hsame]
    exact hsecret
  · rw [hset]
    rintro b ⟨⟩
    exact hc
  · rw [hs] at hsecret
    rw [hpin]
    exact hsecret

theorem errorOf?_result_derive (hsecret : ∀ b ∈ p.parameters.secret?, b.Short)
    {password : Bytes} (hpassword : password.Short) (salt : Bytes) :
    errorOf? (p.derive password salt).1.result = p.parameters.refusal? salt.length := by
  cases hp : p.parameters with
  | bcrypt cost => rw [derive_bcrypt hp, errorOf?_error, Parameters.refusal?]
  | key s =>
      rw [hp] at hsecret
      have herror : errorOf? (s.digest password salt) =
          s.function.refusal? s.keyLength salt.length :=
        s.function.errorOf?_derive s.keyLength salt hsecret hpassword
      rw [result_derive hp, herror, Parameters.refusal?]

theorem derivation?_call (hsecret : ∀ b ∈ p.parameters.secret?, b.Short) (hc : c.Short) :
    derivation? (c, (p.call c).1) =
      c.salt?.map fun salt => (salt, p.parameters.refusal? salt.length) := by
  cases c with
  | derive password salt =>
      have herror := errorOf?_result_derive hsecret hc salt
      simp only [derivation?, Call.salt?, Option.map_some, call, Reply.error?, herror]
  | setSecret secret => rfl
  | hash password fresh => rfl
  | compare text password => rfl

/-- What becomes of each derivation is settled before the run, whatever is called in between. -/
theorem derivations_eq (hsecret : ∀ b ∈ p.parameters.secret?, b.Short) {calls : List Call}
    (hcalls : ∀ c ∈ calls, c.Short) :
    p.derivations calls =
      (saltsAsked calls).map fun salt => (salt, p.parameters.refusal? salt.length) := by
  induction calls generalizing p with
  | nil => rfl
  | cons c rest ih =>
      obtain ⟨hc, hrest⟩ := List.forall_mem_cons.1 hcalls
      have hnext := ih (short_secret_call hsecret hc) hrest
      rw [refusal?_call] at hnext
      unfold derivations saltsAsked at hnext ⊢
      rw [zip_run_cons, List.filterMap_cons, List.filterMap_cons, derivation?_call hsecret hc,
        hnext]
      cases c.salt? <;> rfl

theorem run_eq_of_same_calls (hsecret : ∀ b ∈ p.parameters.secret?, b.Short)
    {calls other : List Call} (hcalls : ∀ c ∈ calls, c.Short) (hother : ∀ c ∈ other, c.Short)
    (hset : secretsSet other = secretsSet calls) (hasked : saltsAsked other = saltsAsked calls) :
    (p.run other).2 = (p.run calls).2 ∧ p.derivations other = p.derivations calls := by
  have hsame : p.derivations other = p.derivations calls := by
    rw [derivations_eq hsecret hcalls, derivations_eq hsecret hother, hasked]
  refine ⟨?_, hsame⟩
  cases hp : p.parameters with
  | bcrypt cost => rw [run_bcrypt hp, run_bcrypt hp]
  | key s => rw [run_state hp, run_state hp, saltsPinned, saltsPinned, hsame, hset]

end Profile

/-! ### Profiles that can be made -/

def ProfileKind.family : ProfileKind → Family
  | .argon2idDefault | .argon2idParanoid | .argon2Custom => .argon2
  | .scryptDefault | .scryptParanoid | .scryptCustom => .scrypt
  | .bcryptDefault | .bcryptParanoid | .bcryptCustom => .bcrypt

/-- The parameters as they are before a layout is chosen and a secret or a salt is picked up. -/
def Parameters.bare : Parameters → Parameters
  | .key s => .key { s with masked := false, pinnedSalt := none, secret := none }
  | .bcrypt cost => .bcrypt cost

theorem ProfileKind.family_customKind (family : Family) : family.customKind.family = family := by
  cases family <;> rfl

theorem ProfileKind.preset?_customKind (family : Family) : family.customKind.preset? = none := by
  cases family <;> rfl

theorem ProfileKind.family_preset? {kind : ProfileKind} {preset : Parameters}
    (h : kind.preset? = some preset) : preset.family = kind.family := by
  cases kind <;> cases h <;> rfl

theorem ProfileKind.bare_preset? {kind : ProfileKind} {preset : Parameters}
    (h : kind.preset? = some preset) : preset.bare = preset := by
  cases kind <;> cases h <;> rfl

namespace Profile

/-- The ways to make a profile. -/
inductive Made : Profile → Prop
  | ofKind {kind : ProfileKind} {p : Profile} (h : ofKind kind = .ok p) : Made p
  | ofKindMasked {kind : ProfileKind} {p : Profile} (h : ofKindMasked kind = .ok p) : Made p
  | custom (parameters : Parameters) : Made (custom parameters)
  | config {c : ProfileConfig} {p : Profile} (h : c.build = .ok p) : Made p

/-- The kind is that of the parameters, with the numbers of a built-in kind where it is one, and
bcrypt has neither a layout without numbers nor a secret. -/
structure Coherent (p : Profile) : Prop where
  family_eq : p.parameters.family = p.kind.family
  numbers_eq : ∀ preset, p.kind.preset? = some preset → p.parameters.bare = preset
  bcrypt_plain : p.kind.family = .bcrypt → p.isMasked = false ∧ p.isKeyed = false

theorem bcrypt_plain_of_family {p : Profile} (h : p.parameters.family = .bcrypt) :
    p.isMasked = false ∧ p.isKeyed = false := by
  obtain ⟨kind, parameters⟩ := p
  cases parameters with
  | key s => exact absurd h s.family_ne_bcrypt
  | bcrypt cost => exact ⟨rfl, rfl⟩

theorem coherent_of_bare_eq {kind : ProfileKind} {parameters preset : Parameters}
    (hkind : kind.preset? = some preset) (hfamily : parameters.family = preset.family)
    (hbare : parameters.bare = preset.bare) : Coherent { kind, parameters } where
  family_eq := hfamily.trans (ProfileKind.family_preset? hkind)
  numbers_eq other hother := by
    rw [hkind] at hother
    obtain rfl := Option.some.inj hother
    exact hbare.trans (ProfileKind.bare_preset? hkind)
  bcrypt_plain h := by
    rw [← ProfileKind.family_preset? hkind, ← hfamily] at h
    exact bcrypt_plain_of_family h

theorem coherent_ofKind {kind : ProfileKind} {p : Profile} (h : ofKind kind = .ok p) :
    p.Coherent := by
  unfold ofKind at h
  split at h
  · rename_i preset hkind
    cases h
    exact coherent_of_bare_eq hkind rfl rfl
  · cases h

theorem coherent_ofKindMasked {kind : ProfileKind} {p : Profile}
    (h : ofKindMasked kind = .ok p) : p.Coherent := by
  unfold ofKindMasked at h
  split at h
  · rename_i s hkind
    cases h
    exact coherent_of_bare_eq hkind rfl rfl
  · cases h

theorem coherent_custom (parameters : Parameters) : (custom parameters).Coherent where
  family_eq := (ProfileKind.family_customKind parameters.family).symm
  numbers_eq preset h := by
    rw [custom, ProfileKind.preset?_customKind] at h
    cases h
  bcrypt_plain h := by
    rw [custom, ProfileKind.family_customKind] at h
    exact bcrypt_plain_of_family h

theorem coherent_of_build {c : ProfileConfig} {p : Profile} (h : c.build = .ok p) :
    p.Coherent := by
  unfold ProfileConfig.build at h
  split at h
  · split at h
    · exact coherent_ofKindMasked h
    · exact coherent_ofKind h
  · split at h
    · split at h
      · cases h
        exact coherent_custom _
      · split at h
        · cases h
        · cases h
          exact coherent_custom _
    · cases h
  · cases h

theorem Made.coherent {p : Profile} (h : p.Made) : p.Coherent := by
  cases h with
  | ofKind h => exact coherent_ofKind h
  | ofKindMasked h => exact coherent_ofKindMasked h
  | custom parameters => exact coherent_custom parameters
  | config h => exact coherent_of_build h

theorem Coherent.of_same {p q : Profile} (h : p.Coherent) (hkind : q.kind = p.kind)
    (hfamily : q.parameters.family = p.parameters.family)
    (hbare : q.parameters.bare = p.parameters.bare) : q.Coherent where
  family_eq := by rw [hfamily, hkind, h.family_eq]
  numbers_eq := by rw [hkind, hbare]; exact h.numbers_eq
  bcrypt_plain hbcrypt := by
    rw [hkind, ← h.family_eq, ← hfamily] at hbcrypt
    exact bcrypt_plain_of_family hbcrypt

theorem Coherent.call {p : Profile} (h : p.Coherent) (c : Call) : (p.call c).2.Coherent := by
  obtain hsame | ⟨s, secret, hs, -, hset⟩ | ⟨s, password, salt, key, hs, -, -, hpin⟩ :=
    call_cases p c
  · rw [hsame]
    exact h
  · rw [hset]
    exact h.of_same rfl (by rw [hs]; rfl) (by rw [hs]; rfl)
  · rw [hpin]
    exact h.of_same rfl (by rw [hs]; rfl) (by rw [hs]; rfl)

theorem Coherent.run {p : Profile} (h : p.Coherent) (calls : List Call) :
    (p.run calls).2.Coherent := by
  induction calls generalizing p with
  | nil => exact h
  | cons c rest ih => exact ih (h.call c)

/-- After any run a profile is as it was made but for the last secret and the last pinned salt,
bcrypt is as it was made and takes neither, a call that fails changes nothing, and another run
that sets the same secrets and asks for keys with the same salts ends in the same profile. -/
theorem run_of_made_profile {p : Profile} (hmade : p.Made) (calls : List Call) :
    (∀ s, p.parameters = .key s →
      (p.run calls).2 = { p with parameters := .key { s with
        secret := (secretsSet calls).getLast?.or s.secret
        pinnedSalt := (p.saltsPinned calls).getLast?.or s.pinnedSalt } }) ∧
    (∀ cost, p.parameters = .bcrypt cost → (p.run calls).2 = p ∧
      (∀ secret, ((p.run calls).2.setSecret secret).1 = .error .unsupported) ∧
      ∀ password salt, ((p.run calls).2.derive password salt).1.result = .error .unsupported) ∧
    (∀ c e, ((p.run calls).2.call c).1.error? = some e →
      ((p.run calls).2.call c).2 = (p.run calls).2) ∧
    (p.run calls).2.Coherent ∧
    ∀ other : List Call, (∀ b ∈ p.parameters.secret?, b.Short) →
      (∀ c ∈ calls, c.Short) → (∀ c ∈ other, c.Short) →
      secretsSet other = secretsSet calls → saltsAsked other = saltsAsked calls →
      (p.run other).2 = (p.run calls).2 ∧ p.derivations other = p.derivations calls := by
  refine ⟨fun s hp => run_state hp calls, ?_, fun c e => call_of_error,
    hmade.coherent.run calls, ?_⟩
  · intro cost hp
    rw [run_bcrypt hp]
    exact ⟨rfl, setSecret_bcrypt hp, derive_bcrypt hp⟩
  · intro other hsecret hcalls hother hset hasked
    exact run_eq_of_same_calls hsecret hcalls hother hset hasked

/-- The third derivation fails for its short salt, and the second pins its salt for good, before
or after the secret is set. -/
theorem run_of_made_argon2_profile :
    ((custom (.key { function := .argon2 .id 1 8 1, keyLength := 4 })).run
        [.setSecret [1], .derive [] [0, 1, 2, 3, 4, 5, 6, 7], .derive [2] [7, 6, 5, 4, 3, 2, 1, 0],
          .setSecret [3], .derive [] [9]]).2 =
      custom (.key { function := .argon2 .id 1 8 1, keyLength := 4, secret := some [3],
                     pinnedSalt := some [7, 6, 5, 4, 3, 2, 1, 0] }) ∧
    ((custom (.key { function := .argon2 .id 1 8 1, keyLength := 4 })).run
        [.derive [] [0, 1, 2, 3, 4, 5, 6, 7], .setSecret [1], .setSecret [3], .hash [] [],
          .derive [5] [7, 6, 5, 4, 3, 2, 1, 0], .derive [] [9]]).2 =
      custom (.key { function := .argon2 .id 1 8 1, keyLength := 4, secret := some [3],
                     pinnedSalt := some [7, 6, 5, 4, 3, 2, 1, 0] }) := by
  obtain ⟨hstate, -, -, -, hmixed⟩ := run_of_made_profile
    (.custom (.key { function := .argon2 .id 1 8 1, keyLength := 4 }))
    [.setSecret [1], .derive [] [0, 1, 2, 3, 4, 5, 6, 7], .derive [2] [7, 6, 5, 4, 3, 2, 1, 0],
      .setSecret [3], .derive [] [9]]
  have hfirst := hstate _ rfl
  have hsecond := (hmixed [.derive [] [0, 1, 2, 3, 4, 5, 6, 7], .setSecret [1], .setSecret [3],
    .hash [] [], .derive [5] [7, 6, 5, 4, 3, 2, 1, 0], .derive [] [9]] nofun
    (by simp [Call.Short, Bytes.Short]) (by simp [Call.Short, Bytes.Short]) rfl rfl).1
  exact ⟨hfirst, hsecond.trans hfirst⟩

end Profile

end PasswordHashing
