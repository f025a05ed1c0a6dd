import PasswordHashing.Config
import PasswordHashing.Proofs.Config.Build
import PasswordHashing.Proofs.Json.Yields
import PasswordHashing.Proofs.Profile.Pinning

/-!
What can be read as a configuration. A text may hold members of any name, also those of a
secret or a salt, and arrays where objects are usual; the parameters come out of known
fields alone, so whatever the text is, what was read holds neither a secret nor a pinned
salt. Main statement: a configuration builds the profile that it describes or none at all,
and if it was read, the hashes of the profile are made with salts that are drawn for them.
-/

namespace PasswordHashing

namespace Config

open Json

theorem yields_reject {α : Type} {P : α → Prop} (wanted : Wanted) :
    Yields (reject wanted : Reader α) P := by
  refine yields_bind fun c => ?_
  split <;> exact yields_bind fun found => yields_fail _

/-! ### Parameters -/

/-- Parameters that come out, if any do, hold neither a secret nor a pinned salt. -/
def Clear (result : Except Fault Parameters) : Prop := ∀ q, result = .ok q → q.cleared = q

theorem clear_bind {α : Type} {x : Except Fault α} {next : α → Except Fault Parameters}
    (h : ∀ a, Clear (next a)) : Clear (x >>= next) := by
  intro q hq
  obtain ⟨a, -, hnext⟩ := bind_eq_ok_iff.1 hq
  exact h a q hnext

theorem clear_pure {q : Parameters} (h : q.cleared = q) : Clear (pure q) := by
  intro r hr
  cases hr
  exact h

theorem clear_ofMembers (family : Family) (members : Members) :
    Clear (ofMembers family members) := by
  cases family with
  | argon2 =>
      iterate 8 refine clear_bind fun _ => ?_
      exact clear_pure rfl
  | scrypt =>
      iterate 7 refine clear_bind fun _ => ?_
      exact clear_pure rfl
  | bcrypt =>
      iterate 2 refine clear_bind fun _ => ?_
      exact clear_pure rfl

theorem clear_ofItems (family : Family) (items : List Json) : Clear (ofItems family items) := by
  cases family with
  | argon2 =>
      iterate 8 refine clear_bind fun _ => ?_
      exact clear_pure rfl
  | scrypt =>
      iterate 7 refine clear_bind fun _ => ?_
      exact clear_pure rfl
  | bcrypt =>
      iterate 2 refine clear_bind fun _ => ?_
      exact clear_pure rfl

theorem yields_lift {α : Type} {P : α → Prop} {result : Except Fault α}
    (h : ∀ a, result = .ok a → P a) : Yields (lift result) P := by
  cases result with
  | ok a => exact yields_pure (h a rfl)
  | error fault => exact yields_fail _

theorem yields_readParameters (depth : Nat) :
    Yields (readParameters depth) fun q => q.cleared = q := by
  -- tag and members may be any, as only known fields get into the parameters
  refine yields_bind fun c => ?_
  split
  · refine yields_bind fun _ => yields_bind fun _ => yields_bind fun (tag, members) => ?_
    cases tag with
    | some family => exact yields_lift (clear_ofMembers family members.reverse)
    | none => exact yields_fail _
  · refine yields_bind fun _ => yields_bind fun _ => yields_bind fun acc => ?_
    split
    · exact yields_lift (clear_ofItems _ _)
    · exact yields_fail _
  · exact yields_reject _

end Config

namespace ProfileConfig

open Config Json

/-! ### Configurations -/

theorem yields_readCustom (depth : Nat) :
    Yields (readCustom depth) fun custom => custom.map Parameters.cleared = custom := by
  refine yields_bind fun c => ?_
  split
  · exact yields_bind fun _ => yields_bind fun _ => yields_pure rfl
  · refine (yields_readParameters depth).bind fun q hq => yields_pure ?_
    rw [Option.map_some, hq]

/-- The custom parameters that have been read, if any, hold no secret and no pinned salt. -/
def Draft.Clear (d : Draft) : Prop := d.custom.map (Option.map Parameters.cleared) = d.custom

variable {d : Draft}

theorem yields_readMember (depth : Nat) (hd : d.Clear) (name : String) :
    Yields (readMember depth d name) Draft.Clear := by
  rw [readMember]
  split
  · exact yields_check <| yields_bind fun _ => yields_bind fun kind => yields_pure hd
  split
  · exact yields_check <| yields_bind fun _ => yields_bind fun masked => yields_pure hd
  split
  · refine yields_check <| yields_bind fun _ => ?_
    exact (yields_readCustom depth).bind fun custom hcustom => yields_pure (congrArg some hcustom)
  · exact yields_bind fun _ => yields_bind fun _ => yields_pure hd

theorem yields_readItem (depth : Nat) (hd : d.Clear) : Yields (readItem depth d) Draft.Clear := by
  rw [readItem]
  split
  · exact yields_bind fun kind => yields_pure hd
  · exact yields_bind fun masked => yields_pure hd
  · refine (yields_readCustom depth).bind fun custom hcustom => ?_
    exact yields_pure (congrArg some hcustom)
  · exact yields_fail _

theorem cleared_of_finish (hd : d.Clear) {c : ProfileConfig} (h : d.finish = .ok c) :
    c.cleared = c := by
  rw [Draft.finish] at h
  split at h
  · cases h
    have hcustom : (d.custom.getD none).map Parameters.cleared = d.custom.getD none := by
      obtain ⟨profile, masked, custom⟩ := d
      cases custom with
      | none => rfl
      | some custom => exact Option.some.inj hd
    rw [ProfileConfig.cleared, hcustom]
  · cases h

theorem yields_read (depth : Nat) : Yields (read depth) fun c => c.cleared = c := by
  refine yields_bind fun c => ?_
  split
  · refine yields_bind fun _ => yields_bind fun _ => ?_
    have hmembers : Yields (readMembers .keep (readMember (depth - 1)) {}) Draft.Clear :=
      yields_readMembers (fun d name hd => yields_readMember (depth - 1) hd name) .keep rfl
    exact hmembers.bind fun d hd => yields_lift fun c => cleared_of_finish hd
  · refine yields_bind fun _ => yields_bind fun _ => ?_
    have hitems : Yields (readItems (readItem (depth - 1)) {}) Draft.Clear :=
      yields_readItems (fun d hd => yields_readItem (depth - 1) hd) rfl
    exact hitems.bind fun d hd => yields_check <| yields_lift fun c => cleared_of_finish hd
  · exact yields_reject _

/-- A configuration that was read holds neither a secret nor a pinned salt. -/
theorem cleared_of_ofText {text : String} {c : ProfileConfig} (h : ofText text = .ok c) :
    c.cleared = c :=
  of_readDocument (yields_read maxDepth) h

/-! ### Profiles of configurations -/

section Build

variable {c : ProfileConfig} {p : Profile} {q : Parameters}

theorem exists_describes_iff :
    (∃ q, c.Describes q) ↔
      (c.profile.isCustom = false ∧ c.custom = none ∧
        (c.masked = true → c.profile.family ≠ .bcrypt)) ∨
      (c.profile.isCustom = true ∧ (∃ q, c.custom = some q ∧ q.family = c.profile.family) ∧
        ¬(c.profile.family = .bcrypt ∧ c.masked = true)) := by
  constructor
  · rintro ⟨q, hq⟩
    cases hq with
    | builtin hkind hcustom hmasked =>
        exact .inl ⟨ProfileKind.isCustom_of_preset? hkind, hcustom, hmasked⟩
    | custom hkind hcustom hfamily hmasked =>
        exact .inr ⟨hkind, ⟨q, hcustom, hfamily⟩, fun ⟨hbcrypt, h⟩ => hmasked h hbcrypt⟩
  · rintro (⟨hbuiltin, hcustom, hmasked⟩ | ⟨hkind, ⟨q, hcustom, hfamily⟩, hplain⟩)
    · have hpreset : c.profile.preset? ≠ none := by
        rw [ne_eq, ← ProfileKind.isCustom_iff, hbuiltin]
        exact nofun
      obtain ⟨preset, hpreset⟩ := Option.ne_none_iff_exists'.1 hpreset
      exact ⟨preset, .builtin hpreset hcustom hmasked⟩
    · exact ⟨q, .custom hkind hcustom hfamily fun h hbcrypt => hplain ⟨hbcrypt, h⟩⟩

theorem exists_build_iff : (∃ p, c.build = .ok p) ↔ ∃ q, c.Describes q := by
  constructor
  · rintro ⟨p, hp⟩
    obtain ⟨q, hq, -⟩ := build_eq_ok_iff.1 hp
    exact ⟨q, hq⟩
  · rintro ⟨q, hq⟩
    exact ⟨_, build_of_describes hq⟩

theorem unsupported_of_build_eq_error {e : HashingError} (h : c.build = .error e) :
    e = .unsupported := by
  by_cases hdescribes : ∃ q, c.Describes q
  · obtain ⟨q, hq⟩ := hdescribes
    rw [build_of_describes hq] at h
    cases h
  · rw [build_of_not_describes (not_exists.1 hdescribes)] at h
    exact (Except.error.inj h).symm

/-- The parameters that are described are the preset of the kind, or else those brought along. -/
theorem Describes.preset?_or_custom (h : c.Describes q) :
    c.profile.preset?.or c.custom = some q := by
  cases h with
  | builtin hkind => rw [hkind, Option.some_or]
  | custom hkind hcustom => rw [ProfileKind.isCustom_iff.1 hkind, Option.none_or, hcustom]

theorem plain_of_build (hcleared : c.cleared = c) (hp : c.build = .ok p) :
    p.isKeyed = false ∧ p.parameters.pinnedSalt = none := by
  have hsame : p.cleared = p := by
    have hbuild := c.build_cleared
    rw [hcleared, hp] at hbuild
    exact (Except.ok.inj hbuild).symm
  exact Parameters.plain_of_cleared_eq (congrArg Profile.parameters hsame)

end Build

end ProfileConfig

/-- Without a secret and a pinned salt, a hash is made with the salt that is drawn for it. -/
theorem Profile.hash_of_plain {p : Profile} {s : KeySettings}
    (hplain : p.isKeyed = false ∧ p.parameters.pinnedSalt = none) (hp : p.parameters = .key s)
    (password fresh : Bytes) :
    p.parameters.freshSaltLength = s.saltLength.toNat ∧
      (p.hash password fresh).result = s.hashWith none password fresh ∧ p.DrawsSalts s none := by
  obtain ⟨hkeyed, hpinned⟩ := hplain
  have hsecret : s.secret = none := by
    rw [isKeyed, hp] at hkeyed
    exact Option.not_isSome_iff_eq_none.1 (Bool.eq_false_iff.1 hkeyed)
  have hsalt : s.pinnedSalt = none := by rwa [hp] at hpinned
  have hdraws := drawsSalts_of_unpinned hp hsalt
  rw [hsecret] at hdraws
  rw [hash_result hp, hp, Parameters.freshSaltLength, hsecret, hsalt]
  exact ⟨rfl, rfl, hdraws⟩

/-- A configuration that is coherent builds a profile of its kind, masked as it says, with the
numbers of the preset or of its own parameters; any other is not supported. A profile from a
configuration that was read has no secret and hashes with salts of its own salt length that
are drawn for each password. -/
theorem configuration_builds_what_it_describes (c : ProfileConfig) :
    ((∃ p, c.build = .ok p) ↔
      (c.profile.isCustom = false ∧ c.custom = none ∧
        (c.masked = true → c.profile.family ≠ .bcrypt)) ∨
      (c.profile.isCustom = true ∧ (∃ q, c.custom = some q ∧ q.family = c.profile.family) ∧
        ¬(c.profile.family = .bcrypt ∧ c.masked = true))) ∧
    (∀ e, c.build = .error e → e = .unsupported) ∧
    (∀ p, c.build = .ok p → p.kind = c.profile ∧ p.isMasked = c.masked ∧
      ∃ q, c.profile.preset?.or c.custom = some q ∧ p.parameters = q.withMasked c.masked) ∧
    (∀ text p, ProfileConfig.ofText text = .ok c → c.build = .ok p →
      p.isKeyed = false ∧ p.parameters.pinnedSalt = none ∧
        ∀ s, p.parameters = .key s → p.parameters.freshSaltLength = s.saltLength.toNat ∧
          (∀ password fresh, (p.hash password fresh).result = s.hashWith none password fresh) ∧
          p.DrawsSalts s none) := by
  refine ⟨ProfileConfig.exists_build_iff.trans ProfileConfig.exists_describes_iff,
    fun e => ProfileConfig.unsupported_of_build_eq_error, ?_, ?_⟩
  · intro p hp
    obtain ⟨q, hq, rfl⟩ := ProfileConfig.build_eq_ok_iff.1 hp
    exact ⟨rfl, Parameters.isMasked_withMasked hq.masked_imp, q, hq.preset?_or_custom, rfl⟩
  · intro text p htext hp
    have hplain := ProfileConfig.plain_of_build (ProfileConfig.cleared_of_ofText htext) hp
    refine ⟨hplain.1, hplain.2, fun s hs => ?_⟩
    have hhash := Profile.hash_of_plain hplain hs
    exact ⟨(hhash [] []).1, fun password fresh => (hhash password fresh).2.1, (hhash [] []).2.2⟩

end PasswordHashing
