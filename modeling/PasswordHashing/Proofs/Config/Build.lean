import PasswordHashing.Proofs.Profile.State

/-!
The profile that a configuration builds. A configuration either names a built-in kind, and
then the parameters are the preset of that kind, or it names a custom kind and brings
parameters of its family along; the masked flag is the configuration's own, whatever the
parameters say of it, and bcrypt cannot be masked. Main statements: the profile is built
exactly from the parameters described so, and building pays no heed to a secret or a pinned
salt, which the profile has if and only if the parameters had it.
-/

namespace PasswordHashing

namespace Parameters

/-- The parameters with the masked flag of somebody else, where there is such a flag. -/
def withMasked (p : Parameters) (masked : Bool) : Parameters :=
  match p with
  | .key s => .key { s with masked }
  | .bcrypt cost => .bcrypt cost

/-- The parameters as they are before a profile picks up a secret or pins a salt. -/
def cleared : Parameters → Parameters
  | .key s => .key { s with pinnedSalt := none, secret := none }
  | .bcrypt cost => .bcrypt cost

@[simp] theorem family_cleared (p : Parameters) : p.cleared.family = p.family := by
  cases p <;> rfl

theorem cleared_withMasked (p : Parameters) (masked : Bool) :
    (p.withMasked masked).cleared = p.cleared.withMasked masked := by
  cases p <;> rfl

theorem isMasked_withMasked {p : Parameters} {masked : Bool}
    (h : masked = true → p.family ≠ .bcrypt) : (p.withMasked masked).isMasked = masked := by
  cases p with
  | key s => rfl
  | bcrypt cost =>
      cases masked with
      | true => exact absurd rfl (h rfl)
      | false => rfl

/-- Parameters that hold neither a secret nor a pinned salt. -/
theorem plain_of_cleared_eq {p : Parameters} (h : p.cleared = p) :
    p.isKeyed = false ∧ p.pinnedSalt = none := by
  rw [← h]
  cases p <;> exact ⟨rfl, rfl⟩

end Parameters

def Profile.cleared (p : Profile) : Profile := { p with parameters := p.parameters.cleared }

def ProfileConfig.cleared (c : ProfileConfig) : ProfileConfig :=
  { c with custom := c.custom.map Parameters.cleared }

theorem ProfileKind.cleared_preset? {kind : ProfileKind} {preset : Parameters}
    (h : kind.preset? = some preset) : preset.cleared = preset := by
  cases kind <;> cases h <;> rfl

theorem ProfileKind.isCustom_iff {kind : ProfileKind} :
    kind.isCustom = true ↔ kind.preset? = none := by
  cases kind <;> simp [isCustom, preset?]

theorem ProfileKind.isCustom_of_preset? {kind : ProfileKind} {preset : Parameters}
    (h : kind.preset? = some preset) : kind.isCustom = false := by
  rw [Bool.eq_false_iff, ne_eq, isCustom_iff, h]
  exact nofun

theorem Family.customKind_eq_iff {family : Family} {kind : ProfileKind}
    (h : kind.isCustom = true) : family.customKind = kind ↔ family = kind.family := by
  cases kind <;> cases h <;> cases family <;> decide

namespace Profile

theorem ofKind_eq {kind : ProfileKind} {preset : Parameters} (h : kind.preset? = some preset) :
    ofKind kind = .ok { kind, parameters := preset.withMasked false } := by
  rw [ofKind, h]
  cases kind <;> cases h <;> rfl

theorem ofKindMasked_eq {kind : ProfileKind} {preset : Parameters}
    (h : kind.preset? = some preset) (hfamily : kind.family ≠ .bcrypt) :
    ofKindMasked kind = .ok { kind, parameters := preset.withMasked true } := by
  rw [← ProfileKind.family_preset? h] at hfamily
  rw [ofKindMasked, h]
  cases preset with
  | key s => rfl
  | bcrypt cost => exact absurd rfl hfamily

theorem ofKindMasked_eq_error {kind : ProfileKind} (hfamily : kind.family = .bcrypt) :
    ofKindMasked kind = .error .unsupported := by
  cases kind <;> cases hfamily <;> rfl

end Profile

namespace ProfileConfig

variable {c : ProfileConfig} {p : Profile} {q : Parameters}

/-- The parameters that a configuration describes, if it describes any. -/
inductive Describes (c : ProfileConfig) : Parameters → Prop
  | builtin {preset : Parameters} (hkind : c.profile.preset? = some preset)
      (hcustom : c.custom = none) (hmasked : c.masked = true → c.profile.family ≠ .bcrypt) :
      Describes c preset
  | custom {parameters : Parameters} (hkind : c.profile.isCustom = true)
      (hcustom : c.custom = some parameters) (hfamily : parameters.family = c.profile.family)
      (hmasked : c.masked = true → c.profile.family ≠ .bcrypt) : Describes c parameters

theorem Describes.family_eq (h : c.Describes q) : q.family = c.profile.family := by
  cases h with
  | builtin hkind => exact ProfileKind.family_preset? hkind
  | custom _ _ hfamily => exact hfamily

theorem Describes.masked_imp (h : c.Describes q) : c.masked = true → q.family ≠ .bcrypt := by
  rw [h.family_eq]
  cases h with
  | builtin _ _ hmasked => exact hmasked
  | custom _ _ _ hmasked => exact hmasked

theorem build_of_describes (h : c.Describes q) :
    c.build = .ok { kind := c.profile, parameters := q.withMasked c.masked } := by
  cases h with
  | builtin hkind hcustom hmasked =>
      have hbuiltin := ProfileKind.isCustom_of_preset? hkind
      simp only [build, hbuiltin, hcustom]
      cases hc : c.masked with
      | true => exact Profile.ofKindMasked_eq hkind (hmasked hc)
      | false => exact Profile.ofKind_eq hkind
  | custom hkind hcustom hfamily hmasked =>
      have hcustomKind := (Family.customKind_eq_iff hkind).2 hfamily
      simp only [build, hkind, hcustom, if_pos hcustomKind]
      cases q with
      | key s =>
          rw [← hcustomKind]
          rfl
      | bcrypt cost =>
          have hplain : ¬c.masked = true := fun h => hmasked h hfamily.symm
          refine (if_neg hplain).trans ?_
          rw [← hcustomKind]
          rfl

theorem build_of_not_describes (h : ∀ q, ¬c.Describes q) : c.build = .error .unsupported := by
  cases hpreset : c.profile.preset? with
  | some preset =>
      have hbuiltin := ProfileKind.isCustom_of_preset? hpreset
      cases hcustom : c.custom with
      | some q => simp only [build, hbuiltin, hcustom]
      | none =>
          have hmasked : ¬(c.masked = true → c.profile.family ≠ .bcrypt) :=
            fun hmasked => h preset (.builtin hpreset hcustom hmasked)
          obtain ⟨hmasked, hfamily⟩ := Classical.not_imp.1 hmasked
          simp only [build, hbuiltin, hcustom, if_pos hmasked]
          exact Profile.ofKindMasked_eq_error (Classical.not_not.1 hfamily)
  | none =>
      have hkind := ProfileKind.isCustom_iff.2 hpreset
      cases hcustom : c.custom with
      | none => simp only [build, hkind, hcustom]
      | some q =>
          simp only [build, hkind, hcustom]
          by_cases hfamily : q.family.customKind = c.profile
          · have hfamily' := (Family.customKind_eq_iff hkind).1 hfamily
            have hmasked : ¬(c.masked = true → c.profile.family ≠ .bcrypt) :=
              fun hmasked => h q (.custom hkind hcustom hfamily' hmasked)
            obtain ⟨hmasked, hbcrypt⟩ := Classical.not_imp.1 hmasked
            rw [if_pos hfamily]
            cases q with
            | key s =>
                exact absurd (hfamily'.trans (Classical.not_not.1 hbcrypt)) s.family_ne_bcrypt
            | bcrypt cost => exact if_pos hmasked
          · exact if_neg hfamily

theorem build_eq_ok_iff :
    c.build = .ok p ↔
      ∃ q, c.Describes q ∧ p = { kind := c.profile, parameters := q.withMasked c.masked } := by
  constructor
  · intro h
    by_cases hdescribes : ∃ q, c.Describes q
    · obtain ⟨q, hq⟩ := hdescribes
      rw [build_of_describes hq] at h
      exact ⟨q, hq, (Except.ok.inj h).symm⟩
    · rw [build_of_not_describes (not_exists.1 hdescribes)] at h
      cases h
  · rintro ⟨q, hq, rfl⟩
    exact build_of_describes hq

/-! ### Secrets and pinned salts -/

theorem Describes.cleared (h : c.Describes q) : c.cleared.Describes q.cleared := by
  cases h with
  | builtin hkind hcustom hmasked =>
      rw [ProfileKind.cleared_preset? hkind]
      refine .builtin hkind ?_ hmasked
      rw [ProfileConfig.cleared, hcustom, Option.map_none]
  | custom hkind hcustom hfamily hmasked =>
      refine .custom hkind ?_ (q.family_cleared.trans hfamily) hmasked
      rw [ProfileConfig.cleared, hcustom, Option.map_some]

theorem exists_describes_of_cleared (h : c.cleared.Describes q) : ∃ q, c.Describes q := by
  cases h with
  | builtin hkind hcustom hmasked =>
      exact ⟨q, .builtin hkind (Option.map_eq_none_iff.1 hcustom) hmasked⟩
  | custom hkind hcustom hfamily hmasked =>
      obtain ⟨parameters, hparameters, rfl⟩ := Option.map_eq_some_iff.1 hcustom
      rw [parameters.family_cleared] at hfamily
      exact ⟨parameters, .custom hkind hparameters hfamily hmasked⟩

/-- Clearing the configuration and clearing the profile that it builds come to the same. -/
theorem build_cleared (c : ProfileConfig) : c.cleared.build = c.build.map Profile.cleared := by
  by_cases hdescribes : ∃ q, c.Describes q
  · obtain ⟨q, hq⟩ := hdescribes
    rw [build_of_describes hq, build_of_describes hq.cleared, Except.map, Profile.cleared,
      Parameters.cleared_withMasked]
    rfl
  · have hcleared : ∀ q, ¬c.cleared.Describes q :=
      fun q hq => hdescribes (exists_describes_of_cleared hq)
    rw [build_of_not_describes hcleared, build_of_not_describes (not_exists.1 hdescribes)]
    rfl

end ProfileConfig

end PasswordHashing
