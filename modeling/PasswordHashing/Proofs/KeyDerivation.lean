import PasswordHashing.Parameters
import PasswordHashing.Proofs.HashText.Grammar

/-!
Key derivation functions and their cost numbers. Within the limits of a text the numbers
and the function stand for each other: the function that is read off the numbers is the
one function of that algorithm that has them, and where the family fits there is one.
-/

namespace PasswordHashing

open HashText

namespace KeyDerivation

@[simp] theorem cost_keyLength (f : KeyDerivation) (keyLength : UInt64) :
    (f.cost keyLength).keyLength = keyLength := by
  cases f <;> rfl

@[simp] theorem cost_family (f : KeyDerivation) (keyLength : UInt64) :
    (f.cost keyLength).family = f.family := by
  cases f <;> rfl

theorem algorithm_ne_bcrypt (f : KeyDerivation) : f.algorithm ≠ .bcrypt := by
  cases f <;> exact nofun

theorem scryptN_toNat {logN : UInt8} (h : logN.toNat < 64) :
    (scryptN logN).toNat = 2 ^ logN.toNat := by
  rw [scryptN, if_pos h, Nat.one_shiftLeft]
  exact UInt64.toNat_ofNat_of_lt' (Nat.pow_lt_pow_right (by omega) h)

/-- The greatest word, which stands for a cost that fits none, is no power of two. -/
theorem lt_of_scryptN_eq_two_pow {logN : UInt8} {e : Nat}
    (h : (scryptN logN).toNat = 2 ^ e) : logN.toNat < 64 := by
  by_contra hlarge
  rw [scryptN, if_neg hlarge] at h
  have hmax : (UInt64.ofNat (UInt64.size - 1)).toNat = 2 ^ 64 - 1 := rfl
  rw [hmax] at h
  -- an odd number above one is no power of two
  cases e with
  | zero => omega
  | succ e =>
      rw [Nat.pow_succ] at h
      omega

theorem trailingZeros_eq {n : UInt64} {e : Nat} (h : n.toNat = 2 ^ e) : trailingZeros n = e := by
  have hne : n.toBitVec ≠ 0#64 := by
    intro hzero
    have hnat : n.toBitVec.toNat = 0 := by rw [hzero]; rfl
    have hpos := Nat.two_pow_pos e
    rw [UInt64.toNat_toBitVec, h] at hnat
    omega
  -- the bit that the zeros end at is set, and a power of two has one bit
  have hbit : n.toNat.testBit (trailingZeros n) = true := BitVec.getLsbD_true_ctz_of_ne_zero hne
  rw [h, Nat.testBit_two_pow, decide_eq_true_eq] at hbit
  exact hbit.symm

theorem scryptN_eq_iff {logN : UInt8} {n : UInt64} (hpower : ∃ e, n.toNat = 2 ^ e) :
    scryptN logN = n ↔ logN = .ofNat (trailingZeros n) := by
  obtain ⟨e, he⟩ := hpower
  have hlt : e < 64 := (Nat.pow_lt_pow_iff_right (by omega)).1 (he ▸ n.toNat_lt)
  have hlog : (UInt8.ofNat (trailingZeros n)).toNat = e := by
    rw [trailingZeros_eq he]
    exact UInt8.toNat_ofNat_of_lt' (by simp only [UInt8.size]; omega)
  constructor
  · rintro rfl
    have hlogN := lt_of_scryptN_eq_two_pow he
    rw [scryptN_toNat hlogN] at he
    apply UInt8.toNat_inj.1
    rw [hlog]
    exact (Nat.pow_right_inj (by omega)).1 he
  · rintro rfl
    apply UInt64.toNat_inj.1
    rw [scryptN_toNat (by omega), hlog, he]

/-- The numbers are those of the function, and the cost of scrypt is the power it stands for. -/
def HasCost (keyLength : UInt64) (cost : Cost) : KeyDerivation → Prop
  | .argon2 _ time memory threads => cost = .argon2 time memory threads keyLength
  | .scrypt logN r p => ∃ n, cost = .scrypt n r p keyLength ∧ n.toNat = 2 ^ logN.toNat

theorem hasCost_cost {f : KeyDerivation} {keyLength : UInt64}
    (h : ∀ logN r p, f = .scrypt logN r p → logN.toNat < 64) :
    f.HasCost keyLength (f.cost keyLength) := by
  cases f with
  | argon2 variant time memory threads => rfl
  | scrypt logN r p => exact ⟨scryptN logN, rfl, scryptN_toNat (h logN r p rfl)⟩

theorem hasCost_cost_of_powerOfTwo {f : KeyDerivation} {keyLength : UInt64}
    (h : (f.cost keyLength).PowerOfTwo) : f.HasCost keyLength (f.cost keyLength) := by
  apply hasCost_cost
  rintro logN r p rfl
  obtain ⟨-, e, he⟩ := h
  exact lt_of_scryptN_eq_two_pow he

/-- The function that the numbers name is the one that has them. -/
theorem ofCost?_eq_some_iff {algorithm : Algorithm} {cost : Cost} {f : KeyDerivation}
    (hpower : cost.PowerOfTwo) :
    ofCost? algorithm cost = some f ↔ f.algorithm = algorithm ∧ f.cost cost.keyLength = cost := by
  cases f with
  | scrypt logN r p =>
      cases algorithm with
      | scrypt =>
          cases cost with
          | scrypt n r' p' k =>
              simp only [ofCost?, KeyDerivation.algorithm, KeyDerivation.cost, Cost.keyLength,
                Option.some.injEq, KeyDerivation.scrypt.injEq, Cost.scrypt.injEq, true_and,
                and_true, scryptN_eq_iff hpower.2]
              grind
          | argon2 => simp [ofCost?, KeyDerivation.cost]
      | argon2 => cases cost <;> simp [ofCost?, KeyDerivation.algorithm]
      | bcrypt => cases cost <;> simp [ofCost?, KeyDerivation.algorithm]
  | argon2 variant time memory threads =>
      cases algorithm with
      | argon2 variant' =>
          cases cost with
          | argon2 =>
              simp [ofCost?, KeyDerivation.algorithm, KeyDerivation.cost, Cost.keyLength, eq_comm]
          | scrypt => simp [ofCost?, KeyDerivation.cost]
      | scrypt => cases cost <;> simp [ofCost?, KeyDerivation.algorithm]
      | bcrypt => cases cost <;> simp [ofCost?, KeyDerivation.algorithm]

/-- Numbers that a function has without a loss name that function, below the ceilings of a text
or above them. -/
theorem ofCost?_cost {f : KeyDerivation} {keyLength : UInt64}
    (h : f.HasCost keyLength (f.cost keyLength)) :
    ofCost? f.algorithm (f.cost keyLength) = some f := by
  cases f with
  | argon2 variant time memory threads => rfl
  | scrypt logN r p =>
      obtain ⟨n, hcost, hn⟩ := h
      have hscryptN : scryptN logN = n := (Cost.scrypt.inj hcost).1
      have hlogN := (scryptN_eq_iff ⟨logN.toNat, hn⟩).1 hscryptN
      rw [cost, hscryptN, algorithm, ofCost?, ← hlogN]

theorem exists_ofCost? {algorithm : Algorithm} {cost : Cost}
    (hfamily : cost.family = algorithm.family) : ∃ f, ofCost? algorithm cost = some f := by
  cases cost with
  | scrypt n r p k =>
      cases algorithm with
      | scrypt => exact ⟨_, rfl⟩
      | argon2 => cases hfamily
      | bcrypt => cases hfamily
  | argon2 time memory threads k =>
      cases algorithm with
      | argon2 => exact ⟨_, rfl⟩
      | scrypt => cases hfamily
      | bcrypt => cases hfamily

end KeyDerivation

namespace KeySettings

/-- The settings read off a hash are those of the one function that has its numbers. -/
theorem ofHash?_eq_some_iff {hash : KeyHash} (hfits : hash.CostFits) {s : KeySettings} :
    ofHash? hash = some s ↔
      ∃ f keyLength, s = { function := f, keyLength } ∧ f.algorithm = hash.algorithm ∧
        hash.cost = some (f.cost keyLength) := by
  rw [ofHash?]
  cases hcost : hash.cost with
  | none => simp
  | some cost =>
      have hpower := (hfits cost hcost).2.1.1
      simp only [Option.bind_eq_bind, Option.bind_some, Option.bind_eq_some_iff,
        Option.some.injEq, KeyDerivation.ofCost?_eq_some_iff hpower]
      constructor
      · rintro ⟨f, ⟨halgorithm, hf⟩, rfl⟩
        exact ⟨f, cost.keyLength, rfl, halgorithm, hf.symm⟩
      · rintro ⟨f, keyLength, rfl, halgorithm, rfl⟩
        refine ⟨f, ⟨halgorithm, ?_⟩, ?_⟩
        · rw [KeyDerivation.cost_keyLength]
        · rw [KeyDerivation.cost_keyLength]

theorem exists_ofHash? {hash : KeyHash} (hfits : hash.CostFits) (hmasked : hash.isMasked = false) :
    ∃ s, ofHash? hash = some s := by
  cases hcost : hash.cost with
  | none => simp [KeyHash.isMasked, hcost] at hmasked
  | some cost =>
      obtain ⟨f, hf⟩ := KeyDerivation.exists_ofCost? (hfits cost hcost).1
      exact ⟨_, by rw [ofHash?, hcost, Option.bind_eq_bind, Option.bind_some, hf]; rfl⟩

end KeySettings

/-- A text that is read and not masked names the parameters to check it with. -/
theorem exists_function_of_parse {text : String} {hash : KeyHash}
    (hparse : parse text = .ok (.key hash)) (hmasked : hash.isMasked = false) :
    ∃ f keyLength, KeySettings.ofHash? hash = some { function := f, keyLength } ∧
      f.algorithm = hash.algorithm ∧ hash.cost = some (f.cost keyLength) := by
  have hfits := (wellFormed_of_parse hparse).cost_fits
  obtain ⟨s, hs⟩ := KeySettings.exists_ofHash? hfits hmasked
  obtain ⟨f, keyLength, rfl, halgorithm, hcost⟩ := (KeySettings.ofHash?_eq_some_iff hfits).1 hs
  exact ⟨f, keyLength, hs, halgorithm, hcost⟩

end PasswordHashing
