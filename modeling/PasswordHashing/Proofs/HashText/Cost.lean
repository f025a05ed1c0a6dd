import Mathlib.Algebra.Group.Nat.Defs
import PasswordHashing.HashText.Cost
import PasswordHashing.Proofs.Text.Decimal

/-!
Cost fields and the numbers they stand for. The ceilings are computed in words; here they
are inequalities between natural numbers, which no word can wrap. Main statement: four
fields are read as cost numbers exactly when they spell them and the numbers are within
the limits of their family.
-/

namespace PasswordHashing

theorem ok_bind {ε α β : Type} (a : α) (f : α → Except ε β) :
    ((.ok a : Except ε α) >>= f) = f a := rfl

theorem bind_eq_ok_iff {ε α β : Type} {x : Except ε α} {f : α → Except ε β} {b : β} :
    (x >>= f) = .ok b ↔ ∃ a, x = .ok a ∧ f a = .ok b := by
  cases x with
  | error e => simp [bind, Except.bind]
  | ok a => simp [bind, Except.bind]

namespace HashText.Cost

/-- The cost of scrypt is a power of two, and more than one. -/
def PowerOfTwo : Cost → Prop
  | .scrypt n _ _ _ => 2 ≤ n.toNat ∧ ∃ e, n.toNat = 2 ^ e
  | .argon2 .. => True

def BelowCeilings : Cost → Prop
  | .scrypt n r p keyLength =>
    n.toNat ≤ 2 ^ 24 ∧ r.toNat ≤ 32 ∧ p.toNat ≤ 16 ∧ keyLength.toNat ≤ 64 ∧
      128 * r.toNat * n.toNat ≤ 2 ^ 30
  | .argon2 time memory threads keyLength =>
    time.toNat ≤ 64 ∧ memory.toNat * 1024 ≤ 2 ^ 30 ∧ threads.toNat ≤ 64 ∧
      keyLength.toNat ≤ 1024

def WithinLimits (cost : Cost) : Prop := cost.PowerOfTwo ∧ cost.BelowCeilings

/-- Four fields that spell the numbers, in the order of the family. -/
def SpelledBy (a b c keyLength : String) : Cost → Prop
  | .scrypt n r p k =>
    Decimal.Spells a n.toNat ∧ Decimal.Spells b r.toNat ∧ Decimal.Spells c p.toNat ∧
      Decimal.Spells keyLength k.toNat
  | .argon2 time memory threads k =>
    Decimal.Spells a time.toNat ∧ Decimal.Spells b memory.toNat ∧
      Decimal.Spells c threads.toNat ∧ Decimal.Spells keyLength k.toNat

theorem SpelledBy.unique {a b c keyLength : String} {cost other : Cost}
    (h : cost.SpelledBy a b c keyLength) (h' : other.SpelledBy a b c keyLength)
    (hfamily : cost.family = other.family) : cost = other := by
  cases cost with
  | scrypt n r p k =>
      cases other with
      | argon2 => cases hfamily
      | scrypt n' r' p' k' =>
          obtain ⟨hn, hr, hp, hk⟩ := h
          obtain ⟨hn', hr', hp', hk'⟩ := h'
          rw [UInt64.toNat_inj.1 (hn.unique hn'), UInt32.toNat_inj.1 (hr.unique hr'),
            UInt32.toNat_inj.1 (hp.unique hp'), UInt64.toNat_inj.1 (hk.unique hk')]
  | argon2 time memory threads k =>
      cases other with
      | scrypt => cases hfamily
      | argon2 time' memory' threads' k' =>
          obtain ⟨ht, hm, hp, hk⟩ := h
          obtain ⟨ht', hm', hp', hk'⟩ := h'
          rw [UInt32.toNat_inj.1 (ht.unique ht'), UInt32.toNat_inj.1 (hm.unique hm'),
            UInt32.toNat_inj.1 (hp.unique hp'), UInt64.toNat_inj.1 (hk.unique hk')]

theorem exists_write_eq (cost : Cost) :
    ∃ a b c keyLength, cost.write = [a, b, c, keyLength] ∧ cost.SpelledBy a b c keyLength := by
  cases cost with
  | scrypt n r p k =>
      exact ⟨_, _, _, _, rfl, Decimal.spells_repr _, Decimal.spells_repr _,
        Decimal.spells_repr _, Decimal.spells_repr _⟩
  | argon2 time memory threads k =>
      exact ⟨_, _, _, _, rfl, Decimal.spells_repr _, Decimal.spells_repr _,
        Decimal.spells_repr _, Decimal.spells_repr _⟩

/-! ### Ceilings without words -/

theorem isScryptN_iff {n : UInt64} :
    isScryptN n = true ↔ 2 ≤ n.toNat ∧ ∃ e, n.toNat = 2 ^ e := by
  simp only [isScryptN, Nat.one_shiftLeft, Bool.and_eq_true, decide_eq_true_eq, beq_iff_eq]
  constructor
  · rintro ⟨htwo, hlog⟩
    exact ⟨htwo, n.toNat.log2, hlog.symm⟩
  · rintro ⟨htwo, e, he⟩
    refine ⟨htwo, ?_⟩
    rw [he, Nat.log2_two_pow]

/-- The product stays far below a word because it is computed after `n` and `r` were checked. -/
theorem scryptMemory_toNat {n : UInt64} {r : UInt32} (hn : n.toNat ≤ 2 ^ 24)
    (hr : r.toNat ≤ 32) : (scryptMemory n r).toNat = 128 * r.toNat * n.toNat := by
  have hmul : r.toNat * n.toNat ≤ 32 * 2 ^ 24 := Nat.mul_le_mul hr hn
  simp only [scryptMemory, UInt64.toNat_mul, UInt32.toNat_toUInt64, UInt64.toNat_ofNat]
  rw [Nat.mod_mul_mod, Nat.mod_eq_of_lt]
  rw [Nat.mul_assoc]
  omega

theorem argon2Memory_toNat (memory : UInt32) :
    (argon2Memory memory).toNat = memory.toNat * 1024 := by
  have hmemory := memory.toNat_lt
  simp only [argon2Memory, UInt64.toNat_mul, UInt32.toNat_toUInt64, UInt64.toNat_ofNat]
  omega

theorem if_some_eq_none_iff {α : Type} {p : Prop} [Decidable p] {a : α} {rest : Option α} :
    (if p then some a else rest) = none ↔ ¬p ∧ rest = none := by
  by_cases h : p <;> simp [h]

theorem overrun?_eq_none_iff {cost : Cost} : cost.overrun? = none ↔ cost.BelowCeilings := by
  cases cost with
  | scrypt n r p keyLength =>
      simp only [overrun?, BelowCeilings, if_some_eq_none_iff, and_true, UInt64.not_lt,
        UInt32.not_lt, UInt64.le_iff_toNat_le, UInt32.le_iff_toNat_le]
      have hmemory : n.toNat ≤ 2 ^ 24 → r.toNat ≤ 32 →
          ((scryptMemory n r).toNat ≤ maxMemoryBytes.toNat ↔
            128 * r.toNat * n.toNat ≤ 2 ^ 30) := by
        intro hn hr
        rw [scryptMemory_toNat hn hr]
        exact Iff.rfl
      constructor
      · rintro ⟨hn, hr, hp, hk, hm⟩
        exact ⟨hn, hr, hp, hk, (hmemory hn hr).1 hm⟩
      · rintro ⟨hn, hr, hp, hk, hm⟩
        exact ⟨hn, hr, hp, hk, (hmemory hn hr).2 hm⟩
  | argon2 time memory threads keyLength =>
      simp only [overrun?, BelowCeilings, if_some_eq_none_iff, and_true, UInt64.not_lt,
        UInt32.not_lt, UInt64.le_iff_toNat_le, UInt32.le_iff_toNat_le, argon2Memory_toNat]
      exact Iff.rfl

theorem checked_eq_ok_iff {cost other : Cost} :
    cost.checked = .ok other ↔ cost.BelowCeilings ∧ cost = other := by
  rw [← overrun?_eq_none_iff, checked]
  cases cost.overrun? with
  | none => simp
  | some field => simp

/-! ### Reading -/

theorem number64_eq_ok_iff {field : CostField} {text : String} {n : UInt64} :
    number64 field text = .ok n ↔ Decimal.Spells text n.toNat := by
  rw [← Decimal.read64?_eq_some_iff, number64]
  cases Decimal.read64? text.toList with
  | none => simp
  | some m => simp

theorem number32_eq_ok_iff {field : CostField} {text : String} {n : UInt32} :
    number32 field text = .ok n ↔ Decimal.Spells text n.toNat := by
  rw [← Decimal.read32?_eq_some_iff, number32]
  cases Decimal.read32? text.toList with
  | none => simp
  | some m => simp

theorem read_scrypt (a b c keyLength : String) :
    read .scrypt a b c keyLength = (do
      let k ← number64 .keyLength keyLength
      let n ← number64 .n a
      if isScryptN n then
        let r ← number32 .r b
        let p ← number32 .p c
        checked (.scrypt n r p k)
      else .error .scryptCost) := by
  simp only [read]
  congr 1
  funext k
  congr 1
  funext n
  cases isScryptN n <;> rfl

/-- What was read is spelled by the fields, and was found to be within the limits. -/
theorem of_read_eq_ok {family : Family} {a b c keyLength : String} {cost : Cost}
    (h : read family a b c keyLength = .ok cost) :
    cost.family = family ∧ cost.SpelledBy a b c keyLength ∧ cost.WithinLimits := by
  cases family with
  | scrypt =>
      rw [read_scrypt] at h
      simp only [bind_eq_ok_iff] at h
      obtain ⟨k, hk, n, hn, h⟩ := h
      split at h
      · rename_i hpower
        simp only [bind_eq_ok_iff, checked_eq_ok_iff] at h
        obtain ⟨r, hr, p, hp, hbelow, rfl⟩ := h
        exact ⟨rfl, ⟨number64_eq_ok_iff.1 hn, number32_eq_ok_iff.1 hr, number32_eq_ok_iff.1 hp,
          number64_eq_ok_iff.1 hk⟩, isScryptN_iff.1 hpower, hbelow⟩
      · cases h
  | argon2 =>
      simp only [read, bind_eq_ok_iff, checked_eq_ok_iff] at h
      obtain ⟨k, hk, time, htime, memory, hmemory, threads, hthreads, hbelow, rfl⟩ := h
      exact ⟨rfl, ⟨number32_eq_ok_iff.1 htime, number32_eq_ok_iff.1 hmemory,
        number32_eq_ok_iff.1 hthreads, number64_eq_ok_iff.1 hk⟩, trivial, hbelow⟩
  | bcrypt => simp only [read, bind_eq_ok_iff, reduceCtorEq, and_false, exists_false] at h

/-- Once the fields spell numbers, the ceilings are all that a power of two is checked for. -/
theorem read_of_powerOfTwo {a b c keyLength : String} {cost : Cost}
    (h : cost.SpelledBy a b c keyLength) (hpower : cost.PowerOfTwo) :
    read cost.family a b c keyLength = cost.checked := by
  cases cost with
  | scrypt n r p k =>
      obtain ⟨hn, hr, hp, hk⟩ := h
      simp only [family, read_scrypt, number64_eq_ok_iff.2 hk, number64_eq_ok_iff.2 hn,
        number32_eq_ok_iff.2 hr, number32_eq_ok_iff.2 hp, ok_bind, if_pos (isScryptN_iff.2 hpower)]
  | argon2 time memory threads k =>
      obtain ⟨htime, hmemory, hthreads, hk⟩ := h
      simp only [family, read, number64_eq_ok_iff.2 hk, number32_eq_ok_iff.2 htime,
        number32_eq_ok_iff.2 hmemory, number32_eq_ok_iff.2 hthreads, ok_bind]

theorem read_of_not_powerOfTwo {a b c keyLength : String} {cost : Cost}
    (h : cost.SpelledBy a b c keyLength) (hpower : ¬cost.PowerOfTwo) :
    read cost.family a b c keyLength = .error .scryptCost := by
  cases cost with
  | scrypt n r p k =>
      obtain ⟨hn, -, -, hk⟩ := h
      simp only [family, read_scrypt, number64_eq_ok_iff.2 hk, number64_eq_ok_iff.2 hn, ok_bind,
        if_neg (mt isScryptN_iff.1 hpower)]
  | argon2 => exact absurd trivial hpower

theorem read_eq_ok_iff {family : Family} {a b c keyLength : String} {cost : Cost} :
    read family a b c keyLength = .ok cost ↔
      cost.family = family ∧ cost.SpelledBy a b c keyLength ∧ cost.WithinLimits := by
  constructor
  · exact of_read_eq_ok
  · rintro ⟨rfl, hspelled, hpower, hbelow⟩
    rw [read_of_powerOfTwo hspelled hpower, checked_eq_ok_iff]
    exact ⟨hbelow, rfl⟩

/-- Numbers that are out of limits are refused for their first fault. -/
theorem read_of_not_withinLimits {a b c keyLength : String} {cost : Cost}
    (h : cost.SpelledBy a b c keyLength) (hlimits : ¬cost.WithinLimits) :
    (¬cost.PowerOfTwo ∧ read cost.family a b c keyLength = .error .scryptCost) ∨
      ∃ field, cost.overrun? = some field ∧
        read cost.family a b c keyLength = .error (.costLimit field) := by
  by_cases hpower : cost.PowerOfTwo
  · rw [read_of_powerOfTwo h hpower, checked]
    cases hoverrun : cost.overrun? with
    | none => exact absurd ⟨hpower, overrun?_eq_none_iff.1 hoverrun⟩ hlimits
    | some field => exact .inr ⟨field, rfl, rfl⟩
  · exact .inl ⟨hpower, read_of_not_powerOfTwo h hpower⟩

end HashText.Cost

end PasswordHashing
