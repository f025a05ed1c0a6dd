import Mathlib.Algebra.Group.Nat.Defs
import Mathlib.Data.List.Induction
import PasswordHashing.Text.Decimal

/-!
Which texts spell which number. A reader of words accepts exactly the strings of digits
whose value fits the word, however long they are, and gives that value. A number has many
texts, but they differ in nothing except how many zeros stand in front, and the one that
is written has none to spare.
-/

namespace PasswordHashing.Decimal

/-- A string of digits with the value `n`; zeros may stand in front of it. -/
def Spells (text : String) (n : Nat) : Prop := IsDigits text.toList ∧ value text.toList = n

theorem Spells.unique {text : String} {m n : Nat} (h : Spells text m) (h' : Spells text n) :
    m = n :=
  h.2.symm.trans h'.2

theorem spells_repr (n : Nat) : Spells n.repr n := by
  rw [Spells, Nat.repr, String.toList_ofList]
  exact ⟨write_isDigits n, value_write n⟩

theorem length_repr_le {n digits : Nat} (hpos : 0 < digits) (h : n < 10 ^ digits) :
    n.repr.toList.length ≤ digits := by
  rw [Nat.repr, String.toList_ofList]
  exact (Nat.length_toDigits_le_iff (by omega) hpos).2 h

theorem read?_eq_some_iff {text : String} {n : Nat} :
    read? text.toList = some n ↔ Spells text n := by
  simp only [read?, Spells, Option.ite_none_right_eq_some, Option.some.injEq]

theorem read64?_eq_some_iff {text : String} {n : UInt64} :
    read64? text.toList = some n ↔ Spells text n.toNat := by
  simp only [read64?, Option.bind_eq_some_iff, read?_eq_some_iff,
    Option.ite_none_right_eq_some, Option.some.injEq]
  constructor
  · rintro ⟨m, hm, hlt, rfl⟩
    rwa [UInt64.toNat_ofNat_of_lt' hlt]
  · intro h
    exact ⟨n.toNat, h, n.toNat_lt_size, UInt64.ofNat_toNat⟩

theorem read32?_eq_some_iff {text : String} {n : UInt32} :
    read32? text.toList = some n ↔ Spells text n.toNat := by
  simp only [read32?, Option.bind_eq_some_iff, read?_eq_some_iff,
    Option.ite_none_right_eq_some, Option.some.injEq]
  constructor
  · rintro ⟨m, hm, hlt, rfl⟩
    rwa [UInt32.toNat_ofNat_of_lt' hlt]
  · intro h
    exact ⟨n.toNat, h, n.toNat_lt_size, UInt32.ofNat_toNat⟩

/-! ### Zeros in front -/

theorem exists_digit {c : Char} (h : c.isDigit) : ∃ d < 10, c = d.digitChar := by
  have hrange : 48 ≤ c.toNat ∧ c.toNat ≤ 57 := Char.isDigit_iff_toNat.1 h
  have hchar := Nat.toNat_digitChar_of_lt_ten (n := c.toNat - 48) (by omega)
  refine ⟨c.toNat - 48, by omega, ?_⟩
  apply Char.toNat_inj.1
  omega

theorem value_append_digit (text : List Char) {d : Nat} (hd : d < 10) :
    value (text ++ [d.digitChar]) = 10 * value text + d := by
  rw [value, Nat.ofDigitChars_append, Nat.ofDigitChars_cons_digitChar_of_lt_ten hd,
    Nat.ofDigitChars_nil, value]

theorem value_zeros_append (zeros : Nat) (text : List Char) :
    value (List.replicate zeros '0' ++ text) = value text := by
  rw [value, Nat.ofDigitChars_append, Nat.ofDigitChars_replicate_zero, Nat.mul_zero, value]

theorem IsDigits.exists_zeros {text : List Char} (h : IsDigits text) :
    ∃ zeros, text = List.replicate zeros '0' ++ write (value text) := by
  obtain ⟨hne, hdigits⟩ := h
  -- a number grows at its end, so the induction takes the last digit off
  induction text using List.reverseRecOn with
  | nil => exact absurd rfl hne
  | append_singleton front c ih =>
      obtain ⟨d, hd, rfl⟩ := exists_digit (hdigits c (by simp))
      rw [value_append_digit front hd]
      by_cases hfront : front = []
      · refine ⟨0, ?_⟩
        simp [hfront, value, write, Nat.toDigits_of_lt_base hd]
      · obtain ⟨zeros, hzeros⟩ := ih hfront fun c hc => hdigits c (List.mem_append_left _ hc)
        by_cases hvalue : value front = 0
        · -- the front is nothing but zeros, and the one that was written for it is one more
          refine ⟨zeros + 1, ?_⟩
          rw [hvalue] at hzeros ⊢
          rw [Nat.mul_zero, Nat.zero_add, List.replicate_succ', hzeros]
          simp [write, Nat.toDigits_of_lt_base hd, Nat.toDigits_zero]
        · refine ⟨zeros, ?_⟩
          have hjoin := Nat.toDigits_append_toDigits (b := 10) (by omega)
            (Nat.pos_of_ne_zero hvalue) hd
          rw [write, ← hjoin, ← List.append_assoc, Nat.toDigits_of_lt_base hd]
          exact congrArg (· ++ [d.digitChar]) hzeros

theorem Spells.exists_zeros {text : String} {n : Nat} (h : Spells text n) :
    ∃ zeros, text.toList = List.replicate zeros '0' ++ n.repr.toList := by
  obtain ⟨zeros, hzeros⟩ := h.1.exists_zeros
  rw [h.2, write, ← Nat.toList_repr] at hzeros
  exact ⟨zeros, hzeros⟩

/-- A zero stands in front of another digit. -/
def Padded (text : String) : Prop := text.toList.head? = some '0' ∧ 1 < text.toList.length

instance (text : String) : Decidable (Padded text) := inferInstanceAs (Decidable (_ ∧ _))

theorem not_padded_repr (n : Nat) : ¬Padded n.repr := by
  rintro ⟨hhead, hlength⟩
  obtain ⟨rest, hrest⟩ := List.head?_eq_some_iff.1 hhead
  obtain ⟨⟨-, hdigits⟩, hvalue⟩ := spells_repr n
  rw [hrest] at hlength hdigits hvalue
  have hne : rest ≠ [] := by
    rintro rfl
    simp at hlength
  -- without its zero the text would still spell the number, and be shorter than itself
  have hspells : Spells (String.ofList rest) n := by
    rw [Spells, String.toList_ofList]
    refine ⟨⟨hne, fun c hc => hdigits c (List.mem_cons_of_mem _ hc)⟩, ?_⟩
    exact (value_zeros_append 1 rest).symm.trans hvalue
  obtain ⟨zeros, hzeros⟩ := hspells.exists_zeros
  have hlengths := congrArg List.length hzeros
  rw [String.toList_ofList, hrest, List.length_append, List.length_cons] at hlengths
  omega

/-- Of the texts that spell a number, the one that is written is the one that is not padded. -/
theorem Spells.eq_repr_iff {text : String} {n : Nat} (h : Spells text n) :
    text = n.repr ↔ ¬Padded text := by
  constructor
  · rintro rfl
    exact not_padded_repr n
  · intro hpadded
    obtain ⟨zeros, hzeros⟩ := h.exists_zeros
    cases zeros with
    | zero =>
        apply String.toList_inj.1
        rw [hzeros, List.replicate_zero, List.nil_append]
    | succ zeros =>
        have hrepr := List.length_pos_iff.2 (spells_repr n).1.1
        refine absurd ⟨?_, ?_⟩ hpadded
        · rw [hzeros, List.replicate_succ, List.cons_append, List.head?_cons]
        · rw [hzeros, List.length_append, List.length_replicate]
          omega

end PasswordHashing.Decimal
