import Mathlib.Algebra.Group.Nat.Defs
import Mathlib.Data.List.Basic
import PasswordHashing.Text.Base64

/-!
What base64 means, said without the writer and the reader. The six-bit values of the
symbols, one after another, are the bits of the bytes and then as many zeros as fill up
the last symbol. A byte string has one such text, and it is the one that is written, so
reading accepts exactly the texts that mean something.
-/

namespace PasswordHashing.Base64

/-! ### Bits of a number -/

/-- The `width` lowest bits of a number, the highest of them first. -/
def bits : Nat → Nat → List Bool
  | 0, _ => []
  | width + 1, n => n.testBit width :: bits width n

@[simp] theorem bits_length (width n : Nat) : (bits width n).length = width := by
  induction width with
  | zero => rfl
  | succ width ih => simp only [bits, List.length_cons, ih]

theorem bits_add (high low n : Nat) :
    bits (high + low) n = bits high (n / 2 ^ low) ++ bits low n := by
  induction high with
  | zero => simp [bits]
  | succ high ih =>
      rw [Nat.succ_add, bits, bits, ih, Nat.testBit_div_two_pow, List.cons_append]

theorem bits_eq_iff {width m n : Nat} :
    bits width m = bits width n ↔ m % 2 ^ width = n % 2 ^ width := by
  induction width with
  | zero => simp [bits, Nat.mod_one]
  | succ width ih =>
      have hm := Nat.mod_lt m (Nat.two_pow_pos width)
      have hn := Nat.mod_lt n (Nat.two_pow_pos width)
      rw [bits, bits, List.cons.injEq, ih, Nat.mod_pow_succ, Nat.mod_pow_succ,
        ← Nat.toNat_testBit, ← Nat.toNat_testBit]
      cases m.testBit width <;> cases n.testBit width <;> simp <;> omega

/-- Bits after bits are the bits of one greater number. -/
theorem bits_append {high low m n : Nat} (hn : n < 2 ^ low) :
    bits high m ++ bits low n = bits (high + low) (m * 2 ^ low + n) := by
  rw [bits_add, Nat.mul_comm, Nat.mul_add_div (Nat.two_pow_pos low), Nat.div_eq_of_lt hn,
    Nat.add_zero]
  congr 1
  rw [bits_eq_iff, Nat.mul_add_mod]

def byteBits (b : UInt8) : List Bool := bits 8 b.toNat

/-! ### The meaning of a text -/

variable (code : Base64)

def symbolBits (c : Char) : List Bool := bits 6 (code.symbols.idxOf c)

/-- The text is in the alphabet, with no padding after it, and its bits are those of the
bytes, up to fewer than six zeros at the end. -/
structure Spells (text : List Char) (bytes : Bytes) : Prop where
  mem_symbols : ∀ c ∈ text, c ∈ code.symbols
  bits_eq : ∃ spare < 6,
    text.flatMap code.symbolBits = bytes.flatMap byteBits ++ List.replicate spare false

theorem symbol_eq_getElem {v : Nat} (h : v < code.symbols.length) :
    code.symbol v = code.symbols[v] := by
  rw [symbol, List.getD_eq_getElem?_getD, List.getElem?_eq_getElem h, Option.getD_some]

theorem symbol_mem {v : Nat} (h : v < 64) : code.symbol v ∈ code.symbols := by
  rw [code.symbol_eq_getElem (by rw [code.symbols_length]; exact h)]
  exact List.getElem_mem _

theorem symbolBits_symbol {v : Nat} (h : v < 64) :
    code.symbolBits (code.symbol v) = bits 6 v := by
  rw [code.symbol_eq_getElem (by rw [code.symbols_length]; exact h), symbolBits,
    code.symbols_nodup.idxOf_getElem v]

theorem symbolBits_injective {c d : Char} (hc : c ∈ code.symbols) (hd : d ∈ code.symbols)
    (h : code.symbolBits c = code.symbolBits d) : c = d := by
  have hlc := List.idxOf_lt_length_iff.2 hc
  have hld := List.idxOf_lt_length_iff.2 hd
  have hlength := code.symbols_length
  rw [symbolBits, symbolBits, bits_eq_iff, Nat.mod_eq_of_lt (by omega),
    Nat.mod_eq_of_lt (by omega)] at h
  exact (List.idxOf_inj hc).1 h

theorem length_flatMap_symbolBits (text : List Char) :
    (text.flatMap code.symbolBits).length = 6 * text.length := by
  simp [List.length_flatMap, symbolBits, Nat.mul_comm]

theorem length_flatMap_byteBits (bytes : Bytes) :
    (bytes.flatMap byteBits).length = 8 * bytes.length := by
  simp [List.length_flatMap, byteBits, Nat.mul_comm]

theorem eq_of_flatMap_symbolBits_eq {text other : List Char}
    (htext : ∀ c ∈ text, c ∈ code.symbols) (hother : ∀ c ∈ other, c ∈ code.symbols)
    (h : text.flatMap code.symbolBits = other.flatMap code.symbolBits) : text = other := by
  induction text generalizing other with
  | nil =>
      cases other with
      | nil => rfl
      | cons d other => simp [symbolBits, bits] at h
  | cons c text ih =>
      cases other with
      | nil => simp [symbolBits, bits] at h
      | cons d other =>
          rw [List.flatMap_cons, List.flatMap_cons] at h
          -- every symbol has six bits, so the two sides can be cut at the same place
          obtain ⟨hhead, htail⟩ := List.append_inj h (by simp [symbolBits])
          have hcd : c = d := code.symbolBits_injective (htext c List.mem_cons_self)
            (hother d List.mem_cons_self) hhead
          have hrest : text = other := ih
            (fun x hx => htext x (List.mem_cons_of_mem _ hx))
            (fun x hx => hother x (List.mem_cons_of_mem _ hx)) htail
          rw [hcd, hrest]

variable {code} in
/-- A byte string has one text: the number of spare bits is the one that fills up a symbol. -/
theorem Spells.unique {text other : List Char} {bytes : Bytes} (h : code.Spells text bytes)
    (h' : code.Spells other bytes) : text = other := by
  obtain ⟨spare, hspare, hbits⟩ := h.bits_eq
  obtain ⟨spare', hspare', hbits'⟩ := h'.bits_eq
  have hlength := congrArg List.length hbits
  have hlength' := congrArg List.length hbits'
  simp only [length_flatMap_symbolBits, length_flatMap_byteBits, List.length_append,
    List.length_replicate] at hlength hlength'
  -- six times a length differs from another by less than six only if they are the same
  have hsame : spare = spare' := by omega
  apply code.eq_of_flatMap_symbolBits_eq h.mem_symbols h'.mem_symbols
  rw [hbits, hbits', hsame]

/-! ### What is written -/

theorem mem_symbols_of_mem_encode {bytes : Bytes} {c : Char} (h : c ∈ code.encode bytes) :
    c ∈ code.symbols := by
  fun_induction code.encode bytes with
  | case1 => cases h
  | case2 a =>
      have ha := a.toNat_lt
      simp only [List.mem_cons, List.not_mem_nil, or_false] at h
      rcases h with rfl | rfl <;> exact code.symbol_mem (by omega)
  | case3 a b =>
      have ha := a.toNat_lt
      have hb := b.toNat_lt
      simp only [List.mem_cons, List.not_mem_nil, or_false] at h
      rcases h with rfl | rfl | rfl <;> exact code.symbol_mem (by omega)
  | case4 a b c rest ih =>
      have ha := a.toNat_lt
      have hb := b.toNat_lt
      have hc := c.toNat_lt
      simp only [List.mem_cons] at h
      rcases h with rfl | rfl | rfl | rfl | h
      · exact code.symbol_mem (by omega)
      · exact code.symbol_mem (by omega)
      · exact code.symbol_mem (by omega)
      · exact code.symbol_mem (by omega)
      · exact ih h

/-- A tail of one byte leaves four bits of its last symbol to spare, one of two bytes leaves two. -/
theorem bits_encode (bytes : Bytes) : ∃ spare < 6,
    (code.encode bytes).flatMap code.symbolBits =
      bytes.flatMap byteBits ++ List.replicate spare false := by
  fun_induction code.encode bytes with
  | case1 => exact ⟨0, by omega, rfl⟩
  | case2 a =>
      have ha := a.toNat_lt
      refine ⟨4, by omega, ?_⟩
      simp only [List.flatMap_cons, List.flatMap_nil, List.append_nil, byteBits,
        show List.replicate 4 false = bits 4 0 from rfl]
      rw [code.symbolBits_symbol (by omega), code.symbolBits_symbol (by omega),
        bits_append (by omega), bits_append (by omega)]
      exact congrArg (bits 12) (by omega)
  | case3 a b =>
      have ha := a.toNat_lt
      have hb := b.toNat_lt
      refine ⟨2, by omega, ?_⟩
      simp only [List.flatMap_cons, List.flatMap_nil, List.append_nil, byteBits,
        List.append_assoc, show List.replicate 2 false = bits 2 0 from rfl]
      rw [code.symbolBits_symbol (by omega), code.symbolBits_symbol (by omega),
        code.symbolBits_symbol (by omega), bits_append (by omega), bits_append (by omega),
        bits_append (by omega), bits_append (by omega)]
      exact congrArg (bits 18) (by omega)
  | case4 a b c rest ih =>
      have ha := a.toNat_lt
      have hb := b.toNat_lt
      have hc := c.toNat_lt
      obtain ⟨spare, hspare, ih⟩ := ih
      refine ⟨spare, hspare, ?_⟩
      simp only [List.flatMap_cons, byteBits, List.append_assoc] at ih ⊢
      rw [code.symbolBits_symbol (by omega), code.symbolBits_symbol (by omega),
        code.symbolBits_symbol (by omega), code.symbolBits_symbol (by omega), ih]
      simp only [← List.append_assoc]
      congr 2
      rw [bits_append (by omega), bits_append (by omega), bits_append (by omega),
        bits_append (by omega), bits_append (by omega)]
      exact congrArg (bits 24) (by omega)

theorem spells_encode (bytes : Bytes) : code.Spells (code.encode bytes) bytes where
  mem_symbols _ hc := code.mem_symbols_of_mem_encode hc
  bits_eq := code.bits_encode bytes

theorem spells_iff {text : List Char} {bytes : Bytes} :
    code.Spells text bytes ↔ text = code.encode bytes := by
  constructor
  · intro h
    exact h.unique (code.spells_encode bytes)
  · rintro rfl
    exact code.spells_encode bytes

theorem decode?_eq_some_iff_spells {text : List Char} {bytes : Bytes} :
    code.decode? text = some bytes ↔ code.Spells text bytes := by
  rw [code.decode?_eq_some_iff, code.spells_iff]

theorem encode_length (bytes : Bytes) :
    (code.encode bytes).length = (8 * bytes.length + 5) / 6 := by
  obtain ⟨spare, hspare, hbits⟩ := code.bits_encode bytes
  have hlength := congrArg List.length hbits
  simp only [length_flatMap_symbolBits, length_flatMap_byteBits, List.length_append,
    List.length_replicate] at hlength
  omega

theorem encode_eq_nil_iff {bytes : Bytes} : code.encode bytes = [] ↔ bytes = [] := by
  rw [← List.length_eq_zero_iff, ← List.length_eq_zero_iff, code.encode_length]
  omega

variable {code}

theorem Spells.eq_nil_iff {text : List Char} {bytes : Bytes} (h : code.Spells text bytes) :
    text = [] ↔ bytes = [] := by
  rw [code.spells_iff.1 h, code.encode_eq_nil_iff]

/-- A text means one byte string. -/
theorem Spells.bytes_unique {text : List Char} {bytes other : Bytes}
    (h : code.Spells text bytes) (h' : code.Spells text other) : bytes = other := by
  rw [← code.decode?_eq_some_iff_spells] at h h'
  exact Option.some.inj (h.symm.trans h')

end PasswordHashing.Base64
