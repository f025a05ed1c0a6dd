import PasswordHashing.Bytes

/-!
Base64 without padding, over any alphabet of sixty-four symbols. Three bytes make
four symbols; a tail of one byte makes two and a tail of two makes three. Reading
refuses a symbol outside the alphabet, a length that no byte string has, and a last
symbol with bits that belong to no byte, so that each byte string has one text.
-/

namespace PasswordHashing

structure Base64 where
  symbols : List Char
  symbols_length : symbols.length = 64 := by decide
  symbols_nodup : symbols.Nodup := by decide

namespace Base64

/-- The standard alphabet. -/
def standard : Base64 where
  symbols := "ABCDEFGHIJKLMNOPQRSTUVWXYZabcdefghijklmnopqrstuvwxyz0123456789+/".toList

/-- The alphabet of bcrypt's texts. -/
def bcrypt : Base64 where
  symbols := "./ABCDEFGHIJKLMNOPQRSTUVWXYZabcdefghijklmnopqrstuvwxyz0123456789".toList

variable (code : Base64)

/-- The symbol of a six-bit value. -/
def symbol (value : Nat) : Char := code.symbols.getD value 'A'

/-- The six-bit value of a symbol. -/
def value? (c : Char) : Option Nat := code.symbols.idxOf? c

def encode : Bytes → List Char
  | [] => []
  | [a] => [code.symbol (a.toNat / 4), code.symbol (a.toNat % 4 * 16)]
  | [a, b] =>
    [code.symbol (a.toNat / 4), code.symbol (a.toNat % 4 * 16 + b.toNat / 16),
      code.symbol (b.toNat % 16 * 4)]
  | a :: b :: c :: rest =>
    code.symbol (a.toNat / 4) :: code.symbol (a.toNat % 4 * 16 + b.toNat / 16) ::
      code.symbol (b.toNat % 16 * 4 + c.toNat / 64) :: code.symbol (c.toNat % 64) :: encode rest

def decode? : List Char → Option Bytes
  | [] => some []
  | [_] => none
  | [w, x] => do
    let w ← code.value? w
    let x ← code.value? x
    if x % 16 = 0 then some [.ofNat (w * 4 + x / 16)] else none
  | [w, x, y] => do
    let w ← code.value? w
    let x ← code.value? x
    let y ← code.value? y
    if y % 4 = 0 then some [.ofNat (w * 4 + x / 16), .ofNat (x % 16 * 16 + y / 4)] else none
  | w :: x :: y :: z :: rest => do
    let w ← code.value? w
    let x ← code.value? x
    let y ← code.value? y
    let z ← code.value? z
    let tail ← decode? rest
    some (.ofNat (w * 4 + x / 16) :: .ofNat (x % 16 * 16 + y / 4) :: .ofNat (y % 4 * 64 + z) :: tail)

/-! ### Symbols and values -/

theorem value?_symbol {v : Nat} (h : v < 64) : code.value? (code.symbol v) = some v := by
  have hv : v < code.symbols.length := by rw [code.symbols_length]; exact h
  have hs : code.symbol v = code.symbols[v] := by simp [symbol, hv]
  rw [value?, hs, List.idxOf?_eq_some_iff]
  refine ⟨hv, by simp, fun j hj e => ?_⟩
  have := (List.getElem_inj code.symbols_nodup).1 e
  omega

theorem symbol_value? {c : Char} {v : Nat} (h : code.value? c = some v) :
    v < 64 ∧ code.symbol v = c := by
  obtain ⟨hv, hc, -⟩ := List.idxOf?_eq_some_iff.1 h
  refine ⟨by simpa [code.symbols_length] using hv, ?_⟩
  simpa [symbol, hv] using hc

/-! ### Reading and writing are inverse -/

theorem decode?_encode (bytes : Bytes) : code.decode? (code.encode bytes) = some bytes := by
  fun_induction code.encode bytes with
  | case1 => rfl
  | case2 a =>
    have ha := a.toNat_lt
    simp only [decode?, code.value?_symbol (show a.toNat / 4 < 64 by omega),
      code.value?_symbol (show a.toNat % 4 * 16 < 64 by omega), Option.bind_eq_bind,
      Option.bind_some]
    rw [if_pos (by omega), show a.toNat / 4 * 4 + a.toNat % 4 * 16 / 16 = a.toNat by omega]
    simp
  | case3 a b =>
    have ha := a.toNat_lt
    have hb := b.toNat_lt
    simp only [decode?, code.value?_symbol (show a.toNat / 4 < 64 by omega),
      code.value?_symbol (show a.toNat % 4 * 16 + b.toNat / 16 < 64 by omega),
      code.value?_symbol (show b.toNat % 16 * 4 < 64 by omega), Option.bind_eq_bind,
      Option.bind_some]
    rw [if_pos (by omega),
      show a.toNat / 4 * 4 + (a.toNat % 4 * 16 + b.toNat / 16) / 16 = a.toNat by omega,
      show (a.toNat % 4 * 16 + b.toNat / 16) % 16 * 16 + b.toNat % 16 * 4 / 4 = b.toNat by omega]
    simp
  | case4 a b c rest ih =>
    have ha := a.toNat_lt
    have hb := b.toNat_lt
    have hc := c.toNat_lt
    simp only [decode?, code.value?_symbol (show a.toNat / 4 < 64 by omega),
      code.value?_symbol (show a.toNat % 4 * 16 + b.toNat / 16 < 64 by omega),
      code.value?_symbol (show b.toNat % 16 * 4 + c.toNat / 64 < 64 by omega),
      code.value?_symbol (show c.toNat % 64 < 64 by omega), Option.bind_eq_bind,
      Option.bind_some, ih]
    rw [show a.toNat / 4 * 4 + (a.toNat % 4 * 16 + b.toNat / 16) / 16 = a.toNat by omega,
      show (a.toNat % 4 * 16 + b.toNat / 16) % 16 * 16 + (b.toNat % 16 * 4 + c.toNat / 64) / 4 =
        b.toNat by omega,
      show (b.toNat % 16 * 4 + c.toNat / 64) % 4 * 64 + c.toNat % 64 = c.toNat by omega]
    simp

theorem encode_of_decode? {text : List Char} {bytes : Bytes}
    (h : code.decode? text = some bytes) : code.encode bytes = text := by
  fun_induction code.decode? text generalizing bytes with
  | case1 => cases h; rfl
  | case2 => cases h
  | case3 w x =>
    simp only [Option.bind_eq_bind, Option.bind_eq_some_iff] at h
    obtain ⟨u, hu, v, hv, h⟩ := h
    obtain ⟨hu, rfl⟩ := code.symbol_value? hu
    obtain ⟨hv, rfl⟩ := code.symbol_value? hv
    split at h
    · cases h
      simp only [encode, UInt8.toNat_ofNat']
      rw [show (u * 4 + v / 16) % 2 ^ 8 / 4 = u by omega,
        show (u * 4 + v / 16) % 2 ^ 8 % 4 * 16 = v by omega]
    · cases h
  | case4 w x y =>
    simp only [Option.bind_eq_bind, Option.bind_eq_some_iff] at h
    obtain ⟨u, hu, v, hv, t, ht, h⟩ := h
    obtain ⟨hu, rfl⟩ := code.symbol_value? hu
    obtain ⟨hv, rfl⟩ := code.symbol_value? hv
    obtain ⟨ht, rfl⟩ := code.symbol_value? ht
    split at h
    · cases h
      simp only [encode, UInt8.toNat_ofNat']
      rw [show (u * 4 + v / 16) % 2 ^ 8 / 4 = u by omega,
        show (u * 4 + v / 16) % 2 ^ 8 % 4 * 16 + (v % 16 * 16 + t / 4) % 2 ^ 8 / 16 = v by omega,
        show (v % 16 * 16 + t / 4) % 2 ^ 8 % 16 * 4 = t by omega]
    · cases h
  | case5 w x y z rest ih =>
    simp only [Option.bind_eq_bind, Option.bind_eq_some_iff] at h
    obtain ⟨u, hu, v, hv, t, ht, s, hs, tail, htail, h⟩ := h
    obtain ⟨hu, rfl⟩ := code.symbol_value? hu
    obtain ⟨hv, rfl⟩ := code.symbol_value? hv
    obtain ⟨ht, rfl⟩ := code.symbol_value? ht
    obtain ⟨hs, rfl⟩ := code.symbol_value? hs
    cases h
    simp only [encode, UInt8.toNat_ofNat', ih htail]
    rw [show (u * 4 + v / 16) % 2 ^ 8 / 4 = u by omega,
      show (u * 4 + v / 16) % 2 ^ 8 % 4 * 16 + (v % 16 * 16 + t / 4) % 2 ^ 8 / 16 = v by omega,
      show (v % 16 * 16 + t / 4) % 2 ^ 8 % 16 * 4 + (t % 4 * 64 + s) % 2 ^ 8 / 64 = t by omega,
      show (t % 4 * 64 + s) % 2 ^ 8 % 64 = s by omega]

/-- Reading accepts exactly what writing produces. -/
theorem decode?_eq_some_iff {text : List Char} {bytes : Bytes} :
    code.decode? text = some bytes ↔ text = code.encode bytes :=
  ⟨fun h => (code.encode_of_decode? h).symm, fun h => h ▸ code.decode?_encode bytes⟩

end Base64

end PasswordHashing
