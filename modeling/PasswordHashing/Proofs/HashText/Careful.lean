import PasswordHashing.Proofs.HashText.Canonical

/-!
Reading a text step by step, with nothing taken for granted. A field is looked up by its
place, the cost fields are a slice of all the fields, and the working memory is multiplied
out in words; a look-up out of range and a product that fits no word end the reading in
ways of their own. Main statement: neither ever happens, because every look-up comes after
the fields were counted and every product after its factors were bounded, and what is read
is what the reader reads.
-/

namespace PasswordHashing

open HashText

namespace HashText

/-- What a careful reading can end in besides what was read. -/
inductive Halt
  | refused (error : ParseError)
  | outOfRange
  | overflow
  deriving DecidableEq

/-- A reading that can only end because the text is refused. -/
def orRefused {α : Type} (result : Except ParseError α) : Except Halt α := result.mapError .refused

@[simp] theorem orRefused_ok {α : Type} (a : α) :
    orRefused (.ok a : Except ParseError α) = .ok a := rfl

@[simp] theorem orRefused_error {α : Type} (e : ParseError) :
    orRefused (.error e : Except ParseError α) = .error (.refused e) := rfl

theorem orRefused_bind {α β : Type} (x : Except ParseError α) (f : α → Except ParseError β) :
    orRefused (x >>= f) = orRefused x >>= fun a => orRefused (f a) := by
  cases x <;> rfl

theorem orRefused_map {α β : Type} (f : α → β) (x : Except ParseError α) :
    orRefused (f <$> x) = f <$> orRefused x := by
  cases x <;> rfl

/-! ### Steps that can go wrong -/

def fieldAt (fs : List String) (place : Nat) : Except Halt String :=
  match fs[place]? with
  | some field => .ok field
  | none => .error .outOfRange

def fieldsBetween (fs : List String) (start stop : Nat) : Except Halt (List String) :=
  if start ≤ stop ∧ stop ≤ fs.length then .ok ((fs.take stop).drop start) else .error .outOfRange

def times (x y : UInt64) : Except Halt UInt64 :=
  if x.toNat * y.toNat < UInt64.size then .ok (x * y) else .error .overflow

def atMost {α : Type} [LT α] [DecidableLT α] (max value : α) (field : CostField) :
    Except Halt Unit :=
  if max < value then .error (.refused (.costLimit field)) else .ok ()

theorem times_eq_ok {x y : UInt64} (h : x.toNat * y.toNat < UInt64.size) :
    times x y = .ok (x * y) := if_pos h

theorem atMost_bind {α β : Type} [LT α] [DecidableLT α] (max value : α) (field : CostField)
    (f : Unit → Except Halt β) :
    (atMost max value field >>= f) =
      if max < value then .error (.refused (.costLimit field)) else f () := by
  unfold atMost
  split <;> rfl

end HashText

/-! ### Cost fields -/

namespace HashText.Cost

def scryptMemoryCarefully (n : UInt64) (r : UInt32) : Except Halt UInt64 := do
  let blockBytes ← times 128 r.toUInt64
  times blockBytes n

/-- The ceilings one after another; a product is formed when its turn comes. -/
def checkedCarefully : Cost → Except Halt Cost
  | .scrypt n r p keyLength => do
    atMost scryptMaxN n .n
    atMost scryptMaxR r .r
    atMost scryptMaxP p .p
    atMost scryptMaxKeyLength keyLength .keyLength
    let bytes ← scryptMemoryCarefully n r
    atMost maxMemoryBytes bytes .memory
    .ok (.scrypt n r p keyLength)
  | .argon2 time memory threads keyLength => do
    atMost argon2MaxTime time .time
    let bytes ← times memory.toUInt64 1024
    atMost maxMemoryBytes bytes .memory
    atMost argon2MaxThreads threads .threads
    atMost argon2MaxKeyLength keyLength .keyLength
    .ok (.argon2 time memory threads keyLength)

/-- Both products fit a word because `n` and `r` were checked before. -/
theorem scryptMemoryCarefully_eq {n : UInt64} {r : UInt32} (hn : ¬scryptMaxN < n)
    (hr : ¬scryptMaxR < r) : scryptMemoryCarefully n r = .ok (scryptMemory n r) := by
  have hn : n.toNat ≤ 2 ^ 24 := UInt64.le_iff_toNat_le.1 (UInt64.not_lt.1 hn)
  have hr : r.toNat ≤ 32 := UInt32.le_iff_toNat_le.1 (UInt32.not_lt.1 hr)
  have hfirst : (128 : UInt64).toNat * r.toUInt64.toNat = 128 * r.toNat := by
    rw [UInt32.toNat_toUInt64, UInt64.toNat_ofNat]
  have hblock : (128 * r.toUInt64).toNat = 128 * r.toNat := by
    rw [UInt64.toNat_mul, hfirst]
    exact Nat.mod_eq_of_lt (by omega)
  have hsecond : 128 * r.toNat * n.toNat ≤ 128 * 32 * 2 ^ 24 :=
    Nat.mul_le_mul (Nat.mul_le_mul_left 128 hr) hn
  rw [scryptMemoryCarefully, times_eq_ok (by rw [hfirst, UInt64.size]; omega)]
  exact times_eq_ok (by rw [hblock, UInt64.size]; omega)

/-- A memory of thirty-two bits times 1024 always fits. -/
theorem times_argon2Memory (memory : UInt32) :
    times memory.toUInt64 1024 = .ok (argon2Memory memory) := by
  have hmemory := memory.toNat_lt
  have hkib : (1024 : UInt64).toNat = 1024 := rfl
  apply times_eq_ok
  rw [UInt32.toNat_toUInt64, hkib, UInt64.size]
  omega

theorem checkedCarefully_eq (cost : Cost) : cost.checkedCarefully = orRefused cost.checked := by
  cases cost with
  | scrypt n r p keyLength =>
      simp only [checkedCarefully, checked, overrun?, atMost_bind]
      by_cases hn : scryptMaxN < n
      · simp only [hn, if_true, orRefused_error]
      by_cases hr : scryptMaxR < r
      · simp only [hn, hr, if_true, if_false, orRefused_error]
      simp only [hn, hr, if_false, scryptMemoryCarefully_eq hn hr, ok_bind]
      split_ifs <;> rfl
  | argon2 time memory threads keyLength =>
      simp only [checkedCarefully, checked, overrun?, atMost_bind, times_argon2Memory,
        ok_bind]
      split_ifs <;> rfl

/-- Reads a slice of the fields, which has to have four of them. -/
def readCarefully (family : Family) : List String → Except Halt Cost
  | [a, b, c, keyLength] => do
    let keyLength ← orRefused (number64 .keyLength keyLength)
    match family with
    | .scrypt =>
      let n ← orRefused (number64 .n a)
      if isScryptN n then
        let r ← orRefused (number32 .r b)
        let p ← orRefused (number32 .p c)
        checkedCarefully (.scrypt n r p keyLength)
      else .error (.refused .scryptCost)
    | .argon2 =>
      let time ← orRefused (number32 .time a)
      let memory ← orRefused (number32 .memory b)
      let threads ← orRefused (number32 .threads c)
      checkedCarefully (.argon2 time memory threads keyLength)
    | .bcrypt => .error (.refused .unknownAlgorithm)
  | fs => .error (.refused (.fieldCount fs.length))

theorem readCarefully_eq (family : Family) (a b c keyLength : String) :
    readCarefully family [a, b, c, keyLength] = orRefused (read family a b c keyLength) := by
  cases family with
  | scrypt =>
      rw [read_scrypt]
      simp only [readCarefully, orRefused_bind, checkedCarefully_eq]
      congr 1
      funext k
      congr 1
      funext n
      split <;> simp only [orRefused_bind, orRefused_error]
  | argon2 => simp only [readCarefully, read, orRefused_bind, checkedCarefully_eq]
  | bcrypt => simp only [readCarefully, read, orRefused_bind, orRefused_error]

end HashText.Cost

/-! ### The whole text -/

namespace KeyHash

/-- Reads from all the fields, the identifier among them, after counting them. -/
def ofFieldsCarefully (algorithm : Algorithm) (fs : List String) : Except Halt KeyHash :=
  if fs.length = maskedFieldCount then do
    let salt ← fieldAt fs 1
    let digest ← fieldAt fs 2
    let salt ← orRefused (readBase64 .salt salt)
    let digest ← orRefused (readBase64 .digest digest)
    .ok { algorithm, salt, cost := none, digest }
  else if fs.length = publicFieldCount then do
    let salt ← fieldAt fs 1
    let slice ← fieldsBetween fs 2 6
    let cost ← Cost.readCarefully algorithm.family slice
    let digest ← fieldAt fs 6
    let salt ← orRefused (readBase64 .salt salt)
    let digest ← orRefused (readBase64 .digest digest)
    if cost.keyLength.toNat = digest.length then .ok { algorithm, salt, cost := some cost, digest }
    else .error (.refused .keyLength)
  else .error (.refused (.fieldCount fs.length))

theorem ofFieldsCarefully_masked (algorithm : Algorithm) (identifier salt digest : String) :
    ofFieldsCarefully algorithm [identifier, salt, digest] = (do
      let salt ← orRefused (readBase64 .salt salt)
      let digest ← orRefused (readBase64 .digest digest)
      .ok { algorithm, salt, cost := none, digest }) := rfl

theorem ofFieldsCarefully_described (algorithm : Algorithm)
    (identifier salt a b c keyLength digest : String) :
    ofFieldsCarefully algorithm [identifier, salt, a, b, c, keyLength, digest] = (do
      let cost ← Cost.readCarefully algorithm.family [a, b, c, keyLength]
      let salt ← orRefused (readBase64 .salt salt)
      let digest ← orRefused (readBase64 .digest digest)
      if cost.keyLength.toNat = digest.length then
        .ok { algorithm, salt, cost := some cost, digest }
      else .error (.refused .keyLength)) := rfl

theorem ofFieldsCarefully_eq (algorithm : Algorithm) (identifier : String) (rest : List String) :
    ofFieldsCarefully algorithm (identifier :: rest) = orRefused (ofFields algorithm rest) := by
  -- the reader tells the layouts apart by the shape of the list, the careful one by its length
  unfold ofFields
  split
  · rename_i salt digest
    rw [ofFieldsCarefully_masked]
    simp only [orRefused_bind, orRefused_ok]
  · rename_i salt a b c keyLength digest
    rw [ofFieldsCarefully_described]
    simp only [orRefused_bind, Cost.readCarefully_eq, apply_ite orRefused, orRefused_ok,
      orRefused_error]
  · rename_i hmasked hdescribed
    have htwo : rest.length ≠ 2 := by
      intro hlength
      obtain ⟨salt, digest, rfl⟩ := List.length_eq_two.1 hlength
      exact hmasked salt digest rfl
    have hsix : rest.length ≠ 6 := by
      intro hlength
      match rest, hlength with
      | [salt, a, b, c, keyLength, digest], _ => exact hdescribed _ _ _ _ _ _ rfl
    rw [ofFieldsCarefully, List.length_cons, if_neg (by simpa [maskedFieldCount] using htwo),
      if_neg (by simpa [publicFieldCount] using hsix), orRefused_error]

end KeyHash

namespace HashText

def parseCarefully (text : String) : Except Halt HashText := do
  let fs ← orRefused (fields text)
  let identifier ← fieldAt fs 0
  match Algorithm.ofIdentifier? identifier with
  | none => .error (.refused .unknownAlgorithm)
  | some .bcrypt =>
    if fs.length = bcryptFieldCount then .ok (.bcrypt text)
    else .error (.refused (.fieldCount fs.length))
  | some algorithm => .key <$> KeyHash.ofFieldsCarefully algorithm fs

/-- Reading ends with what the reader gives and in no other way. -/
theorem parseCarefully_eq (text : String) : parseCarefully text = orRefused (parse text) := by
  cases hfields : fields text with
  | error e =>
      rw [parseCarefully, parse, hfields]
      rfl
  | ok fs =>
      -- there is a field to look up, because a text that is split has at least one
      obtain ⟨identifier, rest, rfl⟩ := List.exists_cons_of_ne_nil (of_fields_eq_ok hfields).1
      have hfirst : fieldAt (identifier :: rest) 0 = .ok identifier := rfl
      rw [parse_of_fields hfields, parseCarefully, hfields, orRefused_ok, ok_bind, hfirst, ok_bind]
      cases Algorithm.ofIdentifier? identifier with
      | none => rfl
      | some algorithm =>
          cases algorithm with
          | bcrypt =>
              simp only [apply_ite orRefused, orRefused_ok, orRefused_error, List.length_cons]
          | scrypt =>
              simp only [KeyHash.ofFieldsCarefully_eq, orRefused_map]
          | argon2 variant =>
              simp only [KeyHash.ofFieldsCarefully_eq, orRefused_map]

end HashText

end PasswordHashing
