import PasswordHashing.Proofs.Profile.ReadBack

/-!
The settings that a hash describes. Scrypt and Argon2 each look at a hash on their own, for an
algorithm and numbers of theirs, and scrypt turns its cost into an exponent that has to fit a
byte. Main statement: a hash that was read with its numbers describes settings for exactly one
of the two, those of its algorithm and its numbers with nothing else in them; and settings that
wrote their numbers come back from the hash that they wrote, so the cost of scrypt that is
written is always a power of two and never the word that stands for one too great.
-/

namespace PasswordHashing

open HashText

namespace KeyDerivation

theorem trailingZeros_le (n : UInt64) : trailingZeros n ≤ 64 := by
  rw [trailingZeros, BitVec.ctz_eq_reverse_clz]
  exact BitVec.clz_le

/-- The exponent of a power of two as a byte, if it is one. -/
def exponent? (n : UInt64) : Option UInt8 :=
  if trailingZeros n < UInt8.size then some (.ofNat (trailingZeros n)) else none

theorem exponent?_eq (n : UInt64) : exponent? n = some (.ofNat (trailingZeros n)) := by
  have hle := trailingZeros_le n
  have hlt : trailingZeros n < UInt8.size := by
    simp only [UInt8.size]
    omega
  exact if_pos hlt

end KeyDerivation

namespace KeySettings

/-- The settings of scrypt that a hash describes. -/
def ofScryptHash? (hash : KeyHash) : Option KeySettings :=
  match hash.algorithm, hash.cost with
  | .scrypt, some (.scrypt n r p keyLength) =>
    (KeyDerivation.exponent? n).map fun logN => { function := .scrypt logN r p, keyLength }
  | _, _ => none

/-- The settings of Argon2 that a hash describes. -/
def ofArgon2Hash? (hash : KeyHash) : Option KeySettings :=
  match hash.algorithm, hash.cost with
  | .argon2 variant, some (.argon2 time memory threads keyLength) =>
    some { function := .argon2 variant time memory threads, keyLength }
  | _, _ => none

/-- One of the two has these settings for the hash, and the other one has none. -/
inductive ReadFrom (hash : KeyHash) (s : KeySettings) : Prop
  | scrypt (hscrypt : ofScryptHash? hash = some s) (hargon2 : ofArgon2Hash? hash = none) :
      ReadFrom hash s
  | argon2 (hscrypt : ofScryptHash? hash = none) (hargon2 : ofArgon2Hash? hash = some s) :
      ReadFrom hash s

/-- The algorithm and the numbers are those of the hash, and there is nothing else: the numbers
are not masked, and neither a secret nor a salt is held. -/
structure DescribedBy (s : KeySettings) (hash : KeyHash) : Prop where
  algorithm_eq : s.algorithm = hash.algorithm
  cost_eq : hash.cost = some s.cost
  hasCost : s.function.HasCost s.keyLength s.cost
  saltLength_eq : s.saltLength = 16
  masked_eq : s.masked = false
  pinnedSalt_eq : s.pinnedSalt = none
  secret_eq : s.secret = none

variable {hash : KeyHash} {s : KeySettings}

/-! ### One of the two -/

theorem ofScryptHash?_eq (hash : KeyHash) :
    ofScryptHash? hash = if hash.algorithm = .scrypt then ofHash? hash else none := by
  obtain ⟨algorithm, salt, cost, digest⟩ := hash
  cases algorithm with
  | bcrypt => rfl
  | argon2 variant => rfl
  | scrypt =>
      rcases cost with _ | ⟨n, r, p, keyLength⟩ | ⟨time, memory, threads, keyLength⟩
      · rfl
      · simp only [ofScryptHash?, KeyDerivation.exponent?_eq]
        rfl
      · rfl

theorem ofArgon2Hash?_eq (hash : KeyHash) :
    ofArgon2Hash? hash = if hash.algorithm = .scrypt then none else ofHash? hash := by
  obtain ⟨algorithm, salt, cost, digest⟩ := hash
  cases algorithm with
  | bcrypt => rcases cost with _ | _ | _ <;> rfl
  | scrypt => rcases cost with _ | _ | _ <;> rfl
  | argon2 variant => rcases cost with _ | _ | _ <;> rfl

/-- A comparison looks for settings of scrypt first. -/
theorem ofHash?_eq_or (hash : KeyHash) :
    ofHash? hash = (ofScryptHash? hash).or (ofArgon2Hash? hash) := by
  rw [ofScryptHash?_eq, ofArgon2Hash?_eq]
  by_cases hscrypt : hash.algorithm = .scrypt
  · rw [if_pos hscrypt, if_pos hscrypt, Option.or_none]
  · rw [if_neg hscrypt, if_neg hscrypt, Option.none_or]

/-- No hash describes settings for both. -/
theorem eq_none_or_eq_none (hash : KeyHash) :
    ofScryptHash? hash = none ∨ ofArgon2Hash? hash = none := by
  by_cases hscrypt : hash.algorithm = .scrypt
  · right
    rw [ofArgon2Hash?_eq, if_pos hscrypt]
  · left
    rw [ofScryptHash?_eq, if_neg hscrypt]

/-- What a comparison goes by is what one of the two has. -/
theorem readFrom_iff : ReadFrom hash s ↔ ofHash? hash = some s := by
  rw [ofHash?_eq_or]
  constructor
  · rintro (⟨hscrypt, hargon2⟩ | ⟨hscrypt, hargon2⟩)
    · rw [hscrypt, Option.some_or]
    · rw [hscrypt, hargon2, Option.none_or]
  · intro h
    rcases eq_none_or_eq_none hash with hscrypt | hargon2
    · rw [hscrypt, Option.none_or] at h
      exact .argon2 hscrypt h
    · rw [hargon2, Option.or_none] at h
      exact .scrypt h hargon2

/-! ### From the hash to the settings -/

theorem describedBy_iff (hfits : hash.CostFits) : s.DescribedBy hash ↔ ofHash? hash = some s := by
  rw [ofHash?_eq_some_iff hfits]
  constructor
  · intro h
    refine ⟨s.function, s.keyLength, ?_, h.algorithm_eq, h.cost_eq⟩
    obtain ⟨function, keyLength, saltLength, masked, pinnedSalt, secret⟩ := s
    obtain rfl : saltLength = 16 := h.saltLength_eq
    obtain rfl : masked = false := h.masked_eq
    obtain rfl : pinnedSalt = none := h.pinnedSalt_eq
    obtain rfl : secret = none := h.secret_eq
    rfl
  · rintro ⟨f, keyLength, rfl, halgorithm, hcost⟩
    have hpower := (hfits _ hcost).2.1.1
    exact ⟨halgorithm, hcost, KeyDerivation.hasCost_cost_of_powerOfTwo hpower, rfl, rfl, rfl, rfl⟩

theorem exists_readFrom_of_parse {text : String} (hparse : parse text = .ok (.key hash))
    (hmasked : hash.isMasked = false) :
    ∃ s, ReadFrom hash s ∧ ∀ other : KeySettings, other.DescribedBy hash ↔ other = s := by
  obtain ⟨f, keyLength, hs, -⟩ := exists_function_of_parse hparse hmasked
  refine ⟨{ function := f, keyLength }, readFrom_iff.2 hs, ?_⟩
  intro other
  rw [describedBy_iff (wellFormed_of_parse hparse).cost_fits, hs, Option.some.injEq, eq_comm]

/-! ### From the settings to the hash and back -/

variable {password salt digest : Bytes}

/-- The ceilings of a text do not come into it, nor does a salt that is empty. -/
theorem ofHash?_hashOf (h : s.digest password salt = .ok digest) (hmasked : s.masked = false) :
    ofHash? (s.hashOf salt digest) = some { function := s.function, keyLength := s.keyLength } := by
  have hcost : (s.hashOf salt digest).cost = some s.cost :=
    hashOf_cost_eq_some_iff.2 ⟨hmasked, rfl⟩
  have hfunction : KeyDerivation.ofCost? (s.hashOf salt digest).algorithm s.cost =
      some s.function := KeyDerivation.ofCost?_cost (KeyDerivation.hasCost_cost_of_derive h)
  have hlength : s.cost.keyLength = s.keyLength := s.function.cost_keyLength s.keyLength
  rw [ofHash?, hcost, Option.bind_eq_bind, Option.bind_some, hfunction, hlength]
  rfl

/-- The cost field of scrypt is the power of two that its exponent stands for. -/
theorem encode_hashOf_scrypt {logN : UInt8} {r p : UInt32} (h : s.digest password salt = .ok digest)
    (hmasked : s.masked = false) (hfunction : s.function = .scrypt logN r p) :
    logN.toNat < 64 ∧
      (s.hashOf salt digest).encode =
        join ["2s", String.ofList (Base64.standard.encode salt), (2 ^ logN.toNat).repr,
          r.toNat.repr, p.toNat.repr, s.keyLength.toNat.repr,
          String.ofList (Base64.standard.encode digest)] := by
  obtain ⟨function, keyLength, saltLength, masked, pinnedSalt, secret⟩ := s
  obtain rfl : function = .scrypt logN r p := hfunction
  obtain rfl : masked = false := hmasked
  have hlogN : logN.toNat < 64 := KeyDerivation.logN_lt_of_derive h
  refine ⟨hlogN, ?_⟩
  rw [← KeyDerivation.scryptN_toNat hlogN]
  rfl

/-- A hash that was read with its numbers describes settings for exactly one of scrypt and
Argon2. They are the only ones that have its algorithm and its numbers and nothing else, and a
comparison goes by them. Settings that write their numbers come back from the hash that they
wrote, whether or not its text can be read again, and the cost that scrypt wrote is a power of
two. -/
theorem settings_come_back_from_hash :
    (∀ hash, ofHash? hash = (ofScryptHash? hash).or (ofArgon2Hash? hash) ∧
      ∀ s, ofHash? hash = some s ↔ ReadFrom hash s) ∧
    (∀ text hash, parse text = .ok (.key hash) → hash.isMasked = false →
      ∃ s, ReadFrom hash s ∧ ∀ other : KeySettings, other.DescribedBy hash ↔ other = s) ∧
    ∀ (s : KeySettings) (password fresh : Bytes) (text : String), s.masked = false →
      s.hash password fresh = .ok text →
      ∃ hash, s.IsHashOf password (s.pinnedSalt.getD fresh) hash ∧ hash.encode = text ∧
        ReadFrom hash { function := s.function, keyLength := s.keyLength } ∧
        (∀ parsed, parse text = .ok parsed → parsed = .key hash) ∧
        ∀ logN r p, s.function = .scrypt logN r p → logN.toNat < 64 ∧
          text = join ["2s", String.ofList (Base64.standard.encode hash.salt),
            (2 ^ logN.toNat).repr, r.toNat.repr, p.toNat.repr, s.keyLength.toNat.repr,
            String.ofList (Base64.standard.encode hash.digest)] := by
  refine ⟨?_, ?_, ?_⟩
  · intro hash
    exact ⟨ofHash?_eq_or hash, fun _ => readFrom_iff.symm⟩
  · intro text hash hparse hmasked
    exact exists_readFrom_of_parse hparse hmasked
  · intro s password fresh text hmasked hhash
    obtain ⟨digest, hdigest, rfl⟩ := hash_eq_ok_iff.1 hhash
    have hback := readFrom_iff.2 (ofHash?_hashOf hdigest hmasked)
    refine ⟨_, isHashOf_hashOf hdigest, rfl, hback, ?_, ?_⟩
    · intro parsed hparse
      exact eq_of_parse_encode_hashOf hdigest hparse
    · intro logN r p hfunction
      exact encode_hashOf_scrypt hdigest hmasked hfunction

/-- A text may name numbers that no key is derived with, and a hash may have a cost of one, which
no text may name. Both come back. -/
theorem cost_one_comes_back_from_hash :
    (∃ hash s, parse "$2s$c2FsdA$2$1$1$6$ZGlnZXN0" = .ok (.key hash) ∧ ReadFrom hash s ∧
      s.DescribedBy hash) ∧
    ∃ text hash,
      KeySettings.hash
        { function := .scrypt 0 1 1, keyLength := 10, saltLength := 1, secret := some [1] } [] [1] =
        .ok text ∧ hash.encode = text ∧
      ReadFrom hash { function := .scrypt 0 1 1, keyLength := 10 } := by
  constructor
  · obtain ⟨hash, hparse⟩ : ∃ hash, parse "$2s$c2FsdA$2$1$1$6$ZGlnZXN0" = .ok (.key hash) :=
      ⟨_, rfl⟩
    have hmasked : hash.isMasked = false := by
      cases hparse
      rfl
    obtain ⟨s, hs, hdescribed⟩ := settings_come_back_from_hash.2.1 _ _ hparse hmasked
    exact ⟨hash, s, hparse, hs, (hdescribed s).2 rfl⟩
  · obtain ⟨text, hhash⟩ : ∃ text,
        KeySettings.hash
        { function := .scrypt 0 1 1, keyLength := 10, saltLength := 1, secret := some [1] } [] [1] =
          .ok text := ⟨_, rfl⟩
    obtain ⟨hash, -, hencode, hs, -⟩ := settings_come_back_from_hash.2.2 _ _ _ _ rfl hhash
    exact ⟨text, hash, hhash, hencode, hs⟩

end KeySettings

end PasswordHashing
