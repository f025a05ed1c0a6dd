import PasswordHashing.Proofs.HashText.Grammar

/-!
Writing a hash and reading it back. Writing checks nothing, so some hashes have texts that
no reader accepts: a salt or digest that is empty leaves an empty field, and cost numbers
can be out of limits or belong to another family. Main statement: a hash comes back
exactly if none of this is the case, and as long as its numbers are of its own family what
comes back is the hash itself or an error.
-/

namespace PasswordHashing

open HashText

namespace KeyHash

/-- The cost numbers, where there are any, are of the algorithm's family. -/
def FamilyFits (hash : KeyHash) : Prop :=
  ∀ cost, hash.cost = some cost → cost.family = hash.algorithm.family

/-! ### What is written -/

/-- The fields of the text after the identifier. -/
def written (hash : KeyHash) : List String := hash.fields.tail

theorem encode_eq_join (hash : KeyHash) :
    hash.encode = join (hash.algorithm.identifier :: hash.written) := rfl

theorem spelledBy_written (hash : KeyHash) : hash.SpelledBy hash.written := by
  have hbase64 (bytes : Bytes) :
      Base64.standard.Spells (String.ofList (Base64.standard.encode bytes)).toList bytes := by
    rw [String.toList_ofList]
    exact Base64.standard.spells_encode bytes
  obtain ⟨algorithm, salt, cost, digest⟩ := hash
  cases cost with
  | none => exact .masked (hbase64 salt) (hbase64 digest)
  | some cost =>
      obtain ⟨a, b, c, keyLength, hwrite, hcost⟩ := cost.exists_write_eq
      have hfields : written { algorithm, salt, cost := some cost, digest } =
          [String.ofList (Base64.standard.encode salt), a, b, c, keyLength,
            String.ofList (Base64.standard.encode digest)] := by
        simp [written, fields, hwrite]
      rw [hfields]
      exact .described (hbase64 salt) (hbase64 digest) hcost

theorem grammar_encode {hash : KeyHash} (h : hash.WellFormed) :
    Grammar hash.encode (.key hash) := by
  rw [encode_eq_join]
  refine .key h.algorithm_ne hash.spelledBy_written h.cost_fits ?_
  rw [hash.spelledBy_written.forall_ne_empty_iff]
  exact ⟨h.salt_ne, h.digest_ne⟩

/-! ### What it is read as -/

/-- The fields that are read are the ones that were written. -/
theorem of_grammar_encode {hash : KeyHash} {parsed : HashText}
    (hbcrypt : hash.algorithm ≠ .bcrypt) (h : Grammar hash.encode parsed) :
    ∃ other : KeyHash, parsed = .key other ∧ other.algorithm = hash.algorithm ∧
      other.SpelledBy hash.written ∧ other.CostFits := by
  rw [encode_eq_join] at h
  exact key_of_grammar_join hbcrypt hash.spelledBy_written.separator_not_mem h

theorem eq_of_grammar_encode {hash : KeyHash} {parsed : HashText}
    (hbcrypt : hash.algorithm ≠ .bcrypt) (hfamily : hash.FamilyFits)
    (h : Grammar hash.encode parsed) : parsed = .key hash := by
  obtain ⟨other, rfl, halgorithm, hspelled, hfits⟩ := of_grammar_encode hbcrypt h
  have hsame : hash = other := by
    apply hash.spelledBy_written.unique hspelled halgorithm.symm
    intro cost cost' hcost hcost'
    rw [hfamily cost hcost, (hfits cost' hcost').1, halgorithm]
  rw [hsame]

theorem parse_encode {hash : KeyHash} (h : hash.WellFormed) :
    parse hash.encode = .ok (.key hash) :=
  parse_of_grammar (grammar_encode h)

/-- Nothing else can be read from the text of a hash that does not come back. -/
theorem parse_encode_eq_error {hash : KeyHash} (hbcrypt : hash.algorithm ≠ .bcrypt)
    (hfamily : hash.FamilyFits) (h : ¬hash.WellFormed) : ∃ e, parse hash.encode = .error e := by
  cases hparse : parse hash.encode with
  | error e => exact ⟨e, rfl⟩
  | ok parsed =>
      have hgrammar := grammar_of_parse hparse
      rw [eq_of_grammar_encode hbcrypt hfamily hgrammar] at hgrammar
      exact absurd (wellFormed_of_grammar hgrammar) h

theorem parse_encode_of_salt_eq_nil {hash : KeyHash} (h : hash.salt = []) :
    parse hash.encode = .error .emptyField := by
  have hempty : "" ∈ hash.algorithm.identifier :: hash.written := by
    refine List.mem_cons_of_mem _ ?_
    rw [written, fields, h]
    exact List.mem_cons_self
  rw [parse, encode_eq_join, fields_join_of_no_separator (by simp)
    hash.spelledBy_written.separator_not_mem_cons, if_pos hempty]
  rfl

theorem parse_encode_eq_ofFields {hash : KeyHash} (hbcrypt : hash.algorithm ≠ .bcrypt)
    (hsalt : hash.salt ≠ []) (hdigest : hash.digest ≠ []) :
    parse hash.encode = .key <$> ofFields hash.algorithm hash.written :=
  parse_join_of_spelledBy hbcrypt hash.spelledBy_written
    (hash.spelledBy_written.forall_ne_empty_iff.2 ⟨hsalt, hdigest⟩)

/-- Cost numbers are the first thing that is read, so nothing else can be found wrong before. -/
theorem parse_encode_of_not_withinLimits {hash : KeyHash} {cost : Cost}
    (hbcrypt : hash.algorithm ≠ .bcrypt) (hsalt : hash.salt ≠ []) (hdigest : hash.digest ≠ [])
    (hcost : hash.cost = some cost) (hfamily : cost.family = hash.algorithm.family)
    (hlimits : ¬cost.WithinLimits) :
    (¬cost.PowerOfTwo ∧ parse hash.encode = .error .scryptCost) ∨
      ∃ field, cost.overrun? = some field ∧ parse hash.encode = .error (.costLimit field) := by
  rw [parse_encode_eq_ofFields hbcrypt hsalt hdigest]
  have hspelled := hash.spelledBy_written
  generalize hash.written = rest at hspelled
  cases hspelled with
  | masked => cases hcost
  | described _ _ hspelled =>
      cases hcost
      rw [ofFields, ← hfamily]
      rcases Cost.read_of_not_withinLimits hspelled hlimits with
        ⟨hpower, hread⟩ | ⟨field, hfield, hread⟩
      · rw [hread]
        exact .inl ⟨hpower, rfl⟩
      · rw [hread]
        exact .inr ⟨field, hfield, rfl⟩

/-- A hash comes back from its text exactly if it is well formed; if its cost numbers are of
its family, nothing else comes back. -/
theorem parse_encode_iff_wellFormed (hash : KeyHash) :
    (parse hash.encode = .ok (.key hash) ↔ hash.WellFormed) ∧
      (hash.algorithm ≠ .bcrypt → hash.FamilyFits →
        parse hash.encode = .ok (.key hash) ∨ ∃ e, parse hash.encode = .error e) := by
  constructor
  · constructor
    · intro h
      exact wellFormed_of_grammar (grammar_of_parse h)
    · exact parse_encode
  · intro hbcrypt hfamily
    by_cases h : hash.WellFormed
    · exact .inl (parse_encode h)
    · exact .inr (parse_encode_eq_error hbcrypt hfamily h)

end KeyHash

end PasswordHashing
