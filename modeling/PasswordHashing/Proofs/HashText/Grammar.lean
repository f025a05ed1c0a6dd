import PasswordHashing.HashText
import PasswordHashing.Proofs.HashText.Cost
import PasswordHashing.Proofs.HashText.Fields
import PasswordHashing.Proofs.Text.Base64

/-!
The grammar of hash texts, beside the reader. A bcrypt text is an identifier and two fields
of any content; the text of a derived key is an identifier, a salt and a digest, with four
cost fields between the two or without them. Main statement: the reader accepts exactly
the texts of the grammar, with the one meaning that the grammar gives them, and refuses
every other text.
-/

namespace PasswordHashing

theorem map_eq_ok_iff {ε α β : Type} {x : Except ε α} {f : α → β} {b : β} :
    f <$> x = .ok b ↔ ∃ a, x = .ok a ∧ f a = b := by
  cases x with
  | error e => simp [Functor.map, Except.map]
  | ok a => simp [Functor.map, Except.map]

namespace Algorithm

theorem ofIdentifier?_eq_bcrypt_iff {text : String} :
    ofIdentifier? text = some .bcrypt ↔ text ∈ bcryptIdentifiers := by
  constructor
  · intro h
    unfold ofIdentifier? at h
    split at h
    · cases h
    split at h
    · cases h
    split at h
    · cases h
    split at h
    · assumption
    · cases h
  · intro h
    simp only [bcryptIdentifiers, List.mem_cons, List.not_mem_nil, or_false] at h
    rcases h with rfl | rfl | rfl | rfl <;> rfl

theorem ofIdentifier?_eq_some_iff {text : String} {a : Algorithm} (ha : a ≠ .bcrypt) :
    ofIdentifier? text = some a ↔ text = a.identifier := by
  constructor
  · intro h
    unfold ofIdentifier? at h
    split at h
    · cases h
      assumption
    split at h
    · cases h
      assumption
    split at h
    · cases h
      assumption
    split at h
    · exact absurd (Option.some.inj h).symm ha
    · cases h
  · rintro rfl
    exact ofIdentifier?_identifier a

theorem identifier_injective {a b : Algorithm} (h : a.identifier = b.identifier) : a = b := by
  have hb := ofIdentifier?_identifier b
  rw [← h, ofIdentifier?_identifier a] at hb
  exact Option.some.inj hb

end Algorithm

namespace KeyHash

open HashText

/-! ### Fields and what they spell -/

/-- The fields that follow the identifier spell the salt, the cost numbers and the digest. -/
inductive SpelledBy : KeyHash → List String → Prop
  | masked {algorithm : Algorithm} {salt digest : Bytes} {s d : String}
      (hsalt : Base64.standard.Spells s.toList salt)
      (hdigest : Base64.standard.Spells d.toList digest) :
      SpelledBy { algorithm, salt, cost := none, digest } [s, d]
  | described {algorithm : Algorithm} {salt digest : Bytes} {cost : Cost}
      {s a b c keyLength d : String} (hsalt : Base64.standard.Spells s.toList salt)
      (hdigest : Base64.standard.Spells d.toList digest)
      (hcost : cost.SpelledBy a b c keyLength) :
      SpelledBy { algorithm, salt, cost := some cost, digest } [s, a, b, c, keyLength, d]

/-- Cost numbers, where there are any, are of the algorithm's family, within its limits,
and name the length that the digest has. -/
def CostFits (hash : KeyHash) : Prop :=
  ∀ cost, hash.cost = some cost → cost.family = hash.algorithm.family ∧ cost.WithinLimits ∧
    cost.keyLength.toNat = hash.digest.length

/-- A hash of a key derivation that a text can hold. -/
structure WellFormed (hash : KeyHash) : Prop where
  algorithm_ne : hash.algorithm ≠ .bcrypt
  salt_ne : hash.salt ≠ []
  digest_ne : hash.digest ≠ []
  cost_fits : hash.CostFits

theorem SpelledBy.unique {hash other : KeyHash} {rest : List String} (h : hash.SpelledBy rest)
    (h' : other.SpelledBy rest) (halgorithm : hash.algorithm = other.algorithm)
    (hfamily : ∀ cost cost', hash.cost = some cost → other.cost = some cost' →
      cost.family = cost'.family) : hash = other := by
  cases h with
  | masked hsalt hdigest =>
      cases h' with
      | masked hsalt' hdigest' =>
          simp only at halgorithm
          rw [halgorithm, hsalt.bytes_unique hsalt', hdigest.bytes_unique hdigest']
  | described hsalt hdigest hcost =>
      cases h' with
      | described hsalt' hdigest' hcost' =>
          simp only at halgorithm
          rw [halgorithm, hsalt.bytes_unique hsalt', hdigest.bytes_unique hdigest',
            hcost.unique hcost' (hfamily _ _ rfl rfl)]

theorem readBase64_eq_ok_iff {field : BinaryField} {text : String} {bytes : Bytes} :
    readBase64 field text = .ok bytes ↔ Base64.standard.Spells text.toList bytes := by
  rw [← Base64.decode?_eq_some_iff_spells, readBase64]
  cases Base64.standard.decode? text.toList with
  | none => simp
  | some decoded => simp

theorem ofFields_eq_ok_iff {algorithm : Algorithm} {rest : List String} {hash : KeyHash} :
    ofFields algorithm rest = .ok hash ↔
      hash.algorithm = algorithm ∧ hash.SpelledBy rest ∧ hash.CostFits := by
  constructor
  · intro h
    unfold ofFields at h
    split at h
    · simp only [bind_eq_ok_iff, readBase64_eq_ok_iff] at h
      obtain ⟨salt, hsalt, digest, hdigest, h⟩ := h
      cases h
      exact ⟨rfl, .masked hsalt hdigest, fun cost hcost => by cases hcost⟩
    · simp only [bind_eq_ok_iff, readBase64_eq_ok_iff, Cost.read_eq_ok_iff] at h
      obtain ⟨cost, ⟨hfamily, hcost, hlimits⟩, salt, hsalt, digest, hdigest, h⟩ := h
      split at h
      · rename_i hlength
        cases h
        refine ⟨rfl, .described hsalt hdigest hcost, ?_⟩
        rintro _ ⟨⟩
        exact ⟨hfamily, hlimits, hlength⟩
      · cases h
    · cases h
  · rintro ⟨rfl, hspelled, hfits⟩
    cases hspelled with
    | masked hsalt hdigest =>
        simp only [ofFields, bind_eq_ok_iff, readBase64_eq_ok_iff]
        exact ⟨_, hsalt, _, hdigest, rfl⟩
    | described hsalt hdigest hcost =>
        obtain ⟨hfamily, hlimits, hlength⟩ := hfits _ rfl
        simp only [ofFields, bind_eq_ok_iff, readBase64_eq_ok_iff, Cost.read_eq_ok_iff]
        exact ⟨_, ⟨hfamily, hcost, hlimits⟩, _, hsalt, _, hdigest, if_pos hlength⟩

end KeyHash

/-! ### Fields that can stand in a text -/

namespace HashText

theorem separator_not_mem_of_base64 {text : List Char} {bytes : Bytes}
    (h : Base64.standard.Spells text bytes) : separator ∉ text := by
  intro hmem
  exact absurd (h.mem_symbols _ hmem) (by decide)

theorem separator_not_mem_encode (bytes : Bytes) :
    separator ∉ (String.ofList (Base64.standard.encode bytes)).toList := by
  rw [String.toList_ofList]
  exact separator_not_mem_of_base64 (Base64.standard.spells_encode bytes)

theorem isField_of_decimal {text : String} {n : Nat} (h : Decimal.Spells text n) :
    IsField text := by
  refine ⟨h.1.1, ?_⟩
  intro hmem
  exact absurd (h.1.2 _ hmem) (by decide)

theorem Cost.SpelledBy.isField {cost : Cost} {a b c keyLength : String}
    (h : cost.SpelledBy a b c keyLength) :
    IsField a ∧ IsField b ∧ IsField c ∧ IsField keyLength := by
  cases cost with
  | scrypt n r p k =>
      obtain ⟨hn, hr, hp, hk⟩ := h
      exact ⟨isField_of_decimal hn, isField_of_decimal hr, isField_of_decimal hp,
        isField_of_decimal hk⟩
  | argon2 time memory threads k =>
      obtain ⟨ht, hm, hp, hk⟩ := h
      exact ⟨isField_of_decimal ht, isField_of_decimal hm, isField_of_decimal hp,
        isField_of_decimal hk⟩

end HashText

open HashText

theorem KeyHash.SpelledBy.separator_not_mem {hash : KeyHash} {rest : List String}
    (h : hash.SpelledBy rest) : ∀ field ∈ rest, separator ∉ field.toList := by
  intro field hfield
  cases h with
  | masked hsalt hdigest =>
      simp only [List.mem_cons, List.not_mem_nil, or_false] at hfield
      rcases hfield with rfl | rfl
      · exact separator_not_mem_of_base64 hsalt
      · exact separator_not_mem_of_base64 hdigest
  | described hsalt hdigest hcost =>
      obtain ⟨ha, hb, hc, hk⟩ := hcost.isField
      simp only [List.mem_cons, List.not_mem_nil, or_false] at hfield
      rcases hfield with rfl | rfl | rfl | rfl | rfl | rfl
      · exact separator_not_mem_of_base64 hsalt
      · exact ha.2
      · exact hb.2
      · exact hc.2
      · exact hk.2
      · exact separator_not_mem_of_base64 hdigest

/-- Salt and digest are the only fields that can come out empty. -/
theorem KeyHash.SpelledBy.forall_ne_empty_iff {hash : KeyHash} {rest : List String}
    (h : hash.SpelledBy rest) :
    (∀ field ∈ rest, field ≠ "") ↔ hash.salt ≠ [] ∧ hash.digest ≠ [] := by
  have hbase64 {text : String} {bytes : Bytes}
      (h : Base64.standard.Spells text.toList bytes) : text ≠ "" ↔ bytes ≠ [] := by
    rw [ne_eq, ne_eq, ← h.eq_nil_iff, String.toList_eq_nil_iff]
  cases h with
  | masked hsalt hdigest =>
      simp only [List.forall_mem_cons, List.not_mem_nil, false_imp_iff, implies_true, and_true]
      rw [hbase64 hsalt, hbase64 hdigest]
  | described hsalt hdigest hcost =>
      obtain ⟨ha, hb, hc, hk⟩ := hcost.isField
      simp only [List.forall_mem_cons, List.not_mem_nil, false_imp_iff, implies_true, and_true]
      rw [hbase64 hsalt, hbase64 hdigest]
      constructor
      · rintro ⟨hs, -, -, -, -, hd⟩
        exact ⟨hs, hd⟩
      · rintro ⟨hs, hd⟩
        exact ⟨hs, ha.ne_empty, hb.ne_empty, hc.ne_empty, hk.ne_empty, hd⟩

theorem Algorithm.isField_identifier (a : Algorithm) : IsField a.identifier := by
  rcases a with _ | _ | ⟨_ | _⟩ <;> decide

theorem Algorithm.isField_of_mem_bcryptIdentifiers {identifier : String}
    (h : identifier ∈ bcryptIdentifiers) : IsField identifier := by
  revert identifier
  decide

theorem Algorithm.identifier_not_mem_bcryptIdentifiers {a : Algorithm} (h : a ≠ .bcrypt) :
    a.identifier ∉ bcryptIdentifiers := by
  rw [← ofIdentifier?_eq_bcrypt_iff, ofIdentifier?_identifier]
  exact mt Option.some.inj h

theorem HashText.isField_of_bcrypt {identifier cost payload : String}
    (hidentifier : identifier ∈ Algorithm.bcryptIdentifiers) (hcost : IsField cost)
    (hpayload : IsField payload) : ∀ field ∈ [identifier, cost, payload], IsField field := by
  rw [List.forall_mem_cons, List.forall_mem_cons, List.forall_mem_singleton]
  exact ⟨Algorithm.isField_of_mem_bcryptIdentifiers hidentifier, hcost, hpayload⟩

theorem KeyHash.SpelledBy.separator_not_mem_cons {hash : KeyHash} {rest : List String}
    (h : hash.SpelledBy rest) :
    ∀ field ∈ hash.algorithm.identifier :: rest, separator ∉ field.toList := by
  rw [List.forall_mem_cons]
  exact ⟨hash.algorithm.isField_identifier.2, h.separator_not_mem⟩

theorem KeyHash.SpelledBy.fields_join {hash : KeyHash} {rest : List String}
    (h : hash.SpelledBy rest) (hne : ∀ field ∈ rest, field ≠ "") :
    HashText.fields (join (hash.algorithm.identifier :: rest)) =
      .ok (hash.algorithm.identifier :: rest) := by
  apply HashText.fields_join (by simp)
  intro field hfield
  rcases List.mem_cons.1 hfield with rfl | hfield
  · exact hash.algorithm.isField_identifier
  · refine ⟨?_, h.separator_not_mem field hfield⟩
    simpa using hne field hfield

namespace HashText

/-! ### The grammar -/

/-- Which text means what. A bcrypt text means itself. -/
inductive Grammar : String → HashText → Prop
  | bcrypt {identifier cost payload : String}
      (hidentifier : identifier ∈ ["2a", "2b", "2x", "2y"]) (hcost : IsField cost)
      (hpayload : IsField payload) :
      Grammar (join [identifier, cost, payload]) (.bcrypt (join [identifier, cost, payload]))
  | key {hash : KeyHash} {rest : List String} (halgorithm : hash.algorithm ≠ .bcrypt)
      (hspelled : hash.SpelledBy rest) (hfits : hash.CostFits)
      (hne : ∀ field ∈ rest, field ≠ "") :
      Grammar (join (hash.algorithm.identifier :: rest)) (.key hash)

theorem wellFormed_of_grammar {text : String} {hash : KeyHash} (h : Grammar text (.key hash)) :
    hash.WellFormed := by
  cases h with
  | key halgorithm hspelled hfits hne =>
      obtain ⟨hsalt, hdigest⟩ := hspelled.forall_ne_empty_iff.1 hne
      exact ⟨halgorithm, hsalt, hdigest, hfits⟩

theorem parse_of_fields {text identifier : String} {rest : List String}
    (h : fields text = .ok (identifier :: rest)) :
    parse text =
      match Algorithm.ofIdentifier? identifier with
      | none => .error .unknownAlgorithm
      | some .bcrypt =>
        if rest.length + 1 = bcryptFieldCount then .ok (.bcrypt text)
        else .error (.fieldCount (rest.length + 1))
      | some algorithm => .key <$> KeyHash.ofFields algorithm rest := by
  rw [parse, h]
  rfl

theorem parse_join_of_spelledBy {hash : KeyHash} {rest : List String}
    (halgorithm : hash.algorithm ≠ .bcrypt) (h : hash.SpelledBy rest)
    (hne : ∀ field ∈ rest, field ≠ "") :
    parse (join (hash.algorithm.identifier :: rest)) =
      .key <$> KeyHash.ofFields hash.algorithm rest := by
  rw [parse_of_fields (h.fields_join hne), Algorithm.ofIdentifier?_identifier]
  split
  · contradiction
  · rename_i hbcrypt
    exact absurd (Option.some.inj hbcrypt) halgorithm
  · rename_i algorithm _ hsome
    cases hsome
    rfl

theorem grammar_of_parse {text : String} {parsed : HashText} (h : parse text = .ok parsed) :
    Grammar text parsed := by
  obtain ⟨fs, hfs, -⟩ := bind_eq_ok_iff.1 h
  obtain ⟨hne, hfields, rfl⟩ := of_fields_eq_ok hfs
  obtain ⟨identifier, rest, rfl⟩ := List.exists_cons_of_ne_nil hne
  rw [parse_of_fields hfs] at h
  split at h
  · cases h
  · rename_i hidentifier
    split at h
    · rename_i hcount
      cases h
      obtain ⟨cost, payload, rfl⟩ := List.length_eq_two.1 (Nat.succ.inj hcount)
      exact .bcrypt (Algorithm.ofIdentifier?_eq_bcrypt_iff.1 hidentifier)
        (hfields _ (by simp)) (hfields _ (by simp))
    · cases h
  · rename_i algorithm halgorithm hidentifier
    obtain ⟨hash, hhash, rfl⟩ := map_eq_ok_iff.1 h
    obtain ⟨rfl, hspelled, hfits⟩ := KeyHash.ofFields_eq_ok_iff.1 hhash
    rw [(Algorithm.ofIdentifier?_eq_some_iff halgorithm).1 hidentifier]
    exact .key halgorithm hspelled hfits fun field hfield =>
      (hfields field (List.mem_cons_of_mem _ hfield)).ne_empty

theorem wellFormed_of_parse {text : String} {hash : KeyHash} (h : parse text = .ok (.key hash)) :
    hash.WellFormed :=
  wellFormed_of_grammar (grammar_of_parse h)

/-- A text that starts with the identifier of a key derivation means a hash of that algorithm,
spelled by the fields that follow. -/
theorem key_of_grammar_join {a : Algorithm} {fs : List String} {parsed : HashText}
    (ha : a ≠ .bcrypt) (hfs : ∀ field ∈ fs, separator ∉ field.toList)
    (h : Grammar (join (a.identifier :: fs)) parsed) :
    ∃ hash : KeyHash, parsed = .key hash ∧ hash.algorithm = a ∧ hash.SpelledBy fs ∧
      hash.CostFits := by
  have hseparator : ∀ field ∈ a.identifier :: fs, separator ∉ field.toList :=
    List.forall_mem_cons.2 ⟨a.isField_identifier.2, hfs⟩
  -- the grammar is split on the text, so the text has to be a variable
  generalize htext : join (a.identifier :: fs) = text at h
  cases h with
  | @bcrypt identifier cost payload hidentifier hcost hpayload =>
      have hbad := isField_of_bcrypt hidentifier hcost hpayload
      have hfields := eq_of_join_eq (by simp) (by simp) hseparator
        (fun field hfield => (hbad field hfield).2) htext
      rw [List.cons.injEq] at hfields
      -- both texts may have three fields; it is the identifier that keeps them apart
      rw [← hfields.1] at hidentifier
      exact absurd hidentifier (Algorithm.identifier_not_mem_bcryptIdentifiers ha)
  | @key hash rest halgorithm hspelled hfits hne =>
      have hfields :=
        eq_of_join_eq (by simp) (by simp) hseparator hspelled.separator_not_mem_cons htext
      rw [List.cons.injEq] at hfields
      obtain ⟨hidentifier, rfl⟩ := hfields
      exact ⟨hash, rfl, (Algorithm.identifier_injective hidentifier).symm, hspelled, hfits⟩

theorem parse_of_grammar {text : String} {parsed : HashText} (h : Grammar text parsed) :
    parse text = .ok parsed := by
  cases h with
  | @bcrypt identifier cost payload hidentifier hcost hpayload =>
      have hfields := isField_of_bcrypt hidentifier hcost hpayload
      rw [parse_of_fields (fields_join (by simp) hfields),
        Algorithm.ofIdentifier?_eq_bcrypt_iff.2 hidentifier]
      rfl
  | @key hash rest halgorithm hspelled hfits hne =>
      rw [parse_join_of_spelledBy halgorithm hspelled hne]
      exact map_eq_ok_iff.2 ⟨hash, KeyHash.ofFields_eq_ok_iff.2 ⟨rfl, hspelled, hfits⟩, rfl⟩

/-- The reader accepts exactly the texts of the grammar, and no text has two meanings. -/
theorem parse_iff_grammar (text : String) :
    (∀ parsed, parse text = .ok parsed ↔ Grammar text parsed) ∧
      ((∃ e, parse text = .error e) ↔ ∀ parsed, ¬Grammar text parsed) := by
  refine ⟨fun parsed => ⟨grammar_of_parse, parse_of_grammar⟩, ?_⟩
  constructor
  · rintro ⟨e, he⟩ parsed hgrammar
    rw [parse_of_grammar hgrammar] at he
    cases he
  · intro hnone
    cases hparse : parse text with
    | error e => exact ⟨e, rfl⟩
    | ok parsed => exact absurd (grammar_of_parse hparse) (hnone parsed)

end HashText

end PasswordHashing
