import PasswordHashing.Proofs.HashText.RoundTrip

/-!
Reading a text and writing it again. Salt and digest have one spelling each, and so has the
identifier, but a cost number may be padded with zeros that are lost when it is written.
Main statement: a text that was read is written back as it stands exactly if none of its
cost fields is padded; what is written back in any case has the same meaning.
-/

namespace PasswordHashing

open HashText

namespace HashText

/-- The fields between the salt and the digest; a masked text has none. -/
def costFields (text : String) : List String :=
  match fields text with
  | .ok fs => (fs.drop 2).dropLast
  | .error _ => []

theorem Cost.SpelledBy.write_eq_iff {cost : Cost} {a b c keyLength : String}
    (h : cost.SpelledBy a b c keyLength) :
    cost.write = [a, b, c, keyLength] ↔
      ∀ field ∈ [a, b, c, keyLength], ¬Decimal.Padded field := by
  simp only [List.forall_mem_cons, List.not_mem_nil, false_imp_iff, implies_true, and_true]
  cases cost with
  | scrypt n r p k =>
      obtain ⟨hn, hr, hp, hk⟩ := h
      rw [← hn.eq_repr_iff, ← hr.eq_repr_iff, ← hp.eq_repr_iff, ← hk.eq_repr_iff]
      simp only [write, List.cons.injEq, and_true, eq_comm]
  | argon2 time memory threads k =>
      obtain ⟨ht, hm, hp, hk⟩ := h
      rw [← ht.eq_repr_iff, ← hm.eq_repr_iff, ← hp.eq_repr_iff, ← hk.eq_repr_iff]
      simp only [write, List.cons.injEq, and_true, eq_comm]

end HashText

namespace KeyHash

theorem ofList_encode_eq {s : String} {bytes : Bytes} (h : Base64.standard.Spells s.toList bytes) :
    String.ofList (Base64.standard.encode bytes) = s := by
  rw [← Base64.standard.spells_iff.1 h, String.ofList_toList]

/-- Only cost fields can be written in another way than they were read. -/
theorem SpelledBy.written_eq_iff {hash : KeyHash} {rest : List String} (h : hash.SpelledBy rest) :
    hash.written = rest ↔ ∀ field ∈ rest.tail.dropLast, ¬Decimal.Padded field := by
  cases h with
  | masked hsalt hdigest =>
      simp [written, KeyHash.fields, ofList_encode_eq hsalt, ofList_encode_eq hdigest]
  | @described algorithm salt digest cost s a b c keyLength d hsalt hdigest hcost =>
      have hwritten : written { algorithm, salt, cost := some cost, digest } =
          s :: (cost.write ++ [d]) := by
        simp [written, KeyHash.fields, ofList_encode_eq hsalt, ofList_encode_eq hdigest]
      have hrest : [s, a, b, c, keyLength, d] = s :: ([a, b, c, keyLength] ++ [d]) := rfl
      rw [hwritten, hrest, List.cons.injEq, List.append_left_inj, hcost.write_eq_iff]
      simp

variable {text : String} {hash : KeyHash}

/-- A text that was read is an identifier and fields that spell the hash. -/
theorem exists_spelledBy_of_parse (h : parse text = .ok (.key hash)) :
    ∃ rest, text = join (hash.algorithm.identifier :: rest) ∧ hash.SpelledBy rest ∧
      costFields text = rest.tail.dropLast := by
  cases grammar_of_parse h with
  | key halgorithm hspelled hfits hne =>
      refine ⟨_, rfl, hspelled, ?_⟩
      rw [costFields, hspelled.fields_join hne]
      cases hspelled <;> rfl

theorem encode_eq_iff_of_parse (h : parse text = .ok (.key hash)) :
    hash.encode = text ↔ ∀ field ∈ costFields text, ¬Decimal.Padded field := by
  obtain ⟨rest, htext, hspelled, hcost⟩ := exists_spelledBy_of_parse h
  rw [hcost, ← hspelled.written_eq_iff, htext, encode_eq_join]
  constructor
  · intro hjoin
    have hfields := eq_of_join_eq (by simp) (by simp)
      hash.spelledBy_written.separator_not_mem_cons hspelled.separator_not_mem_cons hjoin
    exact (List.cons.inj hfields).2
  · rintro rfl
    rfl

theorem costFields_eq_nil_of_masked (h : parse text = .ok (.key hash))
    (hmasked : hash.isMasked = true) : costFields text = [] := by
  obtain ⟨rest, -, hspelled, hcost⟩ := exists_spelledBy_of_parse h
  rw [hcost]
  cases hspelled with
  | masked => rfl
  | described => cases hmasked

theorem parse_encode_of_parse (h : parse text = .ok (.key hash)) :
    parse hash.encode = .ok (.key hash) :=
  parse_encode (wellFormed_of_parse h)

/-- A text is written back as it was read exactly if no cost field is padded, so masked texts
always are. What is written has the same meaning, and is the only text of that meaning
without padding. -/
theorem encode_eq_iff_not_padded (h : parse text = .ok (.key hash)) :
    (hash.encode = text ↔ ∀ field ∈ costFields text, ¬Decimal.Padded field) ∧
      (hash.isMasked = true → hash.encode = text) ∧
      parse hash.encode = .ok (.key hash) ∧
      ∀ other, parse other = .ok (.key hash) →
        (∀ field ∈ costFields other, ¬Decimal.Padded field) → other = hash.encode := by
  refine ⟨encode_eq_iff_of_parse h, ?_, parse_encode_of_parse h, ?_⟩
  · intro hmasked
    rw [encode_eq_iff_of_parse h, costFields_eq_nil_of_masked h hmasked]
    simp
  · intro other hother hpadded
    exact ((encode_eq_iff_of_parse hother).2 hpadded).symm

/-- Numbers of more than one digit, one of which is a zero, need no padding. -/
theorem encode_of_unpadded_text :
    ∃ hash, parse "$2id$c29tZXNhbHQ$10$64$2$6$ZGlnZXN0" = .ok (.key hash) ∧
      hash.encode = "$2id$c29tZXNhbHQ$10$64$2$6$ZGlnZXN0" := by
  obtain ⟨hash, h⟩ : ∃ hash, parse "$2id$c29tZXNhbHQ$10$64$2$6$ZGlnZXN0" = .ok (.key hash) :=
    ⟨_, rfl⟩
  exact ⟨hash, h, (encode_eq_iff_not_padded h).1.2 (by decide)⟩

/-- A padded number is read, and the text is another one when it is written. -/
theorem encode_ne_of_padded_text :
    ∃ hash, parse "$2id$c29tZXNhbHQ$01$64$1$6$ZGlnZXN0" = .ok (.key hash) ∧
      parse "$2id$c29tZXNhbHQ$1$64$1$6$ZGlnZXN0" = .ok (.key hash) ∧
      hash.encode ≠ "$2id$c29tZXNhbHQ$01$64$1$6$ZGlnZXN0" := by
  refine ⟨_, rfl, ?_, ?_⟩ <;> decide

end KeyHash

end PasswordHashing
