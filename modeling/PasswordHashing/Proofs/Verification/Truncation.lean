import PasswordHashing.Proofs.HashText.Canonical
import PasswordHashing.Proofs.Profile.StoredTexts

/-!
Hash texts that have lost some of their end. A cut inside the digest leaves a digest that is
too short, and every cut before it leaves no cost fields. What is left can still be the text
of a masked hash, if the cut falls into the first cost number: its digits then stand in the
place of the digest, but they are too few for a key. Main statement: no comparison accepts a
truncation of a text that describes itself, of a bcrypt text that is accepted for some
password, or of a text that a profile hashed with numbers below the ceilings or without them.
Nothing is assumed about digests but their length.
-/

namespace PasswordHashing

open HashText

/-- Some of the end of the text is missing. -/
def HashText.IsTruncation (cut text : String) : Prop :=
  cut.toList <+: text.toList ∧ cut ≠ text

instance (cut text : String) : Decidable (IsTruncation cut text) :=
  inferInstanceAs (Decidable (_ ∧ _))

theorem HashText.isTruncation_dropLast {text : String} (h : text ≠ "") :
    IsTruncation (String.ofList text.toList.dropLast) text := by
  have hne : text.toList ≠ [] := mt String.toList_eq_nil_iff.1 h
  have hpos := List.length_pos_iff.2 hne
  constructor
  · rw [String.toList_ofList]
    exact List.dropLast_prefix _
  · intro hsame
    have hlength := congrArg (fun other => other.toList.length) hsame
    simp only [String.toList_ofList, List.length_dropLast] at hlength
    omega

theorem Base64.Spells.length_eq {code : Base64} {text : List Char} {bytes : Bytes}
    (h : code.Spells text bytes) : text.length = (8 * bytes.length + 5) / 6 := by
  rw [code.spells_iff.1 h, code.encode_length]

/-! ### Truncated texts of derived keys -/

namespace KeyHash

/-- What the text of a hash, given by the fields after its identifier, can be read as when some
of its end is missing. -/
inductive CutTo (hash : KeyHash) (rest : List String) (other : KeyHash) : Prop
  /-- Only some of the digest is missing. -/
  | digest (hcost : other.cost = hash.cost) (hlength : other.digest.length < hash.digest.length)
  /-- Nothing is left behind the first cost number, which is taken for a digest. -/
  | number {number : String} {front : List Char} (hmasked : hash.isMasked = false)
      (hcost : other.cost = none) (hfield : rest[1]? = some number)
      (hfront : front <+: number.toList) (hdigest : Base64.standard.Spells front other.digest)

theorem digest_length_lt {text cut : String} {digest short : Bytes}
    (h : Base64.standard.Spells text.toList digest)
    (h' : Base64.standard.Spells cut.toList short) (hfront : cut.toList <+: text.toList)
    (hne : cut ≠ text) : short.length < digest.length := by
  have hlength := h.length_eq
  have hlength' := h'.length_eq
  have hle := hfront.length_le
  have hlt : cut.toList.length ≠ text.toList.length := fun hsame =>
    hne (String.toList_inj.1 (hfront.eq_of_length hsame))
  omega

variable {hash other : KeyHash} {rest rest' : List String}

theorem SpelledBy.cutTo (h : hash.SpelledBy rest) (h' : other.SpelledBy rest')
    (hfamily : hash.FamilyFits) (hfamily' : other.FamilyFits)
    (hcut : IsTruncation (join (other.algorithm.identifier :: rest'))
      (join (hash.algorithm.identifier :: rest))) : hash.CutTo rest other := by
  obtain ⟨hfront, hne⟩ := hcut
  have hfields :=
    cutFrom_of_prefix_join (by simp) h'.separator_not_mem_cons h.separator_not_mem_cons hfront
  cases h with
  | masked hsalt hdigest =>
      cases h' with
      | masked hsalt' hdigest' =>
          obtain ⟨hidentifier, rfl, hlast⟩ := hfields
          refine .digest rfl (digest_length_lt hdigest hdigest' hlast ?_)
          rintro rfl
          exact hne (by rw [hidentifier])
      | described => simp [CutFrom] at hfields
  | described hsalt hdigest hcost =>
      cases h' with
      | masked hsalt' hdigest' =>
          obtain ⟨-, -, hlast⟩ := hfields
          exact .number rfl rfl rfl hlast hdigest'
      | described hsalt' hdigest' hcost' =>
          obtain ⟨hidentifier, rfl, rfl, rfl, rfl, rfl, hlast⟩ := hfields
          have halgorithm := Algorithm.identifier_injective hidentifier
          have hfamilies := hfamily' _ rfl
          simp only at halgorithm hfamilies
          rw [halgorithm, ← hfamily _ rfl] at hfamilies
          refine .digest (congrArg some (hcost'.unique hcost hfamilies))
            (digest_length_lt hdigest hdigest' hlast ?_)
          rintro rfl
          exact hne (by rw [hidentifier])

theorem CostFits.familyFits (h : hash.CostFits) : hash.FamilyFits :=
  fun cost hcost => (h cost hcost).1

variable {text cut : String}

theorem cutTo_of_parse (hparse : parse cut = .ok (.key other))
    (hcut : IsTruncation cut (join (hash.algorithm.identifier :: rest))) (h : hash.SpelledBy rest)
    (hfamily : hash.FamilyFits) : hash.CutTo rest other := by
  obtain ⟨rest', rfl, h', -⟩ := exists_spelledBy_of_parse hparse
  have hfits := (wellFormed_of_parse hparse).cost_fits
  exact h.cutTo h' hfamily hfits.familyFits hcut

/-- A text that describes itself names the length of its digest, so a shorter digest is none. -/
theorem cost_eq_none_of_truncation (hparse : parse text = .ok (.key hash))
    (hmasked : hash.isMasked = false) (hcut : IsTruncation cut text)
    (hparse' : parse cut = .ok (.key other)) : other.cost = none := by
  obtain ⟨rest, rfl, hspelled, -⟩ := exists_spelledBy_of_parse hparse
  have hfits := (wellFormed_of_parse hparse).cost_fits
  have hfits' := (wellFormed_of_parse hparse').cost_fits
  cases cutTo_of_parse hparse' hcut hspelled hfits.familyFits with
  | digest hcost hlength =>
      cases hsame : hash.cost with
      | none => simp [isMasked, hsame] at hmasked
      | some cost =>
          have hkey := (hfits cost hsame).2.2
          have hkey' := (hfits' cost (hcost.trans hsame)).2.2
          omega
  | number _ hcost => exact hcost

end KeyHash

/-! ### Truncated texts of bcrypt -/

namespace Bcrypt

/-- The fields of a text that some password can be checked against. -/
structure IsText (text identifier cost payload : String) : Prop where
  text_eq : text = join [identifier, cost, payload]
  identifier_mem : identifier ∈ Algorithm.bcryptIdentifiers
  isField_cost : IsField cost
  isField_payload : IsField payload
  payload_length : payload.toList.length = 53

variable {text cut identifier cost payload identifier' cost' payload' : String}

theorem IsText.separator_not_mem (h : IsText text identifier cost payload) :
    ∀ field ∈ [identifier, cost, payload], separator ∉ field.toList := by
  intro field hfield
  exact (isField_of_bcrypt h.identifier_mem h.isField_cost h.isField_payload field hfield).2

theorem exists_isText {kept : String} {password : Bytes} {answer : Bool}
    (hparse : parse text = .ok (.bcrypt kept)) (hverify : verify? text password = some answer) :
    ∃ identifier cost payload, IsText text identifier cost payload := by
  have hgrammar := grammar_of_parse hparse
  cases hgrammar with
  | @bcrypt identifier cost payload hidentifier hcost hpayload =>
      refine ⟨identifier, cost, payload, rfl, hidentifier, hcost, hpayload, ?_⟩
      have hfields := fields_join (by simp) (isField_of_bcrypt hidentifier hcost hpayload)
      -- a payload of another length is none, and then there is no record to check against
      by_contra hlength
      rw [verify?, Record.read?, hfields] at hverify
      simp [Record.readPayload?, hlength] at hverify

theorem IsText.not_isTruncation (h : IsText text identifier cost payload)
    (h' : IsText cut identifier' cost' payload') : ¬IsTruncation cut text := by
  rintro ⟨hfront, hne⟩
  rw [h.text_eq, h'.text_eq] at hfront
  obtain ⟨hidentifier, hcost, hlast⟩ :=
    cutFrom_of_prefix_join (by simp) h'.separator_not_mem h.separator_not_mem hfront
  have hlength := h'.payload_length.trans h.payload_length.symm
  have hpayload : payload' = payload := String.toList_inj.1 (hlast.eq_of_length hlength)
  rw [h.text_eq, h'.text_eq, hidentifier, hcost, hpayload] at hne
  exact hne rfl

/-- No identifier of another algorithm is one of bcrypt or begins one. -/
theorem IsText.not_key_of_truncation {hash : KeyHash} (h : IsText text identifier cost payload)
    (hcut : IsTruncation cut text) : parse cut ≠ .ok (.key hash) := by
  intro hparse
  obtain ⟨rest, rfl, hspelled, -⟩ := KeyHash.exists_spelledBy_of_parse hparse
  have hbcrypt := (wellFormed_of_parse hparse).algorithm_ne
  have hfront := hcut.1
  rw [h.text_eq] at hfront
  have hfields :=
    cutFrom_of_prefix_join (by simp) hspelled.separator_not_mem_cons h.separator_not_mem hfront
  cases hspelled with
  | masked =>
      have hmem := h.identifier_mem
      rw [← hfields.1] at hmem
      exact Algorithm.identifier_not_mem_bcryptIdentifiers hbcrypt hmem
  | described => simp [CutFrom] at hfields

end Bcrypt

/-! ### The first cost number as a digest -/

/-- Below its ceiling the first number has too few digits to stand for a key. -/
theorem KeyDerivation.length_number_lt {f : KeyDerivation} {keyLength : UInt64}
    {secret : Option Bytes} {password salt key : Bytes} {number : String}
    (hderive : f.derive keyLength secret password salt = .ok key)
    (hbelow : (f.cost keyLength).BelowCeilings)
    (hnumber : (f.cost keyLength).write.head? = some number) :
    number.toList.length < (8 * keyLength.toNat + 5) / 6 := by
  cases f with
  | argon2 variant time memory threads =>
      have hfour := argon2_keyLength_of_derive hderive
      have htime : time.toNat ≤ 64 := hbelow.1
      have hlength : time.toNat.repr.toList.length ≤ 2 :=
        Decimal.length_repr_le (by omega) (by omega)
      cases hnumber
      omega
  | scrypt logN r p =>
      have hten := (scrypt_keyLength_of_derive hderive).1
      have hn : (scryptN logN).toNat ≤ 2 ^ 24 := hbelow.1
      have hlength : (scryptN logN).toNat.repr.toList.length ≤ 8 :=
        Decimal.length_repr_le (by omega) (by omega)
      cases hnumber
      omega

/-! ### Comparisons -/

variable {text cut : String} {password : Bytes}

theorem compare_eq_mismatch_of_not_accepted (h : ¬Accepted text password) :
    (compare text password).result = .error .mismatch :=
  (isVerdict_compare text password).resolve_left (mt compare_eq_ok_iff.1 h)

theorem Parameters.compare_eq_mismatch_of_not_accepts {p : Parameters}
    (h : ¬p.Accepts text password) : (p.compare text password).result = .error .mismatch :=
  (p.isVerdict_compare text password).resolve_left (mt Parameters.compare_eq_ok_iff.1 h)

/-- The identifier of a bcrypt text is whole in every truncation that is one of bcrypt. -/
theorem not_bcrypt_of_truncation {hash : KeyHash} {rest : List String} {kept : String}
    (hbcrypt : hash.algorithm ≠ .bcrypt) (hspelled : hash.SpelledBy rest)
    (hcut : IsTruncation cut (join (hash.algorithm.identifier :: rest))) :
    parse cut ≠ .ok (.bcrypt kept) := by
  intro hparse
  have hfront := hcut.1
  cases grammar_of_parse hparse with
  | @bcrypt identifier cost payload hidentifier hcost hpayload =>
      have hisField := isField_of_bcrypt hidentifier hcost hpayload
      have hfields := cutFrom_of_prefix_join (by simp)
        (fun field hfield => (hisField field hfield).2) hspelled.separator_not_mem_cons hfront
      have hsame : identifier = hash.algorithm.identifier := hfields.1
      rw [hsame] at hidentifier
      exact Algorithm.identifier_not_mem_bcryptIdentifiers hbcrypt hidentifier

theorem not_accepted_of_truncation {hash : KeyHash} (hparse : parse text = .ok (.key hash))
    (hmasked : hash.isMasked = false) (hcut : IsTruncation cut text) :
    ¬Accepted cut password := by
  intro haccepted
  cases haccepted with
  | bcrypt hparse' =>
      obtain ⟨rest, rfl, hspelled, -⟩ := KeyHash.exists_spelledBy_of_parse hparse
      have hbcrypt := (wellFormed_of_parse hparse).algorithm_ne
      exact not_bcrypt_of_truncation hbcrypt hspelled hcut hparse'
  | key hparse' halgorithm hcost hderive =>
      have hnone := KeyHash.cost_eq_none_of_truncation hparse hmasked hcut hparse'
      rw [hnone] at hcost
      cases hcost

theorem not_accepted_of_bcrypt_truncation {identifier cost payload : String}
    (htext : Bcrypt.IsText text identifier cost payload) (hcut : IsTruncation cut text) :
    ¬Accepted cut password := by
  intro haccepted
  cases haccepted with
  | bcrypt hparse hlength hverify =>
      obtain ⟨identifier', cost', payload', htext'⟩ := Bcrypt.exists_isText hparse hverify
      exact htext.not_isTruncation htext' hcut
  | key hparse => exact htext.not_key_of_truncation hcut hparse

/-- Whatever is left of the text has no digest of the length that the settings derive. -/
theorem KeySettings.not_accepts_of_truncation {s : KeySettings} {salt digest candidate : Bytes}
    (hdigest : s.digest password salt = .ok digest)
    (hbelow : s.masked = false → s.cost.BelowCeilings)
    (hcut : IsTruncation cut (s.hashOf salt digest).encode) :
    ¬(Parameters.key s).Accepts cut candidate := by
  intro haccepts
  cases haccepts with
  | @key _ _ _ other hparse halgorithm hderive =>
      have hlength := KeyDerivation.length_of_derive hdigest
      have hlength' := KeyDerivation.length_of_derive hderive
      have hspelled := (s.hashOf salt digest).spelledBy_written
      have hcutTo := KeyHash.cutTo_of_parse hparse hcut hspelled (s.familyFits_hashOf salt digest)
      cases hcutTo with
      | digest _ hshorter =>
          have hshorter : other.digest.length < digest.length := hshorter
          omega
      | @number number front hmasked _ hfield hfront hnumber =>
          have hpublic : s.masked = false := by
            cases hs : s.masked with
            | false => rfl
            | true => simp [KeyHash.isMasked, hashOf, hs] at hmasked
          have hhead : s.cost.write.head? = some number := by
            obtain ⟨a, b, c, k, hwrite, -⟩ := s.cost.exists_write_eq
            simpa [KeyHash.written, KeyHash.fields, hashOf, hpublic, hwrite] using hfield
          have hfew := KeyDerivation.length_number_lt hdigest (hbelow hpublic) hhead
          have hle := hfront.length_le
          rw [hnumber.length_eq, hlength'] at hle
          omega

/-- No comparison accepts what is left of a text that describes itself, of a bcrypt text that was
accepted, or of a text that the profile hashed, whichever end is missing and for any password. -/
theorem truncated_text_never_verifies :
    (∀ text hash, parse text = .ok (.key hash) → hash.isMasked = false →
      ∀ cut, IsTruncation cut text → ∀ password,
        (compare cut password).result = .error .mismatch) ∧
    (∀ text accepted, parse text = .ok (.bcrypt text) → (compare text accepted).result = .ok () →
      ∀ cut, IsTruncation cut text → ∀ password,
        (compare cut password).result = .error .mismatch) ∧
    ∀ (p : Profile) (s : KeySettings), p.parameters = .key s →
      (s.masked = false → s.cost.BelowCeilings) →
      ∀ password fresh text, (p.hash password fresh).result = .ok text →
        ∀ cut, IsTruncation cut text → ∀ candidate,
          (p.compare cut candidate).result = .error .mismatch := by
  refine ⟨?_, ?_, ?_⟩
  · intro text hash hparse hmasked cut hcut password
    apply compare_eq_mismatch_of_not_accepted
    exact not_accepted_of_truncation hparse hmasked hcut
  · intro text accepted hparse haccepted cut hcut password
    apply compare_eq_mismatch_of_not_accepted
    rw [compare_eq_ok_iff] at haccepted
    cases haccepted with
    | bcrypt _ hlength hverify =>
        obtain ⟨identifier, cost, payload, htext⟩ := Bcrypt.exists_isText hparse hverify
        exact not_accepted_of_bcrypt_truncation htext hcut
    | key hkey =>
        rw [hparse] at hkey
        cases hkey
  · intro p s hp hbelow password fresh text hhash cut hcut candidate
    obtain ⟨digest, hdigest, rfl⟩ := (Profile.hash_eq_ok_iff_of_key hp).1 hhash
    rw [Profile.compare, hp]
    apply Parameters.compare_eq_mismatch_of_not_accepts
    exact KeySettings.not_accepts_of_truncation hdigest hbelow hcut

/-- What a cut leaves of the cost can be read as a digest of three bytes, and the text is refused
for it; a text that has just been made is refused without its last character. -/
theorem truncation_to_masked_text_refused :
    ((∃ hash, parse "$2s$c2FsdA$1638" = .ok (.key hash) ∧ hash.isMasked = true) ∧
      (compare "$2s$c2FsdA$1638" []).result = .error .mismatch) ∧
    (∃ text, ((Profile.custom (.bcrypt 4)).hash [] (List.replicate 16 0)).result = .ok text ∧
      (compare (String.ofList text.toList.dropLast) []).result = .error .mismatch) ∧
    ∃ text, ((Profile.custom (.key .leastScrypt)).hash [] [1]).result = .ok text ∧
      ((Profile.custom (.key .leastScrypt)).compare
        (String.ofList text.toList.dropLast) []).result = .error .mismatch := by
  obtain ⟨hpublic, hbcrypt, hhashed⟩ := truncated_text_never_verifies
  refine ⟨⟨⟨_, rfl, rfl⟩, ?_⟩, ?_, ?_⟩
  · exact hpublic "$2s$c2FsdA$16384$1$1$6$ZGlnZXN0" _ rfl rfl _ (by decide) []
  · obtain ⟨text, hhash⟩ : ∃ text,
        ((Profile.custom (.bcrypt 4)).hash [] (List.replicate 16 0)).result = .ok text := ⟨_, rfl⟩
    have hmade : Bcrypt.hashText 4 [] (List.replicate 16 0) = .ok text := hhash
    obtain ⟨hparse, hlength, hverify⟩ := Bcrypt.verifies_of_hashText hmade rfl
    refine ⟨text, hhash, hbcrypt text [] hparse ?_ _ (isTruncation_dropLast ?_) []⟩
    · exact compare_eq_ok_iff.2 (.bcrypt hparse hlength hverify)
    · rintro rfl
      cases hparse
  · obtain ⟨text, hhash⟩ : ∃ text,
        ((Profile.custom (.key .leastScrypt)).hash [] [1]).result = .ok text := ⟨_, rfl⟩
    refine ⟨text, hhash, ?_⟩
    refine hhashed _ _ rfl (fun _ => ?_) [] [1] text hhash _ (isTruncation_dropLast ?_) []
    · simp [KeySettings.leastScrypt, Cost.BelowCeilings, KeySettings.cost, KeyDerivation.cost,
        KeyDerivation.scryptN]
    · obtain ⟨digest, -, rfl⟩ := (Profile.hash_eq_ok_iff_of_key rfl).1 hhash
      intro hempty
      have htext := congrArg String.toList hempty
      rw [KeyHash.encode_eq_join, join_cons_toList] at htext
      cases htext

end PasswordHashing
