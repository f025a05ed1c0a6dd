import PasswordHashing.Proofs.HashText.Canonical
import PasswordHashing.Proofs.Profile.StoredTexts

/-!
The last field of the text of a derived key. What stands before it fixes the algorithm, the
salt and the numbers, and with them, for a password, the digest; and a digest has one
spelling. Main statement: behind one head at most one digest field is accepted, by either
comparison, so a text whose digest field was changed in any way is refused for the password
that it was accepted for.
-/

namespace PasswordHashing

open HashText

/-- A text up to its last field: the identifier of a key derivation is its first field, and it
ends with a separator. -/
structure HashText.IsDigestHead (head : String) : Prop where
  starts : ∃ start ∈ ["$2s$", "$2i$", "$2id$"], start.toList <+: head.toList
  ends : "$".toList <:+ head.toList

/-! ### The fields in front of the digest -/

namespace HashText

theorem IsDigestHead.exists_identifier {head : String} (h : IsDigestHead head) :
    ∃ (a : Algorithm) (rest : List Char), a ≠ .bcrypt ∧
      head.toList = separator :: (a.identifier.toList ++ separator :: rest) := by
  obtain ⟨start, hstart, rest, hhead⟩ := h.starts
  simp only [List.mem_cons, List.not_mem_nil, or_false] at hstart
  rcases hstart with rfl | rfl | rfl
  · exact ⟨.scrypt, rest, nofun, hhead.symm⟩
  · exact ⟨.argon2 .i, rest, nofun, hhead.symm⟩
  · exact ⟨.argon2 .id, rest, nofun, hhead.symm⟩

/-- What follows a head is the last field behind those of the head. -/
theorem IsDigestHead.exists_fields {head : String} (h : IsDigestHead head) :
    ∃ (a : Algorithm) (fs : List String), a ≠ .bcrypt ∧ (∀ field ∈ fs, separator ∉ field.toList) ∧
      ∀ d, head ++ d = join (a.identifier :: (fs ++ [d])) := by
  obtain ⟨a, rest, ha, hhead⟩ := h.exists_identifier
  obtain ⟨front, hends⟩ : [separator] <:+ head.toList := h.ends
  suffices hfront : ∃ fs, (∀ field ∈ fs, separator ∉ field.toList) ∧
      head = join (a.identifier :: fs) ++ "$" by
    obtain ⟨fs, hfs, rfl⟩ := hfront
    exact ⟨a, fs, ha, hfs, fun d => (join_concat (a.identifier :: fs) d).symm⟩
  -- the last separator is the one behind the identifier, or one more behind other fields
  rcases List.eq_nil_or_concat rest with rfl | ⟨middle, c, rfl⟩
  · refine ⟨[], nofun, String.toList_inj.1 ?_⟩
    simp [hhead, join, separator]
  · have hlast : front ++ [separator] =
        (separator :: (a.identifier.toList ++ separator :: middle)) ++ [c] := by
      simpa [hhead] using hends
    cases (List.append_inj' hlast rfl).2
    obtain ⟨fs, hfs, hjoin⟩ := exists_join_eq_cons middle
    refine ⟨fs, hfs, String.toList_inj.1 ?_⟩
    rw [hhead, String.toList_append, join_cons_toList, hjoin]
    simp [separator]

end HashText

/-! ### Two digests behind one head -/

namespace KeyHash

variable {hash other : KeyHash} {rest fs : List String} {d d' : String}

/-- The last field spells the digest and nothing else. -/
theorem SpelledBy.spells_digest (h : hash.SpelledBy (fs ++ [d])) :
    Base64.standard.Spells d.toList hash.digest := by
  have hlast : (fs ++ [d]).getLast? = some d := List.getLast?_concat
  generalize fs ++ [d] = rest at h hlast
  cases h with
  | masked _ hdigest =>
      cases hlast
      exact hdigest
  | described _ hdigest _ =>
      cases hlast
      exact hdigest

theorem SpelledBy.replace_digest {digest : Bytes} (h : hash.SpelledBy (fs ++ [d]))
    (hdigest : Base64.standard.Spells d'.toList digest) :
    { hash with digest }.SpelledBy (fs ++ [d']) := by
  have hfront : (fs ++ [d]).dropLast = fs := List.dropLast_concat
  rw [← hfront]
  generalize fs ++ [d] = rest at h
  cases h with
  | masked hsalt _ => exact .masked hsalt hdigest
  | described hsalt _ hcost => exact .described hsalt hdigest hcost

end KeyHash

namespace HashText.IsDigestHead

variable {head d d' : String}

/-- Whatever digest field stands behind a head, what is read has the algorithm of the head and is
spelled by its fields and the digest field. -/
theorem exists_spelledBy (h : IsDigestHead head) :
    ∃ (a : Algorithm) (fs : List String), ∀ (d : String) (parsed : HashText),
      separator ∉ d.toList → parse (head ++ d) = .ok parsed →
      ∃ hash : KeyHash, parsed = .key hash ∧ hash.algorithm = a ∧ hash.SpelledBy (fs ++ [d]) ∧
        hash.CostFits := by
  obtain ⟨a, fs, ha, hfs, hjoin⟩ := h.exists_fields
  refine ⟨a, fs, ?_⟩
  intro d parsed hd hparse
  have hgrammar := grammar_of_parse hparse
  rw [hjoin] at hgrammar
  refine key_of_grammar_join ha ?_ hgrammar
  rw [List.forall_mem_append, List.forall_mem_singleton]
  exact ⟨hfs, hd⟩

/-- Two texts with one head are read as hashes that differ in their digests only. -/
theorem same_but_digest {parsed parsed' : HashText} (h : IsDigestHead head)
    (hd : separator ∉ d.toList) (hd' : separator ∉ d'.toList)
    (hparse : parse (head ++ d) = .ok parsed) (hparse' : parse (head ++ d') = .ok parsed') :
    ∃ hash digest, parsed = .key hash ∧ parsed' = .key { hash with digest } ∧
      (digest = hash.digest → d' = d) := by
  obtain ⟨a, fs, hread⟩ := h.exists_spelledBy
  obtain ⟨hash, rfl, halgorithm, hspelled, hfits⟩ := hread d parsed hd hparse
  obtain ⟨other, rfl, halgorithm', hspelled', hfits'⟩ := hread d' parsed' hd' hparse'
  -- the algorithm says which numbers the cost fields are, so the same fields mean the same
  have hsame : other = { hash with digest := other.digest } := by
    apply hspelled'.unique (hspelled.replace_digest hspelled'.spells_digest)
    · exact halgorithm'.trans halgorithm.symm
    · intro cost cost' hcost hcost'
      rw [(hfits' cost hcost).1, (hfits cost' hcost').1, halgorithm, halgorithm']
  refine ⟨hash, other.digest, rfl, congrArg HashText.key hsame, ?_⟩
  intro hdigest
  have hspells := hspelled'.spells_digest
  rw [hdigest] at hspells
  exact String.toList_inj.1 (hspells.unique hspelled.spells_digest)

end HashText.IsDigestHead

/-! ### One digest is accepted -/

section Comparisons

variable {hash : KeyHash} {digest password : Bytes}

theorem KeySettings.digest_unique {s : KeySettings}
    (h : (s.verify hash password).result = .ok ())
    (h' : (s.verify { hash with digest } password).result = .ok ()) : digest = hash.digest := by
  have hdigest := (verify_eq_ok_iff.1 h).2
  have hdigest' := (verify_eq_ok_iff.1 h').2
  exact Except.ok.inj (hdigest'.symm.trans hdigest)

/-- A masked hash describes no settings. -/
theorem comparePublic_eq_ok_iff_verify :
    (comparePublic hash password).result = .ok () ↔
      ∃ s, KeySettings.ofHash? hash = some s ∧ (s.verify hash password).result = .ok () := by
  unfold comparePublic KeyHash.isMasked
  cases hcost : hash.cost with
  | none => simp [KeySettings.ofHash?, hcost]
  | some cost => cases KeySettings.ofHash? hash <;> simp

theorem digest_unique_of_comparePublic (h : (comparePublic hash password).result = .ok ())
    (h' : (comparePublic { hash with digest } password).result = .ok ()) :
    digest = hash.digest := by
  obtain ⟨s, hs, hverify⟩ := comparePublic_eq_ok_iff_verify.1 h
  obtain ⟨s', hs', hverify'⟩ := comparePublic_eq_ok_iff_verify.1 h'
  -- the settings are those of the algorithm and the numbers, which both hashes have
  have hsettings : KeySettings.ofHash? { hash with digest } = KeySettings.ofHash? hash := rfl
  rw [hsettings, hs] at hs'
  cases hs'
  exact KeySettings.digest_unique hverify hverify'

end Comparisons

variable {head d d' : String} {password : Bytes}

theorem exists_parse_of_compare {text : String} (h : (compare text password).result = .ok ()) :
    ∃ parsed, parse text = .ok parsed := by
  cases compare_eq_ok_iff.1 h with
  | bcrypt hparse => exact ⟨_, hparse⟩
  | key hparse => exact ⟨_, hparse⟩

theorem Parameters.exists_parse_of_compare {p : Parameters} {text : String}
    (h : (p.compare text password).result = .ok ()) : ∃ parsed, parse text = .ok parsed := by
  cases Parameters.compare_eq_ok_iff.1 h with
  | bcrypt hparse => exact ⟨_, hparse⟩
  | key hparse => exact ⟨_, hparse⟩

theorem digest_field_unique (hhead : IsDigestHead head) (hd : separator ∉ d.toList)
    (hd' : separator ∉ d'.toList) (h : (compare (head ++ d) password).result = .ok ())
    (h' : (compare (head ++ d') password).result = .ok ()) : d' = d := by
  obtain ⟨parsed, hparse⟩ := exists_parse_of_compare h
  obtain ⟨parsed', hparse'⟩ := exists_parse_of_compare h'
  obtain ⟨hash, digest, rfl, rfl, hfield⟩ := hhead.same_but_digest hd hd' hparse hparse'
  rw [compare, hparse] at h
  rw [compare, hparse'] at h'
  exact hfield (digest_unique_of_comparePublic h h')

theorem KeySettings.digest_field_unique {s : KeySettings} (hhead : IsDigestHead head)
    (hd : separator ∉ d.toList) (hd' : separator ∉ d'.toList)
    (h : ((Parameters.key s).compare (head ++ d) password).result = .ok ())
    (h' : ((Parameters.key s).compare (head ++ d') password).result = .ok ()) : d' = d := by
  obtain ⟨parsed, hparse⟩ := Parameters.exists_parse_of_compare h
  obtain ⟨parsed', hparse'⟩ := Parameters.exists_parse_of_compare h'
  obtain ⟨hash, digest, rfl, rfl, hfield⟩ := hhead.same_but_digest hd hd' hparse hparse'
  rw [Parameters.compare, hparse] at h
  rw [Parameters.compare, hparse'] at h'
  exact hfield (KeySettings.digest_unique h h')

/-- Behind one head at most one digest field is accepted for a password, with the numbers of the
text and with those of a profile; any other digest field is a mismatch. -/
theorem changed_digest_refused (hhead : IsDigestHead head) (hd : separator ∉ d.toList)
    (hd' : separator ∉ d'.toList) :
    ((compare (head ++ d) password).result = .ok () →
      ((compare (head ++ d') password).result = .ok () → d' = d) ∧
      (d' ≠ d → (compare (head ++ d') password).result = .error .mismatch)) ∧
    ∀ (p : Profile) (s : KeySettings), p.parameters = .key s →
      (p.compare (head ++ d) password).result = .ok () →
      ((p.compare (head ++ d') password).result = .ok () → d' = d) ∧
      (d' ≠ d → (p.compare (head ++ d') password).result = .error .mismatch) := by
  constructor
  · intro h
    have hunique := digest_field_unique hhead hd hd' h
    refine ⟨hunique, ?_⟩
    intro hne
    exact (isVerdict_compare (head ++ d') password).resolve_left (mt hunique hne)
  · intro p s hp h
    rw [Profile.compare, hp] at h
    rw [Profile.compare, hp]
    have hunique := KeySettings.digest_field_unique hhead hd hd' h
    refine ⟨hunique, ?_⟩
    intro hne
    exact (Parameters.isVerdict_compare _ (head ++ d') password).resolve_left (mt hunique hne)

/-- Padding is refused behind the numbers of scrypt, and by a masked profile behind the salt. -/
theorem changed_digest_of_small_scrypt_refused :
    ∃ d, ((compare ("$2s$AQ$2$1$1$10$" ++ d) []).result = .ok () ∧
        (compare ("$2s$AQ$2$1$1$10$" ++ (d ++ "=")) []).result = .error .mismatch) ∧
      ((Profile.custom (.key { function := .scrypt 1 1 1, keyLength := 10, masked := true })).compare
          ("$2s$AQ$" ++ d) []).result = .ok () ∧
        ((Profile.custom
            (.key { function := .scrypt 1 1 1, keyLength := 10, masked := true })).compare
          ("$2s$AQ$" ++ (d ++ "=")) []).result = .error .mismatch := by
  obtain ⟨digest, hdigest⟩ : ∃ digest,
      KeySettings.digest { function := .scrypt 1 1 1, keyLength := 10 } [] [1] = .ok digest :=
    ⟨_, rfl⟩
  let d := String.ofList (Base64.standard.encode digest)
  have hd : separator ∉ d.toList := separator_not_mem_encode digest
  have hpadded : separator ∉ (d ++ "=").toList := by
    rw [String.toList_append, List.mem_append]
    exact not_or.2 ⟨hd, by decide⟩
  have hne : d ++ "=" ≠ d := by simp
  have haccepted := KeySettings.accepted_encode_hashOf hdigest
    ⟨by decide, fun _ => by simp [KeyDerivation.WithinCeilings]⟩ rfl rfl
  have haccepts := KeySettings.accepts_encode_hashOf
    (s := { function := .scrypt 1 1 1, keyLength := 10, masked := true }) hdigest
    ⟨by decide, fun hpublic => absurd hpublic (by decide)⟩ none
  have htext : (KeySettings.hashOf { function := .scrypt 1 1 1, keyLength := 10 }
      [1] digest).encode = "$2s$AQ$2$1$1$10$" ++ d :=
    (join_concat ["2s", "AQ", "2", "1", "1", "10"] d).trans (congrArg (· ++ d) (by decide))
  have htext' : (KeySettings.hashOf { function := .scrypt 1 1 1, keyLength := 10, masked := true }
      [1] digest).encode = "$2s$AQ$" ++ d :=
    (join_concat ["2s", "AQ"] d).trans (congrArg (· ++ d) (by decide))
  have hpublic : (compare ("$2s$AQ$2$1$1$10$" ++ d) []).result = .ok () :=
    compare_eq_ok_iff.2 (htext ▸ haccepted)
  have hmasked : ((Profile.custom
      (.key { function := .scrypt 1 1 1, keyLength := 10, masked := true })).compare
        ("$2s$AQ$" ++ d) []).result = .ok () :=
    Parameters.compare_eq_ok_iff.2 (htext' ▸ haccepts)
  refine ⟨d, ⟨hpublic, ?_⟩, hmasked, ?_⟩
  · exact ((changed_digest_refused ⟨⟨"$2s$", by simp, by decide⟩, by decide⟩ hd hpadded).1
      hpublic).2 hne
  · exact ((changed_digest_refused ⟨⟨"$2s$", by simp, by decide⟩, by decide⟩ hd hpadded).2
      _ _ rfl hmasked).2 hne

end PasswordHashing
