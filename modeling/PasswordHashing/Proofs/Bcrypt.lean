import PasswordHashing.Bcrypt
import PasswordHashing.Proofs.HashText.Grammar

/-!
Bcrypt's own texts. Encrypting keeps the number of words, so a digest has its twenty-three
bytes whatever the schedule; salt and digest then fill the fifty-three symbols of a text,
and what is written is read back. Main statement: the text that is made of a password is
a bcrypt text, and the password has the digest that stands in it.
-/

namespace PasswordHashing.Bcrypt

open HashText

/-! ### The length of a digest -/

@[simp] theorem encryptPairs_length (s : Schedule) (words : List UInt32) :
    (encryptPairs s words).length = words.length := by
  fun_induction encryptPairs s words with
  | case1 a b rest x ih => simp only [List.length_cons, ih]
  | case2 => rfl

theorem repeat_encryptPairs_length (s : Schedule) (n : Nat) (words : List UInt32) :
    (Nat.repeat (encryptPairs s) n words).length = words.length := by
  induction n with
  | zero => rfl
  | succ n ih => rw [Nat.repeat, encryptPairs_length, ih]

theorem plaintext_length : plaintext.length = 6 := by decide +kernel

@[simp] theorem digest_length (cost : Nat) (salt password : Bytes) :
    (digest cost salt password).length = digestLength := by
  simp [digest, List.length_flatMap, repeat_encryptPairs_length, plaintext_length, digestLength]

/-! ### Writing and reading -/

/-- A record of the lengths and the range of cost that a text has room for. -/
structure Record.Fits (record : Record) : Prop where
  le_cost : minCost ≤ record.cost
  cost_le : record.cost ≤ maxCost
  salt_length : record.salt.length = saltLength
  digest_length : record.digest.length = digestLength

theorem spells_costText (cost : Nat) : Decimal.Spells (costText cost) cost := by
  obtain ⟨hdigits, hvalue⟩ := Decimal.spells_repr cost
  unfold costText
  split
  · refine ⟨⟨by simp, ?_⟩, ?_⟩
    · intro c hc
      rw [String.toList_append, List.mem_append] at hc
      rcases hc with hc | hc
      · rw [List.mem_singleton.1 hc]
        rfl
      · exact hdigits.2 c hc
    · rw [String.toList_append]
      exact hvalue
  · exact ⟨hdigits, hvalue⟩

/-- A number that is written bears no sign. -/
theorem readCost?_of_spells {text : String} {cost : Nat} (h : Decimal.Spells text cost)
    (hle : minCost ≤ cost) (hge : cost ≤ maxCost) : readCost? text.toList = some cost := by
  have hsign : text.toList.head? ≠ some '+' := by
    intro hhead
    exact absurd (h.1.2 _ (List.mem_of_head? hhead)) (by decide)
  have hlt : cost < UInt32.size := by
    simp only [maxCost] at hge
    simp only [UInt32.size]
    omega
  have hread : Decimal.read32? text.toList = some (.ofNat cost) := by
    rw [Decimal.read32?_eq_some_iff, UInt32.toNat_ofNat_of_lt' hlt]
    exact h
  simp only [readCost?, if_neg hsign, hread, Option.bind_eq_bind, Option.bind_some,
    UInt32.toNat_ofNat_of_lt' hlt]
  exact if_pos ⟨hle, hge⟩

/-- The symbols of salt and digest, one after another. -/
def Record.payload (record : Record) : String :=
  String.ofList (Base64.bcrypt.encode record.salt ++ Base64.bcrypt.encode record.digest)

theorem Record.write_eq_join (record : Record) :
    record.write = join ["2b", costText record.cost, record.payload] := rfl

theorem Record.readPayload?_payload {record : Record} (h : record.Fits) :
    readPayload? record.cost record.payload.toList = some record := by
  have hsalt : (Base64.bcrypt.encode record.salt).length = 22 := by
    rw [Base64.encode_length, h.salt_length]
    rfl
  have hdigest : (Base64.bcrypt.encode record.digest).length = 31 := by
    rw [Base64.encode_length, h.digest_length]
    rfl
  rw [readPayload?, payload, String.toList_ofList, List.take_left' hsalt, List.drop_left' hsalt,
    List.length_append, hsalt, hdigest, if_pos rfl, Base64.decode?_encode, Base64.decode?_encode]
  rfl

theorem Record.isField_payload {record : Record} (h : record.Fits) : IsField record.payload := by
  rw [payload, isField_ofList_iff]
  constructor
  · intro hnil
    have hempty := Base64.bcrypt.encode_eq_nil_iff.1 (List.append_eq_nil_iff.1 hnil).2
    have hlength := h.digest_length
    rw [hempty] at hlength
    cases hlength
  · intro hmem
    have hsymbol : separator ∈ Base64.bcrypt.symbols := by
      rcases List.mem_append.1 hmem with hmem | hmem
      · exact Base64.bcrypt.mem_symbols_of_mem_encode hmem
      · exact Base64.bcrypt.mem_symbols_of_mem_encode hmem
    exact absurd hsymbol (by decide)

theorem Record.grammar_write {record : Record} (h : record.Fits) :
    Grammar record.write (.bcrypt record.write) := by
  rw [record.write_eq_join]
  exact .bcrypt (by simp) (isField_of_decimal (spells_costText record.cost))
    (record.isField_payload h)

theorem Record.read?_write {record : Record} (h : record.Fits) :
    read? record.write = some record := by
  have hcost := isField_of_decimal (spells_costText record.cost)
  have hidentifier : "2b" ∈ Algorithm.bcryptIdentifiers := by decide
  have hfields := isField_of_bcrypt hidentifier hcost (record.isField_payload h)
  rw [read?, record.write_eq_join, fields_join (by simp) hfields]
  simp only [readCost?_of_spells (spells_costText record.cost) h.le_cost h.cost_le,
    Option.bind_eq_bind, Option.bind_some]
  exact record.readPayload?_payload h

/-! ### Hashing and checking -/

theorem fits_hash {cost : Nat} {salt : Bytes} (password : Bytes) (hle : minCost ≤ cost)
    (hge : cost ≤ maxCost) (hsalt : salt.length = saltLength) :
    (hash cost salt password).Fits where
  le_cost := hle
  cost_le := hge
  salt_length := hsalt
  digest_length := by simp only [hash, digest_length]

theorem parse_write_hash {cost : Nat} {salt : Bytes} (password : Bytes) (hle : minCost ≤ cost)
    (hge : cost ≤ maxCost) (hsalt : salt.length = saltLength) :
    parse (hash cost salt password).write = .ok (.bcrypt (hash cost salt password).write) :=
  parse_of_grammar (Record.grammar_write (fits_hash password hle hge hsalt))

theorem verify?_write_hash {cost : Nat} {salt : Bytes} (password : Bytes) (hle : minCost ≤ cost)
    (hge : cost ≤ maxCost) (hsalt : salt.length = saltLength) :
    verify? (hash cost salt password).write password = some true := by
  rw [verify?, Record.read?_write (fits_hash password hle hge hsalt), Option.map_some]
  simp [hash]

end PasswordHashing.Bcrypt
