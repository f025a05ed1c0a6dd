import Mathlib.Data.List.Forall2
import PasswordHashing.Config
import PasswordHashing.Proofs.Config.Members
import PasswordHashing.Proofs.Json.RoundTrip

/-!
Configurations that are written and read again. The members that are written are those that
a reader knows, each once and with a value that its field reads, so the reader takes them
one after another and finds every field. What is not written is the secret and the pinned
salt. Main statement: what comes back is the configuration without these two, and the
profile it builds is the one of the original without them; two configurations have the same
text exactly if they differ in nothing else.
-/

namespace PasswordHashing

namespace Config

open Json

/-! ### Names -/

theorem plain_variantName (variant : Argon2.Variant) : Plain (variantName variant).toList := by
  cases variant <;> decide

theorem plain_familyName (family : Family) : Plain family.name.toList := by
  cases family <;> decide

theorem familyNamed?_name (family : Family) : familyNamed? family.name = some family := by
  cases family <;> decide

theorem plain_kindName (kind : ProfileKind) : Plain kind.name.toList := by
  cases kind <;> decide

theorem readNamed_writeName {α : Type} {find? : String → Option α} {known : List String}
    {name : String} {a : α} (hplain : Plain name.toList) (hfind : find? name = some a)
    (rest : List Char) : readNamed find? known (writeName name ++ rest) = .ok (a, rest) := by
  have hpeek : (peekToken : Reader Char) (writeName name ++ rest) =
      .ok ('"', writeName name ++ rest) := peekToken_cons rfl _
  rw [readNamed, bind_of_ok hpeek]
  refine (bind_of_ok (readName_writeName hplain .keep rest)).trans ?_
  rw [hfind]
  rfl

theorem readFamily_writeName (family : Family) (rest : List Char) :
    readFamily (writeName family.name ++ rest) = .ok (family, rest) :=
  readNamed_writeName (plain_familyName family) (familyNamed?_name family) rest

/-! ### The text of parameters -/

/-- A member that is written, is not the family, and is read as a value. -/
structure Spells (written : String × List Char) (member : String × Json) : Prop where
  name_eq : written.1 = member.1
  plain : Plain written.1.toList
  ne_tag : written.1 ≠ tagName
  reads : Reads written.2 member.2

theorem spells_of_reads {name : String} (hplain : Plain name.toList) (hne : name ≠ tagName)
    {text : List Char} {value : Json} (h : Reads text value) : Spells (name, text) (name, value) :=
  ⟨rfl, hplain, hne, h⟩

theorem reads_word32 (n : UInt32) : Reads (writeNat n.toNat) (.number (.integer n.toNat)) :=
  reads_writeNat (Nat.lt_trans n.toNat_lt_size (by decide))

theorem spells_functionValues (function : KeyDerivation) :
    List.Forall₂ Spells (functionMembers function) (functionValues function) := by
  cases function with
  | argon2 variant time memory threads =>
      have hvariant := reads_writeName (plain_variantName variant)
      exact .cons (spells_of_reads (by decide) (by decide) hvariant) <|
        .cons (spells_of_reads (by decide) (by decide) (reads_word32 time)) <|
          .cons (spells_of_reads (by decide) (by decide) (reads_word32 memory)) <|
            .cons (spells_of_reads (by decide) (by decide) (reads_word32 threads)) .nil
  | scrypt logN r p =>
      have hlogN : Reads (writeNat logN.toNat) (.number (.integer logN.toNat)) :=
        reads_writeNat (Nat.lt_trans logN.toNat_lt_size (by decide))
      exact .cons (spells_of_reads (by decide) (by decide) hlogN) <|
        .cons (spells_of_reads (by decide) (by decide) (reads_word32 r)) <|
          .cons (spells_of_reads (by decide) (by decide) (reads_word32 p)) .nil

theorem spells_commonValues (s : KeySettings) :
    List.Forall₂ Spells [(keyLengthField.name, writeNat s.keyLength.toNat),
      (saltLengthField.name, writeNat s.saltLength.toNat), (maskedField.name, writeBool s.masked)]
      (commonValues s) :=
  have hkeyLength := reads_writeNat s.keyLength.toNat_lt_size
  have hsaltLength := reads_writeNat s.saltLength.toNat_lt_size
  .cons (spells_of_reads (by decide) (by decide) hkeyLength) <|
    .cons (spells_of_reads (by decide) (by decide) hsaltLength) <|
      .cons (spells_of_reads (by decide) (by decide) (reads_writeBool s.masked)) .nil

theorem stepsThrough_of_spells {written : List (String × List Char)} {members : Members}
    (h : List.Forall₂ Spells written members) (depth : Nat) (tag : Option Family)
    (seen : Members) :
    StepsThrough (tagOrMember depth) (tag, seen) written (tag, members.reverse ++ seen) := by
  -- what has been read is kept last member first, on top of what was there before
  induction h generalizing seen with
  | nil => exact .nil _
  | @cons written member written' members' hspells _ ih =>
      obtain ⟨name, text⟩ := written
      obtain ⟨name', value⟩ := member
      obtain rfl : name = name' := hspells.name_eq
      have hmore : StepsThrough (tagOrMember depth) (tag, (name, value) :: seen) written'
          (tag, ((name, value) :: members').reverse ++ seen) := by
        rw [List.reverse_cons, List.append_assoc]
        exact ih ((name, value) :: seen)
      refine .cons hspells.plain (fun rest hrest => ?_) hmore
      rw [tagOrMember, if_neg hspells.ne_tag, bind_of_ok (readColon_cons _),
        bind_of_ok (hspells.reads Fault depth rest hrest)]
      rfl

theorem stepsThrough_family (depth : Nat) (family : Family) {written : List (String × List Char)}
    {members : Members} (h : List.Forall₂ Spells written members) :
    StepsThrough (tagOrMember depth) (none, []) ((tagName, writeName family.name) :: written)
      (some family, members.reverse) := by
  have hmore := stepsThrough_of_spells h depth (some family) []
  rw [List.append_nil] at hmore
  refine .cons (by decide) (fun rest _ => ?_) hmore
  rw [tagOrMember, if_pos rfl]
  exact (bind_of_ok (readColon_cons _)).trans (bind_of_ok (readFamily_writeName family rest))

/-- Parameters are written as their family and the members that are read as their values. -/
theorem exists_spells (p : Parameters) :
    ∃ written, writeParameters p = writeObject ((tagName, writeName p.family.name) :: written) ∧
      List.Forall₂ Spells written (parameterValues p) := by
  cases p with
  | key s =>
      exact ⟨_, rfl, List.rel_append (spells_functionValues s.function) (spells_commonValues s)⟩
  | bcrypt cost =>
      exact ⟨_, rfl, .cons (spells_of_reads (by decide) (by decide) (reads_word32 cost)) .nil⟩

theorem readParameters_writeParameters (p : Parameters) {depth : Nat} (hdepth : 2 ≤ depth)
    (rest : List Char) :
    readParameters depth (writeParameters p ++ rest) = .ok (p.cleared, rest) := by
  obtain ⟨written, hwritten, hspells⟩ := exists_spells p
  have htext : writeParameters p ++ rest =
      '{' :: (writeMembers ((tagName, writeName p.family.name) :: written) ++ '}' :: rest) := by
    rw [hwritten, writeObject, List.append_assoc]
    rfl
  have henter : (enter .keep depth : Reader Unit) = pure () := if_neg (by omega)
  have hmembers := readMembers_writeMembers
    (stepsThrough_family (depth - 1) p.family hspells) .keep rest
  rw [htext, readParameters, bind_of_ok (peekToken_cons rfl _)]
  refine (bind_of_ok (readToken_cons rfl _)).trans ?_
  rw [henter, pure_bind, bind_of_ok hmembers]
  simp only [List.reverse_reverse, ofMembers_parameterValues]
  rfl

theorem readDocument_of_ok {α : Type} {read : Reader α} {text : List Char} {a : α}
    (h : read text = .ok (a, [])) : readDocument read (String.ofList text) = .ok a := by
  rw [readDocument, String.toList_ofList, h]
  rfl

end Config

namespace Parameters

theorem ofText_text (p : Parameters) : ofText p.text = .ok p.cleared := by
  have hdepth : 2 ≤ Json.maxDepth := by decide
  have hread := Config.readParameters_writeParameters p hdepth []
  rw [List.append_nil] at hread
  exact Config.readDocument_of_ok hread

theorem text_cleared (p : Parameters) : p.cleared.text = p.text := by
  cases p <;> rfl

theorem text_eq_iff (p q : Parameters) : p.text = q.text ↔ p.cleared = q.cleared := by
  constructor
  · intro h
    have hread := p.ofText_text
    rw [h, q.ofText_text] at hread
    exact (Except.ok.inj hread).symm
  · intro h
    rw [← p.text_cleared, h, q.text_cleared]

end Parameters

namespace ProfileConfig

open Config Json

/-! ### The text of a configuration -/

theorem readKind_writeName (depth : Nat) (kind : ProfileKind) (rest : List Char) :
    readKind depth (writeName kind.name ++ rest) = .ok (kind, rest) := by
  have hpeek : (peekToken : Reader Char) (writeName kind.name ++ rest) =
      .ok ('"', writeName kind.name ++ rest) := peekToken_cons rfl _
  rw [readKind, bind_of_ok hpeek]
  refine (bind_of_ok hpeek).trans ?_
  exact readNamed_writeName (plain_kindName kind) (ProfileKind.named?_name kind) rest

theorem readFlag_writeBool (flag : Bool) (rest : List Char) :
    readFlag (writeBool flag ++ rest) = .ok (flag, rest) := by
  cases flag <;> rfl

theorem readCustom_writeParameters (q : Parameters) {depth : Nat} (hdepth : 2 ≤ depth)
    (rest : List Char) :
    readCustom depth (writeParameters q ++ rest) = .ok (some q.cleared, rest) := by
  obtain ⟨written, hwritten, -⟩ := exists_spells q
  have hpeek : (peekToken : Reader Char) (writeParameters q ++ rest) =
      .ok ('{', writeParameters q ++ rest) := by
    rw [hwritten]
    exact peekToken_cons rfl _
  rw [readCustom, bind_of_ok hpeek]
  exact bind_of_ok (readParameters_writeParameters q hdepth rest)

theorem stepsThrough_custom (custom : Option Parameters) {depth : Nat} (hdepth : 2 ≤ depth)
    {d : Draft} (hd : d.custom = none) :
    StepsThrough (readMember depth) d
      (custom.toList.map fun parameters => ("custom", writeParameters parameters))
      { d with custom := custom.map (some ∘ Parameters.cleared) } := by
  cases custom with
  | none =>
      obtain ⟨profile, masked, custom⟩ := d
      obtain rfl : custom = none := hd
      exact .nil _
  | some q =>
      refine .cons (by decide) (fun rest _ => ?_) (.nil _)
      rw [readMember, if_neg (by decide), if_neg (by decide), if_pos rfl, hd]
      refine (bind_of_ok (readColon_cons _)).trans ?_
      exact bind_of_ok (readCustom_writeParameters q hdepth rest)

theorem stepsThrough_write (c : ProfileConfig) {depth : Nat} (hdepth : 2 ≤ depth) :
    StepsThrough (readMember depth) {}
      ([("profile", writeName c.profile.name), ("masked", writeBool c.masked)] ++
        c.custom.toList.map fun parameters => ("custom", writeParameters parameters))
      { profile := some c.profile, masked := some c.masked,
        custom := c.custom.map (some ∘ Parameters.cleared) } := by
  have hprofile : ∀ rest,
      readMember depth {} "profile" (':' :: (writeName c.profile.name ++ rest)) =
        .ok ({ profile := some c.profile }, rest) := by
    intro rest
    rw [readMember, if_pos rfl]
    refine (bind_of_ok (readColon_cons _)).trans ?_
    exact bind_of_ok (readKind_writeName depth c.profile rest)
  have hmasked : ∀ rest,
      readMember depth { profile := some c.profile } "masked"
          (':' :: (writeBool c.masked ++ rest)) =
        .ok ({ profile := some c.profile, masked := some c.masked }, rest) := by
    intro rest
    rw [readMember, if_neg (by decide), if_pos rfl]
    refine (bind_of_ok (readColon_cons _)).trans ?_
    exact bind_of_ok (readFlag_writeBool c.masked rest)
  have hcustom := stepsThrough_custom c.custom hdepth
    (d := { profile := some c.profile, masked := some c.masked }) rfl
  exact .cons (by decide) (fun rest _ => hprofile rest) <|
    .cons (by decide) (fun rest _ => hmasked rest) hcustom

theorem ofText_text (c : ProfileConfig) : ofText c.text = .ok c.cleared := by
  have hdepth : 2 ≤ maxDepth - 1 := by decide
  have hmembers := readMembers_writeMembers (stepsThrough_write c hdepth) .keep []
  have henter : (enter .keep maxDepth : Reader Unit) = pure () := if_neg (by decide)
  apply readDocument_of_ok
  rw [write, writeObject, read, List.cons_append, bind_of_ok (peekToken_cons rfl _)]
  refine (bind_of_ok (readToken_cons rfl _)).trans ?_
  rw [henter, pure_bind, bind_of_ok hmembers]
  simp only [Draft.finish, ProfileConfig.cleared]
  cases c.custom <;> rfl

theorem text_cleared (c : ProfileConfig) : c.cleared.text = c.text := by
  obtain ⟨profile, masked, custom⟩ := c
  cases custom with
  | none => rfl
  | some q => cases q <;> rfl

theorem text_eq_iff (c d : ProfileConfig) : c.text = d.text ↔ c.cleared = d.cleared := by
  constructor
  · intro h
    have hread := c.ofText_text
    rw [h, d.ofText_text] at hread
    exact (Except.ok.inj hread).symm
  · intro h
    rw [← c.text_cleared, h, d.text_cleared]

end ProfileConfig

/-- Parameters and configurations come back from their text, but for what they hold as a
secret or a pinned salt; that is not in the text, which tells all else apart. The
configuration that comes back builds a profile if and only if the original does, and then it
is the same profile, again but for these two. -/
theorem configuration_survives_its_text (p : Parameters) (c : ProfileConfig) :
    Parameters.ofText p.text = .ok p.cleared ∧
      (∀ q : Parameters, p.text = q.text ↔ p.cleared = q.cleared) ∧
      ProfileConfig.ofText c.text = .ok c.cleared ∧
      (∀ d : ProfileConfig, c.text = d.text ↔ c.cleared = d.cleared) ∧
      c.cleared.build = c.build.map Profile.cleared :=
  ⟨p.ofText_text, p.text_eq_iff, c.ofText_text, c.text_eq_iff, c.build_cleared⟩

end PasswordHashing
