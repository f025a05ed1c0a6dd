import PasswordHashing.Proofs.Config.Build
import PasswordHashing.Proofs.HashText.Cost

/-!
Parameters from members that have been read. A known field is found where its member is the
only one of its name, and members are in order where there is one for each field. Main
statement: the members that parameters are written with give the parameters back, except
for the secret and the pinned salt, which are not among them.
-/

namespace PasswordHashing

namespace Config

/-! ### Values that are written -/

theorem readBelow_of_lt {size n : Nat} (h : n < size) (wanted : Wanted) :
    readBelow size wanted (.number (.integer n)) = .ok n := by
  have hrange : (0 : Int) ≤ n ∧ (n : Int) < size := by omega
  simp only [readBelow, if_pos hrange, Int.toNat_natCast]

theorem readByte_toNat (n : UInt8) : readByte (.number (.integer n.toNat)) = .ok n := by
  rw [readByte, readBelow_of_lt n.toNat_lt_size]
  exact congrArg Except.ok UInt8.ofNat_toNat

theorem readWord32_toNat (n : UInt32) : readWord32 (.number (.integer n.toNat)) = .ok n := by
  rw [readWord32, readBelow_of_lt n.toNat_lt_size]
  exact congrArg Except.ok UInt32.ofNat_toNat

theorem readWord64_toNat (n : UInt64) : readWord64 (.number (.integer n.toNat)) = .ok n := by
  rw [readWord64, readBelow_of_lt n.toNat_lt_size]
  exact congrArg Except.ok UInt64.ofNat_toNat

theorem readVariant_variantName (variant : Argon2.Variant) :
    readVariant (.string (variantName variant)) = .ok variant := by
  cases variant <;> rfl

/-! ### Fields among the members -/

/-- Of elements with names of their own, the first of a name is the only one. -/
theorem find?_eq_of_mem {α : Type} {name : α → String} {elements : List α}
    (hdistinct : (elements.map name).Nodup) {a : α} (ha : a ∈ elements) :
    elements.find? (name · = name a) = some a := by
  induction elements with
  | nil => exact absurd ha List.not_mem_nil
  | cons b elements ih =>
      rw [List.map_cons, List.nodup_cons] at hdistinct
      rcases List.mem_cons.1 ha with rfl | ha
      · exact List.find?_cons_of_pos (decide_eq_true rfl)
      · have hne : name b ≠ name a := by
          intro hsame
          exact hdistinct.1 (hsame ▸ List.mem_map_of_mem ha)
        rw [List.find?_cons_of_neg (by simpa using hne)]
        exact ih hdistinct.2 ha

section Fields

variable {α : Type} {f : Field α} {fields : List (Field Unit)} {members : Members} {value : Json}
  {a : α}

theorem Field.find?_of_mem (hdistinct : (members.map Prod.fst).Nodup)
    (hread : f.read value = .ok a) (hmember : (f.name, value) ∈ members) :
    f.find? members = .ok (some a) := by
  rw [Field.find?, find?_eq_of_mem hdistinct hmember]
  exact congrArg (some <$> ·) hread

theorem Field.required_of_mem (hdistinct : (members.map Prod.fst).Nodup)
    (hread : f.read value = .ok a) (hmember : (f.name, value) ∈ members) :
    f.required members = .ok a := by
  rw [required, find?_of_mem hdistinct hread hmember]
  rfl

theorem Field.withDefault_of_mem (hdistinct : (members.map Prod.fst).Nodup)
    (hread : f.read value = .ok a) (hmember : (f.name, value) ∈ members) (default : α) :
    f.withDefault default members = .ok a := by
  rw [withDefault, find?_of_mem hdistinct hread hmember]
  rfl

/-- A member of the field, with a value that the field takes. -/
def Fits (f : Field Unit) (member : String × Json) : Prop :=
  f.name = member.1 ∧ f.read member.2 = .ok ()

theorem fits_checked (hread : f.read value = .ok a) : Fits f.checked (f.name, value) :=
  ⟨rfl, congrArg (Except.map fun _ => ()) hread⟩

theorem names_of_fits (h : List.Forall₂ Fits fields members) :
    members.map Prod.fst = fields.map Field.name := by
  induction h with
  | nil => rfl
  | cons hfits _ ih => rw [List.map_cons, List.map_cons, ih, hfits.1]

theorem exists_fits_of_mem (h : List.Forall₂ Fits fields members) {member : String × Json}
    (hmember : member ∈ members) : ∃ f ∈ fields, Fits f member := by
  induction h with
  | nil => exact absurd hmember List.not_mem_nil
  | @cons f other fields members hfits _ ih =>
      rcases List.mem_cons.1 hmember with rfl | hmember
      · exact ⟨f, List.mem_cons_self, hfits⟩
      · obtain ⟨g, hg, hfits⟩ := ih hmember
        exact ⟨g, List.mem_cons_of_mem f hg, hfits⟩

theorem checkMembers_eq_ok {seen : List String} (hfields : (fields.map Field.name).Nodup)
    (hread : ∀ m ∈ members, ∃ f ∈ fields, Fits f m) (hdistinct : (members.map Prod.fst).Nodup)
    (hseen : ∀ m ∈ members, m.1 ∉ seen) : checkMembers fields seen members = .ok () := by
  induction members generalizing seen with
  | nil => rfl
  | cons member members ih =>
      obtain ⟨name, value⟩ := member
      obtain ⟨⟨f, hf, rfl, hvalue⟩, hreadMore⟩ := List.forall_mem_cons.1 hread
      obtain ⟨hnew, hseenMore⟩ := List.forall_mem_cons.1 hseen
      rw [List.map_cons, List.nodup_cons] at hdistinct
      simp only [checkMembers, find?_eq_of_mem hfields hf, if_neg hnew, hvalue]
      apply ih hreadMore hdistinct.2
      intro m hm hmem
      rcases List.mem_cons.1 hmem with hsame | hmem
      · exact hdistinct.1 (List.mem_map.2 ⟨m, hm, hsame⟩)
      · exact hseenMore m hm hmem

/-- One member for each field, in the order of the fields. -/
theorem checkMembers_of_fits (h : List.Forall₂ Fits fields members)
    (hfields : (fields.map Field.name).Nodup) : checkMembers fields [] members = .ok () := by
  have hdistinct : (members.map Prod.fst).Nodup := by rwa [names_of_fits h]
  exact checkMembers_eq_ok hfields (fun _ => exists_fits_of_mem h) hdistinct
    fun _ _ => List.not_mem_nil

end Fields

/-! ### Parameters -/

/-- The members that a function is written with, as values. -/
def functionValues : KeyDerivation → Members
  | .argon2 variant time memory threads => [(variantField.name, .string (variantName variant)),
      (timeField.name, .number (.integer time.toNat)),
      (memoryField.name, .number (.integer memory.toNat)),
      (threadsField.name, .number (.integer threads.toNat))]
  | .scrypt logN r p => [(logNField.name, .number (.integer logN.toNat)),
      (rField.name, .number (.integer r.toNat)), (pField.name, .number (.integer p.toNat))]

/-- The members that all key settings are written with, as values. -/
def commonValues (s : KeySettings) : Members :=
  [(keyLengthField.name, .number (.integer s.keyLength.toNat)),
    (saltLengthField.name, .number (.integer s.saltLength.toNat)),
    (maskedField.name, .bool s.masked)]

/-- The members that parameters are written with behind their family, as values. -/
def parameterValues : Parameters → Members
  | .key s => functionValues s.function ++ commonValues s
  | .bcrypt cost => [(costField.name, .number (.integer cost.toNat))]

theorem fits_commonValues (s : KeySettings) :
    List.Forall₂ Fits [keyLengthField.checked, saltLengthField.checked, maskedField.checked]
      (commonValues s) :=
  .cons (fits_checked (readWord64_toNat s.keyLength)) <|
    .cons (fits_checked (readWord64_toNat s.saltLength)) <|
      .cons (fits_checked (a := s.masked) rfl) .nil

section Key

variable {s : KeySettings} (hdistinct : ((parameterValues (.key s)).map Prod.fst).Nodup)

theorem functionValues_subset (s : KeySettings) :
    functionValues s.function ⊆ parameterValues (.key s) := List.subset_append_left _ _

theorem commonValues_subset (s : KeySettings) : commonValues s ⊆ parameterValues (.key s) :=
  List.subset_append_right _ _

include hdistinct

theorem keyLength_of_parameterValues :
    keyLengthField.required (parameterValues (.key s)) = .ok s.keyLength :=
  Field.required_of_mem hdistinct (readWord64_toNat s.keyLength)
    (commonValues_subset s (by simp [commonValues]))

theorem saltLength_of_parameterValues (default : UInt64) :
    saltLengthField.withDefault default (parameterValues (.key s)) = .ok s.saltLength := by
  have hread : saltLengthField.read (.number (.integer s.saltLength.toNat)) = .ok s.saltLength :=
    readWord64_toNat s.saltLength
  exact Field.withDefault_of_mem hdistinct hread
    (commonValues_subset s (by simp [commonValues])) default

theorem masked_of_parameterValues (default : Bool) :
    maskedField.withDefault default (parameterValues (.key s)) = .ok s.masked := by
  have hread : maskedField.read (.bool s.masked) = .ok s.masked := rfl
  exact Field.withDefault_of_mem hdistinct hread
    (commonValues_subset s (by simp [commonValues])) default

end Key

theorem argon2OfMembers_parameterValues {s : KeySettings} {variant : Argon2.Variant}
    {time memory threads : UInt32} (hs : s.function = .argon2 variant time memory threads) :
    argon2OfMembers (parameterValues (.key s)) = .ok (Parameters.key s).cleared := by
  have hfits : List.Forall₂ Fits [variantField.checked, timeField.checked, memoryField.checked,
      threadsField.checked, keyLengthField.checked, saltLengthField.checked, maskedField.checked]
      (parameterValues (.key s)) := by
    rw [parameterValues, hs]
    exact .cons (fits_checked (readVariant_variantName variant)) <|
      .cons (fits_checked (readWord32_toNat time)) <|
        .cons (fits_checked (readWord32_toNat memory)) <|
          .cons (fits_checked (readWord32_toNat threads)) (fits_commonValues s)
  have hnames : ["variant", "time", "memory", "threads", "key_len", "salt_len",
      "masked"].Nodup := by decide
  have hdistinct : ((parameterValues (.key s)).map Prod.fst).Nodup := by
    rw [names_of_fits hfits]
    exact hnames
  have hfunction := functionValues_subset s
  rw [hs] at hfunction
  have hread : variantField.read (.string (variantName variant)) = .ok variant :=
    readVariant_variantName variant
  have hvariant : variantField.withDefault .id (parameterValues (.key s)) = .ok variant :=
    Field.withDefault_of_mem hdistinct hread (hfunction (by simp [functionValues])) .id
  have htime : timeField.required (parameterValues (.key s)) = .ok time :=
    Field.required_of_mem hdistinct (readWord32_toNat time) (hfunction (by simp [functionValues]))
  have hmemory : memoryField.required (parameterValues (.key s)) = .ok memory :=
    Field.required_of_mem hdistinct (readWord32_toNat memory)
      (hfunction (by simp [functionValues]))
  have hthreads : threadsField.required (parameterValues (.key s)) = .ok threads :=
    Field.required_of_mem hdistinct (readWord32_toNat threads)
      (hfunction (by simp [functionValues]))
  simp only [argon2OfMembers, checkMembers_of_fits hfits hnames, hvariant, htime, hmemory, hthreads,
    keyLength_of_parameterValues hdistinct, saltLength_of_parameterValues hdistinct,
    masked_of_parameterValues hdistinct, ok_bind, Parameters.cleared, hs]
  rfl

theorem scryptOfMembers_parameterValues {s : KeySettings} {logN : UInt8} {r p : UInt32}
    (hs : s.function = .scrypt logN r p) :
    scryptOfMembers (parameterValues (.key s)) = .ok (Parameters.key s).cleared := by
  have hfits : List.Forall₂ Fits [logNField.checked, rField.checked, pField.checked,
      keyLengthField.checked, saltLengthField.checked, maskedField.checked]
      (parameterValues (.key s)) := by
    rw [parameterValues, hs]
    exact .cons (fits_checked (readByte_toNat logN)) <|
      .cons (fits_checked (readWord32_toNat r)) <|
        .cons (fits_checked (readWord32_toNat p)) (fits_commonValues s)
  have hnames : ["log_n", "r", "p", "key_len", "salt_len", "masked"].Nodup := by decide
  have hdistinct : ((parameterValues (.key s)).map Prod.fst).Nodup := by
    rw [names_of_fits hfits]
    exact hnames
  have hfunction := functionValues_subset s
  rw [hs] at hfunction
  have hlogN : logNField.required (parameterValues (.key s)) = .ok logN :=
    Field.required_of_mem hdistinct (readByte_toNat logN) (hfunction (by simp [functionValues]))
  have hr : rField.required (parameterValues (.key s)) = .ok r :=
    Field.required_of_mem hdistinct (readWord32_toNat r) (hfunction (by simp [functionValues]))
  have hp : pField.required (parameterValues (.key s)) = .ok p :=
    Field.required_of_mem hdistinct (readWord32_toNat p) (hfunction (by simp [functionValues]))
  simp only [scryptOfMembers, checkMembers_of_fits hfits hnames, hlogN, hr, hp,
    keyLength_of_parameterValues hdistinct, saltLength_of_parameterValues hdistinct,
    masked_of_parameterValues hdistinct, ok_bind, Parameters.cleared, hs]
  rfl

theorem bcryptOfMembers_parameterValues (cost : UInt32) :
    bcryptOfMembers (parameterValues (.bcrypt cost)) = .ok (.bcrypt cost) := by
  have hfits : List.Forall₂ Fits [costField.checked] (parameterValues (.bcrypt cost)) :=
    .cons (fits_checked (readWord32_toNat cost)) .nil
  have hnames : ["cost"].Nodup := by decide
  have hcost : costField.required (parameterValues (.bcrypt cost)) = .ok cost :=
    Field.required_of_mem hnames (readWord32_toNat cost) List.mem_cons_self
  simp only [bcryptOfMembers, checkMembers_of_fits hfits hnames, hcost, ok_bind]
  rfl

theorem ofMembers_parameterValues (p : Parameters) :
    ofMembers p.family (parameterValues p) = .ok p.cleared := by
  cases p with
  | bcrypt cost => exact bcryptOfMembers_parameterValues cost
  | key s =>
      cases hs : s.function with
      | argon2 variant time memory threads =>
          have hfamily : s.family = .argon2 := by rw [KeySettings.family, hs]; rfl
          rw [Parameters.family, hfamily]
          exact argon2OfMembers_parameterValues hs
      | scrypt logN r p =>
          have hfamily : s.family = .scrypt := by rw [KeySettings.family, hs]; rfl
          rw [Parameters.family, hfamily]
          exact scryptOfMembers_parameterValues hs

end Config

end PasswordHashing
