import PasswordHashing.HashText.Fields

/-!
Splitting a text into fields and joining fields into a text are inverse to each other. A
text that is split has at least one field, no field of it is empty or holds a separator,
and joining its fields gives it back; fields like these come back when their text is split.
A text of fields that another one starts with ends inside one of the other's fields.
-/

namespace PasswordHashing.HashText

/-- One or more characters, none of which is the separator. -/
def IsField (field : String) : Prop := field.toList ≠ [] ∧ separator ∉ field.toList

instance (field : String) : Decidable (IsField field) := inferInstanceAs (Decidable (_ ∧ _))

theorem IsField.ne_empty {field : String} (h : IsField field) : field ≠ "" := by
  rintro rfl
  exact h.1 rfl

theorem isField_ofList_iff {text : List Char} :
    IsField (String.ofList text) ↔ text ≠ [] ∧ separator ∉ text := by
  rw [IsField, String.toList_ofList]

/-! ### Joining -/

@[simp] theorem join_cons_toList (field : String) (fs : List String) :
    (join (field :: fs)).toList = separator :: (field.toList ++ (join fs).toList) := by
  simp [join]

theorem join_concat (fs : List String) (d : String) : join (fs ++ [d]) = join fs ++ "$" ++ d := by
  apply String.toList_inj.1
  simp [join, separator]

theorem join_toList_eq_intercalate {fs : List String} (h : fs ≠ []) :
    (join fs).toList = separator :: [separator].intercalate (fs.map String.toList) := by
  induction fs with
  | nil => exact absurd rfl h
  | cons field fs ih =>
      rw [join_cons_toList]
      cases fs with
      | nil => simp [join]
      | cons next fs => simp [ih]

/-! ### Splitting what was joined -/

theorem splitOn_intercalate_toList {fs : List String} (hne : fs ≠ [])
    (h : ∀ field ∈ fs, separator ∉ field.toList) :
    ([separator].intercalate (fs.map String.toList)).splitOn separator =
      fs.map String.toList := by
  apply List.splitOn_intercalate
  · simpa using h
  · simpa using hne

/-- An empty field is the one thing that can be wrong with what was joined. -/
theorem fields_join_of_no_separator {fs : List String} (hne : fs ≠ [])
    (h : ∀ field ∈ fs, separator ∉ field.toList) :
    fields (join fs) = if "" ∈ fs then .error .emptyField else .ok fs := by
  have hempty : [] ∈ fs.map String.toList ↔ "" ∈ fs := by simp
  have hback : (fs.map String.toList).map String.ofList = fs := by simp [Function.comp_def]
  rw [fields, join_toList_eq_intercalate hne]
  simp only [if_true, splitOn_intercalate_toList hne h, hempty, hback]

theorem fields_join {fs : List String} (hne : fs ≠ []) (h : ∀ field ∈ fs, IsField field) :
    fields (join fs) = .ok fs := by
  rw [fields_join_of_no_separator hne fun field hfield => (h field hfield).2, if_neg]
  intro hempty
  exact (h "" hempty).ne_empty rfl

theorem eq_of_join_eq {fs gs : List String} (hfs : fs ≠ []) (hgs : gs ≠ [])
    (hf : ∀ field ∈ fs, separator ∉ field.toList) (hg : ∀ field ∈ gs, separator ∉ field.toList)
    (h : join fs = join gs) : fs = gs := by
  have htext := congrArg String.toList h
  rw [join_toList_eq_intercalate hfs, join_toList_eq_intercalate hgs, List.cons.injEq] at htext
  have hparts := congrArg (List.splitOn separator) htext.2
  rw [splitOn_intercalate_toList hfs hf, splitOn_intercalate_toList hgs hg] at hparts
  exact (List.map_inj_right fun _ _ => String.toList_inj.1).1 hparts

/-! ### Joining what was split -/

theorem not_mem_of_mem_splitOn {c : Char} {text part : List Char}
    (h : part ∈ text.splitOn c) : c ∉ part := by
  induction text generalizing part with
  | nil =>
      simp only [List.splitOn_nil, List.mem_singleton] at h
      simp [h]
  | cons d text ih =>
      obtain ⟨first, more, hsplit⟩ := List.exists_cons_of_ne_nil (List.splitOn_ne_nil c text)
      rw [List.splitOn_cons_eq_if_modifyHead, hsplit] at h
      rw [hsplit] at ih
      split at h
      · rcases List.mem_cons.1 h with rfl | h
        · exact List.not_mem_nil
        · exact ih h
      · rename_i hd
        rcases List.mem_cons.1 h with rfl | h
        · have hne : c ≠ d := fun e => hd (by simp [e])
          exact List.not_mem_cons_of_ne_of_not_mem hne (ih List.mem_cons_self)
        · exact ih (List.mem_cons_of_mem _ h)

theorem join_splitOn (rest : List Char) :
    (join ((rest.splitOn separator).map String.ofList)).toList = separator :: rest := by
  rw [join_toList_eq_intercalate (by simp [List.splitOn_ne_nil separator rest]), List.map_map]
  simp [Function.comp_def]

/-- Every text behind a separator is made of fields, some of which may be empty. -/
theorem exists_join_eq_cons (rest : List Char) :
    ∃ fs, (∀ field ∈ fs, separator ∉ field.toList) ∧
      (join fs).toList = separator :: rest := by
  refine ⟨(rest.splitOn separator).map String.ofList, ?_, join_splitOn rest⟩
  intro field hfield
  obtain ⟨part, hpart, rfl⟩ := List.mem_map.1 hfield
  rw [String.toList_ofList]
  exact not_mem_of_mem_splitOn hpart

theorem of_fields_eq_ok {text : String} {fs : List String} (h : fields text = .ok fs) :
    fs ≠ [] ∧ (∀ field ∈ fs, IsField field) ∧ join fs = text := by
  unfold fields at h
  split at h
  · cases h
  · rename_i c rest htext
    dsimp only at h
    split at h
    · rename_i hc
      split at h
      · cases h
      · rename_i hempty
        cases h
        have hne : (rest.splitOn separator).map String.ofList ≠ [] := by
          simp [List.splitOn_ne_nil separator rest]
        refine ⟨hne, ?_, ?_⟩
        · intro field hfield
          obtain ⟨part, hpart, rfl⟩ := List.mem_map.1 hfield
          rw [isField_ofList_iff]
          refine ⟨?_, not_mem_of_mem_splitOn hpart⟩
          rintro rfl
          exact hempty hpart
        · apply String.toList_inj.1
          rw [join_splitOn, htext, hc]
    · cases h

/-! ### Splitting as the inverse of joining -/

theorem isField_iff {field : String} : IsField field ↔ field ≠ "" ∧ '$' ∉ field.toList := by
  rw [IsField, ne_eq, String.toList_eq_nil_iff]
  exact Iff.rfl

theorem fields_eq_ok_iff {text : String} {fs : List String} :
    fields text = .ok fs ↔ fs ≠ [] ∧ (∀ field ∈ fs, IsField field) ∧ join fs = text := by
  constructor
  · exact of_fields_eq_ok
  · rintro ⟨hne, hfields, rfl⟩
    exact fields_join hne hfields

theorem join_filter {fs : List String} (h : ∀ field ∈ fs, separator ∉ field.toList) :
    (join fs).toList.filter (· ≠ separator) = fs.flatMap String.toList := by
  induction fs with
  | nil => simp [join]
  | cons field fs ih =>
      obtain ⟨hfield, hfs⟩ := List.forall_mem_cons.1 h
      have hkept : field.toList.filter (· ≠ separator) = field.toList := by
        rw [List.filter_eq_self]
        intro c hc
        simpa using ne_of_mem_of_not_mem hc hfield
      rw [join_cons_toList, List.filter_cons_of_neg (by simp), List.filter_append, hkept, ih hfs,
        List.flatMap_cons]

theorem join_count {fs : List String} (h : ∀ field ∈ fs, separator ∉ field.toList) :
    (join fs).toList.count separator = fs.length := by
  induction fs with
  | nil => simp [join]
  | cons field fs ih =>
      obtain ⟨hfield, hfs⟩ := List.forall_mem_cons.1 h
      rw [join_cons_toList, List.count_cons_self, List.count_append, List.count_eq_zero.2 hfield,
        ih hfs, Nat.zero_add, List.length_cons]

/-- A text is split into exactly the fields that it is joined from. So the texts that are split are
those that are joined, each from fields of its own, no character other than the separators in
front of the fields is lost or comes in, and there is a first field. -/
theorem fields_inverse_of_join (text : String) (fs : List String) :
    (fields text = .ok fs ↔ fs ≠ [] ∧ (∀ field ∈ fs, field ≠ "" ∧ '$' ∉ field.toList) ∧
      text.toList = fs.flatMap fun field => '$' :: field.toList) ∧
    ((∃ gs, fields text = .ok gs) ↔
      ∃ gs, gs ≠ [] ∧ (∀ field ∈ gs, IsField field) ∧ text = join gs) ∧
    (∀ other, fields text = .ok fs → fields other = .ok fs → other = text) ∧
    (fields text = .ok fs → text.toList.filter (· ≠ '$') = fs.flatMap String.toList ∧
      text.toList.count '$' = fs.length ∧ ∃ first rest, fs = first :: rest) := by
  refine ⟨?_, ?_, ?_, ?_⟩
  · have htext : join fs = text ↔ text.toList = fs.flatMap fun field => '$' :: field.toList := by
      rw [← String.toList_inj, eq_comm, join, String.toList_ofList]
      exact Iff.rfl
    simp only [fields_eq_ok_iff, isField_iff, htext]
  · simp only [fields_eq_ok_iff, @eq_comm _ text]
  · intro other h hother
    obtain ⟨-, -, rfl⟩ := fields_eq_ok_iff.1 h
    exact (fields_eq_ok_iff.1 hother).2.2.symm
  · intro h
    obtain ⟨hne, hfields, rfl⟩ := fields_eq_ok_iff.1 h
    have hseparator : ∀ field ∈ fs, separator ∉ field.toList := fun f hf => (hfields f hf).2
    exact ⟨join_filter hseparator, join_count hseparator, List.exists_cons_of_ne_nil hne⟩

/-! ### Cutting what was joined -/

/-- The first fields are those of a longer list, all but the last as they stand there and the
last with some of its end missing, or none. -/
def CutFrom : List String → List String → Prop
  | [last], field :: _ => last.toList <+: field.toList
  | field :: next :: gs, field' :: fs => field = field' ∧ CutFrom (next :: gs) fs
  | _, _ => False

theorem eq_nil_or_separator_of_prefix_join {text : List Char} {fs : List String}
    (h : text <+: (join fs).toList) : text = [] ∨ separator ∈ text := by
  cases fs with
  | nil =>
      have hnil : (join []).toList = [] := by simp [join]
      rw [hnil, List.prefix_nil] at h
      exact .inl h
  | cons field fs =>
      rw [join_cons_toList, List.prefix_cons_iff] at h
      rcases h with rfl | ⟨rest, rfl, -⟩
      · exact .inl rfl
      · exact .inr List.mem_cons_self

/-- A text without a separator that a joined text starts with ends inside the first field. -/
theorem prefix_of_prefix_append_join {part field : List Char} {fs : List String}
    (hpart : separator ∉ part) (h : part <+: field ++ (join fs).toList) : part <+: field := by
  rcases List.prefix_or_prefix_of_prefix h (List.prefix_append field _) with hin | ⟨more, rfl⟩
  · exact hin
  · have hmore : more <+: (join fs).toList := (List.prefix_append_right_inj field).1 h
    rcases eq_nil_or_separator_of_prefix_join hmore with rfl | hmem
    · simp
    · exact absurd (List.mem_append_right _ hmem) hpart

theorem eq_of_append_separator_prefix_join {part tail field : List Char} {fs : List String}
    (hpart : separator ∉ part) (hfield : separator ∉ field)
    (h : part ++ separator :: tail <+: field ++ (join fs).toList) :
    part = field ∧ separator :: tail <+: (join fs).toList := by
  have hfront : part <+: field ++ (join fs).toList := (List.prefix_append part _).trans h
  obtain ⟨more, rfl⟩ := prefix_of_prefix_append_join hpart hfront
  rw [List.append_assoc, List.prefix_append_right_inj] at h
  cases more with
  | nil => exact ⟨(List.append_nil part).symm, h⟩
  | cons c more =>
      rw [List.cons_append, List.cons_prefix_cons] at h
      have hmem : separator ∈ part ++ c :: more :=
        List.mem_append_right _ (h.1 ▸ List.mem_cons_self)
      exact absurd hmem hfield

/-- A text of fields that is the front of another one ends inside one field of it. -/
theorem cutFrom_of_prefix_join {gs fs : List String} (hne : gs ≠ [])
    (hg : ∀ field ∈ gs, separator ∉ field.toList) (hf : ∀ field ∈ fs, separator ∉ field.toList)
    (h : (join gs).toList <+: (join fs).toList) : CutFrom gs fs := by
  induction gs generalizing fs with
  | nil => exact absurd rfl hne
  | cons part gs ih =>
      cases fs with
      | nil => simp [join] at h
      | cons field fs =>
          obtain ⟨hpart, hgs⟩ := List.forall_mem_cons.1 hg
          obtain ⟨hfield, hfs⟩ := List.forall_mem_cons.1 hf
          rw [join_cons_toList, join_cons_toList, List.cons_prefix_cons] at h
          cases gs with
          | nil =>
              have hfront : part.toList <+: field.toList ++ (join fs).toList := by
                simpa [join] using h.2
              exact prefix_of_prefix_append_join hpart hfront
          | cons next gs =>
              have hnext := h.2
              rw [join_cons_toList] at hnext
              obtain ⟨hsame, htail⟩ := eq_of_append_separator_prefix_join hpart hfield hnext
              rw [← join_cons_toList] at htail
              exact ⟨String.toList_inj.1 hsame, ih (by simp) hgs hfs htail⟩

end PasswordHashing.HashText
