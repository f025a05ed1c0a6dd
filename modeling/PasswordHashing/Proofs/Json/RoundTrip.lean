import PasswordHashing.Json.Reader
import PasswordHashing.Json.Writer
import PasswordHashing.Proofs.Text.Decimal

/-!
Reading JSON that was written. What is written is compact, so every token comes at once and
a value is followed by the comma before the next member or by the brace that closes the
object; that is where a number ends. Main statement: a reader of members whose step takes
each member that was written takes them all, and leaves what follows the object.
-/

namespace PasswordHashing.Json

variable {δ σ α β : Type}

/-! ### Steps of a reader -/

theorem bind_of_ok {read : Read δ α} {next : α → Read δ β} {text rest : List Char} {a : α}
    (h : read text = .ok (a, rest)) : (read >>= next) text = next a rest := by
  have hbind : (read >>= next) text = (read text >>= fun p => next p.1 p.2) := rfl
  rw [hbind, h]
  rfl

theorem get_bind (next : List Char → Read δ α) (text : List Char) :
    (get >>= next) text = next text text := rfl

theorem modify_bind (f : List Char → List Char) (next : Unit → Read δ α) (text : List Char) :
    (modify f >>= next) text = next () (f text) := rfl

theorem isSpace_of_isDigit {c : Char} (hc : c.isDigit) : isSpace c = false := by
  simp only [isSpace, Bool.or_eq_false_iff, beq_eq_false_iff_ne]
  refine ⟨⟨⟨?_, ?_⟩, ?_⟩, ?_⟩ <;> (rintro rfl; exact absurd hc (by decide))

theorem peekToken_cons {c : Char} (hc : isSpace c = false) (rest : List Char) :
    (peekToken : Read δ Char) (c :: rest) = .ok (c, c :: rest) := by
  simp only [peekToken, skipSpace, List.dropWhile_cons, hc, Bool.false_eq_true, if_false]

theorem readToken_cons {c : Char} (hc : isSpace c = false) (rest : List Char) :
    (readToken : Read δ Char) (c :: rest) = .ok (c, rest) := by
  simp only [readToken, skipSpace, List.dropWhile_cons, hc, Bool.false_eq_true, if_false]

theorem readColon_cons (rest : List Char) :
    (readColon : Read δ Unit) (':' :: rest) = .ok ((), rest) := rfl

theorem readWord_append (word rest : List Char) :
    (readWord word : Read δ Unit) (word ++ rest) = .ok ((), rest) := by
  induction word with
  | nil => rfl
  | cons w word ih =>
      rw [readWord, List.cons_append, get_bind]
      exact (congrFun (if_pos rfl) (w :: (word ++ rest))).trans ih

/-! ### Names -/

/-- Characters that stand for themselves between quotes. -/
def Plain (text : List Char) : Prop := ∀ c ∈ text, c ≠ '"' ∧ c ≠ '\\' ∧ 0x20 ≤ c.toNat

instance : DecidablePred Plain := fun text => List.decidableBAll _ text

theorem readString_quote (purpose : Purpose) (seen rest : List Char) :
    readString (δ := δ) purpose .plain seen ('"' :: rest) =
      .ok (String.ofList seen.reverse, rest) := rfl

theorem readString_cons {c : Char} (hc : c ≠ '"' ∧ c ≠ '\\' ∧ 0x20 ≤ c.toNat) (purpose : Purpose)
    (seen rest : List Char) :
    readString (δ := δ) purpose .plain seen (c :: rest) =
      readString purpose .plain (c :: seen) rest := by
  obtain ⟨hquote, hescape, hcontrol⟩ := hc
  exact (if_neg hquote).trans ((if_neg hescape).trans (if_neg (Nat.not_lt.2 hcontrol)))

theorem readString_plain {text : List Char} (h : Plain text) (purpose : Purpose)
    (seen rest : List Char) :
    readString (δ := δ) purpose .plain seen (text ++ '"' :: rest) =
      .ok (String.ofList (seen.reverse ++ text), rest) := by
  induction text generalizing seen with
  | nil => rw [List.nil_append, List.append_nil, readString_quote]
  | cons c text ih =>
      obtain ⟨hc, htext⟩ := List.forall_mem_cons.1 h
      rw [List.cons_append, readString_cons hc, ih htext, List.reverse_cons, List.append_assoc]
      rfl

theorem writeName_append (name : String) (rest : List Char) :
    writeName name ++ rest = '"' :: (name.toList ++ '"' :: rest) := by
  simp [writeName]

theorem readString_name {name : String} (h : Plain name.toList) (purpose : Purpose)
    (rest : List Char) :
    readString (δ := δ) purpose .plain [] (name.toList ++ '"' :: rest) = .ok (name, rest) := by
  rw [readString_plain h, List.reverse_nil, List.nil_append, String.ofList_toList]

theorem readName_writeName {name : String} (h : Plain name.toList) (purpose : Purpose)
    (rest : List Char) :
    (readName purpose : Read δ String) (writeName name ++ rest) = .ok (name, rest) := by
  rw [writeName_append, readName, bind_of_ok (readToken_cons rfl _)]
  exact readString_name h purpose rest

/-! ### Values -/

/-- Where a value has ended that is a member's: at the next member or at the end of the object. -/
def EndsValue (rest : List Char) : Prop := ∃ tail, rest = ',' :: tail ∨ rest = '}' :: tail

theorem takeWhile_isDigit_append {digits rest : List Char} (hdigits : ∀ c ∈ digits, c.isDigit)
    (hrest : EndsValue rest) :
    (digits ++ rest).takeWhile Char.isDigit = digits ∧
      (digits ++ rest).dropWhile Char.isDigit = rest := by
  have hstop : rest.takeWhile Char.isDigit = [] ∧ rest.dropWhile Char.isDigit = rest := by
    obtain ⟨tail, rfl | rfl⟩ := hrest <;> exact ⟨rfl, rfl⟩
  rw [List.takeWhile_append_of_pos hdigits, List.dropWhile_append_of_pos hdigits, hstop.1, hstop.2,
    List.append_nil]
  exact ⟨rfl, rfl⟩

theorem readDigits_append {digits rest : List Char} (hne : digits ≠ [])
    (hdigits : ∀ c ∈ digits, c.isDigit) (hrest : EndsValue rest) :
    (readDigits : Read δ (List Char)) (digits ++ rest) = .ok (digits, rest) := by
  obtain ⟨hfront, hback⟩ := takeWhile_isDigit_append hdigits hrest
  obtain ⟨c, more, rfl⟩ := List.exists_cons_of_ne_nil hne
  have hc := hdigits c List.mem_cons_self
  simp only [readDigits, List.cons_append, hc, if_true] at hfront hback ⊢
  rw [hfront, hback]

/-- A number is written without zeros in front. -/
theorem readWhole_writeNat (n : Nat) {rest : List Char} (hrest : EndsValue rest) :
    (readWhole : Read δ (List Char)) (writeNat n ++ rest) = .ok (writeNat n, rest) := by
  have hwrite : Decimal.IsDigits (writeNat n) := Decimal.write_isDigits n
  obtain ⟨hne, hdigits⟩ := hwrite
  rw [readWhole, bind_of_ok (readDigits_append hne hdigits hrest), if_neg]
  · rfl
  · rintro ⟨hhead, hmore⟩
    obtain ⟨more, htext⟩ := List.head?_eq_some_iff.1 hhead
    have hpadded := Decimal.not_padded_repr n
    rw [Decimal.Padded, Nat.toList_repr] at hpadded
    apply hpadded ⟨hhead, _⟩
    rw [writeNat, Decimal.write] at htext hmore
    rw [htext] at hmore ⊢
    cases more with
    | nil => exact absurd rfl hmore
    | cons d more => simp

theorem readShape_writeNat (n : Nat) {rest : List Char} (hrest : EndsValue rest) :
    (readShape false : Read δ Shape) (writeNat n ++ rest) =
      .ok ({ negative := false, whole := writeNat n, fraction := [], exponent := none }, rest) := by
  have hfraction : (readFraction : Read δ (List Char)) rest = .ok ([], rest) := by
    obtain ⟨tail, rfl | rfl⟩ := hrest <;> rfl
  have hexponent : (readExponent : Read δ (Option (Bool × List Char))) rest = .ok (none, rest) := by
    obtain ⟨tail, rfl | rfl⟩ := hrest <;> rfl
  rw [readShape, bind_of_ok (readWhole_writeNat n hrest), bind_of_ok hfraction,
    bind_of_ok hexponent]
  rfl

theorem readNumber_writeNat {n : Nat} (hn : n < UInt64.size) {rest : List Char}
    (hrest : EndsValue rest) :
    (readNumber .keep false : Read δ Number) (writeNat n ++ rest) = .ok (.integer n, rest) := by
  have hvalue : Decimal.value (writeNat n) = n := Decimal.value_write n
  simp only [readNumber, readShape_writeNat n hrest, Shape.number?, Shape.integer?, hvalue, hn,
    and_self, if_true, Bool.false_eq_true, if_false]

/-- The text is read as the value, whatever comes behind it. -/
def Reads (text : List Char) (value : Json) : Prop :=
  ∀ (δ : Type) (depth : Nat) (rest : List Char), EndsValue rest →
    (readValue .keep depth : Read δ Json) (text ++ rest) = .ok (value, rest)

theorem reads_writeName {name : String} (h : Plain name.toList) :
    Reads (writeName name) (.string name) := by
  intro δ depth rest hrest
  rw [readValue, get_bind, readValueWith, writeName_append, bind_of_ok (readToken_cons rfl _)]
  exact bind_of_ok (readString_name h .keep rest)

theorem reads_writeBool (b : Bool) : Reads (writeBool b) (.bool b) := by
  intro δ depth rest hrest
  cases b with
  | true =>
      rw [readValue, get_bind, readValueWith]
      exact (bind_of_ok (readToken_cons rfl _)).trans
        (bind_of_ok (readWord_append ['r', 'u', 'e'] rest))
  | false =>
      rw [readValue, get_bind, readValueWith]
      exact (bind_of_ok (readToken_cons rfl _)).trans
        (bind_of_ok (readWord_append ['a', 'l', 's', 'e'] rest))

theorem reads_writeNat {n : Nat} (h : n < UInt64.size) :
    Reads (writeNat n) (.number (.integer n)) := by
  intro δ depth rest hrest
  have hwrite : Decimal.IsDigits (writeNat n) := Decimal.write_isDigits n
  obtain ⟨c, more, htext⟩ := List.exists_cons_of_ne_nil hwrite.1
  have hc : c.isDigit := hwrite.2 c (htext ▸ List.mem_cons_self)
  have hnumber := readNumber_writeNat (δ := δ) h hrest
  rw [htext, List.cons_append] at hnumber ⊢
  rw [readValue, get_bind, readValueWith, bind_of_ok (readToken_cons (isSpace_of_isDigit hc) _)]
  -- no value but a number starts with a digit
  split
  iterate 7 exact absurd hc (by decide)
  rw [if_pos hc, modify_bind]
  exact bind_of_ok hnumber

/-! ### Members -/

/-- Taking the members in their order, the step leads from one state to another. -/
inductive StepsThrough (step : σ → String → Read δ σ) : σ → List (String × List Char) → σ → Prop
  | nil (s : σ) : StepsThrough step s [] s
  | cons {s next last : σ} {name : String} {value : List Char} {more : List (String × List Char)}
      (hname : Plain name.toList)
      (hstep : ∀ rest, EndsValue rest → step s name (':' :: (value ++ rest)) = .ok (next, rest))
      (hmore : StepsThrough step next more last) :
      StepsThrough step s ((name, value) :: more) last

theorem writeMembers_cons_append (name : String) (value : List Char)
    (more : List (String × List Char)) (rest : List Char) :
    writeMembers ((name, value) :: more) ++ '}' :: rest =
      writeName name ++ (':' :: (value ++
        if more = [] then '}' :: rest else ',' :: (writeMembers more ++ '}' :: rest))) := by
  cases more with
  | nil => simp [writeMembers]
  | cons member more => simp [writeMembers]

theorem length_le_writeMembers (members : List (String × List Char)) :
    members.length ≤ (writeMembers members).length := by
  induction members with
  | nil => simp
  | cons member more ih =>
      obtain ⟨name, value⟩ := member
      have hname : 1 ≤ (writeName name).length := by simp [writeName]
      cases more with
      | nil =>
          simp only [writeMembers, List.length_cons, List.length_append, List.length_nil]
          omega
      | cons next more =>
          simp only [writeMembers, List.length_cons, List.length_append] at ih ⊢
          omega

theorem foldMembers_writeMembers {step : σ → String → Read δ σ} {s last : σ}
    {members : List (String × List Char)} (h : StepsThrough step s members last)
    (hne : members ≠ []) (purpose : Purpose) {fuel : Nat} (hfuel : members.length ≤ fuel)
    (rest : List Char) :
    foldMembers purpose step fuel s (writeMembers members ++ '}' :: rest) = .ok (last, rest) := by
  induction h generalizing fuel with
  | nil => exact absurd rfl hne
  | @cons s next last name value more hname hstep hmore ih =>
      obtain ⟨fuel, rfl⟩ : ∃ f, fuel = f + 1 := Nat.exists_eq_succ_of_ne_zero (by
        simp only [List.length_cons] at hfuel
        omega)
      rw [writeMembers_cons_append, foldMembers,
        bind_of_ok (readName_writeName hname purpose _)]
      -- the value ends at the brace if this is the last member, and at a comma if not
      by_cases hend : more = []
      · subst hend
        cases hmore
        rw [if_pos rfl, bind_of_ok (hstep _ ⟨rest, .inr rfl⟩), bind_of_ok (readToken_cons rfl _)]
        rfl
      · rw [if_neg hend, bind_of_ok (hstep _ ⟨_, .inl rfl⟩), bind_of_ok (readToken_cons rfl _)]
        exact ih hend (Nat.le_of_succ_le_succ hfuel)

theorem readMembers_writeMembers {step : σ → String → Read δ σ} {s last : σ}
    {members : List (String × List Char)} (h : StepsThrough step s members last)
    (purpose : Purpose) (rest : List Char) :
    readMembers purpose step s (writeMembers members ++ '}' :: rest) = .ok (last, rest) := by
  cases members with
  | nil =>
      cases h
      rw [readMembers, writeMembers, List.nil_append, bind_of_ok (peekToken_cons rfl _)]
      exact bind_of_ok (readToken_cons rfl _)
  | cons member more =>
      obtain ⟨name, value⟩ := member
      have hfuel := length_le_writeMembers ((name, value) :: more)
      have hpeek : (peekToken : Read δ Char) (writeMembers ((name, value) :: more) ++ '}' :: rest) =
          .ok ('"', writeMembers ((name, value) :: more) ++ '}' :: rest) := by
        rw [writeMembers_cons_append, writeName_append]
        exact peekToken_cons rfl _
      rw [readMembers, bind_of_ok hpeek]
      apply foldMembers_writeMembers h (by simp)
      rw [List.length_append]
      omega

end PasswordHashing.Json
