import PasswordHashing.Proofs.Verification

/-!
What the log tells of a comparison. A comparison goes through stages, any of which can fail:
reading the text, finding the parameters to check with, and computing again what the text
holds. If all of them succeed there is an answer, and nothing is logged of it, whichever it
is. Main statement: every comparison ends in exactly one way, and nothing is logged exactly
if it ends with an answer; otherwise one event is logged, which is that of the first stage
that failed. The branch of a comparison that would fail without a word is never taken.
-/

namespace PasswordHashing

open HashText

/-- With an answer, or with the event of the stage that failed. -/
inductive Ending
  | answer (same : Bool)
  | fault (event : Event)
  deriving DecidableEq

namespace Ending

def outcome : Ending → Outcome Unit
  | .answer same => .ofAnswer same
  | .fault event => .mismatch [event]

@[simp] theorem events_outcome_answer (same : Bool) : (answer same).outcome.events = [] := by
  cases same <;> rfl

@[simp] theorem events_outcome_fault (event : Event) :
    (fault event).outcome.events = [event] := rfl

@[simp] theorem result_outcome_fault (event : Event) :
    (fault event).outcome.result = .error .mismatch := rfl

@[simp] theorem result_outcome_answer_eq_ok_iff {same : Bool} :
    (answer same).outcome.result = .ok () ↔ same = true :=
  Outcome.result_ofAnswer_eq_ok_iff

theorem outcome_injective {ending other : Ending} (h : ending.outcome = other.outcome) :
    ending = other := by
  have hevents := congrArg Outcome.events h
  cases ending with
  | fault event =>
      cases other with
      | fault event' => simpa using hevents
      | answer same => simp at hevents
  | answer same =>
      cases other with
      | fault event => simp at hevents
      | answer same' =>
          have hresult : (answer same).outcome.result = .ok () ↔
              (answer same').outcome.result = .ok () := by rw [h]
          rw [result_outcome_answer_eq_ok_iff, result_outcome_answer_eq_ok_iff] at hresult
          rw [Bool.eq_iff_iff.2 hresult]

end Ending

/-- The outcome is that of the one way to end: silent for an answer, and else with one event,
which is logged for those who look for faults. -/
structure Outcome.Tells (outcome : Outcome Unit) (Ends : Ending → Prop) : Prop where
  exists_unique : ∃! ending, Ends ending
  outcome_eq : ∀ ending, Ends ending → outcome = ending.outcome
  silent_iff : outcome.events = [] ↔ outcome.result = .ok () ∨ Ends (.answer false)
  event_iff : ∀ event, outcome.events = [event] ↔ Ends (.fault event)
  one_debug : ∀ event ∈ outcome.events, outcome.events = [event] ∧ event.level = .debug

theorem Outcome.tells_of_ends {outcome : Outcome Unit} {Ends : Ending → Prop}
    (hexists : ∃ ending, Ends ending) (houtcome : ∀ ending, Ends ending → outcome = ending.outcome)
    (hdebug : ∀ event, Ends (.fault event) → event.level = .debug) : outcome.Tells Ends := by
  obtain ⟨ending, hends⟩ := hexists
  have hunique : ∀ other, Ends other → other = ending := by
    intro other hother
    apply Ending.outcome_injective
    rw [← houtcome other hother, houtcome ending hends]
  obtain rfl := houtcome ending hends
  refine ⟨⟨ending, hends, hunique⟩, houtcome, ?_, ?_, ?_⟩
  · cases ending with
    | answer same =>
        cases same with
        | true => simp
        | false => simp [hends]
    | fault event =>
        have hanswer : ¬Ends (.answer false) := fun h => nomatch hunique _ h
        simp [hanswer]
  · intro event
    cases ending with
    | answer same =>
        have hfault : ¬Ends (.fault event) := fun h => nomatch hunique _ h
        simp [hfault]
    | fault event' =>
        constructor
        · intro hevents
          obtain rfl : event' = event := by simpa using hevents
          exact hends
        · intro h
          obtain rfl : event = event' := Ending.fault.inj (hunique _ h)
          rfl
  · intro event hevent
    cases ending with
    | answer same => simp at hevent
    | fault event' =>
        obtain rfl : event = event' := by simpa using hevent
        exact ⟨rfl, hdebug event hends⟩

/-! ### The last stages -/

/-- How the check of a bcrypt text ends. -/
inductive Bcrypt.CheckEnds (text : String) (password : Bytes) : Ending → Prop
  | tooLong (hlength : 72 < password.length) :
      CheckEnds text password (.fault .bcryptPasswordTooLong)
  | rejected (hlength : password.length ≤ 72) (hverify : verify? text password = none) :
      CheckEnds text password (.fault .bcryptTextRejected)
  | answered {same : Bool} (hlength : password.length ≤ 72)
      (hverify : verify? text password = some same) : CheckEnds text password (.answer same)

/-- How the check of a digest ends, once it is known what to derive it with. -/
inductive KeyDerivation.CheckEnds (f : KeyDerivation) (keyLength : UInt64)
    (secret : Option Bytes) (hash : KeyHash) (password : Bytes) : Ending → Prop
  | refused {e : HashingError} (hderive : f.derive keyLength secret password hash.salt = .error e) :
      CheckEnds f keyLength secret hash password (.fault (.recomputationFailed f.family e))
  | answered {digest : Bytes}
      (hderive : f.derive keyLength secret password hash.salt = .ok digest) :
      CheckEnds f keyLength secret hash password (.answer (hash.digest == digest))

theorem Bcrypt.exists_checkEnds (text : String) (password : Bytes) :
    ∃ ending, CheckEnds text password ending := by
  by_cases hlength : password.length ≤ 72
  · cases hverify : verify? text password with
    | none => exact ⟨_, .rejected hlength hverify⟩
    | some same => exact ⟨_, .answered hlength hverify⟩
  · exact ⟨_, .tooLong (Nat.lt_of_not_le hlength)⟩

theorem Bcrypt.CheckEnds.verify_eq {text : String} {password : Bytes} {ending : Ending}
    (h : CheckEnds text password ending) : verify text password = ending.outcome := by
  unfold verify
  cases h with
  | tooLong hlength => exact if_pos hlength
  | rejected hlength hverify =>
      have hshort : ¬maxPasswordLength < password.length := Nat.not_lt.2 hlength
      rw [if_neg hshort, hverify]
      rfl
  | answered hlength hverify =>
      have hshort : ¬maxPasswordLength < password.length := Nat.not_lt.2 hlength
      rw [if_neg hshort, hverify]
      rfl

theorem Bcrypt.CheckEnds.level_eq {text : String} {password : Bytes} {event : Event}
    (h : CheckEnds text password (.fault event)) : event.level = .debug := by
  cases h <;> rfl

theorem KeyDerivation.exists_checkEnds (f : KeyDerivation) (keyLength : UInt64)
    (secret : Option Bytes) (hash : KeyHash) (password : Bytes) :
    ∃ ending, f.CheckEnds keyLength secret hash password ending := by
  cases hderive : f.derive keyLength secret password hash.salt with
  | error e => exact ⟨_, .refused hderive⟩
  | ok digest => exact ⟨_, .answered hderive⟩

theorem KeyDerivation.CheckEnds.verify_eq {s : KeySettings} {hash : KeyHash} {password : Bytes}
    {ending : Ending} (halgorithm : hash.algorithm = s.algorithm)
    (h : s.function.CheckEnds s.keyLength s.secret hash password ending) :
    s.verify hash password = ending.outcome := by
  rw [KeySettings.verify, if_pos halgorithm, KeySettings.digest]
  cases h with
  | refused hderive => rw [hderive]; rfl
  | answered hderive => rw [hderive]; rfl

theorem KeyDerivation.CheckEnds.level_eq {f : KeyDerivation} {keyLength : UInt64}
    {secret : Option Bytes} {hash : KeyHash} {password : Bytes} {event : Event}
    (h : f.CheckEnds keyLength secret hash password (.fault event)) : event.level = .debug := by
  cases h
  rfl

/-! ### Whole comparisons -/

/-- How a comparison ends that goes by what the text says of itself. -/
inductive ComparisonEnds (text : String) (password : Bytes) : Ending → Prop
  | unreadable {e : ParseError} (hparse : parse text = .error e) :
      ComparisonEnds text password (.fault (.parseRejected e))
  | masked {hash : KeyHash} (hparse : parse text = .ok (.key hash)) (hcost : hash.cost = none) :
      ComparisonEnds text password (.fault (.maskedNeedsProfile hash.algorithm))
  | bcrypt {ending : Ending} (hparse : parse text = .ok (.bcrypt text))
      (hcheck : Bcrypt.CheckEnds text password ending) : ComparisonEnds text password ending
  | key {hash : KeyHash} {f : KeyDerivation} {keyLength : UInt64} {ending : Ending}
      (hparse : parse text = .ok (.key hash)) (halgorithm : f.algorithm = hash.algorithm)
      (hcost : hash.cost = some (f.cost keyLength))
      (hcheck : f.CheckEnds keyLength none hash password ending) :
      ComparisonEnds text password ending

/-- How a comparison ends that goes by the caller's parameters. -/
inductive Parameters.ComparisonEnds : Parameters → String → Bytes → Ending → Prop
  | unreadable {p : Parameters} {text : String} {password : Bytes} {e : ParseError}
      (hparse : parse text = .error e) : p.ComparisonEnds text password (.fault (.parseRejected e))
  | otherFamily {p : Parameters} {text : String} {password : Bytes} {parsed : HashText}
      (hparse : parse text = .ok parsed)
      (hfamily : ¬(p.family = .bcrypt ↔ parsed.algorithm = .bcrypt)) :
      p.ComparisonEnds text password (.fault (.otherFamily p.family parsed.algorithm))
  | bcrypt {cost : UInt32} {text : String} {password : Bytes} {ending : Ending}
      (hparse : parse text = .ok (.bcrypt text))
      (hcheck : Bcrypt.CheckEnds text password ending) :
      ComparisonEnds (.bcrypt cost) text password ending
  | foreign {s : KeySettings} {text : String} {password : Bytes} {hash : KeyHash}
      (hparse : parse text = .ok (.key hash)) (halgorithm : hash.algorithm ≠ s.algorithm) :
      ComparisonEnds (.key s) text password (.fault (.foreignAlgorithm s.family hash.algorithm))
  | key {s : KeySettings} {text : String} {password : Bytes} {hash : KeyHash} {ending : Ending}
      (hparse : parse text = .ok (.key hash)) (halgorithm : hash.algorithm = s.algorithm)
      (hcheck : s.function.CheckEnds s.keyLength s.secret hash password ending) :
      ComparisonEnds (.key s) text password ending

variable {text : String} {password : Bytes} {ending : Ending}

theorem exists_comparisonEnds (text : String) (password : Bytes) :
    ∃ ending, ComparisonEnds text password ending := by
  cases hparse : parse text with
  | error e => exact ⟨_, .unreadable hparse⟩
  | ok parsed =>
      cases parsed with
      | bcrypt kept =>
          obtain rfl := eq_of_parse_bcrypt hparse
          obtain ⟨ending, hcheck⟩ := Bcrypt.exists_checkEnds kept password
          exact ⟨ending, .bcrypt hparse hcheck⟩
      | key hash =>
          cases hmasked : hash.isMasked with
          | true => exact ⟨_, .masked hparse (Option.isNone_iff_eq_none.1 hmasked)⟩
          | false =>
              obtain ⟨f, keyLength, -, halgorithm, hcost⟩ := exists_function_of_parse hparse hmasked
              obtain ⟨ending, hcheck⟩ := f.exists_checkEnds keyLength none hash password
              exact ⟨ending, .key hparse halgorithm hcost hcheck⟩

theorem ComparisonEnds.compare_eq (h : ComparisonEnds text password ending) :
    compare text password = ending.outcome := by
  cases h with
  | unreadable hparse => rw [compare, hparse]; rfl
  | masked hparse hcost =>
      simp only [compare, hparse, comparePublic, KeyHash.isMasked, hcost, Option.isNone_none,
        if_true]
      rfl
  | bcrypt hparse hcheck => rw [compare, hparse]; exact hcheck.verify_eq
  | @key hash f keyLength _ hparse halgorithm hcost hcheck =>
      have hfits := (wellFormed_of_parse hparse).cost_fits
      have hs : KeySettings.ofHash? hash = some { function := f, keyLength } :=
        (KeySettings.ofHash?_eq_some_iff hfits).2 ⟨f, keyLength, rfl, halgorithm, hcost⟩
      have hmasked : hash.isMasked = false := by simp [KeyHash.isMasked, hcost]
      simp only [compare, hparse, comparePublic, hmasked, hs, Bool.false_eq_true, if_false]
      exact hcheck.verify_eq halgorithm.symm

theorem ComparisonEnds.level_eq {event : Event} (h : ComparisonEnds text password (.fault event)) :
    event.level = .debug := by
  cases h with
  | unreadable => rfl
  | masked => rfl
  | bcrypt _ hcheck => exact hcheck.level_eq
  | key _ _ _ hcheck => exact hcheck.level_eq

namespace Parameters

variable {p : Parameters}

theorem exists_comparisonEnds (p : Parameters) (text : String) (password : Bytes) :
    ∃ ending, p.ComparisonEnds text password ending := by
  cases hparse : parse text with
  | error e => exact ⟨_, .unreadable hparse⟩
  | ok parsed =>
      cases p with
      | bcrypt cost =>
          cases parsed with
          | bcrypt kept =>
              obtain rfl := eq_of_parse_bcrypt hparse
              obtain ⟨ending, hcheck⟩ := Bcrypt.exists_checkEnds kept password
              exact ⟨ending, .bcrypt hparse hcheck⟩
          | key hash =>
              have hne := (wellFormed_of_parse hparse).algorithm_ne
              exact ⟨_, .otherFamily hparse fun h => hne (h.1 rfl)⟩
      | key s =>
          cases parsed with
          | bcrypt kept =>
              exact ⟨_, .otherFamily hparse fun h => s.family_ne_bcrypt (h.2 rfl)⟩
          | key hash =>
              by_cases halgorithm : hash.algorithm = s.algorithm
              · obtain ⟨ending, hcheck⟩ :=
                  s.function.exists_checkEnds s.keyLength s.secret hash password
                exact ⟨ending, .key hparse halgorithm hcheck⟩
              · exact ⟨_, .foreign hparse halgorithm⟩

theorem ComparisonEnds.compare_eq (h : p.ComparisonEnds text password ending) :
    p.compare text password = ending.outcome := by
  cases h with
  | unreadable hparse => rw [compare, hparse]; rfl
  | @otherFamily _ _ _ parsed hparse hfamily =>
      rw [compare, hparse]
      cases p with
      | bcrypt cost =>
          cases parsed with
          | bcrypt kept => exact absurd (iff_of_true rfl rfl) hfamily
          | key hash => rfl
      | key s =>
          cases parsed with
          | bcrypt kept => rfl
          | key hash =>
              have hne := (wellFormed_of_parse hparse).algorithm_ne
              exact absurd (iff_of_false s.family_ne_bcrypt hne) hfamily
  | bcrypt hparse hcheck => rw [compare, hparse]; exact hcheck.verify_eq
  | foreign hparse halgorithm =>
      rw [compare, hparse]
      exact if_neg halgorithm
  | key hparse halgorithm hcheck => rw [compare, hparse]; exact hcheck.verify_eq halgorithm

theorem ComparisonEnds.level_eq {event : Event}
    (h : p.ComparisonEnds text password (.fault event)) : event.level = .debug := by
  cases h with
  | unreadable => rfl
  | otherFamily => rfl
  | bcrypt _ hcheck => exact hcheck.level_eq
  | foreign => rfl
  | key _ _ hcheck => exact hcheck.level_eq

end Parameters

/-- Both comparisons are silent exactly if they accept or came to the answer that the stored value
is another one. Any other ending logs one event, that of the first stage that failed; and a text
that was read and is not masked never lacks the parameters to check it with. -/
theorem only_an_answer_is_silent (p : Profile) (text : String) (password : Bytes) :
    (compare text password).Tells (ComparisonEnds text password) ∧
      (p.compare text password).Tells (p.parameters.ComparisonEnds text password) ∧
      ∀ hash, parse text = .ok (.key hash) → hash.isMasked = false →
        ∃ s, KeySettings.ofHash? hash = some s := by
  refine ⟨?_, ?_, ?_⟩
  · exact Outcome.tells_of_ends (exists_comparisonEnds text password)
      (fun _ h => h.compare_eq) fun _ h => h.level_eq
  · exact Outcome.tells_of_ends (p.parameters.exists_comparisonEnds text password)
      (fun _ h => h.compare_eq) fun _ h => h.level_eq
  · intro hash hparse hmasked
    obtain ⟨f, keyLength, hs, -⟩ := exists_function_of_parse hparse hmasked
    exact ⟨_, hs⟩

end PasswordHashing
