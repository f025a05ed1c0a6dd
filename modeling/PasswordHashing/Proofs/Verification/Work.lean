import PasswordHashing.Proofs.HashText.Careful
import PasswordHashing.Proofs.Parameters
import PasswordHashing.Proofs.Verification

/-!
How much work a stored text can ask for. A comparison is taken apart into what it asks of
the key derivations and what it does with their answers, so that each request can be looked
at before it is answered. Main statement: reading a text never leaves its fields and
overflows no word, and whatever a text says, the numbers that reach a key derivation are
the ones that were read off the text and found to be below the ceilings.
-/

namespace PasswordHashing

open HashText

/-! ### Requests -/

/-- What a key derivation is called with: its parameters in its own form, and its inputs. -/
inductive KeyRequest
  | argon2 (variant : Argon2.Variant) (parameters : Argon2.Parameters)
      (secret password salt : Bytes)
  | scrypt (parameters : Scrypt.Parameters) (password salt : Bytes)
  deriving DecidableEq

namespace KeyRequest

def answer : KeyRequest → Except HashingError Bytes
  | .argon2 variant q secret password salt =>
    match q.refusal?, Argon2.inputRefusal? secret password salt with
    | some refusal, _ => .error (.argon2 ("Invalid Argon2 parameters: " ++ refusal.message))
    | none, some refusal => .error (.argon2 refusal.message)
    | none, none => .ok (Argon2.derive variant q secret password salt)
  | .scrypt q password salt =>
    if q.Accepted then .ok (Scrypt.derive q password salt)
    else .error (.scrypt ("Invalid scrypt parameters: " ++ Scrypt.refusalMessage))

/-- The ceilings on the numbers of a text, said of the parameters; `logN` is the exponent. -/
def WithinCeilings : KeyRequest → Prop
  | .argon2 _ q .. =>
    q.time.toNat ≤ 64 ∧ q.memory.toNat * 1024 ≤ 2 ^ 30 ∧ q.threads.toNat ≤ 64 ∧
      q.keyLength.toNat ≤ 1024
  | .scrypt q .. =>
    1 ≤ q.logN.toNat ∧ q.logN.toNat ≤ 24 ∧ q.r.toNat ≤ 32 ∧ q.p.toNat ≤ 16 ∧
      q.keyLength.toNat ≤ 64 ∧ 128 * q.r.toNat * 2 ^ q.logN.toNat ≤ 2 ^ 30

def function : KeyRequest → KeyDerivation
  | .argon2 variant q .. => .argon2 variant q.time q.memory q.threads
  | .scrypt q .. => .scrypt q.logN q.r q.p

def keyLength : KeyRequest → UInt64
  | .argon2 _ q .. => q.keyLength
  | .scrypt q .. => q.keyLength

/-- Numbers that were found to be within the limits are within the ceilings when they arrive. -/
theorem withinCeilings_of_hasCost {request : KeyRequest} {cost : Cost}
    (hcost : request.function.HasCost request.keyLength cost) (hlimits : cost.WithinLimits) :
    request.WithinCeilings := by
  obtain ⟨hceilings, hlength⟩ := (KeyDerivation.withinLimits_iff_of_hasCost hcost).1 hlimits
  cases request with
  | argon2 variant q secret password salt =>
      obtain ⟨htime, hmemory, hthreads, hkey⟩ := hceilings
      exact ⟨htime, by omega, hthreads, hkey⟩
  | scrypt q password salt =>
      obtain ⟨hpos, hle, hr, hp, hmemory⟩ := hceilings
      exact ⟨hpos, hle, hr, hp, hlength rfl, hmemory⟩

end KeyRequest

namespace KeyDerivation

/-- What deriving a key comes down to. -/
def request (f : KeyDerivation) (keyLength : UInt64) (secret : Option Bytes)
    (password salt : Bytes) : KeyRequest :=
  match f with
  | .argon2 variant time memory threads =>
    .argon2 variant { time, memory, threads, keyLength } (secret.getD []) password salt
  | .scrypt logN r p => .scrypt { logN, r, p, keyLength } (keyedPassword secret password) salt

theorem answer_request (f : KeyDerivation) (keyLength : UInt64) (secret : Option Bytes)
    (password salt : Bytes) :
    (f.request keyLength secret password salt).answer =
      f.derive keyLength secret password salt := by
  cases f <;> rfl

@[simp] theorem function_request (f : KeyDerivation) (keyLength : UInt64)
    (secret : Option Bytes) (password salt : Bytes) :
    (f.request keyLength secret password salt).function = f := by
  cases f <;> rfl

@[simp] theorem keyLength_request (f : KeyDerivation) (keyLength : UInt64)
    (secret : Option Bytes) (password salt : Bytes) :
    (f.request keyLength secret password salt).keyLength = keyLength := by
  cases f <;> rfl

end KeyDerivation

/-! ### Comparisons that ask -/

/-- A computation that asks for keys and goes on with what it is answered. -/
inductive Asking (α : Type)
  | done (a : α)
  | ask (request : KeyRequest) (next : Except HashingError Bytes → Asking α)

namespace Asking

variable {α : Type}

def run (answer : KeyRequest → Except HashingError Bytes) : Asking α → α
  | .done a => a
  | .ask request next => (next (answer request)).run answer

/-- All that is asked for on the way to the end. -/
def requests (answer : KeyRequest → Except HashingError Bytes) : Asking α → List KeyRequest
  | .done _ => []
  | .ask request next => request :: (next (answer request)).requests answer

end Asking

def KeySettings.verifyAsking (s : KeySettings) (hash : KeyHash) (password : Bytes) :
    Asking (Outcome Unit) :=
  if hash.algorithm = s.algorithm then
    .ask (s.function.request s.keyLength s.secret password hash.salt) fun
      | .ok digest => .done (.ofAnswer (hash.digest == digest))
      | .error e => .done (.mismatch [.recomputationFailed s.family e])
  else .done (.mismatch [.foreignAlgorithm s.family hash.algorithm])

def comparePublicAsking (hash : KeyHash) (password : Bytes) : Asking (Outcome Unit) :=
  if hash.isMasked then .done (.mismatch [.maskedNeedsProfile hash.algorithm])
  else
    match KeySettings.ofHash? hash with
    | some s => s.verifyAsking hash password
    | none => .done (.mismatch [])

def compareAsking (text : String) (password : Bytes) : Asking (Outcome Unit) :=
  match parse text with
  | .error e => .done (.mismatch [.parseRejected e])
  | .ok (.bcrypt text) => .done (Bcrypt.verify text password)
  | .ok (.key hash) => comparePublicAsking hash password

theorem KeySettings.run_verifyAsking (s : KeySettings) (hash : KeyHash) (password : Bytes) :
    (s.verifyAsking hash password).run KeyRequest.answer = s.verify hash password := by
  unfold verifyAsking verify
  split
  · rw [Asking.run, KeyDerivation.answer_request, digest]
    cases s.function.derive s.keyLength s.secret password hash.salt <;> rfl
  · rfl

theorem run_comparePublicAsking (hash : KeyHash) (password : Bytes) :
    (comparePublicAsking hash password).run KeyRequest.answer = comparePublic hash password := by
  unfold comparePublicAsking comparePublic
  split
  · rfl
  · cases KeySettings.ofHash? hash with
    | none => rfl
    | some s => exact s.run_verifyAsking hash password

/-- Answered as the key derivations answer, this is the comparison. -/
theorem run_compareAsking (text : String) (password : Bytes) :
    (compareAsking text password).run KeyRequest.answer = compare text password := by
  unfold compareAsking compare
  cases parse text with
  | error e => rfl
  | ok parsed =>
      cases parsed with
      | bcrypt kept => rfl
      | key hash => exact run_comparePublicAsking hash password

/-! ### What is asked for -/

variable {text : String} {password : Bytes} {request : KeyRequest}
  {answer : KeyRequest → Except HashingError Bytes}

theorem KeySettings.eq_of_mem_requests_verifyAsking {s : KeySettings} {hash : KeyHash}
    (h : request ∈ (s.verifyAsking hash password).requests answer) :
    request = s.function.request s.keyLength s.secret password hash.salt := by
  unfold verifyAsking at h
  split at h
  · -- the comparison with the digest that follows asks for nothing more
    rw [Asking.requests] at h
    rcases List.mem_cons.1 h with h | h
    · exact h
    · split at h <;> cases h
  · cases h

/-- The one key that is asked for is that of the numbers in the text. -/
theorem hasCost_of_mem_requests (h : request ∈ (compareAsking text password).requests answer) :
    ∃ hash cost, parse text = .ok (.key hash) ∧ hash.cost = some cost ∧
      request.function.HasCost request.keyLength cost := by
  unfold compareAsking at h
  split at h
  · cases h
  · cases h
  · rename_i hash hparse
    have hfits := (wellFormed_of_parse hparse).cost_fits
    unfold comparePublicAsking at h
    split at h
    · cases h
    · split at h
      · rename_i s hs
        obtain rfl := KeySettings.eq_of_mem_requests_verifyAsking h
        obtain ⟨f, keyLength, rfl, -, hcost⟩ := (KeySettings.ofHash?_eq_some_iff hfits).1 hs
        refine ⟨hash, _, hparse, hcost, ?_⟩
        simp only [KeyDerivation.function_request, KeyDerivation.keyLength_request]
        exact KeyDerivation.hasCost_cost_of_powerOfTwo (hfits _ hcost).2.1.1
      · cases h

/-- The numbers of a text are those that its digits spell, of any length, and below the ceilings. -/
theorem cost_of_parse {hash : KeyHash} {cost : Cost} (h : parse text = .ok (.key hash))
    (hcost : hash.cost = some cost) :
    cost.WithinLimits ∧ ∃ a b c keyLength, costFields text = [a, b, c, keyLength] ∧
      cost.SpelledBy a b c keyLength := by
  refine ⟨((wellFormed_of_parse h).cost_fits cost hcost).2.1, ?_⟩
  obtain ⟨rest, -, hspelled, hfields⟩ := KeyHash.exists_spelledBy_of_parse h
  cases hspelled with
  | masked => cases hcost
  | described hsalt hdigest hspelled =>
      cases hcost
      exact ⟨_, _, _, _, hfields, hspelled⟩

/-- No text makes its reader look for a field that is not there or overflow a word, and no text
makes a comparison ask for a key with numbers above the ceilings or other than its own. -/
theorem stored_text_bounds_work (text : String) :
    parseCarefully text = orRefused (parse text) ∧
      (∀ hash cost, parse text = .ok (.key hash) → hash.cost = some cost →
        cost.BelowCeilings ∧ ∃ a b c keyLength, costFields text = [a, b, c, keyLength] ∧
          cost.SpelledBy a b c keyLength) ∧
      ∀ password : Bytes,
        (compareAsking text password).run KeyRequest.answer = compare text password ∧
        ∀ answer, ∀ request ∈ (compareAsking text password).requests answer,
          request.WithinCeilings ∧ ∃ hash cost, parse text = .ok (.key hash) ∧
            hash.cost = some cost ∧ request.function.HasCost request.keyLength cost := by
  refine ⟨parseCarefully_eq text, ?_, ?_⟩
  · intro hash cost hparse hcost
    obtain ⟨hlimits, hspelled⟩ := cost_of_parse hparse hcost
    exact ⟨hlimits.2, hspelled⟩
  · intro password
    refine ⟨run_compareAsking text password, ?_⟩
    intro answer request hrequest
    obtain ⟨hash, cost, hparse, hcost, hhas⟩ := hasCost_of_mem_requests hrequest
    have hlimits := (cost_of_parse hparse hcost).1
    exact ⟨KeyRequest.withinCeilings_of_hasCost hhas hlimits, hash, cost, hparse, hcost, hhas⟩

/-- A text that claims all the memory it may asks for just that, and the request is granted. -/
theorem stored_text_at_ceiling_asks :
    (compareAsking "$2s$c2FsdA$1048576$8$16$10$ZGlnZXN0ZGlnZQ" []).requests
        (fun _ => .error .mismatch) =
        [.scrypt { logN := 20, r := 8, p := 16, keyLength := 10 } [] [115, 97, 108, 116]] ∧
      (KeyRequest.scrypt { logN := 20, r := 8, p := 16, keyLength := 10 } []
        [115, 97, 108, 116]).WithinCeilings ∧
      Scrypt.Parameters.Accepted { logN := 20, r := 8, p := 16, keyLength := 10 } := by
  have hasked : (compareAsking "$2s$c2FsdA$1048576$8$16$10$ZGlnZXN0ZGlnZQ" []).requests
      (fun _ => .error .mismatch) =
        [.scrypt { logN := 20, r := 8, p := 16, keyLength := 10 } [] [115, 97, 108, 116]] := by
    decide +kernel
  obtain ⟨-, -, hbounds⟩ := stored_text_bounds_work "$2s$c2FsdA$1048576$8$16$10$ZGlnZXN0ZGlnZQ"
  refine ⟨hasked, ((hbounds []).2 (fun _ => .error .mismatch) _ ?_).1, by decide⟩
  rw [hasked]
  exact List.mem_singleton_self _

end PasswordHashing
