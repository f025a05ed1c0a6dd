import PasswordHashing.Profile.Run

/-!
What a call can change of a profile, and with it a run. A call leaves the profile as it
is, or sets its secret, or pins the salt that a key was just derived with. Main statement:
as long as no other secret is set, the settings after a run are the ones before it up to
the pinned salt.
-/

namespace PasswordHashing.Profile

variable {p : Profile} {c : Call} {calls : List Call}

/-- All that a call can do to a profile. -/
theorem call_cases (p : Profile) (c : Call) :
    (p.call c).2 = p ∨
      (∃ s secret, p.parameters = .key s ∧ c = .setSecret secret ∧
        (p.call c).2 = { p with parameters := .key { s with secret := some secret } }) ∨
      ∃ s password salt key, p.parameters = .key s ∧ c = .derive password salt ∧
        s.digest password salt = .ok key ∧
        (p.call c).2 = { p with parameters := .key { s with pinnedSalt := some salt } } := by
  obtain ⟨kind, parameters⟩ := p
  cases c with
  | setSecret secret =>
      cases parameters with
      | key s => exact .inr (.inl ⟨s, secret, rfl, rfl, rfl⟩)
      | bcrypt cost => exact .inl rfl
  | derive password salt =>
      cases parameters with
      | key s =>
          cases hderive : s.digest password salt with
          | ok key =>
              refine .inr (.inr ⟨s, password, salt, key, rfl, rfl, hderive, ?_⟩)
              simp only [call, derive, hderive]
          | error e =>
              refine .inl ?_
              simp only [call, derive, hderive]
      | bcrypt cost => exact .inl rfl
  | hash password fresh => exact .inl rfl
  | compare text password => exact .inl rfl

/-- The call sets no secret but the one that is there. -/
def Call.KeepsSecret (secret : Option Bytes) : Call → Prop
  | .setSecret new => secret = some new
  | _ => True

theorem call_keeps_settings {s : KeySettings} (hp : p.parameters = .key s)
    (hc : c.KeepsSecret s.secret) :
    ∃ pin, (p.call c).2.parameters = .key { s with pinnedSalt := pin } := by
  obtain hsame | ⟨s', secret, hs', rfl, hset⟩ | ⟨s', password, salt, key, hs', rfl, -, hpin⟩ :=
    call_cases p c
  · exact ⟨s.pinnedSalt, by rw [hsame, hp]⟩
  · rw [hp] at hs'
    cases hs'
    refine ⟨s.pinnedSalt, ?_⟩
    rw [hset, ← show s.secret = some secret from hc]
  · rw [hp] at hs'
    cases hs'
    exact ⟨some salt, by rw [hpin]⟩

theorem run_keeps_settings {s : KeySettings} (hp : p.parameters = .key s)
    (hcalls : ∀ c ∈ calls, c.KeepsSecret s.secret) :
    ∃ pin, (p.run calls).2.parameters = .key { s with pinnedSalt := pin } := by
  -- the induction is over every profile: the next call starts from another pinned salt
  induction calls generalizing p s with
  | nil => exact ⟨s.pinnedSalt, hp⟩
  | cons c rest ih =>
      obtain ⟨hc, hrest⟩ := List.forall_mem_cons.1 hcalls
      obtain ⟨pin, hpin⟩ := call_keeps_settings hp hc
      have hrun := ih hpin hrest
      exact hrun

theorem call_bcrypt {cost : UInt32} (hp : p.parameters = .bcrypt cost) : (p.call c).2 = p := by
  obtain hsame | ⟨s, secret, hs, -⟩ | ⟨s, password, salt, key, hs, -⟩ := call_cases p c
  · exact hsame
  · rw [hp] at hs
    cases hs
  · rw [hp] at hs
    cases hs

theorem run_bcrypt {cost : UInt32} (hp : p.parameters = .bcrypt cost) :
    (p.run calls).2 = p := by
  induction calls with
  | nil => rfl
  | cons c rest ih => rw [run, call_bcrypt hp, ih]

end PasswordHashing.Profile
