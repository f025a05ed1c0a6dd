import PasswordHashing.Json.Reader
import PasswordHashing.Proofs.HashText.Cost

/-!
What values can come out of a reader, whatever the text. A property that every step keeps is
kept by reading all members of an object or all items of an array, and a check on the way can
be passed over.
-/

namespace PasswordHashing

namespace Json

variable {δ σ α β : Type} {P : α → Prop} {Q : β → Prop}

/-- Whatever text there is to read, a value that comes out has the property. -/
def Yields (read : Read δ α) (P : α → Prop) : Prop :=
  ∀ text a rest, read text = .ok (a, rest) → P a

theorem yields_pure {a : α} (h : P a) : Yields (pure a : Read δ α) P := by
  intro text b rest hread
  cases hread
  exact h

theorem yields_fail (e : ReadError δ) : Yields (fail e : Read δ α) P := nofun

theorem Yields.bind {read : Read δ α} {next : α → Read δ β} (h : Yields read P)
    (hnext : ∀ a, P a → Yields (next a) Q) : Yields (read >>= next) Q := by
  intro text b rest hread
  have hbind : (read text >>= fun p => next p.1 p.2) = .ok (b, rest) := hread
  obtain ⟨⟨a, middle⟩, ha, hb⟩ := bind_eq_ok_iff.1 hbind
  exact hnext a (h text a middle ha) middle b rest hb

/-- Of a value that matters for how to go on, but not for what comes out. -/
theorem yields_bind {read : Read δ α} {next : α → Read δ β} (hnext : ∀ a, Yields (next a) Q) :
    Yields (read >>= next) Q :=
  Yields.bind (P := fun _ => True) (fun _ _ _ _ => trivial) fun a _ => hnext a

/-- A check can only fail, or go on as if it had not been there. -/
theorem yields_check {c : Prop} [Decidable c] {e : ReadError δ} {next : Unit → Read δ β}
    (h : Yields (next ()) Q) : Yields (if c then fail e >>= next else next ()) Q := by
  split
  · exact Yields.bind (P := fun _ => False) (yields_fail e) fun _ => False.elim
  · exact h

section Folds

variable {I : σ → Prop}

theorem yields_foldMembers {step : σ → String → Read δ σ}
    (hstep : ∀ s name, I s → Yields (step s name) I) (purpose : Purpose) (fuel : Nat) {s : σ}
    (hs : I s) : Yields (foldMembers purpose step fuel s) I := by
  induction fuel generalizing s with
  | zero => exact yields_fail _
  | succ fuel ih =>
      rw [foldMembers]
      refine yields_bind fun name => (hstep s name hs).bind fun next hnext => ?_
      refine yields_bind fun c => ?_
      split
      · exact yields_pure hnext
      · exact ih hnext
      · exact yields_fail _

theorem yields_readMembers {step : σ → String → Read δ σ}
    (hstep : ∀ s name, I s → Yields (step s name) I) (purpose : Purpose) {s : σ} (hs : I s) :
    Yields (readMembers purpose step s) I := by
  rw [readMembers]
  refine yields_bind fun c => ?_
  split
  · exact yields_bind fun _ => yields_pure hs
  · exact yields_bind fun text => yields_foldMembers hstep purpose _ hs

theorem yields_foldItems {step : σ → Read δ σ} (hstep : ∀ s, I s → Yields (step s) I) (fuel : Nat)
    {s : σ} (hs : I s) : Yields (foldItems step fuel s) I := by
  induction fuel generalizing s with
  | zero => exact yields_fail _
  | succ fuel ih =>
      rw [foldItems]
      refine (hstep s hs).bind fun next hnext => yields_bind fun c => ?_
      split
      · exact yields_pure hnext
      · exact ih hnext
      · exact yields_fail _

theorem yields_readItems {step : σ → Read δ σ} (hstep : ∀ s, I s → Yields (step s) I) {s : σ}
    (hs : I s) : Yields (readItems step s) I := by
  rw [readItems]
  refine yields_bind fun c => ?_
  split
  · exact yields_bind fun _ => yields_pure hs
  · exact yields_bind fun text => yields_foldItems hstep _ hs

end Folds

theorem of_readDocument {read : Read δ α} (h : Yields read P) {text : String} {a : α}
    (hread : readDocument read text = .ok a) : P a := by
  rw [readDocument, bind_eq_ok_iff] at hread
  obtain ⟨⟨b, rest⟩, hb, hend⟩ := hread
  dsimp only at hend
  split at hend
  · cases hend
    exact h _ _ rest hb
  · cases hend

end Json

end PasswordHashing
