import LogRelay.Stream

/-!
What has been taken when writing ends: the beginning of the text, and all of it exactly if the
writing is complete. A relation that says what one call does to the writer says the same of all
calls together.
-/

namespace LogRelay

def Reply.share (reply : Reply) (offer : Bytes) : Bytes :=
  match reply with
  | .accepted n => offer.take n
  | .interrupted | .failed _ => []

section

variable {σ : Type} (write : σ → Bytes → Reply × σ)

@[simp] theorem Transfer.taken_after (t : Transfer σ) (reply : Reply) (b : Bytes) :
    (t.after reply b).taken = b ++ t.taken := rfl

theorem writeFully_splits (fuel : Nat) (s : σ) (b : Bytes) :
    ∃ rest, b = (writeFully write fuel s b).taken ++ rest ∧
      ((writeFully write fuel s b).ending = .complete ↔ rest = []) := by
  induction fuel generalizing s b with
  | zero =>
    cases b with
    | nil => exact ⟨[], rfl, by simp [writeFully]⟩
    | cons x b => exact ⟨x :: b, rfl, by simp [writeFully]⟩
  | succ fuel ih =>
    cases b with
    | nil => exact ⟨[], rfl, by simp [writeFully]⟩
    | cons x b =>
      rw [writeFully]
      split
      · exact ⟨x :: b, rfl, by simp⟩
      · next n next _ =>
        obtain ⟨rest, split, whole⟩ := ih next ((x :: b).drop (n + 1))
        refine ⟨rest, ?_, whole⟩
        rw [Transfer.taken_after, List.append_assoc, ← split, List.take_append_drop]
      · next next _ =>
        obtain ⟨rest, split, whole⟩ := ih next (x :: b)
        exact ⟨rest, split, whole⟩
      · exact ⟨x :: b, rfl, by simp⟩

theorem writeFully_took (Took : σ → Bytes → σ → Prop) (nothing : ∀ s, Took s [] s)
    (join : ∀ {s t u a b}, Took s a t → Took t b u → Took s (a ++ b) u)
    (call : ∀ s offer, Took s ((write s offer).1.share offer) (write s offer).2)
    (fuel : Nat) (s : σ) (b : Bytes) :
    Took s (writeFully write fuel s b).taken (writeFully write fuel s b).writer := by
  induction fuel generalizing s b with
  | zero => cases b <;> exact nothing s
  | succ fuel ih =>
    cases b with
    | nil => exact nothing s
    | cons x b =>
      have now := call s (x :: b)
      rw [writeFully]
      split
      · next answer => rw [answer] at now; exact now
      · next answer => rw [answer] at now; exact join now (ih _ _)
      · next answer => rw [answer] at now; exact join now (ih _ _)
      · next answer => rw [answer] at now; exact now

end

end LogRelay
