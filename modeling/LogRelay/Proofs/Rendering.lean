import LogRelay.Proofs.Emission

/-!
The line of a text that a value writes. Neither the pieces in which the text comes nor a failure
after them make a difference, and the line is the text itself wherever the text fits.
-/

namespace LogRelay

def Script.writing (pieces : List String) (fails : Bool) : Script :=
  pieces.foldr Script.text (if fails then .fail else .done)

theorem Script.format_writing (pieces : List String) (fails : Bool) (d : Desk) :
    (writing pieces fails).format d = ⟨pieces, if fails then .failed else .finished, d⟩ := by
  induction pieces with
  | nil => cases fails <;> rfl
  | cons s rest ih =>
    rw [writing] at ih
    rw [writing, List.foldr_cons, format, ih]

namespace Line

theorem render?_writing (pieces : List String) (fails : Bool) (d : Desk) :
    render? (Script.writing pieces fails) d = some (ofText (String.join pieces)) := by
  have ends : (if fails then Outcome.failed else .finished) ≠ .panicked := by
    cases fails <;> decide
  rw [render?, Script.format_writing]
  simp only [ends, if_false]
  rw [ofPieces_eq_ofBytes, ← bytesOf_join, ofText]

/-- What the line of a text looks like, and that it is not changed by being made a line again. -/
structure Rendered (text : Bytes) (l : Line) : Prop where
  isEmpty : l.isEmpty = true ↔ text = []
  ended : text ≠ [] → l.bytes.getLast? = some newline
  length_le : l.length ≤ capacity
  whole : text.length ≤ 255 → text.getLast? = some newline → l.bytes = text
  closed : text ≠ [] → text.length ≤ 255 → text.getLast? ≠ some newline →
    l.bytes = text ++ [newline]
  cut : 255 < text.length → l.bytes =
    text.take 255 ++ if (text.take 255).getLast? = some newline then [] else [newline]
  again : (ofBytes l.bytes).bytes = l.bytes

theorem ofBytes_rendered (text : Bytes) : Rendered text (ofBytes text) where
  isEmpty := by rw [isEmpty_iff, bytes_ofBytes_eq_nil]
  ended nonempty := by
    obtain empty | ended := (ofBytes text).terminated
    · exact absurd (bytes_ofBytes_eq_nil.mp empty) nonempty
    · exact ended
  length_le := (ofBytes text).length_le
  whole short ended := by
    rw [bytes_ofBytes, List.take_of_length_le short, withNewline, if_pos (.inr ended)]
  closed nonempty short bare := by
    rw [bytes_ofBytes, List.take_of_length_le short, withNewline,
      if_neg (not_or.mpr ⟨nonempty, bare⟩)]
  cut long := by
    have nonempty : text.take 255 ≠ [] := by
      intro empty
      simp only [List.take_eq_nil_iff] at empty
      obtain zero | rfl := empty
      · cases zero
      · simp at long
    simp only [bytes_ofBytes, withNewline, nonempty, false_or]
    split <;> simp
  again := bytes_rewrapped text

/-- A value that only writes has the line of its whole text, and every line, the one without octets
too, is rendered as `Rendered` says. -/
theorem render_exact :
    (∀ (pieces : List String) (fails : Bool) (d : Desk),
      render? (Script.writing pieces fails) d = some (ofBytes (bytesOf (String.join pieces)))) ∧
    (∀ text, Rendered text (ofBytes text)) ∧ ofBytes [] = empty :=
  ⟨render?_writing, ofBytes_rendered, rfl⟩

end Line

end LogRelay
