import LogRelay.Line

/-!
How a text is cut to a line. It makes no difference in how many pieces the text comes. The place of
the newline is kept free even from a text that brings its own, so one text that would fit counts as
cut: the text that fills the whole line and ends in a newline.
-/

namespace LogRelay

def withNewline (b : Bytes) : Bytes :=
  if b = [] ∨ b.getLast? = some newline then b else b ++ [newline]

theorem withNewline_eq_nil {b : Bytes} : withNewline b = [] ↔ b = [] := by
  rw [withNewline]
  split
  · rfl
  · next text => simp [not_or.mp text]

theorem withNewline_concat (b : Bytes) : withNewline (b ++ [newline]) = b ++ [newline] :=
  if_pos (.inr List.getLast?_concat)

@[simp] theorem withNewline_withNewline (b : Bytes) :
    withNewline (withNewline b) = withNewline b := by
  by_cases ended : b = [] ∨ b.getLast? = some newline
  · rw [withNewline, withNewline, if_pos ended, if_pos ended]
  · have added : withNewline b = b ++ [newline] := if_neg ended
    rw [added, withNewline_concat]

theorem length_withNewline (b : Bytes) :
    (withNewline b).length = b.length ∧ withNewline b = b ∨
      (withNewline b).length = b.length + 1 ∧ withNewline b = b ++ [newline] := by
  rw [withNewline]
  split
  · exact .inl ⟨rfl, rfl⟩
  · exact .inr ⟨List.length_append, rfl⟩

namespace Draft

theorem push_nil (d : Draft) : d.push [] = d := by
  simp [push]

theorem push_push (d : Draft) (p q : Bytes) : (d.push p).push q = d.push (p ++ q) := by
  have bound := d.length_le
  have bytes : ((d.push p).push q).bytes = (d.push (p ++ q)).bytes := by
    simp only [push, List.append_assoc, List.take_append, List.length_append, List.length_take]
    congr 3
    omega
  have truncated : ((d.push p).push q).truncated = (d.push (p ++ q)).truncated := by
    rw [Bool.eq_iff_iff]
    simp only [push, Bool.or_eq_true, decide_eq_true_iff, List.length_append, List.length_take,
      or_assoc]
    refine or_congr_right ?_
    omega
  exact (mk.injEq ..).mpr ⟨bytes, truncated⟩

theorem pushAll_eq (d : Draft) (pieces : List Bytes) :
    pieces.foldl push d = d.push pieces.flatten := by
  induction pieces generalizing d with
  | nil => exact d.push_nil.symm
  | cons p rest ih => rw [List.foldl_cons, ih, push_push, List.flatten_cons]

theorem bytes_finish (d : Draft) : d.finish.bytes = withNewline d.bytes := by
  rw [finish, withNewline]
  split <;> rfl

theorem truncated_finish (d : Draft) : d.finish.truncated = d.truncated := by
  rw [finish]
  split <;> rfl

end Draft

namespace Line

theorem eq_of_bytes {l m : Line} (bytes : l.bytes = m.bytes)
    (truncated : l.truncated = m.truncated) : l = m := by
  cases l
  cases m
  cases bytes
  cases truncated
  rfl

theorem ofPieces_eq_ofBytes (pieces : List Bytes) : ofPieces pieces = ofBytes pieces.flatten := by
  rw [ofPieces, Draft.pushAll_eq, ofBytes]

theorem bytes_ofBytes (b : Bytes) : (ofBytes b).bytes = withNewline (b.take 255) :=
  Draft.bytes_finish _

theorem truncated_ofBytes (b : Bytes) : (ofBytes b).truncated = decide (255 < b.length) :=
  Draft.truncated_finish _

theorem bytes_ofBytes_eq_nil {b : Bytes} : (ofBytes b).bytes = [] ↔ b = [] := by
  rw [bytes_ofBytes, withNewline_eq_nil, List.take_eq_nil_iff]
  simp

theorem bytes_rewrapped (b : Bytes) : (ofBytes (ofBytes b).bytes).bytes = (ofBytes b).bytes := by
  simp only [bytes_ofBytes]
  have short : (b.take 255).length ≤ 255 := List.length_take_le 255 b
  obtain ⟨_, same⟩ | ⟨_, added⟩ := length_withNewline (b.take 255)
  · rw [same, List.take_take, Nat.min_self, same]
  · by_cases full : (b.take 255).length = 255
    · rw [added, List.take_append_of_le_length (Nat.le_of_eq full.symm),
        List.take_take, Nat.min_self, added]
    · have all : (withNewline (b.take 255)).take 255 = withNewline (b.take 255) := by
        refine List.take_of_length_le ?_
        rw [added, List.length_append, List.length_singleton]
        omega
      rw [all, withNewline_withNewline]

/-- A text counts as cut if it does not fit when it is ended, and if it fills the line to the last
octet by its own newline. -/
theorem truncated_iff (b : Bytes) :
    (ofBytes b).truncated = true ↔
      capacity < (withNewline b).length ∨ b.length = capacity ∧ withNewline b = b := by
  rw [truncated_ofBytes, decide_eq_true_iff, capacity]
  obtain ⟨length, same⟩ | ⟨length, added⟩ := length_withNewline b
  · simp only [same, and_true]
    omega
  · have other : withNewline b ≠ b := by
      intro same
      rw [same] at length
      omega
    simp only [length, other, and_false, or_false]
    omega

theorem truncated_rewrapped (b : Bytes) :
    (ofBytes (ofBytes b).bytes).truncated = true ↔ (ofBytes b).length = capacity := by
  have most : (ofBytes b).bytes.length ≤ 256 := (ofBytes b).length_le
  rw [truncated_ofBytes, decide_eq_true_iff, length, capacity]
  omega

theorem rewrapped_eq_iff {b : Bytes} (whole : (ofBytes b).truncated = false) :
    ofBytes (ofBytes b).bytes = ofBytes b ↔ (ofBytes b).length < capacity := by
  have most : (ofBytes b).length ≤ capacity := (ofBytes b).length_le
  have again := truncated_rewrapped b
  constructor
  · intro same
    rw [same, whole] at again
    have other : (ofBytes b).length ≠ capacity := fun full => nomatch again.mpr full
    omega
  · intro short
    refine eq_of_bytes (bytes_rewrapped b) ?_
    rw [whole, Bool.eq_false_iff]
    exact fun cut => Nat.ne_of_lt short (again.mp cut)

/-- What the flag of a line says of the text it was made of, and what becomes of the line when it is
made into a line once more. -/
structure Flagged (text : Bytes) (l : Line) : Prop where
  flag : l.truncated = true ↔
    capacity < (withNewline text).length ∨ text.length = capacity ∧ withNewline text = text
  bytes : (ofBytes l.bytes).bytes = l.bytes
  again : (ofBytes l.bytes).truncated = true ↔ l.length = capacity
  same : l.truncated = false → (ofBytes l.bytes = l ↔ l.length < capacity)

theorem ofPieces_flagged (pieces : List Bytes) :
    let b := pieces.flatten
    ofPieces pieces = ofBytes b ∧ Flagged b (ofBytes b) := by
  intro b
  exact ⟨ofPieces_eq_ofBytes pieces, truncated_iff b, bytes_rewrapped b, truncated_rewrapped b,
    rewrapped_eq_iff⟩

/-- A text of 256 octets that ends in a newline fits and counts as cut all the same, and so does the
line of the 255 octets before that newline once it is made into a line again. -/
theorem full_line_flagged :
    let text : Bytes := List.replicate 255 121
    let l := ofBytes text
    withNewline (text ++ [newline]) = text ++ [newline] ∧
      (text ++ [newline]).length = capacity ∧ (ofBytes (text ++ [newline])).truncated = true ∧
      l.bytes = text ++ [newline] ∧ l.truncated = false ∧ ofBytes l.bytes ≠ l := by
  intro text l
  have length : text.length = 255 := List.length_replicate
  have bare : ¬ (text = [] ∨ text.getLast? = some newline) := by
    rw [List.getLast?_replicate]
    exact not_or.mpr ⟨List.cons_ne_nil _ _, by decide⟩
  -- From here on only the length and the last octet count.
  clear_value text
  have bytes : l.bytes = text ++ [newline] := by
    rw [bytes_ofBytes, List.take_of_length_le (Nat.le_of_eq length), withNewline, if_neg bare]
  have full : (text ++ [newline]).length = capacity := by
    rw [List.length_append, length]
    rfl
  have whole : l.truncated = false := by
    rw [truncated_ofBytes, length]
    rfl
  have cut : (ofBytes (text ++ [newline])).truncated = true := by
    rw [truncated_ofBytes, full]
    rfl
  refine ⟨withNewline_concat text, full, cut, bytes, whole, fun same => ?_⟩
  rw [← bytes, same, whole] at cut
  cases cut

end Line

end LogRelay
