import Mathlib.Data.List.TakeWhile
import LogRelay.Proofs.Layout

/-!
What trimming leaves of a text: a part of it without white space at its ends, with nothing but
white space before and after. Trimmed text is not longer, and trimming it again changes nothing.
-/

namespace LogRelay.Text

def Blank (s : String) : Prop :=
  ∀ c ∈ s.toList, isBlank c = true

instance (s : String) : Decidable (Blank s) :=
  decidable_of_iff (s.toList.all isBlank = true) List.all_eq_true

theorem trimLeft_splits (cs : List Char) :
    ∃ front, cs = front ++ trimLeft cs ∧ ∀ c ∈ front, isBlank c = true :=
  ⟨cs.takeWhile isBlank, List.takeWhile_append_dropWhile.symm, fun _ => List.mem_takeWhile_imp⟩

theorem trimRight_splits (cs : List Char) :
    ∃ back, cs = trimRight cs ++ back ∧ ∀ c ∈ back, isBlank c = true := by
  obtain ⟨back, split, blank⟩ := trimLeft_splits cs.reverse
  refine ⟨back.reverse, ?_, by simpa using blank⟩
  rw [trimRight, ← List.reverse_append, ← split, List.reverse_reverse]

theorem trimChars_splits (cs : List Char) :
    ∃ front back, cs = front ++ (trimChars cs ++ back) ∧ (∀ c ∈ front, isBlank c = true) ∧
      ∀ c ∈ back, isBlank c = true := by
  obtain ⟨front, split, blank⟩ := trimLeft_splits cs
  obtain ⟨back, rest, blank'⟩ := trimRight_splits (trimLeft cs)
  exact ⟨front, back, by rw [trimChars, ← rest, ← split], blank, blank'⟩

theorem front_trimLeft (cs : List Char) : ∀ c ∈ (trimLeft cs).head?, isBlank c = false := by
  intro c hc
  have first := List.head?_dropWhile_not isBlank cs
  rw [show (cs.dropWhile isBlank).head? = some c from hc] at first
  simpa using first

theorem bare_trimChars (cs : List Char) : Bare (trimChars cs) where
  front c hc := by
    obtain ⟨back, split, -⟩ := trimRight_splits (trimLeft cs)
    apply front_trimLeft cs
    rw [split, List.head?_append, show (trimRight (trimLeft cs)).head? = some c from hc]
    rfl
  back := by
    rw [trimChars, trimRight, List.getLast?_reverse]
    exact front_trimLeft _

theorem trim_trim (s : String) : trim (trim s) = trim s := by
  rw [trim, trim, String.toList_ofList, (bare_trimChars _).trimChars_eq]

theorem trimChars_eq_nil {s : String} : trimChars s.toList = [] ↔ Blank s := by
  obtain ⟨front, back, split, blank, blank'⟩ := trimChars_splits s.toList
  constructor
  · intro none c hc
    rw [split, none, List.nil_append] at hc
    exact (List.mem_append.mp hc).elim (blank c) (blank' c)
  · intro whole
    cases left : trimChars s.toList with
    | nil => rfl
    | cons c rest =>
      have text := (bare_trimChars s.toList).front c (by rw [left]; rfl)
      rw [whole c (by rw [split, left]; simp)] at text
      cases text

theorem trim_eq_empty {s : String} : trim s = "" ↔ Blank s := by
  rw [← trimChars_eq_nil, trim, ← String.toList_inj, String.toList_ofList]
  rfl

theorem blank_trim {s : String} : Blank (trim s) ↔ Blank s := by
  rw [← trim_eq_empty, trim_trim, trim_eq_empty]

theorem utf8ByteSize_trim_le (s : String) : (trim s).utf8ByteSize ≤ s.utf8ByteSize := by
  obtain ⟨front, back, split, -, -⟩ := trimChars_splits s.toList
  have whole : s = String.ofList front ++ (trim s ++ String.ofList back) := by
    rw [trim, ← String.ofList_append, ← String.ofList_append, ← split, String.ofList_toList]
  have sizes := congrArg String.utf8ByteSize whole
  simp only [String.utf8ByteSize_append] at sizes
  omega

end LogRelay.Text
