import LogRelay.Text.Quoted
import LogRelay.Text.Utf8

/-!
Log lines as they travel: at most 256 octets that end in a newline, or none. A text that is too
long is cut so that the newline still fits, and the line says that it was cut.
-/

namespace LogRelay

def newline : UInt8 := 10

structure Line where
  bytes : Bytes
  truncated : Bool
  length_le : bytes.length ≤ 256
  terminated : bytes = [] ∨ bytes.getLast? = some newline
deriving DecidableEq

/-- A line under construction. One place stays free for the newline. -/
structure Draft where
  bytes : Bytes
  truncated : Bool
  length_le : bytes.length ≤ 255

namespace Draft

def empty : Draft :=
  ⟨[], false, by decide⟩

/-- Appends what still fits and notes whether anything was left out. -/
def push (d : Draft) (piece : Bytes) : Draft where
  bytes := d.bytes ++ piece.take (255 - d.bytes.length)
  truncated := d.truncated || decide (255 - d.bytes.length < piece.length)
  length_le := by
    have := d.length_le
    simp only [List.length_append, List.length_take]
    omega

/-- Ends the line, with a newline if its text has none at the end. -/
def finish (d : Draft) : Line :=
  if h : d.bytes = [] ∨ d.bytes.getLast? = some newline then
    ⟨d.bytes, d.truncated, Nat.le_succ_of_le d.length_le, h⟩
  else
    { bytes := d.bytes ++ [newline]
      truncated := d.truncated
      length_le := by
        have := d.length_le
        simp only [List.length_append, List.length_singleton]
        omega
      terminated := by simp }

end Draft

namespace Line

def capacity : Nat := 256

def empty : Line :=
  ⟨[], false, by decide, Or.inl rfl⟩

instance : Inhabited Line := ⟨empty⟩

/-- The line of a text that arrives piece by piece. -/
def ofPieces (pieces : List Bytes) : Line :=
  (pieces.foldl Draft.push Draft.empty).finish

def ofBytes (b : Bytes) : Line :=
  (Draft.empty.push b).finish

def ofText (s : String) : Line :=
  ofBytes (bytesOf s)

def isEmpty (l : Line) : Bool :=
  l.bytes.isEmpty

def length (l : Line) : Nat :=
  l.bytes.length

def describe (l : Line) : String :=
  s!"LogLine \x7b text: {Text.quoted (Utf8.lossy l.bytes)}, truncated: {l.truncated} \x7d"

theorem isEmpty_iff (l : Line) : l.isEmpty ↔ l.bytes = [] := by
  simp [isEmpty]

end Line

end LogRelay
