import LogRelay.Text.Number
import LogRelay.Text.Quoted

/-!
Reading a settings text from left to right, with the line and column of the character at hand, and
the runs of characters that keys, section names and values are made of. A backslash in a run
stands for what follows it.
-/

namespace LogRelay.Settings

/-- The text not yet read, and the place of its first character. At the end of the text the place
is that of the last character. -/
structure Cursor where
  rest : List Char
  line : Nat
  column : Nat
deriving DecidableEq

namespace Cursor

/-- Moves onto what follows: a line feed begins a line and has column 0. -/
def onto (c : Cursor) : List Char → Cursor
  | [] => { c with rest := [] }
  | '\n' :: rest => ⟨'\n' :: rest, c.line + 1, 0⟩
  | x :: rest => ⟨x :: rest, c.line, c.column + 1⟩

def start (text : List Char) : Cursor :=
  onto ⟨[], 0, 0⟩ text

def bump (c : Cursor) : Cursor :=
  c.onto c.rest.tail

def skipWhile (p : Char → Bool) (c : Cursor) : Cursor :=
  go c c.rest
where
  go (c : Cursor) : List Char → Cursor
    | [] => c
    | x :: rest => if p x then go (c.onto rest) rest else c

@[simp] theorem onto_rest (c : Cursor) (cs : List Char) : (c.onto cs).rest = cs := by
  unfold onto; split <;> rfl

@[simp] theorem bump_rest (c : Cursor) : c.bump.rest = c.rest.tail :=
  onto_rest c _

theorem go_length_le (p : Char → Bool) (cs : List Char) (c : Cursor) (h : c.rest = cs) :
    (skipWhile.go p c cs).rest.length ≤ cs.length := by
  induction cs generalizing c with
  | nil => simp [skipWhile.go, h]
  | cons x rest ih =>
    simp only [skipWhile.go]
    split
    · have := ih (c.onto rest) (by simp)
      simp only [List.length_cons]
      omega
    · simp [h]

theorem skipWhile_length_le (p : Char → Bool) (c : Cursor) :
    (c.skipWhile p).rest.length ≤ c.rest.length :=
  go_length_le p c.rest c rfl

end Cursor

/-- Why a text cannot be read. At the end of the text one of `stops` was to come, or the end itself
if it is among them; in the number of a character only a line feed may follow a backslash. -/
inductive Flaw where
  | endOfText (stops : List Char) (atEnd : Bool)
  | badBreak (found : Option Char)
  | badCharacter
  | inlineComment
  | missingKey
deriving DecidableEq

structure Malformed where
  flaw : Flaw
  line : Nat
  column : Nat
deriving DecidableEq

namespace Flaw

def stopText (c : Char) : String :=
  s!"Some({Text.quotedChar c})"

def message : Flaw → String
  | endOfText stops atEnd =>
    let expected := stops.map stopText ++ (if atEnd then ["None"] else [])
    "expecting \"[" ++ String.intercalate ", " expected ++ "]\" but found EOF."
  | badBreak found =>
    "expecting \"\\\\n\" but found \"" ++ (found.elim "None" stopText) ++ "\"."
  | badCharacter => "unknown character in \\xHH form"
  | inlineComment => "doesn't support inline comment"
  | missingKey => "missing key"

end Flaw

def Malformed.message (m : Malformed) : String :=
  s!"{m.line + 1}:{m.column + 1} {m.flaw.message}"

def Cursor.malformed (c : Cursor) (flaw : Flaw) : Malformed :=
  ⟨flaw, c.line, c.column⟩

structure Stops where
  chars : List Char
  atEnd : Bool

namespace Stops

def key : Stops := ⟨['=', ':'], false⟩

def sectionName : Stops := ⟨[']'], false⟩

def quote (mark : Char) : Stops := ⟨[mark], false⟩

def value : Stops := ⟨['\n', '\r'], true⟩

end Stops

/-- Whether the reader has passed a backslash, and the digits if it is inside a number of four
characters. -/
inductive Mode where
  | plain
  | escape
  | number (digits : List Char)
  | numberBreak (digits : List Char)

structure Run where
  value : Except Malformed (List Char)
  cursor : Cursor

def escaped (c : Char) : Char :=
  match c with
  | '0' => '\x00'
  | 'a' => '\x07'
  | 'b' => '\x08'
  | 't' => '\t'
  | 'r' => '\r'
  | 'n' => '\n'
  | other => other

def numbered (digits : List Char) : Option Char :=
  match Text.readUnsigned 16 (UInt32.size - 1) digits with
  | some n => if n.isValidChar then some (Char.ofNat n) else none
  | none => none

def runEnd (stops : Stops) (c : Cursor) (found : List Char) : Run :=
  if stops.atEnd then ⟨.ok found.reverse, c⟩
  else ⟨.error (c.malformed (.endOfText stops.chars stops.atEnd)), c⟩

/-- Reads a run up to one of the stops, which is not part of it. `found` holds the run so far in
reverse. -/
def readRun (stops : Stops) (mode : Mode) (found : List Char) (c : Cursor) : List Char → Run
  | [] =>
    match mode with
    | .plain => runEnd stops c found
    | .escape => runEnd stops c ('\\' :: found)
    | .number _ => ⟨.error (c.malformed (.endOfText stops.chars stops.atEnd)), c⟩
    | .numberBreak _ => ⟨.error (c.malformed (.badBreak none)), c⟩
  | x :: rest =>
    match mode with
    | .plain =>
      if stops.chars.contains x then ⟨.ok found.reverse, c⟩
      else if x = '\\' then readRun stops .escape found (c.onto rest) rest
      else readRun stops .plain (x :: found) (c.onto rest) rest
    | .escape =>
      if x = '\n' then readRun stops .plain found (c.onto rest) rest
      else if x = 'x' then readRun stops (.number []) found (c.onto rest) rest
      else readRun stops .plain (escaped x :: found) (c.onto rest) rest
    | .number digits =>
      if x = '\\' then readRun stops (.numberBreak digits) found (c.onto rest) rest
      else if digits.length < 3 then
        readRun stops (.number (digits ++ [x])) found (c.onto rest) rest
      else
        match numbered (digits ++ [x]) with
        | some ch => readRun stops .plain (ch :: found) (c.onto rest) rest
        | none => ⟨.error (c.malformed .badCharacter), c⟩
    | .numberBreak digits =>
      if x ≠ '\n' then ⟨.error (c.malformed (.badBreak (some x))), c⟩
      else if digits.length < 3 then
        readRun stops (.number (digits ++ ['\\'])) found (c.onto rest) rest
      else ⟨.error (c.malformed .badCharacter), c⟩

def Cursor.run (c : Cursor) (stops : Stops) : Run :=
  readRun stops .plain [] c c.rest

theorem readRun_length_le (stops : Stops) (mode : Mode) (found : List Char) (c : Cursor)
    (cs : List Char) (h : c.rest = cs) :
    (readRun stops mode found c cs).cursor.rest.length ≤ cs.length := by
  induction cs generalizing mode found c with
  | nil => cases mode <;> simp only [readRun, runEnd] <;> (try split) <;> simp [h]
  | cons x rest ih =>
    have step : ∀ mode found, (readRun stops mode found (c.onto rest) rest).cursor.rest.length ≤
        (x :: rest).length := fun mode found => by
      have := ih mode found (c.onto rest) (by simp)
      simp only [List.length_cons]
      omega
    cases mode <;> simp only [readRun] <;> (repeat' split) <;>
      first | exact step _ _ | simp [h]

theorem Cursor.run_length_le (c : Cursor) (stops : Stops) :
    (c.run stops).cursor.rest.length ≤ c.rest.length :=
  readRun_length_le stops .plain [] c c.rest rfl

end LogRelay.Settings
