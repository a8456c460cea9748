import LogRelay.Settings.Cursor
import LogRelay.Text.Blank

/-!
Settings texts: named sections of keys with values. A line that begins with a bracket opens a
section; a key goes up to an equals sign or a colon, and its value up to the end of the line,
where quoted parts keep their white space.
-/

namespace LogRelay.Settings

/-- Entries before the first header stand in a section without a name. -/
structure Section where
  name : Option String
  entries : List (String × String)
deriving DecidableEq

/-- The sections in the order of their headers; a name may come again. -/
abbrev Document := List Section

namespace Section

def get? (s : Section) (key : String) : Option String :=
  (s.entries.find? (·.1 == key)).map (·.2)

end Section

def Document.section? (d : Document) (name : String) : Option Section :=
  d.find? (·.name == some name)

/-- The sections already closed, in reverse, the name and, in reverse, the entries of the open one,
the key that waits for its value, and the text not yet read. -/
structure Reader where
  closed : List Section
  name : Option String
  entries : List (String × String)
  key : String
  cursor : Cursor

namespace Reader

def start (text : String) : Reader :=
  ⟨[], none, [], "", Cursor.start text.toList⟩

def opened (r : Reader) : Section :=
  ⟨r.name, r.entries.reverse⟩

def document (r : Reader) : Document :=
  (r.opened :: r.closed).reverse

def isGap (c : Char) : Bool :=
  c == ' ' || c == '\t'

def isBreak (c : Char) : Bool :=
  c == '\n' || c == '\r'

/-- Passes the white space between two entries. It ends after a line break that a space or a tab
follows, because a line that begins so is read in a way of its own. -/
def skipBetween (c : Cursor) : Cursor :=
  go c c.rest
where
  go (c : Cursor) : List Char → Cursor
    | [] => c
    | x :: rest =>
      if isBreak x then
        match rest with
        | y :: _ => if isGap y then c.onto rest else go (c.onto rest) rest
        | [] => c.onto rest
      else if Text.isBlank x then go (c.onto rest) rest
      else c

abbrev Reading := Except Malformed (List Char × Cursor)

/-- Reads the parts of a value: quoted ones as they are, and a last plain one without the white
space at its end, nor at its beginning if no part comes before. `text` holds those parts in
reverse. -/
def readParts (first : Bool) (text : List Char) (c : Cursor) : Reading :=
  match _hc : c.rest with
  | [] => .ok (text.reverse, c)
  | x :: _ =>
    if x = '"' ∨ x = '\'' then
      let run := c.bump.run (.quote x)
      match run.value with
      | .error flaw => .error flaw
      | .ok part => readParts false (part.reverse ++ text) run.cursor.bump
    else
      let run := c.run .value
      match run.value with
      | .error flaw => .error flaw
      | .ok part =>
        let last := if first then Text.trimChars part else Text.trimRight part
        .ok (text.reverse ++ last, run.cursor)
termination_by c.rest.length
decreasing_by
  have h := Cursor.run_length_le c.bump (.quote x)
  simp only [Cursor.bump_rest, List.length_tail, _hc, List.length_cons] at h ⊢
  omega

def readValue (c : Cursor) : Reading :=
  readParts true [] (c.bump.skipWhile fun x => Text.isBlank x && !isBreak x)

def readHeader (r : Reader) (c : Cursor) : Except Malformed Reader :=
  let run := c.bump.run .sectionName
  match run.value with
  | .error flaw => .error flaw
  | .ok name =>
    .ok ⟨r.opened :: r.closed, some (String.ofList (Text.trimChars name)), [], r.key,
      run.cursor.bump⟩

def keyText (cs : List Char) : String :=
  String.ofList (Text.trimChars cs)

def skipComment (c : Cursor) : Cursor :=
  (c.skipWhile (· ≠ '\n')).bump

def store (r : Reader) (value : List Char) (c : Cursor) : Reader :=
  { r with
    entries := (r.key, String.ofList value) :: r.entries
    key := ""
    cursor := c }

/-- Reads one piece of the text, which is not at its end and begins with `x`. On a line that
begins with a space or a tab, a key that cannot be read is passed over. -/
def readPiece (r : Reader) (x : Char) : Except Malformed Reader :=
  let c := r.cursor
  if x = ';' ∨ x = '#' then
    if c.column > 1 then .error (c.malformed .inlineComment)
    else .ok { r with cursor := skipBetween (skipComment c) }
  else if x = '[' then
    (readHeader r c).map fun r => { r with cursor := skipBetween r.cursor }
  else if x = '=' ∨ x = ':' then
    if r.key.isEmpty then .error (c.malformed .missingKey)
    else (readValue c).map fun (value, c) => r.store value (skipBetween c)
  else if isGap x then
    let c := c.skipWhile isGap
    match c.rest with
    | '[' :: _ => (readHeader r c).map fun r => { r with cursor := skipBetween r.cursor }
    | '\n' :: _ | '\r' :: _ => .ok { r with cursor := c.bump }
    | _ =>
      let run := c.run .key
      let key := match run.value with
        | .ok key => keyText key
        | .error _ => r.key
      .ok { r with key := key, cursor := skipBetween run.cursor }
  else if isBreak x then .ok { r with cursor := skipBetween c.bump }
  else
    let run := c.run .key
    match run.value with
    | .error flaw => .error flaw
    | .ok key => .ok { r with key := keyText key, cursor := skipBetween run.cursor }

theorem skipBetween_go_length_le (cs : List Char) (c : Cursor) (h : c.rest = cs) :
    (skipBetween.go c cs).rest.length ≤ cs.length := by
  induction cs generalizing c with
  | nil => simp [skipBetween.go, h]
  | cons x rest ih =>
    have step := ih (c.onto rest) (by simp)
    unfold skipBetween.go
    repeat' split
    all_goals simp only [List.length_cons, Cursor.onto_rest, h] at step ⊢
    all_goals omega

theorem skipBetween_length_le (c : Cursor) : (skipBetween c).rest.length ≤ c.rest.length :=
  skipBetween_go_length_le c.rest c rfl

theorem readParts_length_le {first : Bool} {text value : List Char} {c last : Cursor}
    (h : readParts first text c = .ok (value, last)) : last.rest.length ≤ c.rest.length := by
  fun_induction readParts first text c with
  | case1 => simp_all
  | case2 => simp_all
  | case3 first text c x rest hc _ run part hp ih =>
    have inner := ih h
    have outer := Cursor.run_length_le c.bump (.quote x)
    simp only [Cursor.bump_rest, List.length_tail] at inner outer
    simp only [run] at inner
    omega
  | case4 => simp_all
  | case5 first text c x rest hc _ run part hp =>
    have outer := Cursor.run_length_le c .value
    simp only [Except.ok.injEq, Prod.mk.injEq] at h
    simp only [← h.2, run]
    exact outer

theorem readValue_length_lt {c last : Cursor} {value : List Char} {x : Char} {rest : List Char}
    (hc : c.rest = x :: rest) (h : readValue c = .ok (value, last)) :
    last.rest.length < c.rest.length := by
  have parts := readParts_length_le h
  have skip := Cursor.skipWhile_length_le (fun x => Text.isBlank x && !isBreak x) c.bump
  simp only [Cursor.bump_rest, hc, List.tail_cons] at skip
  simp only [hc, List.length_cons]
  omega

theorem readHeader_length_lt {r next : Reader} {c : Cursor} {x : Char} {rest : List Char}
    (hc : c.rest = x :: rest) (h : readHeader r c = .ok next) :
    next.cursor.rest.length < c.rest.length := by
  have outer := Cursor.run_length_le c.bump .sectionName
  simp only [Cursor.bump_rest, hc, List.tail_cons] at outer
  simp only [readHeader] at h
  split at h
  · cases h
  · cases h
    simp only [Cursor.bump_rest, List.length_tail, hc, List.length_cons]
    omega

theorem readPiece_length_lt {r next : Reader} {x : Char} {rest : List Char}
    (hr : r.cursor.rest = x :: rest) (h : r.readPiece x = .ok next) :
    next.cursor.rest.length < r.cursor.rest.length := by
  have hlen : r.cursor.rest.length = rest.length + 1 := by simp [hr]
  unfold readPiece at h
  simp only at h
  split at h
  · split at h
    · cases h
    · cases h
      have one := skipBetween_length_le (skipComment r.cursor)
      have two := Cursor.skipWhile_length_le (· ≠ '\n') r.cursor
      simp only [skipComment, Cursor.bump_rest, List.length_tail] at one two ⊢
      omega
  split at h
  · cases hh : readHeader r r.cursor with
    | error flaw => simp [hh, Except.map] at h
    | ok mid =>
      simp only [hh, Except.map, Except.ok.injEq] at h
      have one := readHeader_length_lt hr hh
      have two := skipBetween_length_le mid.cursor
      simp only [← h]
      omega
  split at h
  · split at h
    · cases h
    · cases hh : readValue r.cursor with
      | error flaw => simp [hh, Except.map] at h
      | ok found =>
        obtain ⟨value, last⟩ := found
        simp only [hh, Except.map, Except.ok.injEq] at h
        have one := readValue_length_lt hr hh
        have two := skipBetween_length_le last
        simp only [← h, store]
        omega
  split at h
  · next hgap =>
    have skipped : (r.cursor.skipWhile isGap).rest.length ≤ rest.length := by
      simp only [Cursor.skipWhile, hr, Cursor.skipWhile.go, hgap, if_true]
      exact Cursor.go_length_le isGap rest _ (by simp)
    split at h
    · next tail hc =>
      cases hh : readHeader r (r.cursor.skipWhile isGap) with
      | error flaw => simp [hh, Except.map] at h
      | ok mid =>
        simp only [hh, Except.map, Except.ok.injEq] at h
        have one := readHeader_length_lt hc hh
        have two := skipBetween_length_le mid.cursor
        simp only [← h]
        omega
    · cases h
      simp only [Cursor.bump_rest, List.length_tail]
      omega
    · cases h
      simp only [Cursor.bump_rest, List.length_tail]
      omega
    · cases h
      have one := Cursor.run_length_le (r.cursor.skipWhile isGap) .key
      have two := skipBetween_length_le ((r.cursor.skipWhile isGap).run .key).cursor
      simp only
      omega
  split at h
  · cases h
    have one := skipBetween_length_le r.cursor.bump
    simp only [Cursor.bump_rest, hr, List.tail_cons] at one
    simp only
    omega
  · next hkey _ _ =>
    split at h
    · cases h
    · cases h
      have one := skipBetween_length_le (r.cursor.run .key).cursor
      have two : (r.cursor.run .key).cursor.rest.length ≤ rest.length := by
        simp only [Cursor.run, hr]
        unfold readRun
        have hx : Stops.key.chars.contains x = false := by
          simp only [Stops.key, List.contains_cons, List.contains_nil, Bool.or_false,
            Bool.or_eq_false_iff, beq_eq_false_iff_ne]
          exact not_or.1 hkey
        simp only [hx, Bool.false_eq_true, if_false]
        split
        · exact readRun_length_le _ _ _ _ _ (by simp)
        · exact readRun_length_le _ _ _ _ _ (by simp)
      simp only
      omega

def finish (r : Reader) : Except Malformed Document :=
  match _hr : r.cursor.rest with
  | [] => .ok r.document
  | x :: _ =>
    match _h : r.readPiece x with
    | .error flaw => .error flaw
    | .ok next => next.finish
termination_by r.cursor.rest.length
decreasing_by exact readPiece_length_lt _hr _h

end Reader

def Document.ofText (text : String) : Except Malformed Document :=
  (Reader.start text).finish

end LogRelay.Settings
