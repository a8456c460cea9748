import LogRelay.Settings.Document

/-!
Settings texts as they are written by hand: one header or one key with its value on each line.
Reading gives back every section with its entries, in order, as they were written.
-/

namespace LogRelay

namespace Text

structure Bare (cs : List Char) : Prop where
  front : ∀ c ∈ cs.head?, isBlank c = false
  back : ∀ c ∈ cs.getLast?, isBlank c = false

instance (cs : List Char) : Decidable (Bare cs) :=
  decidable_of_iff
    (cs.head?.all (fun c => !isBlank c) = true ∧ cs.getLast?.all (fun c => !isBlank c) = true)
    ⟨fun h => ⟨by simpa [Option.all_eq_true] using h.1, by simpa [Option.all_eq_true] using h.2⟩,
      fun h => by simpa [Option.all_eq_true] using And.intro h.front h.back⟩

theorem trimLeft_eq_self {cs : List Char} (front : ∀ c ∈ cs.head?, isBlank c = false) :
    trimLeft cs = cs := by
  cases cs with
  | nil => rfl
  | cons c cs => simp [trimLeft, front c rfl]

theorem Bare.trimChars_eq {cs : List Char} (bare : Bare cs) : trimChars cs = cs := by
  have back : trimLeft cs.reverse = cs.reverse :=
    trimLeft_eq_self (by simpa using bare.back)
  rw [trimChars, trimLeft_eq_self bare.front, trimRight, back, List.reverse_reverse]

theorem bare_of_forall {cs : List Char} (plain : ∀ c ∈ cs, isBlank c = false) : Bare cs where
  front c hc := plain c (List.mem_of_mem_head? hc)
  back c hc := plain c (List.mem_of_getLast? hc)

def isWordChar (c : Char) : Bool :=
  let n := c.toNat
  ('0'.toNat ≤ n && n ≤ '9'.toNat) || ('A'.toNat ≤ n && n ≤ 'Z'.toNat) || n == '_'.toNat ||
    ('a'.toNat ≤ n && n ≤ 'z'.toNat)

theorem isWordChar_iff {c : Char} : isWordChar c = true ↔
    48 ≤ c.toNat ∧ c.toNat ≤ 57 ∨ 65 ≤ c.toNat ∧ c.toNat ≤ 90 ∨ c.toNat = 95 ∨
      97 ≤ c.toNat ∧ c.toNat ≤ 122 := by
  simp [isWordChar, or_assoc]

theorem isBlank_of_isWordChar {c : Char} (word : isWordChar c = true) : isBlank c = false := by
  have := isWordChar_iff.mp word
  simp only [isBlank, Bool.or_eq_false_iff, Bool.and_eq_false_iff, decide_eq_false_iff_not,
    beq_eq_false_iff_ne]
  omega

theorem ne_of_isWordChar {c d : Char} (word : isWordChar c = true) (other : isWordChar d = false) :
    c ≠ d := by
  rintro rfl
  simp [word] at other

structure IsWord (cs : List Char) : Prop where
  nonempty : cs ≠ []
  chars : ∀ c ∈ cs, isWordChar c = true

instance (cs : List Char) : Decidable (IsWord cs) :=
  decidable_of_iff (cs ≠ [] ∧ cs.all isWordChar = true)
    ⟨fun h => ⟨h.1, List.all_eq_true.mp h.2⟩, fun h => ⟨h.nonempty, List.all_eq_true.mpr h.chars⟩⟩

theorem IsWord.bare {cs : List Char} (word : IsWord cs) : Bare cs :=
  bare_of_forall fun c hc => isBlank_of_isWordChar (word.chars c hc)

theorem trimChars_concat_space {cs : List Char} (nonempty : cs ≠ []) (bare : Bare cs) :
    trimChars (cs ++ [' ']) = cs := by
  have front : trimLeft (cs ++ [' ']) = cs ++ [' '] := by
    apply trimLeft_eq_self
    cases cs with
    | nil => contradiction
    | cons c cs => exact bare.front
  have back : trimLeft (' ' :: cs.reverse) = cs.reverse := by
    have blank : isBlank ' ' = true := by decide
    have same : trimLeft cs.reverse = cs.reverse := trimLeft_eq_self (by simpa using bare.back)
    simpa [trimLeft, blank] using same
  rw [trimChars, front, trimRight, List.reverse_append, List.reverse_singleton,
    List.singleton_append, back, List.reverse_reverse]

end Text

namespace Settings

namespace Cursor

theorem skipWhile_go_rest (p : Char → Bool) (cs : List Char) (c : Cursor) (h : c.rest = cs) :
    (skipWhile.go p c cs).rest = cs.dropWhile p := by
  induction cs generalizing c with
  | nil => simp [skipWhile.go, h]
  | cons x rest ih =>
    simp only [skipWhile.go, List.dropWhile_cons]
    split
    · exact ih _ (by simp)
    · exact h

@[simp] theorem skipWhile_rest (p : Char → Bool) (c : Cursor) :
    (c.skipWhile p).rest = c.rest.dropWhile p :=
  skipWhile_go_rest p c.rest c rfl

end Cursor

def Stops.Hit (stops : Stops) : List Char → Prop
  | [] => stops.atEnd = true
  | x :: _ => stops.chars.contains x = true

theorem readRun_of_plain {stops : Stops} {plain rest : List Char}
    (chars : ∀ x ∈ plain, stops.chars.contains x = false ∧ x ≠ '\\') (hit : stops.Hit rest)
    (found : List Char) (c : Cursor) (hc : c.rest = plain ++ rest) :
    (readRun stops .plain found c (plain ++ rest)).value = .ok (found.reverse ++ plain) ∧
      (readRun stops .plain found c (plain ++ rest)).cursor.rest = rest := by
  induction plain generalizing found c with
  | nil =>
    cases rest with
    | nil =>
      have ends : stops.atEnd = true := hit
      simpa [readRun, runEnd, ends] using hc
    | cons x rest =>
      have stop : stops.chars.contains x = true := hit
      simp only [List.nil_append] at hc ⊢
      simp only [readRun, stop, if_true, List.append_nil]
      exact ⟨trivial, hc⟩
  | cons x plain ih =>
    rw [List.forall_mem_cons] at chars
    obtain ⟨⟨goOn, unescaped⟩, chars⟩ := chars
    have onward := ih chars (x :: found) (c.onto (plain ++ rest)) (by simp)
    simp only [List.cons_append, readRun, goOn, Bool.false_eq_true, if_false, unescaped]
    simpa using onward

theorem Cursor.run_of_plain {stops : Stops} {plain rest : List Char}
    (chars : ∀ x ∈ plain, stops.chars.contains x = false ∧ x ≠ '\\') (hit : stops.Hit rest)
    {c : Cursor} (hc : c.rest = plain ++ rest) :
    (c.run stops).value = .ok plain ∧ (c.run stops).cursor.rest = rest := by
  have run := readRun_of_plain chars hit [] c hc
  rw [Cursor.run, hc]
  simpa using run

/-- What stands after a line: the end of the text, or something that is not white space. -/
def Begins (rest : List Char) : Prop :=
  ∀ c ∈ rest.head?, Text.isBlank c = false

namespace Reader

theorem isBlank_of_isBreak {c : Char} (h : isBreak c = true) : Text.isBlank c = true := by
  simp only [isBreak, Bool.or_eq_true, beq_iff_eq] at h
  obtain rfl | rfl := h <;> decide

theorem isGap_eq_false {c : Char} (h : isBreak c = true ∨ Text.isBlank c = false) :
    isGap c = false := by
  rw [← Bool.not_eq_true]
  intro gap
  simp only [isGap, Bool.or_eq_true, beq_iff_eq] at gap
  obtain rfl | rfl := gap <;> simp [isBreak, Text.isBlank] at h

theorem skipBetween_go_rest {breaks rest : List Char} (ends : ∀ c ∈ breaks, isBreak c = true)
    (begins : Begins rest) (c : Cursor) (hc : c.rest = breaks ++ rest) :
    (skipBetween.go c (breaks ++ rest)).rest = rest := by
  induction breaks generalizing c with
  | nil =>
    cases rest with
    | nil => simpa [skipBetween.go] using hc
    | cons x rest =>
      have text : Text.isBlank x = false := begins x rfl
      have line : isBreak x = false := by
        rw [← Bool.not_eq_true]
        intro h
        simp [isBlank_of_isBreak h] at text
      unfold skipBetween.go
      simpa [line, text] using hc
  | cons x breaks ih =>
    rw [List.forall_mem_cons] at ends
    have onward := ih ends.2 (c.onto (breaks ++ rest)) (by simp)
    rw [List.cons_append]
    -- After a line break a gap would stop it, but a break or the rest comes next.
    unfold skipBetween.go
    simp only [ends.1, if_true]
    cases next : breaks ++ rest with
    | nil => simp [(List.append_eq_nil_iff.mp next).2]
    | cons y tail =>
      have apart : isGap y = false := by
        apply isGap_eq_false
        cases breaks with
        | nil => exact .inr (begins y (by simp_all))
        | cons z breaks =>
          obtain ⟨rfl, -⟩ := List.cons.inj next
          exact .inl (ends.2 z List.mem_cons_self)
      simpa [apart, next] using onward

theorem skipBetween_rest {breaks rest : List Char} (ends : ∀ c ∈ breaks, isBreak c = true)
    (begins : Begins rest) {c : Cursor} (hc : c.rest = breaks ++ rest) :
    (skipBetween c).rest = rest := by
  rw [skipBetween, hc]
  exact skipBetween_go_rest ends begins c hc

structure IsName (name : List Char) : Prop where
  bare : Text.Bare name
  chars : ∀ c ∈ name, c ≠ ']' ∧ c ≠ '\\'

structure IsValue (value : List Char) : Prop where
  nonempty : value ≠ []
  bare : Text.Bare value
  chars : ∀ c ∈ value, c ≠ '\\' ∧ c ≠ '\n' ∧ c ≠ '\r'
  unquoted : ∀ c ∈ value.head?, c ≠ '"' ∧ c ≠ '\''

instance (cs : List Char) : Decidable (IsValue cs) :=
  decidable_of_iff
    (cs ≠ [] ∧ Text.Bare cs ∧ cs.all (fun c => c != '\\' && c != '\n' && c != '\r') = true ∧
      cs.head?.all (fun c => c != '"' && c != '\'') = true)
    ⟨fun h => ⟨h.1, h.2.1, by simpa [and_assoc] using h.2.2.1,
        by simpa [Option.all_eq_true] using h.2.2.2⟩,
      fun h => ⟨h.nonempty, h.bare, by simpa [and_assoc] using h.chars,
        by simpa [Option.all_eq_true] using h.unquoted⟩⟩

theorem isValue_of_isWord {cs : List Char} (word : Text.IsWord cs) : IsValue cs where
  nonempty := word.nonempty
  bare := word.bare
  chars c hc := by
    have := word.chars c hc
    exact ⟨Text.ne_of_isWordChar this (by decide), Text.ne_of_isWordChar this (by decide),
      Text.ne_of_isWordChar this (by decide)⟩
  unquoted c hc := by
    have := word.chars c (List.mem_of_mem_head? hc)
    exact ⟨Text.ne_of_isWordChar this (by decide), Text.ne_of_isWordChar this (by decide)⟩

theorem isName_of_isWord {cs : List Char} (word : Text.IsWord cs) : IsName cs where
  bare := word.bare
  chars c hc := by
    have := word.chars c hc
    exact ⟨Text.ne_of_isWordChar this (by decide), Text.ne_of_isWordChar this (by decide)⟩

theorem readHeader_of_name {name tail : List Char} (isName : IsName name) (r : Reader)
    {c : Cursor} (hc : c.rest = '[' :: (name ++ ']' :: tail)) :
    ∃ last, last.rest = tail ∧ readHeader r c =
      .ok ⟨r.opened :: r.closed, some (String.ofList name), [], r.key, last⟩ := by
  have plain : ∀ x ∈ name, Stops.sectionName.chars.contains x = false ∧ x ≠ '\\' := by
    intro x hx
    simpa [Stops.sectionName] using isName.chars x hx
  have hit : Stops.sectionName.Hit (']' :: tail) := rfl
  obtain ⟨value, rest⟩ := Cursor.run_of_plain plain hit (c := c.bump) (by simp [hc])
  refine ⟨(c.bump.run .sectionName).cursor.bump, by simp [rest], ?_⟩
  simp [readHeader, value, isName.bare.trimChars_eq]

theorem readParts_of_value {value tail : List Char} (isValue : IsValue value)
    (hit : Stops.value.Hit tail) {c : Cursor} (hc : c.rest = value ++ tail) :
    ∃ last, last.rest = tail ∧ readParts true [] c = .ok (value, last) := by
  have plain : ∀ x ∈ value, Stops.value.chars.contains x = false ∧ x ≠ '\\' := by
    intro x hx
    simpa [Stops.value, and_comm, and_assoc] using isValue.chars x hx
  obtain ⟨run, rest⟩ := Cursor.run_of_plain plain hit hc
  refine ⟨(c.run .value).cursor, rest, ?_⟩
  rw [readParts]
  split
  · next atEnd => simp [atEnd, isValue.nonempty] at hc
  · next x more begun =>
    have first : x ∈ value.head? := by
      rw [begun] at hc
      cases value with
      | nil => exact absurd rfl isValue.nonempty
      | cons y value => simp_all
    have := isValue.unquoted x first
    simp [this, run, isValue.bare.trimChars_eq]

theorem readValue_of_value {value tail : List Char} (isValue : IsValue value)
    (hit : Stops.value.Hit tail) {c : Cursor} (hc : c.rest = '=' :: ' ' :: (value ++ tail)) :
    ∃ last, last.rest = tail ∧ readValue c = .ok (value, last) := by
  apply readParts_of_value isValue hit
  cases value with
  | nil => exact absurd rfl isValue.nonempty
  | cons x value =>
    have text : Text.isBlank x = false := isValue.bare.front x rfl
    simp [hc, text, show Text.isBlank ' ' = true by decide, show isBreak ' ' = false by decide]

theorem finish_of_nil {r : Reader} (hr : r.cursor.rest = []) : r.finish = .ok r.document := by
  rw [finish]
  split
  · rfl
  · next more => simp [hr] at more

theorem finish_of_piece {r next : Reader} {x : Char} {rest : List Char}
    (hr : r.cursor.rest = x :: rest) (piece : r.readPiece x = .ok next) :
    r.finish = next.finish := by
  rw [finish]
  split
  · next atEnd => simp [hr] at atEnd
  · next y _ more =>
    have same : x = y := by
      rw [hr] at more
      exact (List.cons.inj more).1
    subst same
    split
    · next failed => simp [piece] at failed
    · next read =>
      rw [piece] at read
      cases read
      rfl

end Reader

inductive Row where
  | header (name : String)
  | entry (key value : String)

namespace Row

def text : Row → List Char
  | header name => '[' :: name.toList ++ [']']
  | entry key value => key.toList ++ [' ', '=', ' '] ++ value.toList

def Plain : Row → Prop
  | header name => Reader.IsName name.toList
  | entry key value => Text.IsWord key.toList ∧ Reader.IsValue value.toList

end Row

def gather (s : Section) : List Row → Document
  | [] => [s]
  | .header name :: rest => s :: gather ⟨some name, []⟩ rest
  | .entry key value :: rest => gather ⟨s.name, s.entries ++ [(key, value)]⟩ rest

namespace Reader

theorem finish_of_header {name : String} {r : Reader} (isName : IsName name.toList)
    {breaks rest : List Char} (ends : ∀ c ∈ breaks, isBreak c = true) (begins : Begins rest)
    (hr : r.cursor.rest = (Row.header name).text ++ (breaks ++ rest)) :
    ∃ last, last.rest = rest ∧
      r.finish = finish ⟨r.opened :: r.closed, some name, [], r.key, last⟩ := by
  have hc : r.cursor.rest = '[' :: (name.toList ++ ']' :: (breaks ++ rest)) := by
    simpa [Row.text] using hr
  obtain ⟨last, rest, header⟩ := readHeader_of_name isName r hc
  refine ⟨skipBetween last, skipBetween_rest ends begins rest, finish_of_piece hc ?_⟩
  simp [readPiece, header, Except.map]

theorem hit_of_breaks {breaks rest : List Char} (ends : ∀ c ∈ breaks, isBreak c = true)
    (apart : rest ≠ [] → breaks ≠ []) : Stops.value.Hit (breaks ++ rest) := by
  cases breaks with
  | nil =>
    cases rest with
    | nil => rfl
    | cons x rest => exact absurd rfl (apart (List.cons_ne_nil x rest))
  | cons x breaks =>
    have ended := ends x List.mem_cons_self
    simpa [Stops.Hit, Stops.value, isBreak] using ended

theorem finish_of_key {key : String} {r : Reader} (isWord : Text.IsWord key.toList)
    {rest : List Char} (hr : r.cursor.rest = key.toList ++ ' ' :: '=' :: rest) :
    ∃ last, last.rest = '=' :: rest ∧
      r.finish = finish ⟨r.closed, r.name, r.entries, key, last⟩ := by
  have chars : ∀ x ∈ key.toList ++ [' '], Stops.key.chars.contains x = false ∧ x ≠ '\\' := by
    intro x hx
    obtain word | rfl := List.mem_append.mp hx |>.imp_right List.mem_singleton.mp
    · have word := isWord.chars x word
      simp [Stops.key, Text.ne_of_isWordChar word (d := '=') (by decide),
        Text.ne_of_isWordChar word (d := ':') (by decide),
        Text.ne_of_isWordChar word (d := '\\') (by decide)]
    · decide
  have hit : Stops.key.Hit ('=' :: rest) := rfl
  obtain ⟨value, left⟩ := Cursor.run_of_plain chars hit (c := r.cursor) (by simpa using hr)
  have trimmed : keyText (key.toList ++ [' ']) = key := by
    rw [keyText, Text.trimChars_concat_space isWord.nonempty isWord.bare, String.ofList_toList]
  have begins : Begins ('=' :: rest) := by
    simp [Begins, show Text.isBlank '=' = false by decide]
  have still : (skipBetween (r.cursor.run .key).cursor).rest = '=' :: rest :=
    skipBetween_rest (List.forall_mem_nil _) begins left
  refine ⟨skipBetween (r.cursor.run .key).cursor, still, ?_⟩
  cases letters : key.toList with
  | nil => exact absurd letters isWord.nonempty
  | cons x more =>
    have word : Text.isWordChar x = true := isWord.chars x (by simp [letters])
    have other (d : Char) (h : Text.isWordChar d = false) : x ≠ d :=
      Text.ne_of_isWordChar word h
    rw [letters] at hr
    apply finish_of_piece hr
    simp [readPiece, value, trimmed, isGap, isBreak, other ';' (by decide), other '#' (by decide),
      other '[' (by decide), other '=' (by decide), other ':' (by decide), other ' ' (by decide),
      other '\t' (by decide), other '\n' (by decide), other '\r' (by decide)]

theorem finish_of_entry {key value : String} {r : Reader} (isWord : Text.IsWord key.toList)
    (isValue : IsValue value.toList) {breaks rest : List Char}
    (ends : ∀ c ∈ breaks, isBreak c = true) (apart : rest ≠ [] → breaks ≠ [])
    (begins : Begins rest)
    (hr : r.cursor.rest = (Row.entry key value).text ++ (breaks ++ rest)) :
    ∃ last, last.rest = rest ∧
      r.finish = finish ⟨r.closed, r.name, (key, value) :: r.entries, "", last⟩ := by
  have hc : r.cursor.rest =
      key.toList ++ ' ' :: '=' :: ' ' :: (value.toList ++ (breaks ++ rest)) := by
    simpa [Row.text] using hr
  obtain ⟨mid, assigned, begun⟩ := finish_of_key isWord hc
  obtain ⟨last, left, read⟩ := readValue_of_value isValue (hit_of_breaks ends apart) assigned
  refine ⟨skipBetween last, skipBetween_rest ends begins left, begun.trans ?_⟩
  -- The value is stored, because a key waits for it.
  have named : key ≠ "" := by
    rintro rfl
    exact isWord.nonempty rfl
  apply finish_of_piece assigned
  simp [readPiece, read, Except.map, named, store]

end Reader

/-- Lines one after the other, each ended by line breaks; the last one need not be ended. -/
inductive Laid : List Row → List Char → Prop
  | nil : Laid [] []
  | cons {row : Row} {rows : List Row} {breaks text : List Char}
      (ends : ∀ c ∈ breaks, Reader.isBreak c = true) (apart : rows ≠ [] → breaks ≠ [])
      (later : Laid rows text) : Laid (row :: rows) (row.text ++ (breaks ++ text))

theorem laid_of_lines {lines : List (Row × List Char)}
    (ends : ∀ line ∈ lines, ∀ c ∈ line.2, Reader.isBreak c = true)
    (apart : ∀ line ∈ lines.dropLast, line.2 ≠ []) :
    Laid (lines.map (·.1)) (lines.flatMap fun line => line.1.text ++ line.2) := by
  induction lines with
  | nil => exact .nil
  | cons line lines ih =>
    rw [List.forall_mem_cons] at ends
    rw [List.map_cons, List.flatMap_cons, List.append_assoc]
    cases lines with
    | nil => exact .cons ends.1 (fun more => absurd rfl more) .nil
    | cons next lines =>
      rw [List.dropLast_cons_cons, List.forall_mem_cons] at apart
      exact .cons ends.1 (fun _ => apart.1) (ih ends.2 apart.2)

theorem Row.Plain.begins {row : Row} (plain : row.Plain) (rest : List Char) :
    Begins (row.text ++ rest) := by
  cases row with
  | header name => simp [Begins, text, show Text.isBlank '[' = false by decide]
  | entry key value =>
    cases letters : key.toList with
    | nil => exact absurd letters plain.1.nonempty
    | cons c more =>
      have word : Text.isWordChar c = true := plain.1.chars c (by simp [letters])
      simp [Begins, text, letters, Text.isBlank_of_isWordChar word]

theorem Laid.begins {rows : List Row} {text : List Char} (laid : Laid rows text)
    (plain : ∀ row ∈ rows, row.Plain) : Begins text := by
  cases laid with
  | nil => simp [Begins]
  | cons => exact (plain _ List.mem_cons_self).begins _

theorem Reader.finish_of_laid {rows : List Row} {text : List Char} (laid : Laid rows text)
    (plain : ∀ row ∈ rows, row.Plain) {r : Reader} (hr : r.cursor.rest = text) :
    r.finish = .ok (r.closed.reverse ++ gather r.opened rows) := by
  -- By the lines; the reader holds what the lines before have made.
  induction laid generalizing r with
  | nil => simp [Reader.finish_of_nil hr, Reader.document, gather]
  | @cons row rows breaks text ends apart later ih =>
    rw [List.forall_mem_cons] at plain
    obtain ⟨plain, plainLater⟩ := plain
    have begins := later.begins plainLater
    cases row with
    | header name =>
      obtain ⟨last, rest, onward⟩ := Reader.finish_of_header plain ends begins hr
      rw [onward, ih plainLater rest]
      simp [Reader.opened, gather]
    | entry key value =>
      -- The value goes on to a line break or to the end of the text.
      have apart : text ≠ [] → breaks ≠ [] := by
        intro more
        apply apart
        rintro rfl
        cases later
        contradiction
      obtain ⟨last, rest, onward⟩ :=
        Reader.finish_of_entry plain.1 plain.2 ends apart begins hr
      rw [onward, ih plainLater rest]
      simp [Reader.opened, gather]

namespace Section

def rows (s : Section) : List Row :=
  s.name.toList.map .header ++ s.entries.map fun e => .entry e.1 e.2

structure Plain (s : Section) : Prop where
  named : ∃ name, s.name = some name ∧ Reader.IsName name.toList
  entries : ∀ e ∈ s.entries, Text.IsWord e.1.toList ∧ Reader.IsValue e.2.toList

theorem Plain.rows {s : Section} (plain : s.Plain) : ∀ row ∈ s.rows, row.Plain := by
  obtain ⟨name, named, isName⟩ := plain.named
  simp only [Section.rows, named, Option.toList_some, List.map_cons, List.map_nil,
    List.mem_append, List.mem_singleton, List.mem_map]
  rintro row (rfl | ⟨e, he, rfl⟩)
  · exact isName
  · exact plain.entries e he

end Section

theorem gather_entries (s : Section) (entries : List (String × String)) (rest : List Row) :
    gather s (entries.map (fun e => .entry e.1 e.2) ++ rest) =
      gather ⟨s.name, s.entries ++ entries⟩ rest := by
  induction entries generalizing s with
  | nil => simp
  | cons e entries ih => simp [gather, ih]

theorem gather_sections (s : Section) {d : Document} (plain : ∀ t ∈ d, t.Plain) :
    gather s (d.flatMap Section.rows) = s :: d := by
  induction d generalizing s with
  | nil => rfl
  | cons t d ih =>
    rw [List.forall_mem_cons] at plain
    obtain ⟨plain, later⟩ := plain
    obtain ⟨name, named, -⟩ := plain.named
    simp only [List.flatMap_cons, Section.rows, named, Option.toList_some, List.map_cons,
      List.map_nil, List.cons_append, List.nil_append, gather, gather_entries, ih _ later]
    rw [← named]

/-- Sections that are laid out line by line are read as they stand, after the section without a
name, which is empty then. -/
theorem Document.ofText_laid {d : Document} (plain : ∀ s ∈ d, s.Plain) {text : String}
    (laid : Laid (d.flatMap Section.rows) text.toList) :
    Document.ofText text = .ok (⟨none, []⟩ :: d) := by
  have rows : ∀ row ∈ d.flatMap Section.rows, row.Plain := by
    simp only [List.mem_flatMap]
    rintro row ⟨s, hs, hrow⟩
    exact (plain s hs).rows row hrow
  have start : (Reader.start text).cursor.rest = text.toList := by
    simp [Reader.start, Cursor.start]
  rw [Document.ofText, Reader.finish_of_laid laid rows start]
  simp [Reader.start, Reader.opened, gather_sections _ plain]

end Settings

end LogRelay
