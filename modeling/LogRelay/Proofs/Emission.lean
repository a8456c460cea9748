import LogRelay.Proofs.Cutting
import LogRelay.Proofs.Offers

/-!
The whole effect of one emit, read off the value: the lines that the value dispatches, the line of
its text, and the same dispatches once more if the value leaves the echo flag on. The console gets
the text uncut then. A value that unwinds leaves its dispatches and nothing else.
-/

namespace LogRelay

theorem bytesOf_append (s t : String) : bytesOf (s ++ t) = bytesOf s ++ bytesOf t := by
  rw [bytesOf, String.toByteArray_append, ByteArray.data_append, Array.toList_append]
  rfl

theorem bytesOf_eq_nil {s : String} : bytesOf s = [] ↔ s = "" := by
  rw [bytesOf, Array.toList_eq_nil_iff, ← String.toByteArray_eq_empty_iff, ByteArray.ext_iff]
  rfl

theorem bytesOf_join (pieces : List String) :
    bytesOf (String.join pieces) = (pieces.map bytesOf).flatten := by
  induction pieces with
  | nil => rfl
  | cons s rest ih => rw [String.join_cons, bytesOf_append, ih, List.map_cons, List.flatten_cons]

def Call.linesTo (q : RouterName) : Call → List Line
  | .dispatch r l => if r = q ∧ l.isEmpty = false then [l] else []
  | .setEcho _ _ => []

def Call.echoOf (q : RouterName) (on : Bool) : Call → Bool
  | .dispatch _ _ => on
  | .setEcho r b => if r = q then b else on

theorem Call.echoOf_cases (q : RouterName) (cs : List Call) :
    (∀ on, cs.foldl (echoOf q) on = on) ∨ ∃ b, ∀ on, cs.foldl (echoOf q) on = b := by
  induction cs with
  | nil => exact .inl fun _ => rfl
  | cons c cs ih =>
    obtain same | ⟨b, set⟩ := ih
    · obtain ⟨_, _⟩ | ⟨r, b⟩ := c
      · exact .inl same
      · by_cases here : r = q
        · exact .inr ⟨b, fun on => (same _).trans (if_pos here)⟩
        · exact .inl fun on => (same _).trans (if_neg here)
    · exact .inr ⟨b, fun on => set _⟩

namespace Script

def linesTo (q : RouterName) (value : Script) : List Line :=
  value.calls.flatMap (Call.linesTo q)

def echoOf (q : RouterName) (on : Bool) (value : Script) : Bool :=
  value.calls.foldl (Call.echoOf q) on

def written (value : Script) : String :=
  String.join value.pieces

theorem echoOf_echoOf (q : RouterName) (on : Bool) (value : Script) :
    value.echoOf q (value.echoOf q on) = value.echoOf q on := by
  obtain same | ⟨b, set⟩ := Call.echoOf_cases q value.calls
  · exact same _
  · exact (set _).trans (set on).symm

theorem line_eq (value : Script) : value.line = Line.ofText value.written := by
  rw [line, Line.ofPieces_eq_ofBytes, ← bytesOf_join]
  rfl

theorem isEmpty_line (value : Script) : value.line.isEmpty = false ↔ value.written ≠ "" := by
  rw [← Bool.not_eq_true, Line.isEmpty_iff, line_eq, Line.ofText, Line.bytes_ofBytes_eq_nil,
    bytesOf_eq_nil]

end Script

namespace Channel

theorem lines_offerAll_eq_take (c : Channel) (ls : List Line) :
    (c.offerAll ls).2.lines = (c.lines ++ ls).take c.capacity := by
  induction ls generalizing c with
  | nil =>
    rw [List.append_nil, List.take_of_length_le c.length_le]
    rfl
  | cons l ls ih =>
    rw [offerAll]
    dsimp only
    rw [ih, capacity_push]
    by_cases room : c.lines.length < c.capacity
    · rw [(push_of_lt l room).2.1, List.append_assoc, List.singleton_append]
    · have full : c.capacity ≤ c.lines.length := Nat.le_of_not_lt room
      rw [(push_of_full l room).2.1, List.take_append_of_le_length full,
        List.take_append_of_le_length full]

theorem dropped_offerAll_eq_sub (c : Channel) (ls : List Line) :
    (c.offerAll ls).2.dropped =
      c.dropped + UInt64.ofNat ((c.lines ++ ls).length - c.capacity) := by
  induction ls generalizing c with
  | nil =>
    rw [List.append_nil, Nat.sub_eq_zero_of_le c.length_le]
    exact (UInt64.add_zero _).symm
  | cons l ls ih =>
    rw [offerAll]
    dsimp only
    rw [ih, capacity_push]
    by_cases room : c.lines.length < c.capacity
    · obtain ⟨_, lines, dropped⟩ := push_of_lt l room
      rw [lines, dropped, List.append_assoc, List.singleton_append]
    · obtain ⟨_, lines, dropped⟩ := push_of_full l room
      have one : (c.lines ++ l :: ls).length - c.capacity =
          1 + ((c.lines ++ ls).length - c.capacity) := by
        simp only [List.length_append, List.length_cons]
        omega
      rw [lines, dropped, one, UInt64.ofNat_add, UInt64.add_assoc]
      rfl

/-- What lines that are pushed one by one come to: the first ones are taken until the channel is
full, and the others are counted. -/
structure Filled (c : Channel) (ls : List Line) (d : Channel) : Prop where
  pushed : d = (c.offerAll ls).2
  lines : d.lines = (c.lines ++ ls).take c.capacity
  dropped : d.dropped = c.dropped + UInt64.ofNat ((c.lines ++ ls).length - c.capacity)

theorem filled_offerAll (c : Channel) (ls : List Line) : c.Filled ls (c.offerAll ls).2 :=
  ⟨rfl, c.lines_offerAll_eq_take ls, c.dropped_offerAll_eq_sub ls⟩

theorem Filled.trans {c d e : Channel} {ls ms : List Line} (first : c.Filled ls d)
    (second : d.Filled ms e) : c.Filled (ls ++ ms) e := by
  have both := c.filled_offerAll (ls ++ ms)
  rw [offerAll_append] at both
  rw [second.pushed, first.pushed]
  exact both

end Channel

namespace Router

/-- From one router to a later one: the lines offered to its channels, the echo flag and what was
added to the console. -/
structure Gains (r : Router) (lines : List Line) (echo : Bool) (text : String) (t : Router) :
    Prop where
  channels : ∀ kind, Option.Rel (Channel.Filled · lines ·) (r.registry.get kind)
    (t.registry.get kind)
  echo : t.echo = echo
  console : t.console = r.console ++ text

theorem gains_of_registry {r t : Router} {echo : Bool} {text : String}
    (registry : t.registry = r.registry) (flag : t.echo = echo)
    (console : t.console = r.console ++ text) : r.Gains [] echo text t := by
  refine ⟨fun kind => ?_, flag, console⟩
  rw [registry]
  cases r.registry.get kind with
  | none => exact .none
  | some c => exact .some (c.filled_offerAll [])

theorem Gains.refl (r : Router) : r.Gains [] r.echo "" r :=
  gains_of_registry rfl rfl String.append_empty.symm

theorem Gains.trans {r s t : Router} {ls ms : List Line} {a b : Bool} {u v : String}
    (first : r.Gains ls a u s) (second : s.Gains ms b v t) :
    r.Gains (ls ++ ms) b (u ++ v) t := by
  refine ⟨fun kind => ?_, second.echo, ?_⟩
  · have before := first.channels kind
    have after := second.channels kind
    generalize r.registry.get kind = c at before
    generalize s.registry.get kind = d at before after
    generalize t.registry.get kind = e at after
    cases before with
    | none =>
      cases after
      exact .none
    | some filled =>
      cases after with
      | some more => exact .some (filled.trans more)
  · rw [second.console, first.console, String.append_assoc]

theorem gains_dispatch (r : Router) (l : Line) :
    r.Gains (if l.isEmpty = false then [l] else []) r.echo "" (r.dispatch l) := by
  rw [dispatch]
  by_cases text : l.isEmpty = false
  · rw [if_pos text, if_neg (by rw [text]; exact Bool.false_ne_true)]
    refine ⟨fun kind => ?_, rfl, String.append_empty.symm⟩
    rw [r.registry.get_pushAll l]
    cases r.registry.get kind with
    | none => exact .none
    | some c => exact .some (c.filled_offerAll [l])
  · rw [if_neg text, if_pos (by simpa using text)]
    exact .refl r

end Router

namespace Desk

theorem gains_make (d : Desk) (c : Call) (q : RouterName) :
    (d.get q).Gains (c.linesTo q) (c.echoOf q (d.get q).echo) "" ((d.make c).get q) := by
  cases c with
  | dispatch r l =>
    rw [make, get_update, Call.linesTo, Call.echoOf]
    by_cases same : q = r
    · subst same
      simpa using (d.get q).gains_dispatch l
    · rw [if_neg same, if_neg (fun h => same h.1.symm)]
      exact .refl _
  | setEcho r b =>
    rw [make, get_update, Call.linesTo, Call.echoOf]
    by_cases same : q = r
    · subst same
      rw [if_pos rfl, if_pos rfl]
      exact Router.gains_of_registry rfl rfl String.append_empty.symm
    · rw [if_neg same, if_neg (Ne.symm same)]
      exact .refl _

theorem gains_makeAll (d : Desk) (cs : List Call) (q : RouterName) :
    (d.get q).Gains (cs.flatMap (Call.linesTo q)) (cs.foldl (Call.echoOf q) (d.get q).echo) ""
      ((d.makeAll cs).get q) := by
  induction cs generalizing d with
  | nil => exact .refl _
  | cons c cs ih =>
    have first := d.gains_make c q
    have rest := ih (d.make c)
    rw [first.echo] at rest
    exact first.trans rest

theorem gains_print (d : Desk) (q r : RouterName) (text : String) :
    (d.get q).Gains [] (d.get q).echo (if q = r then text else "")
      ((d.update r (·.print text)).get q) := by
  rw [get_update]
  by_cases same : q = r
  · subst same
    rw [if_pos rfl, if_pos rfl]
    exact Router.gains_of_registry rfl rfl rfl
  · rw [if_neg same, if_neg same]
    exact .refl _

theorem echoes_eq (d : Desk) (r : RouterName) (value : Script) :
    d.echoes r value = (value.ending ≠ .panicked && value.echoOf r (d.get r).echo) := by
  rw [echoes, (d.gains_makeAll value.calls r).echo]
  rfl

theorem gains_calls (d : Desk) (value : Script) (q : RouterName) :
    (d.get q).Gains (value.linesTo q) (value.echoOf q (d.get q).echo) ""
      ((d.makeAll value.calls).get q) :=
  d.gains_makeAll value.calls q

/-- The line of a value, which goes to the channels of the router that emits it if there is any
text. -/
def ownLines (q r : RouterName) (value : Script) : List Line :=
  if q = r ∧ value.written ≠ "" then [Line.ofText value.written] else []

theorem gains_own (d : Desk) (q r : RouterName) (value : Script) :
    (d.get q).Gains (ownLines q r value) (d.get q).echo ""
      ((d.make (.dispatch r value.line)).get q) := by
  have gains := d.gains_make (.dispatch r value.line) q
  have own : (Call.dispatch r value.line).linesTo q = ownLines q r value := by
    rw [Call.linesTo, ownLines, ← value.line_eq]
    exact ite_congr (propext (and_congr eq_comm value.isEmpty_line)) (fun _ => rfl) fun _ => rfl
  rw [own] at gains
  exact gains

theorem gains_perform {value : Script} (whole : value.ending ≠ .panicked) (d : Desk)
    (q r : RouterName) :
    let on := value.echoOf r (d.get r).echo
    (d.get q).Gains (value.linesTo q ++ ownLines q r value ++ if on then value.linesTo q else [])
      (value.echoOf q (d.get q).echo) (if q = r ∧ on then value.written else "")
      ((d.perform r value).2.get q) := by
  intro on
  have first := d.gains_calls value q
  have own := (d.makeAll value.calls).gains_own q r value
  rw [first.echo] at own
  have sent := first.trans own
  have echoes : d.echoes r value = on := by
    rw [echoes_eq, decide_eq_true whole]
    rfl
  rw [perform, emitCalls, echoes, if_neg whole, makeAll_append, makeAll_append, makeAll_cons,
    makeAll_nil, ← Script.written]
  generalize (d.makeAll value.calls).make (.dispatch r value.line) = e at sent
  cases on with
  | false => simpa using sent
  | true =>
    -- The second formatting starts from the flags that the first one left, and leaves them so.
    have again := e.gains_calls value q
    rw [sent.echo, Script.echoOf_echoOf] at again
    have printed := (e.makeAll value.calls).gains_print q r value.written
    rw [again.echo] at printed
    simpa using (sent.trans again).trans printed

theorem gains_unwound {value : Script} (unwound : value.ending = .panicked) (d : Desk)
    (q r : RouterName) :
    (d.get q).Gains (value.linesTo q) (value.echoOf q (d.get q).echo) ""
      ((d.perform r value).2.get q) := by
  have quiet : d.echoes r value = false := by
    simp [echoes_eq, unwound]
  rw [perform, emitCalls, quiet, if_pos unwound]
  simpa using d.gains_calls value q

/-- One emit on a thread outside of any emit, for both routers of the thread. -/
theorem emit_exact (main other : Router) (r : RouterName) (value : Script) :
    let d : Desk := ⟨main, other, false⟩
    let on := value.echoOf r (d.get r).echo
    let (unwound, after) := d.emit r value
    after.emitting = false ∧
      if value.ending = .panicked then
        unwound = true ∧
          ∀ q, (d.get q).Gains (value.linesTo q) (value.echoOf q (d.get q).echo) "" (after.get q)
      else
        unwound = false ∧
          ∀ q, (d.get q).Gains
            (value.linesTo q ++ ownLines q r value ++ if on then value.linesTo q else [])
            (value.echoOf q (d.get q).echo) (if q = r ∧ on then value.written else "")
            (after.get q) := by
  intro d on
  have performed : d.emit r value = d.perform r value := emit_eq_perform rfl r value
  rw [performed]
  refine ⟨d.emitting_perform r value, ?_⟩
  by_cases unwound : value.ending = .panicked
  · rw [if_pos unwound]
    exact ⟨decide_eq_true unwound, fun q => d.gains_unwound unwound q r⟩
  · rw [if_neg unwound]
    exact ⟨decide_eq_false unwound, fun q => d.gains_perform unwound q r⟩

end Desk

end LogRelay
