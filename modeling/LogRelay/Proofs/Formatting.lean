import LogRelay.Router

/-!
What formatting a value comes to on a thread that is already inside an emit. Emits are discarded
there, so the text, the ending and the calls that a value makes can be read off the value alone,
and a whole emit is told in terms of them.
-/

namespace LogRelay

inductive Call where
  | dispatch (router : RouterName) (line : Line)
  | setEcho (router : RouterName) (on : Bool)

namespace Script

/-- The calls up to the point where formatting stops. -/
def calls : Script → List Call
  | done | fail | panic => []
  | text _ rest => rest.calls
  | emit _ _ rest => rest.calls
  | dispatch r l rest => .dispatch r l :: rest.calls
  | setEcho r on rest => .setEcho r on :: rest.calls

def pieces : Script → List String
  | done | fail | panic => []
  | text s rest => s :: rest.pieces
  | emit _ _ rest => rest.pieces
  | dispatch _ _ rest => rest.pieces
  | setEcho _ _ rest => rest.pieces

def ending : Script → Outcome
  | done => .finished
  | fail => .failed
  | panic => .panicked
  | text _ rest => rest.ending
  | emit _ _ rest => rest.ending
  | dispatch _ _ rest => rest.ending
  | setEcho _ _ rest => rest.ending

def line (value : Script) : Line :=
  Line.ofPieces (value.pieces.map bytesOf)

end Script

namespace Desk

def make (d : Desk) : Call → Desk
  | .dispatch r l => d.update r (·.dispatch l)
  | .setEcho r on => d.update r ({ · with echo := on })

def makeAll (d : Desk) (calls : List Call) : Desk :=
  calls.foldl make d

def guarded (d : Desk) (on : Bool) : Desk :=
  { d with emitting := on }

@[simp] theorem guarded_guarded (d : Desk) (a b : Bool) :
    (d.guarded a).guarded b = d.guarded b := rfl

@[simp] theorem emitting_guarded (d : Desk) (on : Bool) : (d.guarded on).emitting = on := rfl

@[simp] theorem get_guarded (d : Desk) (on : Bool) (r : RouterName) :
    (d.guarded on).get r = d.get r := by
  cases r <;> rfl

theorem guarded_eq_self {d : Desk} {on : Bool} (h : d.emitting = on) : d.guarded on = d := by
  subst h
  rfl

@[simp] theorem emitting_update (d : Desk) (r : RouterName) (f : Router → Router) :
    (d.update r f).emitting = d.emitting := by
  cases r <;> rfl

theorem update_guarded (d : Desk) (on : Bool) (r : RouterName) (f : Router → Router) :
    (d.guarded on).update r f = (d.update r f).guarded on := by
  cases r <;> rfl

theorem get_update (d : Desk) (r s : RouterName) (f : Router → Router) :
    (d.update r f).get s = if s = r then f (d.get r) else d.get s := by
  cases r <;> cases s <;> rfl

@[simp] theorem makeAll_nil (d : Desk) : d.makeAll [] = d := rfl

@[simp] theorem makeAll_cons (d : Desk) (c : Call) (cs : List Call) :
    d.makeAll (c :: cs) = (d.make c).makeAll cs := rfl

theorem makeAll_append (d : Desk) (cs ds : List Call) :
    d.makeAll (cs ++ ds) = (d.makeAll cs).makeAll ds :=
  List.foldl_append

@[simp] theorem emitting_make (d : Desk) (c : Call) : (d.make c).emitting = d.emitting := by
  cases c <;> simp only [make, emitting_update]

theorem make_guarded (d : Desk) (on : Bool) (c : Call) :
    (d.guarded on).make c = (d.make c).guarded on := by
  cases c <;> simp only [make, update_guarded]

@[simp] theorem emitting_makeAll (d : Desk) (cs : List Call) :
    (d.makeAll cs).emitting = d.emitting := by
  induction cs generalizing d with
  | nil => rfl
  | cons c cs ih => rw [makeAll_cons, ih, emitting_make]

theorem makeAll_guarded (d : Desk) (on : Bool) (cs : List Call) :
    (d.guarded on).makeAll cs = (d.makeAll cs).guarded on := by
  induction cs generalizing d with
  | nil => rfl
  | cons c cs ih => rw [makeAll_cons, make_guarded, ih, makeAll_cons]

end Desk

namespace Script

theorem format_inside (s : Script) {d : Desk} (inside : d.emitting = true) :
    s.format d = ⟨s.pieces, s.ending, d.makeAll s.calls⟩ := by
  induction s generalizing d with
  | done => rfl
  | fail => rfl
  | panic => rfl
  | text s rest ih => rw [format, ih inside]; rfl
  | emit r value rest _ ih => rw [format, if_pos inside, ih inside]; rfl
  | dispatch r l rest ih =>
    have still : (d.update r (·.dispatch l)).emitting = true := by
      rw [Desk.emitting_update, inside]
    rw [format, ih still]
    rfl
  | setEcho r on rest ih =>
    have still : (d.update r ({ · with echo := on })).emitting = true := by
      rw [Desk.emitting_update, inside]
    rw [format, ih still]
    rfl

end Script

namespace Desk

/-- Whether an emit also writes its value to the console. The flag counts as the value leaves it. -/
def echoes (d : Desk) (r : RouterName) (value : Script) : Bool :=
  value.ending ≠ .panicked && ((d.makeAll value.calls).get r).echo

/-- The calls of a whole emit: those of the value, then its line, and for the console those of the
value once more. -/
def emitCalls (d : Desk) (r : RouterName) (value : Script) : List Call :=
  value.calls ++ (if value.ending = .panicked then [] else [.dispatch r value.line]) ++
    (if d.echoes r value then value.calls else [])

def perform (d : Desk) (r : RouterName) (value : Script) : Bool × Desk :=
  let after := d.makeAll (d.emitCalls r value)
  (value.ending = .panicked,
    if d.echoes r value then after.update r (·.print (String.join value.pieces)) else after)

theorem echo_dispatch (d : Desk) (r : RouterName) (l : Line) :
    ((d.make (.dispatch r l)).get r).echo = (d.get r).echo := by
  rw [make, get_update, if_pos rfl, Router.dispatch]
  split <;> rfl

theorem format_emit {d : Desk} (clear : d.emitting = false) (r : RouterName)
    (value rest : Script) :
    (Script.emit r value rest).format d =
      let first := value.format (d.guarded true)
      if first.outcome = .panicked then ⟨[], .panicked, first.desk.guarded false⟩
      else
        let sent := first.desk.update r (·.dispatch (Line.ofPieces (first.pieces.map bytesOf)))
        if (sent.get r).echo then
          let second := value.format sent
          let told := (second.desk.update r (·.print (String.join second.pieces))).guarded false
          if second.outcome = .panicked then ⟨[], .panicked, told⟩ else rest.format told
        else rest.format (sent.guarded false) := by
  rw [Script.format, if_neg (by rw [clear]; decide)]
  rfl

/-- The value is formatted twice if it is echoed, with the same text and ending both times, so an
emit that unwinds does so before its line is dispatched. -/
theorem emit_eq_perform {d : Desk} (clear : d.emitting = false) (r : RouterName)
    (value : Script) : d.emit r value = d.perform r value := by
  have off (cs : List Call) : (d.makeAll cs).guarded false = d.makeAll cs :=
    guarded_eq_self (by rw [emitting_makeAll, clear])
  have first := value.format_inside (d.emitting_guarded true)
  rw [makeAll_guarded] at first
  rw [emit, format_emit clear, first, perform, emitCalls, echoes]
  by_cases unwound : value.ending = .panicked
  · simp [unwound, off]
  · have sent : ((d.makeAll value.calls).guarded true).update r (·.dispatch value.line) =
        (d.makeAll (value.calls ++ [.dispatch r value.line])).guarded true := by
      rw [update_guarded, makeAll_append]
      rfl
    have flag : ((d.makeAll (value.calls ++ [.dispatch r value.line])).get r).echo =
        ((d.makeAll value.calls).get r).echo := by
      rw [makeAll_append, makeAll_cons, makeAll_nil, echo_dispatch]
    have second := value.format_inside
      (emitting_guarded (d.makeAll (value.calls ++ [.dispatch r value.line])) true)
    rw [makeAll_guarded, ← makeAll_append] at second
    rw [Script.line] at sent flag second
    simp only [if_neg unwound, sent, get_guarded, flag, second, Script.line]
    cases on : ((d.makeAll value.calls).get r).echo with
    | false => simp [unwound, Script.format, off]
    | true =>
      simp only [update_guarded, guarded_guarded, Script.format]
      simp [unwound, ← update_guarded, off]

end Desk

end LogRelay
