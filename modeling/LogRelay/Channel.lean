import LogRelay.Duration
import LogRelay.Line
import LogRelay.Queue

/-!
Bounded queues of lines between the producers and the one worker that sends them. A push never
waits: a line that finds the queue full is dropped and counted. Two backends differ only in how
they wait for a line.
-/

namespace LogRelay

inductive Backend where
  | ring
  | message
deriving DecidableEq

namespace Backend

def name : Backend → String
  | ring => "ring"
  | message => "message"

end Backend

inductive PushOutcome where
  | delivered
  | dropped
deriving DecidableEq

/-- What became of a wait that is limited in time. A deadline past the end of the clock cannot be
named: the wait overflows, or has no end if no line comes. -/
inductive Waited where
  | line (l : Line)
  | timedOut
  | clockOverflow
  | endless
deriving DecidableEq

structure Channel where
  capacity : Nat
  backend : Backend
  queue : Queue Line
  dropped : UInt64
  capacity_pos : 0 < capacity
  size_le : queue.size ≤ capacity
deriving DecidableEq

namespace Channel

/-- An empty queue with room for at least one line. -/
def create (capacity : Nat) (backend : Backend) : Channel where
  capacity := max capacity 1
  backend := backend
  queue := .empty
  dropped := 0
  capacity_pos := by omega
  size_le := Nat.zero_le _

def lines (c : Channel) : List Line :=
  c.queue.toList

def length (c : Channel) : Nat :=
  c.queue.size

def isEmpty (c : Channel) : Bool :=
  c.length == 0

/-- A line that finds no room is counted and forgotten. -/
def push (c : Channel) (l : Line) : PushOutcome × Channel :=
  if h : c.length < c.capacity then
    (.delivered, { c with queue := c.queue.push l, size_le := Nat.succ_le_of_lt h })
  else
    (.dropped, { c with dropped := c.dropped + 1 })

def pop? (c : Channel) : Option (Line × Channel) :=
  match h : c.queue.pop? with
  | none => none
  | some (l, rest) => some (l, { c with
      queue := rest
      size_le := by
        have bound := c.size_le
        rw [Queue.size_of_pop? h] at bound
        omega })

def take (c : Channel) : Option Line × Channel :=
  match c.pop? with
  | some (l, rest) => (some l, rest)
  | none => (none, c)

def drain (c : Channel) : List Line × Channel :=
  (c.lines, { c with queue := .empty, size_le := Nat.zero_le _ })

/-- A wait for at most `timeout` that begins when the clock shows `now`, one second if it is not
said. The ring names its deadline before it looks at the queue; the message backend looks first, and
a deadline that it cannot name is none. -/
def popTimeout (c : Channel) (timeout : Duration) (now : Nat := Duration.second) :
    Waited × Channel :=
  if c.backend = .ring ∧ timeout.overruns now then (.clockOverflow, c)
  else
    match c.pop? with
    | some (l, rest) => (.line l, rest)
    | none => (if timeout.overruns now then .endless else .timedOut, c)

@[simp] theorem capacity_push (c : Channel) (l : Line) : (c.push l).2.capacity = c.capacity := by
  unfold push
  split <;> rfl

@[simp] theorem backend_push (c : Channel) (l : Line) : (c.push l).2.backend = c.backend := by
  unfold push
  split <;> rfl

theorem length_eq (c : Channel) : c.length = c.lines.length :=
  (Queue.length_toList c.queue).symm

theorem length_le (c : Channel) : c.lines.length ≤ c.capacity := by
  rw [← length_eq]
  exact c.size_le

theorem push_of_lt {c : Channel} (l : Line) (room : c.lines.length < c.capacity) :
    (c.push l).1 = .delivered ∧ (c.push l).2.lines = c.lines ++ [l] ∧
      (c.push l).2.dropped = c.dropped := by
  rw [← length_eq] at room
  unfold push
  rw [dif_pos room]
  exact ⟨rfl, Queue.toList_push _ _, rfl⟩

theorem push_of_full {c : Channel} (l : Line) (full : ¬ c.lines.length < c.capacity) :
    (c.push l).1 = .dropped ∧ (c.push l).2.lines = c.lines ∧
      (c.push l).2.dropped = c.dropped + 1 := by
  rw [← length_eq] at full
  unfold push
  rw [dif_neg full]
  exact ⟨rfl, rfl, rfl⟩

theorem pop?_eq_some {c rest : Channel} {l : Line} (h : c.pop? = some (l, rest)) :
    c.lines = l :: rest.lines ∧ rest.capacity = c.capacity ∧ rest.backend = c.backend ∧
      rest.dropped = c.dropped := by
  unfold pop? at h
  split at h
  · cases h
  · next hq =>
    cases h
    exact ⟨Queue.toList_of_pop? hq, rfl, rfl, rfl⟩

theorem pop?_eq_none {c : Channel} : c.pop? = none ↔ c.lines = [] := by
  rw [lines, ← Queue.pop?_eq_none]
  unfold pop?
  split
  · next hq => exact ⟨fun _ => hq, fun _ => rfl⟩
  · next hq => exact ⟨fun h => (by cases h), fun h => (by rw [hq] at h; cases h)⟩

def describe (c : Channel) : String :=
  s!"Channel \x7b len: {c.length}, capacity: {c.capacity}, dropped: {c.dropped.toNat} \x7d"

end Channel

end LogRelay
