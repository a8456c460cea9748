import LogRelay.Proofs.RingCalls

/-!
The two backends side by side. Used in the same way they give the same answers for as long as every
deadline lies on the clock, whatever the clock shows. A wait with a later deadline takes its line
from the message backend and unwinds on the ring, even if a line is there.
-/

namespace LogRelay.Channel

namespace Operation

def overruns : Operation → Bool
  | popTimeout now timeout _ => timeout.overruns now
  | _ => false

end Operation

namespace Answer

def overflowed : Answer → Bool
  | waited .clockOverflow => true
  | _ => false

def returned : Answer → Bool
  | popped none | waited .clockOverflow | waited .endless => false
  | _ => true

end Answer

/-- Whether a call is sure to come back: a line is there, or the wait for one may end. -/
def Ready (c : Channel) : Operation → Prop
  | .pop => c.lines ≠ []
  | .popTimeout now timeout _ => c.lines = [] → timeout.overruns now = false
  | _ => True

def ReadyAll : Channel → List Operation → Prop
  | _, [] => True
  | c, op :: rest => c.Ready op ∧ ReadyAll (c.operate op).2 rest

/-- Two channels that cannot be told apart by what is in them. -/
structure Alike (c d : Channel) : Prop where
  capacity : c.capacity = d.capacity
  lines : c.lines = d.lines
  dropped : c.dropped = d.dropped

theorem alike_create (capacity : Nat) (b b' : Backend) :
    (create capacity b).Alike (create capacity b') :=
  ⟨rfl, rfl, rfl⟩

namespace Alike

variable {c d : Channel}

theorem push (alike : c.Alike d) (l : Line) :
    (c.push l).1 = (d.push l).1 ∧ (c.push l).2.Alike (d.push l).2 := by
  have capacity : (c.push l).2.capacity = (d.push l).2.capacity := by
    rw [capacity_push, capacity_push, alike.capacity]
  by_cases room : c.lines.length < c.capacity
  · have room' : d.lines.length < d.capacity := by rwa [← alike.lines, ← alike.capacity]
    obtain ⟨outcome, lines, dropped⟩ := push_of_lt l room
    obtain ⟨outcome', lines', dropped'⟩ := push_of_lt l room'
    refine ⟨by rw [outcome, outcome'], capacity, ?_, ?_⟩
    · rw [lines, lines', alike.lines]
    · rw [dropped, dropped', alike.dropped]
  · have full' : ¬ d.lines.length < d.capacity := by rwa [← alike.lines, ← alike.capacity]
    obtain ⟨outcome, lines, dropped⟩ := push_of_full l room
    obtain ⟨outcome', lines', dropped'⟩ := push_of_full l full'
    refine ⟨by rw [outcome, outcome'], capacity, ?_, ?_⟩
    · rw [lines, lines', alike.lines]
    · rw [dropped, dropped', alike.dropped]

theorem take (alike : c.Alike d) : c.take.1 = d.take.1 ∧ c.take.2.Alike d.take.2 := by
  have capacity : c.take.2.capacity = d.take.2.capacity := by
    rw [c.kept_take.capacity, d.kept_take.capacity, alike.capacity]
  cases lines : c.lines with
  | nil =>
    rw [take_of_empty lines, take_of_empty (alike.lines ▸ lines)]
    exact ⟨rfl, alike⟩
  | cons l rest =>
    obtain ⟨found, left, dropped⟩ := take_of_lines lines
    obtain ⟨found', left', dropped'⟩ := take_of_lines (alike.lines ▸ lines)
    refine ⟨by rw [found, found'], capacity, by rw [left, left'], ?_⟩
    rw [dropped, dropped', alike.dropped]

theorem operate (alike : c.Alike d) {op : Operation} (onTime : op.overruns = false) :
    (c.operate op).1 = (d.operate op).1 ∧ (c.operate op).2.Alike (d.operate op).2 := by
  cases op with
  | push l =>
    obtain ⟨outcome, after⟩ := alike.push l
    exact ⟨congrArg (fun o => Answer.pushed ⟨l, o⟩) outcome, after⟩
  | pop =>
    obtain ⟨found, after⟩ := alike.take
    exact ⟨congrArg Answer.popped found, after⟩
  | popTimeout now timeout wakes =>
    obtain ⟨found, after⟩ := alike.take
    have waits (c : Channel) :=
      popTimeout_of_onTime (show timeout.overruns now = false from onTime) c
    simp only [Channel.operate, waits]
    exact ⟨by rw [found], after⟩
  | length => exact ⟨by simp only [Channel.operate, length_eq, alike.lines], alike⟩
  | capacity => exact ⟨by simp only [Channel.operate, alike.capacity], alike⟩
  | dropped => exact ⟨by simp only [Channel.operate, alike.dropped], alike⟩

end Alike

theorem overflowed_operate (c : Channel) (op : Operation) :
    (c.operate op).1.overflowed = (decide (c.backend = .ring) && op.overruns) := by
  cases op with
  | popTimeout now timeout wakes =>
    simp only [operate, popTimeout, Operation.overruns]
    split
    · next late => simp [late, Answer.overflowed]
    · next onTime =>
      have same : (decide (c.backend = .ring) && timeout.overruns now) = false := by
        simpa using onTime
      rw [same]
      split
      · rfl
      · dsimp only
        split <;> rfl
  | _ => simp [operate, Answer.overflowed, Operation.overruns]

theorem overflowed_operateAll (c : Channel) (ops : List Operation) :
    (c.operateAll ops).1.map Answer.overflowed =
      ops.map fun op => decide (c.backend = .ring) && op.overruns := by
  induction ops generalizing c with
  | nil => rfl
  | cons op rest ih =>
    have later := ih (c.operate op).2
    rw [(c.kept_operate op).backend] at later
    simp only [operateAll, List.map_cons, overflowed_operate, later]

theorem returned_operate {c : Channel} (message : c.backend = .message) {op : Operation}
    (ready : c.Ready op) : (c.operate op).1.returned = true := by
  cases op with
  | pop =>
    obtain ⟨l, rest, lines⟩ := List.exists_cons_of_ne_nil ready
    simp only [operate, (take_of_lines lines).1]
    rfl
  | popTimeout now timeout wakes =>
    cases lines : c.lines with
    | nil =>
      simp only [operate, popTimeout_of_onTime (ready lines), take_of_empty lines]
      rfl
    | cons l rest =>
      simp only [operate, popTimeout_of_lines lines, message]
      rfl
  | _ => rfl

theorem returned_operateAll {c : Channel} (message : c.backend = .message) {ops : List Operation}
    (ready : c.ReadyAll ops) : ∀ answer ∈ (c.operateAll ops).1, answer.returned = true := by
  induction ops generalizing c with
  | nil => nofun
  | cons op rest ih =>
    intro answer mem
    obtain first | later := List.mem_cons.mp mem
    · rw [first]
      exact returned_operate message ready.1
    · exact ih ((c.kept_operate op).backend.trans message) ready.2 answer later

theorem operate_ne_of_overruns {c d : Channel} (ring : c.backend = .ring)
    (message : d.backend = .message) {op : Operation} (late : op.overruns = true) :
    (c.operate op).1 ≠ (d.operate op).1 := by
  intro same
  have overflows := c.overflowed_operate op
  rw [same, overflowed_operate] at overflows
  simp [ring, message, late] at overflows

theorem Alike.operateAll_iff {c d : Channel} (alike : c.Alike d) (ring : c.backend = .ring)
    (message : d.backend = .message) (ops : List Operation) :
    (c.operateAll ops).1 = (d.operateAll ops).1 ↔ ∀ op ∈ ops, op.overruns = false := by
  induction ops generalizing c d with
  | nil => simp [operateAll]
  | cons op rest ih =>
    simp only [operateAll, List.cons.injEq, List.forall_mem_cons]
    cases late : op.overruns with
    | true => simp [operate_ne_of_overruns ring message late]
    | false =>
      obtain ⟨first, after⟩ := alike.operate late
      have later := ih after ((c.kept_operate op).backend.trans ring)
        ((d.kept_operate op).backend.trans message)
      simp [first, later]

/-- How the channel of one backend answers, next to the channel of the other. -/
structure Compared (capacity : Nat) (ops : List Operation) : Prop where
  ring : ((Ring.Counted.create (max capacity 1)).operateAll ops).1 =
    ((create capacity .ring).operateAll ops).1
  agree : ((create capacity .ring).operateAll ops).1 =
    ((create capacity .message).operateAll ops).1 ↔ ∀ op ∈ ops, op.overruns = false
  overflows : ((create capacity .ring).operateAll ops).1.map Answer.overflowed =
    ops.map Operation.overruns
  returns : ∀ answer ∈ ((create capacity .message).operateAll ops).1, answer.returned = true
  oldest : ∀ (c : Channel) (now : Nat) (timeout : Duration) (l : Line) (rest : List Line),
    c.lines = l :: rest →
      ((c.popTimeout timeout now).1 = .line l ↔
        ¬ (c.backend = .ring ∧ timeout.overruns now = true))

theorem backends_compared {capacity : Nat} {ops : List Operation}
    (ready : (create capacity .message).ReadyAll ops) : Compared capacity ops := by
  refine ⟨?_, ?_, ?_, returned_operateAll rfl ready, fun c now timeout l rest lines => ?_⟩
  · exact ((Ring.Counted.mirrors_create capacity .ring).operateAll rfl ops).1
  · exact (alike_create capacity .ring .message).operateAll_iff rfl rfl ops
  · rw [overflowed_operateAll]
    rfl
  · rw [popTimeout_of_lines lines]
    split
    · next late => simp [late]
    · next onTime => simp [onTime]

theorem backends_compared_of_waits :
    let ops : List Operation :=
      [.push (Line.ofText "a"), .push (Line.ofText "b"), .popTimeout 0 .longest 2,
        .push (Line.ofText "c"), .pop, .popTimeout 7 (.ofNanos 0) 0, .dropped]
    (create 1 .message).ReadyAll ops ∧ Compared 1 ops := by
  intro ops
  have ready : (create 1 .message).ReadyAll ops := by
    refine ⟨trivial, trivial, fun empty => ?_, trivial, fun empty => ?_, fun _ => by decide,
      trivial, trivial⟩
    all_goals exact absurd empty (by decide +kernel)
  exact ⟨ready, backends_compared ready⟩

/-- The longest wait takes the waiting line from the message backend and unwinds on the ring. -/
theorem backends_differ :
    let ops : List Operation := [.push (Line.ofText "a"), .popTimeout 0 .longest 0]
    (create 1 .message).ReadyAll ops ∧
      ((create 1 .ring).operateAll ops).1 =
        [.pushed ⟨Line.ofText "a", .delivered⟩, .waited .clockOverflow] ∧
      ((create 1 .message).operateAll ops).1 =
        [.pushed ⟨Line.ofText "a", .delivered⟩, .waited (.line (Line.ofText "a"))] := by
  refine ⟨⟨trivial, fun empty => ?_, trivial⟩, by decide +kernel, by decide +kernel⟩
  exact absurd empty (by decide +kernel)

end LogRelay.Channel
