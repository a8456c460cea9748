import LogRelay.Proofs.Offers

/-!
A channel that is used again and again. Whatever is done with it, it never holds more lines than it
has room for, what was taken out of it and what it still holds are the lines that it took in, in
order, and every line that it did not take in is counted.
-/

namespace LogRelay

def Waited.ended : Option Line → Waited
  | some l => .line l
  | none => .timedOut

namespace Channel

/-- What can be asked of a channel. A wait without an end is not begun while no line is there; in a
wait that may end, `wakes` sleeps end before the deadline. -/
inductive Operation where
  | push (l : Line)
  | pop
  | popTimeout (now : Nat) (timeout : Duration) (wakes : Nat)
  | length
  | capacity
  | dropped

inductive Answer where
  | pushed (o : Offer)
  | popped (found : Option Line)
  | waited (w : Waited)
  | count (n : Nat)
deriving DecidableEq

namespace Answer

def offers : Answer → List Offer
  | pushed o => [o]
  | popped _ | waited _ | count _ => []

def got : Answer → List Line
  | popped (some l) | waited (.line l) => [l]
  | pushed _ | popped none | waited _ | count _ => []

end Answer

def operate (c : Channel) : Operation → Answer × Channel
  | .push l => (.pushed ⟨l, (c.push l).1⟩, (c.push l).2)
  | .pop => (.popped c.take.1, c.take.2)
  | .popTimeout now timeout _ =>
    (.waited (c.popTimeout timeout now).1, (c.popTimeout timeout now).2)
  | .length => (.count c.length, c)
  | .capacity => (.count c.capacity, c)
  | .dropped => (.count c.dropped.toNat, c)

def operateAll : Channel → List Operation → List Answer × Channel
  | c, [] => ([], c)
  | c, op :: rest =>
    let (answer, after) := c.operate op
    let (later, last) := operateAll after rest
    (answer :: later, last)

theorem pop?_of_lines {c : Channel} {l : Line} {rest : List Line} (lines : c.lines = l :: rest) :
    ∃ d, c.pop? = some (l, d) ∧ d.lines = rest ∧ d.dropped = c.dropped := by
  cases popped : c.pop? with
  | none =>
    rw [pop?_eq_none.mp popped] at lines
    cases lines
  | some found =>
    obtain ⟨m, d⟩ := found
    obtain ⟨same, _, _, dropped⟩ := pop?_eq_some popped
    rw [same] at lines
    cases lines
    exact ⟨d, rfl, rfl, dropped⟩

theorem take_of_lines {c : Channel} {l : Line} {rest : List Line} (lines : c.lines = l :: rest) :
    c.take.1 = some l ∧ c.take.2.lines = rest ∧ c.take.2.dropped = c.dropped := by
  obtain ⟨d, popped, left, dropped⟩ := pop?_of_lines lines
  rw [take, popped]
  exact ⟨rfl, left, dropped⟩

theorem take_of_empty {c : Channel} (lines : c.lines = []) : c.take = (none, c) := by
  rw [take, pop?_eq_none.mpr lines]

theorem popTimeout_of_onTime {timeout : Duration} {now : Nat}
    (onTime : timeout.overruns now = false) (c : Channel) :
    c.popTimeout timeout now = (.ended c.take.1, c.take.2) := by
  rw [popTimeout, take, if_neg (by simp [onTime]), onTime]
  cases c.pop? <;> rfl

theorem popTimeout_of_lines {c : Channel} {l : Line} {rest : List Line}
    (lines : c.lines = l :: rest) (timeout : Duration) (now : Nat) :
    c.popTimeout timeout now =
      if c.backend = .ring ∧ timeout.overruns now then (.clockOverflow, c)
      else (.line l, c.take.2) := by
  obtain ⟨d, popped, _, _⟩ := pop?_of_lines lines
  rw [popTimeout, take, popped]

theorem popTimeout_cases (c : Channel) (timeout : Duration) (now : Nat) :
    (∃ l, c.popTimeout timeout now = (.line l, c.take.2) ∧ c.take.1 = some l) ∨
      ∃ w, c.popTimeout timeout now = (w, c) ∧ (Answer.waited w).got = [] := by
  unfold popTimeout take
  split
  · exact .inr ⟨_, rfl, rfl⟩
  · split
    · exact .inl ⟨_, rfl, rfl⟩
    · refine .inr ⟨_, rfl, ?_⟩
      split <;> rfl

/-- The account of a channel from one point to another: the lines taken in from then on follow those
held before, and they come out again in this order. -/
structure Kept (c : Channel) (answers : List Answer) (d : Channel) : Prop where
  capacity : d.capacity = c.capacity
  backend : d.backend = c.backend
  order : answers.flatMap Answer.got ++ d.lines =
    c.lines ++ Offer.taken (answers.flatMap Answer.offers)
  dropped : d.dropped =
    c.dropped + UInt64.ofNat (Offer.rejected (answers.flatMap Answer.offers))

theorem Kept.refl (c : Channel) : c.Kept [] c :=
  ⟨rfl, rfl, (List.append_nil _).symm, (UInt64.add_zero _).symm⟩

theorem Kept.trans {c d e : Channel} {as bs : List Answer} (first : c.Kept as d)
    (second : d.Kept bs e) : c.Kept (as ++ bs) e := by
  refine ⟨second.capacity.trans first.capacity, second.backend.trans first.backend, ?_, ?_⟩
  · rw [List.flatMap_append, List.flatMap_append, Offer.taken_append, List.append_assoc,
      second.order, ← List.append_assoc, first.order, List.append_assoc]
  · rw [List.flatMap_append, Offer.rejected_append, UInt64.ofNat_add, ← UInt64.add_assoc,
      ← first.dropped, second.dropped]

theorem kept_take (c : Channel) : c.Kept [.popped c.take.1] c.take.2 := by
  cases popped : c.pop? with
  | none =>
    rw [take, popped]
    exact ⟨rfl, rfl, (List.append_nil _).symm, (UInt64.add_zero _).symm⟩
  | some found =>
    obtain ⟨l, d⟩ := found
    obtain ⟨lines, capacity, backend, dropped⟩ := pop?_eq_some popped
    rw [take, popped]
    refine ⟨capacity, backend, ?_, dropped.trans (UInt64.add_zero _).symm⟩
    rw [lines]
    exact (List.append_nil _).symm

theorem kept_push (c : Channel) (l : Line) : c.Kept [.pushed ⟨l, (c.push l).1⟩] (c.push l).2 := by
  refine ⟨capacity_push c l, backend_push c l, ?_, ?_⟩
  · exact c.lines_offerAll [l]
  · exact c.dropped_offerAll [l]

theorem kept_operate (c : Channel) (op : Operation) :
    c.Kept [(c.operate op).1] (c.operate op).2 := by
  cases op with
  | push l => exact c.kept_push l
  | pop => exact c.kept_take
  | popTimeout now timeout wakes =>
    rw [operate]
    obtain ⟨l, same, taken⟩ | ⟨w, same, nothing⟩ := c.popTimeout_cases timeout now
    · obtain ⟨capacity, backend, order, dropped⟩ := c.kept_take
      rw [taken] at order dropped
      rw [same]
      exact ⟨capacity, backend, order, dropped⟩
    · rw [same]
      refine ⟨rfl, rfl, ?_, (UInt64.add_zero _).symm⟩
      rw [List.flatMap_singleton, nothing]
      exact (List.append_nil _).symm
  | length | capacity | dropped =>
    exact ⟨rfl, rfl, (List.append_nil _).symm, (UInt64.add_zero _).symm⟩

theorem kept_operateAll (c : Channel) (ops : List Operation) :
    c.Kept (c.operateAll ops).1 (c.operateAll ops).2 := by
  induction ops generalizing c with
  | nil => exact .refl c
  | cons op rest ih => exact (c.kept_operate op).trans (ih _)

theorem offered_operateAll (c : Channel) (ops : List Operation) :
    ((c.operateAll ops).1.flatMap Answer.offers).map (·.line) =
      ops.filterMap fun | .push l => some l | _ => none := by
  induction ops generalizing c with
  | nil => rfl
  | cons op rest ih =>
    cases op with
    | push l => exact congrArg (l :: ·) (ih _)
    | pop | popTimeout | length | capacity | dropped => exact ih _

/-- Each operation of a channel in terms of the lines that wait in it. -/
structure Serves (c : Channel) : Prop where
  delivered : ∀ l, (c.push l).1 = .delivered ↔ c.length < c.capacity
  enqueued : ∀ l, (c.push l).1 = .delivered →
    (c.push l).2.lines = c.lines ++ [l] ∧ (c.push l).2.dropped = c.dropped
  refused : ∀ l, (c.push l).1 ≠ .delivered →
    (c.push l).1 = .dropped ∧ (c.push l).2.lines = c.lines ∧
      (c.push l).2.dropped = c.dropped + 1
  popped : ∀ l rest, c.lines = l :: rest →
    c.take.1 = some l ∧ c.take.2.lines = rest ∧ c.take.2.dropped = c.dropped
  waited : ∀ (timeout : Duration) now, timeout.overruns now = false → ∀ l rest,
    c.lines = l :: rest → c.popTimeout timeout now = (.line l, c.take.2)
  timedOut : ∀ (timeout : Duration) now, timeout.overruns now = false → c.lines = [] →
    c.popTimeout timeout now = (.timedOut, c)

theorem serves (c : Channel) : c.Serves := by
  have push (l : Line) := c.push_of_lt l
  have full (l : Line) := c.push_of_full l
  rw [← length_eq] at push full
  refine ⟨fun l => ?_, fun l taken => ?_, fun l rejected => ?_, fun l rest => take_of_lines,
    fun timeout now onTime l rest lines => ?_, fun timeout now onTime lines => ?_⟩
  · by_cases room : c.length < c.capacity
    · simp [room, (push l room).1]
    · simp [room, (full l room).1]
  · by_cases room : c.length < c.capacity
    · exact (push l room).2
    · rw [(full l room).1] at taken
      cases taken
  · by_cases room : c.length < c.capacity
    · exact absurd (push l room).1 rejected
    · exact full l room
  · rw [popTimeout_of_onTime onTime, (take_of_lines lines).1]
    rfl
  · rw [popTimeout_of_onTime onTime, take_of_empty lines]
    rfl

end Channel

end LogRelay
