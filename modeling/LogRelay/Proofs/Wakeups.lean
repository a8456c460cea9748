import LogRelay.Channel.Ring

/-!
No wake-up of a ring is lost. Whenever its consumer sleeps while a line is queued, a producer has
still to wake it and will find it waiting. So a consumer that waits while a line is there gets it,
in whatever order the consumer and the producers go on.
-/

namespace LogRelay.Ring

namespace Consumer

/-- Whether the consumer has announced that it waits and not taken that back. -/
def announced : Consumer → Bool
  | rechecking | retracting _ | parked | woken => true
  | away | taking | recording | announcing | holding _ => false

def inside : Consumer → Bool
  | away | holding _ => false
  | _ => true

/-- The steps up to the end of a wait during which a line is there. -/
def ahead : Consumer → Nat
  | away | holding _ => 0
  | taking | retracting _ => 1
  | rechecking | woken => 2
  | announcing | parked => 3
  | recording => 4

end Consumer

def Producer.ahead : Producer → Nat
  | idle => 0
  | waking => 1
  | pushed => 2

def Producer.aheadAll (producers : List Producer) : Nat :=
  producers.foldr (fun p steps => p.ahead + steps) 0

def Move.isPush : Move → Bool
  | push _ _ => true
  | _ => false

namespace State

def next? (s : State) : Option Line :=
  match s.consumer with
  | .retracting l => some l
  | _ => s.queue.head?

def ahead (s : State) : Nat :=
  s.consumer.ahead + Producer.aheadAll s.producers

/-- Whatever is done next and from then on, the consumer ends its wait with this line as long as
nobody pushes another: there is always something to do that is no unfounded awakening, and all that
can be done leads there. -/
inductive Gets (l : Line) : State → Prop where
  | held {s : State} (holding : s.held = some l) : Gets l s
  | onward {s : State} (possible : ∃ m t, m.isPush = false ∧ m ≠ .stir ∧ s.step m = some t)
      (every : ∀ m t, m.isPush = false → s.step m = some t → Gets l t) : Gets l s

structure Alert (s : State) : Prop where
  waiting : s.waiting = s.consumer.announced
  known : s.consumer = .announcing ∨ s.consumer.announced = true → s.known = true
  pending : s.consumer = .parked → s.token = false → s.queue ≠ [] →
    ∃ (i : Nat) (p : Producer), s.producers[i]? = some p ∧ p ≠ .idle

section
variable {s t : State}

theorem Alert.create (capacity producers : Nat) : (create capacity [] producers).Alert where
  waiting := rfl
  known := nofun
  pending := nofun

theorem Alert.consume (alert : s.Alert) (made : s.consume = some t) : t.Alert := by
  obtain ⟨capacity, queue, known, waiting, token, consumer, producers⟩ := s
  have waits := alert.waiting
  have knows := alert.known
  cases consumer with
  | away => cases made
  | holding l => cases made
  | taking =>
    cases queue <;> cases made
    all_goals exact ⟨waits, nofun, nofun⟩
  | recording =>
    cases made
    exact ⟨waits, fun _ => rfl, nofun⟩
  | announcing =>
    cases made
    exact ⟨rfl, fun _ => knows (.inl rfl), nofun⟩
  | rechecking =>
    cases queue <;> cases made
    · exact ⟨waits, fun _ => knows (.inr rfl), fun _ _ line => absurd rfl line⟩
    · exact ⟨waits, fun _ => knows (.inr rfl), nofun⟩
  | retracting l =>
    cases made
    exact ⟨rfl, nofun, nofun⟩
  | parked =>
    cases token <;> cases made
    exact ⟨waits, fun _ => knows (.inr rfl), nofun⟩
  | woken =>
    cases made
    exact ⟨rfl, nofun, nofun⟩

theorem produce_of_pushed {i : Nat} (here : s.producers[i]? = some .pushed) :
    s.step (.produce i) = some (s.setProducer i (if s.waiting then .waking else .idle)) := by
  simp only [step, here]

theorem produce_of_waking {i : Nat} (here : s.producers[i]? = some .waking) :
    s.step (.produce i) =
      some ({ s with token := s.token || s.known }.setProducer i .idle) := by
  simp only [step, here]

theorem produce_of_idle {i : Nat} (here : s.producers[i]? = some .idle) :
    s.step (.produce i) = none := by
  simp only [step, here]

theorem produce_cases {i : Nat} (made : s.step (.produce i) = some t) :
    s.producers[i]? = some .pushed ∨ s.producers[i]? = some .waking := by
  simp only [step] at made
  split at made
  · next here => exact .inl here
  · next here => exact .inr here
  · cases made

theorem getElem?_setProducer {i : Nat} {p : Producer} (here : s.producers[i]? = some p)
    (q : Producer) : (s.setProducer i q).producers[i]? = some q := by
  have bound := (List.getElem?_eq_some_iff.mp here).1
  simp [setProducer, bound]

theorem Alert.push (alert : s.Alert) {i : Nat} {l : Line} (made : s.step (.push i l) = some t) :
    t.Alert := by
  simp only [step] at made
  split at made
  · next idle =>
    split at made
    · cases made
      exact ⟨alert.waiting, alert.known,
        fun _ _ _ => ⟨i, .pushed, getElem?_setProducer idle _, nofun⟩⟩
    · cases made
      exact alert
  · cases made

theorem Alert.produce (alert : s.Alert) {i : Nat} (made : s.step (.produce i) = some t) :
    t.Alert := by
  obtain here | here := produce_cases made
  · rw [produce_of_pushed here] at made
    cases made
    refine ⟨alert.waiting, alert.known, fun parked _ _ => ⟨i, .waking, ?_, nofun⟩⟩
    have waiting : s.waiting = true := by
      rw [alert.waiting, show s.consumer = .parked from parked]
      rfl
    rw [if_pos waiting]
    exact getElem?_setProducer here _
  · rw [produce_of_waking here] at made
    cases made
    refine ⟨alert.waiting, alert.known, fun parked asleep _ => ?_⟩
    have known := alert.known (.inr (by rw [show s.consumer = .parked from parked]; rfl))
    simp [setProducer, known] at asleep

theorem Alert.step (alert : s.Alert) {m : Move} (made : s.step m = some t) : t.Alert := by
  cases m with
  | begin =>
    have waits := alert.waiting
    simp only [State.step] at made
    split at made
    · next away =>
      cases made
      rw [away] at waits
      exact ⟨waits, nofun, nofun⟩
    · next holding =>
      cases made
      rw [holding] at waits
      exact ⟨waits, nofun, nofun⟩
    · cases made
  | consume => exact alert.consume made
  | stir =>
    simp only [State.step] at made
    split at made
    · next parked =>
      cases made
      have waits := alert.waiting
      have knows := alert.known
      rw [parked] at waits knows
      exact ⟨waits, fun _ => knows (.inr rfl), nofun⟩
    · cases made
  | push i l => exact alert.push made
  | produce i => exact alert.produce made

theorem Reachable.alert {capacity producers : Nat} (reachable : Reachable capacity producers s) :
    s.Alert := by
  induction reachable with
  | initial => exact .create capacity producers
  | step m _ made ih => exact ih.step made

theorem nearer_of_consume {l : Line} (inside : s.consumer.inside = true) (next : s.next? = some l)
    (made : s.consume = some t) :
    t.held = some l ∨
      t.consumer.inside = true ∧ t.next? = some l ∧ t.producers = s.producers ∧
        t.consumer.ahead < s.consumer.ahead := by
  obtain ⟨capacity, queue, known, waiting, token, consumer, producers⟩ := s
  cases consumer with
  | away => cases inside
  | holding l => cases inside
  | retracting m =>
    cases next
    cases made
    exact .inl rfl
  | taking =>
    obtain ⟨rest, rfl⟩ := List.head?_eq_some_iff.mp next
    cases made
    exact .inl rfl
  | rechecking =>
    obtain ⟨rest, rfl⟩ := List.head?_eq_some_iff.mp next
    cases made
    exact .inr ⟨rfl, rfl, rfl, Nat.lt_succ_self _⟩
  | recording =>
    cases made
    exact .inr ⟨rfl, next, rfl, Nat.lt_succ_self _⟩
  | announcing =>
    cases made
    exact .inr ⟨rfl, next, rfl, Nat.lt_succ_self _⟩
  | woken =>
    cases made
    exact .inr ⟨rfl, next, rfl, Nat.lt_succ_self _⟩
  | parked =>
    cases token
    · cases made
    · cases made
      exact .inr ⟨rfl, next, rfl, Nat.lt_succ_self _⟩

theorem ahead_set {producers : List Producer} {i : Nat} {p q : Producer}
    (here : producers[i]? = some p) (less : q.ahead < p.ahead) :
    Producer.aheadAll (producers.set i q) < Producer.aheadAll producers := by
  induction producers generalizing i with
  | nil => simp at here
  | cons first rest ih =>
    cases i with
    | zero =>
      simp only [List.getElem?_cons_zero, Option.some.injEq] at here
      simp only [List.set_cons_zero, Producer.aheadAll, List.foldr_cons, here]
      omega
    | succ i =>
      have later := ih (by simpa using here)
      rw [List.set_cons_succ]
      simp only [Producer.aheadAll, List.foldr_cons] at later ⊢
      omega

theorem nearer_of_produce {i : Nat} (made : s.step (.produce i) = some t) :
    t.consumer = s.consumer ∧ t.next? = s.next? ∧ t.ahead < s.ahead := by
  obtain here | here := produce_cases made
  · rw [produce_of_pushed here] at made
    cases made
    refine ⟨rfl, rfl, Nat.add_lt_add_left (ahead_set here ?_) _⟩
    split <;> decide
  · rw [produce_of_waking here] at made
    cases made
    exact ⟨rfl, rfl, Nat.add_lt_add_left (ahead_set here (by decide)) _⟩

theorem nearer_of_step {l : Line} (inside : s.consumer.inside = true) (next : s.next? = some l)
    {m : Move} (silent : m.isPush = false) (made : s.step m = some t) :
    t.held = some l ∨
      t.consumer.inside = true ∧ t.next? = some l ∧ t.ahead < s.ahead := by
  cases m with
  | begin =>
    simp only [step] at made
    split at made
    · next away => simp [away, Consumer.inside] at inside
    · next holding => simp [holding, Consumer.inside] at inside
    · cases made
  | consume =>
    obtain held | ⟨inside', next', same, less⟩ := nearer_of_consume inside next made
    · exact .inl held
    · refine .inr ⟨inside', next', ?_⟩
      simp only [ahead, same]
      omega
  | stir =>
    simp only [step] at made
    split at made
    · next parked =>
      cases made
      simp only [next?, parked] at next
      refine .inr ⟨rfl, next, ?_⟩
      simp only [ahead, parked, Consumer.ahead]
      omega
    · cases made
  | push i l => cases silent
  | produce i =>
    obtain ⟨same, next', less⟩ := nearer_of_produce made
    exact .inr ⟨by rw [same, inside], by rw [next', next], less⟩

/-- While a line is there somebody can go on, and not only because the consumer stirs. -/
theorem Alert.possible (alert : s.Alert) {l : Line} (inside : s.consumer.inside = true)
    (next : s.next? = some l) : ∃ m t, m.isPush = false ∧ m ≠ .stir ∧ s.step m = some t := by
  by_cases sleeps : s.consumer = .parked ∧ s.token = false
  · obtain ⟨parked, asleep⟩ := sleeps
    have line : s.queue ≠ [] := by
      intro empty
      simp [next?, parked, empty] at next
    obtain ⟨i, p, here, busy⟩ := alert.pending parked asleep line
    refine ⟨.produce i, ?_⟩
    cases p with
    | idle => exact absurd rfl busy
    | pushed => exact ⟨_, rfl, nofun, produce_of_pushed here⟩
    | waking => exact ⟨_, rfl, nofun, produce_of_waking here⟩
  · refine ⟨.consume, ?_⟩
    obtain ⟨capacity, queue, known, waiting, token, consumer, producers⟩ := s
    cases consumer with
    | away => cases inside
    | holding l => cases inside
    | parked =>
      cases token
      · exact absurd ⟨rfl, rfl⟩ sleeps
      · exact ⟨_, rfl, nofun, rfl⟩
    | _ => exact ⟨_, rfl, nofun, rfl⟩

theorem Alert.gets {s : State} (alert : s.Alert) {l : Line} (inside : s.consumer.inside = true)
    (next : s.next? = some l) : Gets l s := by
  refine .onward (alert.possible inside next) (fun m t silent made => ?_)
  obtain held | ⟨inside', next', less⟩ := nearer_of_step inside next silent made
  · exact .held held
  · exact (alert.step made).gets inside' next'
termination_by s.ahead

/-- A producer that has its look at a sleeping consumer, or the awakening itself, still to come. -/
structure WakesAhead (s : State) (i : Nat) : Prop where
  pending : s.producers[i]? = some .pushed ∨ s.producers[i]? = some .waking
  waiting : s.waiting = true
  known : s.known = true
  wakes : (s.play [.produce i, .produce i]).token = true

theorem play_made {m : Move} (made : s.step m = some t) (rest : List Move) :
    s.play (m :: rest) = t.play rest := by
  rw [play, List.foldl_cons, made]
  rfl

theorem play_passed {m : Move} (passed : s.step m = none) (rest : List Move) :
    s.play (m :: rest) = s.play rest := by
  rw [play, List.foldl_cons, passed]
  rfl

theorem Alert.wakesAhead (alert : s.Alert) (parked : s.consumer = .parked)
    (asleep : s.token = false) (line : s.queue ≠ []) : ∃ i, s.WakesAhead i := by
  have waiting : s.waiting = true := by
    rw [alert.waiting, parked]
    rfl
  have known := alert.known (.inr (by rw [parked]; rfl))
  obtain ⟨i, p, here, busy⟩ := alert.pending parked asleep line
  cases p with
  | idle => exact absurd rfl busy
  | pushed =>
    refine ⟨i, .inl here, waiting, known, ?_⟩
    rw [play_made (produce_of_pushed here), if_pos waiting,
      play_made (produce_of_waking (getElem?_setProducer here _))]
    simp [play, setProducer, known]
  | waking =>
    refine ⟨i, .inr here, waiting, known, ?_⟩
    have done := getElem?_setProducer (s := { s with token := s.token || s.known }) here .idle
    rw [play_made (produce_of_waking here), play_passed (produce_of_idle done)]
    simp [play, setProducer, known]

/-- No wake-up is lost: while the consumer sleeps over a line somebody is about to wake it, so it
never sleeps once all producers are idle, and a consumer inside a wait gets the oldest line. -/
structure Attended (s : State) : Prop where
  woken : s.consumer = .parked → s.token = false → s.queue ≠ [] → ∃ i, s.WakesAhead i
  never : ¬ ((∀ p ∈ s.producers, p = .idle) ∧ s.queue ≠ [] ∧ s.consumer = .parked ∧
    s.token = false)
  gets : s.consumer.inside = true → ∀ l, s.next? = some l → Gets l s

theorem Reachable.attended {capacity producers : Nat} (reachable : Reachable capacity producers s) :
    s.Attended := by
  have alert := reachable.alert
  refine ⟨alert.wakesAhead, ?_, fun inside l next => alert.gets inside next⟩
  intro ⟨idle, line, parked, asleep⟩
  obtain ⟨i, pending, _, _, _⟩ := alert.wakesAhead parked asleep line
  obtain pushed | waking := pending
  · cases idle _ (List.mem_of_getElem? pushed)
  · cases idle _ (List.mem_of_getElem? waking)

theorem Reachable.attended_of_two_lines :
    ∃ s, Reachable 2 2 s ∧ s.consumer = .parked ∧ s.token = false ∧ s.queue.length = 2 ∧
      s.Attended := by
  let line := Line.ofText "a"
  have asleep := (((((@Reachable.initial 2 2).step .begin rfl).step
    .consume rfl).step .consume rfl).step .consume rfl).step .consume rfl
  have again := (((((asleep.step .stir rfl).step .consume rfl).step .consume rfl).step
    .consume rfl).step .consume rfl).step .consume rfl
  have last := (again.step (.push 0 line) rfl).step (.push 1 line) rfl
  exact ⟨_, last, rfl, rfl, rfl, last.attended⟩

end

end State

end LogRelay.Ring
