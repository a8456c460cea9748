import LogRelay.Proofs.Naming
import LogRelay.Proofs.Schedules

/-!
Where a worker sends its lines. It asks for the address when it starts and then after every so many
failed sends, however many sends succeed between them; it goes by the last answer that named an
address, and every connection leads to the address that it had when it was opened.
-/

namespace LogRelay

/-- The address that was found last, or else the one known before. -/
def latest (a : SocketAddress) (answers : List (Except Fault SocketAddress)) : SocketAddress :=
  (answers.filterMap Except.toOption).getLast?.getD a

theorem latest_nil (a : SocketAddress) : latest a [] = a := rfl

theorem latest_append (a : SocketAddress) (as bs : List (Except Fault SocketAddress)) :
    latest a (as ++ bs) = latest (latest a as) bs := by
  rw [latest, latest, latest, List.filterMap_append, List.getLast?_append]
  cases (bs.filterMap Except.toOption).getLast? <;> rfl

namespace Session

/-- From one session to a later one: the answers to the resolutions made meanwhile, and the
connections opened. -/
structure Travels (s : Session) (answers : List (Except Fault SocketAddress))
    (stops : List SocketAddress) (t : Session) : Prop where
  endpoint : t.worker.endpoint = latest s.worker.endpoint answers
  resolves : t.network.resolves = s.network.resolves + answers.length
  connectedTo : t.network.connectedTo = s.network.connectedTo ++ stops

theorem travels_of_ledger {s t : Session} (endpoint : t.worker.endpoint = s.worker.endpoint)
    (ledger : t.network.ledger = s.network.ledger) : s.Travels [] [] t :=
  ⟨endpoint, congrArg Ledger.resolves ledger,
    (congrArg Ledger.connectedTo ledger).trans (List.append_nil _).symm⟩

theorem Travels.trans {s t u : Session} {as bs : List (Except Fault SocketAddress)}
    {ps qs : List SocketAddress} (first : s.Travels as ps t) (second : t.Travels bs qs u) :
    s.Travels (as ++ bs) (ps ++ qs) u := by
  refine ⟨?_, ?_, ?_⟩
  · rw [second.endpoint, first.endpoint, latest_append]
  · rw [second.resolves, first.resolves, List.length_append, Nat.add_assoc]
  · rw [second.connectedTo, first.connectedTo, List.append_assoc]

theorem Reached.travels {s t : Session} {m : Nat} (reached : s.Reached m t) :
    s.Travels [] [s.worker.endpoint] t := by
  obtain ⟨link, worker⟩ := reached.worker
  have ledger := reached.ledger
  refine ⟨by rw [worker]; rfl, ?_, ?_⟩
  · refine (congrArg Ledger.resolves ledger).trans ?_
    split <;> rfl
  · refine (congrArg Ledger.connectedTo ledger).trans ?_
    split <;> rfl

theorem resolveAgain_travels (s : Session) :
    s.Travels [(s.network.resolve s.worker.policy.destination).1] [] s.resolveAgain := by
  rw [resolveAgain]
  dsimp only
  split
  · next answer =>
    rw [answer]
    split <;> exact ⟨rfl, rfl, (List.append_nil _).symm⟩
  · next answer =>
    rw [answer]
    exact ⟨rfl, rfl, (List.append_nil _).symm⟩

def asked (s : Session) : List (Except Fault SocketAddress) :=
  if s.worker.mustResolve then [(s.network.resolve s.worker.policy.destination).1] else []

theorem recover_travels {s : Session} (going : s.recover.stalled = false) :
    s.Travels s.asked [latest s.worker.endpoint s.asked] s.recover := by
  have first : s.Travels s.asked [] (if s.worker.mustResolve then s.resolveAgain else s) := by
    rw [asked]
    split
    · exact s.resolveAgain_travels
    · exact travels_of_ledger rfl rfl
  rw [recover] at going ⊢
  generalize (if s.worker.mustResolve then s.resolveAgain else s) = t at first going ⊢
  obtain ⟨m, reached⟩ := connect_reached going
  obtain ⟨endpoint, resolves, connectedTo⟩ := reached.travels
  have onward : t.Travels [] [t.worker.endpoint] _ := ⟨endpoint, resolves, connectedTo⟩
  have whole := first.trans onward
  rw [first.endpoint, List.append_nil, List.nil_append] at whole
  exact whole

theorem sendSucceeded_travels (s : Session) : s.Travels [] [] s.sendSucceeded := by
  obtain ⟨_, _, _, same⟩ := s.sendSucceeded_eq
  rw [same]
  exact travels_of_ledger rfl rfl

theorem sendFailed_travels {s : Session} {fault : Fault}
    (going : (s.sendFailed fault).stalled = false) :
    s.Travels (s.giveUp fault).asked [latest s.worker.endpoint (s.giveUp fault).asked]
      (s.sendFailed fault) := by
  have waited : s.Travels [] [] (s.giveUp fault) := by
    have ledger : (s.giveUp fault).network.ledger = s.network.ledger.closes :=
      Network.ledger_changeAll _ _
    exact ⟨rfl, congrArg Ledger.resolves ledger,
      (congrArg Ledger.connectedTo ledger).trans (List.append_nil _).symm⟩
  rw [sendFailed] at going ⊢
  split at going
  · next stalled =>
    rw [stalled] at going
    cases going
  · next onward =>
    rw [if_neg onward]
    exact waited.trans (recover_travels going)

theorem linked_travels {s : Session} (online : s.Online) :
    s.Travels [] (if s.worker.link.isSome then [] else [s.worker.endpoint]) s.linked := by
  obtain ⟨same, link, here⟩ | ⟨none, m, reached⟩ := online.linked_cases
  · rw [same, here]
    exact travels_of_ledger rfl rfl
  · rw [none]
    exact reached.travels

end Session

structure Visit where
  outcome : Delivery
  answer : Except Fault SocketAddress

namespace Policy

/-- The answers to the resolutions that come with a line, after lines that ended as in `past`. -/
def answersTo (p : Policy) (past : List Delivery) (v : Visit) : List (Except Fault SocketAddress) :=
  if v.outcome = .lost ∧ 0 < p.resolveEvery ∧ p.resolveEvery ∣ past.count .lost + 1 then [v.answer]
  else []

def answers (p : Policy) : List Delivery → List Visit → List (Except Fault SocketAddress)
  | _, [] => []
  | past, v :: rest => p.answersTo past v ++ p.answers (past ++ [v.outcome]) rest

/-- The connections that come with a line, for a worker that knows the address `a`: one before the
first line that is not skipped, and one after each line that is lost. -/
def stopsOf (p : Policy) (past : List Delivery) (a : SocketAddress) (v : Visit) :
    List SocketAddress :=
  (if v.outcome = .skipped ∨ past.any (· ≠ .skipped) then [] else [a]) ++
    if v.outcome = .lost then [latest a (p.answersTo past v)] else []

def stops (p : Policy) : List Delivery → SocketAddress → List Visit → List SocketAddress
  | _, _, [] => []
  | past, a, v :: rest =>
    p.stopsOf past a v ++ p.stops (past ++ [v.outcome]) (latest a (p.answersTo past v)) rest

theorem length_answers (p : Policy) (past : List Delivery) (vs : List Visit) :
    past.count .lost / p.resolveEvery + (p.answers past vs).length =
      (past ++ vs.map (·.outcome)).count .lost / p.resolveEvery := by
  induction vs generalizing past with
  | nil => simp [answers]
  | cons v rest ih =>
    have later := ih (past ++ [v.outcome])
    rw [List.append_assoc, List.singleton_append] at later
    rw [answers, List.length_append, List.map_cons, ← later, ← Nat.add_assoc]
    congr 1
    rw [answersTo, List.count_append]
    by_cases lost : v.outcome = .lost
    · rw [lost, List.count_singleton_self, Nat.succ_div]
      by_cases due : p.resolveEvery ∣ past.count .lost + 1
      · have positive : 0 < p.resolveEvery := Nat.pos_of_dvd_of_pos due (Nat.succ_pos _)
        simp [due, positive]
      · simp [due]
    · rw [if_neg (fun h => lost h.1), List.count_singleton, if_neg (by simpa using lost)]
      rfl

end Policy

namespace Session

def visit (s : Session) (l : Line) : Visit where
  outcome := (s.deliver l).1
  answer := (s.network.resolve s.worker.policy.destination).1

def visits (s : Session) (calls : List (List NetChange × Line)) : List Visit :=
  (s.begun calls).map fun c => c.1.visit c.2

theorem visits_cons (s : Session) (call : List NetChange × Line)
    (rest : List (List NetChange × Line)) :
    s.visits (call :: rest) = (s.forecast call.1).visit call.2 ::
      ((s.forecast call.1).deliver call.2).2.visits rest := rfl

variable {policy : Policy} {h : List Delivery} {s : Session}

structure Underway (policy : Policy) (h : List Delivery) (s : Session) : Prop where
  sound : s.Sound policy h
  link : s.worker.link.isSome = h.any (· ≠ .skipped)

/-- The resolution after a failed send comes after every so many of them, and is answered as it
would have been before the call. -/
theorem Named.asked_giveUp {names : Option SocketAddress × Bool} (named : s.Named names)
    (policy_eq : s.worker.policy = policy) (lost : s.worker.lost = h.count .lost) (fault : Fault)
    {n : Network} (same : n.naming = names) :
    (s.giveUp fault).asked =
      policy.answersTo h ⟨.lost, (n.resolve policy.destination).1⟩ := by
  have policy_eq' : (s.giveUp fault).worker.policy = policy := policy_eq
  have answer : ((s.giveUp fault).network.resolve policy.destination).1 =
      (n.resolve policy.destination).1 :=
    Network.resolve_of_naming ((named.giveUp fault).naming.trans same.symm) _
  have counted : (s.giveUp fault).worker.lost = h.count .lost + 1 := congrArg (· + 1) lost
  rw [asked, Worker.mustResolve, policy_eq', answer, counted, Policy.answersTo]
  simp [Nat.dvd_iff_mod_eq_zero]

theorem transmit_travels (policy_eq : s.worker.policy = policy)
    (lost : s.worker.lost = h.count .lost) {names : Option SocketAddress × Bool}
    (named : s.Named names) {n : Network} (same : n.naming = names) {l : Line} {link : Nat}
    (going : (s.transmit l link).2.stalled = false) :
    let v : Visit := ⟨(s.transmit l link).1, (n.resolve policy.destination).1⟩
    s.Travels (policy.answersTo h v)
      (if v.outcome = .lost then [latest s.worker.endpoint (policy.answersTo h v)] else [])
      (s.transmit l link).2 := by
  have ledger := s.network.ledger_send s.worker.kind link l.bytes
  have naming := s.network.naming_send s.worker.kind link l.bytes
  cases answer : s.network.send s.worker.kind link l.bytes with
  | mk fault m =>
    rw [answer] at ledger naming
    have sent : s.Travels [] [] ({ s with network := m } : Session) :=
      travels_of_ledger rfl ledger
    have still : ({ s with network := m } : Session).Named names :=
      ⟨naming.trans named.naming, named.ahead⟩
    cases fault with
    | none =>
      rw [transmit_of_none answer]
      exact sent.trans (sendSucceeded_travels _)
    | some fault =>
      rw [transmit_of_some answer] at going ⊢
      -- A send changes nothing that a resolution looks at: the answer is that before the call.
      have whole := sent.trans (sendFailed_travels going)
      rw [still.asked_giveUp policy_eq lost fault same] at whole
      exact whole

theorem deliver_travels (underway : s.Underway policy h) (online : s.Online)
    {names : Option SocketAddress × Bool} (named : s.Named names) (l : Line) :
    s.Travels (policy.answersTo h (s.visit l)) (policy.stopsOf h s.worker.endpoint (s.visit l))
      (s.deliver l).2 := by
  by_cases empty : l.bytes = []
  · rw [visit, deliver_of_empty empty]
    exact travels_of_ledger rfl rfl
  · have linked := linked_travels online
    have ready := (underway.sound.linked online).1
    have tried := online.deliver_tried empty
    obtain ⟨link, _, sends⟩ := online.deliver_eq empty
    have going := (online.deliver l).2.going
    rw [sends] at going tried
    have sent := transmit_travels ready.policy_eq ready.lost named.linked named.naming going
    rw [visit, underway.sound.policy_eq, sends, Policy.stopsOf]
    have whole := linked.trans sent
    rw [linked.endpoint, latest_nil, underway.link, List.nil_append] at whole
    simpa [tried] using whole

theorem Underway.forecast (underway : s.Underway policy h) (weather : List NetChange) :
    (s.forecast weather).Underway policy h :=
  ⟨underway.sound.forecast weather, underway.link⟩

theorem Underway.deliver (underway : s.Underway policy h) (online : s.Online) (l : Line) :
    (s.deliver l).2.Underway policy (h ++ [(s.deliver l).1]) := by
  obtain ⟨sound, some, _⟩ := underway.sound.deliver online l
  refine ⟨sound, ?_⟩
  rw [List.any_append]
  by_cases empty : l.bytes = []
  · rw [deliver_of_empty empty, underway.link]
    exact (Bool.or_false _).symm
  · have tried := online.deliver_tried empty
    rw [some (.inr empty)]
    simp [tried]

theorem work_travels (underway : s.Underway policy h) (calm : s.Calm)
    (unnamed : ∀ cs ∈ s.pacer.ahead, ∀ c ∈ cs, c.renames = false)
    (calls : List (List NetChange × Line)) :
    s.Travels (policy.answers h (s.visits calls))
      (policy.stops h s.worker.endpoint (s.visits calls))
      (s.work (calls.map Turn.delivery)).2 := by
  induction calls generalizing s h with
  | nil => exact travels_of_ledger rfl rfl
  | cons call rest ih =>
    have online := calm.forecast call.1
    have ready := underway.forecast call.1
    have named : (s.forecast call.1).Named (s.forecast call.1).network.naming := ⟨rfl, unnamed⟩
    have changed : s.Travels [] [] (s.forecast call.1) :=
      travels_of_ledger rfl (ledger_forecast s call.1)
    have now := deliver_travels ready online named call.2
    have later := ih (ready.deliver online call.2) (calm.turn (.delivery call))
      (named.deliver call.2).ahead
    have whole := (changed.trans now).trans later
    rw [now.endpoint] at whole
    rw [visits_cons, List.map_cons, work_cons calm.going]
    exact whole

/-- How often a run has asked for the destination, and that it always went by the last answer. -/
structure Guided (policy : Policy) (s : Session) (calls : List (List NetChange × Line)) : Prop where
  returned : (s.work (calls.map Turn.delivery)).2.stalled = false
  faithful : s.Faithful ((calls.map Turn.delivery).map Turn.clear)
  outcomes : (s.work (calls.map Turn.delivery)).1.map (·.outcome) =
    (s.visits calls).map (·.outcome)
  asked : (s.work (calls.map Turn.delivery)).2.network.resolves =
    1 + (policy.answers [] (s.visits calls)).length
  resolves : (s.work (calls.map Turn.delivery)).2.network.resolves =
    if policy.resolveEvery = 0 then 1
    else 1 + ((s.work (calls.map Turn.delivery)).1.map (·.outcome)).count .lost /
      policy.resolveEvery
  endpoint : (s.work (calls.map Turn.delivery)).2.worker.endpoint =
    latest s.worker.endpoint (policy.answers [] (s.visits calls))
  connectedTo : (s.work (calls.map Turn.delivery)).2.network.connectedTo =
    policy.stops [] s.worker.endpoint (s.visits calls)

theorem route_of_start {kind : Transport} {endpoint : Option SocketAddress}
    {weather : List NetChange} {pacer : Pacer}
    (started : start kind policy ((Network.fresh endpoint).changeAll weather) pacer =
      .started s) :
    (((Network.fresh endpoint).changeAll weather).resolve policy.destination).1 =
        .ok s.worker.endpoint ∧
      s.network.resolves = 1 ∧ s.network.connectedTo = [] ∧ s.pacer = pacer := by
  have ledger := Network.ledger_changeAll (Network.fresh endpoint) weather
  obtain ⟨_, _, found, rfl⟩ := start_eq started
  exact ⟨found, congrArg (·.resolves + 1) ledger, congrArg Ledger.connectedTo ledger, rfl⟩

theorem underway_of_start {kind : Transport} {endpoint : Option SocketAddress}
    {weather : List NetChange} {pacer : Pacer}
    (started : start kind policy ((Network.fresh endpoint).changeAll weather) pacer =
      .started s) : s.Underway policy [] := by
  have sound := (sound_of_start started).1
  obtain ⟨_, _, _, rfl⟩ := start_eq started
  exact ⟨sound, rfl⟩

theorem work_guided {kind : Transport} {endpoint : Option SocketAddress}
    {weather : List NetChange} {pacer : Pacer}
    (started : start kind policy ((Network.fresh endpoint).changeAll weather) pacer =
      .started s)
    (steady : ∀ cs ∈ pacer.ahead, .online false ∉ cs)
    (unnamed : ∀ cs ∈ pacer.ahead, ∀ c ∈ cs, c.renames = false) (endless : pacer.limit = none)
    (calls : List (List NetChange × Line)) :
    (((Network.fresh endpoint).changeAll weather).resolve policy.destination).1 =
        .ok s.worker.endpoint ∧
      Guided policy s calls := by
  obtain ⟨first, resolves, connectedTo, same⟩ := route_of_start started
  have calm := calm_of_start started steady endless
  have travels :=
    work_travels (underway_of_start started) calm (by rw [same]; exact unnamed) calls
  have asked := policy.length_answers [] (s.visits calls)
  have outcomes : (s.work (calls.map Turn.delivery)).1.map (·.outcome) =
      (s.visits calls).map (·.outcome) := by
    rw [calm.work_eq_begun, visits, List.map_map, List.map_map]
    rfl
  rw [List.count_nil, Nat.zero_div, Nat.zero_add, List.nil_append, ← outcomes] at asked
  refine ⟨first, ?_⟩
  exact
    { returned := (calm.work _).going
      faithful := run_faithful s _
      outcomes := outcomes
      asked := by rw [travels.resolves, resolves]
      resolves := by
        rw [travels.resolves, resolves, asked]
        split
        · next never => rw [never, Nat.div_zero]
        · rfl
      endpoint := travels.endpoint
      connectedTo := by rw [travels.connectedTo, connectedTo, List.nil_append] }

theorem work_guided_of_move :
    let policy : Policy :=
      ⟨⟨"collector.test", 514⟩, .connecting, .sending, 2, 50, .ofMillis 5000⟩
    let moved : SocketAddress := ⟨.v4 192 0 2 99, 514⟩
    let calls := [([], Line.ofText "a"), ([.unresolvable true], Line.ofText "b"), ([], Line.empty),
      ([.unresolvable false, .endpoint moved], Line.ofText "c"), ([], Line.ofText "d"),
      ([], Line.ofText "e")]
    ∃ s, start .udp policy ((Network.fresh (some Network.collector)).changeAll [.sendFailures 4])
        { Pacer.startingAt 0 .brisk with ahead := [[.refusals 1]] } = .started s ∧
      (s.work (calls.map Turn.delivery)).1.map (·.outcome) =
        [.lost, .lost, .skipped, .lost, .lost, .sent] ∧
      (s.work (calls.map Turn.delivery)).2.worker.endpoint = moved ∧
      (((Network.fresh (some Network.collector)).changeAll [.sendFailures 4]).resolve
        policy.destination).1 = .ok s.worker.endpoint ∧
      Guided policy s calls :=
  ⟨_, rfl, by decide +kernel, by decide +kernel,
    @work_guided _ _ .udp (some Network.collector) [.sendFailures 4]
      { Pacer.startingAt 0 .brisk with ahead := [[.refusals 1]] } rfl (by simp)
      (by simp [NetChange.renames]) rfl _⟩

end Session

end LogRelay
