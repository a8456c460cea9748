import LogRelay.Proofs.Framing

/-!
A worker that is called again and again. The network may change in every way before a call and
during it; a run ends early with a call that does not return. Where the network is up when a call
begins and is not taken down while the worker sleeps, and the pacer sets no limit, every call
returns.
-/

namespace LogRelay.Session

inductive Errand where
  | deliver (l : Line)
  | connect

/-- A call and what happens to the network before it. -/
structure Turn where
  weather : List NetChange
  errand : Errand

namespace Turn

def line? (t : Turn) : Option Line :=
  match t.errand with
  | .deliver l => some l
  | .connect => none

def delivery (call : List NetChange × Line) : Turn :=
  ⟨call.1, .deliver call.2⟩

def clear (t : Turn) : Turn :=
  { t with weather := t.weather ++ [.online true] }

end Turn

def under (s : Session) (weather : List NetChange) : Session :=
  { s with network := s.network.changeAll weather }

def forecast (s : Session) (weather : List NetChange) : Session :=
  s.under (weather ++ [.online true])

def turn (s : Session) (t : Turn) : List Passage × Session :=
  let s := s.under t.weather
  match t.errand with
  | .deliver l => ([s.passage l], (s.deliver l).2)
  | .connect => ([], s.connect)

/-- What becomes of the lines of all calls that begin, and the session after the last one. -/
def run : Session → List Turn → List Passage × Session
  | s, [] => ([], s)
  | s, t :: rest =>
    if s.stalled then ([], s)
    else
      let (now, after) := s.turn t
      let (later, last) := run after rest
      (now ++ later, last)

/-- A run with the network up whenever a call begins. -/
def work (s : Session) (turns : List Turn) : List Passage × Session :=
  s.run (turns.map Turn.clear)

theorem run_of_stalled {s : Session} (stalled : s.stalled = true) (turns : List Turn) :
    s.run turns = ([], s) := by
  cases turns with
  | nil => rfl
  | cons t rest => rw [run, if_pos stalled]

theorem run_cons {s : Session} (going : s.stalled = false) (t : Turn) (rest : List Turn) :
    s.run (t :: rest) =
      ((s.turn t).1 ++ ((s.turn t).2.run rest).1, ((s.turn t).2.run rest).2) := by
  rw [run, if_neg (by rw [going]; exact Bool.false_ne_true)]

theorem work_cons {s : Session} (going : s.stalled = false) (t : Turn) (rest : List Turn) :
    s.work (t :: rest) = ((s.turn t.clear).1 ++ ((s.turn t.clear).2.work rest).1,
      ((s.turn t.clear).2.work rest).2) :=
  run_cons going t.clear _

/-- Every entry of a history belongs to one of the calls, and reports of its line what the network
answered to it. -/
def Faithful (s : Session) (turns : List Turn) : Prop :=
  ∀ past p future, (s.run turns).1 = past ++ p :: future →
    ∃ before weather later, turns = before ++ ⟨weather, .deliver p.line⟩ :: later ∧
      (s.run before).1 = past ∧ p = ((s.run before).2.under weather).passage p.line ∧
      ((s.run before).2.under weather).Reported p.line

theorem run_faithful (s : Session) (turns : List Turn) : s.Faithful turns := by
  induction turns generalizing s with
  | nil =>
    intro past p future split
    exact absurd split.symm (by simp [run])
  | cons t rest ih =>
    intro past p future split
    cases going : s.stalled with
    | true =>
      rw [run_of_stalled going] at split
      exact absurd split.symm (by simp)
    | false =>
      rw [run_cons going] at split
      -- A later call was made from the session that the first one left.
      have later {past' : List Passage} (whole : (s.turn t).1 ++ past' = past)
          (rest' : ((s.turn t).2.run rest).1 = past' ++ p :: future) :
          ∃ before weather later, t :: rest = before ++ ⟨weather, .deliver p.line⟩ :: later ∧
            (s.run before).1 = past ∧ p = ((s.run before).2.under weather).passage p.line ∧
            ((s.run before).2.under weather).Reported p.line := by
        obtain ⟨before, weather, later, rfl, rfl, same, reported⟩ :=
          ih (s.turn t).2 _ p future rest'
        refine ⟨t :: before, weather, later, rfl, ?_⟩
        rw [run_cons going]
        exact ⟨whole, same, reported⟩
      obtain ⟨weather, errand⟩ := t
      cases errand with
      | connect => exact later rfl split
      | deliver l =>
        cases past with
        | nil =>
          obtain ⟨rfl, -⟩ := List.cons.inj split
          exact ⟨[], weather, rest, rfl, rfl, rfl, reported_deliver _ l⟩
        | cons q past =>
          obtain ⟨rfl, rest'⟩ := List.cons.inj split
          exact later rfl rest'

/-- As `Online`, whatever the network is like. -/
structure Calm (s : Session) : Prop where
  going : s.stalled = false
  steady : ∀ cs ∈ s.pacer.ahead, .online false ∉ cs
  endless : s.pacer.limit = none

theorem Online.calm {s : Session} (h : s.Online) : s.Calm :=
  ⟨h.going, h.steady, h.endless⟩

theorem Calm.forecast {s : Session} (h : s.Calm) (weather : List NetChange) :
    (s.forecast weather).Online where
  going := h.going
  up := by
    rw [Session.forecast, under, Network.changeAll, List.foldl_append]
    rfl
  steady := h.steady
  endless := h.endless

theorem Calm.turn {s : Session} (calm : s.Calm) (t : Turn) : (s.turn t.clear).2.Calm := by
  have online := calm.forecast t.weather
  obtain ⟨weather, errand⟩ := t
  cases errand with
  | deliver l => exact (online.deliver l).2.calm
  | connect => exact online.connect.calm

theorem Calm.work {s : Session} (calm : s.Calm) (turns : List Turn) : (s.work turns).2.Calm := by
  induction turns generalizing s with
  | nil => exact calm
  | cons t rest ih =>
    rw [work_cons calm.going]
    exact ih (calm.turn t)

theorem Calm.lines_work {s : Session} (calm : s.Calm) (turns : List Turn) :
    (s.work turns).1.map (·.line) = turns.filterMap Turn.line? := by
  induction turns generalizing s with
  | nil => rfl
  | cons t rest ih =>
    have later := ih (calm.turn t)
    rw [work_cons calm.going, List.map_append, later]
    obtain ⟨weather, errand⟩ := t
    cases errand <;> rfl

/-- The sessions in which the deliveries of a run begin, with their lines. -/
def begun : Session → List (List NetChange × Line) → List (Session × Line)
  | _, [] => []
  | s, call :: rest =>
    (s.forecast call.1, call.2) :: begun (s.turn (Turn.delivery call).clear).2 rest

theorem Calm.work_eq_begun {s : Session} (calm : s.Calm) (calls : List (List NetChange × Line)) :
    (s.work (calls.map Turn.delivery)).1 = (s.begun calls).map fun c => c.1.passage c.2 := by
  induction calls generalizing s with
  | nil => rfl
  | cons call rest ih =>
    rw [List.map_cons, work_cons calm.going, ih (calm.turn _)]
    rfl

theorem traffic_forecast (s : Session) (weather : List NetChange) :
    (s.forecast weather).network.traffic = s.network.traffic :=
  Network.traffic_changeAll _ _

theorem calm_of_start {kind : Transport} {policy : Policy} {network : Network} {pacer : Pacer}
    {s : Session} (started : start kind policy network pacer = .started s)
    (steady : ∀ cs ∈ pacer.ahead, .online false ∉ cs) (endless : pacer.limit = none) :
    s.Calm := by
  obtain ⟨_, _, _, rfl⟩ := start_eq started
  exact ⟨rfl, steady, endless⟩

theorem start_calm {kind : Transport} {policy : Policy} {network : Network} {clock : Nat}
    {tempo : Tempo} {s : Session}
    (started : start kind policy network (.startingAt clock tempo) = .started s) : s.Calm :=
  calm_of_start started nofun rfl

section

variable {kind : Transport} {h : List Passage} {s : Session}

theorem forecast_accounts (accounts : s.Accounts kind h) (weather : List NetChange) :
    (s.forecast weather).Accounts kind h ∧ s.Keeps (s.forecast weather) := by
  have traffic := traffic_forecast s weather
  exact ⟨accounts.of_traffic rfl rfl traffic, .of_traffic rfl traffic⟩

theorem turn_accounts (calm : s.Calm) (accounts : s.Accounts kind h) (t : Turn) :
    s.Keeps (s.turn t.clear).2 ∧ (s.turn t.clear).2.Accounts kind (h ++ (s.turn t.clear).1) := by
  have online := calm.forecast t.weather
  obtain ⟨before, keeps⟩ := forecast_accounts accounts t.weather
  obtain ⟨weather, errand⟩ := t
  cases errand with
  | deliver l =>
    obtain ⟨after, keeps'⟩ := deliver_accounts before (online.deliver l).1
    exact ⟨keeps.trans keeps', after⟩
  | connect =>
    obtain ⟨after, keeps'⟩ := connect_accounts before
    refine ⟨keeps.trans keeps', ?_⟩
    exact (List.append_nil h).symm ▸ after

theorem work_accounts (calm : s.Calm) (accounts : s.Accounts kind h) (turns : List Turn) :
    s.Keeps (s.work turns).2 ∧ (s.work turns).2.Accounts kind (h ++ (s.work turns).1) := by
  induction turns generalizing s h with
  | nil => exact ⟨.refl s, (List.append_nil h).symm ▸ accounts⟩
  | cons t rest ih =>
    obtain ⟨keeps, after⟩ := turn_accounts calm accounts t
    obtain ⟨keeps', last⟩ := ih (calm.turn t) after
    rw [List.append_assoc] at last
    rw [work_cons calm.going]
    exact ⟨keeps.trans keeps', last⟩

end

/-- The network has received the lines that were sent, each whole, and of a line that was lost at
most a proper prefix, with nothing after it on its connection. -/
structure FramedRun (kind : Transport) (s : Session) (turns : List Turn) : Prop where
  handed : (s.work turns).1.map (·.line) = turns.filterMap Turn.line?
  settled : ∀ p ∈ (s.work turns).1,
    p.Settled (s.work turns).2.network.connections.length
  datagrams : (s.work turns).2.network.datagrams =
    if kind = .udp then (sentLines (s.work turns).1).map (·.bytes) else []
  carried : ∀ i b, (s.work turns).2.network.connections[i]? = some b →
    Carried (along (s.work turns).1 i) b
  closed : ∀ i, (∃ p ∈ along (s.work turns).1 i, p.outcome = .lost) → ∀ more,
    ((s.work turns).2.work more).2.network.connections[i]? =
      (s.work turns).2.network.connections[i]?

theorem work_framed {kind : Transport} {policy : Policy} {endpoint : Option SocketAddress}
    {weather : List NetChange} {clock : Nat} {tempo : Tempo} {s : Session}
    (started : start kind policy ((Network.fresh endpoint).changeAll weather)
      (.startingAt clock tempo) = .started s) (turns : List Turn) :
    FramedRun kind s turns := by
  have calm := start_calm started
  obtain ⟨_, accounts⟩ := work_accounts calm (start_accounts started) turns
  rw [List.nil_append] at accounts
  refine ⟨calm.lines_work turns, accounts.framed.settled, ?_, accounts.framed.carried, ?_⟩
  · rw [accounts.framed.arrived]
    exact flatMap_arrivalsOf kind _
  · rintro i ⟨p, mem, lost⟩ more
    have place : p.link = some i := by simpa using (List.mem_filter.mp mem).2
    have lt : i < (s.work turns).2.network.connections.length := by
      obtain ⟨_, _, free⟩ | ⟨_, _, j, lt, taken⟩ :=
        accounts.framed.settled p (List.mem_filter.mp mem).1
      · rw [free] at place
        cases place
      · rw [taken] at place
        cases place
        exact lt
    have past : (s.work turns).2.worker.link ≠ some i := by
      intro current
      have sent := (accounts.framed.current i current).2 p mem
      rw [lost] at sent
      cases sent
    exact ((work_accounts (calm.work turns) accounts more).1.kept i lt past).1

theorem work_framed_of_reset :
    let turns : List Turn :=
      [⟨[.refusals 1], .deliver (Line.ofText "ab")⟩, ⟨[], .deliver (Line.ofText "cdef")⟩,
        ⟨[.budget none, .maxChunk (some 1)], .deliver (Line.ofText "g")⟩]
    ∃ s, start .tcp ⟨⟨"collector.test", 514⟩, .connecting, .sending, 10, 50, .ofMillis 5000⟩
        ((Network.fresh (some Network.collector)).changeAll [.budget (some 5)])
        (.startingAt 0 .brisk) = .started s ∧
      (s.work turns).1.map (·.outcome) = [.sent, .lost, .sent] ∧ FramedRun .tcp s turns :=
  ⟨_, rfl, by decide +kernel,
    @work_framed .tcp _ (some Network.collector) [.budget (some 5)] 0 .brisk _ rfl _⟩

end LogRelay.Session
