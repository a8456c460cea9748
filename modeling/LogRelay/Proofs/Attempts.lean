import LogRelay.Worker
import LogRelay.Proofs.Traffic

/-!
Trying to connect. The attempts end with a new last connection, or the worker stalls; apart from
its link, its phase and its connect schedule the worker stays as it is, and so does all that the
network has received. Among a network that is up and is not taken down while the worker sleeps, with
a pacer that does not end, no worker stalls.
-/

namespace LogRelay

/-- The workers differ at most in what an attempt to connect sets. -/
def Worker.Relinked (w v : Worker) : Prop :=
  ∃ link phase retry, v = { w with link := link, phase := phase, connectRetry := retry }

theorem Worker.Relinked.refl (w : Worker) : w.Relinked w :=
  ⟨_, _, _, rfl⟩

theorem Worker.Relinked.trans {u v w : Worker} (first : u.Relinked v) (second : v.Relinked w) :
    u.Relinked w := by
  obtain ⟨_, _, _, rfl⟩ := first
  obtain ⟨_, _, _, rfl⟩ := second
  exact ⟨_, _, _, rfl⟩

namespace Session

def opened (s : Session) (network : Network) (link : Nat) : Session :=
  ({ s with network := network }.established link).note .info
    s!"connected to {s.worker.endpoint.text}"

def turnedAway (s : Session) (network : Network) (fault : Fault) : Session :=
  { s with network := network }.refused fault

theorem tryConnect_of_ok {s : Session} {link : Nat} {network : Network}
    (attempt : s.network.connect s.worker.kind s.worker.endpoint = (.ok link, network)) :
    s.tryConnect = s.opened network link := by
  rw [tryConnect]
  split
  · next same => rw [attempt] at same; cases same; rfl
  · next same => rw [attempt] at same; cases same

theorem tryConnect_of_error {s : Session} {fault : Fault} {network : Network}
    (attempt : s.network.connect s.worker.kind s.worker.endpoint = (.error fault, network)) :
    s.tryConnect =
      if (s.turnedAway network fault).stalled ∨ s.hopeless then
        { s.turnedAway network fault with stalled := true }
      else (s.turnedAway network fault).tryConnect := by
  rw [tryConnect]
  split
  · next same => rw [attempt] at same; cases same
  · next same =>
    rw [attempt] at same
    cases same
    dsimp only
    split
    · next stalled =>
      rw [if_pos (.inl stalled)]
      exact congrArg (fun b => { s.turnedAway network fault with stalled := b }) stalled
    · next going =>
      split
      · next hope => rw [if_pos (.inr hope)]; rfl
      · next hope => rw [if_neg (fun h => h.elim going hope)]; rfl

/-- Induction over the attempts: `P` holds before each of them and `Q` after the last. -/
theorem tryConnect_induction {P Q : Session → Prop}
    (opens : ∀ {s : Session} {link network},
      s.network.connect s.worker.kind s.worker.endpoint = (.ok link, network) → P s →
        Q (s.opened network link))
    (stops : ∀ {s : Session} {fault network},
      s.network.connect s.worker.kind s.worker.endpoint = (.error fault, network) → P s →
        (s.turnedAway network fault).stalled = true ∨ s.hopeless = true →
          Q { s.turnedAway network fault with stalled := true })
    (goesOn : ∀ {s : Session} {fault network},
      s.network.connect s.worker.kind s.worker.endpoint = (.error fault, network) → P s →
        P (s.turnedAway network fault))
    {s : Session} (start : P s) : Q s.tryConnect := by
  induction s using tryConnect.induct with
  | case1 s link network attempt =>
    rw [tryConnect_of_ok attempt]
    exact opens attempt start
  | case2 s fault network attempt after stalled =>
    rw [tryConnect_of_error attempt, if_pos (.inl stalled)]
    exact stops attempt start (.inl stalled)
  | case3 s fault network attempt after going hope =>
    rw [tryConnect_of_error attempt, if_pos (.inr hope)]
    exact stops attempt start (.inr hope)
  | case4 s fault network attempt after going hope ih =>
    rw [tryConnect_of_error attempt, if_neg (fun h => h.elim going hope)]
    exact ih (goesOn attempt start)

theorem worker_opened (s : Session) (network : Network) (link : Nat) :
    (s.opened network link).worker =
      { s.worker with
        link := some link, connectRetry := s.worker.connectRetry.reset, phase := .connected } :=
  rfl

theorem worker_turnedAway (s : Session) (network : Network) (fault : Fault) :
    (s.turnedAway network fault).worker =
      { s.worker with connectRetry := s.worker.connectRetry.advance } :=
  rfl

theorem traffic_opened (s : Session) (network : Network) (link : Nat) :
    (s.opened network link).network.traffic = network.traffic := by
  rw [opened, note, established]
  dsimp only
  split <;> rfl

theorem traffic_turnedAway (s : Session) (network : Network) (fault : Fault) :
    (s.turnedAway network fault).network.traffic = network.traffic :=
  network.traffic_changeAll _

theorem worker_tryConnect (s : Session) : s.worker.Relinked s.tryConnect.worker := by
  refine tryConnect_induction (P := (s.worker.Relinked ·.worker))
    (Q := (s.worker.Relinked ·.worker)) ?_ ?_ ?_ (.refl _)
  · intro t link network _ same
    exact same.trans ⟨_, _, _, worker_opened t network link⟩
  · intro t fault network _ same _
    exact same.trans ⟨_, _, _, worker_turnedAway t network fault⟩
  · intro t fault network _ same
    exact same.trans ⟨_, _, _, worker_turnedAway t network fault⟩

/-- The attempts have opened one connection, or the worker has stalled without one. -/
inductive Tried (s t : Session) : Prop where
  | opened (link : t.worker.link = some s.network.connections.length)
      (traffic : t.network.traffic = (s.network.connections ++ [[]], s.network.datagrams))
  | stalled (link : t.worker.link = s.worker.link)
      (traffic : t.network.traffic = s.network.traffic) (stalled : t.stalled = true)

theorem tried_tryConnect (s : Session) : s.Tried s.tryConnect := by
  refine tryConnect_induction (Q := s.Tried)
    (P := fun t => t.worker.link = s.worker.link ∧ t.network.traffic = s.network.traffic)
    ?_ ?_ ?_ ⟨rfl, rfl⟩
  · rintro t link network attempt ⟨_, traffic⟩
    obtain ⟨place, grown, _⟩ := Network.connect_opened attempt
    have connections : t.network.connections = s.network.connections := congrArg Prod.fst traffic
    have datagrams : t.network.datagrams = s.network.datagrams := congrArg Prod.snd traffic
    refine .opened ?_ ?_
    · rw [worker_opened, place, connections]
    · rw [traffic_opened, grown, connections, datagrams]
  · rintro t fault network attempt ⟨link, traffic⟩ _
    have refused := (Network.connect_refused attempt).1
    exact .stalled link ((t.traffic_turnedAway network fault).trans (refused.trans traffic)) rfl
  · rintro t fault network attempt ⟨link, traffic⟩
    have refused := (Network.connect_refused attempt).1
    exact ⟨link, (t.traffic_turnedAway network fault).trans (refused.trans traffic)⟩

/-- Calls come to an end: the network is up, nothing that happens to it during a sleep takes it
down, and the pacer sets no limit. -/
structure Online (s : Session) : Prop where
  going : s.stalled = false
  up : s.network.uplink = .up
  steady : ∀ cs ∈ s.pacer.ahead, .online false ∉ cs
  endless : s.pacer.limit = none

theorem ended_sleep {p : Pacer} (endless : p.limit = none) (d : Duration) :
    (p.sleep d).ended = false := by
  simp only [Pacer.ended, Pacer.sleep, endless]

namespace Online

variable {s : Session}

theorem among (h : s.Online) {network : Network} (same : network.uplink = s.network.uplink) :
    ({ s with network := network } : Session).Online :=
  ⟨h.going, same.trans h.up, h.steady, h.endless⟩

theorem sleep (h : s.Online) (d : Duration) : (s.sleep d).Online where
  going := by rw [Session.sleep, h.going, ended_sleep h.endless]; rfl
  up := by
    have steady := h.steady
    rw [Session.sleep]
    dsimp only
    cases ahead : s.pacer.ahead with
    | nil => exact h.up
    | cons cs rest =>
      rw [ahead] at steady
      exact Network.uplink_changeAll h.up (steady cs List.mem_cons_self)
  steady := fun cs mem => h.steady cs (List.mem_of_mem_tail mem)
  endless := h.endless

theorem opened (h : s.Online) {network : Network} (up : network.uplink = .up) (link : Nat) :
    (s.opened network link).Online where
  going := h.going
  up := by
    rw [Session.opened, note, established]
    dsimp only
    split <;> exact up
  steady := h.steady
  endless := h.endless

theorem turnedAway (h : s.Online) {network : Network} (up : network.uplink = .up)
    (fault : Fault) : (s.turnedAway network fault).Online := by
  refine sleep ?_ _
  exact ⟨h.going, up, h.steady, h.endless⟩

theorem hopeful (h : s.Online) : s.hopeless = false := by
  simp [hopeless, Network.barrier?, h.up]

theorem tryConnect (h : s.Online) : s.tryConnect.Online := by
  refine tryConnect_induction (P := Online) (Q := Online) ?_ ?_ ?_ h
  · intro t link network attempt online
    exact online.opened ((Network.connect_opened attempt).2.2.trans online.up) link
  · intro t fault network attempt online stuck
    have up := (Network.connect_refused attempt).2.trans online.up
    rw [(online.turnedAway up fault).going, online.hopeful] at stuck
    simp at stuck
  · intro t fault network attempt online
    exact online.turnedAway ((Network.connect_refused attempt).2.trans online.up) fault

end Online

end Session

end LogRelay
