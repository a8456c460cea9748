import LogRelay.Proofs.Attempts

/-!
What a delivery does to the worker and to what the network has received. Each operation of a session
has its own lemmas here; failed sends are counted one by one, and a link that failed is given up
before the next one is opened.
-/

namespace LogRelay

/-- The workers differ at most in what a recovery sets. -/
def Worker.Rerouted (w v : Worker) : Prop :=
  ∃ endpoint, { w with endpoint := endpoint }.Relinked v

theorem Worker.Rerouted.kind_eq {w v : Worker} (h : w.Rerouted v) : v.kind = w.kind := by
  obtain ⟨_, _, _, _, rfl⟩ := h
  rfl

theorem Worker.Rerouted.lost_eq {w v : Worker} (h : w.Rerouted v) : v.lost = w.lost := by
  obtain ⟨_, _, _, _, rfl⟩ := h
  rfl

theorem Worker.Rerouted.trans {u v w : Worker} (first : u.Rerouted v) (second : v.Rerouted w) :
    u.Rerouted w := by
  obtain ⟨_, _, _, _, rfl⟩ := first
  obtain ⟨_, _, _, _, rfl⟩ := second
  exact ⟨_, _, _, _, rfl⟩

namespace Session

theorem start_eq {kind : Transport} {policy : Policy} {network : Network} {pacer : Pacer}
    {s : Session} (started : start kind policy network pacer = .started s) :
    ∃ endpoint journal, (network.resolve policy.destination).1 = .ok endpoint ∧
      s = ⟨Worker.create kind policy endpoint, (network.resolve policy.destination).2, pacer,
        journal, false⟩ := by
  rw [start] at started
  dsimp only at started
  split at started
  · cases started
  · next endpoint found =>
    cases started
    exact ⟨endpoint, _, found, rfl⟩

theorem worker_connect (s : Session) : s.worker.Rerouted s.connect.worker := by
  obtain ⟨_, _, _, same⟩ :=
    worker_tryConnect { s with worker := { s.worker with phase := .connecting } }
  exact ⟨s.worker.endpoint, _, _, _, same⟩

theorem Tried.of_traffic {s s' t : Session} (tried : s.Tried t)
    (link : s'.worker.link = s.worker.link) (traffic : s'.network.traffic = s.network.traffic) :
    s'.Tried t := by
  have connections : s'.network.connections = s.network.connections := congrArg Prod.fst traffic
  have datagrams : s'.network.datagrams = s.network.datagrams := congrArg Prod.snd traffic
  obtain ⟨here, grown⟩ | ⟨here, grown, stalled⟩ := tried
  · exact .opened (by rw [here, connections]) (by rw [grown, connections, datagrams])
  · exact .stalled (by rw [here, link]) (by rw [grown, traffic]) stalled

theorem tried_connect (s : Session) : s.Tried s.connect := by
  exact (tried_tryConnect { s with worker := { s.worker with phase := .connecting } }).of_traffic
    rfl rfl

theorem resolveAgain_eq (s : Session) :
    ∃ endpoint journal, s.resolveAgain =
      { s with
        network := (s.network.resolve s.worker.policy.destination).2
        worker := { s.worker with endpoint := endpoint, phase := .connecting }
        journal := journal } := by
  rw [resolveAgain]
  dsimp only
  split
  · next endpoint _ =>
    refine ⟨endpoint, ?_⟩
    split <;> exact ⟨_, rfl⟩
  · exact ⟨s.worker.endpoint, _, rfl⟩

structure Readdressed (s t : Session) : Prop where
  worker : s.worker.Rerouted t.worker
  link : t.worker.link = s.worker.link
  traffic : t.network.traffic = s.network.traffic
  uplink : t.network.uplink = s.network.uplink
  pacer : t.pacer = s.pacer
  stalled : t.stalled = s.stalled

theorem recover_eq (s : Session) : ∃ t, s.Readdressed t ∧ s.recover = t.connect := by
  rw [recover]
  split
  · obtain ⟨endpoint, journal, again⟩ := s.resolveAgain_eq
    rw [again]
    refine ⟨_, ?_, rfl⟩
    exact ⟨⟨endpoint, _, _, _, rfl⟩, rfl, rfl, rfl, rfl, rfl⟩
  · refine ⟨_, ?_, rfl⟩
    exact ⟨⟨s.worker.endpoint, _, _, _, rfl⟩, rfl, rfl, rfl, rfl, rfl⟩

theorem worker_recover (s : Session) : s.worker.Rerouted s.recover.worker := by
  obtain ⟨t, same, recovery⟩ := s.recover_eq
  rw [recovery]
  exact same.worker.trans t.worker_connect

theorem tried_recover (s : Session) : s.Tried s.recover := by
  obtain ⟨t, same, recovery⟩ := s.recover_eq
  rw [recovery]
  exact t.tried_connect.of_traffic same.link.symm same.traffic.symm

theorem traffic_giveUp (s : Session) (fault : Fault) :
    (s.giveUp fault).network.traffic = s.network.traffic :=
  Network.traffic_changeAll _ _

theorem worker_sendFailed (s : Session) (fault : Fault) :
    (s.giveUp fault).worker.Rerouted (s.sendFailed fault).worker := by
  rw [sendFailed]
  split
  · exact ⟨_, _, _, _, rfl⟩
  · exact worker_recover _

theorem tried_sendFailed (s : Session) (fault : Fault) :
    (s.giveUp fault).Tried (s.sendFailed fault) := by
  rw [sendFailed]
  split
  · next stalled => exact .stalled rfl rfl stalled
  · exact tried_recover _

theorem sendSucceeded_eq (s : Session) :
    ∃ sinceYield overflowed yields, s.sendSucceeded =
      { s with
        worker := { s.worker with
          streak := 0, sendRetry := s.worker.sendRetry.reset
          sinceYield := sinceYield, overflowed := overflowed }
        pacer := { s.pacer with yields := yields } } := by
  rw [sendSucceeded, Worker.afterSend]
  dsimp only
  split <;> exact ⟨_, _, _, rfl⟩

theorem worker_resume (s : Session) : s.worker.Rerouted s.resume.worker := by
  rw [resume]
  dsimp only
  split
  · obtain ⟨_, _, _, same⟩ := worker_tryConnect { s with stalled := false }
    exact ⟨_, _, _, _, same⟩
  · exact worker_recover { s with stalled := false }
  · exact worker_recover { s with stalled := false }

theorem tried_resume (s : Session) : s.Tried s.resume := by
  have going {t : Session} (tried : Tried { s with stalled := false } t) : s.Tried t :=
    tried.of_traffic rfl rfl
  rw [resume]
  dsimp only
  split
  · exact going (tried_tryConnect _)
  · exact going (tried_recover _)
  · exact going (tried_recover _)

theorem worker_linked (s : Session) : s.worker.Rerouted s.linked.worker := by
  rw [linked]
  split
  · exact worker_connect s
  · exact ⟨_, _, _, _, rfl⟩

theorem transmit_of_none {s : Session} {l : Line} {i : Nat} {m : Network}
    (h : s.network.send s.worker.kind i l.bytes = (none, m)) :
    s.transmit l i = (.sent, { s with network := m }.sendSucceeded) := by
  rw [transmit, h]

theorem transmit_of_some {s : Session} {l : Line} {i : Nat} {fault : Fault} {m : Network}
    (h : s.network.send s.worker.kind i l.bytes = (some fault, m)) :
    s.transmit l i = (.lost, { s with network := m }.sendFailed fault) := by
  rw [transmit, h]

theorem lost_transmit (s : Session) (l : Line) (link : Nat) :
    ((s.transmit l link).1 = .sent ∧ (s.transmit l link).2.worker.lost = s.worker.lost) ∨
      ((s.transmit l link).1 = .lost ∧ (s.transmit l link).2.worker.lost = s.worker.lost + 1) := by
  rw [transmit]
  split
  · next network _ =>
    obtain ⟨_, _, _, same⟩ := { s with network := network }.sendSucceeded_eq
    exact .inl ⟨rfl, by rw [same]⟩
  · next fault network _ =>
    have counted := ({ s with network := network }.worker_sendFailed fault).lost_eq
    exact .inr ⟨rfl, counted⟩

theorem deliver_of_empty {l : Line} (empty : l.bytes = []) (s : Session) :
    s.deliver l = (.skipped, s) := by
  rw [deliver, if_pos (l.isEmpty_iff.mpr empty)]

theorem deliver_of_text {l : Line} (text : l.bytes ≠ []) (s : Session) :
    s.deliver l = (.withheld, s.linked) ∨
      ∃ link, s.linked.worker.link = some link ∧ s.deliver l = s.linked.transmit l link := by
  rw [deliver, if_neg (fun empty => text (l.isEmpty_iff.mp empty))]
  dsimp only
  split
  · next link here =>
    split
    · exact .inl rfl
    · exact .inr ⟨link, here, rfl⟩
  · exact .inl rfl

theorem deliver_of_link {s : Session} {l : Line} {link : Nat} (text : l.bytes ≠ [])
    (here : s.linked.worker.link = some link) (going : s.linked.stalled = false) :
    s.deliver l = s.linked.transmit l link := by
  rw [deliver, if_neg (fun empty => text (l.isEmpty_iff.mp empty))]
  simp [here, going]

/-- The line of a call goes to the network, over the link that the worker has by then, and gets that
answer. -/
def Meets (s : Session) (l : Line) (answer : Option Fault) : Prop :=
  l.bytes ≠ [] ∧ s.linked.stalled = false ∧ ∃ link, s.linked.worker.link = some link ∧
    (s.linked.network.send s.linked.worker.kind link l.bytes).1 = answer

/-- What a call reports of its line is what the network answered to it. -/
structure Reported (s : Session) (l : Line) : Prop where
  skipped : (s.deliver l).1 = .skipped ↔ l.bytes = []
  sent : (s.deliver l).1 = .sent ↔ s.Meets l none
  lost : (s.deliver l).1 = .lost ↔ ∃ fault, s.Meets l (some fault)
  withheld : (s.deliver l).1 = .withheld ↔ l.bytes ≠ [] ∧ ∀ answer, ¬ s.Meets l answer

theorem Meets.unique {s : Session} {l : Line} {a b : Option Fault} (first : s.Meets l a)
    (second : s.Meets l b) : b = a := by
  obtain ⟨_, _, i, here, answer⟩ := first
  obtain ⟨_, _, j, there, answer'⟩ := second
  rw [here] at there
  cases there
  exact answer'.symm.trans answer

theorem Meets.outcome {s : Session} {l : Line} {answer : Option Fault} (met : s.Meets l answer) :
    (s.deliver l).1 = if answer = none then .sent else .lost := by
  obtain ⟨text, going, link, here, rfl⟩ := met
  rw [deliver_of_link text here going, transmit]
  split <;> simp [*]

theorem reported_deliver (s : Session) (l : Line) : s.Reported l := by
  by_cases empty : l.bytes = []
  · have skipped := congrArg Prod.fst (deliver_of_empty empty s)
    constructor <;> simp [skipped, empty, Meets]
  · by_cases met : ∃ answer, s.Meets l answer
    · obtain ⟨answer, met⟩ := met
      have outcome := met.outcome
      have only (other : Option Fault) : s.Meets l other ↔ other = answer :=
        ⟨met.unique, fun same => same ▸ met⟩
      cases answer <;> constructor <;> simp [outcome, only, empty]
    · rw [not_exists] at met
      have withheld : (s.deliver l).1 = .withheld := by
        rw [deliver, if_neg (fun none => empty (l.isEmpty_iff.mp none))]
        dsimp only
        split
        · next link here =>
          split
          · rfl
          · next going =>
            exact absurd ⟨empty, Bool.eq_false_iff.mpr going, link, here, rfl⟩ (met _)
        · rfl
      constructor <;> simp [withheld, empty, met]

theorem lost_deliver {l : Line} (text : l.bytes ≠ []) (s : Session) :
    ((s.deliver l).1 ≠ .lost ∧ (s.deliver l).1 ≠ .skipped ∧
        (s.deliver l).2.worker.lost = s.worker.lost) ∨
      ((s.deliver l).1 = .lost ∧ (s.deliver l).2.worker.lost = s.worker.lost + 1) := by
  have before := (worker_linked s).lost_eq
  obtain h | ⟨link, _, h⟩ := deliver_of_text text s
  · rw [h]
    exact .inl ⟨nofun, nofun, before⟩
  · rw [h, ← before]
    obtain ⟨sent, count⟩ | ⟨lost, count⟩ := lost_transmit s.linked l link
    · exact .inl ⟨by rw [sent]; nofun, by rw [sent]; nofun, count⟩
    · exact .inr ⟨lost, count⟩

namespace Online

variable {s : Session}

theorem connect (h : s.Online) : s.connect.Online :=
  tryConnect ⟨h.going, h.up, h.steady, h.endless⟩

theorem linked (h : s.Online) : s.linked.Online := by
  rw [Session.linked]
  split
  · exact h.connect
  · exact h

theorem recover (h : s.Online) : s.recover.Online := by
  obtain ⟨t, same, recovery⟩ := s.recover_eq
  rw [recovery]
  refine connect ⟨?_, ?_, ?_, ?_⟩
  · rw [same.stalled, h.going]
  · rw [same.uplink, h.up]
  · rw [same.pacer]
    exact h.steady
  · rw [same.pacer, h.endless]

theorem giveUp (h : s.Online) (fault : Fault) : (s.giveUp fault).Online := by
  refine sleep ?_ _
  exact ⟨h.going, h.up, h.steady, h.endless⟩

theorem sendFailed (h : s.Online) (fault : Fault) : (s.sendFailed fault).Online := by
  rw [Session.sendFailed, if_neg (by rw [(h.giveUp fault).going]; nofun)]
  exact (h.giveUp fault).recover

theorem sendSucceeded (h : s.Online) : s.sendSucceeded.Online := by
  obtain ⟨_, _, _, same⟩ := s.sendSucceeded_eq
  rw [same]
  exact ⟨h.going, h.up, h.steady, h.endless⟩

theorem transmit (h : s.Online) {l : Line} (text : l.bytes ≠ []) (link : Nat) :
    (s.transmit l link).2.Online := by
  have outcome := s.network.send_carries s.worker.kind link text
  cases answer : s.network.send s.worker.kind link l.bytes with
  | mk fault m =>
    rw [answer] at outcome
    obtain ⟨rfl, carries⟩ | ⟨cause, _, _, rfl, _, _, carries⟩ := outcome
    · rw [transmit_of_none answer]
      exact (h.among carries.uplink).sendSucceeded
    · rw [transmit_of_some answer]
      exact (h.among carries.uplink).sendFailed cause

theorem opened_of_tried (h : s.Online) {r : Session} (tried : r.Tried s) :
    s.worker.link = some r.network.connections.length := by
  obtain ⟨link, _⟩ | ⟨_, _, stalled⟩ := tried
  · exact link
  · rw [h.going] at stalled
    cases stalled

theorem deliver_eq (h : s.Online) {l : Line} (text : l.bytes ≠ []) :
    ∃ link, s.linked.worker.link = some link ∧ s.deliver l = s.linked.transmit l link := by
  obtain ⟨link, here⟩ : ∃ link, s.linked.worker.link = some link := by
    rw [Session.linked]
    split
    · exact ⟨_, h.connect.opened_of_tried s.tried_connect⟩
    · next isLinked => exact Option.ne_none_iff_exists'.mp (by simpa using isLinked)
  exact ⟨link, here, deliver_of_link text here h.linked.going⟩

theorem deliver (h : s.Online) (l : Line) :
    (s.deliver l).1 ≠ .withheld ∧ (s.deliver l).2.Online := by
  by_cases empty : l.bytes = []
  · rw [deliver_of_empty empty]
    exact ⟨nofun, h⟩
  · obtain ⟨link, _, sends⟩ := h.deliver_eq empty
    rw [sends]
    refine ⟨?_, h.linked.transmit empty link⟩
    obtain ⟨sent, _⟩ | ⟨lost, _⟩ := lost_transmit s.linked l link
    · rw [sent]
      nofun
    · rw [lost]
      nofun

end Online

end Session

end LogRelay
