import LogRelay.Proofs.Offers
import LogRelay.Proofs.Framing

/-!
A thread that logs, one channel of its main router and the worker that serves the channel, acting in
any order. Every line that was ever pushed is accounted for, the accepted ones are handled in the
order of their pushes, and the network has received what was sent of them.
-/

namespace LogRelay

/-- A line is in the hand of the worker from the time it was taken until it was sent or lost. -/
structure Relay where
  desk : Desk
  session : Session
  hand : Option Line
  offers : List Offer
  handled : List Session.Passage

namespace Relay

/-- An emit in the middle of which others act is several operations, one for each of its calls. The
network and the pacer may change at any point, also while the worker sleeps. -/
inductive Move where
  | operate (op : Desk.Operation)
  | weather (change : NetChange)
  | pace (ahead : List (List NetChange)) (limit : Option Nat)
  | connect
  | take
  | deliver
  | observe
  | resume

def idle (s : Relay) : Bool :=
  !s.session.stalled && s.hand.isNone

def operate (s : Relay) (kind : Transport) (op : Desk.Operation) : Relay :=
  { s with
    desk := (s.desk.operate op).2
    offers := s.offers ++
      match s.desk.channel kind with
      | some c => (c.offerAll (s.desk.offered op)).1
      | none => [] }

def take (s : Relay) (kind : Transport) : Option Relay :=
  match s.desk.main.registry.take kind with
  | (some (some l), r) =>
    some { s with desk := s.desk.update .main ({ · with registry := r }), hand := some l }
  | _ => none

/-- A line that is withheld stays in the hand of the worker. -/
def deliver (s : Relay) (l : Line) : Relay :=
  let (outcome, session) := s.session.deliver l
  if outcome = .withheld then { s with session := session }
  else
    { s with session := session, hand := none, handled := s.handled ++ [s.session.passage l] }

theorem offers_deliver (s : Relay) (l : Line) : (s.deliver l).offers = s.offers := by
  rw [deliver]
  dsimp only
  split <;> rfl

def step (kind : Transport) (s : Relay) : Move → Option Relay
  | .operate op => some (s.operate kind op)
  | .weather change =>
    some { s with session := { s.session with network := s.session.network.change change } }
  | .pace ahead limit =>
    some { s with session := { s.session with
      pacer := { s.session.pacer with ahead := ahead, limit := limit } } }
  | .connect => if s.idle then some { s with session := s.session.connect } else none
  | .take => if s.idle then s.take kind else none
  | .deliver => if s.session.stalled then none else s.hand.map s.deliver
  | .observe =>
    if s.idle then
      (s.desk.channel kind).map fun c => { s with session := s.session.observe c.dropped }
    else none
  | .resume => if s.session.stalled then some { s with session := s.session.resume } else none

/-- The other channels of the thread, the worker's schedules and the network are arbitrary. -/
inductive Reachable (kind : Transport) : Relay → Prop where
  | initial {desk : Desk} {capacity : Nat} {backend : Backend} {policy : Policy}
      {endpoint : Option SocketAddress} {weather : List NetChange} {pacer : Pacer}
      {session : Session} (clear : desk.emitting = false)
      (channel : desk.channel kind = some (Channel.create capacity backend))
      (started : Session.start kind policy ((Network.fresh endpoint).changeAll weather) pacer =
        .started session) :
      Reachable kind ⟨desk, session, none, [], []⟩
  | step {s t : Relay} (m : Move) (reachable : Reachable kind s)
      (taken : s.step kind m = some t) : Reachable kind t

/-- What is kept by every move: `c` is the channel as it is. -/
structure Balanced (kind : Transport) (c : Channel) (s : Relay) : Prop where
  clear : s.desk.emitting = false
  channel : s.desk.channel kind = some c
  taken : Offer.taken s.offers = s.handled.map (·.line) ++ s.hand.toList ++ c.lines
  texts : ∀ l ∈ Offer.taken s.offers, l.bytes ≠ []
  dropped : c.dropped = UInt64.ofNat (Offer.rejected s.offers)
  lost : s.session.worker.lost = s.handled.countP (·.outcome = .lost)
  accounts : s.session.Accounts kind s.handled

section
variable {kind : Transport} {c : Channel} {s t : Relay}

namespace Balanced

theorem with_session (h : Balanced kind c s) {session : Session}
    (lost : session.worker.lost = s.session.worker.lost)
    (accounts : session.Accounts kind s.handled) :
    Balanced kind c { s with session := session } :=
  ⟨h.clear, h.channel, h.taken, h.texts, h.dropped, lost.trans h.lost, accounts⟩

theorem with_tried (h : Balanced kind c s) {session : Session} (tried : s.session.Tried session)
    (rerouted : s.session.worker.Rerouted session.worker) :
    Balanced kind c { s with session := session } :=
  h.with_session rerouted.lost_eq (h.accounts.of_tried tried rerouted.kind_eq)

theorem operate (h : Balanced kind c s) (op : Desk.Operation) :
    Balanced kind (c.offerAll (s.desk.offered op)).2 (s.operate kind op) := by
  have offers : (s.operate kind op).offers = s.offers ++ (c.offerAll (s.desk.offered op)).1 := by
    rw [Relay.operate, h.channel]
  refine ⟨Desk.operate_clear h.clear op, ?_, ?_, ?_, ?_, h.lost, h.accounts⟩
  · exact (Desk.channel_operate h.clear op kind).trans (by rw [h.channel]; rfl)
  · rw [offers, Offer.taken_append, h.taken, Channel.lines_offerAll, List.append_assoc _ c.lines]
    rfl
  · intro l mem
    rw [offers, Offer.taken_append] at mem
    obtain before | now := List.mem_append.mp mem
    · exact h.texts l before
    · exact Desk.text_of_mem_offered (Channel.mem_of_taken now)
  · rw [offers, Offer.rejected_append, UInt64.ofNat_add, ← h.dropped, Channel.dropped_offerAll]

theorem take (h : Balanced kind c s) (free : s.hand = none) (taken : s.take kind = some t) :
    ∃ d, Balanced kind d t := by
  have here : s.desk.main.registry.get kind = some c := h.channel
  rw [Relay.take, Registry.take, Registry.act, here] at taken
  dsimp only at taken
  cases popped : c.pop? with
  | none =>
    rw [Channel.take, popped] at taken
    cases taken
  | some pair =>
    obtain ⟨l, rest⟩ := pair
    rw [Channel.take, popped] at taken
    cases taken
    obtain ⟨lines, _, _, dropped⟩ := Channel.pop?_eq_some popped
    refine ⟨rest, h.clear, ?_, ?_, h.texts, dropped.trans h.dropped, h.lost, h.accounts⟩
    · rw [Desk.channel, Desk.update]
      exact (Registry.get_put _ _ _ _).trans (if_pos rfl)
    · rw [h.taken, free, lines]
      simp

theorem deliver (h : Balanced kind c s) {l : Line} (held : s.hand = some l) :
    Balanced kind c (s.deliver l) := by
  have text : l.bytes ≠ [] := h.texts l (by rw [h.taken, held]; simp)
  have counted := Session.lost_deliver text s.session
  rw [Relay.deliver]
  dsimp only
  split
  · next withheld =>
    obtain ⟨_, _, same⟩ | ⟨lost, _⟩ := counted
    · exact h.with_session same (Session.withheld_accounts h.accounts withheld)
    · rw [withheld] at lost
      cases lost
  · next tried =>
    have order : Offer.taken s.offers =
        (s.handled ++ [s.session.passage l]).map (·.line) ++ [] ++ c.lines := by
      rw [h.taken, held]
      simp [Session.passage]
    have accounts := (Session.deliver_accounts h.accounts tried).1
    refine ⟨h.clear, h.channel, order, h.texts, h.dropped, ?_, accounts⟩
    rw [List.countP_append, ← h.lost]
    obtain ⟨kept, _, same⟩ | ⟨lost, more⟩ := counted
    · simpa [Session.passage, kept] using same
    · simpa [Session.passage, lost] using more

end Balanced

theorem free_of_idle (idle : s.idle = true) : s.hand = none :=
  Option.isNone_iff_eq_none.mp (Bool.and_eq_true_iff.mp idle).2

theorem worker_observe (s : Session) (dropped : UInt64) :
    ∃ drops, (s.observe dropped).worker = { s.worker with drops := drops } ∧
      (s.observe dropped).network = s.network := by
  rw [Session.observe]
  dsimp only
  split <;> exact ⟨_, rfl, rfl⟩

theorem Balanced.step (h : Balanced kind c s) {m : Move} (taken : s.step kind m = some t) :
    ∃ d, Balanced kind d t := by
  cases m with
  | operate op =>
    cases taken
    exact ⟨_, h.operate op⟩
  | weather change =>
    cases taken
    have traffic := s.session.network.traffic_change change
    exact ⟨c, h.with_session rfl (h.accounts.of_traffic rfl rfl traffic)⟩
  | pace ahead limit =>
    cases taken
    exact ⟨c, h.with_session rfl (h.accounts.of_traffic rfl rfl rfl)⟩
  | connect =>
    obtain ⟨_, ⟨⟩⟩ := Option.ite_none_right_eq_some.mp taken
    exact ⟨c, h.with_tried (Session.tried_connect _) (Session.worker_connect _)⟩
  | take =>
    obtain ⟨idle, taken⟩ := Option.ite_none_right_eq_some.mp taken
    exact h.take (free_of_idle idle) taken
  | deliver =>
    obtain ⟨_, given⟩ := Option.ite_none_left_eq_some.mp taken
    obtain ⟨l, held, rfl⟩ := Option.map_eq_some_iff.mp given
    exact ⟨c, h.deliver held⟩
  | observe =>
    obtain ⟨_, seen⟩ := Option.ite_none_right_eq_some.mp taken
    obtain ⟨d, _, rfl⟩ := Option.map_eq_some_iff.mp seen
    obtain ⟨_, worker, network⟩ := worker_observe s.session d.dropped
    refine ⟨c, h.with_session (by rw [worker]) (h.accounts.of_traffic ?_ ?_ ?_)⟩
    · rw [worker]
    · rw [worker]
    · rw [network]
  | resume =>
    obtain ⟨_, ⟨⟩⟩ := Option.ite_none_right_eq_some.mp taken
    exact ⟨c, h.with_tried (Session.tried_resume _) (Session.worker_resume _)⟩

theorem Reachable.balanced (reachable : Reachable kind s) : ∃ c, Balanced kind c s := by
  induction reachable with
  | initial clear channel started =>
    have accounts := Session.start_accounts started
    obtain ⟨_, _, _, rfl⟩ := Session.start_eq started
    exact ⟨_, clear, channel, rfl, nofun, rfl, rfl, accounts⟩
  | step m _ taken ih =>
    obtain ⟨c, balanced⟩ := ih
    exact balanced.step taken

end

/-- Where all pushes have gone, and what the network has received: `c` is the channel as it is. -/
structure Conserved (kind : Transport) (c : Channel) (s : Relay) : Prop where
  pushes : s.offers.length = s.handled.countP (·.outcome = .sent) + s.session.worker.lost +
    c.length + c.dropped.toNat + s.hand.toList.length
  order : Offer.taken s.offers = s.handled.map (·.line) ++ s.hand.toList ++ c.lines
  rejected : c.dropped.toNat = Offer.rejected s.offers
  failures : s.session.worker.lost = s.handled.countP (·.outcome = .lost)
  datagrams : s.session.network.datagrams =
    if kind = .udp then (Session.sentLines s.handled).map (·.bytes) else []
  carried : ∀ i b, s.session.network.connections[i]? = some b →
    Session.Carried (Session.along s.handled i) b

theorem Balanced.length_handled {kind : Transport} {c : Channel} {s : Relay}
    (h : Balanced kind c s) :
    s.handled.length =
      s.handled.countP (·.outcome = .sent) + s.handled.countP (·.outcome = .lost) := by
  have rest : s.handled.countP (fun p => ¬ (p.outcome = .sent)) =
      s.handled.countP (·.outcome = .lost) := by
    refine List.countP_congr fun p mem => ?_
    obtain ⟨empty, _, _⟩ | ⟨_, sent | lost, _⟩ := h.accounts.framed.settled p mem
    · have here : p.line ∈ Offer.taken s.offers := by
        rw [h.taken, List.append_assoc]
        exact List.mem_append_left _ (List.mem_map_of_mem mem)
      exact absurd empty (h.texts p.line here)
    · simp [sent]
    · simp [lost]
  rw [List.length_eq_countP_add_countP (·.outcome = .sent), ← rest]
  simp

theorem Reachable.conserved {kind : Transport} {s : Relay} (reachable : Reachable kind s)
    (few : Offer.rejected s.offers < UInt64.size) :
    ∃ c, s.desk.channel kind = some c ∧ Conserved kind c s := by
  obtain ⟨c, balanced⟩ := reachable.balanced
  have rejected : c.dropped.toNat = Offer.rejected s.offers := by
    rw [balanced.dropped]
    exact UInt64.toNat_ofNat_of_lt few
  have framed := balanced.accounts.framed
  refine ⟨c, balanced.channel, ?_, balanced.taken, rejected, balanced.lost, ?_, framed.carried⟩
  · have order := congrArg List.length balanced.taken
    have handled := balanced.length_handled
    have pushes := Offer.length_eq s.offers
    simp only [List.length_append, List.length_map] at order
    rw [balanced.lost, c.length_eq, rejected]
    omega
  · rw [framed.arrived]
    exact Session.flatMap_arrivalsOf kind _

/-- Of three lines for a queue with one place the second is rejected, and the first is tried while
the third waits. -/
theorem Reachable.conserved_of_overflow :
    ∃ s c, s.offers.map (·.outcome) = [.delivered, .dropped, .delivered] ∧
      s.desk.channel .udp = some c ∧ Conserved .udp c s := by
  let registry := Registry.empty.put .udp (Channel.create 1 .ring)
  let desk := Desk.single (Router.create registry false)
  let line (text : String) : Move := .operate (.dispatch .main (Line.ofText text))
  let policy : Policy := ⟨⟨"collector.test", 514⟩, .connecting, .sending, 10, 50, .ofMillis 5000⟩
  have start := @Reachable.initial .udp desk 1 .ring policy
    (some Network.collector) [] (.startingAt 0 .brisk) _ rfl rfl rfl
  have full := ((start.step (line "a") rfl).step (line "b") rfl).step .take rfl
  have last := (full.step (line "c") rfl).step .deliver rfl
  obtain ⟨c, channel, conserved⟩ := Reachable.conserved last (by rw [offers_deliver]; decide)
  exact ⟨_, c, by rw [offers_deliver]; rfl, channel, conserved⟩

end Relay

end LogRelay
