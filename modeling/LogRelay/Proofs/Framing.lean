import LogRelay.Proofs.Deliveries

/-!
What arrives of the lines that a worker sends. Over each connection go whole lines and at most one
line more, the last one, of which only a part arrives because its send failed. A line goes over one
connection or none, and datagrams are exactly the lines that were sent. Each operation of a session
keeps the account.
-/

namespace LogRelay.Session

structure Passage where
  line : Line
  outcome : Delivery
  link : Option Nat

def passage (s : Session) (l : Line) : Passage where
  line := l
  outcome := (s.deliver l).1
  link := if l.isEmpty then none else s.linked.worker.link

def along (h : List Passage) (link : Nat) : List Passage :=
  h.filter (·.link = some link)

def sentLines (h : List Passage) : List Line :=
  (h.filter (·.outcome = .sent)).map (·.line)

/-- What a connection carries of the lines that went over it: all of them whole, or all but the
last one, which broke off. -/
inductive Carried : List Passage → Bytes → Prop where
  | whole (ps : List Passage) (sent : ∀ p ∈ ps, p.outcome = .sent) :
      Carried ps (ps.flatMap (·.line.bytes))
  | torn (ps : List Passage) (p : Passage) (part rest : Bytes)
      (sent : ∀ p ∈ ps, p.outcome = .sent) (lost : p.outcome = .lost)
      (split : p.line.bytes = part ++ rest) (short : rest ≠ []) :
      Carried (ps ++ [p]) (ps.flatMap (·.line.bytes) ++ part)

def Passage.Settled (connections : Nat) (p : Passage) : Prop :=
  (p.line.bytes = [] ∧ p.outcome = .skipped ∧ p.link = none) ∨
    (p.line.bytes ≠ [] ∧ (p.outcome = .sent ∨ p.outcome = .lost) ∧
      ∃ i < connections, p.link = some i)

/-- What has been received while the worker holds a link is what its passages account for. -/
structure Framed (kind : Transport) (h : List Passage) (link : Option Nat)
    (connections datagrams : List Bytes) : Prop where
  settled : ∀ p ∈ h, p.Settled connections.length
  carried : ∀ i b, connections[i]? = some b → Carried (along h i) b
  current : ∀ i, link = some i →
    i + 1 = connections.length ∧ ∀ p ∈ along h i, p.outcome = .sent
  arrived : datagrams = (sentLines h).flatMap (Network.arrivalsOf kind ·.bytes)

theorem Passage.Settled.mono {p : Passage} {m n : Nat} (h : p.Settled m) (le : m ≤ n) :
    p.Settled n := by
  obtain skipped | ⟨text, outcome, i, lt, link⟩ := h
  · exact .inl skipped
  · exact .inr ⟨text, outcome, i, Nat.lt_of_lt_of_le lt le, link⟩

theorem along_append (h k : List Passage) (i : Nat) : along (h ++ k) i = along h i ++ along k i :=
  List.filter_append ..

theorem along_single_same (p : Passage) {i : Nat} (link : p.link = some i) : along [p] i = [p] := by
  simp [along, link]

theorem along_single_other (p : Passage) {i : Nat} (link : p.link ≠ some i) : along [p] i = [] := by
  simp [along, link]

theorem sentLines_append (h k : List Passage) :
    sentLines (h ++ k) = sentLines h ++ sentLines k := by
  simp only [sentLines, List.filter_append, List.map_append]

theorem flatMap_arrivalsOf (kind : Transport) (ls : List Line) :
    ls.flatMap (Network.arrivalsOf kind ·.bytes) = if kind = .udp then ls.map (·.bytes) else [] := by
  cases kind with
  | udp => exact List.map_eq_flatMap.symm
  | tcp => simp [Network.arrivalsOf]

theorem Carried.eq_whole {ps : List Passage} {b : Bytes} (h : Carried ps b)
    (sent : ∀ p ∈ ps, p.outcome = .sent) : b = ps.flatMap (·.line.bytes) := by
  cases h with
  | whole => rfl
  | torn ps p part rest _ lost =>
    have here := sent p (by simp)
    rw [lost] at here
    cases here

namespace Framed

variable {kind : Transport} {h : List Passage} {link : Option Nat} {cs ds : List Bytes}

theorem empty (kind : Transport) : Framed kind [] none [] [] where
  settled := by simp
  carried := by simp
  current := by simp
  arrived := rfl

theorem opens (framed : Framed kind h link cs ds) :
    Framed kind h (some cs.length) (cs ++ [[]]) ds := by
  have unused : along h cs.length = [] := by
    refine List.filter_eq_nil_iff.mpr fun p mem => ?_
    obtain ⟨_, _, free⟩ | ⟨_, _, i, lt, taken⟩ := framed.settled p mem
    · simp [free]
    · simp only [taken, Option.some.injEq, decide_eq_true_eq]
      omega
  refine ⟨fun p mem => ?_, fun i b at_i => ?_, fun i same => ?_, framed.arrived⟩
  · exact (framed.settled p mem).mono (by simp)
  · rw [List.getElem?_append] at at_i
    split at at_i
    · exact framed.carried i b at_i
    · next beyond =>
      have last : i = cs.length := by
        have := (List.getElem?_eq_some_iff.mp at_i).1
        simp only [List.length_singleton] at this
        omega
      subst last
      simp only [Nat.sub_self, List.getElem?_cons_zero, Option.some.injEq] at at_i
      rw [unused, ← at_i]
      exact .whole [] (by simp)
  · cases same
    refine ⟨by simp, ?_⟩
    rw [unused]
    simp

theorem skips (framed : Framed kind h link cs ds) {l : Line} (empty : l.bytes = []) :
    Framed kind (h ++ [⟨l, .skipped, none⟩]) link cs ds := by
  have off (i : Nat) : along [⟨l, .skipped, none⟩] i = [] := rfl
  refine ⟨fun p mem => ?_, fun i b at_i => ?_, fun i same => ?_, ?_⟩
  · obtain old | new := List.mem_append.mp mem
    · exact framed.settled p old
    · rw [List.mem_singleton.mp new]
      exact .inl ⟨empty, rfl, rfl⟩
  · rw [along_append, off, List.append_nil]
    exact framed.carried i b at_i
  · rw [along_append, off, List.append_nil]
    exact framed.current i same
  · rw [sentLines_append]
    exact framed.arrived.trans (by simp [sentLines])

theorem passes {i : Nat} (framed : Framed kind h (some i) cs ds) {p : Passage}
    {n : Option Nat} {b : Bytes} (over_i : p.link = some i) (text : p.line.bytes ≠ [])
    (outcome : p.outcome = .sent ∨ p.outcome = .lost)
    (carried : Carried (along h i ++ [p]) ((along h i).flatMap (·.line.bytes) ++ b))
    (onward : ∀ j, n = some j → j = i ∧ p.outcome = .sent) :
    Framed kind (h ++ [p]) n (cs.modify i (· ++ b))
      (ds ++ (sentLines [p]).flatMap (Network.arrivalsOf kind ·.bytes)) := by
  obtain ⟨last, sent⟩ := framed.current i rfl
  refine ⟨fun q mem => ?_, fun j c at_j => ?_, fun j same => ?_, ?_⟩
  · rw [List.length_modify]
    obtain old | new := List.mem_append.mp mem
    · exact framed.settled q old
    · rw [List.mem_singleton.mp new]
      exact .inr ⟨text, outcome, i, by omega, over_i⟩
  · rw [List.getElem?_modify] at at_j
    obtain ⟨c, old, rfl⟩ := Option.map_eq_some_iff.mp at_j
    have before := framed.carried j c old
    rw [along_append]
    by_cases same : i = j
    · subst same
      rw [along_single_same p over_i, if_pos rfl, before.eq_whole sent]
      exact carried
    · rw [along_single_other p (by rw [over_i]; simpa using same), if_neg same, List.append_nil]
      exact before
  · obtain ⟨rfl, whole⟩ := onward j same
    refine ⟨by rw [List.length_modify, last], ?_⟩
    rw [along_append, along_single_same p over_i]
    intro q mem
    obtain old | new := List.mem_append.mp mem
    · exact sent q old
    · rw [List.mem_singleton.mp new, whole]
  · rw [sentLines_append, List.flatMap_append, framed.arrived]

theorem sends {i : Nat} (framed : Framed kind h (some i) cs ds) {l : Line}
    (text : l.bytes ≠ []) :
    Framed kind (h ++ [⟨l, .sent, some i⟩]) (some i) (cs.modify i (· ++ l.bytes))
      (ds ++ Network.arrivalsOf kind l.bytes) := by
  have sent := (framed.current i rfl).2
  have all : ∀ p ∈ along h i ++ [⟨l, .sent, some i⟩], p.outcome = .sent := by
    simpa [or_imp, forall_and] using sent
  have carried := Carried.whole _ all
  rw [List.flatMap_append] at carried
  have framed' := framed.passes (p := ⟨l, .sent, some i⟩) (n := some i) (b := l.bytes) rfl text
    (.inl rfl) (by simpa using carried) (fun j same => ⟨(Option.some.inj same).symm, rfl⟩)
  simpa [sentLines] using framed'

theorem loses {i : Nat} (framed : Framed kind h (some i) cs ds) {l : Line} {part rest : Bytes}
    (split : l.bytes = part ++ rest) (short : rest ≠ []) :
    Framed kind (h ++ [⟨l, .lost, some i⟩]) none (cs.modify i (· ++ part)) ds := by
  have text : l.bytes ≠ [] := by
    rw [split]
    simp [short]
  have carried := Carried.torn (along h i) ⟨l, .lost, some i⟩ part rest
    (framed.current i rfl).2 rfl split short
  have framed' := framed.passes (p := ⟨l, .lost, some i⟩) (n := none) rfl text (.inr rfl)
    carried (by simp)
  simpa [sentLines] using framed'

end Framed

structure Accounts (kind : Transport) (h : List Passage) (s : Session) : Prop where
  kind_eq : s.worker.kind = kind
  framed : Framed kind h s.worker.link s.network.connections s.network.datagrams

/-- From one session to a later one a connection that is not the current one stays as it is. -/
structure Keeps (s t : Session) : Prop where
  longer : s.network.connections.length ≤ t.network.connections.length
  kept : ∀ i < s.network.connections.length, s.worker.link ≠ some i →
    t.network.connections[i]? = s.network.connections[i]? ∧ t.worker.link ≠ some i

theorem Keeps.refl (s : Session) : s.Keeps s :=
  ⟨Nat.le_refl _, fun _ _ free => ⟨rfl, free⟩⟩

theorem Keeps.trans {r s t : Session} (first : r.Keeps s) (second : s.Keeps t) : r.Keeps t := by
  refine ⟨Nat.le_trans first.longer second.longer, fun i lt free => ?_⟩
  obtain ⟨same, free'⟩ := first.kept i lt free
  obtain ⟨same', free''⟩ := second.kept i (Nat.lt_of_lt_of_le lt first.longer) free'
  exact ⟨same'.trans same, free''⟩

theorem keeps_of_modify {s t : Session} {i : Nat} {f : Bytes → Bytes}
    (current : s.worker.link = some i) (later : t.worker.link = some i ∨ t.worker.link = none)
    (modified : t.network.connections = s.network.connections.modify i f) : s.Keeps t := by
  refine ⟨by simp [modified], fun j lt free => ?_⟩
  have other : i ≠ j := fun same => free (by rw [current, same])
  refine ⟨by simp [modified, other], ?_⟩
  obtain here | gone := later
  · rw [here]
    simpa using other
  · rw [gone]
    nofun

section

variable {kind : Transport} {h : List Passage} {s t : Session}

theorem start_accounts {policy : Policy} {endpoint : Option SocketAddress}
    {weather : List NetChange} {pacer : Pacer}
    (started : start kind policy ((Network.fresh endpoint).changeAll weather) pacer = .started s) :
    s.Accounts kind [] := by
  have traffic := Network.traffic_changeAll (Network.fresh endpoint) weather
  have connections : ((Network.fresh endpoint).changeAll weather).connections = [] :=
    congrArg Prod.fst traffic
  have datagrams : ((Network.fresh endpoint).changeAll weather).datagrams = [] :=
    congrArg Prod.snd traffic
  have framed : Framed kind [] none ((Network.fresh endpoint).changeAll weather).connections
      ((Network.fresh endpoint).changeAll weather).datagrams := by
    rw [connections, datagrams]
    exact .empty kind
  obtain ⟨_, _, _, rfl⟩ := start_eq started
  exact ⟨rfl, framed⟩

theorem Accounts.of_traffic (accounts : s.Accounts kind h)
    (kind_eq : t.worker.kind = s.worker.kind) (link : t.worker.link = s.worker.link)
    (traffic : t.network.traffic = s.network.traffic) : t.Accounts kind h := by
  have connections : t.network.connections = s.network.connections := congrArg Prod.fst traffic
  have datagrams : t.network.datagrams = s.network.datagrams := congrArg Prod.snd traffic
  refine ⟨kind_eq.trans accounts.kind_eq, ?_⟩
  rw [link, connections, datagrams]
  exact accounts.framed

theorem Keeps.of_traffic (link : t.worker.link = s.worker.link)
    (traffic : t.network.traffic = s.network.traffic) : s.Keeps t := by
  have connections : t.network.connections = s.network.connections := congrArg Prod.fst traffic
  refine ⟨Nat.le_of_eq (by rw [connections]), fun i _ free => ⟨by rw [connections], ?_⟩⟩
  rw [link]
  exact free

theorem Accounts.of_tried (accounts : s.Accounts kind h) (tried : s.Tried t)
    (kind_eq : t.worker.kind = s.worker.kind) : t.Accounts kind h := by
  obtain ⟨link, traffic⟩ | ⟨link, traffic, _⟩ := tried
  · have grown : t.network.connections = s.network.connections ++ [[]] := congrArg Prod.fst traffic
    have same : t.network.datagrams = s.network.datagrams := congrArg Prod.snd traffic
    refine ⟨kind_eq.trans accounts.kind_eq, ?_⟩
    rw [link, grown, same]
    exact accounts.framed.opens
  · exact accounts.of_traffic kind_eq link traffic

theorem Keeps.of_tried (tried : s.Tried t) : s.Keeps t := by
  obtain ⟨link, traffic⟩ | ⟨link, traffic, _⟩ := tried
  · have grown : t.network.connections = s.network.connections ++ [[]] := congrArg Prod.fst traffic
    refine ⟨by simp [grown], fun i lt _ => ⟨?_, ?_⟩⟩
    · rw [grown, List.getElem?_append_left lt]
    · rw [link]
      simp only [ne_eq, Option.some.injEq]
      omega
  · exact .of_traffic link traffic

theorem connect_accounts (accounts : s.Accounts kind h) :
    s.connect.Accounts kind h ∧ s.Keeps s.connect :=
  ⟨accounts.of_tried s.tried_connect s.worker_connect.kind_eq, .of_tried s.tried_connect⟩

theorem linked_accounts (accounts : s.Accounts kind h) :
    s.linked.Accounts kind h ∧ s.Keeps s.linked := by
  rw [linked]
  split
  · exact connect_accounts accounts
  · exact ⟨accounts, .refl s⟩

theorem sendSucceeded_accounts (accounts : s.Accounts kind h) :
    s.sendSucceeded.Accounts kind h ∧ s.Keeps s.sendSucceeded := by
  obtain ⟨_, _, _, after⟩ := s.sendSucceeded_eq
  rw [after]
  exact ⟨accounts.of_traffic rfl rfl rfl, .of_traffic rfl rfl⟩

theorem sendFailed_accounts {fault : Fault} (accounts : (s.giveUp fault).Accounts kind h) :
    (s.sendFailed fault).Accounts kind h ∧ (s.giveUp fault).Keeps (s.sendFailed fault) :=
  ⟨accounts.of_tried (tried_sendFailed s fault) (worker_sendFailed s fault).kind_eq,
    .of_tried (tried_sendFailed s fault)⟩

theorem sent_accounts (accounts : s.Accounts kind h) {l : Line} (text : l.bytes ≠ []) {i : Nat}
    (link : s.worker.link = some i) {m : Network}
    (carries : Network.Carries i s.network l.bytes (Network.arrivalsOf s.worker.kind l.bytes) m) :
    Accounts kind (h ++ [⟨l, .sent, some i⟩]) { s with network := m } ∧
      s.Keeps { s with network := m } := by
  have framed := accounts.framed
  rw [link] at framed
  refine ⟨⟨accounts.kind_eq, ?_⟩, keeps_of_modify link (.inl link) carries.connections⟩
  dsimp only
  rw [link, carries.connections, carries.datagrams, accounts.kind_eq]
  exact framed.sends text

theorem lost_accounts (accounts : s.Accounts kind h) {l : Line} {part rest : Bytes}
    (split : l.bytes = part ++ rest) (short : rest ≠ []) {i : Nat}
    (link : s.worker.link = some i) {m : Network}
    (carries : Network.Carries i s.network part [] m) (fault : Fault) :
    Accounts kind (h ++ [⟨l, .lost, some i⟩]) ({ s with network := m }.giveUp fault) ∧
      s.Keeps ({ s with network := m }.giveUp fault) := by
  have framed := accounts.framed
  rw [link] at framed
  have traffic := traffic_giveUp { s with network := m } fault
  have connections : ({ s with network := m }.giveUp fault).network.connections =
      s.network.connections.modify i (· ++ part) :=
    (congrArg Prod.fst traffic).trans carries.connections
  have datagrams : ({ s with network := m }.giveUp fault).network.datagrams =
      s.network.datagrams := by
    rw [← List.append_nil s.network.datagrams]
    exact (congrArg Prod.snd traffic).trans carries.datagrams
  refine ⟨⟨accounts.kind_eq, ?_⟩, keeps_of_modify link (.inr rfl) connections⟩
  rw [connections, datagrams]
  exact framed.loses split short

theorem transmit_accounts (accounts : s.Accounts kind h) {l : Line} (text : l.bytes ≠ [])
    {i : Nat} (link : s.worker.link = some i) :
    (s.transmit l i).2.Accounts kind (h ++ [⟨l, (s.transmit l i).1, some i⟩]) ∧
      s.Keeps (s.transmit l i).2 := by
  cases answer : s.network.send s.worker.kind i l.bytes with
  | mk fault m =>
    have outcome := s.network.send_carries s.worker.kind i text
    rw [answer] at outcome
    obtain ⟨rfl, carries⟩ | ⟨cause, part, rest, rfl, split, short, carries⟩ := outcome
    · obtain ⟨sent, keeps⟩ := sent_accounts accounts text link carries
      obtain ⟨after, keeps'⟩ := sendSucceeded_accounts sent
      rw [transmit_of_none answer]
      exact ⟨after, keeps.trans keeps'⟩
    · obtain ⟨lost, keeps⟩ := lost_accounts accounts split short link carries cause
      obtain ⟨after, keeps'⟩ := sendFailed_accounts lost
      rw [transmit_of_some answer]
      exact ⟨after, keeps.trans keeps'⟩

theorem withheld_accounts (accounts : s.Accounts kind h) {l : Line}
    (withheld : (s.deliver l).1 = .withheld) : (s.deliver l).2.Accounts kind h := by
  by_cases empty : l.bytes = []
  · rw [deliver_of_empty empty] at withheld
    cases withheld
  · obtain stalls | ⟨i, _, sends⟩ := deliver_of_text empty s
    · rw [stalls]
      exact (linked_accounts accounts).1
    · rw [sends] at withheld
      obtain ⟨sent, _⟩ | ⟨lost, _⟩ := lost_transmit s.linked l i
      · rw [sent] at withheld
        cases withheld
      · rw [lost] at withheld
        cases withheld

theorem deliver_accounts (accounts : s.Accounts kind h) {l : Line}
    (tried : (s.deliver l).1 ≠ .withheld) :
    (s.deliver l).2.Accounts kind (h ++ [s.passage l]) ∧ s.Keeps (s.deliver l).2 := by
  by_cases empty : l.bytes = []
  · have skipped := deliver_of_empty empty s
    rw [passage, skipped, if_pos (l.isEmpty_iff.mpr empty)]
    exact ⟨⟨accounts.kind_eq, accounts.framed.skips empty⟩, .refl s⟩
  · obtain stalls | ⟨i, link, sends⟩ := deliver_of_text empty s
    · rw [stalls] at tried
      exact absurd rfl tried
    · obtain ⟨linked, keeps⟩ := linked_accounts accounts
      obtain ⟨after, keeps'⟩ := transmit_accounts linked empty link
      rw [passage, sends, if_neg (fun none => empty (l.isEmpty_iff.mp none)), link]
      exact ⟨after, keeps.trans keeps'⟩

end

end LogRelay.Session
