import LogRelay.Proofs.Agreement

/-!
How far a launcher has come, move by move. The moves of its worker and its own last ones leave it
where it is; news makes it ask for its place or return, and once it has returned it stays so.
-/

namespace LogRelay.Handshake

def Action.aside : Action → Bool
  | resolve _ | connect _ | report | confirm | hangUp | withdraw => true
  | receive | timeOut | announce => false

theorem Launch.launcher_step {l m : Launch} {a : Action} (aside : a.aside = true)
    (acted : l.step a = some m) : m.launcher = l.launcher := by
  obtain ⟨kind, launcher, worker, ready, publication⟩ := l
  cases a with
  | resolve answer => cases worker <;> cases answer <;> cases acted <;> rfl
  | connect accepted => cases worker <;> cases accepted <;> cases acted <;> rfl
  | report => cases worker <;> cases acted; rfl
  | confirm => cases worker <;> cases publication <;> cases acted <;> rfl
  | receive | timeOut | announce => cases aside
  | hangUp | withdraw => cases launcher <;> cases acted; rfl

namespace State

def launcher? (s : State) (i : Nat) : Option Launcher :=
  (s.launches[i]?).map (·.launcher)

/-- Every launch is over, but for one that may still wait. -/
def Quiet (i : Option Nat) (s : State) : Prop :=
  ∀ j x, s.launcher? j = some x → (∃ v, x = .returned v) ∨ i = some j ∧ x = .waiting

/-- The launch that may still wait has come to a good end. -/
def Enabled (i : Option Nat) (s : State) : Prop :=
  ∃ j a, i = some j ∧ s.launcher? j = some (.returned (.enabled a))

variable {s t : State} {j : Nat}

theorem leads_play (s : State) (moves : List Move) : s.Leads (s.play moves) := by
  induction moves generalizing s with
  | nil => exact .refl
  | cons m rest ih =>
    have onward := ih ((s.step m).getD s)
    cases moved : s.step m with
    | none =>
      rw [moved] at onward
      rw [play, List.foldl_cons, moved]
      exact onward
    | some t =>
      rw [moved] at onward
      rw [play, List.foldl_cons, moved]
      exact .head ⟨m, moved⟩ onward

theorem Leads.returned (leads : s.Leads t) {v : Verdict}
    (closed : s.launcher? j = some (.returned v)) : t.launcher? j = some (.returned v) := by
  obtain ⟨l, here, launcher⟩ := Option.map_eq_some_iff.mp closed
  obtain ⟨n, later, follows⟩ := leads.launches here
  rw [launcher?, later, Option.map_some, follows.returned v launcher]

theorem Enabled.leads {i : Option Nat} (enabled : s.Enabled i) (leads : s.Leads t) :
    t.Enabled i := by
  obtain ⟨j, a, same, returned⟩ := enabled
  exact ⟨j, a, same, leads.returned returned⟩

theorem not_enabled_none : ¬ s.Enabled none :=
  fun ⟨_, _, same, _⟩ => nomatch same

theorem launcher?_setLaunch {l : Launch} (here : s.launches[j]? = some l) (m : Launch) (k : Nat) :
    (s.setLaunch j m).launcher? k = if j = k then some m.launcher else s.launcher? k := by
  rw [launcher?, launch_setLaunch here]
  split <;> rfl

theorem play_act {l m : Launch} {a : Action} (here : s.launches[j]? = some l)
    (acted : l.step a = some m) : s.play [.act j a] = s.setLaunch j m := by
  simp [play, step, here, acted]

theorem play_act_idle {l : Launch} {a : Action} (here : s.launches[j]? = some l)
    (idle : l.step a = none) : s.play [.act j a] = s := by
  simp [play, step, here, idle]

theorem play_act_cases (s : State) (j : Nat) (a : Action) :
    s.play [.act j a] = s ∨ ∃ l m, s.launches[j]? = some l ∧ l.step a = some m ∧
      s.play [.act j a] = s.setLaunch j m := by
  cases here : s.launches[j]? with
  | none => exact .inl (by simp [play, step, here])
  | some l =>
    cases acted : l.step a with
    | none => exact .inl (play_act_idle here acted)
    | some m => exact .inr ⟨l, m, rfl, acted, play_act here acted⟩

theorem play_cons (s : State) (m : Move) (ms : List Move) :
    s.play (m :: ms) = (s.play [m]).play ms := rfl

theorem launcher?_aside {a : Action} (aside : a.aside = true) (k : Nat) :
    (s.play [.act j a]).launcher? k = s.launcher? k := by
  obtain same | ⟨l, m, here, acted, same⟩ := s.play_act_cases j a
  · rw [same]
  · rw [same, launcher?_setLaunch here]
    split
    · next eq =>
      cases eq
      rw [launcher?, here, Option.map_some, Launch.launcher_step aside acted]
    · rfl

theorem launcher?_asides (actions : List Action) (aside : ∀ a ∈ actions, a.aside = true)
    (k : Nat) : (s.play (actions.map (.act j))).launcher? k = s.launcher? k := by
  induction actions generalizing s with
  | nil => rfl
  | cons a rest ih =>
    rw [List.map_cons, play_cons, ih fun b mem => aside b (List.mem_cons_of_mem a mem)]
    exact launcher?_aside (aside a List.mem_cons_self) k

theorem slots_acts (s : State) (j : Nat) (actions : List Action) :
    (s.play (actions.map (.act j))).slots = s.slots := by
  induction actions generalizing s with
  | nil => rfl
  | cons a rest ih =>
    rw [List.map_cons, play_cons, ih]
    obtain same | ⟨l, m, here, acted, same⟩ := s.play_act_cases j a <;> rw [same]
    rfl

theorem Quiet.of_launcher? {i : Option Nat} (quiet : s.Quiet i)
    (same : ∀ k, t.launcher? k = s.launcher? k) : t.Quiet i :=
  fun k x here => quiet k x ((same k).symm.trans here)

theorem Quiet.setLaunch {i : Option Nat} (quiet : s.Quiet i) {l m : Launch} {v : Verdict}
    (here : s.launches[j]? = some l) (closed : m.launcher = .returned v) :
    (s.setLaunch j m).Quiet i := by
  intro k x at_k
  rw [launcher?_setLaunch here] at at_k
  split at at_k
  · cases at_k
    exact .inl ⟨v, closed⟩
  · exact quiet k x at_k

theorem Quiet.timeOut (quiet : s.Quiet (some j)) : (s.play [.act j .timeOut]).Quiet none := by
  intro k x at_k
  obtain same | ⟨l, m, here, acted, same⟩ := s.play_act_cases j .timeOut
  · rw [same] at at_k
    obtain closed | ⟨⟨⟩, rfl⟩ := quiet k x at_k
    · exact .inl closed
    · obtain ⟨l, here, waiting⟩ := Option.map_eq_some_iff.mp at_k
      have acted : l.step .timeOut = some { l with launcher := .returned .notReady } := by
        rw [Launch.step, waiting]
      rw [play_act here acted] at same
      rw [← same, launcher?_setLaunch here, if_pos rfl] at at_k
      cases at_k
  · rw [same, launcher?_setLaunch here] at at_k
    split at at_k
    · cases at_k
      obtain ⟨kind, launcher, worker, ready, publication⟩ := l
      cases launcher <;> cases acted
      exact .inl ⟨_, rfl⟩
    · next other =>
      obtain closed | ⟨⟨⟩, -⟩ := quiet k x at_k
      · exact .inl closed
      · exact absurd rfl other

theorem launcher?_announced {m : Launch} {a : SocketAddress} (here : s.launches[j]? = some m)
    (entered : m.launcher = .registered a) (k : Nat) :
    (s.play [.act j .announce, .act j .confirm]).launcher? k =
      if j = k then some (.returned (.enabled a)) else s.launcher? k := by
  have acted : m.step .announce =
      some { m with launcher := .returned (.enabled a), publication := .announced } := by
    rw [Launch.step, entered]
  have confirmed := launcher?_aside (s := s.play [.act j .announce]) (j := j) (a := .confirm) rfl k
  rw [play_cons, confirmed, play_act here acted, launcher?_setLaunch here]

/-- What comes of a launcher that looks for news and asks for its place if there is some: it goes
on as it was, it returns, or it gets its place. -/
inductive Heard (s : State) (j : Nat) (l : Launch) : State → Prop where
  | nothing : Heard s j l s
  | returned {m : Launch} {v : Verdict} (closed : m.launcher = .returned v) :
      Heard s j l (s.setLaunch j m)
  | registered {m : Launch} {a : SocketAddress} (waiting : l.launcher = .waiting)
      (entered : m.launcher = .registered a) (free : s.slots.get l.kind = none) :
      Heard s j l { s.setLaunch j m with slots := s.slots.set l.kind (some (.launch j)) }

theorem setLaunch_setLaunch (s : State) (j : Nat) (l m : Launch) :
    (s.setLaunch j l).setLaunch j m = s.setLaunch j m := by
  rw [setLaunch, setLaunch, setLaunch, List.set_set]

theorem play_register {l : Launch} (here : s.launches[j]? = some l) :
    s.play [.register j] = (s.register j l).getD s := by
  simp [play, step, here]

theorem play_register_idle {l : Launch} (here : s.launches[j]? = some l)
    (uninformed : ∀ a, l.launcher ≠ .informed a) : s.play [.register j] = s := by
  rw [play_register here, register]
  split
  · next a informed => exact absurd informed (uninformed a)
  · rfl

theorem launch_setLaunch_self {l : Launch} (here : s.launches[j]? = some l) (m : Launch) :
    (s.setLaunch j m).launches[j]? = some m :=
  (launch_setLaunch here m j).trans (if_pos rfl)

theorem heard_informed {l m : Launch} {a : SocketAddress} (here : s.launches[j]? = some l)
    (waiting : l.launcher = .waiting) (informed : m.launcher = .informed a)
    (kind : m.kind = l.kind) : Heard s j l ((s.setLaunch j m).play [.register j]) := by
  rw [play_register (launch_setLaunch_self here m), register, informed]
  dsimp only
  split
  · rw [Option.getD_some, setLaunch_setLaunch]
    exact .returned rfl
  · next free =>
    rw [Option.getD_some, setLaunch_setLaunch, kind]
    rw [kind] at free
    exact .registered waiting rfl (Option.not_isSome_iff_eq_none.mp free)

theorem heard {l : Launch} (here : s.launches[j]? = some l)
    (settled : (∃ v, l.launcher = .returned v) ∨ l.launcher = .waiting) :
    Heard s j l ((s.play [.act j .receive]).play [.register j]) := by
  have unheard (idle : l.step .receive = none) :
      Heard s j l ((s.play [.act j .receive]).play [.register j]) := by
    rw [play_act_idle here idle, play_register_idle here]
    · exact .nothing
    · intro a informed
      obtain ⟨v, closed⟩ | waiting := settled
      · cases closed.symm.trans informed
      · cases waiting.symm.trans informed
  obtain ⟨v, closed⟩ | waiting := settled
  · exact unheard (by rw [Launch.step, closed])
  · rcases ready : l.ready with _ | (a | fault) | _
    · exact unheard (by rw [Launch.step, waiting, ready])
    · have acted : l.step .receive = some { l with launcher := .informed a, ready := .free } := by
        rw [Launch.step, waiting, ready]
      rw [play_act here acted]
      exact heard_informed here waiting rfl rfl
    · have acted : l.step .receive = some
          { l with launcher := .returned (.unresolvable fault), ready := .free } := by
        rw [Launch.step, waiting, ready]
      rw [play_act here acted, play_register_idle (launch_setLaunch_self here _) fun _ h => by cases h]
      exact .returned rfl
    · exact unheard (by rw [Launch.step, waiting, ready])

end State

end LogRelay.Handshake
