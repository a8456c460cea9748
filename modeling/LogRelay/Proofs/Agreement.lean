import LogRelay.Handshake
import Mathlib.Logic.Relation

/-!
Launchers, workers and the registry agree in every state that any order of moves leads to. A launch
is always in one of ten situations, and its own moves lead from one of them to another; what the
registry holds and what a party has settled once stays for good.
-/

namespace LogRelay.Handshake

def Verdict.Refuses (v : Verdict) : Prop :=
  ∀ a, v ≠ .enabled a

namespace Launch

/-- The situations of a launch. `held` says that the registry holds its channel. -/
inductive Agrees (held : Prop) : Launch → Prop where
  | resolving {kind : Transport} (unheld : ¬ held) :
      Agrees held ⟨kind, .waiting, .resolving, .free, .pending⟩
  | connecting {kind : Transport} {a : SocketAddress} (unheld : ¬ held) :
      Agrees held ⟨kind, .waiting, .connecting a, .free, .pending⟩
  | linked {kind : Transport} {a : SocketAddress} (unheld : ¬ held) :
      Agrees held ⟨kind, .waiting, .linked a, .free, .pending⟩
  | unresolvable {kind : Transport} {fault : Fault} (unheld : ¬ held) :
      Agrees held ⟨kind, .waiting, .exited, .holds (.unresolvable fault), .pending⟩
  | reported {kind : Transport} {a : SocketAddress} (unheld : ¬ held) :
      Agrees held ⟨kind, .waiting, .confirming a, .holds (.connected a), .pending⟩
  | informed {kind : Transport} {a : SocketAddress} (unheld : ¬ held) :
      Agrees held ⟨kind, .informed a, .confirming a, .free, .pending⟩
  | registered {kind : Transport} {a : SocketAddress} (place : held) :
      Agrees held ⟨kind, .registered a, .confirming a, .free, .pending⟩
  | announced {kind : Transport} {a : SocketAddress} {ready : ReadySlot} (place : held) :
      Agrees held ⟨kind, .returned (.enabled a), .confirming a, ready, .announced⟩
  | serving {kind : Transport} {a : SocketAddress} {ready : ReadySlot} (place : held) :
      Agrees held ⟨kind, .returned (.enabled a), .serving a, ready, .announced⟩
  | failed {kind : Transport} {v : Verdict} {worker : Stage} {ready : ReadySlot}
      {publication : Publication} (unheld : ¬ held) (refuses : v.Refuses)
      (idle : ∀ a, worker ≠ .serving a) (unsaid : publication ≠ .announced) :
      Agrees held ⟨kind, .returned v, worker, ready, publication⟩

/-- What a launch has once settled stays so. -/
structure Follows (l m : Launch) : Prop where
  kind : m.kind = l.kind
  returned : ∀ v, l.launcher = .returned v → m.launcher = .returned v
  serving : ∀ a, l.worker = .serving a → m.worker = .serving a

theorem Follows.refl (l : Launch) : l.Follows l :=
  ⟨rfl, fun _ => id, fun _ => id⟩

theorem Follows.trans {l m n : Launch} (first : l.Follows m) (second : m.Follows n) :
    l.Follows n :=
  ⟨second.kind.trans first.kind, fun v h => second.returned v (first.returned v h),
    fun a h => second.serving a (first.serving a h)⟩

theorem step_follows {l m : Launch} {a : Action} (acted : l.step a = some m) : l.Follows m := by
  obtain ⟨kind, launcher, worker, ready, publication⟩ := l
  cases a with
  | resolve answer =>
    cases worker <;> cases answer <;> cases acted
    all_goals exact ⟨rfl, fun _ => id, nofun⟩
  | connect accepted =>
    cases worker <;> cases accepted <;> cases acted
    all_goals exact ⟨rfl, fun _ => id, nofun⟩
  | report =>
    cases worker <;> cases acted
    exact ⟨rfl, fun _ => id, nofun⟩
  | confirm =>
    cases worker <;> cases publication <;> cases acted
    all_goals exact ⟨rfl, fun _ => id, nofun⟩
  | receive =>
    cases launcher <;> rcases ready with _ | (_ | _) | _ <;> cases acted
    all_goals exact ⟨rfl, nofun, fun _ => id⟩
  | timeOut =>
    cases launcher <;> cases acted
    exact ⟨rfl, nofun, fun _ => id⟩
  | announce =>
    cases launcher <;> cases acted
    exact ⟨rfl, nofun, fun _ => id⟩
  | hangUp =>
    cases launcher <;> cases acted
    exact ⟨rfl, fun _ => id, fun _ => id⟩
  | withdraw =>
    cases launcher <;> cases acted
    exact ⟨rfl, fun _ => id, fun _ => id⟩

namespace Agrees

variable {held : Prop}

theorem failed_step {l m : Launch} {v : Verdict} (unheld : ¬ held)
    (returned : l.launcher = .returned v) (refuses : v.Refuses)
    (idle : ∀ a, l.worker ≠ .serving a) (unsaid : l.publication ≠ .announced) {a : Action}
    (acted : l.step a = some m) : Agrees held m := by
  obtain ⟨kind, launcher, worker, ready, publication⟩ := l
  cases returned
  cases a with
  | resolve answer =>
    cases worker <;> cases answer <;> cases acted
    · refine .failed unheld refuses ?_ unsaid
      dsimp only
      split <;> nofun
    · exact .failed unheld refuses nofun unsaid
  | connect accepted =>
    cases worker <;> cases accepted <;> cases acted
    all_goals exact .failed unheld refuses nofun unsaid
  | report =>
    cases worker <;> cases acted
    refine .failed unheld refuses ?_ unsaid
    dsimp only
    split <;> nofun
  | confirm =>
    cases worker <;> cases publication <;> cases acted
    · exact absurd rfl unsaid
    · exact .failed unheld refuses nofun unsaid
  | receive | timeOut | announce => cases acted
  | hangUp =>
    cases acted
    exact .failed unheld refuses idle unsaid
  | withdraw =>
    cases acted
    refine .failed unheld refuses idle ?_
    cases publication with
    | announced => exact absurd rfl unsaid
    | pending | withdrawn => nofun

theorem of_iff {l : Launch} {other : Prop} (h : Agrees held l) (same : held ↔ other) :
    Agrees other l :=
  propext same ▸ h

theorem refused {l : Launch} {a : SocketAddress} (h : Agrees held l)
    (informed : l.launcher = .informed a) :
    Agrees held { l with launcher := .returned .alreadyActive } := by
  cases h <;> cases informed
  next unheld => exact .failed unheld nofun nofun nofun

theorem enters {l : Launch} {a : SocketAddress} (h : Agrees held l)
    (informed : l.launcher = .informed a) {other : Prop} (place : other) :
    Agrees other { l with launcher := .registered a } := by
  cases h <;> cases informed
  exact .registered place

theorem served {l : Launch} (h : Agrees held l) {a : SocketAddress}
    (serving : l.worker = .serving a) : held := by
  cases h with
  | serving place => exact place
  | failed _ _ idle _ => exact absurd serving (idle a)
  | _ => cases serving

theorem enabled {l : Launch} (h : Agrees held l) {a : SocketAddress}
    (returned : l.launcher = .returned (.enabled a)) :
    held ∧ (l.worker = .serving a ∨ l.worker = .confirming a ∧ l.publication = .announced) := by
  cases h with
  | announced place =>
    cases returned
    exact ⟨place, .inr ⟨rfl, rfl⟩⟩
  | serving place =>
    cases returned
    exact ⟨place, .inl rfl⟩
  | failed _ refuses _ _ =>
    cases returned
    exact absurd rfl (refuses a)
  | _ => cases returned

theorem unheld {l : Launch} (h : Agrees held l) {v : Verdict}
    (returned : l.launcher = .returned v) (refuses : v.Refuses) :
    ¬ held ∧ ∀ a, l.worker ≠ .serving a := by
  cases h with
  | failed unheld _ idle _ => exact ⟨unheld, idle⟩
  | announced | serving =>
    cases returned
    exact absurd rfl (refuses _)
  | _ => cases returned

theorem step {l m : Launch} (h : Agrees held l) {a : Action} (acted : l.step a = some m) :
    Agrees held m := by
  cases h with
  | resolving unheld =>
    cases a with
    | resolve answer =>
      cases answer <;> cases acted
      · exact .unresolvable unheld
      · exact .connecting unheld
    | timeOut =>
      cases acted
      exact .failed unheld nofun nofun nofun
    | _ => cases acted
  | connecting unheld =>
    cases a with
    | connect accepted =>
      cases accepted <;> cases acted
      · exact .connecting unheld
      · exact .linked unheld
    | timeOut =>
      cases acted
      exact .failed unheld nofun nofun nofun
    | _ => cases acted
  | linked unheld =>
    cases a with
    | report =>
      cases acted
      exact .reported unheld
    | timeOut =>
      cases acted
      exact .failed unheld nofun nofun nofun
    | _ => cases acted
  | unresolvable unheld =>
    cases a with
    | receive | timeOut =>
      cases acted
      exact .failed unheld nofun nofun nofun
    | _ => cases acted
  | reported unheld =>
    cases a with
    | receive =>
      cases acted
      exact .informed unheld
    | timeOut =>
      cases acted
      exact .failed unheld nofun nofun nofun
    | _ => cases acted
  | informed unheld => cases a <;> cases acted
  | registered place =>
    cases a with
    | announce =>
      cases acted
      exact .announced place
    | _ => cases acted
  | announced place =>
    cases a with
    | confirm =>
      cases acted
      exact .serving place
    | hangUp | withdraw =>
      cases acted
      exact .announced place
    | _ => cases acted
  | serving place =>
    cases a with
    | hangUp | withdraw =>
      cases acted
      exact .serving place
    | _ => cases acted
  | failed unheld refuses idle unsaid => exact failed_step unheld rfl refuses idle unsaid acted

end Agrees

end Launch

namespace State

inductive Stepped (s : State) : State → Prop where
  | launched {l : Launch} (kind : Transport)
      (fresh : l = Launch.begun kind ∨ l = Launch.refusedAtOnce kind) :
      Stepped s { s with launches := s.launches ++ [l] }
  | intruded {kind : Transport} (free : s.slots.get kind = none) :
      Stepped s { s with slots := s.slots.set kind (some .outsider) }
  | acted {i : Nat} {l m : Launch} {a : Action} (here : s.launches[i]? = some l)
      (acted : l.step a = some m) : Stepped s (s.setLaunch i m)
  | refused {i : Nat} {l : Launch} {a : SocketAddress} (here : s.launches[i]? = some l)
      (informed : l.launcher = .informed a) :
      Stepped s (s.setLaunch i { l with launcher := .returned .alreadyActive })
  | registered {i : Nat} {l : Launch} {a : SocketAddress} (here : s.launches[i]? = some l)
      (informed : l.launcher = .informed a) (free : s.slots.get l.kind = none) :
      Stepped s
        { s.setLaunch i { l with launcher := .registered a } with
          slots := s.slots.set l.kind (some (.launch i)) }

theorem stepped {s t : State} {m : Move} (moved : s.step m = some t) : s.Stepped t := by
  cases m with
  | launch kind =>
    cases moved
    refine .launched kind ?_
    split
    · exact .inr rfl
    · exact .inl rfl
  | intrude kind =>
    obtain ⟨free, ⟨⟩⟩ := Option.ite_none_left_eq_some.mp moved
    exact .intruded (Option.not_isSome_iff_eq_none.mp free)
  | register i =>
    obtain ⟨l, here, taken⟩ := Option.bind_eq_some_iff.mp moved
    rw [register] at taken
    split at taken
    · next a informed =>
      split at taken
      · cases taken
        exact .refused here informed
      · next free =>
        cases taken
        exact .registered here informed (Option.not_isSome_iff_eq_none.mp free)
    · cases taken
  | act i a =>
    obtain ⟨l, here, done⟩ := Option.bind_eq_some_iff.mp moved
    obtain ⟨m, acted, rfl⟩ := Option.map_eq_some_iff.mp done
    exact .acted here acted

section
variable {s t : State}

theorem launch_setLaunch {i : Nat} {l : Launch} (here : s.launches[i]? = some l) (m : Launch)
    (j : Nat) : (s.setLaunch i m).launches[j]? = if i = j then some m else s.launches[j]? := by
  have lt : i < s.launches.length := (List.getElem?_eq_some_iff.mp here).1
  rw [setLaunch, List.getElem?_set, if_pos lt]

structure Sound (s : State) : Prop where
  agrees : ∀ {i : Nat} {l : Launch}, s.launches[i]? = some l →
    Launch.Agrees (s.slots.get l.kind = some (.launch i)) l
  holders : ∀ {kind : Transport} {i : Nat}, s.slots.get kind = some (.launch i) →
    ∃ l, s.launches[i]? = some l ∧ l.kind = kind

namespace Sound

theorem initial : State.initial.Sound where
  agrees h := by cases h
  holders {kind i} h := by
    rw [State.initial, Transport.Table.get_fill] at h
    cases h

theorem launched (h : s.Sound) {l : Launch} {kind : Transport}
    (fresh : l = Launch.begun kind ∨ l = Launch.refusedAtOnce kind) :
    Sound { s with launches := s.launches ++ [l] } := by
  have unheld {kind : Transport} : s.slots.get kind ≠ some (.launch s.launches.length) := by
    intro held
    obtain ⟨m, here, _⟩ := h.holders held
    exact absurd (List.getElem?_eq_some_iff.mp here).1 (Nat.lt_irrefl _)
  refine ⟨fun {i m} here => ?_, fun held => ?_⟩
  · obtain old | ⟨rfl, rfl⟩ : s.launches[i]? = some m ∨ i = s.launches.length ∧ m = l := by
      rw [List.getElem?_append] at here
      split at here
      · exact .inl here
      · next past =>
        have only := List.getElem?_eq_some_iff.mp here
        simp only [List.length_singleton, List.getElem_singleton] at only
        exact .inr ⟨by have := only.1; omega, only.2.symm⟩
    · exact h.agrees old
    · obtain rfl | rfl := fresh
      · exact .resolving unheld
      · exact .failed unheld nofun nofun nofun
  · obtain ⟨m, here, same⟩ := h.holders held
    exact ⟨m, by rw [List.getElem?_append_left (List.getElem?_eq_some_iff.mp here).1, here], same⟩

theorem setLaunch (h : s.Sound) {i : Nat} {l m : Launch} (here : s.launches[i]? = some l)
    (kind : m.kind = l.kind) (agrees : Launch.Agrees (s.slots.get l.kind = some (.launch i)) m) :
    (s.setLaunch i m).Sound := by
  refine ⟨fun {j n} at_j => ?_, fun {place j} held => ?_⟩
  · rw [launch_setLaunch here] at at_j
    split at at_j
    · next same =>
      cases same
      cases at_j
      rw [kind]
      exact agrees
    · exact h.agrees at_j
  · obtain ⟨n, at_j, same⟩ := h.holders held
    rw [launch_setLaunch here]
    split
    · next eq =>
      cases eq
      cases here.symm.trans at_j
      exact ⟨m, rfl, kind.trans same⟩
    · exact ⟨n, at_j, same⟩

theorem intruded (h : s.Sound) {kind : Transport} (free : s.slots.get kind = none) :
    Sound { s with slots := s.slots.set kind (some .outsider) } := by
  refine ⟨fun {i l} here => (h.agrees here).of_iff ?_, fun {place i} held => ?_⟩
  · rw [Transport.Table.get_set]
    split
    · next same => simp [same, free]
    · rfl
  · rw [Transport.Table.get_set] at held
    split at held
    · cases held
    · exact h.holders held

theorem registered (h : s.Sound) {i : Nat} {l : Launch} {a : SocketAddress}
    (here : s.launches[i]? = some l) (informed : l.launcher = .informed a)
    (free : s.slots.get l.kind = none) :
    Sound
      { s.setLaunch i { l with launcher := .registered a } with
        slots := s.slots.set l.kind (some (.launch i)) } := by
  refine ⟨fun {j n} at_j => ?_, fun {place j} held => ?_⟩
  · rw [launch_setLaunch here] at at_j
    split at at_j
    · next same =>
      cases same
      cases at_j
      exact (h.agrees here).enters informed ((Transport.Table.get_set _ _ _ _).trans (if_pos rfl))
    · next other =>
      refine (h.agrees at_j).of_iff ?_
      rw [Transport.Table.get_set]
      split
      · next same => simp [same, free, other]
      · rfl
  · rw [launch_setLaunch here]
    rw [Transport.Table.get_set] at held
    split at held
    · next same =>
      cases held
      exact ⟨_, if_pos rfl, same.symm⟩
    · obtain ⟨n, at_j, same⟩ := h.holders held
      split
      · next eq =>
        cases eq
        cases here.symm.trans at_j
        exact ⟨_, rfl, same⟩
      · exact ⟨n, at_j, same⟩

theorem step (h : s.Sound) {m : Move} (moved : s.step m = some t) : t.Sound := by
  cases stepped moved with
  | launched kind fresh => exact h.launched fresh
  | intruded free => exact h.intruded free
  | acted here acted =>
    exact h.setLaunch here (Launch.step_follows acted).kind ((h.agrees here).step acted)
  | refused here informed => exact h.setLaunch here rfl ((h.agrees here).refused informed)
  | registered here informed free => exact h.registered here informed free

end Sound

theorem Reachable.sound (reachable : Reachable s) : s.Sound := by
  induction reachable with
  | initial => exact .initial
  | step m _ moved ih => exact ih.step moved

def Leads : State → State → Prop :=
  Relation.ReflTransGen fun s t => ∃ m, s.step m = some t

theorem Reachable.leads (reachable : Reachable s) (leads : s.Leads t) : Reachable t := by
  induction leads with
  | refl => exact reachable
  | tail _ last ih =>
    obtain ⟨m, moved⟩ := last
    exact .step m ih moved

theorem step_launches {m : Move} (moved : s.step m = some t) {i : Nat} {l : Launch}
    (here : s.launches[i]? = some l) : ∃ n, t.launches[i]? = some n ∧ l.Follows n := by
  have one {j : Nat} {k n : Launch} (at_j : s.launches[j]? = some k) (follows : k.Follows n) :
      ∃ n', (s.setLaunch j n).launches[i]? = some n' ∧ l.Follows n' := by
    rw [launch_setLaunch at_j]
    split
    · next same =>
      cases same
      cases here.symm.trans at_j
      exact ⟨n, rfl, follows⟩
    · exact ⟨l, here, .refl l⟩
  cases stepped moved with
  | launched kind fresh =>
    have lt := (List.getElem?_eq_some_iff.mp here).1
    exact ⟨l, by rw [List.getElem?_append_left lt, here], .refl l⟩
  | intruded free => exact ⟨l, here, .refl l⟩
  | acted at_j acted => exact one at_j (Launch.step_follows acted)
  | refused at_j informed => exact one at_j ⟨rfl, by rw [informed]; nofun, fun _ => id⟩
  | registered at_j informed free => exact one at_j ⟨rfl, by rw [informed]; nofun, fun _ => id⟩

theorem step_slots {m : Move} (moved : s.step m = some t) {kind : Transport} {h : Holder}
    (held : s.slots.get kind = some h) : t.slots.get kind = some h := by
  cases stepped moved with
  | launched | acted | refused => exact held
  | @intruded place free =>
    have other : kind ≠ place := by
      rintro rfl
      rw [free] at held
      cases held
    rw [Transport.Table.get_set, if_neg other, held]
  | @registered i l a here informed free =>
    have other : kind ≠ l.kind := by
      rintro rfl
      rw [free] at held
      cases held
    rw [Transport.Table.get_set, if_neg other, held]

theorem Leads.launches (leads : s.Leads t) {i : Nat} {l : Launch}
    (here : s.launches[i]? = some l) : ∃ n, t.launches[i]? = some n ∧ l.Follows n := by
  induction leads with
  | refl => exact ⟨l, here, .refl l⟩
  | tail _ last ih =>
    obtain ⟨m, moved⟩ := last
    obtain ⟨n, now, first⟩ := ih
    obtain ⟨n', later, second⟩ := step_launches moved now
    exact ⟨n', later, first.trans second⟩

theorem Leads.slots (leads : s.Leads t) {kind : Transport} {h : Holder}
    (held : s.slots.get kind = some h) : t.slots.get kind = some h := by
  induction leads with
  | refl => exact held
  | tail _ last ih =>
    obtain ⟨m, moved⟩ := last
    exact step_slots moved ih

theorem Sound.unheld (h : s.Sound) {i : Nat} {l : Launch} {v : Verdict}
    (here : s.launches[i]? = some l) (returned : l.launcher = .returned v) (refuses : v.Refuses)
    (kind : Transport) : s.slots.get kind ≠ some (.launch i) := by
  intro held
  obtain ⟨n, at_i, rfl⟩ := h.holders held
  cases here.symm.trans at_i
  exact ((h.agrees here).unheld returned refuses).1 held

end

/-- What holds at every time. A launch that was refused has no part in the registry and in the
service before and after. -/
structure Agreed (s : State) : Prop where
  served : ∀ i l a, s.launches[i]? = some l → l.worker = .serving a →
    s.slots.get l.kind = some (.launch i)
  alone : ∀ (i j : Nat) (l n : Launch) (a b : SocketAddress),
    s.launches[i]? = some l → s.launches[j]? = some n → l.worker = .serving a →
      n.worker = .serving b → l.kind = n.kind → i = j
  enabled : ∀ i l a, s.launches[i]? = some l → l.launcher = .returned (.enabled a) →
    s.slots.get l.kind = some (.launch i) ∧
      (l.worker = .serving a ∨ l.worker = .confirming a ∧ l.publication = .announced)
  refused : ∀ i l v, s.launches[i]? = some l → l.launcher = .returned v → v.Refuses →
    ∀ t, s.Leads t ∨ t.Leads s →
      (∀ kind, t.slots.get kind ≠ some (.launch i)) ∧
        ∀ n a, t.launches[i]? = some n → n.worker ≠ .serving a
  kept : ∀ kind h, s.slots.get kind = some h → ∀ t, s.Leads t → t.slots.get kind = some h

theorem Reachable.agreed {s : State} (reachable : Reachable s) : s.Agreed := by
  have sound := reachable.sound
  have served : ∀ i l a, s.launches[i]? = some l → l.worker = .serving a →
      s.slots.get l.kind = some (.launch i) :=
    fun i l a here serving => (sound.agrees here).served serving
  refine ⟨served, ?_, ?_, ?_, fun kind h held t leads => leads.slots held⟩
  · intro i j l n a b at_i at_j serving_i serving_j same
    have held := served i l a at_i serving_i
    rw [same, served j n b at_j serving_j] at held
    cases held
    rfl
  · intro i l a here returned
    exact (sound.agrees here).enabled returned
  · rintro i l v here returned refuses t (after | before)
    · obtain ⟨n, later, follows⟩ := after.launches here
      have returned' := follows.returned v returned
      have sound' := (reachable.leads after).sound
      refine ⟨sound'.unheld later returned' refuses, fun n' a at_i => ?_⟩
      cases later.symm.trans at_i
      exact ((sound'.agrees later).unheld returned' refuses).2 a
    · refine ⟨fun kind held => ?_, fun n a earlier serving => ?_⟩
      · exact sound.unheld here returned refuses kind (before.slots held)
      · obtain ⟨n', at_i, follows⟩ := before.launches earlier
        cases here.symm.trans at_i
        exact ((sound.agrees here).unheld returned refuses).2 a (follows.serving a serving)

theorem Reachable.agreed_of_race :
    let a : SocketAddress := ⟨.v4 192 0 2 10, 514⟩
    let s := State.initial.play
      [.launch .udp, .launch .udp, .act 0 (.resolve (.ok a)), .act 1 (.resolve (.ok a)),
        .act 1 (.connect true), .act 0 (.connect false), .act 0 (.connect true), .act 0 .report,
        .act 1 .report, .act 0 .receive, .act 1 .receive, .register 1, .register 0,
        .act 0 .withdraw, .act 1 .announce, .act 0 .confirm, .act 1 .confirm]
    s.launches.map (·.worker) = [.exited, .serving a] ∧ s.Agreed :=
  ⟨by decide, Reachable.agreed (.play .initial _)⟩

end State

end LogRelay.Handshake
