import LogRelay.Proofs.Meantime

/-!
A launch from beginning to end. Its launcher has returned when it is over, however it went; if it
failed, the registry is as the others around it and the records of the library left it.
-/

namespace LogRelay

namespace Handshake.State

variable {s : State} {j : Nat}

theorem launched_taken {kind : Transport} (taken : (s.slots.get kind).isSome) :
    s.play [.launch kind] =
      { s with launches := s.launches ++ [Launch.refusedAtOnce kind] } := by
  simp [play, step, taken]

theorem launched_free {kind : Transport} (free : ¬ (s.slots.get kind).isSome) :
    s.play [.launch kind] = { s with launches := s.launches ++ [Launch.begun kind] } := by
  simp [play, step, free]

theorem launcher?_append {l : Launch} {k : Nat} {x : Launcher}
    (here : ({ s with launches := s.launches ++ [l] } : State).launcher? k = some x) :
    s.launcher? k = some x ∨ k = s.launches.length ∧ x = l.launcher := by
  obtain ⟨n, at_k, launcher⟩ := Option.map_eq_some_iff.mp here
  rw [List.getElem?_append] at at_k
  split at at_k
  · exact .inl (by rw [launcher?, at_k, Option.map_some, launcher])
  · next past =>
    obtain ⟨lt, same⟩ := List.getElem?_eq_some_iff.mp at_k
    rw [List.length_singleton] at lt
    rw [List.getElem_singleton] at same
    exact .inr ⟨by omega, by rw [same, launcher]⟩

theorem Quiet.refused (quiet : s.Quiet none) (kind : Transport) :
    Quiet none { s with launches := s.launches ++ [Launch.refusedAtOnce kind] } := by
  intro k x here
  obtain old | ⟨-, rfl⟩ := launcher?_append here
  · exact quiet k x old
  · exact .inl ⟨_, rfl⟩

theorem Quiet.begun (quiet : s.Quiet none) (kind : Transport) :
    Quiet (some s.launches.length) { s with launches := s.launches ++ [Launch.begun kind] } := by
  intro k x here
  obtain old | ⟨rfl, rfl⟩ := launcher?_append here
  · exact (quiet k x old).imp_right fun waits => nomatch waits.1
  · exact .inr ⟨rfl, rfl⟩

theorem Quiet.weaken (quiet : s.Quiet none) (i : Option Nat) : s.Quiet i :=
  fun k x here => (quiet k x here).imp_right fun waits => nomatch waits.1

theorem Quiet.givenUp (quiet : s.Quiet (some j)) :
    (s.play [.act j .timeOut, .act j .hangUp, .act j .withdraw]).Quiet none :=
  quiet.timeOut.of_launcher?
    (launcher?_asides (s := s.play [.act j .timeOut]) (j := j) [.hangUp, .withdraw] (by decide))

theorem Quiet.unresolved {kind : Transport} (quiet : s.Quiet (some j))
    (here : s.launches[j]? = some (Launch.begun kind)) (fault : Fault) :
    (s.play [.act j (.resolve (.error fault)), .act j .receive, .act j .hangUp,
      .act j .withdraw]).Quiet none := by
  have closed : (s.play [.act j (.resolve (.error fault)), .act j .receive]) =
      s.setLaunch j { Launch.begun kind with
        launcher := .returned (.unresolvable fault), worker := .exited } := by
    rw [play_cons, play_act here rfl, play_act (launch_setLaunch_self here _) rfl,
      setLaunch_setLaunch]
    rfl
  have last : Quiet none (s.play [.act j (.resolve (.error fault)), .act j .receive]) := by
    rw [closed]
    intro k x at_k
    rw [launcher?_setLaunch here] at at_k
    split at at_k
    · cases at_k
      exact .inl ⟨_, rfl⟩
    · next other =>
      exact (quiet k x at_k).imp_right fun waits => absurd (Option.some.inj waits.1) other
  exact last.of_launcher?
    (launcher?_asides (s := s.play [.act j (.resolve (.error fault)), .act j .receive]) (j := j)
      [.hangUp, .withdraw] (by decide))

end Handshake.State

namespace Program

variable {others : Others} {p q : Program} {j : Nat}

structure Attempted (others : Others) (p : Program) (failed : Prop) (q : Program) : Prop where
  installed : q.installed = p.installed
  maxLevel : q.maxLevel = p.maxLevel
  echo : q.desk.main.echo = p.desk.main.echo
  sound : failed ∨ (∀ kind, others.takes kind) → q.Sound others none
  spared : failed → p.logger = .router → ∃ new, Spared others p new q

namespace Sound

theorem begin (sound : p.Sound others none) {kind : Transport}
    (free : ¬ p.registry.isActive kind) :
    (p.play [.launch kind]).Sound others (some p.handshake.launches.length) := by
  have begun := Handshake.State.launched_free (sound.unheld free)
  have leads := p.handshake.leads_play [.launch kind]
  refine ⟨sound.clear, fun k => ?_, ?_, fun o mem => ?_, fun k there => ?_⟩
  · rw [play, begun]
    exact sound.places k
  · rw [play, begun]
    exact sound.quiet.begun kind
  · obtain ⟨launched, settled, entry⟩ := (sound.openings o mem).leads leads
    exact ⟨launched, .inr (settled.resolve_left nofun), entry⟩
  · exact .inl ((sound.stations k there).resolve_right Handshake.State.not_enabled_none)

theorem closed (sound : q.Sound others (some j)) (quiet : q.handshake.Quiet none)
    (takes : q.handshake.Enabled (some j) → ∀ kind, others.takes kind) :
    q.Sound others none where
  clear := sound.clear
  places := sound.places
  quiet := quiet
  openings o mem := by
    obtain ⟨⟨l, here, kind⟩, -, entry⟩ := sound.openings o mem
    have launcher : q.handshake.launcher? o.launch = some l.launcher :=
      congrArg (Option.map _) here
    obtain ⟨v, closed⟩ | waits := quiet o.launch _ launcher
    · exact ⟨⟨l, here, kind⟩, .inr ⟨v, closed ▸ launcher⟩, entry⟩
    · exact nomatch waits.1
  stations kind there := by
    obtain takes' | enabled := sound.stations kind there
    · exact .inl takes'
    · exact .inl (takes enabled kind)

end Sound

theorem begun_last (sound : p.Sound others none) {kind : Transport}
    (free : ¬ p.registry.isActive kind) :
    (p.play [.launch kind]).handshake.launches[p.handshake.launches.length]? =
      some (Handshake.Launch.begun kind) := by
  rw [play, Handshake.State.launched_free (sound.unheld free)]
  exact List.getElem?_concat_length

theorem not_enabled_of_error {c : Config} {e : StartError} (failed : q.result c j = .error e) :
    ¬ q.handshake.Enabled (some j) := by
  rintro ⟨_, a, ⟨⟩, returned⟩
  have launcher : q.launcher? j = some (.returned (.enabled a)) := returned
  rw [result, launcher] at failed
  cases failed

theorem Proceeds.attempted {c : Config}
    (onward : Proceeds others (some j) (p.play [.launch c.kind]) q)
    (actions : List Handshake.Action)
    (quiet : (q.handshake.play (actions.map (.act j))).Quiet none) :
    Attempted others p (∃ e, (q.act j actions).result c j = .error e) (q.act j actions) := by
  have last := onward.trans (onward.sound.negotiated (q.handshake.leads_play _)
    (q.handshake.slots_acts j actions) (quiet.weaken (some j)))
  refine ⟨last.installed, last.maxLevel, last.echo, fun how => ?_, ?_⟩
  · exact last.sound.closed quiet fun enabled =>
      how.resolve_left fun ⟨_, failed⟩ => not_enabled_of_error failed enabled
  · rintro ⟨e, failed⟩ router
    obtain ⟨new, spared⟩ := last.spared router (not_enabled_of_error failed)
    exact ⟨new, spared.journal, spared.channel, spared.free⟩

theorem Sound.refused (sound : p.Sound others none) {kind : Transport}
    (active : p.registry.isActive kind) (failed : Prop) :
    Attempted others p failed (p.play [.launch kind]) := by
  have taken : (p.handshake.slots.get kind).isSome = true := by
    rw [← sound.places kind, active]
  have refused := Handshake.State.launched_taken taken
  have onward := sound.negotiated (p.handshake.leads_play [.launch kind])
    (by rw [refused]) (by rw [refused]; exact sound.quiet.refused kind)
  exact ⟨rfl, rfl, rfl, fun _ => onward.sound, fun _ router =>
    onward.spared router Handshake.State.not_enabled_none⟩

theorem launch_attempted (sound : p.Sound others none) (c : Config) (connector : Transport)
    (intruder : Option Channel) (entry : intruder.isSome → others.enters c.kind) :
    Attempted others p (∃ e, (p.launch c connector intruder).1 = .error e)
      (p.launch c connector intruder).2 := by
  unfold launch
  split
  · exact ⟨rfl, rfl, rfl, fun _ => sound, fun _ _ => ⟨[], .of_same rfl rfl⟩⟩
  · dsimp only
    split
    · next active => exact sound.refused active _
    · next free =>
      have begun := sound.begin free
      have here := begun_last sound free
      split
      · next fault network journal _ =>
        have moved : Proceeds others (some p.handshake.launches.length) (p.play [.launch c.kind])
            { p.play [.launch c.kind] with network := network } :=
          begun.moved begun.openings begun.stations
        have kept := moved.trans (moved.sound.keep journal)
        exact kept.attempted [.resolve (.error fault), .receive, .hangUp, .withdraw]
          (kept.sound.quiet.unresolved here fault)
      · next s _ =>
        have resolved := begun.asides p.handshake.launches.length
          [.resolve (.ok s.worker.endpoint)] (List.forall_mem_singleton.mpr rfl)
        have known : Opening.Known others (some p.handshake.launches.length)
            (p.play [.launch c.kind]).handshake
            ⟨p.handshake.launches.length, c, intruder, station s⟩ :=
          ⟨⟨_, here, rfl⟩, .inl rfl, entry⟩
        have tried := resolved.trans
          (resolved.sound.afterAttempt (known.leads resolved.leads) s.connect)
        split
        · have waited := tried.trans (tried.sound.pass c.readyTimeout.nanos
            (!·.waiting p.handshake.launches.length))
          exact waited.attempted [.timeOut, .hangUp, .withdraw] waited.sound.quiet.givenUp
        · exact tried.attempted [.timeOut, .hangUp, .withdraw] tried.sound.quiet.givenUp

end Program

end LogRelay
