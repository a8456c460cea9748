import LogRelay.Launch
import LogRelay.Proofs.Launchers
import LogRelay.Proofs.Records

/-!
What goes on in a program while one launch waits for its worker. The library writes records, the
workers of other launches take lines from their channels, and the worker of a launch that was given
up connects and leaves. Unless the launch that waits comes to a good end, no channel is registered
but by somebody from outside, and the settings of the program stay as they are.
-/

namespace LogRelay

/-- What the rest of the program may do meanwhile: the transports whose lines it takes, and those
whose channels it registers. -/
structure Others where
  takes : Transport → Prop
  enters : Transport → Prop

/-- Lines may be taken from the channel: others do so, or the launch at hand has put it there. -/
def Others.MayTake (others : Others) (i : Option Nat) (s : Handshake.State) (kind : Transport) :
    Prop :=
  others.takes kind ∨ s.Enabled i

theorem Others.MayTake.leads {others : Others} {i : Option Nat} {s t : Handshake.State}
    {kind : Transport} (may : others.MayTake i s kind) (leads : s.Leads t) :
    others.MayTake i t kind :=
  may.imp_right (·.leads leads)

namespace Channel

/-- The channel after the lines were offered to it in order. Lines were taken out of it only if
somebody does so. -/
def Tended (taken : Prop) (c : Channel) (lines : List Line) (d : Channel) : Prop :=
  ∃ answers, c.Kept answers d ∧ (answers.flatMap Answer.offers).map (·.line) = lines ∧
    (answers.flatMap Answer.got ≠ [] → taken)

variable {taken : Prop} {c d e : Channel}

theorem Tended.refl (taken : Prop) (c : Channel) : c.Tended taken [] c :=
  ⟨[], .refl c, rfl, fun got => absurd rfl got⟩

theorem Tended.trans {ls ms : List Line} (first : c.Tended taken ls d)
    (second : d.Tended taken ms e) : c.Tended taken (ls ++ ms) e := by
  obtain ⟨as, kept, offered, got⟩ := first
  obtain ⟨bs, kept', offered', got'⟩ := second
  refine ⟨as ++ bs, kept.trans kept', ?_, fun some => ?_⟩
  · rw [List.flatMap_append, List.map_append, offered, offered']
  · rw [List.flatMap_append] at some
    obtain none | earlier := Decidable.em (as.flatMap Answer.got = [])
    · exact got' (by rwa [none, List.nil_append] at some)
    · exact got earlier

theorem tended_offerAll (taken : Prop) (c : Channel) (ls : List Line) :
    c.Tended taken ls (c.offerAll ls).2 := by
  have pushed (os : List Offer) : (os.map Answer.pushed).flatMap Answer.offers = os ∧
      (os.map Answer.pushed).flatMap Answer.got = [] := by
    induction os with
    | nil => exact ⟨rfl, rfl⟩
    | cons o rest ih => exact ⟨congrArg (o :: ·) ih.1, ih.2⟩
  refine ⟨_, c.kept_offerAll ls, ?_, fun got => absurd (pushed _).2 got⟩
  rw [(pushed _).1, offered_offerAll]

theorem tended_take (allowed : taken) (c : Channel) : c.Tended taken [] c.take.2 :=
  ⟨_, c.kept_take, rfl, fun _ => allowed⟩

end Channel

namespace Registry

theorem isActive_act {α : Type} (r : Registry) (kind other : Transport)
    (f : Channel → α × Channel) : (r.act kind f).2.isActive other = r.isActive other := by
  rw [isActive, get_act]
  split
  · exact Option.isSome_map
  · rfl

theorem isActive_put {r : Registry} {slots : Transport.Table (Option Handshake.Holder)}
    (places : ∀ kind, r.isActive kind = (slots.get kind).isSome) (kind : Transport) (c : Channel)
    (h : Handshake.Holder) (other : Transport) :
    (r.put kind c).isActive other = ((slots.set kind (some h)).get other).isSome := by
  rw [isActive, get_put, Transport.Table.get_set]
  split
  · rfl
  · exact places other

end Registry

/-- The worker belongs to a launch that is over or to the one at hand. -/
structure Opening.Known (others : Others) (i : Option Nat) (s : Handshake.State) (o : Opening) :
    Prop where
  launched : ∃ l, s.launches[o.launch]? = some l ∧ l.kind = o.config.kind
  settled : i = some o.launch ∨ ∃ v, s.launcher? o.launch = some (.returned v)
  entry : o.intruder.isSome → others.enters o.config.kind

theorem Opening.Known.leads {others : Others} {i : Option Nat} {s t : Handshake.State}
    {o : Opening} (known : o.Known others i s) (leads : s.Leads t) : o.Known others i t where
  launched := by
    obtain ⟨l, here, kind⟩ := known.launched
    obtain ⟨n, later, follows⟩ := leads.launches here
    exact ⟨n, later, follows.kind.trans kind⟩
  settled := known.settled.imp_right fun ⟨v, closed⟩ => ⟨v, leads.returned closed⟩
  entry := known.entry

namespace Program

/-- The thread is outside of any emit, registry and launches agree on the places that are taken,
and nobody waits but the launch at hand. -/
structure Sound (others : Others) (i : Option Nat) (p : Program) : Prop where
  clear : p.desk.emitting = false
  places : ∀ kind, p.registry.isActive kind = (p.handshake.slots.get kind).isSome
  quiet : p.handshake.Quiet i
  openings : ∀ o ∈ p.openings, o.Known others i p.handshake
  stations : ∀ kind, (p.stations.get kind).isSome → others.MayTake i p.handshake kind

/-- The registry from one point to another: the lines of the new records were offered to its
channels, and nothing else was done with it but by others. -/
structure Spared (others : Others) (p : Program) (new : List Record) (q : Program) : Prop where
  journal : q.journal.toList = p.journal.toList ++ new
  channel : ∀ kind c, p.registry.get kind = some c →
    ∃ d, q.registry.get kind = some d ∧ c.Tended (others.takes kind) (new.map Record.line) d
  free : ∀ kind, p.registry.get kind = none →
    q.registry.get kind = none ∨ others.enters kind

structure Proceeds (others : Others) (i : Option Nat) (p q : Program) : Prop where
  leads : p.handshake.Leads q.handshake
  logger : q.logger = p.logger
  installed : q.installed = p.installed
  maxLevel : q.maxLevel = p.maxLevel
  echo : q.desk.main.echo = p.desk.main.echo
  sound : q.Sound others i
  spared : p.logger = .router → ¬ q.handshake.Enabled i → ∃ new, Spared others p new q

variable {others : Others} {i : Option Nat} {p q r : Program}

theorem Spared.of_same (desk : q.desk = p.desk) (journal : q.journal = p.journal) :
    Spared others p [] q where
  journal := by rw [journal, List.append_nil]
  channel kind c here := ⟨c, by rwa [registry, desk], .refl _ c⟩
  free kind free := .inl (by rwa [registry, desk])

theorem Spared.trans {new new' : List Record} (first : Spared others p new q)
    (second : Spared others q new' r) : Spared others p (new ++ new') r where
  journal := by rw [second.journal, first.journal, List.append_assoc]
  channel kind c here := by
    obtain ⟨d, now, tended⟩ := first.channel kind c here
    obtain ⟨e, later, tended'⟩ := second.channel kind d now
    rw [List.map_append]
    exact ⟨e, later, tended.trans tended'⟩
  free kind free := (first.free kind free).elim (second.free kind) .inr

def conclude (p : Program) (o : Opening) (s : Session) : Program :=
  let kind := o.config.kind
  match p.launcher? o.launch with
  | some (.registered a) =>
    let p := p.setRegistry (p.registry.put kind (Channel.create o.config.capacity o.config.backend))
    let p := { p with stations := p.stations.set kind (some (station s)) }
    (p.act o.launch [.announce, .confirm]).keep [enabledRecord o.config a]
  | _ => (p.act o.launch [.hangUp, .withdraw, .confirm]).absorb s.leave

theorem arrive_eq (p : Program) (o : Opening) (s : Session) :
    p.arrive o s =
      let p := p.act o.launch [.connect true, .report]
      let p := (o.intruder.bind (p.register? o.config.kind ·)).getD p
      ((p.act o.launch [.receive]).play [.register o.launch]).conclude o s := rfl

theorem conclude_of_in {o : Opening} {a : SocketAddress} (s : Session)
    (launcher : p.launcher? o.launch = some (.registered a)) :
    p.conclude o s =
      ({ p.setRegistry (p.registry.put o.config.kind
          (Channel.create o.config.capacity o.config.backend)) with
        stations := p.stations.set o.config.kind (some (station s)) }.act o.launch
          [.announce, .confirm]).keep [enabledRecord o.config a] := by
  rw [conclude, launcher]
  rfl

theorem conclude_of_out {o : Opening} (s : Session)
    (launcher : ∀ a, p.launcher? o.launch ≠ some (.registered a)) :
    p.conclude o s = (p.act o.launch [.hangUp, .withdraw, .confirm]).absorb s.leave := by
  unfold conclude
  split
  · next a registered => exact absurd registered (launcher a)
  · rfl

namespace Proceeds

theorem refl (sound : p.Sound others i) : Proceeds others i p p :=
  ⟨.refl, rfl, rfl, rfl, rfl, sound, fun _ _ => ⟨[], .of_same rfl rfl⟩⟩

theorem trans (first : Proceeds others i p q) (second : Proceeds others i q r) :
    Proceeds others i p r where
  leads := first.leads.trans second.leads
  logger := second.logger.trans first.logger
  installed := second.installed.trans first.installed
  maxLevel := second.maxLevel.trans first.maxLevel
  echo := second.echo.trans first.echo
  sound := second.sound
  spared router unended := by
    obtain ⟨new, spared⟩ := first.spared router fun early => unended (early.leads second.leads)
    obtain ⟨new', spared'⟩ := second.spared (first.logger.trans router) unended
    exact ⟨new ++ new', spared.trans spared'⟩

end Proceeds

namespace Sound

theorem moved (sound : p.Sound others i) {network : Network}
    {stations : Transport.Table (Option Station)} {openings : List Opening} {clock : Nat}
    (known : ∀ o ∈ openings, o.Known others i p.handshake)
    (served : ∀ kind, (stations.get kind).isSome → others.MayTake i p.handshake kind) :
    Proceeds others i p { p with network, stations, openings, clock } :=
  ⟨.refl, rfl, rfl, rfl, rfl, ⟨sound.clear, sound.places, sound.quiet, known, served⟩,
    fun _ _ => ⟨[], .of_same rfl rfl⟩⟩

theorem keep (sound : p.Sound others i) (records : List Record) :
    Proceeds others i p (p.keep records) := by
  have passes : ∀ r ∈ records.filter fun r => p.maxLevel.passes r.level,
      p.maxLevel.passes r.level := fun r mem => (List.mem_filter.mp mem).2
  by_cases router : p.logger = .router
  · have logged := Desk.logged_logAll sound.clear passes
    have desk : (p.keep records).desk = _ := if_pos router
    rw [← desk] at logged
    have active (kind : Transport) :
        (p.keep records).registry.isActive kind = p.registry.isActive kind :=
      (congrArg Option.isSome (logged.channel kind)).trans Option.isSome_map
    refine ⟨.refl, rfl, rfl, rfl, logged.echo, ⟨logged.clear, fun kind => ?_, sound.quiet,
      sound.openings, sound.stations⟩, fun _ _ => ⟨_, Array.toList_appendList, ?_, ?_⟩⟩
    · exact (active kind).trans (sound.places kind)
    · intro kind c here
      have after := logged.channel kind
      rw [show p.desk.channel kind = some c from here] at after
      exact ⟨_, after, Channel.tended_offerAll _ c _⟩
    · intro kind free
      have after := logged.channel kind
      rw [show p.desk.channel kind = none from free] at after
      exact .inl after
  · have desk : (p.keep records).desk = p.desk := if_neg router
    refine ⟨.refl, rfl, rfl, rfl, by rw [desk], ⟨?_, fun kind => ?_, sound.quiet,
      sound.openings, sound.stations⟩, fun router' _ => absurd router' router⟩
    · rw [desk, sound.clear]
    · rw [registry, desk]
      exact sound.places kind

theorem absorb (sound : p.Sound others i) (s : Session) : Proceeds others i p (p.absorb s) := by
  have first : Proceeds others i p { p with network := s.network } :=
    sound.moved sound.openings sound.stations
  exact first.trans (first.sound.keep s.journal)

theorem setStation (sound : p.Sound others i) {kind : Transport}
    (may : others.MayTake i p.handshake kind) (s : Station) :
    Proceeds others i p { p with stations := p.stations.set kind (some s) } := by
  refine sound.moved sound.openings fun k there => ?_
  rw [Transport.Table.get_set] at there
  split at there
  · next same => exact same ▸ may
  · exact sound.stations k there

theorem afterCall (sound : p.Sound others i) {kind : Transport}
    (may : others.MayTake i p.handshake kind) (s : Session) :
    Proceeds others i p (p.afterCall kind s) := by
  have first := sound.absorb s
  have second := first.trans (first.sound.absorb
    (if ({ s with journal := [] } : Session).stalled then { s with journal := [] }
      else ({ s with journal := [] } : Session).observe
        (((p.absorb s).registry.dropped kind).getD 0)))
  exact second.trans (second.sound.setStation (may.leads second.leads) _)

theorem setRegistry (sound : p.Sound others i) {α : Type} (kind : Transport)
    (f : Channel → α × Channel) : (p.setRegistry (p.registry.act kind f).2).Sound others i where
  clear := sound.clear
  places k := (p.registry.isActive_act kind k f).trans (sound.places k)
  quiet := sound.quiet
  openings := sound.openings
  stations := sound.stations

theorem take (sound : p.Sound others i) {kind : Transport}
    (may : others.MayTake i p.handshake kind) : Proceeds others i p (p.take kind).2 := by
  refine ⟨.refl, rfl, rfl, rfl, rfl, sound.setRegistry kind Channel.take, fun _ unended =>
    ⟨[], (List.append_nil _).symm, fun k c at_k => ?_, fun k free => ?_⟩⟩
  · have after := p.registry.get_act kind k Channel.take
    rw [at_k] at after
    split at after
    · next same =>
      exact ⟨_, after, Channel.tended_take (same ▸ may.resolve_right unended) c⟩
    · exact ⟨c, after, .refl _ c⟩
  · have after := p.registry.get_act kind k Channel.take
    rw [free] at after
    exact .inl (after.trans (ite_self none))

theorem serveOne (sound : p.Sound others i) {kind : Transport} {d : Delivery}
    (served : p.serveOne kind = some (d, q)) : Proceeds others i p q := by
  unfold Program.serveOne at served
  split at served
  · cases served
  · next s here =>
    have may := sound.stations kind (by rw [here]; rfl)
    have first := sound.take may
    split at served
    · cases served
    · split at served
      · next l after taken =>
        rw [taken] at first
        cases served
        exact first.trans (first.sound.afterCall (may.leads first.leads) _)
      · cases served

theorem serve (sound : p.Sound others i) (kind : Transport) (fuel : Nat) :
    Proceeds others i p (Program.serve kind fuel p).2 := by
  induction fuel generalizing p with
  | zero => exact .refl sound
  | succ fuel ih =>
    unfold Program.serve
    split
    · exact .refl sound
    · next d after served =>
      have first := sound.serveOne served
      exact first.trans (ih first.sound)

theorem turn (sound : p.Sound others i) (kind : Transport) :
    Proceeds others i p (p.turn kind) := by
  unfold Program.turn
  split
  · exact .refl sound
  · next s here =>
    have may := sound.stations kind (by rw [here]; rfl)
    split
    · exact .refl sound
    · have first : Proceeds others i p
          (if s.stalled then
            p.afterCall kind (p.session { s with pacer := s.pacer.untilSleep p.clock }).resume
          else
            { p with stations :=
              p.stations.set kind (some { s with pacer := s.pacer.untilSleep p.clock }) }) := by
        split
        · exact sound.afterCall may _
        · exact sound.setStation may _
      exact first.trans (first.sound.serve kind _)

theorem turns (sound : p.Sound others i) (kinds : List Transport) :
    Proceeds others i p (kinds.foldl Program.turn p) := by
  induction kinds generalizing p with
  | nil => exact .refl sound
  | cons kind rest ih =>
    have first := sound.turn kind
    exact first.trans (ih first.sound)

theorem negotiated (sound : p.Sound others i) {t : Handshake.State}
    (leads : p.handshake.Leads t) (slots : t.slots = p.handshake.slots) (quiet : t.Quiet i) :
    Proceeds others i p { p with handshake := t } where
  leads := leads
  logger := rfl
  installed := rfl
  maxLevel := rfl
  echo := rfl
  sound := {
    clear := sound.clear
    places := fun kind => (sound.places kind).trans (by rw [slots])
    quiet := quiet
    openings := fun o mem => (sound.openings o mem).leads leads
    stations := fun kind there => (sound.stations kind there).leads leads }
  spared _ _ := ⟨[], .of_same rfl rfl⟩

theorem asides (sound : p.Sound others i) (j : Nat) (actions : List Handshake.Action)
    (aside : ∀ a ∈ actions, a.aside = true) : Proceeds others i p (p.act j actions) :=
  sound.negotiated (p.handshake.leads_play _) (p.handshake.slots_acts j actions)
    (sound.quiet.of_launcher? (Handshake.State.launcher?_asides actions aside))

theorem unheld (sound : p.Sound others i) {kind : Transport} (free : ¬ p.registry.isActive kind) :
    ¬ (p.handshake.slots.get kind).isSome := by
  rw [← sound.places kind]
  exact free

theorem register? (sound : p.Sound others i) {kind : Transport} {c : Channel}
    (enters : others.enters kind) (done : p.register? kind c = some q) :
    Proceeds others i p q := by
  obtain ⟨reg, accepted, rfl⟩ := Option.map_eq_some_iff.mp done
  rw [Registry.register?] at accepted
  obtain ⟨free, ⟨⟩⟩ := Option.ite_none_left_eq_some.mp accepted
  have intruded : p.handshake.play [.intrude kind] =
      { p.handshake with slots := p.handshake.slots.set kind (some .outsider) } := by
    simp only [Handshake.State.play, List.foldl_cons, List.foldl_nil, Handshake.State.step,
      if_neg (sound.unheld free), Option.getD_some]
  have leads := p.handshake.leads_play [.intrude kind]
  refine ⟨leads, rfl, rfl, rfl, rfl, ⟨sound.clear, fun k => ?_, ?_, ?_, ?_⟩, fun _ _ =>
    ⟨[], (List.append_nil _).symm, fun k c' at_k => ⟨c', ?_, .refl _ c'⟩, fun k at_k => ?_⟩⟩
  · dsimp only
    rw [intruded]
    exact Registry.isActive_put sound.places kind c .outsider k
  · dsimp only
    rw [intruded]
    exact sound.quiet
  · exact fun o mem => (sound.openings o mem).leads leads
  · exact fun k there => (sound.stations k there).leads leads
  · have other : k ≠ kind := by
      rintro rfl
      rw [Registry.isActive, at_k] at free
      exact free rfl
    exact (Registry.get_put _ _ _ _).trans ((if_neg other).trans at_k)
  · by_cases same : k = kind
    · exact .inr (same ▸ enters)
    · exact .inl ((Registry.get_put _ _ _ _).trans ((if_neg same).trans at_k))

theorem settled (sound : p.Sound others i) {j : Nat} {l : Handshake.Launch}
    (here : p.handshake.launches[j]? = some l) :
    (∃ v, l.launcher = .returned v) ∨ i = some j ∧ l.launcher = .waiting :=
  sound.quiet j l.launcher (by rw [Handshake.State.launcher?, here]; rfl)

theorem enter (sound : p.Sound others i) {j : Nat} {l m : Handshake.Launch} {a : SocketAddress}
    {place : Transport} (here : p.handshake.launches[j]? = some l) (kind : l.kind = place)
    (hand : i = some j) (entered : m.launcher = .registered a)
    (leads : p.handshake.Leads { p.handshake.setLaunch j m with
      slots := p.handshake.slots.set l.kind (some (.launch j)) })
    (c : Channel) (stations : Transport.Table (Option Station)) :
    let handshake : Handshake.State := { p.handshake.setLaunch j m with
      slots := p.handshake.slots.set l.kind (some (.launch j)) }
    Proceeds others i p
      ({ p.setRegistry (p.registry.put place c) with handshake, stations }.act j
        [.announce, .confirm]) := by
  subst kind
  intro handshake
  have at_j : handshake.launches[j]? = some m := Handshake.State.launch_setLaunch_self here m
  have onward := leads.trans (handshake.leads_play [.act j .announce, .act j .confirm])
  have launcher (k : Nat) : (handshake.play [.act j .announce, .act j .confirm]).launcher? k =
      if j = k then some (.returned (.enabled a)) else p.handshake.launcher? k := by
    rw [Handshake.State.launcher?_announced at_j entered]
    split
    · rfl
    · next other =>
      exact (Handshake.State.launcher?_setLaunch here m k).trans (if_neg other)
  have enabled : (handshake.play [.act j .announce, .act j .confirm]).Enabled i :=
    ⟨j, a, hand, (launcher j).trans (if_pos rfl)⟩
  refine ⟨onward, rfl, rfl, rfl, rfl, ⟨sound.clear, fun k => ?_, fun k x at_k => ?_,
    fun o mem => (sound.openings o mem).leads onward, fun _ _ => .inr enabled⟩,
    fun _ unended => absurd enabled unended⟩
  · have slots := handshake.slots_acts j [.announce, .confirm]
    have put := Registry.isActive_put sound.places l.kind c (.launch j) k
    exact put.trans (congrArg (fun t => (t.get k).isSome) slots).symm
  · have at_k' := (launcher k).symm.trans at_k
    split at at_k'
    · cases at_k'
      exact .inl ⟨_, rfl⟩
    · exact sound.quiet k x at_k'

theorem leave (sound : p.Sound others i) (j : Nat) (s : Session) :
    Proceeds others i p ((p.act j [.hangUp, .withdraw, .confirm]).absorb s) := by
  have first := sound.asides j [.hangUp, .withdraw, .confirm] (by decide)
  exact first.trans (first.sound.absorb s)

theorem conclude (sound : p.Sound others i) {o : Opening} (s : Session) {t : Handshake.State}
    {l : Handshake.Launch} (here : p.handshake.launches[o.launch]? = some l)
    (kind : l.kind = o.config.kind) (leads : p.handshake.Leads t)
    (heard : Handshake.State.Heard p.handshake o.launch l t) :
    Proceeds others i p (Program.conclude { p with handshake := t } o s) := by
  cases heard with
  | nothing =>
    have launcher : p.launcher? o.launch = some l.launcher := congrArg (Option.map _) here
    rw [conclude_of_out s (fun a registered => ?_)]
    · exact sound.leave o.launch s.leave
    · have registered := Option.some.inj (launcher.symm.trans registered)
      obtain ⟨v, closed⟩ | ⟨-, waiting⟩ := sound.settled here
      · cases closed.symm.trans registered
      · cases waiting.symm.trans registered
  | @returned m v closed =>
    have launcher := Handshake.State.launcher?_setLaunch here m o.launch
    rw [if_pos rfl, closed] at launcher
    have out := conclude_of_out (p := { p with handshake := p.handshake.setLaunch o.launch m }) s
      fun a registered => nomatch launcher.symm.trans registered
    have first := sound.negotiated leads rfl (sound.quiet.setLaunch here closed)
    rw [out]
    exact first.trans (first.sound.leave o.launch s.leave)
  | @registered m a waiting entered free =>
    -- only the launch at hand can get here: the launchers of all others have returned
    have launcher := Handshake.State.launcher?_setLaunch here m o.launch
    rw [if_pos rfl, entered] at launcher
    have hand : i = some o.launch := by
      obtain ⟨v, closed⟩ | ⟨hand, -⟩ := sound.settled here
      · cases waiting.symm.trans closed
      · exact hand
    have first := sound.enter here kind hand entered leads
      (Channel.create o.config.capacity o.config.backend)
      (p.stations.set o.config.kind (some (station s)))
    have came := conclude_of_in (p := { p with handshake :=
      { p.handshake.setLaunch o.launch m with
        slots := p.handshake.slots.set l.kind (some (.launch o.launch)) } }) s launcher
    rw [came]
    exact first.trans (first.sound.keep [enabledRecord o.config a])

theorem arrive (sound : p.Sound others i) {o : Opening}
    (known : o.Known others i p.handshake) (s : Session) :
    Proceeds others i p (p.arrive o s) := by
  have reported := sound.asides o.launch [.connect true, .report] (by decide)
  have entered : Proceeds others i p ((o.intruder.bind
      ((p.act o.launch [.connect true, .report]).register? o.config.kind ·)).getD
        (p.act o.launch [.connect true, .report])) := by
    cases somebody : o.intruder with
    | none => exact reported
    | some c =>
      rw [Option.bind_some]
      cases done : (p.act o.launch [.connect true, .report]).register? o.config.kind c with
      | none => exact reported
      | some q =>
        have enters := known.entry (by rw [somebody]; rfl)
        exact reported.trans (reported.sound.register? enters done)
  rw [arrive_eq]
  dsimp only
  generalize (o.intruder.bind ((p.act o.launch [.connect true, .report]).register?
    o.config.kind ·)).getD (p.act o.launch [.connect true, .report]) = q at entered
  obtain ⟨l, here, kind⟩ := (known.leads entered.leads).launched
  have heard := Handshake.State.heard here
    ((entered.sound.settled here).imp_right (·.2))
  have leads := (q.handshake.leads_play [.act o.launch .receive, .register o.launch])
  exact entered.trans (entered.sound.conclude s here kind leads heard)

theorem await (sound : p.Sound others i) {o : Opening} (known : o.Known others i p.handshake) :
    Proceeds others i p { p with openings := p.openings ++ [o] } := by
  refine sound.moved (fun w mem => ?_) sound.stations
  obtain old | new := List.mem_append.mp mem
  · exact sound.openings w old
  · exact List.mem_singleton.mp new ▸ known

theorem afterAttempt (sound : p.Sound others i) {o : Opening}
    (known : o.Known others i p.handshake) (s : Session) :
    Proceeds others i p (p.afterAttempt o s) := by
  have first := sound.absorb s
  have known := known.leads first.leads
  unfold Program.afterAttempt
  dsimp only
  split
  · exact first.trans (first.sound.await ⟨known.launched, known.settled, known.entry⟩)
  · exact first.trans (first.sound.arrive known _)

theorem retry (sound : p.Sound others i) {o : Opening} (known : o.Known others i p.handshake) :
    Proceeds others i p (p.retry o) := by
  unfold Program.retry
  split
  · exact sound.await known
  · exact sound.afterAttempt known _

theorem retries (sound : p.Sound others i) {os : List Opening}
    (known : ∀ o ∈ os, o.Known others i p.handshake) :
    Proceeds others i p (os.foldl Program.retry p) := by
  induction os generalizing p with
  | nil => exact .refl sound
  | cons o rest ih =>
    have first := sound.retry (known o List.mem_cons_self)
    exact first.trans (ih first.sound fun w mem =>
      (known w (List.mem_cons_of_mem o mem)).leads first.leads)

theorem moment (sound : p.Sound others i) : Proceeds others i p p.moment := by
  have none : Proceeds others i p { p with openings := [] } :=
    sound.moved (fun _ mem => nomatch mem) sound.stations
  have retried := none.trans (none.sound.retries sound.openings)
  have once := retried.trans (retried.sound.turns Transport.all)
  exact once.trans (once.sound.turns Transport.all)

theorem passing (sound : p.Sound others i) (deadline : Nat) (done : Program → Bool)
    (fuel : Nat) : Proceeds others i p (Program.passing deadline done fuel p) := by
  induction fuel generalizing p with
  | zero => exact .refl sound
  | succ fuel ih =>
    have now := sound.moment
    unfold Program.passing
    dsimp only
    split
    · exact now
    · split
      · next t _ =>
        have later : Proceeds others i p { p.moment with clock := max p.moment.clock t } :=
          now.trans (now.sound.moved now.sound.openings now.sound.stations)
        exact later.trans (ih later.sound)
      · exact now.trans (now.sound.moved now.sound.openings now.sound.stations)

theorem pass (sound : p.Sound others i) (time : Nat) (done : Program → Bool) :
    Proceeds others i p (p.pass time done) :=
  sound.passing _ done _

end Sound

end Program

end LogRelay
