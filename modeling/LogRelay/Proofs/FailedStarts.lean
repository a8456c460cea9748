import LogRelay.Collector
import LogRelay.Proofs.Launching

/-!
Starts in a program that has been running in any way, with the router as its logger. A start that
fails leaves the echo flag, the registry and its channels to what others do with them meanwhile and
to the records of the library. It does not leave the maximum level alone: the level of its
configuration stays, whatever the reason of the failure.
-/

namespace LogRelay

inductive Demand where
  | config (c : Config)
  | settings (kind : Transport) (host : String) (port : UInt16) (echo : Bool)
  | stored (s : StoredSettings)

namespace Demand

def config? : Demand → Option Config
  | config c => some c
  | settings kind host port echo =>
    (Config.ofSettings kind [.destination host port, .echo echo]).toOption
  | stored s => s.config?.toOption.join

end Demand

namespace Program

def demand (p : Program) : Demand → Except StartError (Option Handle) × Program
  | .config c => ((p.startWith c).1.map some, (p.startWith c).2)
  | .settings kind host port echo =>
    ((p.start kind host port echo).1.map some, (p.start kind host port echo).2)
  | .stored s => p.setup s

variable {others : Others} {p q : Program}

theorem demand_cases (p : Program) (d : Demand) :
    (∃ c, d.config? = some c ∧ p.demand d = ((p.startWith c).1.map some, (p.startWith c).2)) ∨
      d.config? = none ∧ (p.demand d).2 = p := by
  cases d with
  | config c => exact .inl ⟨c, rfl, rfl⟩
  | settings kind host port echo =>
    rw [demand, start, Demand.config?]
    cases Config.ofSettings kind [.destination host port, .echo echo] with
    | error e => exact .inr ⟨rfl, rfl⟩
    | ok c => exact .inl ⟨c, rfl, rfl⟩
  | stored s =>
    rw [demand, setup, Demand.config?]
    split
    · next mqtt =>
      have none : s.config? = .ok none := by
        rw [StoredSettings.config?, mqtt]
        rfl
      rw [none]
      exact .inr ⟨rfl, rfl⟩
    · rcases s.config? with e | (_ | c)
      · exact .inr ⟨rfl, rfl⟩
      · exact .inr ⟨rfl, rfl⟩
      · exact .inl ⟨c, rfl, rfl⟩

theorem install_cases (p : Program) (level : Threshold) :
    p.install level = (true, { p with
      installed := some true, logger := .router, maxLevel := level }) ∨
    p.install level = (false, { p with installed := some false }) ∧ p.installed ≠ some true := by
  rw [install]
  cases tried : p.installed with
  | none =>
    by_cases first : p.logger = .none
    · exact .inl (by simp [first])
    · exact .inr ⟨by simp [first], nofun⟩
  | some ok =>
    cases ok with
    | true => exact .inl rfl
    | false => exact .inr ⟨rfl, nofun⟩

inductive Starts (p : Program) (c : Config) : Except StartError Handle × Program → Prop where
  | refused {q : Program} (taken : p.install c.maxLevel = (false, q)) :
      Starts p c (.error .loggerTaken, q)
  | failed {q r : Program} {e : StartError} (installed : p.install c.maxLevel = (true, q))
      (launch : q.launch c c.kind none = (.error e, r)) : Starts p c (.error e, r)
  | done {q r : Program} {handle : Handle} (installed : p.install c.maxLevel = (true, q))
      (launch : q.launch c c.kind none = (.ok handle, r)) :
      Starts p c (.ok handle, r.setEcho c.echo)

theorem starts (p : Program) (c : Config) : p.Starts c (p.startWith c) := by
  rw [startWith]
  rcases install : p.install c.maxLevel with ⟨_ | _, q⟩
  · exact .refused install
  · dsimp only
    rcases launch : q.launch c c.kind none with ⟨e | handle, r⟩
    · exact .failed install launch
    · exact .done install launch

theorem Sound.retuned {i : Option Nat} (sound : p.Sound others i) (logger : Logger)
    (installed : Option Bool) (maxLevel : Threshold) :
    Sound others i { p with logger, installed, maxLevel } :=
  ⟨sound.clear, sound.places, sound.quiet, sound.openings, sound.stations⟩

/-- What a failed start leaves behind: a level, and nothing else. -/
structure Declined (others : Others) (p : Program) (level? : Option Threshold) (q : Program) :
    Prop where
  installed : q.installed = p.installed
  echo : q.desk.main.echo = p.desk.main.echo
  maxLevel : q.maxLevel = level?.getD p.maxLevel
  spared : ∃ new, Spared others p new q

theorem startWith_declined (sound : p.Sound others none) (installed : p.installed = some true)
    {c : Config} {e : StartError} (failed : (p.startWith c).1 = .error e) :
    Declined others p (some c.maxLevel) (p.startWith c).2 := by
  have how := p.starts c
  generalize p.startWith c = outcome at how failed
  obtain install | ⟨-, absent⟩ := p.install_cases c.maxLevel
  · cases how with
    | refused taken => cases install.symm.trans taken
    | failed ready launch =>
      cases install.symm.trans ready
      have attempted := launch_attempted (sound.retuned .router (some true) c.maxLevel) c c.kind
        none nofun
      rw [launch] at attempted
      obtain ⟨new, spared⟩ := attempted.spared ⟨_, rfl⟩ rfl
      exact ⟨attempted.installed.trans installed.symm, attempted.echo, attempted.maxLevel, new,
        spared.journal, spared.channel, spared.free⟩
    | done => cases failed
  · exact absurd installed absent

theorem demand_declined (sound : p.Sound others none) (installed : p.installed = some true)
    {d : Demand} {e : StartError} (failed : (p.demand d).1 = .error e) :
    Declined others p (d.config?.map (·.maxLevel)) (p.demand d).2 := by
  obtain ⟨c, config, started⟩ | ⟨config, same⟩ := p.demand_cases d
  · rw [started] at failed
    have failed' : (p.startWith c).1 = .error e := by
      cases answer : (p.startWith c).1 with
      | error e' =>
        rw [answer] at failed
        exact congrArg Except.error (Except.error.inj failed)
      | ok handle =>
        rw [answer] at failed
        cases failed
    rw [config, started]
    exact startWith_declined sound installed failed'
  · rw [config, same]
    exact ⟨rfl, rfl, rfl, [], .of_same rfl rfl⟩

inductive Move where
  | weather (network : Network)
  | usurp
  | install (level : Threshold)
  | setMaxLevel (level : Threshold)
  | operate (op : Desk.Operation)
  | log (level : Level) (target : String) (message : Script)
  | register (kind : Transport) (c : Channel)
  | push (kind : Transport) (l : Line)
  | take (kind : Transport)
  | settle (kind : Transport)
  | moment
  | pass (time : Nat) (done : Program → Bool)
  | collect (kind : Transport)
  | employ (s : Session) (startup : Option (ReadySlot × Publication))
  | launch (c : Config) (connector : Transport) (intruder : Option Channel)
  | demand (d : Demand)

def step (p : Program) : Move → Program
  | .weather network => { p with network }
  | .usurp => p.installForeign.2
  | .install level => (p.install level).2
  | .setMaxLevel level => { p with maxLevel := level }
  | .operate op => { p with desk := (p.desk.operate op).2 }
  | .log level target message => (p.log level target message).2
  | .register kind c => (p.register? kind c).getD p
  | .push kind l => (p.push kind l).2
  | .take kind => (p.take kind).2
  | .settle kind => (p.settle kind).2
  | .moment => p.moment
  | .pass time done => p.pass time done
  | .collect kind => (p.collect kind).2
  | .employ s startup => (p.employ s startup).2.2
  | .launch c connector intruder => (p.launch c connector intruder).2
  | .demand d => (p.demand d).2

inductive Reachable : Program → Prop where
  | fresh (network : Network) (tempo : Tempo) : Reachable { fresh network with tempo }
  | step {p : Program} (m : Move) : Reachable p → Reachable (p.step m)

end Program

def Others.anybody : Others :=
  ⟨fun _ => True, fun _ => True⟩

namespace Program

variable {p : Program}

theorem sound_fresh (network : Network) (tempo : Tempo) :
    Sound .anybody none { fresh network with tempo } where
  clear := rfl
  places kind := by cases kind <;> rfl
  quiet j x here := nomatch here
  openings o mem := nomatch mem
  stations kind there := .inl trivial

namespace Sound

theorem operate {others : Others} {i : Option Nat} (sound : p.Sound others i)
    (op : Desk.Operation) : Sound others i { p with desk := (p.desk.operate op).2 } where
  clear := Desk.operate_clear sound.clear op
  places kind := by
    have after := congrArg Option.isSome (Desk.channel_operate sound.clear op kind)
    exact (after.trans Option.isSome_map).trans (sound.places kind)
  quiet := sound.quiet
  openings := sound.openings
  stations := sound.stations

theorem install {others : Others} {i : Option Nat} (sound : p.Sound others i)
    (level : Threshold) : (p.install level).2.Sound others i := by
  obtain install | ⟨install, -⟩ := p.install_cases level <;> rw [install]
  · exact sound.retuned .router (some true) level
  · exact sound.retuned p.logger (some false) p.maxLevel

theorem log {others : Others} {i : Option Nat} (sound : p.Sound others i) (level : Level)
    (target : String) (message : Script) : (p.log level target message).2.Sound others i := by
  rw [Program.log]
  split
  · by_cases passes : p.maxLevel.passes level
    · rw [Desk.log, if_pos passes]
      exact sound.operate (.emit .main (Record.value level target message))
    · rw [Desk.log, if_neg passes]
      exact sound
  · exact sound

theorem launch (sound : p.Sound .anybody none) (c : Config) (connector : Transport)
    (intruder : Option Channel) : (p.launch c connector intruder).2.Sound .anybody none :=
  (launch_attempted sound c connector intruder fun _ => trivial).sound (.inr fun _ => trivial)

theorem startWith (sound : p.Sound .anybody none) (c : Config) :
    (p.startWith c).2.Sound .anybody none := by
  have how := p.starts c
  have installed := sound.install c.maxLevel
  generalize p.startWith c = outcome at how
  cases how with
  | refused taken =>
    rw [taken] at installed
    exact installed
  | failed ready launch =>
    rw [ready] at installed
    have launched := installed.launch c c.kind none
    rw [launch] at launched
    exact launched
  | done ready launch =>
    rw [ready] at installed
    have launched := installed.launch c c.kind none
    rw [launch] at launched
    exact launched.operate (.setEcho .main c.echo)

theorem demand (sound : p.Sound .anybody none) (d : Demand) :
    (p.demand d).2.Sound .anybody none := by
  obtain ⟨c, -, started⟩ | ⟨-, same⟩ := p.demand_cases d
  · rw [started]
    exact sound.startWith c
  · rw [same]
    exact sound

theorem employ (sound : p.Sound .anybody none) (s : Session)
    (startup : Option (ReadySlot × Publication)) :
    (p.employ s startup).2.2.Sound .anybody none := by
  have seated (t : Session) : Sound .anybody none
      { Program.absorb { p with network := s.network, journal := p.journal ++ s.journal } t with
        stations := p.stations.set t.worker.kind (some (station t)) } := by
    have noted : Sound .anybody none
        { p with network := s.network, journal := p.journal ++ s.journal } :=
      ⟨sound.clear, sound.places, sound.quiet, sound.openings, sound.stations⟩
    have first := noted.absorb t
    exact (first.sound.setStation (.inl trivial) _).sound
  unfold Program.employ
  rcases startup with _ | ⟨ready, publication⟩
  · exact seated _
  · dsimp only
    split <;> exact seated _

theorem step (sound : p.Sound .anybody none) (m : Move) : (p.step m).Sound .anybody none := by
  cases m with
  | weather network => exact (sound.moved sound.openings sound.stations).sound
  | usurp =>
    rw [Program.step, installForeign]
    split
    · exact sound.retuned .foreign p.installed p.maxLevel
    · exact sound
  | install level => exact sound.install level
  | setMaxLevel level => exact sound.retuned p.logger p.installed level
  | operate op => exact sound.operate op
  | log level target message => exact sound.log level target message
  | register kind c =>
    rw [Program.step]
    cases done : p.register? kind c with
    | none => exact sound
    | some q => exact (sound.register? trivial done).sound
  | push kind l => exact sound.setRegistry kind (·.push l)
  | take kind => exact sound.setRegistry kind Channel.take
  | settle kind => exact (sound.serve kind _).sound
  | moment => exact sound.moment.sound
  | pass time done => exact (sound.pass time done).sound
  | collect kind =>
    have later := sound.pass (10 * Duration.second)
      fun q => ((q.received kind)[q.collected.get kind]?).isSome
    rw [Program.step, collect]
    dsimp only
    split
    · exact ⟨later.sound.clear, later.sound.places, later.sound.quiet, later.sound.openings,
        later.sound.stations⟩
    · exact later.sound
  | employ s startup => exact sound.employ s startup
  | launch c connector intruder => exact sound.launch c connector intruder
  | demand d => exact sound.demand d

end Sound

theorem Reachable.sound (reachable : p.Reachable) : p.Sound .anybody none := by
  induction reachable with
  | fresh network tempo => exact sound_fresh network tempo
  | step m _ ih => exact ih.step m

/-- The workers at their channels, and whoever is to register a channel when another worker
connects. -/
def others (p : Program) : Others where
  takes kind := (p.stations.get kind).isSome
  enters kind := ∃ o ∈ p.openings, o.intruder.isSome ∧ o.config.kind = kind

theorem Sound.apart (sound : p.Sound .anybody none) : p.Sound p.others none where
  clear := sound.clear
  places := sound.places
  quiet := sound.quiet
  openings o mem := by
    obtain ⟨launched, settled, -⟩ := sound.openings o mem
    exact ⟨launched, settled, fun intruder => ⟨o, mem, intruder, rfl⟩⟩
  stations _ := .inl

theorem Reachable.failed_demand (reachable : p.Reachable) (installed : p.installed = some true)
    {d : Demand} {e : StartError} (failed : (p.demand d).1 = .error e) :
    Declined p.others p (d.config?.map (·.maxLevel)) (p.demand d).2 ∧
      (d.config? = none → (p.demand d).2 = p) := by
  refine ⟨demand_declined reachable.sound.apart installed failed, fun none => ?_⟩
  obtain ⟨c, config, -⟩ | ⟨-, same⟩ := p.demand_cases d
  · cases none.symm.trans config
  · exact same

theorem Reachable.failed_demand_of_unknown_host :
    let network := (Network.fresh none).change (.unresolvable true)
    let p := ((Program.step { Program.fresh network with tempo := .full }
      (.install (.upTo .debug))).step (.register .udp (Channel.create 4 .ring))).step
        (.operate (.setEcho .main true))
    let d := Demand.settings .tcp "collector" 514 false
    p.installed = some true ∧
      (p.demand d).1 = .error (.unresolvable ⟨"collector", 514⟩ (.noAddress "collector")) ∧
      ((p.demand d).2.registry.get .udp).map (·.length) = some 1 ∧
      Declined p.others p (d.config?.map (·.maxLevel)) (p.demand d).2 :=
  ⟨rfl, rfl, by decide +kernel,
    And.left (Reachable.failed_demand (.step _ (.step _ (.step _ (.fresh _ _)))) rfl rfl)⟩

/-- A second start of a transport fails and sets the standard level all the same. -/
theorem failed_demand_sets_level :
    let p := (Program.step { fresh .isolated with tempo := .full }
      (.install (.upTo .debug))).step (.register .tcp (Channel.create 4 .ring))
    let d := Demand.settings .tcp "127.0.0.1" 514 true
    p.Reachable ∧ p.installed = some true ∧
      (p.demand d).1 = .error (.alreadyActive .tcp) ∧
      p.maxLevel = .upTo .debug ∧ (p.demand d).2.maxLevel = .upTo .info :=
  ⟨.step _ (.step _ (.fresh _ _)), rfl, rfl, rfl, rfl⟩

end Program

end LogRelay
