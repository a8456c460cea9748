import LogRelay.Proofs.Offers

/-!
The channels of one registry side by side. What becomes of the channel of one transport, of the
console and of the echo flag is the same as if no channel of another transport had ever been there,
however full that other channel was and whenever it came.
-/

namespace LogRelay

namespace Registry

/-- The registry without the channels of the other transports. -/
def only (r : Registry) (kind : Transport) : Registry :=
  ⟨(Transport.Table.fill none).set kind (r.get kind)⟩

@[simp] theorem get_only (r : Registry) (kind other : Transport) :
    (r.only kind).get other = if other = kind then r.get kind else none := by
  simp [only, get]

theorem eq_of_get {r s : Registry} (same : ∀ kind, r.get kind = s.get kind) : r = s := by
  obtain ⟨_⟩ := r
  obtain ⟨_⟩ := s
  exact congrArg mk (Transport.Table.ext_get same)

theorem only_put_same (r : Registry) (kind : Transport) (c : Channel) :
    (r.put kind c).only kind = (r.only kind).put kind c := by
  refine eq_of_get fun k => ?_
  by_cases same : k = kind <;> simp [same]

theorem only_put_other (r : Registry) {kind other : Transport} (apart : other ≠ kind)
    (c : Channel) : (r.put other c).only kind = r.only kind := by
  refine eq_of_get fun k => ?_
  simp [apart.symm]

theorem act_only {α : Type} (r : Registry) (kind : Transport) (f : Channel → α × Channel) :
    (r.only kind).act kind f = ((r.act kind f).1, (r.act kind f).2.only kind) := by
  rw [act, act, get_only, if_pos rfl]
  split
  · rw [only_put_same]
  · rfl

theorem only_act_other {α : Type} (r : Registry) {kind other : Transport} (apart : other ≠ kind)
    (f : Channel → α × Channel) : (r.act other f).2.only kind = r.only kind := by
  rw [act]
  split
  · exact only_put_other r apart _
  · rfl

theorem only_pushAll (r : Registry) (kind : Transport) (l : Line) :
    (r.pushAll l).only kind = (r.only kind).pushAll l := by
  refine eq_of_get fun k => ?_
  rw [get_pushAll, get_only, get_only, get_pushAll]
  split <;> rfl

theorem register?_only (r : Registry) (kind : Transport) (c : Channel) :
    (r.only kind).register? kind c = (r.register? kind c).map (·.only kind) := by
  rw [register?, register?, isActive, isActive, get_only, if_pos rfl]
  split
  · rfl
  · rw [Option.map_some, only_put_same]

theorem only_register?_other {r s : Registry} {kind other : Transport} (apart : other ≠ kind)
    {c : Channel} (accepted : r.register? other c = some s) : s.only kind = r.only kind := by
  rw [register?] at accepted
  split at accepted
  · cases accepted
  · cases accepted
    exact only_put_other r apart c

end Registry

namespace Desk

def only (d : Desk) (kind : Transport) : Desk :=
  { d with main := { d.main with registry := d.main.registry.only kind } }

section

variable (d : Desk) (kind : Transport)

@[simp] theorem channel_only : (d.only kind).channel kind = d.channel kind :=
  (d.main.registry.get_only kind kind).trans (if_pos rfl)

theorem echo_only (r : RouterName) : ((d.only kind).get r).echo = (d.get r).echo := by
  cases r <;> rfl

theorem make_only (c : Call) : (d.only kind).make c = (d.make c).only kind := by
  obtain ⟨_ | _, l⟩ | ⟨_ | _, on⟩ := c
  · by_cases empty : l.isEmpty
    · simp [make, update, Router.dispatch, only, empty]
    · simp [make, update, Router.dispatch, only, empty, Registry.only_pushAll]
  all_goals rfl

theorem makeAll_only (cs : List Call) : (d.only kind).makeAll cs = (d.makeAll cs).only kind := by
  induction cs generalizing d with
  | nil => rfl
  | cons c cs ih => rw [makeAll_cons, make_only, ih, makeAll_cons]

theorem echoes_only (r : RouterName) (value : Script) :
    (d.only kind).echoes r value = d.echoes r value := by
  rw [echoes, echoes, makeAll_only, echo_only]

theorem emitCalls_only (r : RouterName) (value : Script) :
    (d.only kind).emitCalls r value = d.emitCalls r value := by
  rw [emitCalls, emitCalls, echoes_only]

theorem print_only (r : RouterName) (s : String) :
    (d.only kind).update r (·.print s) = (d.update r (·.print s)).only kind := by
  cases r <;> rfl

theorem perform_only (r : RouterName) (value : Script) :
    (d.only kind).perform r value =
      ((d.perform r value).1, (d.perform r value).2.only kind) := by
  rw [perform, perform, echoes_only, emitCalls_only, makeAll_only, print_only]
  dsimp only
  split <;> rfl

theorem offered_only (op : Operation) : (d.only kind).offered op = d.offered op := by
  cases op with
  | emit r value => rw [offered, offered, emitCalls_only]
  | dispatch r l => rfl
  | setEcho r on => rfl

def pushes (op : Operation) : List Offer :=
  match d.channel kind with
  | some c => (c.offerAll (d.offered op)).1
  | none => []

theorem pushes_only (op : Operation) : (d.only kind).pushes kind op = d.pushes kind op := by
  rw [pushes, pushes, channel_only, offered_only]

end

theorem operate_only {d : Desk} (clear : d.emitting = false) (kind : Transport)
    (op : Operation) :
    (d.only kind).operate op = ((d.operate op).1, (d.operate op).2.only kind) := by
  have clear' : (d.only kind).emitting = false := clear
  cases op with
  | emit r value =>
    rw [operate, operate, emit_eq_perform clear, emit_eq_perform clear', perform_only]
  | dispatch r l => exact congrArg (Prod.mk false) (d.make_only kind (.dispatch r l))
  | setEcho r on => exact congrArg (Prod.mk false) (d.make_only kind (.setEcho r on))

inductive Request where
  | operate (op : Operation)
  | register (kind : Transport) (c : Channel)
  | pop (kind : Transport)
  | drain (kind : Transport)

/-- Whether a request is made in a run without channels of other transports. -/
def Request.concerns (kind : Transport) : Request → Bool
  | operate _ => true
  | register other _ | pop other | drain other => other = kind

inductive Reply where
  | operated (unwound : Bool) (pushes : List Offer)
  | registered (accepted : Bool)
  | popped (found : Option (Option Line))
  | drained (lines : Option (List Line))

def withRegistry (d : Desk) (r : Registry) : Desk :=
  { d with main := { d.main with registry := r } }

def serve (d : Desk) (kind : Transport) : Request → Reply × Desk
  | .operate op => (.operated (d.operate op).1 (d.pushes kind op), (d.operate op).2)
  | .register other c =>
    match d.main.registry.register? other c with
    | some r => (.registered true, d.withRegistry r)
    | none => (.registered false, d)
  | .pop other =>
    (.popped (d.main.registry.take other).1, d.withRegistry (d.main.registry.take other).2)
  | .drain other =>
    (.drained (d.main.registry.drain other).1, d.withRegistry (d.main.registry.drain other).2)

def serveAll (kind : Transport) : Desk → List Request → List Reply × Desk
  | d, [] => ([], d)
  | d, request :: rest =>
    let (reply, after) := d.serve kind request
    let (later, last) := serveAll kind after rest
    (if request.concerns kind then reply :: later else later, last)

theorem serve_clear {d : Desk} (clear : d.emitting = false) (kind : Transport)
    (request : Request) : (d.serve kind request).2.emitting = false := by
  cases request with
  | operate op => exact operate_clear clear op
  | register other c =>
    rw [serve]
    split <;> exact clear
  | pop other => exact clear
  | drain other => exact clear

theorem serve_only {d : Desk} (clear : d.emitting = false) {kind : Transport}
    {request : Request} (concerned : request.concerns kind = true) :
    (d.only kind).serve kind request =
      ((d.serve kind request).1, (d.serve kind request).2.only kind) := by
  cases request with
  | operate op => rw [serve, serve, operate_only clear, pushes_only]
  | register other c =>
    obtain rfl := of_decide_eq_true concerned
    have same : (d.only other).main.registry.register? other c =
        (d.main.registry.register? other c).map (·.only other) :=
      d.main.registry.register?_only other c
    rw [serve, serve, same]
    cases d.main.registry.register? other c <;> rfl
  | pop other =>
    obtain rfl := of_decide_eq_true concerned
    have same := d.main.registry.act_only other Channel.take
    exact congrArg (fun p => (Reply.popped p.1, d.withRegistry p.2)) same
  | drain other =>
    obtain rfl := of_decide_eq_true concerned
    have same := d.main.registry.act_only other Channel.drain
    exact congrArg (fun p => (Reply.drained p.1, d.withRegistry p.2)) same

theorem only_serve_other {d : Desk} {kind : Transport} {request : Request}
    (unconcerned : ¬ request.concerns kind = true) :
    (d.serve kind request).2.only kind = d.only kind := by
  have replaced {r : Registry} (same : r.only kind = d.main.registry.only kind) :
      (d.withRegistry r).only kind = d.only kind :=
    congrArg d.withRegistry same
  cases request with
  | operate op => exact absurd rfl unconcerned
  | register other c =>
    have apart : other ≠ kind := fun same => unconcerned (decide_eq_true same)
    rw [serve]
    split
    · next accepted => exact replaced (Registry.only_register?_other apart accepted)
    · rfl
  | pop other =>
    have apart : other ≠ kind := fun same => unconcerned (decide_eq_true same)
    exact replaced (d.main.registry.only_act_other apart Channel.take)
  | drain other =>
    have apart : other ≠ kind := fun same => unconcerned (decide_eq_true same)
    exact replaced (d.main.registry.only_act_other apart Channel.drain)

theorem serveAll_only {d : Desk} (clear : d.emitting = false) (kind : Transport)
    (requests : List Request) :
    (d.only kind).serveAll kind (requests.filter (·.concerns kind)) =
      ((d.serveAll kind requests).1, (d.serveAll kind requests).2.only kind) := by
  induction requests generalizing d with
  | nil => rfl
  | cons request rest ih =>
    have later := ih (serve_clear clear kind request)
    by_cases concerned : request.concerns kind = true
    · rw [List.filter_cons_of_pos concerned, serveAll, serveAll, serve_only clear concerned]
      simp only [later, concerned, if_true]
    · rw [List.filter_cons_of_neg concerned, serveAll, ← only_serve_other concerned, later]
      simp only [concerned]
      rfl

/-- One transport cannot tell the run among others from the run without them. -/
structure Apart (kind : Transport) (full alone : List Reply × Desk) : Prop where
  replies : alone.1 = full.1
  channel : alone.2.channel kind = full.2.channel kind
  echo : alone.2.main.echo = full.2.main.echo
  console : alone.2.main.console = full.2.main.console
  elsewhere : alone.2.other = full.2.other
  unregistered : ∀ other, other ≠ kind → alone.2.channel other = none

/-- The thread starts outside of any emit, with any channels; the run without the other transports
starts without theirs. -/
theorem channels_apart (main other : Router) (kind : Transport) (requests : List Request) :
    let d : Desk := ⟨main, other, false⟩
    Apart kind (d.serveAll kind requests)
      ((d.only kind).serveAll kind (requests.filter (·.concerns kind))) := by
  intro d
  rw [serveAll_only (d := d) rfl kind requests]
  refine ⟨rfl, channel_only _ kind, rfl, rfl, rfl, fun k apart => ?_⟩
  exact (Registry.get_only _ kind k).trans (if_neg apart)

end Desk

end LogRelay
