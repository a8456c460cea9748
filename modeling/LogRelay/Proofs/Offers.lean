import LogRelay.Proofs.Reentry

/-!
Lines offered to one channel of a thread's main router, whichever way they come. Each offer is
queued or counted as dropped, and what an emit offers can be told from its calls.
-/

namespace LogRelay

structure Offer where
  line : Line
  outcome : PushOutcome
deriving DecidableEq

namespace Offer

def taken (offers : List Offer) : List Line :=
  (offers.filter (·.outcome = .delivered)).map (·.line)

def rejected (offers : List Offer) : Nat :=
  offers.countP (·.outcome = .dropped)

theorem taken_append (os ps : List Offer) : taken (os ++ ps) = taken os ++ taken ps := by
  simp only [taken, List.filter_append, List.map_append]

theorem rejected_append (os ps : List Offer) :
    rejected (os ++ ps) = rejected os + rejected ps :=
  List.countP_append

theorem length_eq (os : List Offer) : os.length = (taken os).length + rejected os := by
  induction os with
  | nil => rfl
  | cons o os ih =>
    obtain ⟨l, outcome⟩ := o
    cases outcome <;> simp_all [taken, rejected] <;> omega

end Offer

namespace Channel

def offerAll : Channel → List Line → List Offer × Channel
  | c, [] => ([], c)
  | c, l :: rest =>
    let (later, last) := offerAll (c.push l).2 rest
    (⟨l, (c.push l).1⟩ :: later, last)

theorem offerAll_append (c : Channel) (ls ms : List Line) :
    c.offerAll (ls ++ ms) =
      ((c.offerAll ls).1 ++ ((c.offerAll ls).2.offerAll ms).1,
        ((c.offerAll ls).2.offerAll ms).2) := by
  induction ls generalizing c with
  | nil => rfl
  | cons l ls ih => simp only [List.cons_append, offerAll, ih]

theorem lines_offerAll (c : Channel) (ls : List Line) :
    (c.offerAll ls).2.lines = c.lines ++ Offer.taken (c.offerAll ls).1 := by
  induction ls generalizing c with
  | nil => exact (List.append_nil _).symm
  | cons l ls ih =>
    rw [offerAll]
    dsimp only
    rw [ih]
    by_cases room : c.lines.length < c.capacity
    · obtain ⟨outcome, lines, _⟩ := push_of_lt l room
      simp [outcome, lines, Offer.taken]
    · obtain ⟨outcome, lines, _⟩ := push_of_full l room
      simp [outcome, lines, Offer.taken]

theorem dropped_offerAll (c : Channel) (ls : List Line) :
    (c.offerAll ls).2.dropped = c.dropped + UInt64.ofNat (Offer.rejected (c.offerAll ls).1) := by
  induction ls generalizing c with
  | nil => exact (UInt64.add_zero _).symm
  | cons l ls ih =>
    rw [offerAll]
    dsimp only
    rw [ih]
    by_cases room : c.lines.length < c.capacity
    · obtain ⟨outcome, _, dropped⟩ := push_of_lt l room
      simp [outcome, dropped, Offer.rejected]
    · obtain ⟨outcome, _, dropped⟩ := push_of_full l room
      rw [dropped, outcome, UInt64.add_assoc, UInt64.add_comm 1]
      simp only [Offer.rejected, List.countP_cons, decide_true, if_true, UInt64.ofNat_add]
      rfl

theorem offered_offerAll (c : Channel) (ls : List Line) :
    (c.offerAll ls).1.map (·.line) = ls := by
  induction ls generalizing c with
  | nil => rfl
  | cons l ls ih => exact congrArg (l :: ·) (ih _)

theorem mem_of_taken {c : Channel} {ls : List Line} {l : Line}
    (mem : l ∈ Offer.taken (c.offerAll ls).1) : l ∈ ls := by
  rw [← offered_offerAll c ls]
  obtain ⟨o, kept, rfl⟩ := List.mem_map.mp mem
  exact List.mem_map_of_mem (List.mem_filter.mp kept).1

end Channel

namespace Registry

theorem get_act {α : Type} (r : Registry) (kind other : Transport) (f : Channel → α × Channel) :
    (r.act kind f).2.get other =
      if other = kind then (r.get other).map (fun c => (f c).2) else r.get other := by
  rw [act]
  split
  · next c here =>
    rw [get_put]
    split
    · next same => rw [same, here]; rfl
    · rfl
  · next free =>
    split
    · next same => rw [same, free]; rfl
    · rfl

theorem get_pushAll (r : Registry) (l : Line) (kind : Transport) :
    (r.pushAll l).get kind = (r.get kind).map (fun c => (c.push l).2) := by
  cases kind <;> simp [pushAll, Transport.all, push, get_act]

end Registry

def Call.lines : Call → List Line
  | .dispatch .main l => if l.isEmpty then [] else [l]
  | .dispatch .other _ | .setEcho _ _ => []

namespace Desk

def channel (d : Desk) (kind : Transport) : Option Channel :=
  d.main.registry.get kind

def offered (d : Desk) : Operation → List Line
  | .emit r value => (d.emitCalls r value).flatMap Call.lines
  | .dispatch r l => (Call.dispatch r l).lines
  | .setEcho r on => (Call.setEcho r on).lines

theorem text_of_mem_lines {c : Call} {l : Line} (mem : l ∈ c.lines) : l.bytes ≠ [] := by
  intro empty
  obtain ⟨_ | _, m⟩ | ⟨_, _⟩ := c
  · rw [Call.lines] at mem
    split at mem
    · cases mem
    · next text =>
      rw [List.mem_singleton.mp mem] at empty
      exact text (m.isEmpty_iff.mpr empty)
  · cases mem
  · cases mem

theorem text_of_mem_offered {d : Desk} {op : Operation} {l : Line} (mem : l ∈ d.offered op) :
    l.bytes ≠ [] := by
  cases op with
  | emit r value =>
    obtain ⟨c, _, here⟩ := List.mem_flatMap.mp mem
    exact text_of_mem_lines here
  | dispatch r m => exact text_of_mem_lines mem
  | setEcho r on => cases mem

theorem channel_make (d : Desk) (c : Call) (kind : Transport) :
    (d.make c).channel kind = (d.channel kind).map (fun ch => (ch.offerAll c.lines).2) := by
  obtain ⟨_ | _, l⟩ | ⟨_ | _, on⟩ := c
  · rw [make, channel, update, Router.dispatch, Call.lines]
    split
    · exact Option.map_id'.symm
    · exact d.main.registry.get_pushAll l kind
  · exact Option.map_id'.symm
  · exact Option.map_id'.symm
  · exact Option.map_id'.symm

theorem channel_makeAll (d : Desk) (cs : List Call) (kind : Transport) :
    (d.makeAll cs).channel kind =
      (d.channel kind).map (fun ch => (ch.offerAll (cs.flatMap Call.lines)).2) := by
  induction cs generalizing d with
  | nil => exact Option.map_id'.symm
  | cons c cs ih =>
    rw [makeAll_cons, ih, channel_make, Option.map_map, List.flatMap_cons]
    simp only [Function.comp_def, Channel.offerAll_append]

theorem channel_perform (d : Desk) (r : RouterName) (value : Script) (kind : Transport) :
    (d.perform r value).2.channel kind = (d.makeAll (d.emitCalls r value)).channel kind := by
  rw [perform]
  dsimp only
  split
  · cases r <;> rfl
  · rfl

theorem channel_operate {d : Desk} (clear : d.emitting = false) (op : Operation)
    (kind : Transport) :
    (d.operate op).2.channel kind =
      (d.channel kind).map (fun ch => (ch.offerAll (d.offered op)).2) := by
  cases op with
  | emit r value =>
    rw [operate, emit_eq_perform clear, channel_perform, channel_makeAll]
    rfl
  | dispatch r l => exact d.channel_make (.dispatch r l) kind
  | setEcho r on => exact d.channel_make (.setEcho r on) kind

end Desk

end LogRelay
