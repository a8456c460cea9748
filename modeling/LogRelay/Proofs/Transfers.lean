import Mathlib.Algebra.Ring.Nat
import LogRelay.Proofs.Writing

/-!
Writing a whole text over something that takes it piece by piece and may interrupt or fail. When
the calls come to an end, all of the text was taken or the last call failed; and they come to an
end unless the writer does nothing but interrupt from some call on.
-/

namespace LogRelay

namespace Reply

def count : Reply → Nat
  | accepted n => n
  | interrupted | failed _ => 0

/-- Why no call follows this answer. To take nothing of an offer counts as a failure. -/
def fault? : Reply → Option Fault
  | accepted 0 => some .peerClosed
  | accepted (_ + 1) | interrupted => none
  | failed fault => some fault

@[simp] theorem fault?_interrupted : interrupted.fault? = none := rfl

theorem share_eq (r : Reply) (offer : Bytes) : r.share offer = offer.take r.count := by
  cases r <;> rfl

theorem count_of_fault {r : Reply} {fault : Fault} (failed : r.fault? = some fault) :
    r.count = 0 := by
  obtain (_ | n) | _ | f := r <;> simp_all [fault?, count]

theorem fault?_eq_some {r : Reply} {fault : Fault} (stopped : r.fault? = some fault) :
    r = failed fault ∨ r = accepted 0 ∧ fault = .peerClosed ∧ fault.kind = .writeZero := by
  obtain (_ | n) | _ | f := r <;> simp_all [fault?]
  simp [← stopped, Fault.kind]

theorem one_le_of_plain {r : Reply} (plain : r.fault? = none) :
    1 ≤ r.count + if r == .interrupted then 1 else 0 := by
  obtain (_ | n) | _ | f := r <;> simp_all [fault?, count]

end Reply

section

variable {σ : Type} (write : σ → Bytes → Reply × σ)

def Writer.Honest : Prop :=
  ∀ s offer n next, write s offer = (.accepted n, next) → n ≤ offer.length

/-- Calls that offer what is left of the text each time, as long as something is left: the answers
in order, and the rest and the writer after them. -/
inductive Writer.Asked : σ → Bytes → List Reply → Bytes → σ → Prop where
  | nothing (s : σ) (b : Bytes) : Asked s b [] b s
  | call {s next last : σ} {b rest : Bytes} {reply : Reply} {replies : List Reply}
      (text : b ≠ []) (answer : write s b = (reply, next))
      (later : Asked next (b.drop reply.count) replies rest last) :
      Asked s b (reply :: replies) rest last

def Writer.Returns (s : σ) (b : Bytes) (t : Transfer σ) : Prop :=
  ∃ fuel, writeFully write fuel s b = t ∧ t.ending ≠ .unfinished

/-- After some calls that did not fail the writer interrupts every call to come. -/
def Writer.InterruptsForEver (s : σ) (b : Bytes) : Prop :=
  ∃ replies rest last, Writer.Asked write s b replies rest last ∧ (∀ r ∈ replies, r.fault? = none) ∧
    rest ≠ [] ∧ ∀ k, ∃ next, Writer.Asked write last rest (List.replicate k .interrupted) rest next

variable {write}

theorem Writer.Asked.append {s mid last : σ} {b left rest : Bytes} {first second : List Reply}
    (begun : Writer.Asked write s b first left mid)
    (later : Writer.Asked write mid left second rest last) :
    Writer.Asked write s b (first ++ second) rest last := by
  induction begun with
  | nothing => exact later
  | call text answer _ ih => exact .call text answer (ih later)

theorem writeFully_nil (fuel : Nat) (s : σ) :
    writeFully write fuel s [] = ⟨.complete, [], [], s⟩ := by
  cases fuel <;> rfl

theorem writeFully_zero (s : σ) {b : Bytes} (text : b ≠ []) :
    writeFully write 0 s b = ⟨.unfinished, [], [], s⟩ := by
  cases b with
  | nil => contradiction
  | cons x b => rfl

theorem writeFully_succ {s next : σ} {b : Bytes} {reply : Reply} (text : b ≠ [])
    (answer : write s b = (reply, next)) (fuel : Nat) :
    writeFully write (fuel + 1) s b =
      match reply.fault? with
      | none => (writeFully write fuel next (b.drop reply.count)).after reply (reply.share b)
      | some fault => ⟨.failed fault, [], [reply], next⟩ := by
  cases b with
  | nil => contradiction
  | cons x b =>
    rw [writeFully, answer]
    obtain (_ | n) | _ | fault := reply <;> rfl

/-- What holds of a transfer without calls, of one that fails at once, and of one with an answer
more if it held without that answer, holds of writing. -/
theorem writeFully_induction {P : σ → Bytes → Transfer σ → Prop}
    (done : ∀ s, P s [] ⟨.complete, [], [], s⟩)
    (stop : ∀ s b, b ≠ [] → P s b ⟨.unfinished, [], [], s⟩)
    (fail : ∀ {s b reply next fault}, write s b = (reply, next) → b ≠ [] →
      reply.fault? = some fault → P s b ⟨.failed fault, [], [reply], next⟩)
    (goOn : ∀ {s b reply next t}, write s b = (reply, next) → b ≠ [] → reply.fault? = none →
      P next (b.drop reply.count) t → P s b (t.after reply (b.take reply.count)))
    (fuel : Nat) (s : σ) (b : Bytes) : P s b (writeFully write fuel s b) := by
  induction fuel generalizing s b with
  | zero =>
    by_cases text : b = []
    · simpa [text, writeFully_nil] using done s
    · simpa [writeFully_zero s text] using stop s b text
  | succ fuel ih =>
    by_cases text : b = []
    · simpa [text, writeFully_nil] using done s
    · rw [writeFully_succ text rfl]
      split
      · next plain =>
        rw [Reply.share_eq]
        exact goOn rfl text plain (ih _ _)
      · next failed => exact fail rfl text failed

@[simp] theorem Transfer.ending_after (t : Transfer σ) (reply : Reply) (b : Bytes) :
    (t.after reply b).ending = t.ending := rfl

@[simp] theorem Transfer.replies_after (t : Transfer σ) (reply : Reply) (b : Bytes) :
    (t.after reply b).replies = reply :: t.replies := rfl

variable (write) in
theorem writeFully_asked (fuel : Nat) (s : σ) (b : Bytes) :
    ∃ rest, b = (writeFully write fuel s b).taken ++ rest ∧
      Writer.Asked write s b (writeFully write fuel s b).replies rest
        (writeFully write fuel s b).writer := by
  refine writeFully_induction (P := fun s b t =>
    ∃ rest, b = t.taken ++ rest ∧ Writer.Asked write s b t.replies rest t.writer)
    ?_ ?_ ?_ ?_ fuel s b
  · intro s
    exact ⟨[], rfl, .nothing s []⟩
  · intro s b _
    exact ⟨b, rfl, .nothing s b⟩
  · intro s b reply next fault answer text failed
    refine ⟨b, rfl, .call text answer ?_⟩
    rw [Reply.count_of_fault failed]
    exact .nothing next b
  · intro s b reply next t answer text _ ⟨rest, split, later⟩
    refine ⟨rest, ?_, .call text answer later⟩
    rw [Transfer.taken_after, List.append_assoc, ← split, List.take_append_drop]

variable (write) in
theorem writeFully_calls_le (fuel : Nat) (s : σ) (b : Bytes) :
    (writeFully write fuel s b).calls ≤
      (writeFully write fuel s b).taken.length +
        (writeFully write fuel s b).replies.count .interrupted + 1 := by
  refine writeFully_induction (P := fun _ _ t =>
    t.calls ≤ t.taken.length + t.replies.count .interrupted + 1) ?_ ?_ ?_ ?_ fuel s b
  · simp [Transfer.calls]
  · simp [Transfer.calls]
  · simp [Transfer.calls]
  · intro s b reply next t answer text plain calls
    have one := Reply.one_le_of_plain plain
    have offered := List.length_pos_iff.mpr text
    simp only [Transfer.calls, Transfer.taken_after, Transfer.replies_after, List.length_cons,
      List.length_append, List.length_take, List.count_cons] at calls ⊢
    omega

theorem writeFully_counts (honest : Writer.Honest write) (fuel : Nat) (s : σ) (b : Bytes) :
    ((writeFully write fuel s b).replies.map Reply.count).sum =
      (writeFully write fuel s b).taken.length := by
  refine writeFully_induction (P := fun _ _ t =>
    (t.replies.map Reply.count).sum = t.taken.length) ?_ ?_ ?_ ?_ fuel s b
  · simp
  · simp
  · intro s b reply next fault _ _ failed
    simp [Reply.count_of_fault failed]
  · intro s b reply next t answer _ _ counts
    have within : reply.count ≤ b.length := by
      cases reply with
      | accepted n => exact honest s b n next answer
      | interrupted => exact Nat.zero_le _
      | failed fault => exact Nat.zero_le _
    simp [counts, Nat.min_eq_left within]

def Transfer.Ends (b : Bytes) (t : Transfer σ) : Prop :=
  match t.ending with
  | .complete => t.taken = b ∧ ∀ r ∈ t.replies, r.fault? = none
  | .failed fault => t.taken.length < b.length ∧ ∃ before last, t.replies = before ++ [last] ∧
      (∀ r ∈ before, r.fault? = none) ∧ last.fault? = some fault
  | .unfinished => t.taken.length < b.length ∧ ∀ r ∈ t.replies, r.fault? = none

variable (write) in
theorem writeFully_ends (fuel : Nat) (s : σ) (b : Bytes) :
    (writeFully write fuel s b).Ends b := by
  refine writeFully_induction (P := fun _ b t => t.Ends b) ?_ ?_ ?_ ?_ fuel s b
  · intro s
    simp [Transfer.Ends]
  · intro s b text
    simpa [Transfer.Ends] using List.length_pos_iff.mpr text
  · intro s b reply next fault _ text failed
    exact ⟨List.length_pos_iff.mpr text, [], reply, rfl, by simp, failed⟩
  · intro s b reply next t _ _ plain ends
    simp only [Transfer.Ends, Transfer.ending_after, Transfer.taken_after,
      Transfer.replies_after] at ends ⊢
    split
    · next finished =>
      simp only [finished] at ends
      simpa [plain, ends.1] using ends.2
    · next finished =>
      simp only [finished, List.length_drop] at ends
      obtain ⟨short, before, last, replies, plainBefore, failed⟩ := ends
      refine ⟨?_, reply :: before, last, by simp [replies], by simpa [plain] using plainBefore,
        failed⟩
      simp only [List.length_append, List.length_take]
      omega
    · next finished =>
      simp only [finished, List.length_drop] at ends
      refine ⟨?_, by simpa [plain] using ends.2⟩
      simp only [List.length_append, List.length_take]
      omega

theorem writeFully_add {fuel : Nat} {s : σ} {b : Bytes}
    (ended : (writeFully write fuel s b).ending ≠ .unfinished) (more : Nat) :
    writeFully write (fuel + more) s b = writeFully write fuel s b := by
  induction fuel generalizing s b with
  | zero =>
    by_cases text : b = []
    · simp [text, writeFully_nil]
    · simp [writeFully_zero s text] at ended
  | succ fuel ih =>
    by_cases text : b = []
    · simp [text, writeFully_nil]
    · rw [writeFully_succ text rfl] at ended
      rw [Nat.succ_add, writeFully_succ text rfl, writeFully_succ text rfl]
      split
      · next plain =>
        simp only [plain, Transfer.ending_after] at ended
        rw [ih ended]
      · rfl

theorem Writer.Asked.ending_eq {s last : σ} {b rest : Bytes} {replies : List Reply}
    (asked : Writer.Asked write s b replies rest last) (plain : ∀ r ∈ replies, r.fault? = none)
    (fuel : Nat) :
    (writeFully write (replies.length + fuel) s b).ending =
      (writeFully write fuel last rest).ending := by
  induction asked with
  | nothing => simp
  | call text answer _ ih =>
    rw [List.forall_mem_cons] at plain
    rw [List.length_cons, Nat.add_right_comm, writeFully_succ text answer]
    simp [plain.1, ih plain.2]

theorem not_returns_of_interrupts {s : σ} {b : Bytes} (stuck : Writer.InterruptsForEver write s b)
    (fuel : Nat) : (writeFully write fuel s b).ending = .unfinished := by
  obtain ⟨replies, rest, last, asked, plain, text, again⟩ := stuck
  refine Decidable.byContradiction fun ended => ?_
  -- More calls do not change a run that ended, but of these calls none is the last.
  obtain ⟨next, waits⟩ := again fuel
  have onward := asked.ending_eq plain fuel
  rw [Nat.add_comm, writeFully_add ended] at onward
  have idle := waits.ending_eq (by simp) 0
  rw [List.length_replicate, Nat.add_zero, writeFully_zero next text] at idle
  exact ended (onward.trans idle)

theorem interrupted_or_answered (s : σ) {b : Bytes} (text : b ≠ []) :
    (∀ k, ∃ next, Writer.Asked write s b (List.replicate k .interrupted) b next) ∨
      ∃ k mid, Writer.Asked write s b (List.replicate k .interrupted) b mid ∧
        (write mid b).1 ≠ .interrupted := by
  by_cases answered : ∃ k mid, Writer.Asked write s b (List.replicate k .interrupted) b mid ∧
      (write mid b).1 ≠ .interrupted
  · exact .inr answered
  · refine .inl fun k => ?_
    induction k with
    | zero => exact ⟨s, .nothing s b⟩
    | succ k ih =>
      obtain ⟨mid, waits⟩ := ih
      have again : (write mid b).1 = .interrupted :=
        Decidable.byContradiction fun other => answered ⟨k, mid, waits, other⟩
      refine ⟨(write mid b).2, ?_⟩
      rw [List.replicate_succ']
      exact waits.append (.call text (Prod.ext again rfl) (.nothing _ _))

theorem Writer.InterruptsForEver.after {s mid : σ} {b rest : Bytes} {replies : List Reply}
    (asked : Writer.Asked write s b replies rest mid) (plain : ∀ r ∈ replies, r.fault? = none)
    (stuck : Writer.InterruptsForEver write mid rest) : Writer.InterruptsForEver write s b := by
  obtain ⟨later, left, last, goOn, plainLater, text, again⟩ := stuck
  refine ⟨replies ++ later, left, last, asked.append goOn, ?_, text, again⟩
  intro r hr
  exact (List.mem_append.mp hr).elim (plain r) (plainLater r)

theorem interrupts_of_not_returns {s : σ} {b : Bytes}
    (endless : ∀ fuel, (writeFully write fuel s b).ending = .unfinished) :
    Writer.InterruptsForEver write s b := by
  -- Every answer that is no interruption makes the rest of the text shorter.
  induction h : b.length using Nat.strongRecOn generalizing s b with
  | _ n ih =>
    have text : b ≠ [] := by
      rintro rfl
      simpa [writeFully_nil] using endless 0
    obtain again | ⟨k, mid, waits, other⟩ := interrupted_or_answered s text
    · exact ⟨[], b, s, .nothing s b, by simp, text, again⟩
    · have onward (fuel : Nat) : (writeFully write fuel mid b).ending = .unfinished := by
        have run := waits.ending_eq (by simp) fuel
        rw [← run, endless]
      cases answer : write mid b with
      | mk reply next =>
        rw [answer] at other
        have plain : reply.fault? = none := by
          have once := onward 1
          rw [writeFully_succ text answer] at once
          split at once
          · next plain => exact plain
          · cases once
        have shorter : (b.drop reply.count).length < n := by
          have one := Reply.one_le_of_plain plain
          have offered := List.length_pos_iff.mpr text
          simp only [beq_iff_eq, other, if_false] at one
          simp only [List.length_drop]
          omega
        refine Writer.InterruptsForEver.after (waits.append (.call text answer (.nothing _ _))) ?_
          (ih _ shorter (fun fuel => ?_) rfl)
        · intro r hr
          obtain waited | rfl := List.mem_append.mp hr |>.imp_right List.mem_singleton.mp
          · simp [List.eq_of_mem_replicate waited]
          · exact plain
        · have once := onward (fuel + 1)
          rw [writeFully_succ text answer, plain] at once
          exact once

namespace Transfer.Ends

variable {b : Bytes} {t : Transfer σ}

theorem complete (ends : t.Ends b) (finished : t.ending = .complete) :
    t.taken = b ∧ ∀ r ∈ t.replies, r.fault? = none := by
  simpa [Transfer.Ends, finished] using ends

theorem failed (ends : t.Ends b) {fault : Fault} (finished : t.ending = .failed fault) :
    t.taken.length < b.length ∧ ∃ before last, t.replies = before ++ [last] ∧
      (∀ r ∈ before, r.fault? = none) ∧ last.fault? = some fault := by
  simpa [Transfer.Ends, finished] using ends

end Transfer.Ends

structure Writer.Delivers (write : σ → Bytes → Reply × σ) (s : σ) (b : Bytes) (t : Transfer σ) :
    Prop where
  asked : ∃ rest, b = t.taken ++ rest ∧ Asked write s b t.replies rest t.writer
  inside : (t.replies.map Reply.count).sum = t.taken.length
  calls : t.calls ≤ b.length + t.replies.count .interrupted + 1
  idle : b = [] → t.calls = 0
  ends : t.ending = .complete ∨ ∃ fault, t.ending = .failed fault
  complete : t.ending = .complete → t.taken = b
  failed : ∀ fault, t.ending = .failed fault → t.taken <+: b ∧ t.taken ≠ b ∧
    ∃ before last, t.replies = before ++ [last] ∧ (∀ r ∈ before, r.fault? = none) ∧
      (last = .failed fault ∨ last = .accepted 0 ∧ fault = .peerClosed ∧ fault.kind = .writeZero)
  smooth : (∀ r ∈ t.replies, r.fault? = none) → t.ending = .complete ∧ t.taken = b

theorem Writer.Returns.delivers (honest : Writer.Honest write) {s : σ} {b : Bytes}
    {t : Transfer σ} (returns : Writer.Returns write s b t) : Writer.Delivers write s b t := by
  obtain ⟨fuel, rfl, ended⟩ := returns
  obtain ⟨rest, split, asked⟩ := writeFully_asked write fuel s b
  have calls := writeFully_calls_le write fuel s b
  have ends := writeFully_ends write fuel s b
  have inside := writeFully_counts honest fuel s b
  generalize writeFully write fuel s b = t at *
  have within : t.taken.length ≤ b.length := by simp [split]
  have finished : t.ending = .complete ∨ ∃ fault, t.ending = .failed fault := by
    cases h : t.ending <;> simp_all
  refine
    { asked := ⟨rest, split, asked⟩
      inside := inside
      calls := by omega
      idle := ?_
      ends := finished
      complete := fun complete => (ends.complete complete).1
      failed := ?_
      smooth := ?_ }
  · rintro rfl
    cases replies : t.replies with
    | nil => simp [Transfer.calls, replies]
    | cons r later =>
      rw [replies] at asked
      cases asked
      contradiction
  · intro fault failed
    obtain ⟨short, before, last, replies, plain, stopped⟩ := ends.failed failed
    refine ⟨⟨rest, split.symm⟩, ?_, before, last, replies, plain, Reply.fault?_eq_some stopped⟩
    intro whole
    simp [whole] at short
  · intro plain
    obtain complete | ⟨fault, failed⟩ := finished
    · exact ⟨complete, (ends.complete complete).1⟩
    · obtain ⟨_, before, last, replies, _, stopped⟩ := ends.failed failed
      have none := plain last (by simp [replies])
      rw [none] at stopped
      cases stopped

/-- Whatever the writer does, writing ends in one way at most, delivers as `Delivers` says if it
ends, and ends unless from some call on the writer interrupts for ever. -/
theorem writeFully_delivers (write : σ → Bytes → Reply × σ) (honest : Writer.Honest write) (s : σ)
    (b : Bytes) :
    (∀ t, Writer.Returns write s b t → Writer.Delivers write s b t) ∧
      (∀ t u, Writer.Returns write s b t → Writer.Returns write s b u → t = u) ∧
      ((∃ t, Writer.Returns write s b t) ↔ ¬ Writer.InterruptsForEver write s b) := by
  refine ⟨fun t returns => returns.delivers honest, ?_, ?_, ?_⟩
  · rintro t u ⟨first, rfl, ended⟩ ⟨second, rfl, endedToo⟩
    rw [← writeFully_add ended second, Nat.add_comm, writeFully_add endedToo]
  · rintro ⟨t, fuel, rfl, ended⟩ stuck
    exact ended (not_returns_of_interrupts stuck fuel)
  · intro free
    refine Classical.byContradiction fun none => free (interrupts_of_not_returns fun fuel => ?_)
    exact Decidable.byContradiction fun ended => none ⟨_, fuel, rfl, ended⟩

theorem scriptedWrite_honest : Writer.Honest scriptedWrite := by
  intro replies offer n next answer
  obtain _ | ⟨reply, rest⟩ := replies
  · cases answer
    exact Nat.le_refl _
  · cases reply <;> cases answer
    exact List.length_take_le' _ _

theorem writeFully_delivers_of_reset :
    let replies : List Reply := [.accepted 2, .interrupted, .accepted 1, .failed .reset]
    let b : Bytes := [1, 2, 3, 4, 5]
    let t := writeFully scriptedWrite 9 replies b
    Writer.Honest scriptedWrite ∧ Writer.Returns scriptedWrite replies b t ∧ t.taken = [1, 2, 3] ∧
      Writer.Delivers scriptedWrite replies b t := by
  intro replies b t
  have returns : Writer.Returns scriptedWrite replies b t := ⟨9, rfl, by decide⟩
  exact ⟨scriptedWrite_honest, returns, by decide,
    (writeFully_delivers scriptedWrite scriptedWrite_honest replies b).1 t returns⟩

end

end LogRelay
