import LogRelay.Proofs.Queueing
import LogRelay.Record

/-!
Records that the library writes about itself, on a thread outside of any emit. The text of such a
record makes no calls and is never without octets, so each one is offered as one line to every
channel, and nothing else of the thread changes but the console.
-/

namespace LogRelay

namespace Draft

theorem text_push {d : Draft} (text : d.bytes ≠ []) (piece : Bytes) : (d.push piece).bytes ≠ [] :=
  fun empty => text (List.append_eq_nil_iff.mp empty).1

theorem text_pushAll {d : Draft} (text : d.bytes ≠ []) (pieces : List Bytes) :
    (pieces.foldl push d).bytes ≠ [] := by
  induction pieces generalizing d with
  | nil => exact text
  | cons piece rest ih => exact ih (text_push text piece)

theorem text_finish {d : Draft} (text : d.bytes ≠ []) : d.finish.bytes ≠ [] := by
  rw [finish]
  split
  · exact text
  · exact fun empty => text (List.append_eq_nil_iff.mp empty).1

end Draft

namespace Record

def line (r : Record) : Line :=
  r.script.line

theorem text_line (r : Record) : r.line.bytes ≠ [] := by
  have tag : (Draft.empty.push (bytesOf r.level.letter)).bytes ≠ [] := by
    cases r.level <;> decide
  exact Draft.text_finish (Draft.text_pushAll tag _)

end Record

namespace Desk

variable {d : Desk} {threshold : Threshold}

theorem emitCalls_record (d : Desk) (r : Record) :
    d.emitCalls .main r.script = [.dispatch .main r.line] := by
  rw [emitCalls]
  exact congrArg (Call.dispatch .main r.line :: ·) (ite_self _)

theorem offered_record (d : Desk) (r : Record) : d.offered (.emit .main r.script) = [r.line] := by
  rw [offered, emitCalls_record]
  exact (List.append_nil _).trans (if_neg (r.text_line ∘ r.line.isEmpty_iff.mp))

theorem logRecord_eq {r : Record} (passes : threshold.passes r.level) :
    d.logRecord threshold r = (d.operate (.emit .main r.script)).2 :=
  congrArg Prod.snd (if_pos passes)

theorem echo_perform_record (d : Desk) (r : Record) :
    (d.perform .main r.script).2.main.echo = d.main.echo := by
  have sent : (d.makeAll [.dispatch .main r.line]).main.echo = d.main.echo :=
    d.echo_dispatch .main r.line
  rw [perform, emitCalls_record]
  generalize d.makeAll [.dispatch .main r.line] = after at sent
  dsimp only
  split <;> exact sent

structure Logged (d : Desk) (lines : List Line) (e : Desk) : Prop where
  clear : e.emitting = false
  echo : e.main.echo = d.main.echo
  channel : ∀ kind, e.channel kind = (d.channel kind).map fun c => (c.offerAll lines).2

theorem Logged.trans {e f : Desk} {ls ms : List Line} (first : d.Logged ls e)
    (second : e.Logged ms f) : d.Logged (ls ++ ms) f := by
  refine ⟨second.clear, second.echo.trans first.echo, fun kind => ?_⟩
  rw [second.channel, first.channel, Option.map_map]
  simp only [Function.comp_def, Channel.offerAll_append]

theorem logged_logRecord (clear : d.emitting = false) {r : Record}
    (passes : threshold.passes r.level) : d.Logged [r.line] (d.logRecord threshold r) := by
  rw [logRecord_eq passes]
  refine ⟨operate_clear clear _, ?_, fun kind => ?_⟩
  · rw [operate, emit_eq_perform clear, echo_perform_record]
  · rw [channel_operate clear, offered_record]

theorem logged_logAll (clear : d.emitting = false) {rs : List Record}
    (passes : ∀ r ∈ rs, threshold.passes r.level) :
    d.Logged (rs.map Record.line) (rs.foldl (·.logRecord threshold ·) d) := by
  induction rs generalizing d with
  | nil => exact ⟨clear, rfl, fun _ => Option.map_id'.symm⟩
  | cons r rest ih =>
    have first := logged_logRecord clear (passes r List.mem_cons_self)
    exact first.trans (ih first.clear fun s mem => passes s (List.mem_cons_of_mem r mem))

end Desk

namespace Channel

theorem kept_offerAll (c : Channel) (ls : List Line) :
    c.Kept ((c.offerAll ls).1.map .pushed) (c.offerAll ls).2 := by
  induction ls generalizing c with
  | nil => exact .refl c
  | cons l rest ih => exact (c.kept_push l).trans (ih _)

end Channel

end LogRelay
