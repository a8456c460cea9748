import LogRelay.Proofs.Formatting

/-!
Emits nested in the values of other emits. Leaving them all out changes neither what becomes of any
channel, flag or console nor which operations unwind, and after every operation the thread may emit
again, however that operation ended.
-/

namespace LogRelay

namespace Script

def bare : Script → Script
  | done => done
  | fail => fail
  | panic => panic
  | text s rest => text s rest.bare
  | emit _ _ rest => rest.bare
  | dispatch r l rest => dispatch r l rest.bare
  | setEcho r on rest => setEcho r on rest.bare

@[simp] theorem calls_bare (s : Script) : s.bare.calls = s.calls := by
  induction s with
  | done => rfl
  | fail => rfl
  | panic => rfl
  | text s rest ih => exact ih
  | emit r value rest _ ih => exact ih
  | dispatch r l rest ih => exact congrArg (Call.dispatch r l :: ·) ih
  | setEcho r on rest ih => exact congrArg (Call.setEcho r on :: ·) ih

@[simp] theorem pieces_bare (s : Script) : s.bare.pieces = s.pieces := by
  induction s with
  | done => rfl
  | fail => rfl
  | panic => rfl
  | text s rest ih => exact congrArg (s :: ·) ih
  | emit r value rest _ ih => exact ih
  | dispatch r l rest ih => exact ih
  | setEcho r on rest ih => exact ih

@[simp] theorem ending_bare (s : Script) : s.bare.ending = s.ending := by
  induction s with
  | done => rfl
  | fail => rfl
  | panic => rfl
  | text s rest ih => exact ih
  | emit r value rest _ ih => exact ih
  | dispatch r l rest ih => exact ih
  | setEcho r on rest ih => exact ih

@[simp] theorem line_bare (s : Script) : s.bare.line = s.line := by
  rw [line, line, pieces_bare]

end Script

namespace Desk

inductive Operation where
  | emit (router : RouterName) (value : Script)
  | dispatch (router : RouterName) (line : Line)
  | setEcho (router : RouterName) (on : Bool)

def Operation.bare : Operation → Operation
  | emit r value => emit r value.bare
  | other => other

/-- One operation. The flag tells whether it unwound. -/
def operate (d : Desk) : Operation → Bool × Desk
  | .emit r value => d.emit r value
  | .dispatch r l => (false, d.make (.dispatch r l))
  | .setEcho r on => (false, d.make (.setEcho r on))

def operateAll : Desk → List Operation → List Bool × Desk
  | d, [] => ([], d)
  | d, op :: rest =>
    let (unwound, after) := d.operate op
    let (later, last) := operateAll after rest
    (unwound :: later, last)

theorem perform_bare (d : Desk) (r : RouterName) (value : Script) :
    d.perform r value.bare = d.perform r value := by
  rw [perform, perform, emitCalls, emitCalls, echoes, echoes, Script.calls_bare,
    Script.pieces_bare, Script.ending_bare, Script.line_bare]

theorem emitting_perform (d : Desk) (r : RouterName) (value : Script) :
    (d.perform r value).2.emitting = d.emitting := by
  rw [perform]
  split
  · rw [emitting_update, emitting_makeAll]
  · rw [emitting_makeAll]

theorem operate_bare {d : Desk} (clear : d.emitting = false) (op : Operation) :
    d.operate op.bare = d.operate op := by
  cases op with
  | emit r value =>
    rw [Operation.bare, operate, operate, emit_eq_perform clear, emit_eq_perform clear,
      perform_bare]
  | dispatch r l => rfl
  | setEcho r on => rfl

theorem operate_clear {d : Desk} (clear : d.emitting = false) (op : Operation) :
    (d.operate op).2.emitting = false := by
  cases op with
  | emit r value => rw [operate, emit_eq_perform clear, emitting_perform, clear]
  | dispatch r l => rw [operate, emitting_make, clear]
  | setEcho r on => rw [operate, emitting_make, clear]

theorem operateAll_bare {d : Desk} (clear : d.emitting = false) (ops : List Operation) :
    d.operateAll (ops.map Operation.bare) = d.operateAll ops := by
  induction ops generalizing d with
  | nil => rfl
  | cons op rest ih =>
    have later := ih (operate_clear clear op)
    simp only [List.map_cons, operateAll, operate_bare clear, later]

theorem operateAll_clear {d : Desk} (clear : d.emitting = false) (ops : List Operation) :
    (d.operateAll ops).2.emitting = false := by
  induction ops generalizing d with
  | nil => exact clear
  | cons op rest ih => exact ih (operate_clear clear op)

/-- The thread starts outside of any emit; `n` counts the operations done. -/
theorem nested_emits_erased (main other : Router) (ops : List Operation) :
    let d : Desk := ⟨main, other, false⟩
    d.operateAll (ops.map Operation.bare) = d.operateAll ops ∧
      ∀ n, let after := (d.operateAll (ops.take n)).2
        after.emitting = false ∧ ∀ r value, after.emit r value = after.perform r value := by
  intro d
  refine ⟨operateAll_bare rfl ops, fun n => ?_⟩
  have clear := operateAll_clear (d := d) rfl (ops.take n)
  exact ⟨clear, fun r value => emit_eq_perform clear r value⟩

end Desk

end LogRelay
