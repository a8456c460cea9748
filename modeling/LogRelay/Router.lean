import LogRelay.Registry

/-!
Handing formatted values to the channels of a registry. Formatting may itself do things: dispatch
lines, switch the console copy on or off, or emit again. While a thread emits, further emits on it
are discarded, and however an emit ends the thread may emit again afterwards.
-/

namespace LogRelay

structure Router where
  registry : Registry
  echo : Bool
  console : String
deriving DecidableEq

namespace Router

def create (registry : Registry) (echo : Bool) : Router :=
  ⟨registry, echo, ""⟩

def dispatch (r : Router) (l : Line) : Router :=
  if l.isEmpty then r else { r with registry := r.registry.pushAll l }

def print (r : Router) (s : String) : Router :=
  { r with console := r.console ++ s }

end Router

inductive RouterName where
  | main
  | other
deriving DecidableEq

/-- One thread with its routers. `emitting` tells whether it is inside an emit on any of them. -/
structure Desk where
  main : Router
  other : Router
  emitting : Bool
deriving DecidableEq

namespace Desk

def get (d : Desk) : RouterName → Router
  | .main => d.main
  | .other => d.other

def update (d : Desk) (name : RouterName) (f : Router → Router) : Desk :=
  match name with
  | .main => { d with main := f d.main }
  | .other => { d with other := f d.other }

def single (r : Router) : Desk :=
  ⟨r, Router.create Registry.empty false, false⟩

end Desk

/-- What a value does while it is formatted, first things first. A failure stops the formatting, and
nobody is told; a panic unwinds everything up to the outermost call. -/
inductive Script where
  | done
  | fail
  | panic
  | text (s : String) (rest : Script)
  | emit (router : RouterName) (value : Script) (rest : Script)
  | dispatch (router : RouterName) (line : Line) (rest : Script)
  | setEcho (router : RouterName) (on : Bool) (rest : Script)

inductive Outcome where
  | finished
  | failed
  | panicked
deriving DecidableEq

/-- The pieces of text that a value wrote, how it ended, and the thread afterwards. -/
structure Formatted where
  pieces : List String
  outcome : Outcome
  desk : Desk

namespace Script

def andThen : Script → Script → Script
  | done, k => k
  | fail, _ => fail
  | panic, _ => panic
  | text s rest, k => text s (rest.andThen k)
  | emit r value rest, k => emit r value (rest.andThen k)
  | dispatch r l rest, k => dispatch r l (rest.andThen k)
  | setEcho r on rest, k => setEcho r on (rest.andThen k)

def ofText (s : String) : Script :=
  text s done

/-- Formats a value once. An emit formats its own value for the line, dispatches the line, and
formats the value again for the console if the copy is on by then; text written before a failure
counts, and of a value that unwinds only the console keeps what it got. -/
def format : Script → Desk → Formatted
  | done, d => ⟨[], .finished, d⟩
  | fail, d => ⟨[], .failed, d⟩
  | panic, d => ⟨[], .panicked, d⟩
  | text s rest, d =>
    let f := rest.format d
    { f with pieces := s :: f.pieces }
  | dispatch r l rest, d => rest.format (d.update r (·.dispatch l))
  | setEcho r on rest, d => rest.format (d.update r ({ · with echo := on }))
  | emit r value rest, d =>
    if d.emitting then rest.format d
    else
      let first := value.format { d with emitting := true }
      if first.outcome = .panicked then
        ⟨[], .panicked, { first.desk with emitting := false }⟩
      else
        let line := Line.ofPieces (first.pieces.map bytesOf)
        let d := first.desk.update r (·.dispatch line)
        if (d.get r).echo then
          let second := value.format d
          let d := second.desk.update r (·.print (String.join second.pieces))
          let d := { d with emitting := false }
          if second.outcome = .panicked then ⟨[], .panicked, d⟩ else rest.format d
        else rest.format { d with emitting := false }

end Script

namespace Desk

def emit (d : Desk) (router : RouterName) (value : Script) : Bool × Desk :=
  let f := (Script.emit router value .done).format d
  (f.outcome = .panicked, f.desk)

end Desk

namespace Line

/-- The line of a value that is formatted outside of any emit on its thread, unless it unwinds. -/
def render? (value : Script) (d : Desk) : Option Line :=
  let f := value.format d
  if f.outcome = .panicked then none else some (ofPieces (f.pieces.map bytesOf))

end Line

end LogRelay
