import LogRelay.Text.Blank

/-!
The two ways in which lines travel: one datagram per line, or one stream of lines.
-/

namespace LogRelay

inductive Transport where
  | udp
  | tcp
deriving DecidableEq

namespace Transport

def all : List Transport :=
  [udp, tcp]

def name : Transport → String
  | udp => "udp"
  | tcp => "tcp"

def ofName? (s : String) : Option Transport :=
  match Text.lower (Text.trim s) with
  | "udp" | "datagram" => some udp
  | "tcp" | "stream" => some tcp
  | _ => none

theorem mem_all (t : Transport) : t ∈ all := by
  cases t <;> decide

structure Table (α : Type) where
  udp : α
  tcp : α
deriving DecidableEq

namespace Table

variable {α : Type}

def fill (a : α) : Table α :=
  ⟨a, a⟩

def get (t : Table α) : Transport → α
  | .udp => t.udp
  | .tcp => t.tcp

def set (t : Table α) (kind : Transport) (a : α) : Table α :=
  match kind with
  | .udp => { t with udp := a }
  | .tcp => { t with tcp := a }

@[simp] theorem get_fill (a : α) (kind : Transport) : (fill a).get kind = a := by
  cases kind <;> rfl

@[simp] theorem get_set (t : Table α) (kind other : Transport) (a : α) :
    (t.set kind a).get other = if other = kind then a else t.get other := by
  cases kind <;> cases other <;> rfl

theorem ext_get {s t : Table α} (h : ∀ kind, s.get kind = t.get kind) : s = t := by
  cases s; cases t
  have hu := h .udp
  have ht := h .tcp
  simp_all [get]

end Table

end Transport

end LogRelay
