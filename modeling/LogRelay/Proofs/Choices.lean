import LogRelay.Proofs.Delays
import LogRelay.Proofs.Trimming

/-!
What becomes of the settings that a builder is given. Of several values for one setting only the
last one counts. They make a configuration exactly if each value that counts keeps the constraint
on it; otherwise the first constraint that is not kept is named, in a fixed order.
-/

namespace LogRelay

namespace Setting

/-- The value that counts, of all that `read` finds in the settings. -/
def last {α : Type} (read : Setting → Option α) (settings : List Setting) : Option α :=
  (settings.filterMap read).getLast?

def host? : Setting → Option String
  | .destination host _ => some host
  | _ => none

def port? : Setting → Option UInt16
  | .destination _ port => some port
  | _ => none

def echo? : Setting → Option Bool
  | .echo on => some on
  | _ => none

def capacity? : Setting → Option Nat
  | .capacity lines => some lines
  | _ => none

def backend? : Setting → Option Backend
  | .backend b => some b
  | _ => none

def connectTimeout? : Setting → Option Duration
  | .connectTimeout d => some d
  | _ => none

def sendTimeout? : Setting → Option Duration
  | .sendTimeout d => some d
  | _ => none

def readyTimeout? : Setting → Option Duration
  | .readyTimeout d => some d
  | _ => none

def connectBackoff? : Setting → Option Backoff
  | .connectBackoff b => some b
  | _ => none

def sendBackoff? : Setting → Option Backoff
  | .sendBackoff b => some b
  | _ => none

def resolveEvery? : Setting → Option Nat
  | .resolveEvery n => some n
  | _ => none

def yieldEvery? : Setting → Option Nat
  | .yieldEvery n => some n
  | _ => none

def warnInterval? : Setting → Option Duration
  | .warnInterval d => some d
  | _ => none

def maxLevel? : Setting → Option Threshold
  | .maxLevel t => some t
  | _ => none

theorem last_cons {α : Type} (read : Setting → Option α) (x : Setting) (rest : List Setting) :
    last read (x :: rest) = (last read rest).or (read x) := by
  rw [last, last]
  cases h : read x with
  | none => simp [List.filterMap_cons_none h]
  | some a =>
    rw [List.filterMap_cons_some h, List.getLast?_cons]
    cases (rest.filterMap read).getLast? <;> rfl

end Setting

open Setting (last)

namespace Builder

theorem field_setAll {α : Type} (field : Builder → Option α) (read : Setting → Option α)
    (writes : ∀ b x, field (b.set x) = (read x).or (field b)) (b : Builder)
    (settings : List Setting) :
    field (b.setAll settings) = (last read settings).or (field b) := by
  induction settings generalizing b with
  | nil => rfl
  | cons x rest ih =>
    rw [Setting.last_cons, Option.or_assoc, ← writes]
    exact ih (b.set x)

theorem kind_setAll (b : Builder) (settings : List Setting) :
    (b.setAll settings).kind = b.kind := by
  induction settings generalizing b with
  | nil => rfl
  | cons x rest ih =>
    have same : (b.set x).kind = b.kind := by cases x <;> rfl
    exact (ih (b.set x)).trans same

def holding (kind : Transport) (settings : List Setting) : Builder where
  kind := kind
  host := last Setting.host? settings
  port := last Setting.port? settings
  echo := last Setting.echo? settings
  capacity := last Setting.capacity? settings
  backend := last Setting.backend? settings
  connectTimeout := last Setting.connectTimeout? settings
  sendTimeout := last Setting.sendTimeout? settings
  readyTimeout := last Setting.readyTimeout? settings
  connectBackoff := last Setting.connectBackoff? settings
  sendBackoff := last Setting.sendBackoff? settings
  resolveEvery := last Setting.resolveEvery? settings
  yieldEvery := last Setting.yieldEvery? settings
  warnInterval := last Setting.warnInterval? settings
  maxLevel := last Setting.maxLevel? settings

attribute [ext] Builder

theorem setAll_start (kind : Transport) (settings : List Setting) :
    (start kind).setAll settings = holding kind settings := by
  have ends {α : Type} (field : Builder → Option α) (read : Setting → Option α)
      (unset : field (start kind) = none := by rfl)
      (writes : ∀ b x, field (b.set x) = (read x).or (field b) := by
        intro b x
        cases x <;> rfl) :
      field ((start kind).setAll settings) = last read settings := by
    rw [field_setAll field read writes, unset, Option.or_none]
  exact Builder.ext (kind_setAll (start kind) settings) (ends host Setting.host?)
    (ends port Setting.port?) (ends echo Setting.echo?) (ends capacity Setting.capacity?)
    (ends backend Setting.backend?) (ends connectTimeout Setting.connectTimeout?)
    (ends sendTimeout Setting.sendTimeout?) (ends readyTimeout Setting.readyTimeout?)
    (ends connectBackoff Setting.connectBackoff?) (ends sendBackoff Setting.sendBackoff?)
    (ends resolveEvery Setting.resolveEvery?) (ends yieldEvery Setting.yieldEvery?)
    (ends warnInterval Setting.warnInterval?) (ends maxLevel Setting.maxLevel?)

end Builder

section

variable {α ε : Type}

def refusal? : Except ε Unit → Option ε
  | .ok () => none
  | .error e => some e

theorem refusal?_eq_none {x : Except ε Unit} : refusal? x = none ↔ x = .ok () := by
  cases x <;> simp [refusal?]

theorem refusal?_eq_some {x : Except ε Unit} {e : ε} : refusal? x = some e ↔ x = .error e := by
  cases x <;> simp [refusal?]

theorem refusal?_forM (f : α → Except ε Unit) (xs : List α) :
    refusal? (xs.forM f) = xs.findSome? fun x => refusal? (f x) := by
  induction xs with
  | nil => rfl
  | cons x rest ih =>
    rw [List.findSome?_cons, ← ih, List.forM]
    cases f x <;> rfl

end

inductive Item where
  | host
  | port
  | capacity
  | connectTimeout
  | sendTimeout
  | readyTimeout
  | connectBackoff
  | sendBackoff
deriving DecidableEq

namespace Item

def all : List Item :=
  [host, port, capacity, connectTimeout, sendTimeout, readyTimeout, connectBackoff, sendBackoff]

theorem mem_all (i : Item) : i ∈ all := by
  cases i <;> decide

def check (b : Builder) : Item → Except Objection Unit
  | host => match b.host with
    | some name => checkHost name
    | none => .ok ()
  | port => Builder.checkPositive .port (b.port.map (·.toNat))
  | capacity => Builder.checkPositive .capacity b.capacity
  | connectTimeout => Builder.checkPositive .connectTimeout (b.connectTimeout.map (·.nanos))
  | sendTimeout => Builder.checkPositive .sendTimeout (b.sendTimeout.map (·.nanos))
  | readyTimeout => Builder.checkPositive .readyTimeout (b.readyTimeout.map (·.nanos))
  | connectBackoff => Builder.checkBackoff .connectFloor b.connectBackoff
  | sendBackoff => Builder.checkBackoff .sendFloor b.sendBackoff

end Item

theorem Builder.check_eq (b : Builder) : b.check = Item.all.forM (Item.check b) := by
  rw [Builder.check]
  simp only [Item.all, List.forM, Item.check, bind_pure_unit]
  cases b.host <;> rfl

def Destination.Fits (host : String) : Prop :=
  ¬ Text.Blank host ∧ host.utf8ByteSize ≤ maxHostLength

instance (host : String) : Decidable (Destination.Fits host) :=
  inferInstanceAs (Decidable (¬ Text.Blank host ∧ host.utf8ByteSize ≤ maxHostLength))

inductive Objection.OfHost (host : String) : Objection → Prop where
  | blank (blank : Text.Blank host) : OfHost host .emptyHost
  | long (text : ¬ Text.Blank host) (long : maxHostLength < host.utf8ByteSize) :
      OfHost host (.longHost host.utf8ByteSize)

inductive Objection.OfBackoff (quantity : Quantity) (b : Backoff) : Objection → Prop where
  | still (zero : b.floor.nanos = 0) : OfBackoff quantity b (.zero quantity)
  | inverted (positive : 0 < b.floor.nanos) (above : b.cap < b.floor) :
      OfBackoff quantity b (.floorAboveCap quantity b.floor b.cap)

theorem checkHost_eq_ok {host : String} : checkHost host = .ok () ↔ Destination.Fits host := by
  simp only [checkHost, Destination.Fits, List.isEmpty_iff, Text.trimChars_eq_nil]
  split
  · next blank => simp [blank]
  · next text =>
    split
    · next long => simp only [reduceCtorEq, false_iff, not_and]; omega
    · next short => simp only [text, not_false_eq_true, true_and, true_iff]; omega

theorem checkHost_eq_error {host : String} {o : Objection} :
    checkHost host = .error o ↔ Objection.OfHost host o := by
  simp only [checkHost, List.isEmpty_iff, Text.trimChars_eq_nil]
  constructor
  · intro refused
    split at refused
    · next blank =>
      cases refused
      exact .blank blank
    · next text =>
      split at refused
      · next long =>
        cases refused
        exact .long text long
      · cases refused
  · rintro (blank | ⟨text, long⟩)
    · rw [if_pos blank]
    · rw [if_neg text, if_pos long]

namespace Builder

variable {quantity : Quantity}

theorem checkPositive_eq_ok {value : Option Nat} :
    checkPositive quantity value = .ok () ↔ ∀ n, value = some n → n ≠ 0 := by
  rw [checkPositive]
  split
  · next zero => simp [zero]
  · next free => simpa using fun n given none => free (given.trans (congrArg some none))

theorem checkPositive_eq_error {value : Option Nat} {o : Objection} :
    checkPositive quantity value = .error o ↔ value = some 0 ∧ o = .zero quantity := by
  rw [checkPositive]
  split <;> simp [*, eq_comm]

theorem checkBackoff_eq_ok {value : Option Backoff} :
    checkBackoff quantity value = .ok () ↔
      ∀ b, value = some b → 0 < b.floor.nanos ∧ b.floor ≤ b.cap := by
  cases value with
  | none => simp [checkBackoff]
  | some b => simp [Backoff.checkBackoff_eq_ok]

theorem checkBackoff_eq_error {value : Option Backoff} {o : Objection} :
    checkBackoff quantity value = .error o ↔
      ∃ b, value = some b ∧ Objection.OfBackoff quantity b o := by
  cases value with
  | none => simp [checkBackoff]
  | some b =>
    simp only [checkBackoff, Option.some.injEq, exists_eq_left']
    constructor
    · intro refused
      split at refused
      · next zero =>
        cases refused
        exact .still zero
      · next positive =>
        split at refused
        · next above =>
          cases refused
          exact .inverted (Nat.pos_of_ne_zero positive) above
        · cases refused
    · rintro (zero | ⟨positive, above⟩)
      · rw [if_pos zero]
      · rw [if_neg (Nat.ne_of_gt positive), if_pos above]

end Builder

namespace Item

def name : Item → String
  | host => "host"
  | port => "port"
  | capacity => "capacity"
  | connectTimeout => "connect_timeout"
  | sendTimeout => "send_timeout"
  | readyTimeout => "ready_timeout"
  | connectBackoff => "connect_backoff"
  | sendBackoff => "send_backoff"

/-- The constraint on the value that counts, if there is one. -/
def Kept (settings : List Setting) : Item → Prop
  | host => ∀ h, last Setting.host? settings = some h → Destination.Fits h
  | port => ∀ p, last Setting.port? settings = some p → p ≠ 0
  | capacity => ∀ n, last Setting.capacity? settings = some n → n ≠ 0
  | connectTimeout => ∀ d, last Setting.connectTimeout? settings = some d → 0 < d.nanos
  | sendTimeout => ∀ d, last Setting.sendTimeout? settings = some d → 0 < d.nanos
  | readyTimeout => ∀ d, last Setting.readyTimeout? settings = some d → 0 < d.nanos
  | connectBackoff => ∀ b, last Setting.connectBackoff? settings = some b →
      0 < b.floor.nanos ∧ b.floor ≤ b.cap
  | sendBackoff => ∀ b, last Setting.sendBackoff? settings = some b →
      0 < b.floor.nanos ∧ b.floor ≤ b.cap

/-- What is wrong with the value that counts. -/
def Flaw (settings : List Setting) : Item → Objection → Prop
  | host, o => ∃ h, last Setting.host? settings = some h ∧ Objection.OfHost h o
  | port, o => last Setting.port? settings = some 0 ∧ o = .zero .port
  | capacity, o => last Setting.capacity? settings = some 0 ∧ o = .zero .capacity
  | connectTimeout, o =>
    (∃ d, last Setting.connectTimeout? settings = some d ∧ d.nanos = 0) ∧ o = .zero .connectTimeout
  | sendTimeout, o =>
    (∃ d, last Setting.sendTimeout? settings = some d ∧ d.nanos = 0) ∧ o = .zero .sendTimeout
  | readyTimeout, o =>
    (∃ d, last Setting.readyTimeout? settings = some d ∧ d.nanos = 0) ∧ o = .zero .readyTimeout
  | connectBackoff, o =>
    ∃ b, last Setting.connectBackoff? settings = some b ∧ Objection.OfBackoff .connectFloor b o
  | sendBackoff, o =>
    ∃ b, last Setting.sendBackoff? settings = some b ∧ Objection.OfBackoff .sendFloor b o

variable {kind : Transport} {settings : List Setting}

theorem map_toNat_eq_zero {port : Option UInt16} :
    port.map (·.toNat) = some 0 ↔ port = some 0 := by
  cases port <;> simp [← UInt16.toNat_inj]

theorem check_eq_ok {i : Item} :
    i.check (Builder.holding kind settings) = .ok () ↔ i.Kept settings := by
  cases i with
  | host =>
    simp only [check, Kept, Builder.holding]
    cases last Setting.host? settings <;> simp [checkHost_eq_ok]
  | port =>
    rw [check, Builder.checkPositive_eq_ok]
    simp [Kept, Builder.holding, ← UInt16.toNat_inj]
  | capacity => exact Builder.checkPositive_eq_ok
  | connectTimeout | sendTimeout | readyTimeout =>
    simp [check, Kept, Builder.holding, Builder.checkPositive_eq_ok, Nat.pos_iff_ne_zero]
  | connectBackoff | sendBackoff => exact Builder.checkBackoff_eq_ok

theorem check_eq_error {i : Item} {o : Objection} :
    i.check (Builder.holding kind settings) = .error o ↔ i.Flaw settings o := by
  cases i with
  | host =>
    simp only [check, Flaw, Builder.holding]
    cases last Setting.host? settings <;> simp [checkHost_eq_error]
  | port =>
    rw [check, Builder.checkPositive_eq_error, map_toNat_eq_zero]
    rfl
  | capacity => exact Builder.checkPositive_eq_error
  | connectTimeout | sendTimeout | readyTimeout =>
    simp [check, Flaw, Builder.holding, Builder.checkPositive_eq_error]
  | connectBackoff | sendBackoff => exact Builder.checkBackoff_eq_error

def Names (i : Item) (o : Objection) : Prop :=
  ∃ rest, o.message = i.name ++ (" " ++ rest)

theorem names_of_ofHost {h : String} {o : Objection} (flaw : Objection.OfHost h o) :
    host.Names o := by
  obtain blank | long := flaw
  · exact ⟨"must not be empty", rfl⟩
  · refine ⟨"is " ++ (toString h.utf8ByteSize ++ " bytes long; at most " ++
      toString maxHostLength ++ " are allowed"), ?_⟩
    change "host is " ++ toString h.utf8ByteSize ++ " bytes long; at most " ++
      toString maxHostLength ++ " are allowed" = _
    rw [show "host is " = "host" ++ (" " ++ "is ") by decide]
    simp only [String.append_assoc]
    rfl

theorem names_of_ofBackoff {i : Item} {quantity : Quantity} {b : Backoff} {o : Objection}
    (floor : quantity.name = i.name ++ (" " ++ "floor"))
    (flaw : Objection.OfBackoff quantity b o) : i.Names o := by
  obtain zero | ⟨_, above⟩ := flaw
  · refine ⟨"floor must be greater than zero", ?_⟩
    change quantity.name ++ " must be greater than zero" = _
    rw [floor, show "floor must be greater than zero" = "floor" ++ " must be greater than zero" by
      decide]
    simp only [String.append_assoc]
  · refine ⟨"floor" ++ (" " ++ (b.floor.text ++ (" exceeds cap " ++ b.cap.text))), ?_⟩
    change quantity.name ++ " " ++ b.floor.text ++ " exceeds cap " ++ b.cap.text = _
    rw [floor]
    simp only [String.append_assoc]

theorem Flaw.names {i : Item} {o : Objection} (flaw : i.Flaw settings o) : i.Names o := by
  cases i with
  | host =>
    obtain ⟨h, -, flaw⟩ := flaw
    exact names_of_ofHost flaw
  | port | capacity | connectTimeout | sendTimeout | readyTimeout =>
    obtain ⟨-, rfl⟩ := flaw
    exact ⟨"must be greater than zero", rfl⟩
  | connectBackoff | sendBackoff =>
    obtain ⟨b, -, flaw⟩ := flaw
    exact names_of_ofBackoff rfl flaw

theorem Flaw.not_kept {i : Item} {o : Objection} (flaw : i.Flaw settings o) :
    ¬ i.Kept settings := by
  rw [← @check_eq_ok .udp, check_eq_error.mpr flaw]
  nofun

/-- The first item, in the order of the checks, whose constraint is not kept. -/
def First (settings : List Setting) (i : Item) : Prop :=
  ¬ i.Kept settings ∧ ∃ before after, all = before ++ i :: after ∧ ∀ j ∈ before, j.Kept settings

end Item

namespace Builder

variable {kind : Transport} {settings : List Setting}

theorem check_eq_ok : (holding kind settings).check = .ok () ↔ ∀ i : Item, i.Kept settings := by
  rw [← refusal?_eq_none, check_eq, refusal?_forM, List.findSome?_eq_none_iff]
  simp only [refusal?_eq_none, Item.check_eq_ok, Item.mem_all, forall_const]

theorem check_eq_error {o : Objection} :
    (holding kind settings).check = .error o ↔
      ∃ i : Item, i.First settings ∧ i.Flaw settings o := by
  rw [← refusal?_eq_some, check_eq, refusal?_forM, List.findSome?_eq_some_iff]
  simp only [refusal?_eq_none, refusal?_eq_some, Item.check_eq_ok, Item.check_eq_error]
  constructor
  · rintro ⟨before, i, after, order, flaw, kept⟩
    exact ⟨i, ⟨flaw.not_kept, before, after, order, kept⟩, flaw⟩
  · rintro ⟨i, ⟨-, before, after, order, kept⟩, flaw⟩
    exact ⟨before, i, after, order, flaw, kept⟩

end Builder

namespace Config

def usual (kind : Transport) : Config :=
  standard kind ⟨Default.host, Default.port⟩

/-- Each field has the value that counts, or the usual one where none was given. -/
def chosen (kind : Transport) (settings : List Setting) : Config where
  kind := kind
  destination :=
    ⟨(last Setting.host? settings).getD (usual kind).destination.host,
      (last Setting.port? settings).getD (usual kind).destination.port⟩
  echo := (last Setting.echo? settings).getD (usual kind).echo
  capacity := (last Setting.capacity? settings).getD (usual kind).capacity
  backend := (last Setting.backend? settings).getD (usual kind).backend
  connectTimeout := (last Setting.connectTimeout? settings).getD (usual kind).connectTimeout
  sendTimeout := (last Setting.sendTimeout? settings).getD (usual kind).sendTimeout
  readyTimeout := (last Setting.readyTimeout? settings).getD (usual kind).readyTimeout
  connectBackoff := (last Setting.connectBackoff? settings).getD (usual kind).connectBackoff
  sendBackoff := (last Setting.sendBackoff? settings).getD (usual kind).sendBackoff
  resolveEvery := (last Setting.resolveEvery? settings).getD (usual kind).resolveEvery
  yieldEvery := (last Setting.yieldEvery? settings).getD (usual kind).yieldEvery
  warnInterval := (last Setting.warnInterval? settings).getD (usual kind).warnInterval
  maxLevel := (last Setting.maxLevel? settings).getD (usual kind).maxLevel

theorem assemble_holding (kind : Transport) (settings : List Setting) :
    (Builder.holding kind settings).assemble = chosen kind settings := rfl

theorem ofSettings_eq_ok {kind : Transport} {settings : List Setting} {c : Config} :
    ofSettings kind settings = .ok c ↔
      (∀ i : Item, i.Kept settings) ∧ c = chosen kind settings := by
  rw [ofSettings, Builder.setAll_start, Builder.build, ← Builder.check_eq_ok, assemble_holding]
  cases (Builder.holding kind settings).check <;> simp [eq_comm]

theorem ofSettings_eq_error {kind : Transport} {settings : List Setting} {e : ConfigError} :
    ofSettings kind settings = .error e ↔
      ∃ o, e = .invalid o ∧ ∃ i : Item, i.First settings ∧ i.Flaw settings o := by
  simp only [← @Builder.check_eq_error kind]
  rw [ofSettings, Builder.setAll_start, Builder.build]
  cases (Builder.holding kind settings).check <;> simp [eq_comm]

/-- The port comes before the capacity, in whatever order they are set. -/
example : ofSettings .udp [.capacity 0, .capacity 8, .capacity 0, .destination "logs.local" 0] =
    .error (.invalid (.zero .port)) := by
  decide

structure Valid (c : Config) : Prop where
  host : Destination.Fits c.destination.host
  port : c.destination.port ≠ 0
  capacity : c.capacity ≠ 0
  connectTimeout : 0 < c.connectTimeout.nanos
  sendTimeout : 0 < c.sendTimeout.nanos
  readyTimeout : 0 < c.readyTimeout.nanos
  connectBackoff : 0 < c.connectBackoff.floor.nanos ∧ c.connectBackoff.floor ≤ c.connectBackoff.cap
  sendBackoff : 0 < c.sendBackoff.floor.nanos ∧ c.sendBackoff.floor ≤ c.sendBackoff.cap

theorem valid_usual (kind : Transport) : (usual kind).Valid := by
  refine ⟨?_, ?_, ?_, ?_, ?_, ?_, ?_, ?_⟩ <;> cases kind <;> decide

theorem getD_of {α : Type} {P : α → Prop} {given : Option α} {default : α}
    (kept : ∀ a, given = some a → P a) (usual : P default) : P (given.getD default) := by
  cases given with
  | none => exact usual
  | some a => exact kept a rfl

theorem valid_chosen {kind : Transport} {settings : List Setting}
    (kept : ∀ i : Item, i.Kept settings) : (chosen kind settings).Valid where
  host := getD_of (kept .host) (valid_usual kind).host
  port := getD_of (kept .port) (valid_usual kind).port
  capacity := getD_of (kept .capacity) (valid_usual kind).capacity
  connectTimeout := getD_of (kept .connectTimeout) (valid_usual kind).connectTimeout
  sendTimeout := getD_of (kept .sendTimeout) (valid_usual kind).sendTimeout
  readyTimeout := getD_of (kept .readyTimeout) (valid_usual kind).readyTimeout
  connectBackoff := getD_of (kept .connectBackoff) (valid_usual kind).connectBackoff
  sendBackoff := getD_of (kept .sendBackoff) (valid_usual kind).sendBackoff

/-- When settings are accepted and what becomes of them, or what is said of the first that is not.
-/
structure Settled (kind : Transport) (settings : List Setting) : Prop where
  accepted : (∃ c, ofSettings kind settings = .ok c) ↔ ∀ i : Item, i.Kept settings
  faithful : ∀ c, ofSettings kind settings = .ok c → c = chosen kind settings
  valid : ∀ c, ofSettings kind settings = .ok c → c.Valid
  policy : ∀ c, ofSettings kind settings = .ok c → c.policy =
    { destination := (chosen kind settings).destination
      connectBackoff := (chosen kind settings).connectBackoff
      sendBackoff := (chosen kind settings).sendBackoff
      resolveEvery := (chosen kind settings).resolveEvery
      yieldEvery := (chosen kind settings).yieldEvery
      warnInterval := (chosen kind settings).warnInterval }
  refused : ∀ e, ofSettings kind settings = .error e ↔
    ∃ o, e = .invalid o ∧ ∃ i : Item, i.First settings ∧ i.Flaw settings o
  named : ∀ e, ofSettings kind settings = .error e →
    ∃ o, e = .invalid o ∧ ∃ i : Item, i.First settings ∧ i.Names o

theorem ofSettings_settled (kind : Transport) (settings : List Setting) :
    Settled kind settings where
  accepted := by simp [ofSettings_eq_ok]
  faithful c built := (ofSettings_eq_ok.mp built).2
  valid c built := by
    obtain ⟨kept, rfl⟩ := ofSettings_eq_ok.mp built
    exact valid_chosen kept
  policy c built := by
    obtain ⟨-, rfl⟩ := ofSettings_eq_ok.mp built
    rfl
  refused e := ofSettings_eq_error
  named e refused := by
    obtain ⟨o, same, i, first, flaw⟩ := ofSettings_eq_error.mp refused
    exact ⟨o, same, i, first, flaw.names⟩

end Config

end LogRelay
