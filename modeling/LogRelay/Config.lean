import LogRelay.Backoff
import LogRelay.Channel
import LogRelay.Destination
import LogRelay.Level
import LogRelay.Settings.Document
import LogRelay.Transport

/-!
What one transport is told to do, and the builder that checks it. A built configuration has a host
and a port to send to, room for a line, time to wait, and backoffs whose floor is positive and at
most their cap.
-/

namespace LogRelay

/-- What the worker of a transport is told. It resolves again after `resolveEvery` failed sends and
lets other threads run after `yieldEvery` sends; zero switches that off. -/
structure Policy where
  destination : Destination
  connectBackoff : Backoff
  sendBackoff : Backoff
  resolveEvery : Nat
  yieldEvery : Nat
  warnInterval : Duration
deriving DecidableEq

structure Config where
  kind : Transport
  destination : Destination
  echo : Bool
  capacity : Nat
  backend : Backend
  connectTimeout : Duration
  sendTimeout : Duration
  readyTimeout : Duration
  connectBackoff : Backoff
  sendBackoff : Backoff
  resolveEvery : Nat
  yieldEvery : Nat
  warnInterval : Duration
  maxLevel : Threshold
deriving DecidableEq

namespace Default

def host : String := "127.0.0.1"

def port : UInt16 := 514

def capacity : Nat := 32

def sendTimeout : Duration := Duration.ofSecs 2

def connectTimeout : Duration := Duration.ofSecs 2

def readyTimeout : Duration := Duration.ofMillis 1000

def maxLevel : Threshold := .upTo .info

def warnInterval : Duration := Duration.ofSecs 5

def resolveEvery : Nat := 10

def yieldEvery : Nat := 50

end Default

def maxHostLength : Nat := 256

inductive Quantity where
  | port
  | capacity
  | connectTimeout
  | sendTimeout
  | readyTimeout
  | connectFloor
  | sendFloor
  | storedPort
deriving DecidableEq

namespace Quantity

def name : Quantity → String
  | port => "port"
  | capacity => "capacity"
  | connectTimeout => "connect_timeout"
  | sendTimeout => "send_timeout"
  | readyTimeout => "ready_timeout"
  | connectFloor => "connect_backoff floor"
  | sendFloor => "send_backoff floor"
  | storedPort => "net_log_port"

end Quantity

inductive Objection where
  | emptyHost
  | longHost (length : Nat)
  | zero (quantity : Quantity)
  | floorAboveCap (quantity : Quantity) (floor cap : Duration)
  | unknownType (text : String)
  | badPort (text : String)
  | notBoolean (text : String)
  | unknownLevel (text : String)
  | wrongConnector (connector kind : Transport)
deriving DecidableEq

namespace Objection

def message : Objection → String
  | emptyHost => "host must not be empty"
  | longHost length => s!"host is {length} bytes long; at most {maxHostLength} are allowed"
  | zero quantity => s!"{quantity.name} must be greater than zero"
  | floorAboveCap quantity floor cap =>
    s!"{quantity.name} {floor.text} exceeds cap {cap.text}"
  | unknownType text => s!"unknown net_log_type {Text.quoted text}"
  | badPort text => s!"invalid net_log_port {Text.quoted text}"
  | notBoolean text => s!"net_log_stdout must be a boolean, got {Text.quoted text}"
  | unknownLevel text => s!"unknown net_log_level {Text.quoted text}"
  | wrongConnector connector kind =>
    s!"{connector.name} connector cannot serve a {kind.name} transport"

end Objection

inductive Unreadable where
  | notFound
  | isDirectory
  | notText
deriving DecidableEq

inductive ConfigError where
  | invalid (objection : Objection)
  | malformed (place : Settings.Malformed)
  | unreadable (why : Unreadable)
deriving DecidableEq

namespace ConfigError

def message : ConfigError → String
  | invalid objection => "invalid net logging configuration: " ++ objection.message
  | malformed place => "invalid settings file: " ++ place.message
  | unreadable .notFound => "No such file or directory (os error 2)"
  | unreadable .isDirectory => "Is a directory (os error 21)"
  | unreadable .notText => "stream did not contain valid UTF-8"

end ConfigError

namespace Policy

def standard (destination : Destination) : Policy where
  destination := destination
  connectBackoff := Backoff.connecting
  sendBackoff := Backoff.sending
  resolveEvery := Default.resolveEvery
  yieldEvery := Default.yieldEvery
  warnInterval := Default.warnInterval

end Policy

namespace Config

def standard (kind : Transport) (destination : Destination) : Config where
  kind := kind
  destination := destination
  echo := true
  capacity := Default.capacity
  backend := .ring
  connectTimeout := Default.connectTimeout
  sendTimeout := Default.sendTimeout
  readyTimeout := Default.readyTimeout
  connectBackoff := Backoff.connecting
  sendBackoff := Backoff.sending
  resolveEvery := Default.resolveEvery
  yieldEvery := Default.yieldEvery
  warnInterval := Default.warnInterval
  maxLevel := Default.maxLevel

def policy (c : Config) : Policy where
  destination := c.destination
  connectBackoff := c.connectBackoff
  sendBackoff := c.sendBackoff
  resolveEvery := c.resolveEvery
  yieldEvery := c.yieldEvery
  warnInterval := c.warnInterval

end Config

inductive Setting where
  | destination (host : String) (port : UInt16)
  | echo (on : Bool)
  | capacity (lines : Nat)
  | backend (b : Backend)
  | connectTimeout (d : Duration)
  | sendTimeout (d : Duration)
  | readyTimeout (d : Duration)
  | connectBackoff (b : Backoff)
  | sendBackoff (b : Backoff)
  | resolveEvery (n : Nat)
  | yieldEvery (n : Nat)
  | warnInterval (d : Duration)
  | maxLevel (t : Threshold)

/-- A configuration in the making. What is not set takes its default. -/
structure Builder where
  kind : Transport
  host : Option String
  port : Option UInt16
  echo : Option Bool
  capacity : Option Nat
  backend : Option Backend
  connectTimeout : Option Duration
  sendTimeout : Option Duration
  readyTimeout : Option Duration
  connectBackoff : Option Backoff
  sendBackoff : Option Backoff
  resolveEvery : Option Nat
  yieldEvery : Option Nat
  warnInterval : Option Duration
  maxLevel : Option Threshold

def checkHost (host : String) : Except Objection Unit :=
  if (Text.trimChars host.toList).isEmpty then .error .emptyHost
  else if host.utf8ByteSize > maxHostLength then .error (.longHost host.utf8ByteSize)
  else .ok ()

namespace Builder

def start (kind : Transport) : Builder where
  kind := kind
  host := none
  port := none
  echo := none
  capacity := none
  backend := none
  connectTimeout := none
  sendTimeout := none
  readyTimeout := none
  connectBackoff := none
  sendBackoff := none
  resolveEvery := none
  yieldEvery := none
  warnInterval := none
  maxLevel := none

def set (b : Builder) : Setting → Builder
  | .destination host port => { b with host := some host, port := some port }
  | .echo on => { b with echo := some on }
  | .capacity lines => { b with capacity := some lines }
  | .backend k => { b with backend := some k }
  | .connectTimeout d => { b with connectTimeout := some d }
  | .sendTimeout d => { b with sendTimeout := some d }
  | .readyTimeout d => { b with readyTimeout := some d }
  | .connectBackoff k => { b with connectBackoff := some k }
  | .sendBackoff k => { b with sendBackoff := some k }
  | .resolveEvery n => { b with resolveEvery := some n }
  | .yieldEvery n => { b with yieldEvery := some n }
  | .warnInterval d => { b with warnInterval := some d }
  | .maxLevel t => { b with maxLevel := some t }

def setAll (b : Builder) (settings : List Setting) : Builder :=
  settings.foldl set b

def checkPositive (quantity : Quantity) (value : Option Nat) : Except Objection Unit :=
  if value = some 0 then .error (.zero quantity) else .ok ()

def checkBackoff (quantity : Quantity) : Option Backoff → Except Objection Unit
  | none => .ok ()
  | some b =>
    if b.floor.nanos = 0 then .error (.zero quantity)
    else if b.floor > b.cap then .error (.floorAboveCap quantity b.floor b.cap)
    else .ok ()

def check (b : Builder) : Except Objection Unit := do
  if let some host := b.host then checkHost host
  checkPositive .port (b.port.map (·.toNat))
  checkPositive .capacity b.capacity
  checkPositive .connectTimeout (b.connectTimeout.map (·.nanos))
  checkPositive .sendTimeout (b.sendTimeout.map (·.nanos))
  checkPositive .readyTimeout (b.readyTimeout.map (·.nanos))
  checkBackoff .connectFloor b.connectBackoff
  checkBackoff .sendFloor b.sendBackoff

def assemble (b : Builder) : Config where
  kind := b.kind
  destination := ⟨b.host.getD Default.host, b.port.getD Default.port⟩
  echo := b.echo.getD true
  capacity := b.capacity.getD Default.capacity
  backend := b.backend.getD .ring
  connectTimeout := b.connectTimeout.getD Default.connectTimeout
  sendTimeout := b.sendTimeout.getD Default.sendTimeout
  readyTimeout := b.readyTimeout.getD Default.readyTimeout
  connectBackoff := b.connectBackoff.getD Backoff.connecting
  sendBackoff := b.sendBackoff.getD Backoff.sending
  resolveEvery := b.resolveEvery.getD Default.resolveEvery
  yieldEvery := b.yieldEvery.getD Default.yieldEvery
  warnInterval := b.warnInterval.getD Default.warnInterval
  maxLevel := b.maxLevel.getD Default.maxLevel

def build (b : Builder) : Except ConfigError Config :=
  match b.check with
  | .error objection => .error (.invalid objection)
  | .ok () => .ok b.assemble

end Builder

namespace Config

def ofSettings (kind : Transport) (settings : List Setting) : Except ConfigError Config :=
  ((Builder.start kind).setAll settings).build

end Config

end LogRelay
