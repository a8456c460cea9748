import LogRelay.Config

/-!
Remote logging as the settings file of a device selects it. Keys that the file does not have keep
their defaults, and every selection that is accepted makes a configuration.
-/

namespace LogRelay

/-- Whether and how lines leave the device. No transport carries `mqtt`. -/
inductive LogMode where
  | disabled
  | udp
  | tcp
  | mqtt
deriving DecidableEq

namespace LogMode

def name : LogMode → String
  | disabled => "disabled"
  | udp => "udp"
  | tcp => "tcp"
  | mqtt => "mqtt"

def transport? : LogMode → Option Transport
  | udp => some .udp
  | tcp => some .tcp
  | disabled | mqtt => none

def ofText (s : String) : Except Objection LogMode :=
  let known := Text.lower (Text.trim s)
  match known with
  | "0" | "disabled" | "off" | "none" => .ok disabled
  | "1" | "udp" => .ok udp
  | "2" | "tcp" => .ok tcp
  | "3" | "mqtt" => .ok mqtt
  | _ => .error (.unknownType known)

end LogMode

structure StoredSettings where
  mode : LogMode
  host : String
  port : UInt16
  keepConsole : Bool
  maxLevel : Threshold
deriving DecidableEq

inductive StoredFile where
  | absent
  | directory
  | contents (bytes : Bytes)

namespace StoredSettings

def standard : StoredSettings where
  mode := .disabled
  host := Default.host
  port := Default.port
  keepConsole := true
  maxLevel := Default.maxLevel

def sectionName : String := "net_logging"

def readPort (s : String) : Except Objection UInt16 :=
  match Text.readUnsigned 10 65535 (Text.trimChars s.toList) with
  | none => .error (.badPort s)
  | some 0 => .error (.zero .storedPort)
  | some (n + 1) => .ok (UInt16.ofNat (n + 1))

def readFlag (s : String) : Except Objection Bool :=
  match Text.lower (Text.trim s) with
  | "1" | "true" | "on" | "yes" => .ok true
  | "0" | "false" | "off" | "no" => .ok false
  | _ => .error (.notBoolean s)

def readLevel (s : String) : Except Objection Threshold :=
  match Threshold.ofName? (Text.trim s) with
  | some t => .ok t
  | none => .error (.unknownLevel s)

/-- A host is checked as it is written and kept without the white space around it. -/
def readHost (s : String) : Except Objection String :=
  (checkHost s).map fun _ => Text.trim s

def entry {α : Type} (s : Settings.Section) (key : String) (default : α)
    (read : String → Except Objection α) : Except Objection α :=
  match s.get? key with
  | none => .ok default
  | some text => read text

def ofSection (s : Settings.Section) : Except Objection StoredSettings := do
  let mode ← entry s "net_log_type" standard.mode LogMode.ofText
  let host ← entry s "net_log_host" standard.host readHost
  let port ← entry s "net_log_port" standard.port readPort
  let keepConsole ← entry s "net_log_stdout" standard.keepConsole readFlag
  let maxLevel ← entry s "net_log_level" standard.maxLevel readLevel
  pure ⟨mode, host, port, keepConsole, maxLevel⟩

def ofDocument (d : Settings.Document) : Except ConfigError StoredSettings :=
  match d.section? sectionName with
  | none => .ok standard
  | some s => (ofSection s).mapError .invalid

def ofText (text : String) : Except ConfigError StoredSettings :=
  match Settings.Document.ofText text with
  | .error place => .error (.malformed place)
  | .ok d => ofDocument d

def ofFile : StoredFile → Except ConfigError StoredSettings
  | .absent => .error (.unreadable .notFound)
  | .directory => .error (.unreadable .isDirectory)
  | .contents bytes =>
    match Utf8.text? bytes with
    | none => .error (.unreadable .notText)
    | some text => ofText text

def settings (s : StoredSettings) : List Setting :=
  [.destination s.host s.port, .echo s.keepConsole, .maxLevel s.maxLevel]

def config? (s : StoredSettings) : Except ConfigError (Option Config) :=
  match s.mode.transport? with
  | none => .ok none
  | some kind => (Config.ofSettings kind s.settings).map some

end StoredSettings

end LogRelay
