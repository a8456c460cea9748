import LogRelay.Proofs.Choices
import LogRelay.Settings.Stored

/-!
What follows from stored settings being accepted. The host is checked as it is written but kept
without the white space around it; the builder, which checks it once more, then has no objection
to what is kept.
-/

namespace LogRelay

theorem Text.readUnsigned_le {base limit n : Nat} {cs : List Char}
    (read : readUnsigned base limit cs = some n) : n ≤ limit := by
  simp only [readUnsigned, Option.ite_none_left_eq_some, Option.filter_eq_some_iff,
    decide_eq_true_eq] at read
  exact read.2.2

section

variable {ε ε' α β : Type} {x : Except ε α}

theorem bind_eq_ok {f : α → Except ε β} {b : β} :
    x >>= f = .ok b ↔ ∃ a, x = .ok a ∧ f a = .ok b := by
  cases x <;> simp [bind, Except.bind]

theorem mapError_eq_ok {f : ε → ε'} {a : α} : x.mapError f = .ok a ↔ x = .ok a := by
  cases x <;> simp [Except.mapError]

end

theorem Destination.Fits.trim {host : String} (fits : Fits host) : Fits (Text.trim host) :=
  ⟨mt Text.blank_trim.mp fits.1, (Text.utf8ByteSize_trim_le host).trans fits.2⟩

theorem Destination.Fits.ne_empty {host : String} (fits : Fits host) : host ≠ "" := by
  rintro rfl
  exact fits.1 (by decide)

namespace StoredSettings

theorem readHost_eq_ok {text host : String} :
    readHost text = .ok host ↔ Destination.Fits text ∧ host = Text.trim text := by
  rw [readHost, ← checkHost_eq_ok]
  cases checkHost text <;> simp [Except.map, eq_comm]

theorem readPort_ne_zero {text : String} {port : UInt16} (read : readPort text = .ok port) :
    port ≠ 0 := by
  unfold readPort at read
  split at read
  · cases read
  · cases read
  · next n number =>
    have bound : n + 1 ≤ 65535 := Text.readUnsigned_le number
    cases read
    rw [Ne, ← UInt16.toNat_inj, UInt16.toNat_ofNat_of_lt' (Nat.lt_succ_of_le bound)]
    exact n.succ_ne_zero

theorem of_entry {α : Type} {P : α → Prop} {s : Settings.Section} {key : String} {default a : α}
    {read : String → Except Objection α} (given : entry s key default read = .ok a)
    (usual : P default) (reads : ∀ text, read text = .ok a → P a) : P a := by
  cases found : s.get? key with
  | none =>
    rw [entry, found] at given
    exact Except.ok.inj given ▸ usual
  | some text =>
    rw [entry, found] at given
    exact reads text given

structure Sound (c : StoredSettings) : Prop where
  fits : Destination.Fits c.host
  bare : Text.trim c.host = c.host
  port : c.port ≠ 0

theorem sound_standard : standard.Sound := by
  refine ⟨?_, ?_, ?_⟩ <;> decide

theorem sound_of_ofSection {s : Settings.Section} {c : StoredSettings}
    (read : ofSection s = .ok c) : c.Sound := by
  simp only [ofSection, bind_eq_ok] at read
  obtain ⟨mode, -, host, readHost, port, readPort, keep, -, level, -, built⟩ := read
  cases built
  have fits : Destination.Fits host ∧ Text.trim host = host := by
    apply of_entry (P := fun host => Destination.Fits host ∧ Text.trim host = host) readHost
    · exact ⟨sound_standard.fits, sound_standard.bare⟩
    · intro text accepted
      obtain ⟨fits, rfl⟩ := readHost_eq_ok.mp accepted
      exact ⟨fits.trim, Text.trim_trim text⟩
  have positive : port ≠ 0 :=
    of_entry (P := fun port => port ≠ 0) readPort sound_standard.port fun _ => readPort_ne_zero
  exact ⟨fits.1, fits.2, positive⟩

theorem sound_of_ofDocument {d : Settings.Document} {c : StoredSettings}
    (read : ofDocument d = .ok c) : c.Sound := by
  unfold ofDocument at read
  split at read
  · cases read
    exact sound_standard
  · exact sound_of_ofSection (mapError_eq_ok.mp read)

/-- A transport with the destination, the echo and the level of the settings, and otherwise
without any setting of its own. -/
def carriedBy (c : StoredSettings) (kind : Transport) : Config :=
  { Config.standard kind ⟨c.host, c.port⟩ with echo := c.keepConsole, maxLevel := c.maxLevel }

theorem Sound.ofSettings_eq {c : StoredSettings} (sound : c.Sound) (kind : Transport) :
    Config.ofSettings kind c.settings = .ok (c.carriedBy kind) := by
  refine Config.ofSettings_eq_ok.mpr ⟨fun i => ?_, rfl⟩
  cases i with
  | host => exact fun _ given => Option.some.inj given ▸ sound.fits
  | port => exact fun _ given => Option.some.inj given ▸ sound.port
  | capacity | connectTimeout | sendTimeout | readyTimeout | connectBackoff | sendBackoff => nofun

/-- What accepted settings are good for: a transport can be started with them as they are. -/
structure Startable (c : StoredSettings) : Prop where
  host : c.host ≠ ""
  bare : Text.trim c.host = c.host
  short : c.host.utf8ByteSize ≤ maxHostLength
  port : c.port ≠ 0
  config : c.config? = .ok (match c.mode with
    | .udp => some (c.carriedBy .udp)
    | .tcp => some (c.carriedBy .tcp)
    | .disabled | .mqtt => none)

theorem Sound.startable {c : StoredSettings} (sound : c.Sound) : c.Startable where
  host := sound.fits.ne_empty
  bare := sound.bare
  short := sound.fits.2
  port := sound.port
  config := by
    rw [config?]
    cases mode : c.mode with
    | disabled | mqtt => rfl
    | udp | tcp =>
      change (Config.ofSettings _ c.settings).map some = _
      rw [sound.ofSettings_eq]
      rfl

/-- What is accepted can be started, whatever sections there are and wherever they come from. -/
theorem startable_of_accepted (c : StoredSettings) :
    (∀ d, ofDocument d = .ok c → c.Startable) ∧ (∀ text, ofText text = .ok c → c.Startable) ∧
      ∀ file, ofFile file = .ok c → c.Startable := by
  have document (d : Settings.Document) (read : ofDocument d = .ok c) : c.Startable :=
    (sound_of_ofDocument read).startable
  have text (text : String) (read : ofText text = .ok c) : c.Startable := by
    unfold ofText at read
    split at read
    · cases read
    · exact document _ read
  refine ⟨document, text, fun file read => ?_⟩
  unfold ofFile at read
  split at read
  · cases read
  · cases read
  · split at read
    · cases read
    · exact text _ read

theorem startable_of_quoted_host :
    let text := "[net_logging]\nnet_log_type = Tcp\nnet_log_host = \"\u2003logs.local \"\n" ++
      "net_log_port = 6514"
    let host := ("net_log_host", "\u2003logs.local ")
    let d : Settings.Document :=
      [⟨some sectionName, [("net_log_type", "Tcp"), host, ("net_log_port", "6514")]⟩]
    let file := StoredFile.contents (bytesOf text)
    let c : StoredSettings := ⟨.tcp, "logs.local", 6514, true, Default.maxLevel⟩
    (ofDocument d = .ok c ∧ c.Startable) ∧ (ofText text = .ok c ∧ c.Startable) ∧
      ofFile file = .ok c ∧ c.Startable := by
  intro text host d file c
  obtain ⟨ofDocument_startable, ofText_startable, ofFile_startable⟩ := startable_of_accepted c
  have document : ofDocument d = .ok c := by decide +kernel
  have read : ofText text = .ok c := by decide +kernel
  have stored : ofFile file = .ok c := by decide +kernel
  exact ⟨⟨document, ofDocument_startable d document⟩, ⟨read, ofText_startable text read⟩, stored,
    ofFile_startable file stored⟩

end StoredSettings

end LogRelay
