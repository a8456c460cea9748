import Mathlib.Data.List.Nodup
import LogRelay.Proofs.Layout
import LogRelay.Settings.Stored

/-!
Stored settings as people may write them: any selection of the keys in any order, names in any
letter case, numbers with zeros in front, between sections that belong to others. Reading such a
text gives what was written, and the defaults for what was not.
-/

namespace LogRelay

namespace Text

structure Decimal (cs : List Char) (n : Nat) : Prop where
  nonempty : cs ≠ []
  digits : ∀ c ∈ cs, '0' ≤ c ∧ c ≤ '9'
  value : Nat.ofDigitChars 10 cs 0 = n

instance (cs : List Char) (n : Nat) : Decidable (Decimal cs n) :=
  decidable_of_iff
    (cs ≠ [] ∧ cs.all (fun c => '0' ≤ c && c ≤ '9') = true ∧ Nat.ofDigitChars 10 cs 0 = n)
    ⟨fun h => ⟨h.1, by simpa using h.2.1, h.2.2⟩,
      fun h => ⟨h.nonempty, by simpa using h.digits, h.value⟩⟩

theorem toNat_of_digit {c : Char} (digit : '0' ≤ c ∧ c ≤ '9') : 48 ≤ c.toNat ∧ c.toNat ≤ 57 :=
  digit

theorem digitValue_of_digit {c : Char} (digit : '0' ≤ c ∧ c ≤ '9') :
    digitValue 10 c = some (c.toNat - '0'.toNat) := by
  have := toNat_of_digit digit
  have lt : c.toNat - '0'.toNat < 10 := by
    simp only [Char.reduceToNat]
    omega
  simp only [digitValue, digit, and_self, if_true]
  exact Option.filter_some_pos (decide_eq_true lt)

theorem readDigits_eq {cs : List Char} (digits : ∀ c ∈ cs, '0' ≤ c ∧ c ≤ '9') (n : Nat) :
    readDigits 10 n cs = some (Nat.ofDigitChars 10 cs n) := by
  induction cs generalizing n with
  | nil => rfl
  | cons c cs ih =>
    rw [List.forall_mem_cons] at digits
    rw [readDigits, digitValue_of_digit digits.1, Option.bind_some, ih digits.2,
      Nat.ofDigitChars_cons, Nat.mul_comm]

theorem readUnsigned_of_unsigned {base limit : Nat} {cs : List Char}
    (unsigned : cs.head? ≠ some '+') : readUnsigned base limit cs =
      if cs.isEmpty then none else (readDigits base 0 cs).filter (· ≤ limit) := by
  rw [readUnsigned]
  rintro rest rfl
  simp at unsigned

theorem Decimal.readUnsigned_eq {cs : List Char} {n limit : Nat} (decimal : Decimal cs n)
    (small : n ≤ limit) : readUnsigned 10 limit cs = some n := by
  have unsigned : cs.head? ≠ some '+' := by
    intro plus
    have digit := decimal.digits '+' (List.mem_of_mem_head? plus)
    exact absurd digit (by decide)
  rw [readUnsigned_of_unsigned unsigned, readDigits_eq decimal.digits, decimal.value]
  simp [decimal.nonempty, small]

theorem Decimal.isWord {cs : List Char} {n : Nat} (decimal : Decimal cs n) : IsWord cs where
  nonempty := decimal.nonempty
  chars c hc := isWordChar_iff.mpr (.inl (toNat_of_digit (decimal.digits c hc)))

theorem Bare.trim_eq {s : String} (bare : Bare s.toList) : trim s = s := by
  rw [trim, bare.trimChars_eq, String.ofList_toList]

theorem isWordChar_of_toLower {c : Char} (word : isWordChar c.toLower = true) :
    isWordChar c = true := by
  by_cases upper : c.val ≥ 'A'.val ∧ c.val ≤ 'Z'.val
  · have range : 65 ≤ c.toNat ∧ c.toNat ≤ 90 := upper
    exact isWordChar_iff.mpr (.inr (.inl range))
  · have same : c.toLower = c := dif_neg upper
    rwa [same] at word

theorem isWord_of_lower {s : String} (word : IsWord (lower s).toList) : IsWord s.toList where
  nonempty empty := word.nonempty (by simp [lower, empty])
  chars c hc := by
    apply isWordChar_of_toLower
    apply word.chars
    simpa [lower] using ⟨c, hc, rfl⟩

end Text

def LogMode.spellings : LogMode → List String
  | disabled => ["0", "disabled", "off", "none"]
  | udp => ["1", "udp"]
  | tcp => ["2", "tcp"]
  | mqtt => ["3", "mqtt"]

theorem LogMode.ofText_eq_ok_iff {text : String} {m : LogMode} :
    LogMode.ofText text = .ok m ↔ Text.lower (Text.trim text) ∈ m.spellings := by
  rw [LogMode.ofText]
  constructor
  · intro read
    split at read <;> cases read
    all_goals simp [*, LogMode.spellings]
  · intro spelled
    cases m <;> simp only [LogMode.spellings, List.mem_cons, List.not_mem_nil, or_false] at spelled
    case disabled => obtain h | h | h | h := spelled <;> simp [h]
    all_goals obtain h | h := spelled <;> simp [h]

theorem Threshold.ofName?_eq_some_iff {s : String} {t : Threshold} :
    Threshold.ofName? s = some t ↔ Text.lower s = t.name := by
  rw [Threshold.ofName?]
  constructor
  · intro found
    have named := List.find?_some found
    exact (beq_iff_eq.mp named).symm
  · intro named
    rw [named]
    obtain _ | level := t
    · rfl
    · cases level <;> rfl

namespace StoredSettings

open Settings.Reader (IsName IsValue isName_of_isWord isValue_of_isWord)

def flagSpellings : Bool → List String
  | true => ["1", "true", "on", "yes"]
  | false => ["0", "false", "off", "no"]

theorem readFlag_eq_ok_iff {text : String} {on : Bool} :
    readFlag text = .ok on ↔ Text.lower (Text.trim text) ∈ flagSpellings on := by
  rw [readFlag]
  constructor
  · intro read
    split at read <;> cases read
    all_goals simp [*, flagSpellings]
  · intro spelled
    cases on <;> simp only [flagSpellings, List.mem_cons, List.not_mem_nil, or_false] at spelled <;>
      obtain h | h | h | h := spelled <;> simp [h]

theorem readLevel_eq_ok_iff {text : String} {t : Threshold} :
    readLevel text = .ok t ↔ Text.lower (Text.trim text) = t.name := by
  rw [readLevel, ← Threshold.ofName?_eq_some_iff]
  cases Threshold.ofName? (Text.trim text) <;> simp

inductive Key where
  | mode
  | host
  | port
  | keepConsole
  | maxLevel
deriving DecidableEq

def Key.name : Key → String
  | mode => "net_log_type"
  | host => "net_log_host"
  | port => "net_log_port"
  | keepConsole => "net_log_stdout"
  | maxLevel => "net_log_level"

inductive Field where
  | mode (m : LogMode)
  | host (h : String)
  | port (n : UInt16)
  | keepConsole (on : Bool)
  | maxLevel (t : Threshold)
deriving DecidableEq

namespace Field

def key : Field → Key
  | mode _ => .mode
  | host _ => .host
  | port _ => .port
  | keepConsole _ => .keepConsole
  | maxLevel _ => .maxLevel

def Spelled : Field → String → Prop
  | mode m, text => Text.lower text ∈ m.spellings
  | host h, text => text = h ∧ IsValue h.toList ∧ h.utf8ByteSize ≤ maxHostLength
  | port n, text => n ≠ 0 ∧ Text.Decimal text.toList n.toNat
  | keepConsole on, text => Text.lower text ∈ flagSpellings on
  | maxLevel t, text => Text.lower text = t.name

instance : (f : Field) → (text : String) → Decidable (f.Spelled text)
  | mode m, text => inferInstanceAs (Decidable (Text.lower text ∈ m.spellings))
  | host h, text => inferInstanceAs (Decidable (text = h ∧ IsValue h.toList ∧
      h.utf8ByteSize ≤ maxHostLength))
  | port n, text => inferInstanceAs (Decidable (n ≠ 0 ∧ Text.Decimal text.toList n.toNat))
  | keepConsole on, text => inferInstanceAs (Decidable (Text.lower text ∈ flagSpellings on))
  | maxLevel t, text => inferInstanceAs (Decidable (Text.lower text = t.name))

end Field

def field (s : StoredSettings) : Key → Field
  | .mode => .mode s.mode
  | .host => .host s.host
  | .port => .port s.port
  | .keepConsole => .keepConsole s.keepConsole
  | .maxLevel => .maxLevel s.maxLevel

theorem isWord_of_spelling {m : LogMode} : ∀ w ∈ m.spellings, Text.IsWord w.toList := by
  cases m <;> decide

theorem isWord_of_flagSpelling {on : Bool} : ∀ w ∈ flagSpellings on, Text.IsWord w.toList := by
  cases on <;> decide

theorem isWord_of_level (t : Threshold) : Text.IsWord t.name.toList := by
  obtain _ | level := t
  · decide
  · cases level <;> decide

theorem isWord_of_key (k : Key) : Text.IsWord k.name.toList := by
  cases k <;> decide

theorem Key.name_inj {k l : Key} : k.name = l.name ↔ k = l := by
  cases k <;> cases l <;> decide

theorem Field.Spelled.isValue {f : Field} {text : String} (spelled : f.Spelled text) :
    IsValue text.toList := by
  cases f with
  | mode =>
    exact isValue_of_isWord (Text.isWord_of_lower (isWord_of_spelling _ spelled))
  | host =>
    obtain ⟨rfl, isValue, -⟩ := spelled
    exact isValue
  | port => exact isValue_of_isWord spelled.2.isWord
  | keepConsole =>
    exact isValue_of_isWord (Text.isWord_of_lower (isWord_of_flagSpelling _ spelled))
  | maxLevel t =>
    have word : Text.IsWord (Text.lower text).toList := by
      rw [show Text.lower text = t.name from spelled]
      exact isWord_of_level t
    exact isValue_of_isWord (Text.isWord_of_lower word)

theorem readHost_eq {text : String} (bare : Text.Bare text.toList) (nonempty : text.toList ≠ [])
    (short : text.utf8ByteSize ≤ maxHostLength) : readHost text = .ok text := by
  have checked : checkHost text = .ok () := by
    rw [checkHost, bare.trimChars_eq, if_neg (by simpa using nonempty),
      if_neg (Nat.not_lt.mpr short)]
  rw [readHost, checked, bare.trim_eq]
  rfl

theorem readPort_of_decimal {text : String} {n : UInt16} (positive : n ≠ 0)
    (decimal : Text.Decimal text.toList n.toNat) : readPort text = .ok n := by
  have read := decimal.readUnsigned_eq (Nat.le_of_lt_succ n.toNat_lt)
  rw [readPort, decimal.isWord.bare.trimChars_eq, read]
  cases number : n.toNat with
  | zero => exact absurd (UInt16.toNat_inj.mp number) positive
  | succ m => simp [← number]

def Key.read : Key → String → Except Objection Field
  | mode, text => (LogMode.ofText text).map .mode
  | host, text => (readHost text).map .host
  | port, text => (readPort text).map .port
  | keepConsole, text => (readFlag text).map .keepConsole
  | maxLevel, text => (readLevel text).map .maxLevel

theorem Field.Spelled.read_eq {f : Field} {text : String} (spelled : f.Spelled text) :
    f.key.read text = .ok f := by
  have isValue := spelled.isValue
  have bare := isValue.bare
  cases f with
  | mode m =>
    have read : LogMode.ofText text = .ok m :=
      LogMode.ofText_eq_ok_iff.mpr (by rwa [bare.trim_eq])
    simp [key, Key.read, read, Except.map]
  | host h =>
    obtain ⟨rfl, -, short⟩ := spelled
    simp [key, Key.read, readHost_eq bare isValue.nonempty short, Except.map]
  | port n => simp [key, Key.read, readPort_of_decimal spelled.1 spelled.2, Except.map]
  | keepConsole on =>
    have read : readFlag text = .ok on := readFlag_eq_ok_iff.mpr (by rwa [bare.trim_eq])
    simp [key, Key.read, read, Except.map]
  | maxLevel t =>
    have read : readLevel text = .ok t := readLevel_eq_ok_iff.mpr (by rwa [bare.trim_eq])
    simp [key, Key.read, read, Except.map]

def Key.readFrom (s : Settings.Section) (k : Key) : Except Objection Field :=
  entry s k.name (standard.field k) k.read

theorem entry_of_map {α β : Type} (make : α → β) {s : Settings.Section} {key : String} {default : α}
    {read : String → Except Objection α} {field : β}
    (h : entry s key (make default) (fun text => (read text).map make) = .ok field) :
    ∃ a, entry s key default read = .ok a ∧ make a = field := by
  cases found : s.get? key with
  | none =>
    simp only [entry, found] at h ⊢
    exact ⟨default, rfl, Except.ok.inj h⟩
  | some text =>
    simp only [entry, found] at h ⊢
    cases answer : read text with
    | error => simp [answer, Except.map] at h
    | ok a => exact ⟨a, rfl, by simpa [answer, Except.map] using h⟩

theorem ofSection_of_readFrom {s : Settings.Section} {fields : Key → Field}
    (read : ∀ k : Key, k.readFrom s = .ok (fields k)) :
    ∃ settings, ofSection s = .ok settings ∧ ∀ k, settings.field k = fields k := by
  have hmode : ∃ a, entry s "net_log_type" standard.mode LogMode.ofText = .ok a ∧
      .mode a = fields .mode := entry_of_map Field.mode (read .mode)
  have hhost : ∃ a, entry s "net_log_host" standard.host readHost = .ok a ∧
      .host a = fields .host := entry_of_map Field.host (read .host)
  have hport : ∃ a, entry s "net_log_port" standard.port readPort = .ok a ∧
      .port a = fields .port := entry_of_map Field.port (read .port)
  have hkeep : ∃ a, entry s "net_log_stdout" standard.keepConsole readFlag = .ok a ∧
      .keepConsole a = fields .keepConsole := entry_of_map Field.keepConsole (read .keepConsole)
  have hlevel : ∃ a, entry s "net_log_level" standard.maxLevel readLevel = .ok a ∧
      .maxLevel a = fields .maxLevel := entry_of_map Field.maxLevel (read .maxLevel)
  obtain ⟨mode, read_mode, mode_eq⟩ := hmode
  obtain ⟨host, read_host, host_eq⟩ := hhost
  obtain ⟨port, read_port, port_eq⟩ := hport
  obtain ⟨keep, read_keep, keep_eq⟩ := hkeep
  obtain ⟨level, read_level, level_eq⟩ := hlevel
  refine ⟨⟨mode, host, port, keep, level⟩, ?_, ?_⟩
  · rw [ofSection, read_mode, read_host, read_port, read_keep, read_level]
    rfl
  · rintro (_ | _)
    all_goals assumption

def block (fields : List (Field × String)) : Settings.Section :=
  ⟨some sectionName, fields.map fun e => (e.1.key.name, e.2)⟩

/-- The value of a key after these fields: the first one given for it, or else the default. -/
def written (fields : List (Field × String)) (k : Key) : Field :=
  ((fields.find? (·.1.key == k)).map (·.1)).getD (standard.field k)

theorem get?_block (fields : List (Field × String)) (k : Key) :
    (block fields).get? k.name = (fields.find? (·.1.key == k)).map (·.2) := by
  have same : (fun e : String × String => e.1 == k.name) ∘
      (fun e : Field × String => (e.1.key.name, e.2)) = fun e => e.1.key == k := by
    funext e
    rw [Bool.eq_iff_iff]
    simp [Key.name_inj]
  simp only [Settings.Section.get?, block, List.find?_map, same, Option.map_map]
  rfl

theorem readFrom_block {fields : List (Field × String)} (spelled : ∀ e ∈ fields, e.1.Spelled e.2)
    (k : Key) : k.readFrom (block fields) = .ok (written fields k) := by
  rw [Key.readFrom, entry, get?_block, written]
  -- The section and `written` both go by the first field of the key.
  cases found : fields.find? (·.1.key == k) with
  | none => rfl
  | some e =>
    obtain rfl : e.1.key = k := by simpa using List.find?_some found
    exact (spelled e (List.mem_of_find?_eq_some found)).read_eq

theorem written_of_mem {fields : List (Field × String)} (once : (fields.map (·.1.key)).Nodup)
    {e : Field × String} (he : e ∈ fields) : written fields e.1.key = e.1 := by
  have found : (fields.find? (·.1.key == e.1.key)).isSome := by
    rw [List.find?_isSome]
    exact ⟨e, he, beq_self_eq_true _⟩
  obtain ⟨first, found⟩ := Option.isSome_iff_exists.mp found
  have same : first.1.key = e.1.key := by simpa using List.find?_some found
  obtain rfl := List.inj_on_of_nodup_map once (List.mem_of_find?_eq_some found) he same
  rw [written, found]
  rfl

theorem written_of_not_mem {fields : List (Field × String)} {k : Key}
    (absent : k ∉ fields.map (·.1.key)) : written fields k = standard.field k := by
  have unfound : fields.find? (·.1.key == k) = none := by
    rw [List.find?_eq_none]
    intro e he same
    exact absent (List.mem_map.mpr ⟨e, he, by simpa using same⟩)
  rw [written, unfound]
  rfl

theorem isWord_of_sectionName : Text.IsWord sectionName.toList := by decide

theorem plain_block {fields : List (Field × String)} (spelled : ∀ e ∈ fields, e.1.Spelled e.2) :
    (block fields).Plain where
  named := ⟨sectionName, rfl, isName_of_isWord isWord_of_sectionName⟩
  entries := by
    simp only [block, List.mem_map]
    rintro _ ⟨e, he, rfl⟩
    exact ⟨isWord_of_key _, (spelled e he).isValue⟩

structure Foreign (s : Settings.Section) : Prop where
  named : ∃ name, s.name = some name ∧ name ≠ sectionName ∧ IsName name.toList
  entries : ∀ e ∈ s.entries, Text.IsWord e.1.toList ∧ Text.IsWord e.2.toList

theorem Foreign.plain {s : Settings.Section} (foreign : Foreign s) : s.Plain where
  named := by
    obtain ⟨name, named, -, isName⟩ := foreign.named
    exact ⟨name, named, isName⟩
  entries e he := (foreign.entries e he).imp_right isValue_of_isWord

theorem Foreign.name_ne {s : Settings.Section} (foreign : Foreign s) :
    s.name ≠ some sectionName := by
  obtain ⟨name, named, other, -⟩ := foreign.named
  rw [named]
  exact fun same => other (Option.some.inj same)

theorem section?_block {before after : Settings.Document} (foreign : ∀ s ∈ before, Foreign s)
    (fields : List (Field × String)) :
    Settings.Document.section? (⟨none, []⟩ :: (before ++ block fields :: after)) sectionName =
      some (block fields) := by
  have passed : before.find? (·.name == some sectionName) = none := by
    rw [List.find?_eq_none]
    intro s hs same
    exact (foreign s hs).name_ne (by simpa using same)
  simp [Settings.Document.section?, passed, block]

/-- Settings that are written line by line are read back: each key that is given has the value
written for it and each other key its default, whatever sections stand before and after. -/
theorem ofText_written {fields : List (Field × String)} (spelled : ∀ e ∈ fields, e.1.Spelled e.2)
    (once : (fields.map (·.1.key)).Nodup) {before after : Settings.Document}
    (foreign : ∀ s ∈ before ++ after, Foreign s) {text : String}
    (laid : Settings.Laid ((before ++ block fields :: after).flatMap Settings.Section.rows)
      text.toList) :
    ∃ settings, ofText text = .ok settings ∧ (∀ e ∈ fields, settings.field e.1.key = e.1) ∧
      ∀ k, k ∉ fields.map (·.1.key) → settings.field k = standard.field k := by
  rw [List.forall_mem_append] at foreign
  have plain : ∀ s ∈ before ++ block fields :: after, s.Plain := by
    rw [List.forall_mem_append, List.forall_mem_cons]
    exact ⟨fun s hs => (foreign.1 s hs).plain, plain_block spelled,
      fun s hs => (foreign.2 s hs).plain⟩
  obtain ⟨settings, read, values⟩ := ofSection_of_readFrom (readFrom_block spelled)
  refine ⟨settings, ?_, ?_, ?_⟩
  · rw [ofText, Settings.Document.ofText_laid plain laid]
    simp [ofDocument, section?_block foreign.1, read, Except.mapError]
  · intro e he
    rw [values, written_of_mem once he]
  · intro k absent
    rw [values, written_of_not_mem absent]

theorem ofText_written_of_mixed_lines :
    let text := "[wifi]\nssid = attic\r\n\n[net_logging]\nnet_log_host = [fe80::1];a=b #2\n" ++
      "net_log_type = Tcp\nnet_log_port = 0514\n[wifi]\nband = 5"
    ∃ settings, ofText text = .ok settings ∧
      settings.field .host = .host "[fe80::1];a=b #2" ∧ settings.field .mode = .mode .tcp ∧
      settings.field .port = .port 514 ∧ settings.field .maxLevel = standard.field .maxLevel := by
  intro text
  let fields : List (Field × String) :=
    [(.host "[fe80::1];a=b #2", "[fe80::1];a=b #2"), (.mode .tcp, "Tcp"), (.port 514, "0514")]
  let before : Settings.Section := ⟨some "wifi", [("ssid", "attic")]⟩
  let after : Settings.Section := ⟨some "wifi", [("band", "5")]⟩
  have spelled : ∀ e ∈ fields, e.1.Spelled e.2 := by decide
  have foreign : ∀ s ∈ [before] ++ [after], Foreign s := by
    have isName : IsName "wifi".toList :=
      isName_of_isWord (by decide)
    have isForeign : Foreign before ∧ Foreign after :=
      ⟨⟨⟨"wifi", rfl, by decide, isName⟩, by decide⟩, ⟨"wifi", rfl, by decide, isName⟩, by decide⟩
    simpa using isForeign
  let lines : List (Settings.Row × List Char) :=
    [(.header "wifi", ['\n']), (.entry "ssid" "attic", ['\r', '\n', '\n']),
      (.header sectionName, ['\n']), (.entry "net_log_host" "[fe80::1];a=b #2", ['\n']),
      (.entry "net_log_type" "Tcp", ['\n']), (.entry "net_log_port" "0514", ['\n']),
      (.header "wifi", ['\n']), (.entry "band" "5", [])]
  have laid : Settings.Laid (([before] ++ block fields :: [after]).flatMap Settings.Section.rows)
      text.toList := by
    have same : text.toList = lines.flatMap fun line => line.1.text ++ line.2 := by
      decide +kernel
    rw [same]
    have lay : Settings.Laid (lines.map (·.1)) _ :=
      Settings.laid_of_lines (by simp [lines, Settings.Reader.isBreak]) (by simp [lines])
    exact lay
  obtain ⟨settings, read, given, missing⟩ := ofText_written spelled (by decide) foreign laid
  exact ⟨settings, read, given (.host _, "[fe80::1];a=b #2") (by decide),
    given (.mode _, "Tcp") (by decide), given (.port _, "0514") (by decide),
    missing .maxLevel (by decide)⟩

end StoredSettings

end LogRelay
