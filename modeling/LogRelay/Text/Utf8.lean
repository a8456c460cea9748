/-!
UTF-8 read octet by octet. Each longest start of a sequence that no well-formed text contains
counts as one unreadable place, so reading never stops.
-/

namespace LogRelay

abbrev Bytes := List UInt8

def bytesOf (s : String) : Bytes :=
  s.toByteArray.data.toList

namespace Utf8

/-- A sequence begun and not finished: how many octets it lacks, the bounds of the next one, and
the number read so far. -/
structure Pending where
  missing : Nat
  low : Nat
  high : Nat
  value : Nat
deriving DecidableEq

inductive Start where
  | char (c : Char)
  | lead (p : Pending)
  | bad

/-- After E0, ED, F0 and F4 the second octet has narrower bounds, which keep out overlong forms,
surrogates and numbers past the last code point. -/
def start (b : UInt8) : Start :=
  let n := b.toNat
  if n < 0x80 then .char (Char.ofNat n)
  else if n < 0xC2 then .bad
  else if n < 0xE0 then .lead ⟨1, 0x80, 0xBF, n - 0xC0⟩
  else if n = 0xE0 then .lead ⟨2, 0xA0, 0xBF, 0⟩
  else if n = 0xED then .lead ⟨2, 0x80, 0x9F, 0xD⟩
  else if n < 0xF0 then .lead ⟨2, 0x80, 0xBF, n - 0xE0⟩
  else if n = 0xF0 then .lead ⟨3, 0x90, 0xBF, 0⟩
  else if n < 0xF4 then .lead ⟨3, 0x80, 0xBF, n - 0xF0⟩
  else if n = 0xF4 then .lead ⟨3, 0x80, 0x8F, 4⟩
  else .bad

/-- The characters of the octets, with `none` for each unreadable place. -/
def decode : Option Pending → Bytes → List (Option Char)
  | none, [] => []
  | some _, [] => [none]
  | none, b :: rest =>
    match start b with
    | .char c => some c :: decode none rest
    | .lead p => decode (some p) rest
    | .bad => none :: decode none rest
  | some p, b :: rest =>
    let n := b.toNat
    if p.low ≤ n ∧ n ≤ p.high then
      let value := p.value * 64 + (n - 0x80)
      if p.missing ≤ 1 then some (Char.ofNat value) :: decode none rest
      else decode (some ⟨p.missing - 1, 0x80, 0xBF, value⟩) rest
    else
      match start b with
      | .char c => none :: some c :: decode none rest
      | .lead q => none :: decode (some q) rest
      | .bad => none :: none :: decode none rest

def lossy (bs : Bytes) : String :=
  String.ofList ((decode none bs).map (·.getD '\uFFFD'))

def text? (bs : Bytes) : Option String :=
  ((decode none bs).mapM id).map String.ofList

end Utf8

end LogRelay
