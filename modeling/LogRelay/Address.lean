import LogRelay.Text.Number

/-!
Internet addresses and their text: four decimal octets, or eight hexadecimal groups of which the
longest run of zeros is left out.
-/

namespace LogRelay

inductive IpAddress where
  | v4 (a b c d : UInt8)
  | v6 (groups : Vector UInt16 8)
deriving DecidableEq

structure SocketAddress where
  ip : IpAddress
  port : UInt16
deriving DecidableEq

namespace IpAddress

/-- Reads one to `most` digits of a base from the front; a further digit is an error. -/
def readNumber (base most : Nat) (cs : List Char) : Option (Nat × List Char) :=
  let digits := cs.takeWhile fun c => (Text.digitValue base c).isSome
  if digits.isEmpty || digits.length > most then none
  else (Text.readDigits base 0 digits).map fun n => (n, cs.drop digits.length)

/-- One octet: at most three decimal digits, up to 255, and no zero before another digit. -/
def readOctet (cs : List Char) : Option (UInt8 × List Char) :=
  match readNumber 10 3 cs with
  | none => none
  | some (n, rest) =>
    if n > 255 || (cs.head? == some '0' && cs.length - rest.length > 1) then none
    else some (UInt8.ofNat n, rest)

def readMark (mark : Char) : List Char → Option (List Char)
  | c :: rest => if c = mark then some rest else none
  | [] => none

def readV4 (cs : List Char) : Option ((UInt8 × UInt8 × UInt8 × UInt8) × List Char) := do
  let (a, cs) ← readOctet cs
  let (b, cs) ← readOctet (← readMark '.' cs)
  let (c, cs) ← readOctet (← readMark '.' cs)
  let (d, cs) ← readOctet (← readMark '.' cs)
  pure ((a, b, c, d), cs)

def joinOctets (high low : UInt8) : UInt16 :=
  high.toUInt16 * 256 + low.toUInt16

/-- Reads up to `room` groups with colons between them. Where two or more fit, an address of four
octets may stand for the last two, and ends the run. `first` says that no colon comes before. -/
def readGroups : Nat → Bool → List Char → List UInt16 × Bool × List Char
  | 0, _, cs => ([], false, cs)
  | room + 1, first, cs =>
    match if first then some cs else readMark ':' cs with
    | none => ([], false, cs)
    | some inner =>
      match if room > 0 then readV4 inner else none with
      | some ((a, b, c, d), rest) => ([joinOctets a b, joinOctets c d], true, rest)
      | none =>
        match readNumber 16 4 inner with
        | none => ([], false, cs)
        | some (n, rest) =>
          let (groups, ended, rest) := readGroups room false rest
          (UInt16.ofNat n :: groups, ended, rest)

def ofGroups (groups : List UInt16) : Option IpAddress :=
  if h : groups.toArray.size = 8 then some (.v6 ⟨groups.toArray, h⟩) else none

/-- Eight groups, or fewer around one double colon that stands for at least one zero group. -/
def readV6 (cs : List Char) : Option (IpAddress × List Char) := do
  let (front, ended, rest) := readGroups 8 true cs
  if front.length = 8 then
    (ofGroups front).map (·, rest)
  else if ended then none
  else
    let rest ← readMark ':' (← readMark ':' rest)
    let (back, _, rest) := readGroups (7 - front.length) true rest
    let zeros := List.replicate (8 - front.length - back.length) 0
    (ofGroups (front ++ zeros ++ back)).map (·, rest)

def ofText? (s : String) : Option IpAddress :=
  let cs := s.toList
  match readV4 cs with
  | some ((a, b, c, d), []) => some (.v4 a b c d)
  | _ =>
    match readV6 cs with
    | some (address, []) => some address
    | _ => none

def textV4 (a b c d : UInt8) : String :=
  s!"{a.toNat}.{b.toNat}.{c.toNat}.{d.toNat}"

def zeroRun : List UInt16 → Nat
  | [] => 0
  | g :: rest => if g = 0 then zeroRun rest + 1 else 0

/-- Where the first of the longest runs of zeros begins, and its length; `passed` counts the groups
before this one. -/
def longestZeroRun (passed : Nat) : List UInt16 → Nat × Nat
  | [] => (passed, 0)
  | g :: rest =>
    let here := zeroRun (g :: rest)
    let (start, length) := longestZeroRun (passed + 1) rest
    if here ≥ length then (passed, here) else (start, length)

def textGroups (groups : List UInt16) : String :=
  String.intercalate ":" (groups.map fun g => String.ofList (Nat.toDigits 16 g.toNat))

def textV6 (groups : List UInt16) : String :=
  match groups with
  | [0, 0, 0, 0, 0, 0xFFFF, high, low] =>
    "::ffff:" ++ textV4 (high / 256).toUInt8 (high % 256).toUInt8 (low / 256).toUInt8
      (low % 256).toUInt8
  | _ =>
    let (start, length) := longestZeroRun 0 groups
    if length > 1 then
      textGroups (groups.take start) ++ "::" ++ textGroups (groups.drop (start + length))
    else textGroups groups

def text : IpAddress → String
  | v4 a b c d => textV4 a b c d
  | v6 groups => textV6 groups.toList

def isV4 : IpAddress → Bool
  | v4 .. => true
  | v6 _ => false

def loopback : IpAddress :=
  v4 127 0 0 1

end IpAddress

namespace SocketAddress

def text (a : SocketAddress) : String :=
  match a.ip with
  | .v4 .. => s!"{a.ip.text}:{a.port.toNat}"
  | .v6 _ => s!"[{a.ip.text}]:{a.port.toNat}"

def ofText? (s : String) : Option SocketAddress :=
  let cs := s.toList
  let (host, port) := match cs with
    | '[' :: rest =>
      (rest.takeWhile (· ≠ ']'), (rest.dropWhile (· ≠ ']')).drop 2)
    | _ => (cs.takeWhile (· ≠ ':'), (cs.dropWhile (· ≠ ':')).drop 1)
  match IpAddress.ofText? (String.ofList host), Text.readUnsigned 10 65535 port with
  | some ip, some n => some ⟨ip, UInt16.ofNat n⟩
  | _, _ => none

end SocketAddress

end LogRelay
