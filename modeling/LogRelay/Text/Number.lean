/-!
Unsigned numbers as settings and escapes write them: digits of a base after at most one plus.
-/

namespace LogRelay.Text

def digitValue (base : Nat) (c : Char) : Option Nat :=
  let d :=
    if '0' ≤ c ∧ c ≤ '9' then some (c.toNat - '0'.toNat)
    else if 'a' ≤ c ∧ c ≤ 'z' then some (c.toNat - 'a'.toNat + 10)
    else if 'A' ≤ c ∧ c ≤ 'Z' then some (c.toNat - 'A'.toNat + 10)
    else none
  d.filter (· < base)

def readDigits (base : Nat) : Nat → List Char → Option Nat
  | n, [] => some n
  | n, c :: rest => (digitValue base c).bind fun d => readDigits base (n * base + d) rest

/-- The number, if the text is at least one digit after at most one plus and the number is at
most `limit`. -/
def readUnsigned (base limit : Nat) (cs : List Char) : Option Nat :=
  let digits := match cs with
    | '+' :: rest => rest
    | _ => cs
  if digits.isEmpty then none else (readDigits base 0 digits).filter (· ≤ limit)

end LogRelay.Text
