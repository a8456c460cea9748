import LogRelay.Text.Printable

/-!
A text between double quotes, as messages show the values they complain about.
-/

namespace LogRelay.Text

def hexDigits (n : Nat) : String :=
  String.ofList (Nat.toDigits 16 n)

def escapeChar (c : Char) : String :=
  if c = '\x00' then "\\0"
  else if c = '\t' then "\\t"
  else if c = '\r' then "\\r"
  else if c = '\n' then "\\n"
  else if c = '"' then "\\\""
  else if c = '\\' then "\\\\"
  else if isPrintable c then c.toString
  else "\\u\x7b" ++ hexDigits c.toNat ++ "\x7d"

def quoted (s : String) : String :=
  "\"" ++ String.join (s.toList.map escapeChar) ++ "\""

/-- One character between single quotes, where a single quote is escaped instead of a double one. -/
def quotedChar (c : Char) : String :=
  let inner := if c = '\'' then "\\'" else if c = '"' then "\"" else escapeChar c
  "'" ++ inner ++ "'"

end LogRelay.Text
