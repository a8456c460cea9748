/-!
White space at the ends of a text, and the letters A to Z in lower case. Settings and host names
are compared after both.
-/

namespace LogRelay.Text

def isBlank (c : Char) : Bool :=
  let n := c.toNat
  (9 ≤ n && n ≤ 13) || n == 0x20 || n == 0x85 || n == 0xA0 || n == 0x1680 ||
    (0x2000 ≤ n && n ≤ 0x200A) || n == 0x2028 || n == 0x2029 || n == 0x202F ||
    n == 0x205F || n == 0x3000

def trimLeft (cs : List Char) : List Char :=
  cs.dropWhile isBlank

def trimRight (cs : List Char) : List Char :=
  (trimLeft cs.reverse).reverse

def trimChars (cs : List Char) : List Char :=
  trimRight (trimLeft cs)

def trim (s : String) : String :=
  String.ofList (trimChars s.toList)

/-- Only A to Z have a lower case here; other letters stay as they are. -/
def lower (s : String) : String :=
  String.ofList (s.toList.map Char.toLower)

end LogRelay.Text
